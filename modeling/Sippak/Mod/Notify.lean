/-
  File:      Sippak/Mod/Notify.lean
  Subject:   WHAT NOTIFY SENDS (notify.c): `add_event_hdr`, `add_content_type_hdr` and
             `add_body_msg`, and the length of the message-summary body.

  The bodies of the other content types are made by pjsip (`SimpleLib`). The message-summary is
  printed with `snprintf` into 2048 bytes on the stack, and the length that is recorded for the
  body is the result of `snprintf`: what the whole text would take. A body that is longer than
  the buffer is read past its end (`.outOfBounds`).

  * `addBodyMsg_mwi` -- the message-summary, by the length of its text;
  * `mwi_body_exact_iff` -- **when the body is what was written**: the text is shorter than the
    buffer.
-/
import Sippak.Lib.Printf
import Sippak.Mod.Request
import Sippak.Options

namespace Sippak

open CStr

/-! ## 1. The message -/

def SIPMSG_BODY_LEN : Nat := 2048

/-- `pjrpid_activity`, the two values the program uses. -/
inductive RpidActivity where
  | PJRPID_ACTIVITY_UNKNOWN | PJRPID_ACTIVITY_BUSY
  deriving DecidableEq, Repr

/-- `pjsip_pres_status` with its one entry. -/
structure PresStatus where
  basicOpen : Bool
  id : PjStr
  note : PjStr
  activity : RpidActivity
  deriving DecidableEq, Repr

/-- `pjsip_msg_body`. -/
structure MsgBody where
  type : PjStr
  subtype : PjStr
  data : CStr
  deriving DecidableEq, Repr

/-- The part of the request the module fills in. -/
structure NotifyMsg where
  hdrs : List GenericHdr
  body : Option MsgBody
  deriving DecidableEq, Repr

/-- What the module uses of pjsip and pjsip-simple. -/
structure SimpleLib where
  /-- `pjsip_media_type_print`; `none` is -1. -/
  mediaTypePrint : MediaType → (size : Nat) → Option CStr
  presCreatePidf : PresStatus → (entity : PjStr) → Except PjStatus MsgBody
  presCreateXpidf : PresStatus → (entity : PjStr) → Except PjStatus MsgBody

namespace Notify

def NAME : CStr := RequestMod.NAME .notify

/-- `add_event_hdr`. -/
def addEventHdr (msg : NotifyMsg) (app : App) : NotifyMsg × App :=
  let app : App :=
    if (app.cfg.ctypeE = .CTYPE_PIDF ∨ app.cfg.ctypeE = .CTYPE_XPIDF) ∧
        app.cfg.presEv = .EVTYPE_UNKNOWN then
      { app with cfg := { app.cfg with presEv := .EVTYPE_PRES } }
    else app
  let hvalue : PjStr :=
    match app.cfg.presEv with
    | .EVTYPE_UNKNOWN => some "keep-alive".toList
    | .EVTYPE_PRES => some "presence".toList
    | .EVTYPE_MWI => some "message-summary".toList
    | .EVTYPE_OTHER => app.cfg.event
  ({ msg with hdrs := msg.hdrs ++ [⟨"Event".toList, hvalue.text⟩] }, app)

/-- `add_content_type_hdr`. -/
def addContentTypeHdr (lib : SimpleLib) (msg : NotifyMsg) (app : App) : NotifyMsg × App :=
  if app.cfg.ctypeE = .CTYPE_UNKNOWN then (msg, app)
  else match lib.mediaTypePrint app.cfg.ctypeMedia 512 with
    | none =>
      (msg, app.pjLog 1 NAME
        "Failed to allocate memory for content-type header value.".toList)
    | some hvalue => ({ msg with hdrs := msg.hdrs ++ [⟨"Content-Type".toList, hvalue⟩] }, app)

/-- The text the format of `add_body_msg` stands for. -/
def mwiText (cfg : Cfg) : CStr :=
  "Messages-Waiting: ".toList ++ (if 0 < cfg.mwi[0] then "yes".toList else "no".toList) ++
    "\r\nMessage-Account: ".toList ++ upToNul cfg.mwiAcc.text ++
    "\r\nVoice-Message: ".toList ++ showSigned cfg.mwi[0] ++ "/".toList ++ showSigned cfg.mwi[1] ++
    " (".toList ++ showSigned cfg.mwi[2] ++ "/".toList ++ showSigned cfg.mwi[3] ++ ")\r\n".toList

/-- The first `slen` bytes of a buffer, where its first bytes are `stored` and nothing is known
    to be behind them. -/
def readBuf (stored : CStr) (slen : Nat) : Except Abort CStr :=
  if slen ≤ stored.length then .ok (stored.take slen) else .error .outOfBounds

/-- `add_body_msg`. -/
def addBodyMsg (lib : SimpleLib) (msg : NotifyMsg) (app : App) : Except Abort (NotifyMsg × App) :=
  let presStatus : PresStatus :=
    ⟨app.cfg.presStatusOpen, app.cfg.dest, app.cfg.presNote,
      if app.cfg.presStatusOpen then .PJRPID_ACTIVITY_UNKNOWN else .PJRPID_ACTIVITY_BUSY⟩
  if app.cfg.isMwi then
    let (buf, slen) := snprintf SIPMSG_BODY_LEN (mwiText app.cfg)
    match readBuf buf slen with
    | .error e => .error e
    | .ok data =>
      .ok ({ msg with
        body := some ⟨app.cfg.ctypeMedia.type, app.cfg.ctypeMedia.subtype, data⟩ }, app)
  else if app.cfg.ctypeE = .CTYPE_PIDF then
    match lib.presCreatePidf presStatus app.cfg.dest with
    | .error _ => .ok (msg, app.pjLog 2 NAME "Failed to create PIDF body.".toList)
    | .ok body => .ok ({ msg with body := some body }, app)
  else if app.cfg.ctypeE = .CTYPE_XPIDF then
    match lib.presCreateXpidf presStatus app.cfg.dest with
    | .error _ => .ok (msg, app.pjLog 2 NAME "Failed to create XPIDF body.".toList)
    | .ok body => .ok ({ msg with body := some body }, app)
  else .ok (addContentTypeHdr lib msg app)

/-! ## 2. The length of the message-summary -/

/-- What the body takes: the fixed parts of the format and the six variable ones. -/
def mwiSize (cfg : Cfg) : Nat :=
  61 + (if 0 < cfg.mwi[0] then 3 else 2) + (upToNul cfg.mwiAcc.text).length +
    (showSigned cfg.mwi[0]).length + (showSigned cfg.mwi[1]).length +
    (showSigned cfg.mwi[2]).length + (showSigned cfg.mwi[3]).length

theorem mwiText_length (cfg : Cfg) : (mwiText cfg).length = mwiSize cfg := by
  have h₁ : "Messages-Waiting: ".toList.length = 18 := by decide
  have h₂ : "\r\nMessage-Account: ".toList.length = 19 := by decide
  have h₃ : "\r\nVoice-Message: ".toList.length = 17 := by decide
  have h₄ : "/".toList.length = 1 := rfl
  have h₅ : " (".toList.length = 2 := rfl
  have h₆ : ")\r\n".toList.length = 3 := rfl
  have h₇ : (if 0 < cfg.mwi[0] then "yes".toList else "no".toList).length =
      if 0 < cfg.mwi[0] then 3 else 2 := by split <;> rfl
  unfold mwiText mwiSize
  simp only [List.length_append, h₁, h₂, h₃, h₄, h₅, h₆, h₇]
  omega

/-- The text ends with a line feed. -/
theorem mwiText_getLast? (cfg : Cfg) : (mwiText cfg).getLast? = some '\n' := by
  unfold mwiText
  rw [List.getLast?_append_of_ne_nil _ (by decide)]
  rfl

/-- **What `snprintf` stores and what it returns**: its result is the length of the bytes stored
    only where they are all of the text. -/
theorem readBuf_snprintf {size : Nat} (hsize : 0 < size) (text : CStr) :
    readBuf (snprintf size text).1 (snprintf size text).2 =
      if text.length < size then .ok text
      else if text.length = size then .ok (text.take (size - 1) ++ ['\x00'])
      else .error .outOfBounds := by
  unfold readBuf snprintf
  rw [if_neg (Nat.pos_iff_ne_zero.mp hsize)]
  dsimp only
  by_cases hlt : text.length < size
  · have hall : text.take (size - 1) = text := List.take_of_length_le (by omega)
    rw [hall, if_pos hlt, if_pos (by rw [List.length_append]; omega), List.take_left]
  · have hlen : (text.take (size - 1) ++ ['\x00']).length = size := by
      rw [List.length_append, List.length_take, List.length_singleton]
      omega
    rw [hlen, if_neg hlt]
    by_cases heq : text.length = size
    · rw [if_pos heq, if_pos (Nat.le_of_eq heq), List.take_of_length_le (by omega)]
    · rw [if_neg heq, if_neg (by omega)]

theorem addBodyMsg_mwi (lib : SimpleLib) (msg : NotifyMsg) {app : App}
    (hmwi : app.cfg.isMwi = true) :
    addBodyMsg lib msg app =
      match readBuf (snprintf SIPMSG_BODY_LEN (mwiText app.cfg)).1
        (snprintf SIPMSG_BODY_LEN (mwiText app.cfg)).2 with
      | .error e => .error e
      | .ok data =>
        .ok ({ msg with
          body := some ⟨app.cfg.ctypeMedia.type, app.cfg.ctypeMedia.subtype, data⟩ }, app) := by
  unfold addBodyMsg
  dsimp only
  rw [if_pos hmwi]

/-- **The body is the text that was written**, or the start of it, exactly when the whole text is
    shorter than the buffer. -/
theorem mwi_body_exact_iff (lib : SimpleLib) (msg : NotifyMsg) (app : App)
    (hmwi : app.cfg.isMwi = true) :
    (∃ msg' app' body, addBodyMsg lib msg app = .ok (msg', app') ∧ msg'.body = some body ∧
        body.data <+: mwiText app.cfg) ↔ mwiSize app.cfg < SIPMSG_BODY_LEN := by
  have hread := readBuf_snprintf (by decide : 0 < SIPMSG_BODY_LEN) (mwiText app.cfg)
  have hlen := mwiText_length app.cfg
  rw [addBodyMsg_mwi lib msg hmwi, hread, hlen]
  by_cases hlt : mwiSize app.cfg < SIPMSG_BODY_LEN
  · rw [if_pos hlt]
    exact ⟨fun _ => hlt, fun _ => ⟨_, _, _, rfl, rfl, List.prefix_refl _⟩⟩
  · rw [if_neg hlt]
    refine ⟨?_, fun h => absurd h hlt⟩
    intro ⟨msg', app', body, hcall, hbody, hdata⟩
    by_cases heq : mwiSize app.cfg = SIPMSG_BODY_LEN
    · -- the text fills the buffer: its last character gave way to the terminating zero
      rw [if_pos heq] at hcall
      cases hcall
      cases hbody
      have hsame := hdata.eq_of_length (by
        rw [List.length_append, List.length_take, List.length_singleton, hlen, heq]
        decide)
      have hlast := mwiText_getLast? app.cfg
      rw [← hsame, List.getLast?_append_of_ne_nil _ (by decide)] at hlast
      exact absurd hlast (by decide)
    · rw [if_neg heq] at hcall
      cases hcall

/-- pjsip's functions where they fail. -/
def failingLib : SimpleLib where
  mediaTypePrint := fun _ _ => none
  presCreatePidf := fun _ _ => .error .PJ_EINVAL
  presCreateXpidf := fun _ _ => .error .PJ_EINVAL

/-- What `--mwi 3,5` leaves. -/
def mwiApp : App := setMwiList "3,5".toList sippakInit

/-- The message-summary of `--mwi 3,5` is sent as it is. -/
theorem mwi_body_exact_short :
    ∃ msg' app' body, addBodyMsg failingLib ⟨[], none⟩ mwiApp = .ok (msg', app') ∧
      msg'.body = some body ∧ body.data <+: mwiText mwiApp.cfg :=
  (mwi_body_exact_iff failingLib ⟨[], none⟩ mwiApp rfl).mpr (by decide)

/-- What `--mwi 3,5 --mwi-acc account notify sip:alice@host` leaves before the last checks. -/
def accountApp (account : CStr) : App :=
  { mwiApp with cfg := { mwiApp.cfg with
    cmd := .CMD_NOTIFY
    dest := some "sip:alice@host".toList
    mwiAcc := pjstrTrimmed account } }

/-- **Behind a long account the buffer is read past**: 1986 characters are enough. -/
theorem account_read_past {account : CStr}
    (hplain : ∀ c ∈ account, isSpace c = false ∧ (c != '\x00') = true)
    (hlong : 1986 ≤ account.length) : ∃ app,
    sippakGetopts Build.g711 UriLib.plain
        (fun _ => ([.mwi "3,5".toList, .mwiAcc account],
          ["notify".toList, "sip:alice@host".toList]))
        ["sippak".toList, "--mwi".toList, "3,5".toList, "--mwi-acc".toList, account,
          "notify".toList, "sip:alice@host".toList] sippakInit = .ok (.PJ_SUCCESS, app) ∧
      app.cfg.cmd = .CMD_NOTIFY ∧ addBodyMsg failingLib ⟨[], none⟩ app = .error .outOfBounds := by
  have hacc : (accountApp account).cfg.mwiAcc.text = account :=
    trim_eq_self fun c hc => (hplain c hc).1
  have hnul : upToNul account = account :=
    List.takeWhile_eq_self_iff.mpr fun c hc => (hplain c hc).2
  have hlen : ¬ (accountApp account).cfg.mwiAcc.slen = 0 := by
    rw [PjStr.slen, hacc]
    omega
  obtain ⟨app, hset, hcmd, hmwi, happ⟩ : ∃ app,
      setupUsername UriLib.plain (setupMwi (accountApp account)) = .ok app ∧
        app.cfg.cmd = .CMD_NOTIFY ∧ app.cfg.isMwi = true ∧
        app.cfg.mwiAcc = (accountApp account).cfg.mwiAcc := by
    have hmwi : (accountApp account).cfg.isMwi = true := rfl
    unfold setupMwi
    rw [if_pos hmwi, if_neg hlen]
    exact ⟨_, rfl, rfl, rfl, rfl⟩
  refine ⟨app, ?_, hcmd, ?_⟩
  · refine getopts_of_setup (by simp) rfl ?_
    show postParseSetup UriLib.plain (accountApp account) = .ok app
    unfold postParseSetup
    rw [if_neg (fun h => by cases h.1), if_neg (fun h => by cases h.1), hset]
  · have hsize : SIPMSG_BODY_LEN < (mwiText app.cfg).length := by
      have hyes : 2 ≤ if 0 < app.cfg.mwi[0] then 3 else 2 := by split <;> decide
      rw [mwiText_length, mwiSize, happ, hacc, hnul]
      show 2048 < _
      omega
    rw [addBodyMsg_mwi _ _ hmwi, readBuf_snprintf (by decide), if_neg (by omega),
      if_neg (by omega)]

/-- With an account of 2000 characters the body is read past the end of the buffer. -/
theorem long_account_read_past : ∃ account app,
    sippakGetopts Build.g711 UriLib.plain
        (fun _ => ([.mwi "3,5".toList, .mwiAcc account],
          ["notify".toList, "sip:alice@host".toList]))
        ["sippak".toList, "--mwi".toList, "3,5".toList, "--mwi-acc".toList, account,
          "notify".toList, "sip:alice@host".toList] sippakInit = .ok (.PJ_SUCCESS, app) ∧
      account = List.replicate 2000 'a' ∧ app.cfg.cmd = .CMD_NOTIFY ∧
      addBodyMsg failingLib ⟨[], none⟩ app = .error .outOfBounds := by
  have hplain : ∀ c ∈ List.replicate 2000 'a', isSpace c = false ∧ (c != '\x00') = true := by
    intro c hc
    rw [List.eq_of_mem_replicate hc]
    decide
  obtain ⟨app, hok, hcmd, hread⟩ :=
    account_read_past hplain (by rw [List.length_replicate]; decide)
  exact ⟨_, app, hok, rfl, hcmd, hread⟩

end Notify

end Sippak
