/-
  File:      Sippak/Mod/NotifyParts.lean
  Subject:   EVENT, CONTENT TYPE AND BODY OF A NOTIFY, from the command line to the request
             (getopts.c, notify.c).

  The four options `-C`, `-E`, `-M` and `--mwi-acc` write overlapping fields, `post_parse_setup`
  writes some of them again, and the two builders read another combination. With `-M` everything
  the builders read comes from the last `-M`, the last `--mwi-acc` and the destination.

  * `NotifyLine.mwi` -- the fields behind the command line;
  * `fillIn_mwi` -- the two builders with `-M`;
  * `mwi_decides` -- **`-M` decides the request**, whatever the other options are.
-/
import Sippak.ContentType
import Sippak.Event

namespace Sippak

open CStr

/-! ## 1. The line -/

def Opt.mwiAccArg : Opt → Option CStr
  | .mwiAcc optarg => some optarg
  | _ => none

/-- `app` is what an accepted command line leaves for NOTIFY, with the options `os` in this order
    and the destination `dest`. -/
def NotifyLine (b : Build) (lib : UriLib) (os : List Opt) (dest : PjStr) (app : App) : Prop :=
  ∃ (getopt : GetoptLong) (argv : List CStr),
    sippakGetopts b lib getopt argv sippakInit = .ok (.PJ_SUCCESS, app) ∧
      app.cfg.cmd = .CMD_NOTIFY ∧ (getopt argv).1 = os ∧ destArg (getopt argv).2 = dest

/-- The numbers `set_mwi_list` reads. -/
def mwiNumbers (m : CStr) : Vector Int 4 := (setMwiList m sippakInit).cfg.mwi

/-- The account: the last `--mwi-acc`, trimmed, if there is anything in it; else the
    destination. -/
def mwiAccount (acc : Option CStr) (dest : PjStr) : CStr :=
  match acc with
  | none => dest.text
  | some a => if trim a = [] then dest.text else trim a

/-- What `post_parse_setup` does to the account. -/
theorem setupAccount_text (acc : Option CStr) (dest : PjStr) :
    PjStr.text (if PjStr.slen (acc.map trim) = 0 then dest else acc.map trim) =
      mwiAccount acc dest := by
  cases acc with
  | none => rfl
  | some a =>
      unfold mwiAccount
      dsimp only
      by_cases hnil : trim a = []
      · rw [if_pos hnil]
        exact congrArg PjStr.text (if_pos (congrArg List.length hnil))
      · rw [if_neg hnil]
        exact congrArg PjStr.text (if_neg fun h => hnil (List.length_eq_zero_iff.mp h))

section Options

variable {b : Build} {lib : UriLib} {os : List Opt} {app app' : App}

theorem optLoop_mwi (h : optLoop b lib app os = .ok (.next app')) :
    app'.cfg.mwi = ((lastArg Opt.mwiArg os).map mwiNumbers).getD app.cfg.mwi := by
  refine optLoop_last (fun app app' o hs => ?_) h
  cases o with
  | mwi => cases hs; rfl
  | _ =>
      rw [optStep_write hs]
      rfl

theorem optLoop_mwiAcc (h : optLoop b lib app os = .ok (.next app')) :
    app'.cfg.mwiAcc = ((lastArg Opt.mwiAccArg os).map trim).or app.cfg.mwiAcc := by
  refine optLoop_text (fun app app' o hs => ?_) h
  cases o with
  | mwiAcc => cases hs; rfl
  | _ =>
      rw [optStep_write hs]
      rfl

theorem optLoop_dest (h : optLoop b lib app os = .ok (.next app')) :
    app'.cfg.dest = app.cfg.dest := by
  refine optLoop_keep (fun app app' o hs => ?_) h
  cases o <;> rw [optStep_write hs] <;> rfl

end Options

section Line

variable {b : Build} {lib : UriLib} {os : List Opt} {dest : PjStr} {app : App}

/-- The configuration of a line: that of its options with command and destination, then `-M`,
    then the username. -/
theorem NotifyLine.cfg (hline : NotifyLine b lib os dest app) : ∃ app₁ app₂,
    optLoop b lib sippakInit os = .ok (.next app₁) ∧
      app₂.cfg = { app₁.cfg with cmd := app₂.cfg.cmd, dest := dest } ∧
      app.cfg = { (setupMwi app₂).cfg with username := app.cfg.username } := by
  obtain ⟨getopt, argv, hok, hcmd, hos, hdest⟩ := hline
  subst hos hdest
  have hne : ∀ c, c ≠ Command.CMD_NOTIFY → app.cfg.cmd ≠ c := fun c hc e => hc (e ▸ hcmd)
  obtain ⟨app₁, hloop, hcfg⟩ := getopts_line hok (hne _ (by decide)) (hne _ (by decide))
  refine ⟨app₁, sippakParseArgvLeft app₁ (getopt argv).2, hloop, ?_, hcfg⟩
  have hnone : app₁.cfg.dest = none := optLoop_dest hloop
  have hleft := parseArgvLeft_frame app₁ (getopt argv).2
  rwa [hnone, Option.or_none] at hleft

/-- **With `-M`** the fields the builders read. -/
theorem NotifyLine.mwi (hline : NotifyLine b lib os dest app) {m : CStr}
    (hm : lastArg Opt.mwiArg os = some m) :
    app.cfg.isMwi = true ∧ app.cfg.presEv = .EVTYPE_MWI ∧ app.cfg.ctypeE = .CTYPE_MWI ∧
      app.cfg.ctypeMedia = ⟨some "application".toList, some "simple-message-summary".toList⟩ ∧
      app.cfg.mwi = mwiNumbers m ∧
      app.cfg.mwiAcc.text = mwiAccount (lastArg Opt.mwiAccArg os) dest := by
  obtain ⟨app₁, app₂, hloop, happ₂, hcfg⟩ := hline.cfg
  have hmwi := optLoop_mwi hloop
  have hacc := optLoop_mwiAcc hloop
  have his := optLoop_isMwi hloop
  rw [hm] at hmwi his
  have hnone : sippakInit.cfg.mwiAcc = none := rfl
  rw [hnone, Option.or_none] at hacc
  have his₂ : app₂.cfg.isMwi = true := by
    rw [happ₂]
    exact his
  unfold setupMwi at hcfg
  rw [if_pos his₂] at hcfg
  rw [hcfg]
  refine ⟨his₂, rfl, rfl, rfl, ?_, ?_⟩
  · rw [happ₂]
    exact hmwi
  · rw [happ₂]
    dsimp only
    rw [hacc]
    exact setupAccount_text _ dest

end Line

/-! ## 2. The builders -/

/-- What `sippak_cmd_notify` does to its new request: `add_event_hdr`, then `add_body_msg`. -/
def Notify.fillIn (lib : SimpleLib) (msg : NotifyMsg) (app : App) :
    Except Abort (NotifyMsg × App) :=
  Notify.addBodyMsg lib (Notify.addEventHdr msg app).1 (Notify.addEventHdr msg app).2

/-- The message-summary of four numbers and an account. -/
def summaryText (mwi : Vector Int 4) (account : CStr) : CStr :=
  "Messages-Waiting: ".toList ++ (if 0 < mwi.get 0 then "yes".toList else "no".toList) ++
    "\r\nMessage-Account: ".toList ++ account ++
    "\r\nVoice-Message: ".toList ++ showSigned (mwi.get 0) ++ "/".toList ++
    showSigned (mwi.get 1) ++ " (".toList ++ showSigned (mwi.get 2) ++ "/".toList ++
    showSigned (mwi.get 3) ++ ")\r\n".toList

theorem mwiText_eq (cfg : Cfg) :
    Notify.mwiText cfg = summaryText cfg.mwi (upToNul cfg.mwiAcc.text) := rfl

/-- The request with the event `message-summary` and the summary as its body. -/
def summaryMsg (msg : NotifyMsg) (data : CStr) : NotifyMsg :=
  ⟨msg.hdrs ++ [⟨"Event".toList, "message-summary".toList⟩],
    some ⟨some "application".toList, some "simple-message-summary".toList, data⟩⟩

/-- **With `is_mwi` set**: the request is the message-summary, where it is written whole. -/
theorem fillIn_mwi (lib : SimpleLib) (msg : NotifyMsg) {app : App} (his : app.cfg.isMwi = true)
    (hev : app.cfg.presEv = .EVTYPE_MWI)
    (hmedia : app.cfg.ctypeMedia =
      ⟨some "application".toList, some "simple-message-summary".toList⟩) :
    Notify.fillIn lib msg app =
      match Notify.readBuf (snprintf SIPMSG_BODY_LEN (Notify.mwiText app.cfg)).1
        (snprintf SIPMSG_BODY_LEN (Notify.mwiText app.cfg)).2 with
      | .error e => .error e
      | .ok data => .ok (summaryMsg msg data, app) := by
  unfold Notify.fillIn
  rw [addEventHdr_plain msg (fun h => by rw [hev] at h; exact EvType.noConfusion h.2), hev,
    Notify.addBodyMsg_mwi lib _ his, hmedia]
  generalize Notify.readBuf _ _ = r
  cases r with
  | error e => rfl
  | ok data => rfl

/-! ## 3. `-M` decides the request -/

section Decides

variable {b : Build} {lib : UriLib} {os : List Opt} {dest : PjStr} {app : App} {m : CStr}

/-- The request of a line with `-M`, where its summary fits the buffer. -/
theorem NotifyLine.summary (hline : NotifyLine b lib os dest app)
    (hm : lastArg Opt.mwiArg os = some m)
    (hfit : (summaryText (mwiNumbers m)
      (upToNul (mwiAccount (lastArg Opt.mwiAccArg os) dest))).length < SIPMSG_BODY_LEN)
    (slib : SimpleLib) (msg : NotifyMsg) :
    Notify.fillIn slib msg app =
      .ok (summaryMsg msg (summaryText (mwiNumbers m)
        (upToNul (mwiAccount (lastArg Opt.mwiAccArg os) dest))), app) := by
  obtain ⟨his, hev, -, hmedia, hnumbers, hacc⟩ := hline.mwi hm
  have htext := mwiText_eq app.cfg
  rw [hnumbers, hacc] at htext
  rw [fillIn_mwi slib msg his hev hmedia, htext, Notify.readBuf_snprintf (by decide), if_pos hfit]

/-- **`-M` decides the whole NOTIFY**, whatever the other options and their order: event, content
    type and body are those of the last `-M`, the last `--mwi-acc` and the destination, and two
    lines that agree in these give the same. -/
theorem mwi_decides (hline : NotifyLine b lib os dest app) (hm : lastArg Opt.mwiArg os = some m)
    (hfit : (summaryText (mwiNumbers m)
      (upToNul (mwiAccount (lastArg Opt.mwiAccArg os) dest))).length < SIPMSG_BODY_LEN) :
    (∀ slib msg, Notify.fillIn slib msg app =
      .ok (summaryMsg msg (summaryText (mwiNumbers m)
        (upToNul (mwiAccount (lastArg Opt.mwiAccArg os) dest))), app)) ∧
    ∀ b' lib' os' app', NotifyLine b' lib' os' dest app' → lastArg Opt.mwiArg os' = some m →
      lastArg Opt.mwiAccArg os' = lastArg Opt.mwiAccArg os →
      ∀ slib slib' msg, (Notify.fillIn slib' msg app').map Prod.fst =
        (Notify.fillIn slib msg app).map Prod.fst := by
  refine ⟨hline.summary hm hfit, fun b' lib' os' app' hline' hm' hacc slib slib' msg => ?_⟩
  rw [← hacc] at hfit
  rw [hline'.summary hm' hfit, hline.summary hm (by rwa [hacc] at hfit), hacc]
  rfl

/-- `-M 7 -E presence --mwi-acc bob -C pidf -M 1` and `-M 1 --mwi-acc bob` make the same
    request. -/
theorem mwi_decides_bob : ∃ app app',
    NotifyLine Build.g711 UriLib.plain
        [.mwi "7".toList, .event "presence".toList, .mwiAcc "bob".toList,
          .contentType "pidf".toList, .mwi "1".toList] (some "sip:alice@host".toList) app ∧
      NotifyLine Build.g711 UriLib.plain [.mwi "1".toList, .mwiAcc "bob".toList]
        (some "sip:alice@host".toList) app' ∧
      Notify.fillIn Notify.failingLib ⟨[], none⟩ app =
        .ok (summaryMsg ⟨[], none⟩ (summaryText (mwiNumbers "1".toList) "bob".toList), app) ∧
      (Notify.fillIn Notify.failingLib ⟨[], none⟩ app').map Prod.fst =
        (Notify.fillIn Notify.failingLib ⟨[], none⟩ app).map Prod.fst := by
  obtain ⟨app, hline⟩ : ∃ app, NotifyLine Build.g711 UriLib.plain
      [.mwi "7".toList, .event "presence".toList, .mwiAcc "bob".toList,
        .contentType "pidf".toList, .mwi "1".toList] (some "sip:alice@host".toList) app :=
    ⟨_, fun _ => (_, ["notify".toList, "sip:alice@host".toList]),
      ["sippak".toList, "-M".toList, "7".toList, "-E".toList, "presence".toList,
        "--mwi-acc".toList, "bob".toList, "-C".toList, "pidf".toList, "-M".toList, "1".toList,
        "notify".toList, "sip:alice@host".toList], rfl, rfl, rfl, rfl⟩
  obtain ⟨app', hline'⟩ : ∃ app', NotifyLine Build.g711 UriLib.plain
      [.mwi "1".toList, .mwiAcc "bob".toList] (some "sip:alice@host".toList) app' :=
    ⟨_, fun _ => (_, ["notify".toList, "sip:alice@host".toList]),
      ["sippak".toList, "-M".toList, "1".toList, "--mwi-acc".toList, "bob".toList,
        "notify".toList, "sip:alice@host".toList], rfl, rfl, rfl, rfl⟩
  obtain ⟨hsent, hsame⟩ := mwi_decides hline rfl (by decide)
  exact ⟨app, app', hline, hline', hsent _ _, hsame _ _ _ _ hline' rfl rfl _ _ _⟩

end Decides

end Sippak
