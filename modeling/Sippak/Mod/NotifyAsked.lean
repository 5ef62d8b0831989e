/-
  File:      Sippak/Mod/NotifyAsked.lean
  Subject:   THE NOTIFY A LINE ASKS FOR: event, headers and body as a function of the options and
             of the destination (notify.c, behind getopts.c).

  Without `-M` the builders read the class of the content type: a presence type has a body and no
  header, any other type a header and no body. The event is that of `-E`; where there is none it
  follows from a presence type, and is `keep-alive` otherwise.

  * `fillIn_plain` -- the two builders without `-M`, from any configuration;
  * `notify_of_line` -- **what they make of a command line** (`notifyAsked`).
-/
import Sippak.Line

namespace Sippak

open CStr

/-! ## 1. The builders without `-M` -/

/-- The presence status NOTIFY makes of the configuration. -/
def Notify.presStatus (cfg : Cfg) : PresStatus :=
  ⟨cfg.presStatusOpen, cfg.dest, cfg.presNote,
    if cfg.presStatusOpen then .PJRPID_ACTIVITY_UNKNOWN else .PJRPID_ACTIVITY_BUSY⟩

/-- The headers behind the Event, and the body, for a class of content types. A body that could
    not be made is left out. -/
def Notify.contentOf (lib : SimpleLib) (status : PresStatus) (media : MediaType) :
    CType → List GenericHdr × Option MsgBody
  | .CTYPE_UNKNOWN => ([], none)
  | .CTYPE_PIDF => ([], (lib.presCreatePidf status status.id).toOption)
  | .CTYPE_XPIDF => ([], (lib.presCreateXpidf status status.id).toOption)
  | .CTYPE_MWI | .CTYPE_OTHER =>
    (((lib.mediaTypePrint media 512).map fun v => ⟨"Content-Type".toList, v⟩).toList, none)

/-- The class of content types the event `presence` follows from. -/
def CType.isPresence : CType → Bool
  | .CTYPE_PIDF | .CTYPE_XPIDF => true
  | .CTYPE_UNKNOWN | .CTYPE_MWI | .CTYPE_OTHER => false

/-- The value of the Event header. -/
def Notify.eventOf (cfg : Cfg) : CStr :=
  if cfg.ctypeE.isPresence = true ∧ cfg.presEv = .EVTYPE_UNKNOWN then "presence".toList
  else classText cfg.event.text cfg.presEv

section Builders

variable {app : App}

theorem CType.isPresence_iff {c : CType} :
    c.isPresence = true ↔ c = .CTYPE_PIDF ∨ c = .CTYPE_XPIDF := by
  cases c <;> simp [CType.isPresence]

/-- `add_event_hdr` appends the header and may write `pres_ev`, whatever has been logged. -/
theorem addEventHdr_eq (msg : NotifyMsg) (cfg : Cfg) : ∃ ev, ∀ log,
    Notify.addEventHdr msg ⟨cfg, log⟩ =
      ({ msg with hdrs := msg.hdrs ++ [⟨"Event".toList, Notify.eventOf cfg⟩] },
        ⟨{ cfg with presEv := ev }, log⟩) := by
  by_cases hpres : cfg.ctypeE.isPresence = true ∧ cfg.presEv = .EVTYPE_UNKNOWN
  · have hor := hpres
    rw [CType.isPresence_iff] at hor
    refine ⟨.EVTYPE_PRES, fun log => ?_⟩
    unfold Notify.addEventHdr Notify.eventOf
    rw [if_pos hpres, if_pos hor]
    rfl
  · have hor := hpres
    rw [CType.isPresence_iff] at hor
    refine ⟨cfg.presEv, fun log => ?_⟩
    rw [@addEventHdr_plain ⟨cfg, log⟩ msg hor]
    unfold Notify.eventOf
    rw [if_neg hpres]

/-- `add_body_msg` without `-M` appends the headers of the class and sets its body. -/
theorem addBodyMsg_plain (lib : SimpleLib) (hdrs : List GenericHdr) (app : App)
    (his : app.cfg.isMwi = false) : ∃ log,
    Notify.addBodyMsg lib ⟨hdrs, none⟩ app =
      .ok (⟨hdrs ++ (Notify.contentOf lib (Notify.presStatus app.cfg) app.cfg.ctypeMedia
          app.cfg.ctypeE).1,
        (Notify.contentOf lib (Notify.presStatus app.cfg) app.cfg.ctypeMedia
          app.cfg.ctypeE).2⟩, ⟨app.cfg, log⟩) := by
  have hmwi : ¬ app.cfg.isMwi = true := by
    rw [his]
    exact Bool.noConfusion
  unfold Notify.addBodyMsg
  dsimp only
  rw [if_neg hmwi]
  cases hc : app.cfg.ctypeE with
  | CTYPE_UNKNOWN =>
      refine ⟨app.log, ?_⟩
      unfold Notify.addContentTypeHdr
      rw [if_neg CType.noConfusion, if_neg CType.noConfusion, if_pos hc]
      simp only [Notify.contentOf, List.append_nil]
  | CTYPE_PIDF =>
      rw [if_pos rfl]
      simp only [Notify.contentOf, Notify.presStatus, List.append_nil]
      cases lib.presCreatePidf _ _ with
      | error | ok => exact ⟨_, rfl⟩
  | CTYPE_XPIDF =>
      rw [if_neg CType.noConfusion, if_pos rfl]
      simp only [Notify.contentOf, Notify.presStatus, List.append_nil]
      cases lib.presCreateXpidf _ _ with
      | error | ok => exact ⟨_, rfl⟩
  | CTYPE_MWI | CTYPE_OTHER =>
      rw [if_neg CType.noConfusion, if_neg CType.noConfusion]
      unfold Notify.addContentTypeHdr
      rw [if_neg (by rw [hc]; exact CType.noConfusion)]
      simp only [Notify.contentOf]
      cases lib.mediaTypePrint app.cfg.ctypeMedia 512 with
      | none =>
          simp only [Option.map_none, Option.toList_none, List.append_nil]
          exact ⟨_, rfl⟩
      | some v => exact ⟨_, rfl⟩

/-- **The request without `-M`**: the Event, the headers of the content type, its body. -/
theorem fillIn_plain (lib : SimpleLib) (hdrs : List GenericHdr) (his : app.cfg.isMwi = false) :
    ∃ app', Notify.fillIn lib ⟨hdrs, none⟩ app =
        .ok (⟨hdrs ++ ⟨"Event".toList, Notify.eventOf app.cfg⟩ ::
            (Notify.contentOf lib (Notify.presStatus app.cfg) app.cfg.ctypeMedia
              app.cfg.ctypeE).1,
          (Notify.contentOf lib (Notify.presStatus app.cfg) app.cfg.ctypeMedia
            app.cfg.ctypeE).2⟩, app') ∧
      app'.cfg = { app.cfg with presEv := app'.cfg.presEv } := by
  obtain ⟨ev, hevent⟩ := addEventHdr_eq ⟨hdrs, none⟩ app.cfg
  obtain ⟨log, hbody⟩ := addBodyMsg_plain lib
    (hdrs ++ [⟨"Event".toList, Notify.eventOf app.cfg⟩])
    { app with cfg := { app.cfg with presEv := ev } } his
  refine ⟨⟨{ app.cfg with presEv := ev }, log⟩, ?_, rfl⟩
  unfold Notify.fillIn
  rw [hevent app.log]
  dsimp only
  rw [hbody, List.append_assoc]
  rfl

end Builders

/-! ## 2. The request of a line -/

/-- The content type of a line without `-M`. -/
def lineCtype (os : List Opt) : MediaType × CType :=
  ((lastArg Opt.contentTypeArg os).map fun t =>
    (setContentType t sippakInit).cfg.ctypePart).getD (⟨none, none⟩, .CTYPE_UNKNOWN)

/-- The presence status of a line. -/
def lineStatus (os : List Opt) (dest : PjStr) : PresStatus :=
  let basicOpen : Bool :=
    ((lastArg Opt.presStatusArg os).map fun t => !startsIgnoreCase t "closed".toList).getD true
  ⟨basicOpen, dest, ((lastArg Opt.presNoteArg os).map noteValue).getD none,
    if basicOpen then .PJRPID_ACTIVITY_UNKNOWN else .PJRPID_ACTIVITY_BUSY⟩

/-- The message-summary of a line with `-M m`. -/
def lineSummary (m : CStr) (os : List Opt) (dest : PjStr) : CStr :=
  summaryText (mwiNumbers m) (upToNul (mwiAccount (lastArg Opt.mwiAccArg os) dest))

/-- The event of a line: that of `-M`, then that of the last `-E`, then the one that follows from
    the content type. -/
def notifyEvent (os : List Opt) : CStr :=
  if (lastArg Opt.mwiArg os).isSome then "message-summary".toList
  else
    match lastArg Opt.eventArg os with
    | some e => classText (trim e) (eventClass (trim e))
    | none => if (lineCtype os).2.isPresence then "presence".toList else "keep-alive".toList

/-- **The headers and the body a NOTIFY line asks for.** -/
def notifyAsked (lib : SimpleLib) (os : List Opt) (dest : PjStr) : NotifyMsg :=
  match lastArg Opt.mwiArg os with
  | some m =>
    ⟨[⟨"Event".toList, notifyEvent os⟩],
      some ⟨some "application".toList, some "simple-message-summary".toList,
        lineSummary m os dest⟩⟩
  | none =>
    let content := Notify.contentOf lib (lineStatus os dest) (lineCtype os).1 (lineCtype os).2
    ⟨⟨"Event".toList, notifyEvent os⟩ :: content.1, content.2⟩

/-- The message-summary is written whole. -/
def SummaryFits (os : List Opt) (dest : PjStr) : Prop :=
  ∀ m, lastArg Opt.mwiArg os = some m → (lineSummary m os dest).length < SIPMSG_BODY_LEN

section Line

variable {b : Build} {lib : UriLib} {os : List Opt} {left : List CStr} {app : App}

/-- The fields the builders read of a line with `-M`. -/
theorem Configured.summary {cfg : Cfg} (hconf : Configured b lib os left cfg) {m : CStr}
    (hm : lastArg Opt.mwiArg os = some m) :
    cfg.isMwi = true ∧ cfg.presEv = .EVTYPE_MWI ∧
      cfg.ctypeMedia = ⟨some "application".toList, some "simple-message-summary".toList⟩ ∧
      Notify.mwiText cfg = lineSummary m os (destArg left) := by
  have his := hconf.isMwi
  have hev := hconf.presEv
  have hct := hconf.ctype
  have hmwi := hconf.mwi
  have hacc := hconf.mwiAcc
  rw [hm] at his hev hct hmwi hacc
  refine ⟨his, hev, congrArg Prod.fst hct, ?_⟩
  rw [mwiText_eq, hmwi, hacc]
  rfl

/-- The same of a line without. -/
theorem Configured.plain {cfg : Cfg} (hconf : Configured b lib os left cfg)
    (hm : lastArg Opt.mwiArg os = none) :
    cfg.isMwi = false ∧ Notify.eventOf cfg = notifyEvent os ∧
      Notify.presStatus cfg = lineStatus os (destArg left) ∧ cfg.ctypePart = lineCtype os := by
  have his := hconf.isMwi
  have hev := hconf.presEv
  have hct := hconf.ctype
  rw [hm] at his hev hct
  refine ⟨his, ?_, ?_, hct⟩
  · have hclass : cfg.ctypeE = (lineCtype os).2 := congrArg Prod.snd hct
    unfold Notify.eventOf notifyEvent
    rw [hclass, hconf.event, hev, hm]
    cases he : lastArg Opt.eventArg os with
    | some e =>
        -- a class that was given is never the unknown one
        have hknown : eventClass (trim e) ≠ .EVTYPE_UNKNOWN := by
          unfold eventClass
          split
          · exact EvType.noConfusion
          · split <;> exact EvType.noConfusion
        exact if_neg fun h => hknown h.2
    | none =>
        cases (lineCtype os).2.isPresence with
        | true => rfl
        | false => rfl
  · unfold Notify.presStatus lineStatus
    rw [hconf.presStatusOpen, hconf.dest, hconf.presNote]

/-- **What the builders make of a line** whose message-summary, if any, is written whole. -/
theorem notify_of_line (hline : CommandLine b lib os left .notify app)
    (hfit : SummaryFits os (destArg left)) (slib : SimpleLib) (hdrs : List GenericHdr) :
    ∃ app', Notify.fillIn slib ⟨hdrs, none⟩ app =
        .ok (⟨hdrs ++ (notifyAsked slib os (destArg left)).hdrs,
          (notifyAsked slib os (destArg left)).body⟩, app') ∧
      app'.cfg = { app.cfg with presEv := app'.cfg.presEv } := by
  have hconf := configured_of_line hline
  unfold notifyAsked
  cases hm : lastArg Opt.mwiArg os with
  | some m =>
      obtain ⟨his, hev, hmedia, htext⟩ := hconf.summary hm
      have hshort := hfit m hm
      refine ⟨app, ?_, rfl⟩
      rw [fillIn_mwi slib _ his hev hmedia, htext, Notify.readBuf_snprintf (by decide),
        if_pos hshort, notifyEvent, hm]
      rfl
  | none =>
      obtain ⟨his, hevent, hstatus, hctype⟩ := hconf.plain hm
      have hmedia : app.cfg.ctypeMedia = (lineCtype os).1 := congrArg Prod.fst hctype
      have hclass : app.cfg.ctypeE = (lineCtype os).2 := congrArg Prod.snd hctype
      have hfill := fillIn_plain slib hdrs his
      rwa [hevent, hstatus, hmedia, hclass] at hfill

end Line

end Sippak
