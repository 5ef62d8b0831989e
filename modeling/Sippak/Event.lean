/-
  File:      Sippak/Event.lean
  Subject:   THE EVENT OF A COMMAND LINE, as NOTIFY and as PUBLISH send it.

  `set_event` classifies the value by its first characters and keeps its text. NOTIFY makes the
  header of the class, PUBLISH sends the text. So a longer name that starts with a known one is
  lost in NOTIFY, and the alias `mwi` goes out as it is in PUBLISH, which also takes an empty
  value for none.

  * `getopts_event` -- class and text after a command line without `-C` and `-M`;
  * `event_sent_iff` -- **when both send what the value stands for**: the class is the value.
-/
import Sippak.Mod.Publish

namespace Sippak

open CStr

/-! ## 1. The value after the command line -/

/-- The class of a value, as `set_event` assigns it. -/
def eventClass (value : CStr) : EvType :=
  if startsIgnoreCase value "presence".toList then .EVTYPE_PRES
  else if startsIgnoreCase value "mwi".toList || startsIgnoreCase value "message-summary".toList
  then .EVTYPE_MWI
  else .EVTYPE_OTHER

def Opt.eventArg : Opt → Option CStr
  | .event optarg => some optarg
  | _ => none

def Opt.contentTypeArg : Opt → Option CStr
  | .contentType optarg => some optarg
  | _ => none

def Opt.mwiArg : Opt → Option CStr
  | .mwi optarg => some optarg
  | _ => none

/-- Class and text, which `-E` sets together. -/
def Cfg.eventPart (cfg : Cfg) : EvType × PjStr := (cfg.presEv, cfg.event)

/-- Media type and class, which `-C` sets together. -/
def Cfg.ctypePart (cfg : Cfg) : MediaType × CType := (cfg.ctypeMedia, cfg.ctypeE)

section Options

variable {b : Build} {lib : UriLib} {os : List Opt} {app app' : App}

theorem optLoop_event (h : optLoop b lib app os = .ok (.next app')) :
    app'.cfg.eventPart =
      ((lastArg Opt.eventArg os).map fun e => (eventClass (trim e), some (trim e))).getD
        app.cfg.eventPart := by
  refine optLoop_last (fun app app' o hs => ?_) h
  cases o with
  | event => cases hs; rfl
  | _ =>
      rw [optStep_write hs]
      rfl

/-- What `-C` sets does not depend on what was there. -/
theorem setContentType_ctype (type : CStr) (app app' : App) :
    (setContentType type app).cfg.ctypePart = (setContentType type app').cfg.ctypePart := by
  unfold setContentType setContentTypeLeft
  dsimp only
  split
  · rfl
  · split
    · rfl
    · split
      · rfl
      · split <;> rfl

theorem optLoop_ctype (h : optLoop b lib app os = .ok (.next app')) :
    app'.cfg.ctypePart =
      ((lastArg Opt.contentTypeArg os).map fun t =>
        (setContentType t sippakInit).cfg.ctypePart).getD app.cfg.ctypePart := by
  refine optLoop_last (fun app app' o hs => ?_) h
  cases o with
  | contentType type =>
      cases hs
      exact setContentType_ctype type app sippakInit
  | _ =>
      rw [optStep_write hs]
      rfl

theorem optLoop_isMwi (h : optLoop b lib app os = .ok (.next app')) :
    app'.cfg.isMwi = ((lastArg Opt.mwiArg os).map fun _ => true).getD app.cfg.isMwi := by
  refine optLoop_last (fun app app' o hs => ?_) h
  cases o with
  | mwi => cases hs; rfl
  | _ =>
      rw [optStep_write hs]
      rfl

end Options

/-- `app` is what a command line leaves for the command `cmd` whose last `-E` is `e` and that has
    neither `-C` nor `-M`. -/
def EventLine (b : Build) (lib : UriLib) (cmd : Command) (e : CStr) (app : App) : Prop :=
  ∃ (getopt : GetoptLong) (argv : List CStr),
    sippakGetopts b lib getopt argv sippakInit = .ok (.PJ_SUCCESS, app) ∧ app.cfg.cmd = cmd ∧
      lastArg Opt.eventArg (getopt argv).1 = some e ∧
      lastArg Opt.contentTypeArg (getopt argv).1 = none ∧
      lastArg Opt.mwiArg (getopt argv).1 = none

/-- **Class and text of the event** after such a line. -/
theorem getopts_event {b : Build} {lib : UriLib} {cmd : Command} {e : CStr} {app : App}
    (hline : EventLine b lib cmd e app) (hhelp : cmd ≠ .CMD_HELP) (hversion : cmd ≠ .CMD_VERSION) :
    app.cfg.presEv = eventClass (trim e) ∧ app.cfg.event = some (trim e) ∧
      app.cfg.ctypeE = .CTYPE_UNKNOWN := by
  obtain ⟨getopt, argv, hok, rfl, hevent, hctype, hmwi⟩ := hline
  obtain ⟨app₁, hloop, hcfg⟩ := getopts_line hok hhelp hversion
  have hev := optLoop_event hloop
  have hc := optLoop_ctype hloop
  have hm := optLoop_isMwi hloop
  rw [hevent] at hev
  rw [hctype] at hc
  rw [hmwi] at hm
  have hleft := parseArgvLeft_frame app₁ (getopt argv).2
  have hnomwi : (sippakParseArgvLeft app₁ (getopt argv).2).cfg.isMwi = false := by
    rw [hleft]
    exact hm
  have hsetup : setupMwi (sippakParseArgvLeft app₁ (getopt argv).2) =
      sippakParseArgvLeft app₁ (getopt argv).2 := by
    unfold setupMwi
    rw [if_neg (by rw [hnomwi]; decide)]
  rw [hsetup, hleft] at hcfg
  rw [hcfg]
  exact ⟨(Prod.mk.inj hev).1, (Prod.mk.inj hev).2, (Prod.mk.inj hc).2⟩

/-! ## 2. What is sent -/

/-- What stands in the Event header for the value `v`: the alias stands for the message-summary,
    any other value for itself. -/
def EventRight (v sent : CStr) : Prop :=
  if eqIgnoreCase v "mwi".toList then sent = "message-summary".toList
  else eqIgnoreCase sent v = true

/-- NOTIFY's Event header and PUBLISH's event are both what the value stands for. -/
def EventsRight (v : CStr) (napp papp : App) : Prop :=
  (∀ msg : NotifyMsg, ∃ sent, (Notify.addEventHdr msg napp).1.hdrs =
      msg.hdrs ++ [⟨"Event".toList, sent⟩] ∧ EventRight v sent) ∧
    EventRight v (Publish.event papp.cfg).text

/-- **The condition**: the value is not empty, does not start as the alias does, and is no longer
    than the event package it starts with. -/
structure NoLonger (v : CStr) : Prop where
  given : v ≠ []
  noAlias : startsIgnoreCase v "mwi".toList = false
  presence : startsIgnoreCase v "presence".toList = true → eqIgnoreCase v "presence".toList = true
  summary : startsIgnoreCase v "message-summary".toList = true →
    eqIgnoreCase v "message-summary".toList = true

/-- What NOTIFY makes of the class of a value. -/
def classText (v : CStr) : EvType → CStr
  | .EVTYPE_UNKNOWN => "keep-alive".toList
  | .EVTYPE_PRES => "presence".toList
  | .EVTYPE_MWI => "message-summary".toList
  | .EVTYPE_OTHER => v

theorem classText_pres (v : CStr) : classText v .EVTYPE_PRES = "presence".toList := rfl

theorem classText_mwi (v : CStr) : classText v .EVTYPE_MWI = "message-summary".toList := rfl

theorem classText_other (v : CStr) : classText v .EVTYPE_OTHER = v := rfl

/-- Where no class follows from the content type, the header is that of the class. -/
theorem addEventHdr_plain {app : App} (msg : NotifyMsg)
    (h : ¬ ((app.cfg.ctypeE = .CTYPE_PIDF ∨ app.cfg.ctypeE = .CTYPE_XPIDF) ∧
      app.cfg.presEv = .EVTYPE_UNKNOWN)) :
    Notify.addEventHdr msg app =
      ({ msg with hdrs := msg.hdrs ++
          [⟨"Event".toList, classText app.cfg.event.text app.cfg.presEv⟩] }, app) := by
  unfold Notify.addEventHdr
  rw [if_neg h]
  dsimp only
  cases app.cfg.presEv <;> rfl

theorem addEventHdr_hdrs {e : CStr} {app : App} (hev : app.cfg.presEv = eventClass (trim e))
    (hevent : app.cfg.event = some (trim e)) (hctype : app.cfg.ctypeE = .CTYPE_UNKNOWN)
    (msg : NotifyMsg) :
    (Notify.addEventHdr msg app).1.hdrs =
      msg.hdrs ++ [⟨"Event".toList, classText (trim e) (eventClass (trim e))⟩] := by
  rw [addEventHdr_plain msg (fun h => by rw [hctype] at h; exact absurd h.1 (by decide)), hev,
    hevent]
  rfl

theorem publishEvent_text {cfg : Cfg} {v : CStr} (hevent : cfg.event = some v) :
    (Publish.event cfg).text = if v = [] then "presence".toList else v := by
  unfold Publish.event
  rw [hevent]
  cases v <;> rfl

theorem eventRight_iff {v sent : CStr} (hno : startsIgnoreCase v "mwi".toList = false) :
    EventRight v sent ↔ eqIgnoreCase sent v = true := by
  have hne : eqIgnoreCase v "mwi".toList = false := eqIgnoreCase_of_starts hno
  unfold EventRight
  rw [hne]
  exact Iff.rfl

/-- A value that starts as the alias does goes wrong: PUBLISH sends the alias, NOTIFY replaces
    the longer names. -/
theorem not_right_of_alias {v : CStr} (hmwi : startsIgnoreCase v "mwi".toList = true)
    (hnotify : EventRight v (classText v (eventClass v))) : ¬ EventRight v v := by
  unfold EventRight at hnotify ⊢
  split
  · -- the alias itself
    intro e
    subst e
    exact absurd hmwi (by decide)
  · rename_i hlonger
    rw [if_neg hlonger] at hnotify
    have hclass : eventClass v = .EVTYPE_MWI := by
      unfold eventClass
      rw [if_neg fun h => absurd (startsIgnoreCase_both h hmwi) (by decide), hmwi]
      rfl
    rw [hclass, classText_mwi, eqIgnoreCase_comm] at hnotify
    have hsum := startsIgnoreCase_of_eq hnotify
    exact absurd (startsIgnoreCase_both hmwi hsum) (by decide)

/-- Where the alias is out, NOTIFY sends the value exactly when it is no longer than the name it
    starts with. -/
theorem notify_right_iff {v : CStr} (hno : startsIgnoreCase v "mwi".toList = false) :
    EventRight v (classText v (eventClass v)) ↔
      (startsIgnoreCase v "presence".toList = true → eqIgnoreCase v "presence".toList = true) ∧
        (startsIgnoreCase v "message-summary".toList = true →
          eqIgnoreCase v "message-summary".toList = true) := by
  rw [eventRight_iff hno, eqIgnoreCase_comm]
  by_cases hpres : startsIgnoreCase v "presence".toList = true
  · have hclass : eventClass v = .EVTYPE_PRES := if_pos hpres
    have hnosum : ¬ startsIgnoreCase v "message-summary".toList = true :=
      fun h => absurd (startsIgnoreCase_both hpres h) (by decide)
    rw [hclass, classText_pres]
    exact ⟨fun h => ⟨fun _ => h, fun h' => absurd h' hnosum⟩, fun h => h.1 hpres⟩
  · by_cases hsum : startsIgnoreCase v "message-summary".toList = true
    · have hclass : eventClass v = .EVTYPE_MWI := by
        rw [eventClass, if_neg hpres, hno, hsum]
        rfl
      rw [hclass, classText_mwi]
      exact ⟨fun h => ⟨fun h' => absurd h' hpres, fun _ => h⟩, fun h => h.2 hsum⟩
    · have hclass : eventClass v = .EVTYPE_OTHER := by
        rw [eventClass, if_neg hpres, hno, Bool.false_or, if_neg hsum]
      rw [hclass, classText_other]
      exact ⟨fun _ => ⟨fun h => absurd h hpres, fun h => absurd h hsum⟩,
        fun _ => eqIgnoreCase_refl v⟩

/-- **NOTIFY and PUBLISH send what the value stands for exactly when the classification loses
    nothing of it.** -/
theorem event_sent_iff {b : Build} {lib : UriLib} (e : CStr) {napp papp : App}
    (hnotify : EventLine b lib .CMD_NOTIFY e napp)
    (hpublish : EventLine b lib .CMD_PUBLISH e papp) :
    EventsRight (trim e) napp papp ↔ NoLonger (trim e) := by
  obtain ⟨hclass, hevent, hctype⟩ := getopts_event hnotify (by decide) (by decide)
  obtain ⟨-, hpevent, -⟩ := getopts_event hpublish (by decide) (by decide)
  have hhdr := addEventHdr_hdrs hclass hevent hctype
  have hnright : (∀ msg : NotifyMsg, ∃ sent, (Notify.addEventHdr msg napp).1.hdrs =
      msg.hdrs ++ [⟨"Event".toList, sent⟩] ∧ EventRight (trim e) sent) ↔
      EventRight (trim e) (classText (trim e) (eventClass (trim e))) := by
    constructor
    · intro h
      obtain ⟨sent, hsent, hright⟩ := h ⟨[], none⟩
      rw [hhdr] at hsent
      cases hsent
      exact hright
    · exact fun h msg => ⟨_, hhdr msg, h⟩
  unfold EventsRight
  rw [hnright, publishEvent_text hpevent]
  cases hmwi : startsIgnoreCase (trim e) "mwi".toList with
  | true =>
      have hne : trim e ≠ [] := fun h => by rw [h] at hmwi; exact absurd hmwi (by decide)
      rw [if_neg hne]
      exact ⟨fun h => absurd h.2 (not_right_of_alias hmwi h.1), fun h => by
        rw [h.noAlias] at hmwi
        cases hmwi⟩
  | false =>
      rw [notify_right_iff hmwi]
      by_cases hnil : trim e = []
      · rw [if_pos hnil, eventRight_iff hmwi, hnil]
        exact ⟨fun h => absurd h.2 (by decide), fun h => absurd rfl h.given⟩
      · rw [if_neg hnil, eventRight_iff hmwi]
        exact ⟨fun h => ⟨hnil, hmwi, h.1.1, h.1.2⟩,
          fun h => ⟨⟨h.presence, h.summary⟩, eqIgnoreCase_refl _⟩⟩

/-- `sippak -E <e> <cmd> sip:alice@host`. -/
def eventApp (cmd : Command) (e : CStr) : App :=
  { setEvent e sippakInit with cfg := { (setEvent e sippakInit).cfg with
    cmd := cmd
    dest := some "sip:alice@host".toList
    username := some "alice".toList } }

/-- The line of `eventApp`, for each of the two commands. -/
theorem eventLine_notify (e : CStr) :
    EventLine Build.g711 UriLib.plain .CMD_NOTIFY e (eventApp .CMD_NOTIFY e) :=
  ⟨fun _ => ([.event e], ["notify".toList, "sip:alice@host".toList]),
    ["sippak".toList, "-E".toList, e, "notify".toList, "sip:alice@host".toList], rfl, rfl, rfl,
    rfl, rfl⟩

theorem eventLine_publish (e : CStr) :
    EventLine Build.g711 UriLib.plain .CMD_PUBLISH e (eventApp .CMD_PUBLISH e) :=
  ⟨fun _ => ([.event e], ["publish".toList, "sip:alice@host".toList]),
    ["sippak".toList, "-E".toList, e, "publish".toList, "sip:alice@host".toList], rfl, rfl, rfl,
    rfl, rfl⟩

/-- With `-E dialog` both send `dialog`. -/
theorem event_sent_dialog :
    EventsRight (trim "dialog".toList) (eventApp .CMD_NOTIFY "dialog".toList)
      (eventApp .CMD_PUBLISH "dialog".toList) :=
  (event_sent_iff "dialog".toList (eventLine_notify _) (eventLine_publish _)).mpr
    ⟨by decide, by decide, by decide, by decide⟩

/-- With `-E mwi` PUBLISH sends the alias, with `-E presence.winfo` NOTIFY sends `presence`, and
    with `-E ""` PUBLISH sends `presence`. -/
theorem event_replaced :
    (EventLine Build.g711 UriLib.plain .CMD_PUBLISH "mwi".toList
        (eventApp .CMD_PUBLISH "mwi".toList) ∧
      ¬ EventRight "mwi".toList
        (Publish.event (eventApp .CMD_PUBLISH "mwi".toList).cfg).text) ∧
    (EventLine Build.g711 UriLib.plain .CMD_NOTIFY "presence.winfo".toList
        (eventApp .CMD_NOTIFY "presence.winfo".toList) ∧
      (Notify.addEventHdr ⟨[], none⟩ (eventApp .CMD_NOTIFY "presence.winfo".toList)).1.hdrs =
        [⟨"Event".toList, "presence".toList⟩] ∧
      ¬ EventRight "presence.winfo".toList "presence".toList) ∧
    EventLine Build.g711 UriLib.plain .CMD_PUBLISH [] (eventApp .CMD_PUBLISH []) ∧
      ¬ EventRight [] (Publish.event (eventApp .CMD_PUBLISH []).cfg).text :=
  ⟨⟨eventLine_publish _, by unfold EventRight; decide⟩,
    ⟨eventLine_notify _, by decide, by unfold EventRight; decide⟩,
    eventLine_publish _, by unfold EventRight; decide⟩

end Sippak
