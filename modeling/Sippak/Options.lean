/-
  File:      Sippak/Options.lean
  Subject:   WHAT AN OPTION WRITES, and how a field comes out of a whole command line.

  `Opt.write` names, option by option, the fields its case of the `switch` may assign; everything
  about a field that the loop leaves alone, or that one option alone sets, is derived from it.

  * `optStep_write` -- **an option writes the fields it names and no other**;
  * `optLoop_fold` -- a part of the configuration that each option takes on in its own way comes
    out of the loop as the fold over the options;
  * `optLoop_last`, `optLoop_text` -- a field that one option sets has the value of that option's
    last argument;
  * `getopts_cases`, `getopts_line` -- what stands behind the loop.
-/
import Sippak.Tables

namespace Sippak

open CStr

/-! ## 1. One option -/

/-- `old`, with the fields the option may write taken from `new`. -/
def Opt.write (new old : Cfg) : Opt → Cfg
  | .help | .version => { old with cmd := new.cmd }
  | .ns _ => { old with nameservers := new.nameservers }
  | .color | .logTime | .logLevel | .logSnd => { old with logDecor := new.logDecor }
  | .trailDot => { old with trailDot := new.trailDot }
  | .localPort _ => { old with localPort := new.localPort }
  | .localHost _ => { old with localHost := new.localHost }
  | .username _ => { old with username := new.username }
  | .password _ => { old with password := new.password }
  | .fromName _ => { old with fromName := new.fromName }
  | .proto _ => { old with proto := new.proto }
  | .verbose _ | .quiet => { old with logLevel := new.logLevel }
  | .expires _ => { old with expires := new.expires }
  | .presStatus _ => { old with presStatusOpen := new.presStatusOpen }
  | .presNote _ => { old with presNote := new.presNote }
  | .contentType _ => { old with ctypeMedia := new.ctypeMedia, ctypeE := new.ctypeE }
  | .event _ => { old with presEv := new.presEv, event := new.event }
  | .mwi _ => { old with mwi := new.mwi, isMwi := new.isMwi }
  | .mwiAcc _ => { old with mwiAcc := new.mwiAcc }
  | .clist => { old with isClist := new.isClist }
  | .cancelAll => { old with cancelAllReg := new.cancelAllReg }
  | .cancel => { old with cancel := new.cancel }
  | .contact _ => { old with contact := new.contact }
  | .referTo _ => { old with referTo := new.referTo }
  | .body _ => { old with body := new.body }
  | .codec _ | .rtpPort _ => { old with media := new.media }
  | .userAgent _ => { old with userAgent := new.userAgent }
  | .header _ => { old with hdrs := new.hdrs }
  | .proxy _ => { old with proxy := new.proxy }
  | .unknown => old

section Options

variable {b : Build} {lib : UriLib}

/-- **An option writes the fields it names and no other.** -/
theorem optStep_write {app app' : App} {o : Opt}
    (h : optStep b lib app o = .ok (.next app')) : app'.cfg = o.write app'.cfg app.cfg := by
  cases o with
  | help | version => cases h
  | ns | color | trailDot | logTime | logLevel | logSnd | localHost | username | password
  | fromName | proto | quiet | mwiAcc | clist | cancelAll | cancel | contact | referTo | body
  | userAgent | unknown | event | mwi =>
      cases h
      rfl
  | verbose optarg =>
      cases optarg with
      | none | some =>
          cases h
          rfl
  | localPort | rtpPort | expires =>
      rw [optStep] at h
      split at h
      · cases h
      · cases h
        rfl
  | presStatus optarg =>
      cases h
      unfold Opt.write presStatusOpen
      split
      · rfl
      · split <;> rfl
  | presNote optarg =>
      cases h
      unfold Opt.write presNote
      split <;> rfl
  | contentType optarg =>
      cases h
      unfold Opt.write setContentType setContentTypeLeft
      dsimp only
      -- the five branches in the order of the source, each writes the two fields
      split
      · rfl
      · split
        · rfl
        · split
          · rfl
          · split
            · rfl
            · rfl
  | codec =>
      rw [optStep] at h
      split at h
      · cases h
      · rename_i app₁ hc
        cases h
        exact sippakSetMediaCodecsCfg_frame hc
      · cases h
  | header =>
      rw [optStep] at h
      split at h
      · cases h
      · rename_i app₁ hc
        cases h
        exact addCustomHeader_frame hc
      · cases h
  | proxy =>
      rw [optStep] at h
      split at h
      · cases h
      · rename_i app₁ hc
        cases h
        exact addProxy_frame hc

/-- An option that returns with success leaves a command that runs no handler. -/
theorem optStep_ret {app app' : App} {o : Opt}
    (h : optStep b lib app o = .ok (.ret .PJ_SUCCESS app')) :
    app'.cfg.cmd = .CMD_HELP ∨ app'.cfg.cmd = .CMD_VERSION := by
  cases o with
  | help =>
      cases h
      exact Or.inl rfl
  | version =>
      cases h
      exact Or.inr rfl
  | ns | color | trailDot | logTime | logLevel | logSnd | localHost | username | password
  | fromName | proto | quiet | mwiAcc | clist | cancelAll | cancel | contact | referTo | body
  | userAgent | unknown | event | mwi | presStatus | presNote | contentType => cases h
  | verbose optarg => cases optarg <;> cases h
  | localPort optarg | rtpPort optarg | expires optarg | codec optarg | proxy optarg =>
      rw [optStep] at h
      split at h <;> cases h
  | header optarg =>
      rw [optStep] at h
      split at h <;> cases h

/-! ## 2. The loop -/

/-- **What each option does to a part of the configuration, the loop does option by option.** -/
theorem optLoop_fold {β : Type} {part : Cfg → β} {f : β → Opt → β}
    (hstep : ∀ app app' o, optStep b lib app o = .ok (.next app') →
      part app'.cfg = f (part app.cfg) o)
    {os : List Opt} {app app' : App} (h : optLoop b lib app os = .ok (.next app')) :
    part app'.cfg = os.foldl f (part app.cfg) := by
  induction os generalizing app with
  | nil =>
      cases h
      rfl
  | cons o os ih =>
      rw [optLoop] at h
      cases hs : optStep b lib app o with
      | error e =>
          simp only [hs] at h
          cases h
      | ok r =>
          simp only [hs] at h
          cases r with
          | ret s app₁ => cases h
          | next app₁ => rw [List.foldl_cons, ← hstep app app₁ o hs, ih h]

/-- What no option writes, the loop keeps. -/
theorem optLoop_keep {β : Type} {part : Cfg → β}
    (hstep : ∀ app app' o, optStep b lib app o = .ok (.next app') → part app'.cfg = part app.cfg)
    {os : List Opt} {app app' : App} (h : optLoop b lib app os = .ok (.next app')) :
    part app'.cfg = part app.cfg := by
  have hfold := optLoop_fold (f := fun c _ => c) hstep h
  rwa [List.foldl_fixed] at hfold

/-- The loop returns with success only where one of its options does. -/
theorem optLoop_ret {os : List Opt} {app app' : App}
    (h : optLoop b lib app os = .ok (.ret .PJ_SUCCESS app')) :
    app'.cfg.cmd = .CMD_HELP ∨ app'.cfg.cmd = .CMD_VERSION := by
  induction os generalizing app with
  | nil => cases h
  | cons o os ih =>
      rw [optLoop] at h
      cases hs : optStep b lib app o with
      | error e =>
          simp only [hs] at h
          cases h
      | ok r =>
          simp only [hs] at h
          cases r with
          | ret s app₁ =>
              cases h
              exact optStep_ret hs
          | next app₁ => exact ih h

/-- The argument of the last option that `arg` selects. -/
def lastArg (arg : Opt → Option CStr) : List Opt → Option CStr
  | [] => none
  | o :: os => (lastArg arg os).or (arg o)

/-- **An option that sets its field to a value of its argument**: after the loop the field has
    the value of the last argument. -/
theorem optLoop_last {β : Type} {field : Cfg → β} {arg : Opt → Option CStr} {value : CStr → β}
    (hstep : ∀ app app' o, optStep b lib app o = .ok (.next app') →
      field app'.cfg = ((arg o).map value).getD (field app.cfg))
    {os : List Opt} {app app' : App} (h : optLoop b lib app os = .ok (.next app')) :
    field app'.cfg = ((lastArg arg os).map value).getD (field app.cfg) := by
  have hfold : ∀ (os : List Opt) (c : β),
      os.foldl (fun c o => ((arg o).map value).getD c) c =
        ((lastArg arg os).map value).getD c := by
    intro os
    induction os with
    | nil => exact fun _ => rfl
    | cons o os ih =>
        intro c
        rw [List.foldl_cons, ih, lastArg]
        cases lastArg arg os <;> rfl
  rw [optLoop_fold (f := fun c o => ((arg o).map value).getD c) hstep h, hfold]

/-- **A text option**: after the loop its field is the last argument, trimmed. -/
theorem optLoop_text {field : Cfg → PjStr} {arg : Opt → Option CStr}
    (hstep : ∀ app app' o, optStep b lib app o = .ok (.next app') →
      field app'.cfg = ((arg o).map trim).or (field app.cfg))
    {os : List Opt} {app app' : App} (h : optLoop b lib app os = .ok (.next app')) :
    field app'.cfg = ((lastArg arg os).map trim).or (field app.cfg) := by
  have hor : ∀ (a : Option CStr) (c : PjStr),
      (a.map trim).or c = (a.map fun t => some (trim t)).getD c := by
    intro a c
    cases a <;> rfl
  rw [hor]
  refine optLoop_last (fun app app' o hs => ?_) h
  rw [hstep app app' o hs, hor]

end Options

/-! ## 3. Behind the loop -/

/-- The destination among the arguments that are no options. -/
def destArg : List CStr → PjStr
  | [] => none
  | [dest] => some dest
  | _ :: dest :: _ => some dest

theorem destArg_eq_none_iff {left : List CStr} : destArg left = none ↔ left = [] := by
  cases left with
  | nil => simp [destArg]
  | cons a as => cases as <;> simp [destArg]

section Checks

variable {lib : UriLib}

/-- The left-over arguments set the command and the destination. -/
theorem parseArgvLeft_frame (app : App) (left : List CStr) :
    (sippakParseArgvLeft app left).cfg =
      { app.cfg with
        cmd := (sippakParseArgvLeft app left).cfg.cmd
        dest := (destArg left).or app.cfg.dest } := by
  match left with
  | [] => rfl
  | [_] => rfl
  | cmd :: dest :: rest =>
      rw [sippakParseArgvLeft]
      split <;> rfl

/-- The username is kept, or it is the user part of the destination. -/
theorem setupUsername_cases {app app' : App} (h : setupUsername lib app = .ok app') :
    (app' = app ∧ (app.cfg.username = none → app.cfg.dest = none)) ∨
      ∃ uri u, app.cfg.username = none ∧ app.cfg.dest ≠ none ∧
        lib.parseUri app.cfg.dest = some uri ∧ uri.sipUri = .ok u ∧
        app' = { app with cfg := { app.cfg with username := u.user } } := by
  unfold setupUsername at h
  split at h
  · rename_i hboth
    split at h
    · cases h
    · rename_i uri huri
      split at h
      · cases h
      · rename_i u hu
        cases h
        exact Or.inr ⟨uri, u, hboth.1, hboth.2, huri, hu, rfl⟩
  · rename_i hno
    cases h
    exact Or.inl ⟨rfl, fun hn => Classical.byContradiction fun hd => hno ⟨hn, hd⟩⟩

/-- A successful `post_parse_setup` went through the checks to the username. -/
theorem postParseSetup_checks {app app' : App} (h : postParseSetup lib app = .ok app') :
    setupUsername lib (setupMwi app) = .ok app' ∧
      (app.cfg.cmd = .CMD_REFER → app.cfg.referTo ≠ none) ∧
      (app.cfg.cmd = .CMD_MESSAGE → app.cfg.body ≠ none) := by
  unfold postParseSetup at h
  split at h
  · cases h
  · rename_i hrefer
    split at h
    · cases h
    · rename_i hmessage
      exact ⟨h, fun hc hn => hrefer ⟨hc, hn⟩, fun hc hn => hmessage ⟨hc, hn⟩⟩

/-- **A successful parse** leaves a command that runs no handler, or it went through the loop and
    the checks. -/
theorem getopts_cases {b : Build} {getopt : GetoptLong} {argv : List CStr} {app app' : App}
    (hok : sippakGetopts b lib getopt argv app = .ok (.PJ_SUCCESS, app')) :
    (app'.cfg.cmd = .CMD_HELP ∨ app'.cfg.cmd = .CMD_VERSION) ∨
      ∃ app₁, optLoop b lib app (getopt argv).1 = .ok (.next app₁) ∧
        postParseSetup lib (sippakParseArgvLeft app₁ (getopt argv).2) = .ok app' := by
  unfold sippakGetopts at hok
  split at hok
  · cases hok
    exact Or.inl (Or.inl rfl)
  · cases hl : optLoop b lib app (getopt argv).1 with
    | error e =>
        simp only [hl] at hok
        cases hok
    | ok r =>
        simp only [hl] at hok
        cases r with
        | ret s app₁ =>
            cases hok
            exact Or.inl (optLoop_ret hl)
        | next app₁ =>
            cases hp : postParseSetup lib (sippakParseArgvLeft app₁ (getopt argv).2) with
            | error e =>
                simp only [hp] at hok
                cases hok
            | ok app₂ =>
                simp only [hp] at hok
                cases hok
                exact Or.inr ⟨app₁, rfl, hp⟩

/-- A line whose options and checks go through is accepted. -/
theorem getopts_of_setup {b : Build} {getopt : GetoptLong} {argv : List CStr}
    {app app₁ app' : App} (hargv : argv.length ≠ 1)
    (hloop : optLoop b lib app (getopt argv).1 = .ok (.next app₁))
    (hpost : postParseSetup lib (sippakParseArgvLeft app₁ (getopt argv).2) = .ok app') :
    sippakGetopts b lib getopt argv app = .ok (.PJ_SUCCESS, app') := by
  unfold sippakGetopts
  rw [if_neg hargv, hloop]
  dsimp only
  rw [hpost]

/-- **The configuration of a line**: that of the loop with command and destination, then `--mwi`,
    then the username. -/
theorem getopts_line {b : Build} {getopt : GetoptLong} {argv : List CStr} {app app' : App}
    (hok : sippakGetopts b lib getopt argv app = .ok (.PJ_SUCCESS, app'))
    (hhelp : app'.cfg.cmd ≠ .CMD_HELP) (hversion : app'.cfg.cmd ≠ .CMD_VERSION) :
    ∃ app₁, optLoop b lib app (getopt argv).1 = .ok (.next app₁) ∧
      app'.cfg = { (setupMwi (sippakParseArgvLeft app₁ (getopt argv).2)).cfg with
        username := app'.cfg.username } := by
  rcases getopts_cases hok with (hc | hc) | ⟨app₁, hloop, hpost⟩
  · exact absurd hc hhelp
  · exact absurd hc hversion
  · refine ⟨app₁, hloop, ?_⟩
    rcases setupUsername_cases (postParseSetup_checks hpost).1 with ⟨rfl, -⟩ | h
    · rfl
    · obtain ⟨uri, u, -, -, -, -, rfl⟩ := h
      rfl

end Checks

end Sippak
