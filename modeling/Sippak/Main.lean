/-
  File:      Sippak/Main.lean
  Subject:   THE DISPATCH (main.c), and what the option parser guarantees to a command handler.

  `mainSwitch` is the `switch` of `main` on the command. A handler needs a destination that
  parses, REFER a Refer-To value, MESSAGE a body (`HandlerNeeds`). The parser checks the
  destination only where no username was given, does not ask for one at all, and tests the two
  texts for NULL, which an option with an empty argument is not.

  The route: an option writes the fields it names and no other (`optStep_write`), so after the
  loop each field is the last argument of its option (`optLoop_fields`); the final checks add
  what they test (`postParseSetup_inv`). `handler_needs_iff` puts this together: **a handler gets
  what it needs exactly when the command line suffices** (`LineSuffices`).
-/
import Sippak.Options

namespace Sippak

open CStr

/-! ## 1. The dispatch -/

/-- The `sippak_cmd_*` functions. -/
inductive Handler where
  | ping | publish | subscribe | notify | register | refer | message | invite
  deriving DecidableEq, Repr

/-- Where the `switch` of `main` goes. -/
inductive MainCase where
  | version
  | usage
  | cmd (h : Handler)
  /-- "Invalid or missing parameters". -/
  | fail
  deriving DecidableEq, Repr

def mainSwitch : Command → MainCase
  | .CMD_VERSION => .version
  | .CMD_HELP => .usage
  | .CMD_PING => .cmd .ping
  | .CMD_PUBLISH => .cmd .publish
  | .CMD_SUBSCRIBE => .cmd .subscribe
  | .CMD_NOTIFY => .cmd .notify
  | .CMD_REGISTER => .cmd .register
  | .CMD_REFER => .cmd .refer
  | .CMD_MESSAGE => .cmd .message
  | .CMD_INVITE => .cmd .invite
  | .CMD_UNKNOWN => .fail

theorem mainSwitch_refer {c : Command} (h : mainSwitch c = .cmd .refer) : c = .CMD_REFER := by
  cases c <;> first | rfl | cases h

theorem mainSwitch_message {c : Command} (h : mainSwitch c = .cmd .message) :
    c = .CMD_MESSAGE := by
  cases c <;> first | rfl | cases h

/-- What a handler reads without a test of its own. -/
structure HandlerNeeds (lib : UriLib) (cfg : Cfg) (h : Handler) : Prop where
  dest : cfg.dest ≠ none
  parses : (lib.parseUri cfg.dest).isSome = true
  referTo : h = .refer → ∃ t, cfg.referTo = some t ∧ t ≠ []
  body : h = .message → ∃ t, cfg.body = some t ∧ t ≠ []

/-! ## 2. The fields behind the options -/

def Opt.usernameArg : Opt → Option CStr
  | .username optarg => some optarg
  | _ => none

def Opt.referToArg : Opt → Option CStr
  | .referTo optarg => some optarg
  | _ => none

def Opt.bodyArg : Opt → Option CStr
  | .body optarg => some optarg
  | _ => none

/-- `app'` is `app` with the three texts replaced where an argument is given. -/
structure FieldsSet (username referTo body : Option CStr) (app app' : App) : Prop where
  cmd : app'.cfg.cmd = app.cfg.cmd
  dest : app'.cfg.dest = app.cfg.dest
  username : app'.cfg.username = (username.map trim).or app.cfg.username
  referTo : app'.cfg.referTo = (referTo.map trim).or app.cfg.referTo
  body : app'.cfg.body = (body.map trim).or app.cfg.body

section Options

variable {b : Build} {lib : UriLib}

/-- **After the loop** each text is the last argument of its option. -/
theorem optLoop_fields {os : List Opt} {app app' : App}
    (h : optLoop b lib app os = .ok (.next app')) :
    FieldsSet (lastArg Opt.usernameArg os) (lastArg Opt.referToArg os) (lastArg Opt.bodyArg os)
      app app' where
  cmd := by
    refine optLoop_keep (fun app app' o hs => ?_) h
    cases o with
    | help | version => cases hs
    | _ =>
        rw [optStep_write hs]
        rfl
  dest := by
    refine optLoop_keep (fun app app' o hs => ?_) h
    rw [optStep_write hs]
    cases o <;> rfl
  username := by
    refine optLoop_text (fun app app' o hs => ?_) h
    cases o with
    | username => cases hs; rfl
    | _ =>
        rw [optStep_write hs]
        rfl
  referTo := by
    refine optLoop_text (fun app app' o hs => ?_) h
    cases o with
    | referTo => cases hs; rfl
    | _ =>
        rw [optStep_write hs]
        rfl
  body := by
    refine optLoop_text (fun app app' o hs => ?_) h
    cases o with
    | body => cases hs; rfl
    | _ =>
        rw [optStep_write hs]
        rfl

end Options

/-! ## 3. The checks after the loop -/

section Checks

variable {lib : UriLib}

/-- What the left-over arguments set. -/
theorem parseArgvLeft_fields (app : App) (left : List CStr) :
    (sippakParseArgvLeft app left).cfg.dest = (destArg left).or app.cfg.dest ∧
      (sippakParseArgvLeft app left).cfg.username = app.cfg.username ∧
      (sippakParseArgvLeft app left).cfg.referTo = app.cfg.referTo ∧
      (sippakParseArgvLeft app left).cfg.body = app.cfg.body := by
  rw [parseArgvLeft_frame]
  exact ⟨rfl, rfl, rfl, rfl⟩

/-- Where the username is taken from the destination, the destination parses. -/
theorem setupUsername_inv {app app' : App} (h : setupUsername lib app = .ok app') :
    app'.cfg = { app.cfg with username := app'.cfg.username } ∧
      (app.cfg.username = none → app.cfg.dest ≠ none →
        (lib.parseUri app.cfg.dest).isSome = true) := by
  rcases setupUsername_cases h with ⟨rfl, hdest⟩ | ⟨uri, u, -, -, huri, -, rfl⟩
  · exact ⟨rfl, fun hu hd => absurd (hdest hu) hd⟩
  · refine ⟨rfl, fun _ _ => ?_⟩
    rw [huri]
    rfl

/-- **What `post_parse_setup` guarantees when it returns.** -/
theorem postParseSetup_inv {app app' : App} (h : postParseSetup lib app = .ok app') :
    app'.cfg.cmd = app.cfg.cmd ∧ app'.cfg.dest = app.cfg.dest ∧
      app'.cfg.referTo = app.cfg.referTo ∧ app'.cfg.body = app.cfg.body ∧
      (app.cfg.username = none → app.cfg.dest ≠ none →
        (lib.parseUri app.cfg.dest).isSome = true) ∧
      (app.cfg.cmd = .CMD_REFER → app.cfg.referTo ≠ none) ∧
      (app.cfg.cmd = .CMD_MESSAGE → app.cfg.body ≠ none) := by
  obtain ⟨hset, hrefer, hmessage⟩ := postParseSetup_checks h
  obtain ⟨hcfg, hparse⟩ := setupUsername_inv hset
  obtain ⟨hcmd, hdest, huser, hto, hbody⟩ := setupMwi_fields app
  rw [huser, hdest] at hparse
  refine ⟨?_, ?_, ?_, ?_, hparse, hrefer, hmessage⟩
  · rw [hcfg, ← hcmd]
  · rw [hcfg, ← hdest]
  · rw [hcfg, ← hto]
  · rw [hcfg, ← hbody]

end Checks

/-! ## 4. From the command line to the handler -/

/-- The command line suffices for the handler `h`: there is a destination, it parses where a
    username keeps the parser from checking it, and the text the handler sends is not blank. -/
structure LineSuffices (lib : UriLib) (opts : List Opt) (left : List CStr) (h : Handler) :
    Prop where
  dest : left ≠ []
  parses : lastArg Opt.usernameArg opts ≠ none → (lib.parseUri (destArg left)).isSome = true
  referTo : h = .refer → ∀ t, lastArg Opt.referToArg opts = some t → trim t ≠ []
  body : h = .message → ∀ t, lastArg Opt.bodyArg opts = some t → trim t ≠ []

/-- A successful parse that leads to a handler went through the loop and the checks. -/
theorem getopts_inv {b : Build} {lib : UriLib} {getopt : GetoptLong} {argv : List CStr}
    {app app' : App} {h : Handler}
    (hok : sippakGetopts b lib getopt argv app = .ok (.PJ_SUCCESS, app'))
    (hd : mainSwitch app'.cfg.cmd = .cmd h) :
    ∃ app₁, optLoop b lib app (getopt argv).1 = .ok (.next app₁) ∧
      postParseSetup lib (sippakParseArgvLeft app₁ (getopt argv).2) = .ok app' := by
  rcases getopts_cases hok with (hc | hc) | hline
  · rw [hc] at hd
    cases hd
  · rw [hc] at hd
    cases hd
  · exact hline

/-- A text option gives a non-empty text exactly when it gives one and its argument is not
    blank. -/
theorem nonempty_text_iff {field : PjStr} {arg : Option CStr}
    (hf : field = (arg.map trim).or none) (hne : field ≠ none) :
    (∃ t, field = some t ∧ t ≠ []) ↔ ∀ t, arg = some t → trim t ≠ [] := by
  subst hf
  cases arg with
  | none => exact absurd rfl hne
  | some a =>
      constructor
      · intro ⟨t, ht, hn⟩ t' ht'
        cases ht
        cases ht'
        exact hn
      · intro h
        exact ⟨trim a, rfl, h a rfl⟩

/-- What the handler finds in the configuration, field by field, as the command line has it. -/
structure FieldsFrom (lib : UriLib) (opts : List Opt) (left : List CStr) (cfg : Cfg)
    (h : Handler) : Prop where
  dest : cfg.dest = destArg left
  referTo : cfg.referTo = ((lastArg Opt.referToArg opts).map trim).or none
  body : cfg.body = ((lastArg Opt.bodyArg opts).map trim).or none
  parses : lastArg Opt.usernameArg opts = none → cfg.dest ≠ none →
    (lib.parseUri cfg.dest).isSome = true
  referGiven : h = .refer → cfg.referTo ≠ none
  bodyGiven : h = .message → cfg.body ≠ none

theorem getopts_fields {b : Build} {lib : UriLib} {getopt : GetoptLong} {argv : List CStr}
    {app : App} {h : Handler}
    (hok : sippakGetopts b lib getopt argv sippakInit = .ok (.PJ_SUCCESS, app))
    (hd : mainSwitch app.cfg.cmd = .cmd h) :
    FieldsFrom lib (getopt argv).1 (getopt argv).2 app.cfg h := by
  obtain ⟨app₁, hloop, hpost⟩ := getopts_inv hok hd
  have hf := optLoop_fields hloop
  obtain ⟨ldest, luser, lto, lbody⟩ := parseArgvLeft_fields app₁ (getopt argv).2
  obtain ⟨pcmd, pdest, pto, pbody, pparse, prefer, pmessage⟩ := postParseSetup_inv hpost
  refine ⟨?_, pto.trans (lto.trans hf.referTo), pbody.trans (lbody.trans hf.body),
    fun hu hne => ?_, fun hh => ?_, fun hh => ?_⟩
  · rw [pdest, ldest, hf.dest]
    exact Option.or_none
  · rw [pdest] at hne ⊢
    refine pparse ?_ hne
    rw [luser, hf.username, hu]
    rfl
  · rw [pto]
    rw [hh] at hd
    exact prefer (pcmd ▸ mainSwitch_refer hd)
  · rw [pbody]
    rw [hh] at hd
    exact pmessage (pcmd ▸ mainSwitch_message hd)

/-- **A handler that a successful parse leads to gets what it needs exactly when the command line
    suffices for it.** -/
theorem handler_needs_iff {b : Build} {lib : UriLib} {getopt : GetoptLong} {argv : List CStr}
    {app : App} {h : Handler}
    (hok : sippakGetopts b lib getopt argv sippakInit = .ok (.PJ_SUCCESS, app))
    (hd : mainSwitch app.cfg.cmd = .cmd h) :
    HandlerNeeds lib app.cfg h ↔ LineSuffices lib (getopt argv).1 (getopt argv).2 h := by
  have hf := getopts_fields hok hd
  have hdest : app.cfg.dest ≠ none ↔ (getopt argv).2 ≠ [] := by
    rw [hf.dest, ne_eq, destArg_eq_none_iff]
  constructor
  · intro hn
    refine ⟨hdest.mp hn.dest, fun _ => ?_, fun hh => ?_, fun hh => ?_⟩
    · rw [← hf.dest]
      exact hn.parses
    · exact (nonempty_text_iff hf.referTo (hf.referGiven hh)).mp (hn.referTo hh)
    · exact (nonempty_text_iff hf.body (hf.bodyGiven hh)).mp (hn.body hh)
  · intro hl
    have hne := hdest.mpr hl.dest
    refine ⟨hne, ?_, fun hh => ?_, fun hh => ?_⟩
    · by_cases hu : lastArg Opt.usernameArg (getopt argv).1 = none
      · exact hf.parses hu hne
      · rw [hf.dest]
        exact hl.parses hu
    · exact (nonempty_text_iff hf.referTo (hf.referGiven hh)).mpr (hl.referTo hh)
    · exact (nonempty_text_iff hf.body (hf.bodyGiven hh)).mpr (hl.body hh)

/-- `sippak ping sip:alice@host`. -/
theorem handler_needs_ping : ∃ app,
    sippakGetopts Build.g711 UriLib.plain (fun argv => ([], argv.tail))
        ["sippak".toList, "ping".toList, "sip:alice@host".toList] sippakInit =
      .ok (.PJ_SUCCESS, app) ∧ mainSwitch app.cfg.cmd = .cmd .ping ∧
      (HandlerNeeds UriLib.plain app.cfg .ping ↔
        LineSuffices UriLib.plain [] ["ping".toList, "sip:alice@host".toList] .ping) :=
  ⟨{ sippakInit with
      cfg := { sippakInit.cfg with
        dest := some "sip:alice@host".toList, username := some "alice".toList } },
    by decide, rfl,
    handler_needs_iff (by decide : sippakGetopts Build.g711 UriLib.plain
      (fun argv => ([], argv.tail)) ["sippak".toList, "ping".toList, "sip:alice@host".toList]
      sippakInit = .ok (.PJ_SUCCESS, _)) rfl⟩

/-- What reaches a handler unchecked: with `-u bob` a destination that is no URI, an empty `--to`,
    and, with an option only, no destination at all. -/
theorem unchecked_line_reaches_handler :
    (∃ app, sippakGetopts Build.g711 UriLib.plain
        (fun _ => ([.username "bob".toList], ["ping".toList, "alice".toList]))
        ["sippak".toList, "-u".toList, "bob".toList, "ping".toList, "alice".toList] sippakInit =
          .ok (.PJ_SUCCESS, app) ∧
      mainSwitch app.cfg.cmd = .cmd .ping ∧ ¬ HandlerNeeds UriLib.plain app.cfg .ping) ∧
    (∃ app, sippakGetopts Build.g711 UriLib.plain
        (fun _ => ([.referTo []], ["refer".toList, "sip:alice@host".toList]))
        ["sippak".toList, "--to".toList, [], "refer".toList, "sip:alice@host".toList]
        sippakInit = .ok (.PJ_SUCCESS, app) ∧
      mainSwitch app.cfg.cmd = .cmd .refer ∧ ¬ HandlerNeeds UriLib.plain app.cfg .refer) ∧
    ∃ app, sippakGetopts Build.g711 UriLib.plain (fun _ => ([.verbose none], []))
        ["sippak".toList, "-v".toList] sippakInit = .ok (.PJ_SUCCESS, app) ∧
      mainSwitch app.cfg.cmd = .cmd .ping ∧ ¬ HandlerNeeds UriLib.plain app.cfg .ping := by
  refine ⟨⟨{ sippakInit with
      cfg := { sippakInit.cfg with
        dest := some "alice".toList, username := some "bob".toList } }, by decide, rfl, ?_⟩,
    ⟨{ sippakInit with
      cfg := { sippakInit.cfg with
        cmd := .CMD_REFER
        dest := some "sip:alice@host".toList
        username := some "alice".toList
        referTo := some [] } }, by decide, rfl, ?_⟩,
    ⟨{ sippakInit with cfg := { sippakInit.cfg with logLevel := MIN_LOG_LEVEL + 1 } },
      by decide, rfl, fun h => h.dest rfl⟩⟩
  · intro h
    exact absurd h.parses (by decide)
  · intro h
    obtain ⟨t, ht, hne⟩ := h.referTo rfl
    cases ht
    exact hne rfl

end Sippak
