/-
  File:      Sippak/Getopts.lean
  Subject:   THE COMMAND LINE (getopts.c): the option loop, its handlers, the left-over arguments
             and the final checks.

  `pj_getopt_long` is pjlib-util's and stays a parameter: from the argument vector it makes the
  options in the order it returns them (`Opt`, one constructor per case of the `switch`, with
  `pj_optarg` where the option takes an argument) and the arguments left from `pj_optind` on.
  Every handler is the function of the source under its name; `optStep` is the body of the
  loop, `sippakGetopts` the whole function. `exit(...)` is `Abort.exit` with the last log line.
-/
import Sippak.MediaHelper
import Sippak.Uri

namespace Sippak

open CStr

/-! ## 1. Values -/

/-- `parse_command_str`. -/
def parseCommandStr (cmd : CStr) : Command :=
  if startsIgnoreCase cmd "ping".toList then .CMD_PING
  else if startsIgnoreCase cmd "publish".toList then .CMD_PUBLISH
  else if startsIgnoreCase cmd "subscribe".toList then .CMD_SUBSCRIBE
  else if startsIgnoreCase cmd "notify".toList then .CMD_NOTIFY
  else if startsIgnoreCase cmd "register".toList then .CMD_REGISTER
  else if startsIgnoreCase cmd "refer".toList then .CMD_REFER
  else if startsIgnoreCase cmd "message".toList then .CMD_MESSAGE
  else if startsIgnoreCase cmd "invite".toList then .CMD_INVITE
  else .CMD_UNKNOWN

/-- `transport_proto`. -/
def transportProto (proto : CStr) : Transport :=
  if startsIgnoreCase proto "tcp".toList then .PJSIP_TRANSPORT_TCP else .PJSIP_TRANSPORT_UDP

/-- `pjstr_trimmed`. The result points into the argument, so it is never NULL. -/
def pjstrTrimmed (optarg : CStr) : PjStr := some (trim optarg)

/-- `is_string_numeric`. -/
def isStringNumeric (optarg : CStr) : Bool := (trim optarg).all isDigit

/-- `set_port_value`. -/
def setPortValue (portStr : CStr) : Except Abort Nat :=
  if !isStringNumeric portStr then
    .error (.exit .PJ_CLI_EINVARG ⟨1, PROJECT_NAME, "Invalid port: ".toList ++ portStr ++ ['.']⟩)
  else if atoi portStr < 1 ∨ (2 <<< 15) - 1 < atoi portStr then
    .error (.exit .PJ_CLI_EINVARG ⟨1, PROJECT_NAME, "Invalid port: ".toList ++ portStr ++
      ". Expected value must be between 1 and 65535.".toList⟩)
  else .ok (atoi portStr).toNat

/-! ## 2. Custom headers and proxies -/

/-- `add_custom_header`. -/
def addCustomHeader (inHeader : CStr) (app : App) : Except Abort (Status × App) :=
  if MAX_CUSTOM_HEADERS < app.cfg.hdrs.cnt then
    .ok (.PJ_SUCCESS, app.pjLog 2 PROJECT_NAME
      ("Only 12 max custom headers allowed. Skip header: ".toList ++ inHeader))
  else match cutAt ':' (ltrim inHeader) with
    | none =>
      .ok (.PJ_EINVAL, app.pjLog 1 PROJECT_NAME ("Invalid header: ".toList ++ ltrim inHeader))
    | some (hname, rest) =>
      match app.cfg.hdrs.push ⟨hname, ltrim rest⟩ with
      | none => .error .outOfBounds
      | some hdrs => .ok (.PJ_SUCCESS, { app with cfg := { app.cfg with hdrs := hdrs } })

/-- `uri->lr_param = 1`. -/
def setLrParam (uri : Uri) : Except Abort Uri :=
  match uri.sipUri with
  | .error e => .error e
  | .ok u => .ok (.sip { u with lrParam := true })

/-- `if (app->cfg.proxy.cnt == 0) uri->lr_param = 1;` -/
def forceLr (first : Bool) (uri : Uri) : Except Abort Uri :=
  if first then setLrParam uri else .ok uri

/-- `add_proxy`. -/
def addProxy (lib : UriLib) (proxy : CStr) (app : App) : Except Abort App :=
  if MAX_PROXY_HEADERS < app.cfg.proxy.cnt then
    .ok (app.pjLog 2 PROJECT_NAME ("Max proxy allowed is 12. Skip proxy '".toList ++ proxy ++
      "'.".toList))
  else match lib.parseUri (some (ltrim proxy)) with
    | none =>
      .ok (app.pjLog 2 PROJECT_NAME ("Failed to parse proxy URI '".toList ++ ltrim proxy ++
        "'.".toList))
    | some uri =>
      match forceLr (app.cfg.proxy.cnt == 0) uri with
      | .error e => .error e
      | .ok uri =>
        match lib.printUri .PJSIP_URI_IN_ROUTING_HDR uri PJSIP_MAX_URL_SIZE with
        | none => .ok app
        | some proxyUri =>
          if 0 < proxyUri.length then
            match app.cfg.proxy.push proxyUri with
            | none => .error .outOfBounds
            | some proxies => .ok { app with cfg := { app.cfg with proxy := proxies } }
          else .ok app

/-! ## 3. Presence, content type, message waiting, event -/

/-- `pres_status_open`. -/
def presStatusOpen (status : CStr) (app : App) : App :=
  if startsIgnoreCase status "closed".toList then
    { app with cfg := { app.cfg with presStatusOpen := false } }
  else if startsIgnoreCase status "open".toList then
    { app with cfg := { app.cfg with presStatusOpen := true } }
  else
    App.pjLog { app with cfg := { app.cfg with presStatusOpen := true } } 2 PROJECT_NAME
      ("Unknown presence status '".toList ++ status ++ "'. Will use 'open'.".toList)

/-- `pres_note`. -/
def presNote (note : CStr) (app : App) : App :=
  if MAX_LEN_PRES_NOTE < (trim note).length then
    App.pjLog
      { app with cfg := { app.cfg with presNote := some ((trim note).take MAX_LEN_PRES_NOTE) } }
      2 PROJECT_NAME
      "Note message is too long. Max 64 char allowed. Message is stripped.".toList
  else { app with cfg := { app.cfg with presNote := some (trim note) } }

/-- `set_content_type`. It does not ask whether a token was found, so that what it stores depends
    on what `pj_strtok` leaves in the token where there is none. -/
def setContentTypeLeft (left : CStr → Nat → CStr) (type : CStr) (app : App) : App :=
  let value := trim type
  if startsIgnoreCase value "pidf".toList then
    { app with cfg := { app.cfg with
      ctypeMedia := ⟨some "application".toList, some "pidf+xml".toList⟩, ctypeE := .CTYPE_PIDF } }
  else if startsIgnoreCase value "xpidf".toList then
    { app with cfg := { app.cfg with
      ctypeMedia := ⟨some "application".toList, some "xpidf+xml".toList⟩, ctypeE := .CTYPE_XPIDF } }
  else if startsIgnoreCase value "mwi".toList then
    { app with cfg := { app.cfg with
      ctypeMedia := ⟨some "application".toList, some "simple-message-summary".toList⟩,
      ctypeE := .CTYPE_MWI } }
  else if '/' ∈ value then
    let first := strtokLeft left (· == '/') value 0
    let second := strtokLeft left (· == '/') value (first.1 + first.2.length)
    { app with cfg := { app.cfg with
      ctypeMedia := ⟨some first.2, some second.2⟩, ctypeE := .CTYPE_OTHER } }
  else
    { app with cfg := { app.cfg with
      ctypeMedia := ⟨some "application".toList, some value⟩, ctypeE := .CTYPE_OTHER } }

/-- `set_content_type` with pjlib's `pj_strtok`. -/
def setContentType (type : CStr) (app : App) : App := setContentTypeLeft restLeft type app

/-- The loop of `set_mwi_list`: the next slot and the array; the error is the loop condition
    `mwi_idx < 4` failing. -/
def mwiBody (st : Nat × Vector Int 4) (tok : CStr) :
    Except (Nat × Vector Int 4) (Nat × Vector Int 4) :=
  if h : st.1 < 4 then .ok (st.1 + 1, st.2.set st.1 (toInt (strtol tok)) h) else .error st

/-- `set_mwi_list`. -/
def setMwiList (mwiListStr : CStr) (app : App) : App :=
  let mwi :=
    match forTokens (· == ',') mwiListStr mwiBody (mwiListStr.length + 1) 0
      (0, Vector.replicate 4 0) with
    | .ok st => st.2
    | .error st => st.2
  { app with cfg := { app.cfg with mwi := mwi, isMwi := true } }

/-- `set_event`. -/
def setEvent (event : CStr) (app : App) : App :=
  let value := trim event
  let presEv : EvType :=
    if startsIgnoreCase value "presence".toList then .EVTYPE_PRES
    else if startsIgnoreCase value "mwi".toList || startsIgnoreCase value "message-summary".toList
    then .EVTYPE_MWI
    else .EVTYPE_OTHER
  { app with cfg := { app.cfg with presEv := presEv, event := some value } }

/-! ## 4. The option loop -/

/-- What `pj_getopt_long` returns, with `pj_optarg`. -/
inductive Opt where
  | help | version
  | ns (optarg : CStr)
  | color | trailDot | logTime | logLevel | logSnd
  | localPort (optarg : CStr)
  | localHost (optarg : CStr)
  | username (optarg : CStr)
  | password (optarg : CStr)
  | fromName (optarg : CStr)
  | proto (optarg : CStr)
  | verbose (optarg : PjStr)
  | quiet
  | expires (optarg : CStr)
  | presStatus (optarg : CStr)
  | presNote (optarg : CStr)
  | contentType (optarg : CStr)
  | event (optarg : CStr)
  | mwi (optarg : CStr)
  | mwiAcc (optarg : CStr)
  | clist | cancelAll | cancel
  | contact (optarg : CStr)
  | referTo (optarg : CStr)
  | body (optarg : CStr)
  | codec (optarg : CStr)
  | rtpPort (optarg : CStr)
  | userAgent (optarg : CStr)
  | header (optarg : CStr)
  | proxy (optarg : CStr)
  /-- The `default` case: an option `pj_getopt_long` did not recognise. -/
  | unknown
  deriving DecidableEq, Repr

/-- How one round of the option loop ends: with `break`, or with a `return`. -/
inductive OptResult where
  | next (app : App)
  | ret (status : Status) (app : App)
  deriving DecidableEq, Repr

/-- A case of the `switch` that assigns fields and breaks. -/
def OptResult.set (app : App) (cfg : Cfg) : Except Abort OptResult :=
  .ok (.next { app with cfg := cfg })

/-- One round of the option loop. -/
def optStep (b : Build) (lib : UriLib) (app : App) : Opt → Except Abort OptResult
  | .help => .ok (.ret .PJ_SUCCESS { app with cfg := { app.cfg with cmd := .CMD_HELP } })
  | .version => .ok (.ret .PJ_SUCCESS { app with cfg := { app.cfg with cmd := .CMD_VERSION } })
  | .ns optarg => OptResult.set app { app.cfg with nameservers := some optarg }
  | .color =>
    OptResult.set app { app.cfg with logDecor := app.cfg.logDecor.insert .PJ_LOG_HAS_COLOR }
  | .trailDot => OptResult.set app { app.cfg with trailDot := true }
  | .logTime =>
    OptResult.set app { app.cfg with
      logDecor := (app.cfg.logDecor.insert .PJ_LOG_HAS_TIME).insert .PJ_LOG_HAS_MICRO_SEC }
  | .logLevel =>
    OptResult.set app { app.cfg with logDecor := app.cfg.logDecor.insert .PJ_LOG_HAS_LEVEL_TEXT }
  | .logSnd =>
    OptResult.set app { app.cfg with logDecor := app.cfg.logDecor.insert .PJ_LOG_HAS_SENDER }
  | .localPort optarg =>
    match setPortValue optarg with
    | .error e => .error e
    | .ok port => OptResult.set app { app.cfg with localPort := port }
  | .localHost optarg => OptResult.set app { app.cfg with localHost := pjstrTrimmed optarg }
  | .username optarg => OptResult.set app { app.cfg with username := pjstrTrimmed optarg }
  | .password optarg => OptResult.set app { app.cfg with password := pjstrTrimmed optarg }
  | .fromName optarg => OptResult.set app { app.cfg with fromName := pjstrTrimmed optarg }
  | .proto optarg => OptResult.set app { app.cfg with proto := transportProto optarg }
  -- `log_level` is an `int`: the sum wraps where it does not fit
  | .verbose (some optarg) =>
    OptResult.set app { app.cfg with logLevel := toInt (app.cfg.logLevel + atoi optarg) }
  | .verbose none => OptResult.set app { app.cfg with logLevel := toInt (app.cfg.logLevel + 1) }
  | .quiet => OptResult.set app { app.cfg with logLevel := 0 }
  | .expires optarg =>
    if !isStringNumeric optarg then
      .error (.exit .PJ_CLI_EINVARG ⟨1, PROJECT_NAME, "Invalid expires value: ".toList ++ optarg ++
        ". Must be numeric.".toList⟩)
    else OptResult.set app { app.cfg with expires := (atoi optarg % 2 ^ 32).toNat }
  | .presStatus optarg => .ok (.next (presStatusOpen optarg app))
  | .presNote optarg => .ok (.next (presNote optarg app))
  | .contentType optarg => .ok (.next (setContentType optarg app))
  | .event optarg => .ok (.next (setEvent optarg app))
  | .mwi optarg => .ok (.next (setMwiList optarg app))
  | .mwiAcc optarg => OptResult.set app { app.cfg with mwiAcc := pjstrTrimmed optarg }
  | .clist => OptResult.set app { app.cfg with isClist := true }
  | .cancelAll => OptResult.set app { app.cfg with cancelAllReg := true }
  | .cancel => OptResult.set app { app.cfg with cancel := true }
  | .contact optarg => OptResult.set app { app.cfg with contact := pjstrTrimmed optarg }
  | .referTo optarg => OptResult.set app { app.cfg with referTo := pjstrTrimmed optarg }
  | .body optarg => OptResult.set app { app.cfg with body := pjstrTrimmed optarg }
  | .codec optarg =>
    match sippakSetMediaCodecsCfg b optarg app with
    | .error e => .error e
    | .ok (.PJ_SUCCESS, app) => .ok (.next app)
    | .ok (_, app) =>
      .error (.exit .PJ_CLI_EINVARG (app.log.getLastD ⟨1, MediaHelper.NAME, []⟩))
  | .rtpPort optarg =>
    match setPortValue optarg with
    | .error e => .error e
    | .ok port => OptResult.set app { app.cfg with media := { app.cfg.media with rtpPort := port } }
  | .userAgent optarg => OptResult.set app { app.cfg with userAgent := pjstrTrimmed optarg }
  | .header optarg =>
    match addCustomHeader optarg app with
    | .error e => .error e
    | .ok (.PJ_SUCCESS, app) => .ok (.next app)
    | .ok (_, app) => .ok (.ret .PJ_CLI_EINVARG app)
  | .proxy optarg =>
    match addProxy lib optarg app with
    | .error e => .error e
    | .ok app => .ok (.next app)
  | .unknown => .ok (.next app)

/-- The option loop over all options `pj_getopt_long` returns. -/
def optLoop (b : Build) (lib : UriLib) : App → List Opt → Except Abort OptResult
  | app, [] => .ok (.next app)
  | app, o :: os =>
    match optStep b lib app o with
    | .error e => .error e
    | .ok (.ret status app) => .ok (.ret status app)
    | .ok (.next app) => optLoop b lib app os

/-! ## 5. After the options -/

/-- `sippak_parse_argv_left`, on the arguments from `pj_optind` on. -/
def sippakParseArgvLeft (app : App) : List CStr → App
  | [] => app
  | [dest] => { app with cfg := { app.cfg with dest := some dest } }
  | cmd :: dest :: rest =>
    let app := { app with cfg := { app.cfg with cmd := parseCommandStr cmd, dest := some dest } }
    if rest = [] then app else app.pjLog 3 PROJECT_NAME "Extra arguments will be skipped".toList

/-- The part of `post_parse_setup` that makes `--mwi` decide event and content type. -/
def setupMwi (app : App) : App :=
  if app.cfg.isMwi then
    { app with cfg := { app.cfg with
      presEv := .EVTYPE_MWI
      ctypeMedia := ⟨some "application".toList, some "simple-message-summary".toList⟩
      ctypeE := .CTYPE_MWI
      mwiAcc := if PjStr.slen app.cfg.mwiAcc = 0 then app.cfg.dest else app.cfg.mwiAcc } }
  else app

/-- The fields it may write. -/
theorem setupMwi_frame (app : App) :
    (setupMwi app).cfg = { app.cfg with
      presEv := (setupMwi app).cfg.presEv
      ctypeMedia := (setupMwi app).cfg.ctypeMedia
      ctypeE := (setupMwi app).cfg.ctypeE
      mwiAcc := (setupMwi app).cfg.mwiAcc } := by
  unfold setupMwi
  split <;> rfl

/-- It touches nothing the other checks look at. -/
theorem setupMwi_fields (app : App) :
    (setupMwi app).cfg.cmd = app.cfg.cmd ∧ (setupMwi app).cfg.dest = app.cfg.dest ∧
      (setupMwi app).cfg.username = app.cfg.username ∧
      (setupMwi app).cfg.referTo = app.cfg.referTo ∧ (setupMwi app).cfg.body = app.cfg.body := by
  rw [setupMwi_frame]
  exact ⟨rfl, rfl, rfl, rfl, rfl⟩

/-- The part of `post_parse_setup` that takes the username from the destination. -/
def setupUsername (lib : UriLib) (app : App) : Except Abort App :=
  if app.cfg.username = none ∧ app.cfg.dest ≠ none then
    match lib.parseUri app.cfg.dest with
    | none =>
      .error (.exit .PJ_CLI_EINVARG ⟨1, PROJECT_NAME,
        "Failed to parse destination URI: ".toList ++ PjStr.text app.cfg.dest⟩)
    | some destUri =>
      match destUri.sipUri with
      | .error e => .error e
      | .ok u => .ok { app with cfg := { app.cfg with username := u.user } }
  else .ok app

/-- `post_parse_setup`. -/
def postParseSetup (lib : UriLib) (app : App) : Except Abort App :=
  if app.cfg.cmd = .CMD_REFER ∧ app.cfg.referTo = none then
    .error (.exit .PJ_CLI_EINVARG ⟨1, PROJECT_NAME,
      "Failed. Requires parameter \"--to\" to initiate REFER request.".toList⟩)
  else if app.cfg.cmd = .CMD_MESSAGE ∧ app.cfg.body = none then
    .error (.exit .PJ_CLI_EINVARG ⟨1, PROJECT_NAME,
      "Failed. Requires parameter \"--body\" to initiate MESSAGE.".toList⟩)
  else setupUsername lib (setupMwi app)

/-- `pj_getopt_long` over a whole argument vector: the options, then what is left. -/
abbrev GetoptLong := List CStr → List Opt × List CStr

/-- `sippak_getopts`. -/
def sippakGetopts (b : Build) (lib : UriLib) (getopt : GetoptLong) (argv : List CStr) (app : App) :
    Except Abort (Status × App) :=
  if argv.length = 1 then
    .ok (.PJ_SUCCESS, { app with cfg := { app.cfg with cmd := .CMD_HELP } })
  else match optLoop b lib app (getopt argv).1 with
    | .error e => .error e
    | .ok (.ret status app) => .ok (status, app)
    | .ok (.next app) =>
      match postParseSetup lib (sippakParseArgvLeft app (getopt argv).2) with
      | .error e => .error e
      | .ok app => .ok (.PJ_SUCCESS, app)

end Sippak
