/-
  File:      Sippak/Line.lean
  Subject:   THE CONFIGURATION OF A COMMAND LINE, field by field, for every command.

  A field belongs to the options that write it. A text is the last argument of its option,
  trimmed; a flag is set where its option is given at all; headers, proxies and log settings add
  up; `-M` decides event and content type behind the loop, and the username may come out of the
  destination.

  * `optLoop_textOpt`, `optLoop_flag` -- one lemma for all texts, one for all flags;
  * `optLoop_hdrs`, `optLoop_codecs` -- the lists;
  * `configured_of_line` -- **what a handler finds in the configuration**, as a function of the
    options and of the arguments that are none.
-/
import Sippak.Contact
import Sippak.Mod.NotifyParts
import Sippak.OptionOrder
import Sippak.RouteSet

namespace Sippak

open CStr FirstThen

/-! ## 1. Texts, flags and values -/

/-- The options whose argument goes into the configuration trimmed. -/
inductive TextOpt where
  | localHost | username | password | fromName | contact | referTo | body | userAgent
  deriving DecidableEq, Repr

def TextOpt.arg : TextOpt → Opt → Option CStr
  | .localHost, .localHost optarg => some optarg
  | .username, .username optarg => some optarg
  | .password, .password optarg => some optarg
  | .fromName, .fromName optarg => some optarg
  | .contact, .contact optarg => some optarg
  | .referTo, .referTo optarg => some optarg
  | .body, .body optarg => some optarg
  | .userAgent, .userAgent optarg => some optarg
  | _, _ => none

def TextOpt.field : TextOpt → Cfg → PjStr
  | .localHost => Cfg.localHost
  | .username => Cfg.username
  | .password => Cfg.password
  | .fromName => Cfg.fromName
  | .contact => Cfg.contact
  | .referTo => Cfg.referTo
  | .body => Cfg.body
  | .userAgent => Cfg.userAgent

/-- The options that set a flag. -/
inductive FlagOpt where
  | trailDot | clist | cancelAll | cancel
  deriving DecidableEq, Repr

def FlagOpt.opt : FlagOpt → Opt
  | .trailDot => .trailDot
  | .clist => .clist
  | .cancelAll => .cancelAll
  | .cancel => .cancel

def FlagOpt.field : FlagOpt → Cfg → Bool
  | .trailDot => Cfg.trailDot
  | .clist => Cfg.isClist
  | .cancelAll => Cfg.cancelAllReg
  | .cancel => Cfg.cancel

def Opt.nsArg : Opt → Option CStr
  | .ns optarg => some optarg
  | _ => none

def Opt.localPortArg : Opt → Option CStr
  | .localPort optarg => some optarg
  | _ => none

def Opt.protoArg : Opt → Option CStr
  | .proto optarg => some optarg
  | _ => none

def Opt.expiresArg : Opt → Option CStr
  | .expires optarg => some optarg
  | _ => none

def Opt.presStatusArg : Opt → Option CStr
  | .presStatus optarg => some optarg
  | _ => none

def Opt.presNoteArg : Opt → Option CStr
  | .presNote optarg => some optarg
  | _ => none

def Opt.rtpPortArg : Opt → Option CStr
  | .rtpPort optarg => some optarg
  | _ => none

def Opt.codecArg : Opt → Option CStr
  | .codec optarg => some optarg
  | _ => none

def Opt.headerArg : Opt → Option CStr
  | .header optarg => some optarg
  | _ => none

/-- The custom headers, as a `-H` argument is read. -/
def Cfg.headers (cfg : Cfg) : List (Option GenericHdr) := cfg.hdrs.items.map some

/-- The port for RTP, in the structure of the media. -/
def Cfg.rtpPort (cfg : Cfg) : Nat := cfg.media.rtpPort

/-- What `--expires` stores. -/
def expiresValue (optarg : CStr) : Nat := (atoi optarg % 2 ^ 32).toNat

/-- What `--pres-note` stores. -/
def noteValue (optarg : CStr) : PjStr := some ((trim optarg).take MAX_LEN_PRES_NOTE)

/-- What `-v` and `-q` do to the level, which is an `int`. -/
def levelStep (level : Int) : Opt → Int
  | .verbose (some optarg) => toInt (level + atoi optarg)
  | .verbose none => toInt (level + 1)
  | .quiet => 0
  | _ => level

/-- The codecs of the configuration are those of the choice. -/
def CodecChoice.Stored (cfg : Cfg) : CodecChoice → Prop
  | .refused => False
  | .all => cfg.media.cnt = NUM_CODECS_AVAIL
  | .explicit codecs =>
    cfg.media.cnt = codecs.length ∧ cfg.media.codec.toList.take codecs.length = codecs.map some

/-- The codecs of the last `--codec`, or G.711. -/
def codecsAsked (b : Build) (os : List Opt) : CodecChoice :=
  ((lastArg Opt.codecArg os).map fun s => codecChoice b (fields (· == ',') s)).getD
    (.explicit [.SIPPAK_CODEC_G711])

/-- The flags of the log that an option adds. -/
def Opt.decor : Opt → List LogDecor
  | .color => [.PJ_LOG_HAS_COLOR]
  | .logTime => [.PJ_LOG_HAS_TIME, .PJ_LOG_HAS_MICRO_SEC]
  | .logLevel => [.PJ_LOG_HAS_LEVEL_TEXT]
  | .logSnd => [.PJ_LOG_HAS_SENDER]
  | _ => []

/-! ## 2. After the loop -/

section Options

variable {b : Build} {lib : UriLib} {os : List Opt} {app app' : App}

/-- **A text** is the last argument of its option. -/
theorem optLoop_textOpt (t : TextOpt) (h : optLoop b lib app os = .ok (.next app')) :
    t.field app'.cfg = ((lastArg t.arg os).map trim).or (t.field app.cfg) := by
  refine optLoop_text (fun app app' o hs => ?_) h
  cases o with
  | localHost | username | password | fromName | contact | referTo | body | userAgent =>
      cases hs
      cases t <;> rfl
  | _ =>
      rw [optStep_write hs]
      cases t <;> rfl

/-- **A flag** is set where it was, or where its option is given. -/
theorem optLoop_flag (f : FlagOpt) (h : optLoop b lib app os = .ok (.next app')) :
    f.field app'.cfg = (f.field app.cfg || os.contains f.opt) := by
  have hfold : ∀ (os : List Opt) (c : Bool),
      os.foldl (fun c o => c || f.opt == o) c = (c || os.contains f.opt) := by
    intro os
    induction os with
    | nil => exact fun c => (Bool.or_false c).symm
    | cons o os ih =>
        intro c
        rw [List.foldl_cons, ih, List.contains_cons, Bool.or_assoc]
  have hstep : ∀ app app' o, optStep b lib app o = .ok (.next app') →
      f.field app'.cfg = (f.field app.cfg || f.opt == o) := by
    intro app app' o hs
    cases o with
    | trailDot | clist | cancelAll | cancel =>
        cases hs
        cases f <;> simp [FlagOpt.field, FlagOpt.opt]
    | _ =>
        rw [optStep_write hs]
        cases f <;> exact (Bool.or_false _).symm
  rw [optLoop_fold (f := fun c o => c || f.opt == o) hstep h, hfold]

/-- Any other value is that of its last argument. -/
theorem optLoop_ns (h : optLoop b lib app os = .ok (.next app')) :
    app'.cfg.nameservers = ((lastArg Opt.nsArg os).map some).getD app.cfg.nameservers := by
  refine optLoop_last (fun app app' o hs => ?_) h
  cases o with
  | ns => cases hs; rfl
  | _ =>
      rw [optStep_write hs]
      rfl

theorem optLoop_proto (h : optLoop b lib app os = .ok (.next app')) :
    app'.cfg.proto = ((lastArg Opt.protoArg os).map transportProto).getD app.cfg.proto := by
  refine optLoop_last (fun app app' o hs => ?_) h
  cases o with
  | proto => cases hs; rfl
  | _ =>
      rw [optStep_write hs]
      rfl

/-- The value of a port that was accepted. -/
theorem setPortValue_ok {t : CStr} {port : Nat} (h : setPortValue t = .ok port) :
    port = (atoi t).toNat := by
  unfold setPortValue at h
  split at h
  · cases h
  · split at h
    · cases h
    · cases h
      rfl

theorem optLoop_localPort (h : optLoop b lib app os = .ok (.next app')) :
    app'.cfg.localPort =
      ((lastArg Opt.localPortArg os).map fun t => (atoi t).toNat).getD app.cfg.localPort := by
  refine optLoop_last (fun app app' o hs => ?_) h
  cases o with
  | localPort optarg =>
      rw [optStep] at hs
      split at hs
      · cases hs
      · rename_i port hport
        cases hs
        exact setPortValue_ok hport
  | _ =>
      rw [optStep_write hs]
      rfl

theorem optLoop_expires (h : optLoop b lib app os = .ok (.next app')) :
    app'.cfg.expires = ((lastArg Opt.expiresArg os).map expiresValue).getD app.cfg.expires := by
  refine optLoop_last (fun app app' o hs => ?_) h
  cases o with
  | expires optarg =>
      rw [optStep] at hs
      split at hs
      · cases hs
      · cases hs
        rfl
  | _ =>
      rw [optStep_write hs]
      rfl

theorem optLoop_presStatus (h : optLoop b lib app os = .ok (.next app')) :
    app'.cfg.presStatusOpen =
      ((lastArg Opt.presStatusArg os).map fun t => !startsIgnoreCase t "closed".toList).getD
        app.cfg.presStatusOpen := by
  refine optLoop_last (fun app app' o hs => ?_) h
  cases o with
  | presStatus status =>
      cases hs
      show (presStatusOpen status app).cfg.presStatusOpen = !startsIgnoreCase status "closed".toList
      unfold presStatusOpen
      cases startsIgnoreCase status "closed".toList with
      | true => rfl
      | false =>
          rw [if_neg Bool.false_ne_true]
          split <;> rfl
  | _ =>
      rw [optStep_write hs]
      rfl

theorem optLoop_presNote (h : optLoop b lib app os = .ok (.next app')) :
    app'.cfg.presNote = ((lastArg Opt.presNoteArg os).map noteValue).getD app.cfg.presNote := by
  refine optLoop_last (fun app app' o hs => ?_) h
  cases o with
  | presNote note =>
      cases hs
      show (presNote note app).cfg.presNote = noteValue note
      unfold presNote noteValue
      split
      · rfl
      · rename_i hfit
        rw [List.take_of_length_le (Nat.le_of_not_lt hfit)]
  | _ =>
      rw [optStep_write hs]
      rfl

theorem optLoop_level (h : optLoop b lib app os = .ok (.next app')) :
    app'.cfg.logLevel = os.foldl levelStep app.cfg.logLevel := by
  refine optLoop_fold (fun app app' o hs => ?_) h
  cases o with
  | verbose optarg => cases optarg <;> (cases hs; rfl)
  | quiet => cases hs; rfl
  | _ =>
      rw [optStep_write hs]
      rfl

/-- **The log's flags** add up. -/
theorem optLoop_decor (h : optLoop b lib app os = .ok (.next app')) (d : LogDecor) :
    d ∈ app'.cfg.logDecor ↔ d ∈ app.cfg.logDecor ∨ ∃ o ∈ os, d ∈ o.decor := by
  induction os generalizing app with
  | nil =>
      cases h
      simp
  | cons o os ih =>
      rw [optLoop] at h
      split at h
      · cases h
      · cases h
      · rename_i app₁ hs
        have hone : d ∈ app₁.cfg.logDecor ↔ d ∈ app.cfg.logDecor ∨ d ∈ o.decor := by
          cases o with
          | color | logTime | logLevel | logSnd =>
              cases hs
              simp [Opt.decor, or_comm, or_assoc]
          | _ =>
              rw [optStep_write hs]
              simp [Opt.write, Opt.decor]
        rw [ih h, hone]
        simp [or_assoc]

theorem optLoop_rtpPort (h : optLoop b lib app os = .ok (.next app')) :
    app'.cfg.rtpPort =
      ((lastArg Opt.rtpPortArg os).map fun t => (atoi t).toNat).getD app.cfg.rtpPort := by
  refine optLoop_last (fun app app' o hs => ?_) h
  cases o with
  | rtpPort optarg =>
      rw [optStep] at hs
      split at hs
      · cases hs
      · rename_i port hport
        cases hs
        exact setPortValue_ok hport
  | _ =>
      rw [optStep_about hs]
      rfl

/-- **Every `-H` value is stored**, in the order given: the loop goes on behind none that is no
    header or has no slot left. -/
theorem optLoop_hdrs (h : optLoop b lib app os = .ok (.next app')) :
    app'.cfg.headers = app.cfg.headers ++ (os.filterMap Opt.headerArg).map headerGiven := by
  have hfold : ∀ (os : List Opt) (c : List (Option GenericHdr)),
      os.foldl (fun c o => c ++ (o.headerArg.map headerGiven).toList) c =
        c ++ (os.filterMap Opt.headerArg).map headerGiven := by
    intro os
    induction os with
    | nil => exact fun c => (List.append_nil c).symm
    | cons o os ih =>
        intro c
        rw [List.foldl_cons, ih, List.filterMap_cons, List.append_assoc]
        cases o.headerArg <;> rfl
  have hstep : ∀ app app' o, optStep b lib app o = .ok (.next app') →
      app'.cfg.headers = app.cfg.headers ++ (o.headerArg.map headerGiven).toList := by
    intro app app' o hs
    cases o with
    | header arg =>
        rw [optStep, addCustomHeader_eq] at hs
        cases hg : headerGiven arg with
        | none =>
            rw [hg] at hs
            cases hs
        | some hdr =>
            rw [hg] at hs
            cases hp : app.cfg.hdrs.push hdr with
            | none =>
                simp only [hp] at hs
                cases hs
            | some hdrs =>
                simp only [hp] at hs
                cases hs
                show hdrs.items.map some = app.cfg.hdrs.items.map some ++ [headerGiven arg]
                rw [(Slots.push_eq_some_iff.mp hp).2, List.map_append, hg]
                rfl
    | _ =>
        rw [optStep_write hs]
        exact (List.append_nil _).symm
  rw [optLoop_fold (f := fun c o => c ++ (o.headerArg.map headerGiven).toList) hstep h, hfold]

/-- `--codec` stores its choice, where it goes on. -/
theorem optStep_codec {s : CStr} (h : optStep b lib app (.codec s) = .ok (.next app')) :
    (codecChoice b (fields (· == ',') s)).Stored app'.cfg := by
  obtain ⟨status, app₁, hset, hmet⟩ := sippakSetMediaCodecsCfg_met b s app
  rw [optStep, hset] at h
  cases status with
  | PJ_EINVAL | PJ_CLI_EINVARG => cases h
  | PJ_SUCCESS =>
      cases h
      generalize codecChoice b (fields (· == ',') s) = choice at hmet
      cases choice with
      | refused => exact absurd hmet.1 (by decide)
      | all => exact hmet.2
      | explicit codecs => exact ⟨hmet.2.1, hmet.2.2.2⟩

/-- **The codecs** are those of the last `--codec`. -/
theorem optLoop_codecs {choice : CodecChoice} (hstart : choice.Stored app.cfg)
    (h : optLoop b lib app os = .ok (.next app')) :
    (((lastArg Opt.codecArg os).map fun s => codecChoice b (fields (· == ',') s)).getD
      choice).Stored app'.cfg := by
  induction os generalizing app choice with
  | nil =>
      cases h
      exact hstart
  | cons o os ih =>
      rw [optLoop] at h
      split at h
      · cases h
      · cases h
      · rename_i app₁ hs
        have hone : ((o.codecArg.map fun s => codecChoice b (fields (· == ',') s)).getD
            choice).Stored app₁.cfg := by
          cases o with
          | codec s => exact optStep_codec hs
          | _ =>
              rw [optStep_about hs]
              cases choice <;> exact hstart
        have hrest := ih hone h
        rw [lastArg]
        cases hl : lastArg Opt.codecArg os with
        | none =>
            rw [hl] at hrest
            exact hrest
        | some s =>
            rw [hl] at hrest
            exact hrest

end Options

/-! ## 3. Accepted lines -/

/-- `app` is what an accepted command line, with the options `os` in this order and the other
    arguments `left`, leaves for the handler `h`. -/
def CommandLine (b : Build) (lib : UriLib) (os : List Opt) (left : List CStr) (h : Handler)
    (app : App) : Prop :=
  ∃ getopt argv, sippakGetopts b lib getopt argv sippakInit = .ok (.PJ_SUCCESS, app) ∧
    mainSwitch app.cfg.cmd = .cmd h ∧ (getopt argv).1 = os ∧ (getopt argv).2 = left

/-- The command among the arguments that are no options. -/
def lineCommand : List CStr → Command
  | cmd :: _ :: _ => parseCommandStr cmd
  | _ => .CMD_PING

theorem parseArgvLeft_cmd {app : App} (hcmd : app.cfg.cmd = .CMD_PING) (left : List CStr) :
    (sippakParseArgvLeft app left).cfg.cmd = lineCommand left := by
  match left with
  | [] => exact hcmd
  | [_] => exact hcmd
  | cmd :: dest :: rest =>
      rw [sippakParseArgvLeft]
      split <;> rfl

/-- **The configuration of a line**, field by field. -/
structure Configured (b : Build) (lib : UriLib) (os : List Opt) (left : List CStr) (cfg : Cfg) :
    Prop where
  cmd : cfg.cmd = lineCommand left
  dest : cfg.dest = destArg left
  username : cfg.username = lineUsername lib os left
  text : ∀ t : TextOpt, t ≠ .username → t.field cfg = (lastArg t.arg os).map trim
  flag : ∀ f : FlagOpt, f.field cfg = os.contains f.opt
  nameservers : cfg.nameservers = lastArg Opt.nsArg os
  proto : cfg.proto =
    ((lastArg Opt.protoArg os).map transportProto).getD .PJSIP_TRANSPORT_UDP
  localPort : cfg.localPort = ((lastArg Opt.localPortArg os).map fun t => (atoi t).toNat).getD 0
  expires : cfg.expires = ((lastArg Opt.expiresArg os).map expiresValue).getD 3600
  presStatusOpen : cfg.presStatusOpen =
    ((lastArg Opt.presStatusArg os).map fun t => !startsIgnoreCase t "closed".toList).getD true
  presNote : cfg.presNote = ((lastArg Opt.presNoteArg os).map noteValue).getD none
  event : cfg.event = (lastArg Opt.eventArg os).map trim
  presEv : cfg.presEv =
    if (lastArg Opt.mwiArg os).isSome then .EVTYPE_MWI
    else ((lastArg Opt.eventArg os).map fun e => eventClass (trim e)).getD .EVTYPE_UNKNOWN
  ctype : cfg.ctypePart =
    if (lastArg Opt.mwiArg os).isSome then
      (⟨some "application".toList, some "simple-message-summary".toList⟩, .CTYPE_MWI)
    else ((lastArg Opt.contentTypeArg os).map fun t =>
      (setContentType t sippakInit).cfg.ctypePart).getD (⟨none, none⟩, .CTYPE_UNKNOWN)
  isMwi : cfg.isMwi = (lastArg Opt.mwiArg os).isSome
  mwi : cfg.mwi = ((lastArg Opt.mwiArg os).map mwiNumbers).getD (Vector.replicate 4 0)
  mwiAcc : cfg.mwiAcc.text =
    if (lastArg Opt.mwiArg os).isSome then mwiAccount (lastArg Opt.mwiAccArg os) (destArg left)
    else PjStr.text ((lastArg Opt.mwiAccArg os).map trim)
  rtpPort : cfg.rtpPort =
    ((lastArg Opt.rtpPortArg os).map fun t => (atoi t).toNat).getD SIPPAK_DEFAULT_RTP_PORT
  codecs : (codecsAsked b os).Stored cfg
  hdrs : cfg.headers = (os.filterMap Opt.headerArg).map headerGiven
  proxy : cfg.proxy.items = firstThen (routeStored lib) true (os.filterMap Opt.proxyArg)
  logLevel : cfg.logLevel = os.foldl levelStep MIN_LOG_LEVEL
  logDecor : ∀ d, d ∈ cfg.logDecor ↔
    d = .PJ_LOG_HAS_NEWLINE ∨ d = .PJ_LOG_HAS_INDENT ∨ ∃ o ∈ os, d ∈ o.decor

section Line

variable {b : Build} {lib : UriLib} {os : List Opt} {left : List CStr} {h : Handler} {app : App}

/-- The configuration of a line: that of its options with command and destination, then `-M`,
    then the username. -/
theorem CommandLine.cfg (hline : CommandLine b lib os left h app) : ∃ app₁ app₂,
    optLoop b lib sippakInit os = .ok (.next app₁) ∧
      app₂.cfg = { app₁.cfg with cmd := lineCommand left, dest := destArg left } ∧
      app.cfg = { (setupMwi app₂).cfg with username := lineUsername lib os left } := by
  obtain ⟨getopt, argv, hok, hcmd, hos, hleft⟩ := hline
  subst hos hleft
  have hne : ∀ c, (∀ h, mainSwitch c ≠ .cmd h) → app.cfg.cmd ≠ c :=
    fun c hc e => hc h (e ▸ hcmd)
  have hhelp : app.cfg.cmd ≠ .CMD_HELP := hne _ fun _ e => by cases e
  have hversion : app.cfg.cmd ≠ .CMD_VERSION := hne _ fun _ e => by cases e
  obtain ⟨app₁, hloop, hcfg⟩ := getopts_line hok hhelp hversion
  rw [(getopts_contact hok hhelp hversion).1] at hcfg
  refine ⟨app₁, sippakParseArgvLeft app₁ (getopt argv).2, hloop, ?_, hcfg⟩
  have hinit : app₁.cfg.dest = none ∧ app₁.cfg.cmd = .CMD_PING :=
    ⟨optLoop_dest hloop, (optLoop_fields hloop).cmd⟩
  have hframe := parseArgvLeft_frame app₁ (getopt argv).2
  rw [hinit.1, Option.or_none, parseArgvLeft_cmd hinit.2] at hframe
  exact hframe

/-- **What a handler finds in the configuration.** -/
theorem configured_of_line (hline : CommandLine b lib os left h app) :
    Configured b lib os left app.cfg := by
  obtain ⟨app₁, app₂, hloop, happ₂, hcfg⟩ := hline.cfg
  -- `-M` writes four fields, the rest is that of the loop
  have hframe := setupMwi_frame app₂
  rw [hframe, happ₂] at hcfg
  have his : app₁.cfg.isMwi = (lastArg Opt.mwiArg os).isSome := by
    rw [optLoop_isMwi hloop]
    cases lastArg Opt.mwiArg os <;> rfl
  have his₂ : app₂.cfg.isMwi = (lastArg Opt.mwiArg os).isSome := by
    rw [happ₂]
    exact his
  have hev := optLoop_event hloop
  have hacc := (optLoop_mwiAcc hloop).trans Option.or_none
  exact {
    cmd := by rw [hcfg]
    dest := by rw [hcfg]
    username := by rw [hcfg]
    text := fun t ht => by
      have htext := optLoop_textOpt t hloop
      rw [hcfg]
      cases t with
      | username => exact absurd rfl ht
      | localHost | password | fromName | contact | referTo | body | userAgent =>
          exact htext.trans Option.or_none
    flag := fun f => by
      have hflag := optLoop_flag f hloop
      rw [hcfg]
      cases f <;> exact hflag
    nameservers := by
      have hns := optLoop_ns hloop
      rw [hcfg]
      cases hl : lastArg Opt.nsArg os <;> (rw [hl] at hns; exact hns)
    proto := by rw [hcfg]; exact optLoop_proto hloop
    localPort := by rw [hcfg]; exact optLoop_localPort hloop
    expires := by rw [hcfg]; exact optLoop_expires hloop
    presStatusOpen := by rw [hcfg]; exact optLoop_presStatus hloop
    presNote := by rw [hcfg]; exact optLoop_presNote hloop
    event := by
      rw [hcfg]
      show app₁.cfg.eventPart.2 = _
      rw [hev]
      cases lastArg Opt.eventArg os <;> rfl
    presEv := by
      rw [hcfg]
      show (setupMwi app₂).cfg.presEv = _
      unfold setupMwi
      rw [his₂]
      split
      · rfl
      · rw [happ₂]
        show app₁.cfg.eventPart.1 = _
        rw [hev]
        cases lastArg Opt.eventArg os <;> rfl
    ctype := by
      rw [hcfg]
      show (setupMwi app₂).cfg.ctypePart = _
      unfold setupMwi
      rw [his₂]
      split
      · rfl
      · rw [happ₂]
        exact optLoop_ctype hloop
    isMwi := by rw [hcfg]; exact his
    mwi := by rw [hcfg]; exact optLoop_mwi hloop
    mwiAcc := by
      rw [hcfg]
      show (setupMwi app₂).cfg.mwiAcc.text = _
      unfold setupMwi
      rw [his₂]
      split
      · rw [happ₂]
        dsimp only
        rw [hacc]
        exact setupAccount_text _ _
      · rw [happ₂]
        exact congrArg PjStr.text hacc
    rtpPort := by rw [hcfg]; exact optLoop_rtpPort hloop
    codecs := by
      have hstart : (CodecChoice.explicit [.SIPPAK_CODEC_G711]).Stored sippakInit.cfg :=
        ⟨rfl, rfl⟩
      have hcodecs : (codecsAsked b os).Stored app₁.cfg := optLoop_codecs hstart hloop
      rw [hcfg]
      generalize codecsAsked b os = choice at hcodecs ⊢
      cases choice <;> exact hcodecs
    hdrs := by rw [hcfg]; exact optLoop_hdrs hloop
    proxy := by rw [hcfg]; exact optLoop_routes hloop
    logLevel := by rw [hcfg]; exact optLoop_level hloop
    logDecor := fun d => by
      have hdecor := optLoop_decor hloop d
      have hinit : d ∈ sippakInit.cfg.logDecor ↔
          d = .PJ_LOG_HAS_NEWLINE ∨ d = .PJ_LOG_HAS_INDENT := by
        show d ∈ [LogDecor.PJ_LOG_HAS_NEWLINE, .PJ_LOG_HAS_INDENT] ↔ _
        rw [List.mem_cons, List.mem_singleton]
      rw [hinit, or_assoc] at hdecor
      rw [hcfg]
      exact hdecor }

end Line

end Sippak
