/-
  File:      Sippak/OptionOrder.lean
  Subject:   THE ORDER OF THE OPTIONS: what it decides, and what it does not.

  The configuration falls into fields that options write (`Field`), and each option is about one
  of them: what it does there depends on that field alone, the log and all others left aside
  (`optStep_local`). So options of different fields commute, and only the order among the
  options of one field matters: `-v` and `-q`, the `-R` values, two `-u`.

  * `optLoop_iff` -- the loop is the run of `optCfg` over the options, without the log;
  * `optLoop_order` -- **lists with the same options per field have the same outcome**;
  * `getopts_order` -- the same of whole command lines.
-/
import Sippak.CodecList
import Sippak.Lib.Reorder
import Sippak.Options

namespace Sippak

open CStr Reorder

/-! ## 1. Fields -/

/-- The fields. `--codec` and `--rtp-port` write different fields of `media`, no option writes
    `dest`, and an unknown option writes nothing. -/
inductive Field where
  | cmd | nameservers | logDecor | trailDot | localPort | localHost | username | password
  | fromName | proto | logLevel | expires | presStatusOpen | presNote | ctype | event | mwi
  | mwiAcc | isClist | cancelAllReg | cancel | contact | referTo | body | codecs | rtpPort
  | userAgent | hdrs | proxy | dest | nothing
  deriving DecidableEq, Repr

/-- `old` with the field of `new`. -/
def Field.write (k : Field) (new old : Cfg) : Cfg :=
  match k with
  | .cmd => { old with cmd := new.cmd }
  | .nameservers => { old with nameservers := new.nameservers }
  | .logDecor => { old with logDecor := new.logDecor }
  | .trailDot => { old with trailDot := new.trailDot }
  | .localPort => { old with localPort := new.localPort }
  | .localHost => { old with localHost := new.localHost }
  | .username => { old with username := new.username }
  | .password => { old with password := new.password }
  | .fromName => { old with fromName := new.fromName }
  | .proto => { old with proto := new.proto }
  | .logLevel => { old with logLevel := new.logLevel }
  | .expires => { old with expires := new.expires }
  | .presStatusOpen => { old with presStatusOpen := new.presStatusOpen }
  | .presNote => { old with presNote := new.presNote }
  | .ctype => { old with ctypeMedia := new.ctypeMedia, ctypeE := new.ctypeE }
  | .event => { old with presEv := new.presEv, event := new.event }
  | .mwi => { old with mwi := new.mwi, isMwi := new.isMwi }
  | .mwiAcc => { old with mwiAcc := new.mwiAcc }
  | .isClist => { old with isClist := new.isClist }
  | .cancelAllReg => { old with cancelAllReg := new.cancelAllReg }
  | .cancel => { old with cancel := new.cancel }
  | .contact => { old with contact := new.contact }
  | .referTo => { old with referTo := new.referTo }
  | .body => { old with body := new.body }
  | .codecs =>
    { old with media := { old.media with cnt := new.media.cnt, codec := new.media.codec } }
  | .rtpPort => { old with media := { old.media with rtpPort := new.media.rtpPort } }
  | .userAgent => { old with userAgent := new.userAgent }
  | .hdrs => { old with hdrs := new.hdrs }
  | .proxy => { old with proxy := new.proxy }
  | .dest => { old with dest := new.dest }
  | .nothing => old

/-- The field an option is about. -/
def Opt.about : Opt → Field
  | .help | .version => .cmd
  | .ns _ => .nameservers
  | .color | .logTime | .logLevel | .logSnd => .logDecor
  | .trailDot => .trailDot
  | .localPort _ => .localPort
  | .localHost _ => .localHost
  | .username _ => .username
  | .password _ => .password
  | .fromName _ => .fromName
  | .proto _ => .proto
  | .verbose _ | .quiet => .logLevel
  | .expires _ => .expires
  | .presStatus _ => .presStatusOpen
  | .presNote _ => .presNote
  | .contentType _ => .ctype
  | .event _ => .event
  | .mwi _ => .mwi
  | .mwiAcc _ => .mwiAcc
  | .clist => .isClist
  | .cancelAll => .cancelAllReg
  | .cancel => .cancel
  | .contact _ => .contact
  | .referTo _ => .referTo
  | .body _ => .body
  | .codec _ => .codecs
  | .rtpPort _ => .rtpPort
  | .userAgent _ => .userAgent
  | .header _ => .hdrs
  | .proxy _ => .proxy
  | .unknown => .nothing

/-- The fields are parts of the configuration. -/
def cfgParts : Parts Field Cfg where
  write := Field.write
  self k c := by cases k <;> rfl
  source k x c d := by cases k <;> rfl
  foreign k k' x c d hk := by cases k <;> cases k' <;> first | rfl | exact absurd rfl hk
  ext c d h := by
    have hmedia : c.media = d.media := by
      have hcodecs := congrArg Cfg.media (h .codecs)
      have hport := congrArg (·.media.rtpPort) (h .rtpPort)
      exact (congrArg (fun n => { c.media with rtpPort := n }) hport).trans hcodecs
    obtain ⟨⟩ := c
    obtain ⟨⟩ := d
    rw [Cfg.mk.injEq]
    exact ⟨congrArg Cfg.cmd (h .cmd), congrArg Cfg.logLevel (h .logLevel),
      congrArg Cfg.logDecor (h .logDecor), congrArg Cfg.trailDot (h .trailDot),
      congrArg Cfg.dest (h .dest), congrArg Cfg.nameservers (h .nameservers),
      congrArg Cfg.localPort (h .localPort), congrArg Cfg.localHost (h .localHost),
      congrArg Cfg.username (h .username), congrArg Cfg.password (h .password),
      congrArg Cfg.fromName (h .fromName), congrArg Cfg.proto (h .proto),
      congrArg Cfg.expires (h .expires), congrArg Cfg.presStatusOpen (h .presStatusOpen),
      congrArg Cfg.presNote (h .presNote), congrArg Cfg.presEv (h .event),
      congrArg Cfg.event (h .event), congrArg Cfg.ctypeE (h .ctype),
      congrArg Cfg.ctypeMedia (h .ctype), congrArg Cfg.isMwi (h .mwi), congrArg Cfg.mwi (h .mwi),
      congrArg Cfg.mwiAcc (h .mwiAcc), congrArg Cfg.isClist (h .isClist),
      congrArg Cfg.cancelAllReg (h .cancelAllReg), congrArg Cfg.cancel (h .cancel),
      congrArg Cfg.contact (h .contact), congrArg Cfg.referTo (h .referTo),
      congrArg Cfg.body (h .body), hmedia, congrArg Cfg.userAgent (h .userAgent),
      congrArg Cfg.hdrs (h .hdrs), congrArg Cfg.proxy (h .proxy)⟩

/-! ## 2. An option is about its field -/

/-- The configuration a round of the loop leaves, where it goes on. -/
def nextCfg : Except Abort OptResult → Option Cfg
  | .ok (.next app) => some app.cfg
  | _ => none

section Codecs

variable {b : Build} {c : Cfg}

/-- Two states of the codec loop that differ in the other fields and the log: those of the first
    are the ones of `c`. -/
inductive Alike (c : Cfg) : Except (Except Abort (Status × App)) (Nat × App) →
    Except (Except Abort (Status × App)) (Nat × App) → Prop where
  | next {i : Nat} {a a' : App} : a.cfg = Field.codecs.write a'.cfg c →
      Alike c (.ok (i, a)) (.ok (i, a'))
  | left {s : Status} {a a' : App} : a.cfg = Field.codecs.write a'.cfg c →
      Alike c (.error (.ok (s, a))) (.error (.ok (s, a')))
  | abort {e : Abort} : Alike c (.error (.error e)) (.error (.error e))

theorem write_setMedia {a a' : App} (h : a.cfg = Field.codecs.write a'.cfg c) {m m' : Media}
    (hcnt : m.cnt = m'.cnt) (hcodec : m.codec = m'.codec)
    (hport : m.rtpPort = a.cfg.media.rtpPort) :
    (a.setMedia m).cfg = Field.codecs.write (a'.setMedia m').cfg c := by
  obtain ⟨cnt, codec, port⟩ := m
  dsimp only at hcnt hcodec hport
  subst hcnt hcodec hport
  unfold App.setMedia
  dsimp only
  rw [h]
  rfl

/-- A round of the codec loop. -/
theorem codecsCfgBody_alike {a a' : App} (h : a.cfg = Field.codecs.write a'.cfg c) (i : Nat)
    (tok : CStr) : Alike c (codecsCfgBody b (i, a) tok) (codecsCfgBody b (i, a') tok) := by
  have hcnt : a.cfg.media.cnt = a'.cfg.media.cnt := by rw [h]; rfl
  have hcodec : a.cfg.media.codec = a'.cfg.media.codec := by rw [h]; rfl
  cases hp : codecStrParse tok with
  | none =>
      unfold codecsCfgBody
      rw [hp]
      exact .left h
  | some codec =>
      by_cases hall : codec = .SIPPAK_CODEC_ALL
      · subst hall
        unfold codecsCfgBody
        rw [hp]
        exact .left (write_setMedia h rfl hcodec rfl)
      · rw [codecsCfgBody_of_codec _ hp hall, codecsCfgBody_of_codec _ hp hall]
        dsimp only
        rw [hcodec]
        split
        · exact .left h
        · split
          · exact .next h
          · split
            · exact .next (write_setMedia h hcnt rfl rfl)
            · exact .abort

/-- The loop. -/
theorem codecsCfg_alike (toks : List CStr) {a a' : App}
    (h : a.cfg = Field.codecs.write a'.cfg c) (i : Nat) :
    Alike c (toks.foldlM (codecsCfgBody b) (i, a)) (toks.foldlM (codecsCfgBody b) (i, a')) := by
  induction toks generalizing i a a' with
  | nil => exact .next h
  | cons tok toks ih =>
      rw [List.foldlM_cons, List.foldlM_cons]
      have hbody := codecsCfgBody_alike (b := b) h i tok
      generalize codecsCfgBody b (i, a) tok = r at hbody
      generalize codecsCfgBody b (i, a') tok = r' at hbody
      cases hbody with
      | next h₁ => exact ih h₁ _
      | left h₁ => exact .left h₁
      | abort => exact .abort

end Codecs

section Local

variable {b : Build} {lib : UriLib} {app app' : App}

/-- `--codec` is about its two fields. -/
theorem optStep_codec_local {s : CStr} (h : Field.codecs.write app.cfg app'.cfg = app'.cfg) :
    nextCfg (optStep b lib app (.codec s)) =
      (nextCfg (optStep b lib app' (.codec s))).map fun x => Field.codecs.write x app.cfg := by
  have hcfg : app.cfg = Field.codecs.write app'.cfg app.cfg := by
    rw [← h]
    exact ((cfgParts.source .codecs app.cfg app'.cfg app.cfg).trans (cfgParts.self _ _)).symm
  have hloop := codecsCfg_alike (b := b) (fields (· == ',') s) hcfg 0
  rw [optStep, optStep]
  unfold sippakSetMediaCodecsCfg
  rw [forTokens_fields, forTokens_fields]
  generalize (fields (· == ',') s).foldlM (codecsCfgBody b) (0, app) = r at hloop
  generalize (fields (· == ',') s).foldlM (codecsCfgBody b) (0, app') = r' at hloop
  cases hloop with
  | next h₁ =>
      have hcodec := congrArg (·.media.codec) h₁
      exact congrArg some (write_setMedia h₁ rfl hcodec rfl)
  | @left status _ _ h₁ =>
      cases status with
      | PJ_SUCCESS => exact congrArg some h₁
      | PJ_EINVAL | PJ_CLI_EINVARG => rfl
  | abort => rfl

/-- `-H` is about its table. -/
theorem optStep_header_local {arg : CStr} (h : Field.hdrs.write app.cfg app'.cfg = app'.cfg) :
    nextCfg (optStep b lib app (.header arg)) =
      (nextCfg (optStep b lib app' (.header arg))).map fun x => Field.hdrs.write x app.cfg := by
  have hhdrs : app.cfg.hdrs = app'.cfg.hdrs := by rw [← h]; rfl
  rw [optStep, optStep, addCustomHeader_eq, addCustomHeader_eq, hhdrs]
  cases headerGiven arg with
  | none => rfl
  | some hdr =>
      dsimp only
      cases app'.cfg.hdrs.push hdr with
      | none => rfl
      | some hdrs => rfl

/-- `-R` is about its table. -/
theorem optStep_proxy_local {arg : CStr} (h : Field.proxy.write app.cfg app'.cfg = app'.cfg) :
    nextCfg (optStep b lib app (.proxy arg)) =
      (nextCfg (optStep b lib app' (.proxy arg))).map fun x => Field.proxy.write x app.cfg := by
  have hproxy : app.cfg.proxy = app'.cfg.proxy := by rw [← h]; rfl
  have hskip : some (skipProxy lib arg app).cfg =
      (some (skipProxy lib arg app').cfg).map fun x => Field.proxy.write x app.cfg := by
    rw [skipProxy_cfg, skipProxy_cfg, Option.map_some]
    unfold Field.write
    dsimp only
    rw [← hproxy]
  rw [optStep, optStep, addProxy_eq, addProxy_eq, hproxy]
  cases routeText lib (app'.cfg.proxy.cnt == 0) arg with
  | error e => rfl
  | ok p =>
      cases p with
      | none => exact hskip
      | some p =>
          dsimp only
          cases app'.cfg.proxy.push p with
          | none => rfl
          | some proxy => rfl

/-- **An option is about its field**: what it does there is the same in any configuration that
    has the same there, whatever was logged, and it keeps the other fields. -/
theorem optStep_local {o : Opt} (h : o.about.write app.cfg app'.cfg = app'.cfg) :
    nextCfg (optStep b lib app o) =
      (nextCfg (optStep b lib app' o)).map fun x => o.about.write x app.cfg := by
  cases o with
  | codec => exact optStep_codec_local h
  | header => exact optStep_header_local h
  | proxy => exact optStep_proxy_local h
  | help | version | ns | trailDot | localHost | username | password | fromName | proto | quiet
  | mwiAcc | clist | cancelAll | cancel | contact | referTo | body | userAgent | unknown | event
  | mwi => rfl
  | color | logTime | logLevel | logSnd =>
      have hdecor : app.cfg.logDecor = app'.cfg.logDecor := by rw [← h]; rfl
      rw [optStep, optStep, hdecor]
      rfl
  | verbose optarg =>
      have hlevel : app.cfg.logLevel = app'.cfg.logLevel := by rw [← h]; rfl
      cases optarg with
      | none | some =>
          rw [optStep, optStep, hlevel]
          rfl
  | localPort optarg | rtpPort optarg =>
      rw [optStep, optStep]
      cases setPortValue optarg <;> rfl
  | expires optarg =>
      rw [optStep, optStep]
      split <;> rfl
  | presStatus status =>
      rw [optStep, optStep]
      unfold presStatusOpen
      split
      · rfl
      · split <;> rfl
  | presNote note =>
      rw [optStep, optStep]
      unfold presNote
      split <;> rfl
  | contentType type =>
      rw [optStep, optStep]
      unfold setContentType setContentTypeLeft
      dsimp only
      -- the five branches in the order of the source
      split
      · rfl
      · split
        · rfl
        · split
          · rfl
          · split <;> rfl

end Local

/-! ## 3. The loop and the whole line -/

/-- One option, on the configuration alone. -/
def optCfg (b : Build) (lib : UriLib) (c : Cfg) (o : Opt) : Option Cfg :=
  nextCfg (optStep b lib ⟨c, []⟩ o)

/-- The configuration a command line leaves for the switch of `main`, help and version apart. -/
def runCfg : Except Abort (Status × App) → Option Cfg
  | .ok (.PJ_SUCCESS, app) =>
    if app.cfg.cmd = .CMD_HELP ∨ app.cfg.cmd = .CMD_VERSION then none else some app.cfg
  | _ => none

section Order

variable {b : Build} {lib : UriLib}

theorem optCfg_local (o : Opt) : Local cfgParts (optCfg b lib) o.about o :=
  fun _ _ h => optStep_local h

/-- What was logged makes no difference. -/
theorem optStep_nextCfg (app : App) (o : Opt) :
    nextCfg (optStep b lib app o) = optCfg b lib app.cfg o := by
  have happ : nextCfg (optStep b lib app o) =
      (optCfg b lib app.cfg o).map fun x => o.about.write x app.cfg :=
    optStep_local (cfgParts.self o.about app.cfg)
  have hself : optCfg b lib app.cfg o =
      (optCfg b lib app.cfg o).map fun x => o.about.write x app.cfg :=
    optCfg_local o app.cfg app.cfg (cfgParts.self _ _)
  exact happ.trans hself.symm

/-- An option keeps every field but its own. -/
theorem optStep_about {app app' : App} {o : Opt} (h : optStep b lib app o = .ok (.next app')) :
    app'.cfg = o.about.write app'.cfg app.cfg := by
  have hself : nextCfg (optStep b lib app o) =
      (nextCfg (optStep b lib app o)).map fun x => o.about.write x app.cfg :=
    optStep_local (cfgParts.self o.about app.cfg)
  rw [h] at hself
  exact Option.some.inj hself

/-- **The loop is the run of `optCfg`.** -/
theorem optLoop_iff (os : List Opt) (app : App) :
    nextCfg (optLoop b lib app os) = os.foldlM (optCfg b lib) app.cfg := by
  induction os generalizing app with
  | nil => rfl
  | cons o os ih =>
      rw [List.foldlM_cons, ← optStep_nextCfg app o, optLoop]
      cases optStep b lib app o with
      | error e => rfl
      | ok r =>
          cases r with
          | ret status app₁ => rfl
          | next app₁ => exact ih app₁

/-- **The loop on lists with the same options per field.** -/
theorem optLoop_order {os os' : List Opt} (h : SamePerKey Opt.about os os') (app : App) :
    nextCfg (optLoop b lib app os) = nextCfg (optLoop b lib app os') := by
  rw [optLoop_iff, optLoop_iff]
  exact foldlM_eq (fun a b hab => (optCfg_local a).commute (optCfg_local b) hab) h app.cfg

/-- Behind the loop, what was logged makes no difference either. -/
theorem postParseSetup_cfg {app app' : App} (h : app.cfg = app'.cfg) :
    (postParseSetup lib app).map App.cfg = (postParseSetup lib app').map App.cfg := by
  obtain ⟨c, log⟩ := app
  obtain ⟨c', log'⟩ := app'
  dsimp only at h
  subst h
  have hmwi : (setupMwi ⟨c, log⟩).cfg = (setupMwi ⟨c, log'⟩).cfg := by
    unfold setupMwi
    dsimp only
    split <;> rfl
  unfold postParseSetup setupUsername
  dsimp only
  rw [hmwi]
  split
  · rfl
  · split
    · rfl
    · split
      · cases lib.parseUri (setupMwi ⟨c, log'⟩).cfg.dest with
        | none => rfl
        | some uri =>
            dsimp only
            cases uri.sipUri <;> rfl
      · exact congrArg Except.ok hmwi

theorem parseArgvLeft_cfg {app app' : App} (h : app.cfg = app'.cfg) (left : List CStr) :
    (sippakParseArgvLeft app left).cfg = (sippakParseArgvLeft app' left).cfg := by
  match left with
  | [] => exact h
  | [_] =>
      rw [sippakParseArgvLeft, sippakParseArgvLeft, h]
  | cmd :: dest :: rest =>
      rw [sippakParseArgvLeft, sippakParseArgvLeft, h]
      split <;> rfl

/-- The checks behind the loop, on the configuration alone. -/
def afterLoop (lib : UriLib) (left : List CStr) (c : Cfg) : Option Cfg :=
  runCfg ((postParseSetup lib (sippakParseArgvLeft ⟨c, []⟩ left)).map fun app =>
    (.PJ_SUCCESS, app))

/-- What a line leaves comes out of the loop and the checks, both on the configuration alone. -/
theorem runCfg_getopts {getopt : GetoptLong} {argv : List CStr} (hlen : argv.length ≠ 1)
    (app : App) :
    runCfg (sippakGetopts b lib getopt argv app) =
      (nextCfg (optLoop b lib app (getopt argv).1)).bind (afterLoop lib (getopt argv).2) := by
  unfold sippakGetopts
  rw [if_neg hlen]
  cases hloop : optLoop b lib app (getopt argv).1 with
  | error e => rfl
  | ok r =>
      cases r with
      | ret status app₁ =>
          cases status with
          | PJ_SUCCESS => exact if_pos (optLoop_ret hloop)
          | PJ_EINVAL | PJ_CLI_EINVARG => rfl
      | next app₁ =>
          have hsame : app₁.cfg = (⟨app₁.cfg, []⟩ : App).cfg := rfl
          have hcfg : (postParseSetup lib (sippakParseArgvLeft app₁ (getopt argv).2)).map App.cfg = _ :=
            postParseSetup_cfg (parseArgvLeft_cfg hsame (getopt argv).2)
          rw [nextCfg, Option.bind_some]
          unfold afterLoop
          dsimp only
          generalize postParseSetup lib (sippakParseArgvLeft app₁ (getopt argv).2) = r at hcfg
          generalize postParseSetup lib
            (sippakParseArgvLeft ⟨app₁.cfg, []⟩ (getopt argv).2) = r' at hcfg
          cases r with
          | error e =>
              cases r' with
              | error e' => rfl
              | ok app' => cases hcfg
          | ok app₂ =>
              cases r' with
              | error e' => cases hcfg
              | ok app' =>
                  have happ : app₂.cfg = app'.cfg := Except.ok.inj hcfg
                  show (if _ then _ else _) = if _ then _ else _
                  rw [happ]

/-- **The order of the options is the order per field**: two lines that have the same options
    about each field, in the same order, and the same other arguments leave the same
    configuration, or neither of them leaves one. -/
theorem getopts_order {getopt getopt' : GetoptLong} {argv argv' : List CStr}
    (hlen : argv.length = argv'.length)
    (hopts : SamePerKey Opt.about (getopt argv).1 (getopt' argv').1)
    (hleft : (getopt argv).2 = (getopt' argv').2) (app : App) :
    runCfg (sippakGetopts b lib getopt argv app) =
      runCfg (sippakGetopts b lib getopt' argv' app) := by
  by_cases hone : argv.length = 1
  · have hone' : argv'.length = 1 := hlen ▸ hone
    unfold sippakGetopts
    rw [if_pos hone, if_pos hone']
  · have hone' : argv'.length ≠ 1 := hlen ▸ hone
    rw [runCfg_getopts hone, runCfg_getopts hone', optLoop_order hopts, hleft]

/-- No field asked for twice: the options may stand in any order. -/
theorem optLoop_any_order {os os' : List Opt} (hp : os.Perm os') (hnd : (os.map Opt.about).Nodup)
    (app : App) : nextCfg (optLoop b lib app os) = nextCfg (optLoop b lib app os') :=
  optLoop_order (.of_perm hp hnd) app

/-- `-u bob -v -q` and `-v -u bob -q`. -/
theorem getopts_order_quiet : ∃ cfg,
    runCfg (sippakGetopts Build.g711 UriLib.plain
        (fun _ => ([.username "bob".toList, .verbose none, .quiet],
          ["ping".toList, "sip:alice@host".toList]))
        ["sippak".toList, "-u".toList, "bob".toList, "-v".toList, "-q".toList, "ping".toList,
          "sip:alice@host".toList] sippakInit) = some cfg ∧
      runCfg (sippakGetopts Build.g711 UriLib.plain
        (fun _ => ([.verbose none, .username "bob".toList, .quiet],
          ["ping".toList, "sip:alice@host".toList]))
        ["sippak".toList, "-v".toList, "-u".toList, "bob".toList, "-q".toList, "ping".toList,
          "sip:alice@host".toList] sippakInit) = some cfg :=
  ⟨_, rfl, (getopts_order (b := Build.g711) rfl
    (fun k => by cases k <;> rfl) rfl sippakInit).symm.trans rfl⟩

/-- Within a field the order counts: `-v -q` is silent, `-q -v` is not. -/
example : (optCfg Build.g711 UriLib.plain sippakInit.cfg (.verbose none)).bind
      (optCfg Build.g711 UriLib.plain · .quiet) ≠
    (optCfg Build.g711 UriLib.plain sippakInit.cfg .quiet).bind
      (optCfg Build.g711 UriLib.plain · (.verbose none)) := by decide

end Order

end Sippak
