/-
  File:      Sippak/App.lean
  Subject:   THE APPLICATION STRUCTURE (sippak.h) and `sippak_init`.

  `Cfg` is `struct sippak_app`'s `cfg` field by field. The two tables `hdrs` and `proxy` are
  `Slots`, so their counters cannot pass the declared sizes; a write that would is `.outOfBounds`.
  The endpoint, the pool and the caching pool are pjsip's and have no field here; what the code
  hands to `PJ_LOG` is kept in `log`.

  `Abort` lists the ways a call leaves the normal flow: the program exits, or it does something
  C gives no meaning to.
-/
import Sippak.Lib.CStr
import Sippak.Lib.Slots

namespace Sippak

def PROJECT_NAME : CStr := "sippak".toList
def MIN_LOG_LEVEL : Int := 3
def MAX_LEN_PRES_NOTE : Nat := 64
def SIPPAK_DEFAULT_RTP_PORT : Nat := 4000
abbrev MAX_CUSTOM_HEADERS : Nat := 12
abbrev MAX_PROXY_HEADERS : Nat := 12
abbrev NUM_CODECS_AVAIL : Nat := 12
/-- pjsip's limit for the text of a URI. -/
def PJSIP_MAX_URL_SIZE : Nat := 256

/-- `pj_status_t`, as far as the program tells the values apart. -/
inductive Status where
  | PJ_SUCCESS
  | PJ_EINVAL
  | PJ_CLI_EINVARG
  deriving DecidableEq, Repr

/-- `pj_status_t` where a function hands on what the library returned. -/
inductive PjStatus where
  | PJ_SUCCESS
  | PJ_EINVAL
  | other (code : Int)
  deriving DecidableEq, Repr

/-- One line given to `PJ_LOG`. -/
structure LogLine where
  level : Nat
  sender : CStr
  text : CStr
  deriving DecidableEq, Repr

/-- The ways out of a call other than a return. -/
inductive Abort where
  /-- `exit(status)` after the line. -/
  | exit (status : Status) (line : LogLine)
  /-- A write to an array, or a read of it, at an index that is not below its size. -/
  | outOfBounds
  /-- A field of the NULL a parser returned. -/
  | nullUri
  /-- A field of a SIP URI in a structure that is another kind of URI. -/
  | badCast
  deriving DecidableEq, Repr

/-! ## 1. Enumerations -/

/-- `app_command`. -/
inductive Command where
  | CMD_UNKNOWN | CMD_HELP | CMD_VERSION
  | CMD_PING | CMD_PUBLISH | CMD_SUBSCRIBE | CMD_NOTIFY | CMD_REGISTER | CMD_REFER
  | CMD_MESSAGE | CMD_INVITE
  deriving DecidableEq, Repr

/-- `sippak_evtype_e`. -/
inductive EvType where
  | EVTYPE_UNKNOWN | EVTYPE_PRES | EVTYPE_MWI | EVTYPE_OTHER
  deriving DecidableEq, Repr

/-- `sippak_ctype_e`. -/
inductive CType where
  | CTYPE_UNKNOWN | CTYPE_PIDF | CTYPE_XPIDF | CTYPE_MWI | CTYPE_OTHER
  deriving DecidableEq, Repr

/-- `codec_e`. -/
inductive Codec where
  | SIPPAK_CODEC_SPEEX | SIPPAK_CODEC_ILBC | SIPPAK_CODEC_GSM | SIPPAK_CODEC_G711
  | SIPPAK_CODEC_G722 | SIPPAK_CODEC_IPP | SIPPAK_CODEC_G7221 | SIPPAK_CODEC_L16
  | SIPPAK_CODEC_OCAMR | SIPPAK_CODEC_SILK | SIPPAK_CODEC_OPUS | SIPPAK_CODEC_BCG729
  | SIPPAK_CODEC_ALL
  deriving DecidableEq, Repr

/-- `pjsip_transport_type_e`, the two values the program uses. -/
inductive Transport where
  | PJSIP_TRANSPORT_UDP | PJSIP_TRANSPORT_TCP
  deriving DecidableEq, Repr

/-- The flags `log_decor` is or-ed together from. -/
inductive LogDecor where
  | PJ_LOG_HAS_NEWLINE | PJ_LOG_HAS_INDENT | PJ_LOG_HAS_COLOR | PJ_LOG_HAS_TIME
  | PJ_LOG_HAS_MICRO_SEC | PJ_LOG_HAS_LEVEL_TEXT | PJ_LOG_HAS_SENDER
  deriving DecidableEq, Repr

/-! ## 2. The structure -/

/-- What `pjsip_generic_string_hdr_create` stores in a header node. -/
structure GenericHdr where
  name : CStr
  hvalue : CStr
  deriving DecidableEq, Repr

/-- `pjsip_media_type`, without its parameters. -/
structure MediaType where
  type : PjStr
  subtype : PjStr
  deriving DecidableEq, Repr

/-- `cfg.media`. A slot of `codec` that was never written is `none`. -/
structure Media where
  cnt : Nat
  codec : Vector (Option Codec) NUM_CODECS_AVAIL
  rtpPort : Nat
  deriving DecidableEq, Repr

/-- `cfg` of `struct sippak_app`. -/
structure Cfg where
  cmd : Command
  logLevel : Int
  logDecor : List LogDecor
  trailDot : Bool
  dest : PjStr
  nameservers : PjStr
  localPort : Nat
  localHost : PjStr
  username : PjStr
  password : PjStr
  fromName : PjStr
  proto : Transport
  expires : Nat
  presStatusOpen : Bool
  presNote : PjStr
  presEv : EvType
  event : PjStr
  ctypeE : CType
  ctypeMedia : MediaType
  isMwi : Bool
  mwi : Vector Int 4
  mwiAcc : PjStr
  isClist : Bool
  cancelAllReg : Bool
  cancel : Bool
  contact : PjStr
  referTo : PjStr
  body : PjStr
  media : Media
  userAgent : PjStr
  hdrs : Slots GenericHdr MAX_CUSTOM_HEADERS
  proxy : Slots CStr MAX_PROXY_HEADERS
  deriving DecidableEq, Repr

/-- `struct sippak_app`. -/
structure App where
  cfg : Cfg
  log : List LogLine
  deriving DecidableEq, Repr

/-- `PJ_LOG(level, (sender, text))`. -/
def App.pjLog (app : App) (level : Nat) (sender text : CStr) : App :=
  { app with log := app.log ++ [⟨level, sender, text⟩] }

@[simp] theorem App.pjLog_cfg (app : App) (level : Nat) (sender text : CStr) :
    (app.pjLog level sender text).cfg = app.cfg := rfl

/-- `sippak_init`. The fields it does not assign (`ctype_media`, `mwi`, the codec slots behind
    the first, the two tables behind their counters) hold what the static storage of `app` in
    main.c starts with. -/
def sippakInit : App where
  cfg :=
    { cmd := .CMD_PING
      logLevel := MIN_LOG_LEVEL
      logDecor := [.PJ_LOG_HAS_NEWLINE, .PJ_LOG_HAS_INDENT]
      trailDot := false
      dest := none
      nameservers := none
      localPort := 0
      localHost := none
      username := none
      password := none
      fromName := none
      proto := .PJSIP_TRANSPORT_UDP
      expires := 3600
      presStatusOpen := true
      presNote := none
      presEv := .EVTYPE_UNKNOWN
      event := none
      ctypeE := .CTYPE_UNKNOWN
      ctypeMedia := ⟨none, none⟩
      isMwi := false
      mwi := Vector.replicate 4 0
      mwiAcc := none
      isClist := false
      cancelAllReg := false
      cancel := false
      contact := none
      referTo := none
      body := none
      media :=
        { cnt := 1
          codec := (Vector.replicate NUM_CODECS_AVAIL none).set 0 (some .SIPPAK_CODEC_G711)
          rtpPort := SIPPAK_DEFAULT_RTP_PORT }
      userAgent := none
      hdrs := Slots.empty
      proxy := Slots.empty }
  log := []

end Sippak
