/-
  File:      Sippak/MediaHelper.lean
  Subject:   THE CODEC LIST (media_helper.c): names, what the build supports, `--codec`.

  `Build` is the setting of the `PJMEDIA_HAS_*` macros. `sippakSetMediaCodecsCfg` writes the
  array as it goes, so a refused list leaves `cnt` but not the slots alone, and a repeated codec
  is skipped with `continue`.
-/
import Sippak.App

namespace Sippak

open CStr

namespace MediaHelper

def NAME : CStr := "media_helper".toList

end MediaHelper

/-- The codec macros of the build. -/
structure Build where
  PJMEDIA_HAS_SPEEX_CODEC : Bool
  PJMEDIA_HAS_ILBC_CODEC : Bool
  PJMEDIA_HAS_GSM_CODEC : Bool
  PJMEDIA_HAS_G711_CODEC : Bool
  PJMEDIA_HAS_G722_CODEC : Bool
  PJMEDIA_HAS_INTEL_IPP : Bool
  PJMEDIA_HAS_G7221_CODEC : Bool
  PJMEDIA_HAS_L16_CODEC : Bool
  PJMEDIA_HAS_OPENCORE_AMRNB_CODEC : Bool
  PJMEDIA_HAS_OPENCORE_AMRWB_CODEC : Bool
  PJMEDIA_HAS_SILK_CODEC : Bool
  PJMEDIA_HAS_OPUS_CODEC : Bool
  PJMEDIA_HAS_BCG729 : Bool
  deriving DecidableEq, Repr

/-- The build with G.711 only. -/
def Build.g711 : Build :=
  ⟨false, false, false, true, false, false, false, false, false, false, false, false, false⟩

/-- The value of a `codec_e`: one bit each. -/
def Codec.bit : Codec → Nat
  | .SIPPAK_CODEC_SPEEX => 1 <<< 0
  | .SIPPAK_CODEC_ILBC => 1 <<< 1
  | .SIPPAK_CODEC_GSM => 1 <<< 2
  | .SIPPAK_CODEC_G711 => 1 <<< 3
  | .SIPPAK_CODEC_G722 => 1 <<< 4
  | .SIPPAK_CODEC_IPP => 1 <<< 5
  | .SIPPAK_CODEC_G7221 => 1 <<< 6
  | .SIPPAK_CODEC_L16 => 1 <<< 7
  | .SIPPAK_CODEC_OCAMR => 1 <<< 8
  | .SIPPAK_CODEC_SILK => 1 <<< 9
  | .SIPPAK_CODEC_OPUS => 1 <<< 10
  | .SIPPAK_CODEC_BCG729 => 1 <<< 11
  | .SIPPAK_CODEC_ALL => 1 <<< 12

/-- `codec_str_parse`; `none` is the 0 of the last branch. -/
def codecStrParse (codec : CStr) : Option Codec :=
  if startsIgnoreCase codec "speex".toList then some .SIPPAK_CODEC_SPEEX
  else if startsIgnoreCase codec "ilbc".toList then some .SIPPAK_CODEC_ILBC
  else if startsIgnoreCase codec "gsm".toList then some .SIPPAK_CODEC_GSM
  else if startsIgnoreCase codec "g711".toList then some .SIPPAK_CODEC_G711
  else if startsIgnoreCase codec "g722".toList then some .SIPPAK_CODEC_G722
  else if startsIgnoreCase codec "ipp".toList then some .SIPPAK_CODEC_IPP
  else if startsIgnoreCase codec "g722.1".toList then some .SIPPAK_CODEC_G7221
  else if startsIgnoreCase codec "l16".toList then some .SIPPAK_CODEC_L16
  else if startsIgnoreCase codec "amr".toList then some .SIPPAK_CODEC_OCAMR
  else if startsIgnoreCase codec "silk".toList then some .SIPPAK_CODEC_SILK
  else if startsIgnoreCase codec "opus".toList then some .SIPPAK_CODEC_OPUS
  else if startsIgnoreCase codec "bcg729".toList then some .SIPPAK_CODEC_BCG729
  else if startsIgnoreCase codec "all".toList then some .SIPPAK_CODEC_ALL
  else none

/-- `is_codec_set`: is `codec` among the first `cnt` slots? -/
def isCodecSet (codecs : Vector (Option Codec) NUM_CODECS_AVAIL) (cnt : Nat) (codec : Codec) :
    Bool :=
  (codecs.toList.take cnt).contains (some codec)

/-- The bit of `codec` where the macro is set. -/
def Codec.bitIf (codec : Codec) (has : Bool) : Nat := if has then codec.bit else 0

/-- `sippak_support_codec`. -/
def sippakSupportCodec (b : Build) (codec : Codec) : Bool :=
  let supported :=
    Codec.bitIf .SIPPAK_CODEC_SPEEX b.PJMEDIA_HAS_SPEEX_CODEC
      ||| Codec.bitIf .SIPPAK_CODEC_ILBC b.PJMEDIA_HAS_ILBC_CODEC
      ||| Codec.bitIf .SIPPAK_CODEC_GSM b.PJMEDIA_HAS_GSM_CODEC
      ||| Codec.bitIf .SIPPAK_CODEC_G711 b.PJMEDIA_HAS_G711_CODEC
      ||| Codec.bitIf .SIPPAK_CODEC_G722 b.PJMEDIA_HAS_G722_CODEC
      ||| Codec.bitIf .SIPPAK_CODEC_IPP b.PJMEDIA_HAS_INTEL_IPP
      ||| Codec.bitIf .SIPPAK_CODEC_G7221 b.PJMEDIA_HAS_G7221_CODEC
      ||| Codec.bitIf .SIPPAK_CODEC_L16 b.PJMEDIA_HAS_L16_CODEC
      ||| Codec.bitIf .SIPPAK_CODEC_OCAMR
        (b.PJMEDIA_HAS_OPENCORE_AMRNB_CODEC || b.PJMEDIA_HAS_OPENCORE_AMRWB_CODEC)
      ||| Codec.bitIf .SIPPAK_CODEC_SILK b.PJMEDIA_HAS_SILK_CODEC
      ||| Codec.bitIf .SIPPAK_CODEC_OPUS b.PJMEDIA_HAS_OPUS_CODEC
      ||| Codec.bitIf .SIPPAK_CODEC_BCG729 b.PJMEDIA_HAS_BCG729
  supported &&& codec.bit == codec.bit

def App.setMedia (app : App) (media : Media) : App :=
  { app with cfg := { app.cfg with media := media } }

/-- One round of the loop of `sippak_set_media_codecs_cfg`, for the token `tok`: the state is the
    index `i` and the structure, an error leaves the function. -/
def codecsCfgBody (b : Build) (st : Nat × App) (tok : CStr) :
    Except (Except Abort (Status × App)) (Nat × App) :=
  let (i, app) := st
  match codecStrParse tok with
  | some .SIPPAK_CODEC_ALL =>
    .error (.ok (.PJ_SUCCESS, app.setMedia { app.cfg.media with cnt := NUM_CODECS_AVAIL }))
  | none =>
    .error (.ok (.PJ_CLI_EINVARG,
      app.pjLog 1 MediaHelper.NAME ("Codec \"".toList ++ tok ++ "\" is not supported.".toList)))
  | some codec =>
    if sippakSupportCodec b codec = false then
      .error (.ok (.PJ_CLI_EINVARG,
        app.pjLog 1 MediaHelper.NAME ("Codec \"".toList ++ tok ++ "\" is not supported.".toList)))
    else if isCodecSet app.cfg.media.codec i codec then
      .ok (i, app.pjLog 2 MediaHelper.NAME
        ("Codec \"".toList ++ tok ++ "\" is already set.".toList))
    else if h : i < NUM_CODECS_AVAIL then
      .ok (i + 1, app.setMedia
        { app.cfg.media with codec := app.cfg.media.codec.set i (some codec) h })
    else .error (.error .outOfBounds)

/-- `sippak_set_media_codecs_cfg`. -/
def sippakSetMediaCodecsCfg (b : Build) (codecsStr : CStr) (app : App) :
    Except Abort (Status × App) :=
  match forTokens (· == ',') codecsStr (codecsCfgBody b) (codecsStr.length + 1) 0 (0, app) with
  | .error r => r
  | .ok (i, app) => .ok (.PJ_SUCCESS, app.setMedia { app.cfg.media with cnt := i })

/-! ## The other fields

Whatever it returns, the function has written nothing but `media` and the log. -/

/-- Everything but `media` and the log is what it was. -/
def App.SameButMedia (app app' : App) : Prop :=
  app'.cfg = { app.cfg with media := app'.cfg.media }

section Frame

variable {b : Build} {app app₁ : App}

theorem App.SameButMedia.setMedia (h : app.SameButMedia app₁) (media : Media) :
    app.SameButMedia (app₁.setMedia media) := by
  unfold SameButMedia at h ⊢
  simp only [App.setMedia]
  rw [h]

theorem codecsCfgBody_frame (b : Build) (st : Nat × App) (tok : CStr) (h0 : app.SameButMedia st.2) :
    (∀ st', codecsCfgBody b st tok = .ok st' → app.SameButMedia st'.2) ∧
      ∀ s app', codecsCfgBody b st tok = .error (.ok (s, app')) → app.SameButMedia app' := by
  obtain ⟨i, app₂⟩ := st
  unfold codecsCfgBody
  dsimp only at h0 ⊢
  cases codecStrParse tok with
  | none =>
      refine ⟨fun st' h => (by cases h), fun s app' h => ?_⟩
      cases h
      exact h0
  | some codec =>
      refine ⟨fun st' h => ?_, fun s app' h => ?_⟩
      -- the branches in the order of the source: all, unsupported, repeated, new, full
      · split at h
        · cases h
        · rename_i hno
          cases hno
        · split at h
          · cases h
          · split at h
            · cases h
              exact h0
            · split at h
              · cases h
                exact h0.setMedia _
              · cases h
      · split at h
        · cases h
          exact h0.setMedia _
        · rename_i hno
          cases hno
        · split at h
          · cases h
            exact h0
          · split at h
            · cases h
            · split at h <;> cases h

/-- The loop keeps what each round keeps. -/
theorem codecsCfg_loop_frame (b : Build) (s : CStr) (fuel start : Nat) (st : Nat × App)
    (h0 : app.SameButMedia st.2) :
    (∀ st', forTokens (· == ',') s (codecsCfgBody b) fuel start st = .ok st' →
        app.SameButMedia st'.2) ∧
      ∀ c app', forTokens (· == ',') s (codecsCfgBody b) fuel start st = .error (.ok (c, app')) →
        app.SameButMedia app' := by
  induction fuel generalizing start st with
  | zero =>
      refine ⟨fun st' h => ?_, fun c app' h => ?_⟩
      · cases h
        exact h0
      · cases h
  | succ fuel ih =>
      obtain ⟨hok, herr⟩ := codecsCfgBody_frame b st (strtok (· == ',') s start).2 h0
      rw [forTokens]
      split
      · refine ⟨fun st' h => ?_, fun c app' h => ?_⟩
        · cases h
          exact h0
        · cases h
      · cases hb : codecsCfgBody b st (strtok (· == ',') s start).2 with
        | error r =>
            refine ⟨fun st' h => (by cases h), fun c app' h => ?_⟩
            cases h
            exact herr c app' hb
        | ok st₁ => exact ih _ st₁ (hok st₁ hb)

/-- **`--codec` writes nothing but `media` and the log.** -/
theorem sippakSetMediaCodecsCfg_frame {s : CStr} {app' : App} {c : Status}
    (h : sippakSetMediaCodecsCfg b s app = .ok (c, app')) : app.SameButMedia app' := by
  have hloop := codecsCfg_loop_frame b s (s.length + 1) 0 (0, app) (rfl : app.SameButMedia app)
  unfold sippakSetMediaCodecsCfg at h
  split at h
  · rename_i r hr
    subst h
    exact hloop.2 c app' hr
  · rename_i i app₂ hr
    cases h
    exact (hloop.1 _ hr).setMedia _

end Frame

end Sippak
