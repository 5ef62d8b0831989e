/-
  File:      Sippak/MediaSdp.lean
  Subject:   WHAT IS DONE WITH THE CODEC LIST (media_helper.c): `set_media_codecs` and
             `sippak_set_media_sdp`.

  pjmedia is not part of the program. `MediaLib` says which status each of its functions returns,
  and `MediaRun.calls` keeps, in order, the calls that register codecs. A `case` of the switch is
  there where its macro is set (`codecCase`); what is not there falls to the default branch.

  * `sippakSupportCodec_eq` -- the bit mask says of each codec whether its macro is set;
  * `codecCase_of_support` -- so **what is accepted has a case**, and it registers that codec;
  * `ListReady` -- what every accepted `--codec` leaves, from any configuration;
  * `codecs_given_iff` -- there is a codec in it, unless the text was made of commas.
-/
import Mathlib.Data.List.Nodup
import Mathlib.Data.Nat.Bitwise
import Sippak.Lib.Printf
import Sippak.Lib.Run
import Sippak.CodecList

namespace Sippak

open CStr Runs

/-! ## 1. The calls -/

/-- The functions of pjmedia that register codecs. -/
inductive MediaCall where
  | pjmedia_codec_speex_init_default
  | pjmedia_codec_ilbc_init
  | pjmedia_codec_gsm_init
  | pjmedia_codec_g711_init
  | pjmedia_codec_g722_init
  | pjmedia_codec_ipp_init
  | pjmedia_codec_g7221_init
  | pjmedia_codec_l16_init
  | pjmedia_codec_opencore_amr_init
  | pjmedia_codec_silk_init
  | pjmedia_codec_opus_init
  | pjmedia_codec_bcg729_init
  | pjmedia_codec_register_audio_codecs
  deriving DecidableEq, Repr

/-- The codec a function registers; the last one registers all that pjmedia has. -/
def MediaCall.registers : MediaCall → Codec
  | .pjmedia_codec_speex_init_default => .SIPPAK_CODEC_SPEEX
  | .pjmedia_codec_ilbc_init => .SIPPAK_CODEC_ILBC
  | .pjmedia_codec_gsm_init => .SIPPAK_CODEC_GSM
  | .pjmedia_codec_g711_init => .SIPPAK_CODEC_G711
  | .pjmedia_codec_g722_init => .SIPPAK_CODEC_G722
  | .pjmedia_codec_ipp_init => .SIPPAK_CODEC_IPP
  | .pjmedia_codec_g7221_init => .SIPPAK_CODEC_G7221
  | .pjmedia_codec_l16_init => .SIPPAK_CODEC_L16
  | .pjmedia_codec_opencore_amr_init => .SIPPAK_CODEC_OCAMR
  | .pjmedia_codec_silk_init => .SIPPAK_CODEC_SILK
  | .pjmedia_codec_opus_init => .SIPPAK_CODEC_OPUS
  | .pjmedia_codec_bcg729_init => .SIPPAK_CODEC_BCG729
  | .pjmedia_codec_register_audio_codecs => .SIPPAK_CODEC_ALL

/-- The part of `pjmedia_sdp_session` the program writes. -/
structure SdpSession where
  name : CStr
  deriving DecidableEq, Repr

/-- What pjmedia's functions return. -/
structure MediaLib where
  endptCreate : PjStatus
  codec : MediaCall → PjStatus
  transportUdpCreate : (rtpPort : Nat) → PjStatus
  transportGetInfo : PjStatus
  endptCreateSdp : PjStatus × SdpSession

/-- The structure, and the calls that registered codecs. -/
structure MediaRun where
  app : App
  calls : List MediaCall
  deriving DecidableEq, Repr

def MediaRun.pjLog (run : MediaRun) (level : Nat) (sender text : CStr) : MediaRun :=
  { run with app := run.app.pjLog level sender text }

def MediaRun.call (run : MediaRun) (call : MediaCall) : MediaRun :=
  { run with calls := run.calls ++ [call] }

/-! ## 2. The functions -/

/-- `#if has` around a `case`. -/
def caseIf (has : Bool) (call : MediaCall) (name : CStr) : Option (MediaCall × CStr) :=
  if has then some (call, "Failed to set media codec ".toList ++ name ++ ".".toList) else none

/-- The switch of `set_media_codecs`: the call and the text for its failure; `none` = the default
    branch. An unwritten slot holds 0, which is no `case`. -/
def codecCase (b : Build) : Option Codec → Option (MediaCall × CStr)
  | some .SIPPAK_CODEC_SPEEX =>
    caseIf b.PJMEDIA_HAS_SPEEX_CODEC .pjmedia_codec_speex_init_default "SPEEX".toList
  | some .SIPPAK_CODEC_ILBC =>
    caseIf b.PJMEDIA_HAS_ILBC_CODEC .pjmedia_codec_ilbc_init "ILBC".toList
  | some .SIPPAK_CODEC_GSM => caseIf b.PJMEDIA_HAS_GSM_CODEC .pjmedia_codec_gsm_init "GSM".toList
  | some .SIPPAK_CODEC_G711 =>
    caseIf b.PJMEDIA_HAS_G711_CODEC .pjmedia_codec_g711_init "g711".toList
  | some .SIPPAK_CODEC_G722 =>
    caseIf b.PJMEDIA_HAS_G722_CODEC .pjmedia_codec_g722_init "g722".toList
  | some .SIPPAK_CODEC_IPP => caseIf b.PJMEDIA_HAS_INTEL_IPP .pjmedia_codec_ipp_init "IPP".toList
  | some .SIPPAK_CODEC_G7221 =>
    caseIf b.PJMEDIA_HAS_G7221_CODEC .pjmedia_codec_g7221_init "g722.1".toList
  | some .SIPPAK_CODEC_L16 => caseIf b.PJMEDIA_HAS_L16_CODEC .pjmedia_codec_l16_init "L16".toList
  | some .SIPPAK_CODEC_OCAMR =>
    caseIf (b.PJMEDIA_HAS_OPENCORE_AMRNB_CODEC || b.PJMEDIA_HAS_OPENCORE_AMRWB_CODEC)
      .pjmedia_codec_opencore_amr_init "AMR".toList
  | some .SIPPAK_CODEC_SILK =>
    caseIf b.PJMEDIA_HAS_SILK_CODEC .pjmedia_codec_silk_init "SILK".toList
  | some .SIPPAK_CODEC_OPUS =>
    caseIf b.PJMEDIA_HAS_OPUS_CODEC .pjmedia_codec_opus_init "OPUS".toList
  | some .SIPPAK_CODEC_BCG729 =>
    caseIf b.PJMEDIA_HAS_BCG729 .pjmedia_codec_bcg729_init "bcg729".toList
  | some .SIPPAK_CODEC_ALL | none => none

/-- The value of a slot as an `int`. -/
def slotValue (slot : Option Codec) : Nat := (slot.map Codec.bit).getD 0

/-- The loop of `set_media_codecs` over the `n` slots from `i` on. -/
def setMediaCodecsFrom (b : Build) (lib : MediaLib)
    (codecs : Vector (Option Codec) NUM_CODECS_AVAIL) :
    Nat → Nat → MediaRun → Except Abort (PjStatus × MediaRun)
  | 0, _, run => .ok (.PJ_SUCCESS, run)
  | n + 1, i, run =>
    match codecs[i]? with
    | none => .error .outOfBounds
    | some slot =>
      match codecCase b slot with
      | none =>
        .ok (.PJ_EINVAL, run.pjLog 1 MediaHelper.NAME
          ("Unknown codec with id '".toList ++ showDec (slotValue slot) ++ "'".toList))
      | some (call, text) =>
        if lib.codec call = .PJ_SUCCESS then
          setMediaCodecsFrom b lib codecs n (i + 1) (run.call call)
        else .ok (lib.codec call, (run.call call).pjLog 1 PROJECT_NAME text)

/-- `set_media_codecs`. -/
def setMediaCodecs (b : Build) (lib : MediaLib) (run : MediaRun) :
    Except Abort (PjStatus × MediaRun) :=
  setMediaCodecsFrom b lib run.app.cfg.media.codec run.app.cfg.media.cnt 0 run

/-- The registration step of `sippak_set_media_sdp`. -/
def registerCodecs (b : Build) (lib : MediaLib) (run : MediaRun) :
    Except Abort (PjStatus × MediaRun) :=
  if run.app.cfg.media.cnt = NUM_CODECS_AVAIL then
    .ok (lib.codec .pjmedia_codec_register_audio_codecs,
      run.call .pjmedia_codec_register_audio_codecs)
  else setMediaCodecs b lib run

/-- `sippak_set_media_sdp`: the status, `*sdp` where it is assigned, and the calls. -/
def sippakSetMediaSdp (b : Build) (lib : MediaLib) (app : App) :
    Except Abort (PjStatus × Option SdpSession × MediaRun) :=
  let run : MediaRun := ⟨app, []⟩
  if lib.endptCreate ≠ .PJ_SUCCESS then
    .ok (lib.endptCreate, none,
      run.pjLog 1 PROJECT_NAME "Failed to create media end point.".toList)
  else
    match registerCodecs b lib run with
    | .error a => .error a
    | .ok (status, run) =>
      if status ≠ .PJ_SUCCESS then
        .ok (status, none,
          run.pjLog 1 PROJECT_NAME "Failed to register audio codecs.".toList)
      else if lib.transportUdpCreate run.app.cfg.media.rtpPort ≠ .PJ_SUCCESS then
        .ok (lib.transportUdpCreate run.app.cfg.media.rtpPort, none,
          run.pjLog 1 PROJECT_NAME "Failed to create media UDP transport.".toList)
      else if lib.transportGetInfo ≠ .PJ_SUCCESS then
        .ok (lib.transportGetInfo, none,
          run.pjLog 1 PROJECT_NAME "Failed to get media transport info.".toList)
      else if lib.endptCreateSdp.1 ≠ .PJ_SUCCESS then
        .ok (lib.endptCreateSdp.1, none,
          run.pjLog 1 PROJECT_NAME "Failed to create end point SDP body.".toList)
      else .ok (.PJ_SUCCESS, some { lib.endptCreateSdp.2 with name := "sippak".toList }, run)

/-! ## 3. The two ladders -/

/-- The place of a codec's bit. -/
def Codec.index : Codec → Nat
  | .SIPPAK_CODEC_SPEEX => 0
  | .SIPPAK_CODEC_ILBC => 1
  | .SIPPAK_CODEC_GSM => 2
  | .SIPPAK_CODEC_G711 => 3
  | .SIPPAK_CODEC_G722 => 4
  | .SIPPAK_CODEC_IPP => 5
  | .SIPPAK_CODEC_G7221 => 6
  | .SIPPAK_CODEC_L16 => 7
  | .SIPPAK_CODEC_OCAMR => 8
  | .SIPPAK_CODEC_SILK => 9
  | .SIPPAK_CODEC_OPUS => 10
  | .SIPPAK_CODEC_BCG729 => 11
  | .SIPPAK_CODEC_ALL => 12

/-- The macro (or the two macros) a codec depends on. -/
def Build.has (b : Build) : Codec → Bool
  | .SIPPAK_CODEC_SPEEX => b.PJMEDIA_HAS_SPEEX_CODEC
  | .SIPPAK_CODEC_ILBC => b.PJMEDIA_HAS_ILBC_CODEC
  | .SIPPAK_CODEC_GSM => b.PJMEDIA_HAS_GSM_CODEC
  | .SIPPAK_CODEC_G711 => b.PJMEDIA_HAS_G711_CODEC
  | .SIPPAK_CODEC_G722 => b.PJMEDIA_HAS_G722_CODEC
  | .SIPPAK_CODEC_IPP => b.PJMEDIA_HAS_INTEL_IPP
  | .SIPPAK_CODEC_G7221 => b.PJMEDIA_HAS_G7221_CODEC
  | .SIPPAK_CODEC_L16 => b.PJMEDIA_HAS_L16_CODEC
  | .SIPPAK_CODEC_OCAMR =>
    b.PJMEDIA_HAS_OPENCORE_AMRNB_CODEC || b.PJMEDIA_HAS_OPENCORE_AMRWB_CODEC
  | .SIPPAK_CODEC_SILK => b.PJMEDIA_HAS_SILK_CODEC
  | .SIPPAK_CODEC_OPUS => b.PJMEDIA_HAS_OPUS_CODEC
  | .SIPPAK_CODEC_BCG729 => b.PJMEDIA_HAS_BCG729
  | .SIPPAK_CODEC_ALL => false

theorem Codec.bit_eq (codec : Codec) : codec.bit = 2 ^ codec.index := by cases codec <;> rfl

theorem Codec.and_bit (n : Nat) (codec : Codec) :
    (n &&& codec.bit == codec.bit) = n.testBit codec.index := by
  rw [codec.bit_eq, Nat.and_two_pow]
  cases n.testBit codec.index with
  | true => simp
  | false =>
      have hpos := Nat.two_pow_pos codec.index
      simp only [Bool.toNat_false, Nat.zero_mul, beq_eq_false_iff_ne, ne_eq]
      omega

theorem Codec.testBit_bitIf (codec : Codec) (has : Bool) (k : Nat) :
    (codec.bitIf has).testBit k = (has && decide (codec.index = k)) := by
  cases has with
  | true =>
      have h : codec.bit.testBit k = decide (codec.index = k) := by
        rw [codec.bit_eq, Nat.testBit_two_pow]
      exact h
  | false => exact Nat.zero_testBit k

/-- **The mask says of each codec whether it is in the build.** -/
theorem sippakSupportCodec_eq (b : Build) (codec : Codec) :
    sippakSupportCodec b codec = b.has codec := by
  unfold sippakSupportCodec
  rw [Codec.and_bit]
  simp only [Nat.testBit_or, Codec.testBit_bitIf]
  cases codec <;> simp [Codec.index, Build.has]

/-- **What the mask supports has a case in the switch**, and it registers that codec. -/
theorem codecCase_of_support {b : Build} {codec : Codec}
    (h : sippakSupportCodec b codec = true) :
    ∃ call text, codecCase b (some codec) = some (call, text) ∧ call.registers = codec := by
  rw [sippakSupportCodec_eq] at h
  cases codec with
  | SIPPAK_CODEC_ALL => cases h
  | _ =>
      unfold codecCase caseIf
      unfold Build.has at h
      rw [if_pos h]
      exact ⟨_, _, rfl, rfl⟩

/-! ## 4. Using the list -/

section Use

variable {b : Build} {lib : MediaLib}

/-- **The loop registers the codecs in the slots**, in their order, where all of them are in the
    build and pjmedia's functions succeed. -/
theorem setMediaCodecsFrom_registers (hlib : ∀ call, lib.codec call = .PJ_SUCCESS)
    (slots : Vector (Option Codec) NUM_CODECS_AVAIL) {codecs : List Codec}
    (hsup : ∀ c ∈ codecs, sippakSupportCodec b c = true) {i : Nat}
    (hslots : (slots.toList.drop i).take codecs.length = codecs.map some) (run : MediaRun) :
    ∃ calls, setMediaCodecsFrom b lib slots codecs.length i run =
        .ok (.PJ_SUCCESS, { run with calls := run.calls ++ calls }) ∧
      calls.map MediaCall.registers = codecs := by
  induction codecs generalizing i run with
  | nil => exact ⟨[], by rw [List.append_nil]; rfl, rfl⟩
  | cons codec codecs ih =>
      have hlt : i < slots.toList.length := by
        by_contra hge
        rw [List.drop_eq_nil_of_le (Nat.le_of_not_lt hge)] at hslots
        cases hslots
      rw [List.drop_eq_getElem_cons hlt, List.length_cons, List.take_succ_cons,
        List.map_cons, List.cons.injEq] at hslots
      have hi : i < NUM_CODECS_AVAIL := by rwa [Vector.length_toList] at hlt
      have hslot : slots[i]? = some (some codec) := by
        rw [Vector.getElem?_eq_getElem hi, ← hslots.1]
        rfl
      obtain ⟨call, text, hcase, hreg⟩ := codecCase_of_support (hsup codec List.mem_cons_self)
      obtain ⟨calls, hrest, hmap⟩ := ih (fun c hc => hsup c (List.mem_cons_of_mem _ hc))
        hslots.2 (run.call call)
      refine ⟨call :: calls, ?_, by rw [List.map_cons, hreg, hmap]⟩
      rw [List.length_cons, setMediaCodecsFrom, hslot]
      dsimp only
      rw [hcase]
      dsimp only
      rw [if_pos (hlib call), hrest]
      simp [MediaRun.call]

/-- The calls of `sippak_set_media_sdp` are those of its registration step. -/
theorem sippakSetMediaSdp_calls {app : App} {status : PjStatus} {run : MediaRun}
    (hcreate : lib.endptCreate = .PJ_SUCCESS)
    (h : registerCodecs b lib ⟨app, []⟩ = .ok (status, run)) :
    ∃ status' sdp app', sippakSetMediaSdp b lib app = .ok (status', sdp, ⟨app', run.calls⟩) := by
  unfold sippakSetMediaSdp
  rw [if_neg (by rw [hcreate]; exact fun h => h rfl), h]
  dsimp only
  by_cases h₁ : status ≠ .PJ_SUCCESS
  · exact ⟨_, _, _, by rw [if_pos h₁]; rfl⟩
  by_cases h₂ : lib.transportUdpCreate run.app.cfg.media.rtpPort ≠ .PJ_SUCCESS
  · exact ⟨_, _, _, by rw [if_neg h₁, if_pos h₂]; rfl⟩
  by_cases h₃ : lib.transportGetInfo ≠ .PJ_SUCCESS
  · exact ⟨_, _, _, by rw [if_neg h₁, if_neg h₂, if_pos h₃]; rfl⟩
  by_cases h₄ : lib.endptCreateSdp.1 ≠ .PJ_SUCCESS
  · exact ⟨_, _, _, by rw [if_neg h₁, if_neg h₂, if_neg h₃, if_pos h₄]; rfl⟩
  · exact ⟨_, _, _, by rw [if_neg h₁, if_neg h₂, if_neg h₃, if_neg h₄]⟩

end Use

/-! ## 5. From the option to the registration -/

section Accepted

variable {b : Build}

/-- The configuration holds the list `codecs`: different codecs of the build. -/
structure ListReady (b : Build) (media : Media) (codecs : List Codec) : Prop where
  cnt : media.cnt = codecs.length
  slots : media.codec.toList.take codecs.length = codecs.map some
  nodup : codecs.Nodup
  support : ∀ c ∈ codecs, sippakSupportCodec b c = true

/-- `--codec s` is accepted, and this is what it leaves. -/
def AcceptsCodecs (b : Build) (app : App) (s : CStr) (app' : App) : Prop :=
  sippakSetMediaCodecsCfg b s app = .ok (.PJ_SUCCESS, app')

/-- What `sippak_init` sets is ready where G.711 is built in. -/
theorem init_ready (hg711 : b.PJMEDIA_HAS_G711_CODEC = true) :
    ListReady b sippakInit.cfg.media [.SIPPAK_CODEC_G711] where
  cnt := rfl
  slots := rfl
  nodup := List.nodup_singleton _
  support := by
    intro c hc
    rw [List.mem_singleton.mp hc, sippakSupportCodec_eq]
    exact hg711

/-- **What an accepted string leaves** does not depend on what was there before. -/
theorem AcceptsCodecs.cases {app app' : App} {s : CStr} (h : AcceptsCodecs b app s app') :
    (codecChoice b (fields (· == ',') s) = .all ∧ app'.cfg.media.cnt = NUM_CODECS_AVAIL) ∨
      ∃ codecs, codecChoice b (fields (· == ',') s) = .explicit codecs ∧
        ListReady b app'.cfg.media codecs := by
  obtain ⟨status, app₁, hcall, hmet⟩ := sippakSetMediaCodecsCfg_met b s app
  rw [AcceptsCodecs, hcall] at h
  cases h
  cases hc : codecChoice b (fields (· == ',') s) with
  | refused =>
      rw [hc] at hmet
      cases hmet.1
  | all =>
      rw [hc] at hmet
      exact Or.inl ⟨rfl, hmet.2⟩
  | explicit codecs =>
      obtain ⟨hnodup, husable⟩ := codecChoice_explicit hc
      rw [hc] at hmet
      obtain ⟨-, hcnt, -, hslots⟩ := hmet
      exact Or.inr ⟨codecs, rfl, hcnt, hslots, hnodup, fun c hc => (husable c hc).2⟩

theorem ready_of_run (hg711 : b.PJMEDIA_HAS_G711_CODEC = true) {strs : List CStr} {app : App}
    (hrun : Run (AcceptsCodecs b) sippakInit strs app) :
    app.cfg.media.cnt = NUM_CODECS_AVAIL ∨ ∃ codecs, ListReady b app.cfg.media codecs := by
  cases hrun with
  | start => exact Or.inr ⟨_, init_ready hg711⟩
  | step _ hs =>
      rcases hs.cases with ⟨-, hcnt⟩ | ⟨codecs, -, hready⟩
      · exact Or.inl hcnt
      · exact Or.inr ⟨codecs, hready⟩

/-- **What `--codec` accepts is what is registered.** Behind any sequence of accepted strings:
    unless the counter says "all", `set_media_codecs` succeeds without a log line and initialises
    the codecs in the filled slots, each once and in their order; and where the last string
    reached "all", all codecs are registered with the one call instead. -/
theorem accepted_codecs_registered (lib : MediaLib) (hg711 : b.PJMEDIA_HAS_G711_CODEC = true)
    (hlib : ∀ call, lib.codec call = .PJ_SUCCESS) {strs : List CStr} {app : App}
    (hrun : Run (AcceptsCodecs b) sippakInit strs app) :
    (app.cfg.media.cnt ≠ NUM_CODECS_AVAIL →
      ∃ codecs calls,
        app.cfg.media.codec.toList.take app.cfg.media.cnt = codecs.map some ∧
        codecs.length = app.cfg.media.cnt ∧ codecs.Nodup ∧
        calls.map MediaCall.registers = codecs ∧
        setMediaCodecs b lib ⟨app, []⟩ = .ok (.PJ_SUCCESS, ⟨app, calls⟩) ∧
        (lib.endptCreate = .PJ_SUCCESS →
          ∃ status sdp app', sippakSetMediaSdp b lib app = .ok (status, sdp, ⟨app', calls⟩))) ∧
    ∀ earlier last, strs = earlier ++ [last] →
      codecChoice b (fields (· == ',') last) = .all → lib.endptCreate = .PJ_SUCCESS →
        ∃ status sdp app', sippakSetMediaSdp b lib app =
          .ok (status, sdp, ⟨app', [.pjmedia_codec_register_audio_codecs]⟩) := by
  constructor
  · intro hcnt
    rcases ready_of_run hg711 hrun with hall | ⟨codecs, hready⟩
    · exact absurd hall hcnt
    · obtain ⟨calls, hset, hmap⟩ := setMediaCodecsFrom_registers hlib app.cfg.media.codec
        hready.support (i := 0) hready.slots ⟨app, []⟩
      rw [← hready.cnt] at hset
      have hreg : registerCodecs b lib ⟨app, []⟩ = .ok (.PJ_SUCCESS, ⟨app, calls⟩) := by
        unfold registerCodecs
        rw [if_neg hcnt]
        exact hset
      refine ⟨codecs, calls, ?_, hready.cnt.symm, hready.nodup, hmap, hset, fun hcreate => ?_⟩
      · rw [hready.cnt]
        exact hready.slots
      · exact sippakSetMediaSdp_calls hcreate hreg
  · rintro earlier last rfl hall hcreate
    obtain ⟨app₁, -, hlast⟩ := hrun.snoc_inv
    rcases hlast.cases with ⟨-, hcnt⟩ | ⟨codecs, hexp, -⟩
    · have hreg : registerCodecs b lib ⟨app, []⟩ =
          .ok (.PJ_SUCCESS, ⟨app, [.pjmedia_codec_register_audio_codecs]⟩) := by
        unfold registerCodecs
        rw [if_pos hcnt, hlib]
        rfl
      exact sippakSetMediaSdp_calls hcreate hreg
    · rw [hall] at hexp
      cases hexp

/-- A library whose calls succeed. -/
def MediaLib.succeeds : MediaLib where
  endptCreate := .PJ_SUCCESS
  codec := fun _ => .PJ_SUCCESS
  transportUdpCreate := fun _ => .PJ_SUCCESS
  transportGetInfo := .PJ_SUCCESS
  endptCreateSdp := (.PJ_SUCCESS, ⟨[]⟩)

/-- `--codec all --codec g711,G711u` registers G.711, once. -/
theorem accepted_codecs_registered_g711 :
    ∃ app, Run (AcceptsCodecs .g711) sippakInit ["all".toList, "g711,G711u".toList] app ∧
      ∃ codecs calls, codecs.length = app.cfg.media.cnt ∧
        calls.map MediaCall.registers = codecs ∧
        setMediaCodecs .g711 .succeeds ⟨app, []⟩ = .ok (.PJ_SUCCESS, ⟨app, calls⟩) := by
  have hrun : Run (AcceptsCodecs .g711) sippakInit ["all".toList, "g711,G711u".toList] _ :=
    @Run.step _ _ _ _ ["all".toList] _ _ _ (@Run.step _ _ _ _ [] _ _ _ .start rfl) rfl
  have h := (accepted_codecs_registered .succeeds rfl (fun _ => rfl) hrun).1 (by decide)
  obtain ⟨codecs, calls, -, hlen, -, hmap, hset, -⟩ := h
  exact ⟨_, hrun, codecs, calls, hlen, hmap, hset⟩

end Accepted

/-! ## 6. No codec at all

A text of commas has no field, so that the loop is left at once with the index 0, and 0 is what
the counter becomes. Nothing behind it asks whether there is a codec. -/

section NonEmpty

variable {b : Build} {lib : MediaLib}

/-- Success of the loop is one call for each slot. -/
theorem setMediaCodecsFrom_length {slots : Vector (Option Codec) NUM_CODECS_AVAIL} {n i : Nat}
    {run run' : MediaRun}
    (h : setMediaCodecsFrom b lib slots n i run = .ok (.PJ_SUCCESS, run')) :
    run'.calls.length = run.calls.length + n := by
  induction n generalizing i run with
  | zero =>
      cases h
      rfl
  | succ n ih =>
      rw [setMediaCodecsFrom] at h
      split at h
      · cases h
      · split at h
        · cases h
        · split at h
          · have hrest := ih h
            simp only [MediaRun.call, List.length_append, List.length_singleton] at hrest
            omega
          · rename_i hfail
            injection h with hpair
            injection hpair with hstatus _
            exact absurd hstatus hfail

/-- The registration succeeds with a call where the counter is not 0. -/
theorem registerCodecs_calls {app : App} {run : MediaRun} (hcnt : 1 ≤ app.cfg.media.cnt)
    (h : registerCodecs b lib ⟨app, []⟩ = .ok (.PJ_SUCCESS, run)) : run.calls ≠ [] := by
  unfold registerCodecs at h
  split at h
  · injection h with hpair
    injection hpair with _ hrun
    subst hrun
    exact List.cons_ne_nil _ _
  · have hlen := setMediaCodecsFrom_length h
    intro hnil
    rw [hnil] at hlen
    simp only [List.length_nil] at hlen
    omega

/-- An SDP is made behind a registration that succeeded. -/
theorem sippakSetMediaSdp_some {app : App} {status : PjStatus} {sdp : SdpSession} {run : MediaRun}
    (h : sippakSetMediaSdp b lib app = .ok (status, some sdp, run)) :
    registerCodecs b lib ⟨app, []⟩ = .ok (.PJ_SUCCESS, run) := by
  unfold sippakSetMediaSdp at h
  dsimp only at h
  split at h
  · cases h
  · cases hreg : registerCodecs b lib ⟨app, []⟩ with
    | error a =>
        rw [hreg] at h
        cases h
    | ok r =>
        obtain ⟨status₁, run₁⟩ := r
        rw [hreg] at h
        dsimp only at h
        split at h
        · cases h
        · rename_i hok
          rw [ne_eq, not_not] at hok
          split at h
          · cases h
          · split at h
            · cases h
            · split at h
              · cases h
              · cases h
                rw [hok]

/-- What a list with a field asks for, when it is accepted: all codecs, or at least one. -/
theorem codecChoice_nonempty {toks : List CStr} (h : toks ≠ []) :
    codecChoice b toks ≠ .explicit [] := by
  unfold codecChoice
  split
  · split <;> exact CodecChoice.noConfusion
  · rename_i hnone
    intro hempty
    injection hempty with hnil
    cases toks with
    | nil => exact h rfl
    | cons tok toks =>
        have hno := List.find?_eq_none.mp hnone tok List.mem_cons_self
        rw [Bool.not_eq_true, Bool.or_eq_false_iff, usable_iff] at hno
        obtain ⟨codec, hp, -⟩ := hno
        have hmem : codec ∈ ((tok :: toks).filterMap codecStrParse).eraseDups :=
          List.mem_eraseDups.mpr (List.mem_filterMap.mpr ⟨tok, List.mem_cons_self, hp⟩)
        rw [hnil] at hmem
        exact absurd hmem List.not_mem_nil

/-- The promise of an accepted `--codec`: there is a codec, and no SDP is made without one. -/
def CodecsGiven (b : Build) (status : Status) (app : App) : Prop :=
  status = .PJ_SUCCESS → 1 ≤ app.cfg.media.cnt ∧
    ∀ lib sdpStatus sdp run,
      sippakSetMediaSdp b lib app = .ok (sdpStatus, some sdp, run) → run.calls ≠ []

/-- **An accepted `--codec` leaves a codec exactly when its text has a character other than the
    comma.** -/
theorem codecs_given_iff (b : Build) (s : CStr) (app : App) :
    ∃ status app', sippakSetMediaCodecsCfg b s app = .ok (status, app') ∧
      (CodecsGiven b status app' ↔ ∃ c ∈ s, c ≠ ',') := by
  obtain ⟨status, app', hcall, hmet⟩ := sippakSetMediaCodecsCfg_met b s app
  refine ⟨status, app', hcall, ?_⟩
  by_cases hc : ∃ c ∈ s, c ≠ ','
  · refine iff_of_true (fun hok => ?_) hc
    have hne : fields (· == ',') s ≠ [] := by
      obtain ⟨c, hmem, hother⟩ := hc
      intro hnil
      exact hother (beq_iff_eq.mp (fields_eq_nil_iff.mp hnil c hmem))
    have hcnt : 1 ≤ app'.cfg.media.cnt := by
      cases hchoice : codecChoice b (fields (· == ',') s) with
      | refused =>
          rw [hchoice] at hmet
          rw [hmet.1] at hok
          cases hok
      | all =>
          rw [hchoice] at hmet
          rw [hmet.2]
          decide
      | explicit codecs =>
          rw [hchoice] at hmet
          rw [hmet.2.1, Nat.one_le_iff_ne_zero, Ne, List.length_eq_zero_iff]
          intro hnil
          rw [hnil] at hchoice
          exact codecChoice_nonempty hne hchoice
    exact ⟨hcnt, fun _ _ _ _ hsdp => registerCodecs_calls hcnt (sippakSetMediaSdp_some hsdp)⟩
  · refine iff_of_false (fun hgiven => ?_) hc
    have hnil : fields (· == ',') s = [] := by
      refine fields_eq_nil_iff.mpr fun c hmem => ?_
      by_contra hother
      exact hc ⟨c, hmem, fun e => hother (beq_iff_eq.mpr e)⟩
    rw [hnil] at hmet
    have hcnt := (hgiven hmet.1).1
    rw [hmet.2.1] at hcnt
    exact absurd hcnt (by decide)

/-- `--codec ,` is accepted, leaves no codec, and an SDP is made of it. -/
theorem comma_is_no_codec :
    ∃ app sdp, sippakSetMediaCodecsCfg .g711 ",".toList sippakInit = .ok (.PJ_SUCCESS, app) ∧
      app.cfg.media.cnt = 0 ∧
      sippakSetMediaSdp .g711 .succeeds app = .ok (.PJ_SUCCESS, some sdp, ⟨app, []⟩) :=
  ⟨_, _, rfl, rfl, rfl⟩

end NonEmpty

end Sippak
