/-
  File:      Sippak/CodecList.lean
  Subject:   WHAT `--codec` COMPUTES: the ordered list of codecs without repetitions.

  `CodecChoice` is what a list of tokens asks for, said without the array, the index and the
  three exits of the loop: the first token that is "all" or not usable decides, and where there
  is none the codecs are the tokens' codecs, later repetitions dropped.

  * `codecsCfg_fold` -- **the fold computes the choice**, and never writes outside the array;
  * `sippakSetMediaCodecsCfg_met` -- so the call meets the choice of the fields of its text;
  * `named_length_lt` -- a list without repetitions of codecs a name stands for is shorter than
    the array: `g722.1` is taken for `g722`, so one of the twelve has no name.
-/
import Mathlib.Data.List.Induction
import Mathlib.Data.List.Nodup
import Mathlib.Data.List.Perm.Subperm
import Sippak.Lib.Tokens
import Sippak.MediaHelper

namespace Sippak

open CStr

/-! ## 1. What a list asks for -/

/-- The token names all codecs. -/
def isAllToken (tok : CStr) : Bool := codecStrParse tok == some .SIPPAK_CODEC_ALL

/-- The token names no codec, or one the build has not. -/
def isRefusedToken (b : Build) (tok : CStr) : Bool :=
  match codecStrParse tok with
  | none => true
  | some codec => codec != .SIPPAK_CODEC_ALL && !sippakSupportCodec b codec

inductive CodecChoice where
  | refused
  | all
  | explicit (codecs : List Codec)
  deriving DecidableEq, Repr

/-- What the tokens ask for, read from left to right. -/
def codecChoice (b : Build) (toks : List CStr) : CodecChoice :=
  match toks.find? fun tok => isAllToken tok || isRefusedToken b tok with
  | some tok => if isAllToken tok then .all else .refused
  | none => .explicit (toks.filterMap codecStrParse).eraseDups

/-- The status and the configuration after a call that was asked for the choice. -/
def CodecChoice.Met (app : App) (status : Status) (app' : App) : CodecChoice → Prop
  | .refused => status = .PJ_CLI_EINVARG ∧ app'.cfg.media.cnt = app.cfg.media.cnt
  | .all => status = .PJ_SUCCESS ∧ app'.cfg.media.cnt = NUM_CODECS_AVAIL
  | .explicit codecs =>
    status = .PJ_SUCCESS ∧ app'.cfg.media.cnt = codecs.length ∧ codecs.length < NUM_CODECS_AVAIL ∧
      app'.cfg.media.codec.toList.take codecs.length = codecs.map some

/-! ## 2. Lists without repetitions -/

section Distinct

variable {α : Type} [DecidableEq α]

/-- One more element at the end is kept where it is new. -/
theorem eraseDups_concat (l : List α) (a : α) :
    (l ++ [a]).eraseDups = if a ∈ l then l.eraseDups else l.eraseDups ++ [a] := by
  rw [List.eraseDups_append, List.removeAll]
  by_cases h : a ∈ l
  · rw [if_pos h, List.filter_eq_nil_iff.mpr (by simpa using h), List.eraseDups_nil,
      List.append_nil]
  · rw [if_neg h, List.filter_eq_self.mpr (by simpa using h)]
    rfl

theorem nodup_eraseDups (l : List α) : l.eraseDups.Nodup := by
  induction l using List.reverseRecOn with
  | nil => exact List.nodup_nil
  | append_singleton l a ih =>
      rw [eraseDups_concat]
      split
      · exact ih
      · rename_i h
        have hnew : a ∉ l.eraseDups := fun hmem => h (List.mem_eraseDups.mp hmem)
        exact List.nodup_append.mpr ⟨ih, List.nodup_singleton a, fun x hx y hy heq => by
          rw [heq, List.mem_singleton.mp hy] at hx
          exact hnew hx⟩

end Distinct

/-! ## 3. The codecs that have a name -/

/-- The codecs `codec_str_parse` can return, apart from "all". -/
def namedCodecs : List Codec :=
  [.SIPPAK_CODEC_SPEEX, .SIPPAK_CODEC_ILBC, .SIPPAK_CODEC_GSM, .SIPPAK_CODEC_G711,
    .SIPPAK_CODEC_G722, .SIPPAK_CODEC_IPP, .SIPPAK_CODEC_L16, .SIPPAK_CODEC_OCAMR,
    .SIPPAK_CODEC_SILK, .SIPPAK_CODEC_OPUS, .SIPPAK_CODEC_BCG729]

/-- The answer of `codec_str_parse` is "all", no codec or one of the named ones. -/
def Named (answer : Option Codec) : Prop :=
  ∀ codec, answer = some codec → codec ≠ .SIPPAK_CODEC_ALL → codec ∈ namedCodecs

theorem Named.branch {p : Bool} {a b : Option Codec} (ha : p = true → Named a)
    (hb : p = false → Named b) : Named (if p then a else b) := by
  cases p with
  | true => exact ha rfl
  | false => exact hb rfl

theorem Named.of_mem {codec : Codec} (h : codec ∈ namedCodecs) : Named (some codec) := by
  rintro _ ⟨⟩ _
  exact h

/-- **`g722.1` is never returned**: its name starts with `g722`, which is asked for first. -/
theorem codecStrParse_named (tok : CStr) : Named (codecStrParse tok) := by
  have hg722 : startsIgnoreCase tok "g722.1".toList = true →
      startsIgnoreCase tok "g722".toList = true := by
    intro h
    have hname : "g722.1".toList = "g722".toList ++ ".1".toList := by decide
    rw [hname] at h
    exact startsIgnoreCase_of_append h
  unfold codecStrParse
  refine .branch (fun _ => .of_mem (by decide)) fun _ => ?_
  refine .branch (fun _ => .of_mem (by decide)) fun _ => ?_
  refine .branch (fun _ => .of_mem (by decide)) fun _ => ?_
  refine .branch (fun _ => .of_mem (by decide)) fun _ => ?_
  refine .branch (fun _ => .of_mem (by decide)) fun hno => ?_
  refine .branch (fun _ => .of_mem (by decide)) fun _ => ?_
  refine .branch (fun h => ?_) fun _ => ?_
  · rw [hg722 h] at hno
    cases hno
  refine .branch (fun _ => .of_mem (by decide)) fun _ => ?_
  refine .branch (fun _ => .of_mem (by decide)) fun _ => ?_
  refine .branch (fun _ => .of_mem (by decide)) fun _ => ?_
  refine .branch (fun _ => .of_mem (by decide)) fun _ => ?_
  refine .branch (fun _ => .of_mem (by decide)) fun _ => ?_
  refine .branch (fun _ codec h hall => ?_) fun _ codec h => ?_
  · cases h
    exact absurd rfl hall
  · cases h

/-- **A list without repetitions of named codecs is shorter than the array.** -/
theorem named_length_lt {codecs : List Codec} (hnd : codecs.Nodup)
    (hnamed : ∀ c ∈ codecs, c ∈ namedCodecs) : codecs.length < NUM_CODECS_AVAIL := by
  have hle := (List.subperm_of_subset hnd hnamed).length_le
  have hlen : namedCodecs.length = 11 := rfl
  show codecs.length < 12
  omega

/-! ## 4. The loop -/

section Loop

variable {b : Build} {app : App}

/-- What holds behind the tokens whose codecs are `cs`: the counter is untouched, and the slots
    up to the index are these codecs without repetitions. -/
structure Listed (app : App) (cs : List Codec) (st : Nat × App) : Prop where
  cnt : st.2.cfg.media.cnt = app.cfg.media.cnt
  index : st.1 = cs.eraseDups.length
  slots : st.2.cfg.media.codec.toList.take st.1 = cs.eraseDups.map some
  named : ∀ c ∈ cs, c ∈ namedCodecs

theorem Listed.start (app : App) : Listed app [] (0, app) where
  cnt := rfl
  index := rfl
  slots := rfl
  named := fun _ h => absurd h List.not_mem_nil

/-- The index is inside the array. -/
theorem Listed.index_lt {cs : List Codec} {st : Nat × App} (h : Listed app cs st) :
    st.1 < NUM_CODECS_AVAIL := by
  rw [h.index]
  exact named_length_lt (nodup_eraseDups cs) fun c hc => h.named c (List.mem_eraseDups.mp hc)

theorem Listed.isCodecSet {cs : List Codec} {st : Nat × App} (h : Listed app cs st)
    (codec : Codec) : isCodecSet st.2.cfg.media.codec st.1 codec = true ↔ codec ∈ cs := by
  rw [Sippak.isCodecSet, h.slots, List.contains_iff_mem, List.mem_map]
  constructor
  · intro ⟨c, hc, hsome⟩
    cases hsome
    exact List.mem_eraseDups.mp hc
  · intro hc
    exact ⟨codec, List.mem_eraseDups.mpr hc, rfl⟩

/-- The slots up to the index keep what they hold; the slot at the index gets the codec. -/
theorem take_set_slot {size i : Nat} (codecs : Vector (Option Codec) size) (hi : i < size)
    (codec : Codec) :
    (codecs.set i (some codec) hi).toList.take (i + 1) =
      codecs.toList.take i ++ [some codec] := by
  have hlen : i < codecs.toList.length := by rwa [Vector.length_toList]
  rw [Vector.toList_set, List.take_succ_eq_append_getElem (by rwa [List.length_set]),
    List.getElem_set_self, List.take_set_of_le (Nat.le_refl i)]

/-- The token is neither "all" nor refused: it names a codec of the build. -/
theorem usable_iff {tok : CStr} :
    isAllToken tok = false ∧ isRefusedToken b tok = false ↔
      ∃ codec, codecStrParse tok = some codec ∧ codec ≠ .SIPPAK_CODEC_ALL ∧
        sippakSupportCodec b codec = true := by
  unfold isAllToken isRefusedToken
  cases codecStrParse tok with
  | none => simp
  | some codec => cases codec <;> simp

/-- The round on a token that names one codec. -/
theorem codecsCfgBody_of_codec (st : Nat × App) {tok : CStr} {codec : Codec}
    (hp : codecStrParse tok = some codec) (hall : codec ≠ .SIPPAK_CODEC_ALL) :
    codecsCfgBody b st tok =
      if sippakSupportCodec b codec = false then
        .error (.ok (.PJ_CLI_EINVARG, st.2.pjLog 1 MediaHelper.NAME
          ("Codec \"".toList ++ tok ++ "\" is not supported.".toList)))
      else if isCodecSet st.2.cfg.media.codec st.1 codec then
        .ok (st.1, st.2.pjLog 2 MediaHelper.NAME
          ("Codec \"".toList ++ tok ++ "\" is already set.".toList))
      else if h : st.1 < NUM_CODECS_AVAIL then
        .ok (st.1 + 1, st.2.setMedia
          { st.2.cfg.media with codec := st.2.cfg.media.codec.set st.1 (some codec) h })
      else .error (.error .outOfBounds) := by
  unfold codecsCfgBody
  rw [hp]
  cases codec with
  | SIPPAK_CODEC_ALL => exact absurd rfl hall
  | _ => rfl

/-- **One round** on a usable token: its codec is appended where it is new, and skipped where it
    is not. -/
theorem codecsCfgBody_listed {cs : List Codec} {st : Nat × App} (h : Listed app cs st)
    {tok : CStr} {codec : Codec} (hp : codecStrParse tok = some codec)
    (hall : codec ≠ .SIPPAK_CODEC_ALL) (hsup : sippakSupportCodec b codec = true) :
    ∃ st', codecsCfgBody b st tok = .ok st' ∧ Listed app (cs ++ [codec]) st' := by
  have hnamed : ∀ c ∈ cs ++ [codec], c ∈ namedCodecs := by
    intro c hc
    rcases List.mem_append.mp hc with hc | hc
    · exact h.named c hc
    · rw [List.mem_singleton.mp hc]
      exact codecStrParse_named tok codec hp hall
  have hdups := eraseDups_concat cs codec
  rw [codecsCfgBody_of_codec st hp hall, if_neg (by rw [hsup]; exact Bool.noConfusion)]
  split
  · rename_i hset
    rw [if_pos ((h.isCodecSet codec).mp hset)] at hdups
    exact ⟨_, rfl, h.cnt, by rw [hdups, h.index], by rw [hdups]; exact h.slots, hnamed⟩
  · rename_i hset
    rw [if_neg fun hmem => hset ((h.isCodecSet codec).mpr hmem)] at hdups
    rw [dif_pos h.index_lt]
    refine ⟨_, rfl, h.cnt, ?_, ?_, hnamed⟩
    · rw [hdups, List.length_append, ← h.index]
      rfl
    · rw [hdups, List.map_append, ← h.slots]
      exact take_set_slot _ h.index_lt codec

theorem codecsCfgBody_all (b : Build) (st : Nat × App) {tok : CStr} (h : isAllToken tok = true) :
    ∃ app', codecsCfgBody b st tok = .error (.ok (.PJ_SUCCESS, app')) ∧
      app'.cfg.media.cnt = NUM_CODECS_AVAIL := by
  have hp : codecStrParse tok = some .SIPPAK_CODEC_ALL := by simpa [isAllToken] using h
  unfold codecsCfgBody
  rw [hp]
  exact ⟨_, rfl, rfl⟩

theorem codecsCfgBody_refused (st : Nat × App) {tok : CStr} (h : isRefusedToken b tok = true) :
    ∃ app', codecsCfgBody b st tok = .error (.ok (.PJ_CLI_EINVARG, app')) ∧
      app'.cfg = st.2.cfg := by
  unfold isRefusedToken at h
  cases hp : codecStrParse tok with
  | none =>
      unfold codecsCfgBody
      rw [hp]
      exact ⟨_, rfl, rfl⟩
  | some codec =>
      rw [hp] at h
      have hboth : codec ≠ .SIPPAK_CODEC_ALL ∧ sippakSupportCodec b codec = false := by
        simpa using h
      rw [codecsCfgBody_of_codec st hp hboth.1, if_pos hboth.2]
      exact ⟨_, rfl, rfl⟩

/-- **The fold computes the choice**: up to the first token that decides it appends, and there it
    leaves the function. -/
theorem codecsCfg_fold (toks : List CStr) {cs : List Codec} {st : Nat × App}
    (h : Listed app cs st) :
    (∃ st', toks.foldlM (codecsCfgBody b) st = .ok st' ∧
        (∀ tok ∈ toks, isAllToken tok = false ∧ isRefusedToken b tok = false) ∧
        Listed app (cs ++ toks.filterMap codecStrParse) st') ∨
      ∃ tok status app',
        toks.find? (fun tok => isAllToken tok || isRefusedToken b tok) = some tok ∧
        toks.foldlM (codecsCfgBody b) st = .error (.ok (status, app')) ∧
        (if isAllToken tok then CodecChoice.all else .refused).Met app status app' := by
  induction toks generalizing cs st with
  | nil =>
      refine Or.inl ⟨st, rfl, fun tok htok => absurd htok List.not_mem_nil, ?_⟩
      rw [List.filterMap_nil, List.append_nil]
      exact h
  | cons tok toks ih =>
      rw [List.foldlM_cons]
      cases hall : isAllToken tok with
      | true =>
          obtain ⟨app', hbody, hcnt⟩ := codecsCfgBody_all b st hall
          refine Or.inr ⟨tok, .PJ_SUCCESS, app', List.find?_cons_of_pos ?_, ?_, ?_⟩
          · rw [hall]
            rfl
          · rw [hbody]
            rfl
          · rw [if_pos hall]
            exact ⟨rfl, hcnt⟩
      | false =>
          cases href : isRefusedToken b tok with
          | true =>
              obtain ⟨app', hbody, hcfg⟩ := codecsCfgBody_refused st href
              refine Or.inr ⟨tok, .PJ_CLI_EINVARG, app', List.find?_cons_of_pos ?_, ?_, ?_⟩
              · rw [hall, href]
                rfl
              · rw [hbody]
                rfl
              · rw [if_neg (by simp [hall])]
                exact ⟨rfl, by rw [hcfg, h.cnt]⟩
          | false =>
              obtain ⟨codec, hp, hne, hsup⟩ := usable_iff.mp ⟨hall, href⟩
              obtain ⟨st₁, hbody, h₁⟩ := codecsCfgBody_listed h hp hne hsup
              have hfind : (tok :: toks).find?
                  (fun tok => isAllToken tok || isRefusedToken b tok) =
                    toks.find? fun tok => isAllToken tok || isRefusedToken b tok :=
                List.find?_cons_of_neg (by simp [hall, href])
              rw [hbody, hfind, List.filterMap_cons_some hp]
              rcases ih h₁ with ⟨st', hfold, husable, h'⟩ | ⟨t, status, app', ht, hfold, hmet⟩
              · refine Or.inl ⟨st', hfold, ?_, by rwa [List.append_assoc] at h'⟩
                intro t ht
                rcases List.mem_cons.mp ht with rfl | ht
                · exact ⟨hall, href⟩
                · exact husable t ht
              · exact Or.inr ⟨t, status, app', ht, hfold, hmet⟩

end Loop

/-! ## 5. The function -/

theorem find?_none_usable {b : Build} {toks : List CStr}
    (h : ∀ tok ∈ toks, isAllToken tok = false ∧ isRefusedToken b tok = false) :
    toks.find? (fun tok => isAllToken tok || isRefusedToken b tok) = none := by
  rw [List.find?_eq_none]
  intro tok htok
  rw [(h tok htok).1, (h tok htok).2]
  exact Bool.noConfusion

/-- **The call meets the choice of its fields**, from every configuration; no write is outside
    the array. -/
theorem sippakSetMediaCodecsCfg_met (b : Build) (s : CStr) (app : App) :
    ∃ status app', sippakSetMediaCodecsCfg b s app = .ok (status, app') ∧
      (codecChoice b (fields (· == ',') s)).Met app status app' := by
  unfold sippakSetMediaCodecsCfg codecChoice
  rw [forTokens_fields]
  rcases codecsCfg_fold (fields (· == ',') s) (Listed.start app) with
    ⟨⟨i, app'⟩, hfold, husable, h'⟩ | ⟨tok, status, app', hfind, hfold, hmet⟩
  · rw [hfold, find?_none_usable husable]
    have hlt := h'.index_lt
    have hindex := h'.index
    have hslots := h'.slots
    dsimp only at hlt hindex hslots
    subst hindex
    exact ⟨_, _, rfl, rfl, rfl, hlt, hslots⟩
  · rw [hfold, hfind]
    refine ⟨status, app', rfl, ?_⟩
    split at hmet <;> rename_i hall <;> simp only [hall] <;> exact hmet

/-- What an explicit choice lists: different codecs, all of them in the build. -/
theorem codecChoice_explicit {b : Build} {toks : List CStr} {codecs : List Codec}
    (h : codecChoice b toks = .explicit codecs) :
    codecs.Nodup ∧
      ∀ c ∈ codecs, c ≠ .SIPPAK_CODEC_ALL ∧ sippakSupportCodec b c = true := by
  unfold codecChoice at h
  split at h
  · split at h <;> cases h
  · rename_i hnone
    cases h
    refine ⟨nodup_eraseDups _, fun c hc => ?_⟩
    obtain ⟨tok, htok, hp⟩ := List.mem_filterMap.mp (List.mem_eraseDups.mp hc)
    have hno := List.find?_eq_none.mp hnone tok htok
    rw [Bool.not_eq_true, Bool.or_eq_false_iff, usable_iff] at hno
    obtain ⟨codec, hp', husable⟩ := hno
    rw [hp] at hp'
    cases hp'
    exact husable

/-- **`--codec` sets the ordered list of the codecs named, each once**: the call meets the choice
    of the fields of its text, and the counter is the size of the array exactly for "all". -/
theorem codecs_cfg_is_choice (b : Build) (s : CStr) (app : App) :
    ∃ status app', sippakSetMediaCodecsCfg b s app = .ok (status, app') ∧
      (codecChoice b (fields (· == ',') s)).Met app status app' ∧
      (status = .PJ_SUCCESS →
        (app'.cfg.media.cnt = NUM_CODECS_AVAIL ↔
          codecChoice b (fields (· == ',') s) = .all)) := by
  obtain ⟨status, app', hcall, hmet⟩ := sippakSetMediaCodecsCfg_met b s app
  refine ⟨status, app', hcall, hmet, fun hok => ?_⟩
  cases hc : codecChoice b (fields (· == ',') s) with
  | refused =>
      rw [hc] at hmet
      rw [hmet.1] at hok
      cases hok
  | all =>
      rw [hc] at hmet
      exact ⟨fun _ => rfl, fun _ => hmet.2⟩
  | explicit codecs =>
      rw [hc] at hmet
      obtain ⟨-, hcnt, hlt, -⟩ := hmet
      have hne : app'.cfg.media.cnt ≠ NUM_CODECS_AVAIL := by
        rw [hcnt]
        exact Nat.ne_of_lt hlt
      exact ⟨fun h => absurd h hne, fun h => by cases h⟩

/-- `all` behind a repetition is reached, and behind an unknown name it is not. -/
example : codecChoice .g711 (fields (· == ',') ",g711,G711u,,all,foo".toList) = .all ∧
    codecChoice .g711 (fields (· == ',') "g711,foo,all".toList) = .refused := by decide

end Sippak
