/-
  File:      Sippak/MwiList.lean
  Subject:   THE LIST OF `--mwi` (getopts.c): four numbers by position.

  The positions of the list mean new, old, urgent new and urgent old messages. `set_mwi_list`
  counts the fields the tokeniser returns, and the tokeniser skips empty ones: what stands behind
  an empty field moves up. `pj_strtol` does not skip white space: a number behind a blank is read
  as 0.

  * `setMwiList_entry` -- each number by the fields that are not empty, from any configuration;
  * `stored_eq_leading` -- what is stored for a field, by the text of the field;
  * `entries_inPlace_iff`, `inPlace_iff_unshifted` -- when the fields are read at their positions;
  * `mwi_positional_iff` -- **when the numbers are those of the positions** (`MwiInPlace`; where no
    number has a blank in front of it `MwiUnshifted`).
-/
import Mathlib.Data.List.Basic
import Sippak.Lib.Gaps
import Sippak.Lib.Tokens
import Sippak.Getopts

namespace Sippak

open CStr Gaps

/-! ## 1. The positions -/

/-- The comma-separated fields, by position. -/
def positions (s : CStr) : List CStr := s.splitOnP (· == ',')

/-- The number written in a field: behind white space a sign and digits. -/
def written (f : CStr) : Int := numeral (ltrim f)

/-- The number in the field at a position, and 0 where the field is empty or missing. -/
def fieldNumber (s : CStr) (k : Nat) : Int := entry written 0 (positions s) k

/-- The array holds the numbers of the first four positions, as far as they fit an `int`. -/
def MwiRight (s : CStr) (mwi : Vector Int 4) : Prop :=
  ∀ k, (h : k < 4) → FitsInt (fieldNumber s k) → mwi[k] = fieldNumber s k

/-- The number written in a field, as an `int`. -/
def number (f : CStr) : Int := toInt (written f)

/-- The field starts with white space. -/
def blankFirst (f : CStr) : Bool := f.head?.any isSpace

/-- The number that stands at the very start of a field. -/
def leading (f : CStr) : Int := if blankFirst f then 0 else number f

/-- A number other than 0 behind a blank. -/
def Indented (f : CStr) : Prop := blankFirst f = true ∧ number f ≠ 0

/-- In front of the first empty field no number has a blank in front of it. From there on each
    field that moves up starts with the number that is written where it moves to. -/
structure MwiInPlace (s : CStr) : Prop where
  front : ∀ f ∈ ((positions s).takeWhile (· ≠ [])).take 4, ¬ Indented f
  moved : ∀ j < 4 - ((positions s).takeWhile (· ≠ [])).length,
    entry leading 0 (((positions s).dropWhile (· ≠ [])).filter (· ≠ [])) j =
      entry number 0 ((positions s).dropWhile (· ≠ [])) j

/-- What moves up is 0: with the first empty field at the position `e`, the first `4 - e` fields
    behind it that are not empty. -/
def MwiUnshifted (s : CStr) : Prop :=
  ∀ f ∈ (((positions s).dropWhile (· ≠ [])).filter (· ≠ [])).take
      (4 - ((positions s).takeWhile (· ≠ [])).length), number f = 0

/-! ## 2. What is stored -/

/-- What the code stores for a field. -/
def stored (f : CStr) : Int := toInt (numeral f)

theorem mwiBody_of_lt {i : Nat} (v : Vector Int 4) (tok : CStr) (h : i < 4) :
    mwiBody (i, v) tok = .ok (i + 1, v.set i (stored tok) h) := by
  unfold mwiBody stored
  rw [dif_pos h, toInt_strtol_eq]

/-- **The loop** from the slot `i` on: the slots before it keep their value, each of the others
    gets the number of its token, if there is one. -/
theorem mwiBody_fold (toks : List CStr) (i : Nat) (v : Vector Int 4) :
    ∃ st, (toks.foldlM mwiBody (i, v) = .ok st ∨ toks.foldlM mwiBody (i, v) = .error st) ∧
      (∀ k, (h : k < 4) → k < i → st.2[k] = v[k]) ∧
      ∀ j, (h : i + j < 4) → st.2[i + j] = (toks[j]?.map stored).getD v[i + j] := by
  induction toks generalizing i v with
  | nil => exact ⟨(i, v), Or.inl rfl, fun _ _ _ => rfl, fun _ _ => rfl⟩
  | cons tok toks ih =>
      by_cases hi : i < 4
      · obtain ⟨st, hst, hbefore, hfrom⟩ := ih (i + 1) (v.set i (stored tok) hi)
        have hstep : (tok :: toks).foldlM mwiBody (i, v) =
            toks.foldlM mwiBody (i + 1, v.set i (stored tok) hi) := by
          rw [List.foldlM_cons, mwiBody_of_lt v tok hi]
          rfl
        refine ⟨st, by rwa [hstep], fun k hk hlt => ?_, fun j hj => ?_⟩
        · rw [hbefore k hk (Nat.lt_succ_of_lt hlt), Vector.getElem_set_ne _ _ (by omega)]
        · cases j with
          | zero =>
              have hslot := hbefore i hi (Nat.lt_succ_self i)
              rw [Vector.getElem_set_self] at hslot
              exact hslot
          | succ j =>
              have hslot := hfrom j (by omega)
              rw [Vector.getElem_set_ne _ _ (by omega)] at hslot
              have hidx : i + 1 + j = i + (j + 1) := by omega
              simp only [hidx] at hslot
              exact hslot
      · -- the array is full: the loop is left
        have hstop : (tok :: toks).foldlM mwiBody (i, v) = .error (i, v) := by
          rw [List.foldlM_cons, mwiBody, dif_neg hi]
          rfl
        exact ⟨(i, v), Or.inr hstop, fun _ _ _ => rfl, fun j hj => absurd hj (by omega)⟩

/-- **Each of the four numbers** is that of a field that is not empty, or 0. -/
theorem setMwiList_entry (s : CStr) (app : App) {k : Nat} (h : k < 4) :
    (setMwiList s app).cfg.mwi[k] = entry stored 0 (fields (· == ',') s) k := by
  obtain ⟨st, hst, -, hfrom⟩ := mwiBody_fold (fields (· == ',') s) 0 (Vector.replicate 4 0)
  have hslot := hfrom k (by omega)
  simp only [Nat.zero_add, Vector.getElem_replicate] at hslot
  unfold setMwiList entry
  rw [forTokens_fields]
  rcases hst with hst | hst <;> rw [hst] <;> exact hslot

/-! ## 3. By position -/

/-- **What is stored for a field** is the number at its very start. -/
theorem stored_eq_leading (f : CStr) : stored f = leading f := by
  unfold stored leading number written
  cases f with
  | nil => rfl
  | cons c f =>
      cases hc : isSpace c with
      | true =>
          rw [numeral_of_lead hc, if_pos (by simpa [blankFirst] using hc)]
          rfl
      | false =>
          rw [ltrim_of_noLead fun x hx => by cases hx; exact hc,
            if_neg (by simpa [blankFirst] using hc)]

/-- A field is read as its number unless a blank stands in front of that. -/
theorem leading_eq_number_iff (f : CStr) : leading f = number f ↔ ¬ Indented f := by
  unfold leading Indented
  cases blankFirst f with
  | true => simp [eq_comm]
  | false => simp

theorem number_nil : number [] = 0 := by decide

/-- What would be stored for a position. -/
theorem toInt_fieldNumber (s : CStr) (k : Nat) :
    toInt (fieldNumber s k) = entry number 0 (positions s) k := by
  unfold fieldNumber entry
  cases (positions s)[k]? with
  | none => decide
  | some f => rfl

/-- **The stored numbers are those of the positions** exactly where the fields are read at their
    places. -/
theorem entries_inPlace_iff (s : CStr) :
    (∀ k < 4, entry stored 0 (fields (· == ',') s) k = entry number 0 (positions s) k) ↔
      MwiInPlace s := by
  have hread : stored = leading := funext stored_eq_leading
  have hsplit : (∀ k < 4, entry leading 0 (fields (· == ',') s) k =
      entry number 0 (positions s) k) ↔ _ := entry_front_iff
  rw [hread, hsplit]
  constructor
  · rintro ⟨hfront, hmoved⟩
    exact ⟨fun f hf => (leading_eq_number_iff f).mp (hfront f hf), hmoved⟩
  · intro h
    exact ⟨fun f hf => (leading_eq_number_iff f).mpr (h.front f hf), h.moved⟩

/-- **Where no number has a blank in front of it**, the fields are read at their places exactly
    where what moves up is 0. -/
theorem inPlace_iff_unshifted {s : CStr} (h : ∀ f ∈ positions s, ¬ Indented f) :
    MwiInPlace s ↔ MwiUnshifted s := by
  have hblank : ∀ f : CStr, decide (f ≠ []) = false → number f = 0 := by
    intro f hf
    rw [decide_eq_false_iff_not, not_not] at hf
    rw [hf]
    exact number_nil
  -- every field that is kept is read as its number
  have hfields : ∀ k, entry stored 0 (fields (· == ',') s) k =
      entry number 0 (fields (· == ',') s) k := by
    intro k
    unfold entry
    cases hf : (fields (· == ',') s)[k]? with
    | none => rfl
    | some f =>
        have hmem : f ∈ positions s := List.mem_of_mem_filter (List.mem_of_getElem? hf)
        exact (stored_eq_leading f).trans ((leading_eq_number_iff f).mpr (h f hmem))
  rw [← entries_inPlace_iff]
  simp only [hfields]
  exact entry_filter_iff hblank

/-- **The numbers are those of the positions** wherever the fields are read at their places, and
    where all numbers of the list fit an `int` only there; where no number has a blank in front of
    it that is: where what moves up is 0. And no earlier `--mwi` matters. -/
theorem mwi_positional_iff (s : CStr) (app : App) :
    (MwiInPlace s → MwiRight s (setMwiList s app).cfg.mwi) ∧
    ((∀ k < 4, FitsInt (fieldNumber s k)) →
      (MwiRight s (setMwiList s app).cfg.mwi ↔ MwiInPlace s)) ∧
    ((∀ f ∈ positions s, ¬ Indented f) → (MwiInPlace s ↔ MwiUnshifted s)) ∧
    ∀ app' : App, (setMwiList s app').cfg.mwi = (setMwiList s app).cfg.mwi := by
  have hright : MwiInPlace s → MwiRight s (setMwiList s app).cfg.mwi := by
    intro h k hk hfits
    rw [setMwiList_entry s app hk, (entries_inPlace_iff s).mpr h k hk, ← toInt_fieldNumber,
      toInt_of_fits hfits]
  refine ⟨hright, fun hfits => ⟨fun h => ?_, hright⟩, inPlace_iff_unshifted, fun app' => rfl⟩
  rw [← entries_inPlace_iff]
  intro k hk
  rw [← setMwiList_entry s app hk, h k hk (hfits k hk), ← toInt_fieldNumber,
    toInt_of_fits (hfits k hk)]

/-- `--mwi ,5` is stored as 5 new messages, `--mwi 1,,2` as 2 old ones; of `--mwi "1, 2, 3,4"` the
    two numbers behind a blank are lost. -/
theorem mwi_shifted :
    (setMwiList ",5".toList sippakInit).cfg.mwi = #v[5, 0, 0, 0] ∧
      ¬ MwiRight ",5".toList (setMwiList ",5".toList sippakInit).cfg.mwi ∧
      (setMwiList "1,,2".toList sippakInit).cfg.mwi = #v[1, 2, 0, 0] ∧
      ¬ MwiRight "1,,2".toList (setMwiList "1,,2".toList sippakInit).cfg.mwi ∧
      (setMwiList "1, 2, 3,4".toList sippakInit).cfg.mwi = #v[1, 0, 0, 4] ∧
      ¬ MwiRight "1, 2, 3,4".toList (setMwiList "1, 2, 3,4".toList sippakInit).cfg.mwi := by
  refine ⟨by decide, fun h => ?_, by decide, fun h => ?_, by decide, fun h => ?_⟩
  · have hslot := h 0 (by decide) (by unfold FitsInt; decide)
    exact absurd hslot (by decide)
  · have hslot := h 1 (by decide) (by unfold FitsInt; decide)
    exact absurd hslot (by decide)
  · have hslot := h 1 (by decide) (by unfold FitsInt; decide)
    exact absurd hslot (by decide)

end Sippak
