/-
  File:      Sippak/Lib/NameTable.lean
  Subject:   TABLES OF NAMES a text is compared with, letter case ignored, as prefixes.

  A chain of prefix comparisons answers with its first match (`first`); what a reader of the table
  expects is the longest of the names the text starts with (`Longest`, `Answers`). The two differ
  only where a name stands behind a shorter one it starts with: such entries are `hidden`.

  * `first_answers` -- where no hidden name matches, the first match is the longest one;
  * `Longest.own` -- a name in any letter case is its own longest match;
  * `Answers.unique` -- a table with different names has one answer for each text.
-/
import Mathlib.Data.List.Pairwise
import Sippak.Lib.CStr

namespace NameTable

open CStr

universe u

variable {α : Type u} {table : List (CStr × α)} {tok : CStr}

/-! ## 1. The first match and the longest one -/

/-- The chain of comparisons, in the order of the table. -/
def first : List (CStr × α) → CStr → Option α
  | [], _ => none
  | (name, a) :: table, tok => if startsIgnoreCase tok name then some a else first table tok

/-- The entry has the longest of the names the text starts with. -/
structure Longest (table : List (CStr × α)) (tok : CStr) (e : CStr × α) : Prop where
  mem : e ∈ table
  starts : startsIgnoreCase tok e.1 = true
  longest : ∀ e' ∈ table, startsIgnoreCase tok e'.1 = true → e'.1.length ≤ e.1.length

/-- The answer the table has for a text: the value of the longest name, or none. -/
def Answers (table : List (CStr × α)) (tok : CStr) : Option α → Prop
  | none => ∀ e ∈ table, startsIgnoreCase tok e.1 = false
  | some a => ∃ name, Longest table tok (name, a)

/-- No two names are the same, letter case ignored. -/
def Distinct (table : List (CStr × α)) : Prop :=
  table.Pairwise fun e e' => eqIgnoreCase e.1 e'.1 = false

/-- The entries that stand behind a name their own name starts with. -/
def hidden : List (CStr × α) → List (CStr × α)
  | [] => []
  | e :: table => table.filter (fun e' => startsIgnoreCase e'.1 e.1) ++ hidden table

/-! ## 2. One answer -/

/-- A name that is the text in another letter case is its longest match. -/
theorem Longest.own {e : CStr × α} (hmem : e ∈ table) (h : eqIgnoreCase tok e.1 = true) :
    Longest table tok e where
  mem := hmem
  starts := startsIgnoreCase_of_eq h
  longest := by
    intro e' _ hs
    have hle := (startsIgnoreCase_iff.mp hs).length_le
    have hlen := congrArg List.length (eqIgnoreCase_iff.mp h)
    rw [List.length_map, List.length_map] at hle hlen
    omega

/-- Two longest matches have the same name, and are one entry. -/
theorem Longest.unique (hd : Distinct table) {e e' : CStr × α} (h : Longest table tok e)
    (h' : Longest table tok e') : e = e' := by
  by_contra hne
  have hlen : e.1.length = e'.1.length :=
    Nat.le_antisymm (h'.longest e h.mem h.starts) (h.longest e' h'.mem h'.starts)
  have hsame : eqIgnoreCase e.1 e'.1 = true := by
    rw [eqIgnoreCase_iff]
    rcases startsIgnoreCase_both h.starts h'.starts with hp | hp
    · exact hp.eq_of_length (by rw [List.length_map, List.length_map, hlen])
    · exact (hp.eq_of_length (by rw [List.length_map, List.length_map, hlen])).symm
  have hsymm : Std.Symm fun a b : CStr × α => eqIgnoreCase a.1 b.1 = false :=
    ⟨fun a b hab => by rwa [eqIgnoreCase_comm]⟩
  have hdiff := List.Pairwise.forall hd h.mem h'.mem hne
  rw [hsame] at hdiff
  cases hdiff

/-- **A text has one answer.** -/
theorem Answers.unique (hd : Distinct table) {x y : Option α} (hx : Answers table tok x)
    (hy : Answers table tok y) : x = y := by
  cases x with
  | none =>
      cases y with
      | none => rfl
      | some b =>
          obtain ⟨name, hl⟩ := hy
          have hno := hx _ hl.mem
          rw [hl.starts] at hno
          cases hno
  | some a =>
      obtain ⟨name, hl⟩ := hx
      cases y with
      | none =>
          have hno := hy _ hl.mem
          rw [hl.starts] at hno
          cases hno
      | some b =>
          obtain ⟨name', hl'⟩ := hy
          have heq := hl.unique hd hl'
          cases heq
          rfl

/-! ## 3. When the first match is the answer -/

/-- An entry that does not match makes no difference to the answer. -/
theorem Answers.cons {e : CStr × α} (he : startsIgnoreCase tok e.1 = false) {x : Option α}
    (h : Answers table tok x) : Answers (e :: table) tok x := by
  have hskip : ∀ e' ∈ e :: table, startsIgnoreCase tok e'.1 = true → e' ∈ table := by
    intro e' hmem hs
    rcases List.mem_cons.mp hmem with heq | hmem
    · rw [heq, he] at hs
      cases hs
    · exact hmem
  cases x with
  | none =>
      intro e' hmem
      rcases List.mem_cons.mp hmem with heq | hmem
      · rw [heq, he]
      · exact h e' hmem
  | some a =>
      obtain ⟨name, hl⟩ := h
      exact ⟨name, List.mem_cons_of_mem _ hl.mem, hl.starts,
        fun e' hmem hs => hl.longest e' (hskip e' hmem hs) hs⟩

/-- **Where no hidden name matches, the first match is the longest one.** -/
theorem first_answers (h : ∀ e ∈ hidden table, startsIgnoreCase tok e.1 = false) :
    Answers table tok (first table tok) := by
  induction table with
  | nil => exact fun e he => absurd he List.not_mem_nil
  | cons e table ih =>
      obtain ⟨name, a⟩ := e
      cases hs : startsIgnoreCase tok name with
      | true =>
          rw [first, if_pos hs]
          refine ⟨name, List.mem_cons_self, hs, ?_⟩
          intro e' hmem hs'
          rcases List.mem_cons.mp hmem with heq | hmem
          · rw [heq]
          · rcases startsIgnoreCase_both hs hs' with hp | hp
            · -- the longer name is hidden behind this one
              have hhid : e' ∈ hidden ((name, a) :: table) :=
                List.mem_append_left _ (List.mem_filter.mpr ⟨hmem, startsIgnoreCase_iff.mpr hp⟩)
              have hno := h e' hhid
              rw [hs'] at hno
              cases hno
            · have hle := hp.length_le
              rwa [List.length_map, List.length_map] at hle
      | false =>
          have hrest := ih fun e' he' => h e' (List.mem_append_right _ he')
          rw [first, if_neg (by rw [hs]; exact Bool.noConfusion)]
          exact hrest.cons hs

end NameTable
