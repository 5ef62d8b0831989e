/-
  File:      Sippak/Lib/Gaps.lean
  Subject:   ENTRIES BY POSITION, and what is read when the blank ones are left out.

  A list of entries is read by index; an entry that is blank or missing counts as zero (`entry`).
  Whoever drops the blank entries first reads each entry behind the first gap at a smaller index.

  * `exists_index_filter` -- an entry that is kept is found at its position or before it;
  * `entry_front_iff` -- two ways to count the entries: in front of the first gap entry by entry,
    from the gap on by position;
  * `entry_filter_iff` -- **dropping the blanks changes none of the first `n` entries** exactly
    where what moves up into them counts as zero.
-/
import Mathlib.Data.List.TakeWhile

namespace Gaps

universe u v

variable {α : Type u} {M : Type v} {value value' : α → M} {zero : M} {p : α → Bool}

/-- What the entry at an index counts. -/
def entry (value : α → M) (zero : M) (l : List α) (k : Nat) : M := (l[k]?.map value).getD zero

theorem entry_nil (k : Nat) : entry value zero [] k = zero := rfl

theorem entry_cons_succ (a : α) (l : List α) (k : Nat) :
    entry value zero (a :: l) (k + 1) = entry value zero l k := rfl

/-- Two ways to count entries that are the same in front. -/
theorem entry_append_iff (front l l' : List α) (n : Nat) :
    (∀ k < n, entry value zero (front ++ l) k = entry value' zero (front ++ l') k) ↔
      (∀ a ∈ front.take n, value a = value' a) ∧
        ∀ j < n - front.length, entry value zero l j = entry value' zero l' j := by
  induction front generalizing n with
  | nil => simp
  | cons b front ih =>
      cases n with
      | zero => simp
      | succ n =>
          rw [List.take_succ_cons, List.forall_mem_cons, List.length_cons, Nat.succ_sub_succ,
            and_assoc, ← ih]
          constructor
          · intro h
            exact ⟨h 0 (Nat.succ_pos n), fun k hk => h (k + 1) (Nat.succ_lt_succ hk)⟩
          · intro h k hk
            cases k with
            | zero => exact h.1
            | succ k => exact h.2 k (Nat.lt_of_succ_lt_succ hk)

/-- An entry that is there and counts nothing, or is not there. -/
theorem entry_eq_zero_iff {l : List α} {n : Nat} :
    (∀ k < n, entry value zero l k = zero) ↔ ∀ a ∈ l.take n, value a = zero := by
  induction l generalizing n with
  | nil => simp [entry_nil]
  | cons b l ih =>
      cases n with
      | zero => simp
      | succ n =>
          rw [List.take_succ_cons, List.forall_mem_cons, ← ih]
          constructor
          · intro h
            exact ⟨h 0 (Nat.succ_pos n), fun k hk => h (k + 1) (Nat.succ_lt_succ hk)⟩
          · intro ⟨h0, h⟩ k hk
            cases k with
            | zero => exact h0
            | succ k => exact h k (Nat.lt_of_succ_lt_succ hk)

/-- **An entry that is kept** is found at its position or before it. -/
theorem exists_index_filter {l : List α} {j : Nat} {a : α} (h : l[j]? = some a)
    (hp : p a = true) : ∃ i ≤ j, (l.filter p)[i]? = some a := by
  induction l generalizing j with
  | nil => cases h
  | cons b l ih =>
      cases j with
      | zero =>
          cases h
          refine ⟨0, Nat.le_refl 0, ?_⟩
          rw [List.filter_cons_of_pos hp]
          rfl
      | succ j =>
          obtain ⟨i, hi, hmem⟩ := ih h
          cases hb : p b with
          | true =>
              refine ⟨i + 1, Nat.succ_le_succ hi, ?_⟩
              rw [List.filter_cons_of_pos hb]
              exact hmem
          | false =>
              refine ⟨i, Nat.le_succ_of_le hi, ?_⟩
              rw [List.filter_cons_of_neg (by rw [hb]; exact Bool.noConfusion)]
              exact hmem

/-- Behind a gap: what is kept agrees with the positions exactly where it counts as zero. -/
theorem entry_behind_gap_iff (hzero : ∀ a, p a = false → value a = zero) {b : α}
    (hb : p b = false) {l : List α} {n : Nat} :
    (∀ j < n, entry value zero (l.filter p) j = entry value zero (b :: l) j) ↔
      ∀ j < n, entry value zero (l.filter p) j = zero := by
  constructor
  · intro h j
    -- by strong induction: the entry at the position is one that was kept before it
    induction j using Nat.strong_induction_on with
    | _ j ih =>
        intro hj
        rw [h j hj]
        cases j with
        | zero => exact hzero b hb
        | succ j =>
            rw [entry_cons_succ]
            unfold entry
            cases ha : l[j]? with
            | none => rfl
            | some a =>
                cases hp : p a with
                | false => exact hzero a hp
                | true =>
                    obtain ⟨i, hi, hmem⟩ := exists_index_filter ha hp
                    have hbefore := ih i (Nat.lt_succ_of_le hi) (by omega)
                    unfold entry at hbefore
                    rwa [hmem] at hbefore
  · intro h j hj
    rw [h j hj]
    cases j with
    | zero => exact (hzero b hb).symm
    | succ j =>
        rw [entry_cons_succ]
        unfold entry
        cases ha : l[j]? with
        | none => rfl
        | some a =>
            cases hp : p a with
            | false => exact (hzero a hp).symm
            | true =>
                obtain ⟨i, hi, hmem⟩ := exists_index_filter ha hp
                have hkept := h i (by omega)
                unfold entry at hkept
                rw [hmem] at hkept
                exact hkept.symm

/-- **In front of the first gap nothing moves**: the entries there are compared one by one, and
    those that are kept behind it with what stands from the gap on. -/
theorem entry_front_iff {l : List α} {n : Nat} :
    (∀ k < n, entry value zero (l.filter p) k = entry value' zero l k) ↔
      (∀ a ∈ (l.takeWhile p).take n, value a = value' a) ∧
        ∀ j < n - (l.takeWhile p).length,
          entry value zero ((l.dropWhile p).filter p) j = entry value' zero (l.dropWhile p) j := by
  have hkeep : (l.takeWhile p).filter p = l.takeWhile p :=
    List.filter_eq_self.mpr fun a ha => List.mem_takeWhile_imp ha
  have hfilter : l.takeWhile p ++ (l.dropWhile p).filter p = l.filter p :=
    calc l.takeWhile p ++ (l.dropWhile p).filter p
        = (l.takeWhile p ++ l.dropWhile p).filter p := by rw [List.filter_append, hkeep]
      _ = l.filter p := by rw [List.takeWhile_append_dropWhile]
  have hfront : (∀ k < n, entry value zero (l.takeWhile p ++ (l.dropWhile p).filter p) k =
      entry value' zero (l.takeWhile p ++ l.dropWhile p) k) ↔ _ := entry_append_iff _ _ _ n
  rwa [hfilter, List.takeWhile_append_dropWhile] at hfront

/-- **Dropping the blanks changes none of the first `n` entries** exactly where the entries that
    move up into them count as zero. -/
theorem entry_filter_iff (hzero : ∀ a, p a = false → value a = zero) {l : List α} {n : Nat} :
    (∀ k < n, entry value zero (l.filter p) k = entry value zero l k) ↔
      ∀ a ∈ ((l.dropWhile p).filter p).take (n - (l.takeWhile p).length), value a = zero := by
  rw [entry_front_iff, and_iff_right fun _ _ => rfl, ← entry_eq_zero_iff]
  cases hrest : l.dropWhile p with
  | nil => simp [entry_nil]
  | cons b behind =>
      have hb : p b = false := by
        have hne : l.dropWhile p ≠ [] := by rw [hrest]; exact List.cons_ne_nil _ _
        have hhead := List.head_dropWhile_not p hne
        simp only [hrest, List.head_cons] at hhead
        exact hhead
      rw [List.filter_cons_of_neg (by rw [hb]; exact Bool.noConfusion)]
      exact entry_behind_gap_iff hzero hb

end Gaps
