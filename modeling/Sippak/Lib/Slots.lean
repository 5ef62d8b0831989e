/-
  File:      Sippak/Lib/Slots.lean
  Subject:   A C ARRAY FILLED FROM THE FRONT, with its counter.

  `Slots α size` is an array of `size` slots of which the first `cnt` are filled. That the filled
  part fits is a field, so a value with an index outside the array cannot be built;
  `push` (`arr[cnt] = v; cnt++;`) therefore has no result on a full array.

  * `push_eq_some_iff`, `push_eq_none_iff` -- what a push does, and when the write is outside;
  * `push_cnt` -- the counter after it;
  * `Overwritten` -- where the array belongs to the caller and may hold anything: its front was
    written, the other slots are what they were (`Overwritten.set`: one more write).
-/
import Mathlib.Data.List.Basic

universe u

/-- The filled part `[0, cnt)` of an array of `size` slots. -/
structure Slots (α : Type u) (size : Nat) where
  items : List α
  fits : items.length ≤ size
  deriving DecidableEq, Repr

namespace Slots

variable {α : Type u} {size : Nat}

theorem ext_items {s t : Slots α size} (h : s.items = t.items) : s = t := by
  cases s
  cases t
  cases h
  rfl

def empty : Slots α size := ⟨[], Nat.zero_le size⟩

@[simp] theorem empty_items : (empty : Slots α size).items = [] := rfl

/-- The counter that stands beside the array. -/
def cnt (s : Slots α size) : Nat := s.items.length

theorem cnt_le (s : Slots α size) : s.cnt ≤ size := s.fits

/-- `arr[cnt] = v; cnt++;` -- `none` = the index is outside the array. -/
def push (s : Slots α size) (v : α) : Option (Slots α size) :=
  if h : s.items.length < size then
    some ⟨s.items ++ [v], by rw [List.length_append]; exact h⟩
  else none

theorem push_eq_some_iff {s t : Slots α size} {v : α} :
    s.push v = some t ↔ s.cnt < size ∧ t.items = s.items ++ [v] := by
  unfold push cnt
  constructor
  · intro h
    split at h
    · rename_i hlt
      cases h
      exact ⟨hlt, rfl⟩
    · cases h
  · intro ⟨hlt, ht⟩
    rw [dif_pos hlt]
    exact congrArg some (ext_items ht.symm)

theorem push_eq_none_iff {s : Slots α size} {v : α} : s.push v = none ↔ s.cnt = size := by
  unfold push cnt
  split
  · rename_i hlt
    simp only [reduceCtorEq, false_iff]
    omega
  · rename_i hge
    have := s.fits
    simp only [true_iff]
    omega

theorem push_cnt {s t : Slots α size} {v : α} (h : s.push v = some t) : t.cnt = s.cnt + 1 := by
  have hitems := (push_eq_some_iff.mp h).2
  unfold cnt
  rw [hitems, List.length_append]
  rfl

theorem push_cnt_beq {s t : Slots α size} {v : α} (h : s.push v = some t) :
    (t.cnt == 0) = false := by
  rw [push_cnt h]
  rfl

/-! ## An array of the caller -/

/-- The array was `v₀`; `front` is written over its first slots and the others are untouched. -/
def Overwritten (v₀ : Vector α size) (front : List α) (v : Vector α size) : Prop :=
  v.toList = front ++ v₀.toList.drop front.length

theorem Overwritten.refl (v : Vector α size) : Overwritten v [] v := rfl

/-- **The next slot is written**: the front is longer by one. -/
theorem Overwritten.set {v₀ v : Vector α size} {front : List α} (h : Overwritten v₀ front v)
    (x : α) {i : Nat} (hi : i = front.length) (hlt : i < size) :
    Overwritten v₀ (front ++ [x]) (v.set i x hlt) := by
  subst hi
  unfold Overwritten at h ⊢
  have hdrop : front.length < v₀.toList.length := by rwa [Vector.length_toList]
  rw [Vector.toList_set, h, List.set_append_right _ _ (Nat.le_refl _), Nat.sub_self,
    List.drop_eq_getElem_cons hdrop, List.set_cons_zero, List.length_append, List.append_assoc]
  rfl

end Slots
