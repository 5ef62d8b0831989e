/-
  File:      Sippak/Lib/Reorder.lean
  Subject:   ACTIONS IN ANOTHER ORDER: when the order of a list of actions does not matter.

  Each action has a key. Two lists are alike (`SamePerKey`) when the actions of every key stand in
  both in the same order; how the keys are mixed is left open. Where actions of different keys
  commute, alike lists have the same run.

  They commute where the state falls into parts, one for a key (`Parts`), and each action is about
  the part of its key alone: what it does there depends on nothing else, and it writes nothing
  else (`Local`).

  * `foldlM_eq` -- **alike lists have the same run**;
  * `Local.commute` -- actions on different parts commute.
-/
import Mathlib.Data.List.Nodup

namespace Reorder

variable {α σ κ : Type}

/-! ## 1. Alike lists -/

section Lists

variable [DecidableEq κ]

/-- The actions of every key, in their order, are the same. -/
def SamePerKey (key : α → κ) (l₁ l₂ : List α) : Prop :=
  ∀ k, l₁.filter (fun a => key a = k) = l₂.filter (fun a => key a = k)

variable {key : α → κ} {a : α} {l l₁ l₂ : List α}

theorem SamePerKey.symm (h : SamePerKey key l₁ l₂) : SamePerKey key l₂ l₁ :=
  fun k => (h k).symm

/-- Nothing is alike to the empty list but itself. -/
theorem SamePerKey.of_nil (h : SamePerKey key [] l) : l = [] := by
  cases l with
  | nil => rfl
  | cons b l =>
      have hb := h (key b)
      rw [List.filter_nil, List.filter_cons_of_pos (by simp)] at hb
      cases hb

/-- The first action of one list stands in the other behind actions of other keys, and without it
    the lists are still alike. -/
theorem SamePerKey.of_cons (h : SamePerKey key (a :: l₁) l₂) :
    ∃ p q, l₂ = p ++ a :: q ∧ (∀ b ∈ p, key b ≠ key a) ∧ SamePerKey key l₁ (p ++ q) := by
  have ha := h (key a)
  rw [List.filter_cons_of_pos (by simp)] at ha
  obtain ⟨p, q, hl₂, hp, -, hq⟩ := List.filter_eq_cons_iff.mp ha.symm
  have hother : ∀ b ∈ p, key b ≠ key a := fun b hb => by simpa using hp b hb
  refine ⟨p, q, hl₂, hother, fun k => ?_⟩
  by_cases hk : key a = k
  · subst hk
    have hnone : p.filter (fun b => key b = key a) = [] :=
      List.filter_eq_nil_iff.mpr fun b hb => by simpa using hother b hb
    rw [List.filter_append, hnone, List.nil_append, hq]
  · have hrest := h k
    rw [hl₂, List.filter_cons_of_neg (by simpa using hk), List.filter_append,
      List.filter_cons_of_neg (by simpa using hk)] at hrest
    rw [hrest, List.filter_append]

/-- Where no two actions have the same key, any order will do. -/
theorem SamePerKey.of_perm (hp : l₁.Perm l₂) (hnd : (l₁.map key).Nodup) :
    SamePerKey key l₁ l₂ := by
  intro k
  have hperm := hp.filter fun a => decide (key a = k)
  have hone : (l₁.filter fun a => decide (key a = k)).length ≤ 1 := by
    have hcount := List.nodup_iff_count_le_one.mp hnd k
    rw [List.count, List.countP_map, List.countP_eq_length_filter] at hcount
    exact hcount
  revert hperm hone
  generalize l₁.filter (fun a => decide (key a = k)) = f₁
  generalize l₂.filter (fun a => decide (key a = k)) = f₂
  intro hperm hone
  match f₁ with
  | [] => exact hperm.nil_eq
  | [a] => exact hperm.singleton_eq
  | _ :: _ :: _ => simp at hone

/-! ## 2. Their runs -/

variable {m : Type → Type} [Monad m] [LawfulMonad m] {f : σ → α → m σ}

/-- It makes no difference which of the two comes first. -/
def Commute (f : σ → α → m σ) (a b : α) : Prop :=
  ∀ s, (f s a >>= fun s' => f s' b) = (f s b >>= fun s' => f s' a)

/-- An action that commutes with all in front of it may be made first. -/
theorem foldlM_front {p q : List α} (hp : ∀ b ∈ p, Commute f b a) (s : σ) :
    (p ++ a :: q).foldlM f s = (a :: (p ++ q)).foldlM f s := by
  induction p generalizing s with
  | nil => rfl
  | cons b p ih =>
      have hih := ih fun c hc => hp c (List.mem_cons_of_mem b hc)
      calc (b :: (p ++ a :: q)).foldlM f s
          = f s b >>= fun s' => (a :: (p ++ q)).foldlM f s' := by
            rw [List.foldlM_cons]
            exact bind_congr hih
        _ = (f s b >>= fun s' => f s' a) >>= fun s' => (p ++ q).foldlM f s' := by
            rw [bind_assoc]
            exact bind_congr fun s' => List.foldlM_cons
        _ = (f s a >>= fun s' => f s' b) >>= fun s' => (p ++ q).foldlM f s' := by
            rw [hp b List.mem_cons_self s]
        _ = (a :: (b :: (p ++ q))).foldlM f s := by
            rw [bind_assoc, List.foldlM_cons]
            exact bind_congr fun s' => List.foldlM_cons.symm

/-- **Where actions of different keys commute, alike lists have the same run.** -/
theorem foldlM_eq (hf : ∀ a b, key a ≠ key b → Commute f a b) (h : SamePerKey key l₁ l₂) (s : σ) :
    l₁.foldlM f s = l₂.foldlM f s := by
  induction l₁ generalizing l₂ s with
  | nil => rw [h.of_nil]
  | cons a l₁ ih =>
      obtain ⟨p, q, rfl, hother, hrest⟩ := h.of_cons
      rw [foldlM_front fun b hb => hf b a (hother b hb), List.foldlM_cons, List.foldlM_cons]
      exact bind_congr fun s' => ih hrest s'

end Lists

/-! ## 3. States with parts -/

/-- A state that falls into parts: `write k new old` is `old` with the part `k` of `new`. A part
    comes out as it was written, it is none of the others, and the parts are all there is. -/
structure Parts (κ σ : Type) where
  write : κ → σ → σ → σ
  self : ∀ k c, write k c c = c
  source : ∀ k x c d, write k (write k x c) d = write k x d
  foreign : ∀ k k' x c d, k ≠ k' → write k (write k' x c) d = write k c d
  ext : ∀ c d, (∀ k, write k c d = d) → c = d

/-- Two parts may be written in any order. -/
theorem Parts.swap [DecidableEq κ] (parts : Parts κ σ) {k k' : κ} (hk : k ≠ k') (x y c : σ) :
    parts.write k x (parts.write k' y c) = parts.write k' y (parts.write k x c) := by
  refine parts.ext _ _ fun j => ?_
  -- the part `j` of both sides, by where it comes from
  have hboth : ∀ d, parts.write j (parts.write k x (parts.write k' y c)) d =
      parts.write j (parts.write k' y (parts.write k x c)) d := by
    intro d
    by_cases hj : j = k
    · subst hj
      rw [parts.source, parts.foreign _ _ _ _ _ hk, parts.source]
    · rw [parts.foreign _ _ _ _ _ hj]
      by_cases hj' : j = k'
      · subst hj'
        rw [parts.source, parts.source]
      · rw [parts.foreign _ _ _ _ _ hj', parts.foreign _ _ _ _ _ hj', parts.foreign _ _ _ _ _ hj]
  rw [hboth, parts.self]

/-- The action is about the part `k` alone: it does there what it does in any state with the same
    part, and it keeps the others. -/
def Local (parts : Parts κ σ) (f : σ → α → Option σ) (k : κ) (a : α) : Prop :=
  ∀ s s', parts.write k s s' = s' → f s a = (f s' a).map fun x => parts.write k x s

/-- **Actions on different parts commute.** -/
theorem Local.commute [DecidableEq κ] {parts : Parts κ σ} {f : σ → α → Option σ} {k k' : κ} {a b : α}
    (ha : Local parts f k a) (hb : Local parts f k' b) (hk : k ≠ k') : Commute f a b := by
  intro s
  -- behind an action on another part, each does what it does in `s`
  have hab : ∀ x, f (parts.write k x s) b =
      (f s b).map fun y => parts.write k' y (parts.write k x s) := by
    intro x
    refine hb _ _ ?_
    rw [parts.foreign _ _ _ _ _ hk.symm, parts.self]
  have hba : ∀ y, f (parts.write k' y s) a =
      (f s a).map fun x => parts.write k x (parts.write k' y s) := by
    intro y
    refine ha _ _ ?_
    rw [parts.foreign _ _ _ _ _ hk, parts.self]
  have hsa : ∀ x, f s a = some x → parts.write k x s = x := by
    intro x hx
    have h := ha s s (parts.self k s)
    rw [hx] at h
    exact (Option.some.inj h).symm
  have hsb : ∀ y, f s b = some y → parts.write k' y s = y := by
    intro y hy
    have h := hb s s (parts.self k' s)
    rw [hy] at h
    exact (Option.some.inj h).symm
  cases hfa : f s a with
  | none =>
      cases hfb : f s b with
      | none => rfl
      | some y =>
          have h := hba y
          rw [hsb y hfb, hfa] at h
          exact h.symm
  | some x =>
      have h := hab x
      rw [hsa x hfa] at h
      cases hfb : f s b with
      | none =>
          rw [hfb] at h
          exact h
      | some y =>
          have h' := hba y
          rw [hsb y hfb, hfa] at h'
          rw [hfb] at h
          show f x b = f y a
          rw [h, h']
          show some (parts.write k' y x) = some (parts.write k x y)
          rw [← hsa x hfa, ← hsb y hfb, parts.source, parts.source, parts.swap hk]

end Reorder
