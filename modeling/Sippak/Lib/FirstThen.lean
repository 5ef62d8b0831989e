/-
  File:      Sippak/Lib/FirstThen.lean
  Subject:   COLLECTING RESULTS WHERE THE FIRST ONE IS MADE DIFFERENTLY.

  A loop goes through a list and keeps what a partial function makes of each element. As long as
  it has kept nothing, it asks `f true`, afterwards `f false`; an element without a result does
  not count as the first.

  * `firstThen_false`, `firstThen_true` -- the two phases in closed form: what the second one
    keeps is a `filterMap`, and the first one skips to the first element with a result;
  * `firstThen_nil_iff` -- when nothing is kept;
  * `firstThen_filterMap`, `filterMap_firstThen` -- a partial function in front of the loop, and
    one behind it;
  * `foldl_firstThen` -- the loop that looks at what it has kept;
  * `AskedFirst` -- the elements it asks `f true` about.
-/
import Mathlib.Data.List.Basic

namespace FirstThen

universe u v w

variable {α : Type u} {β : Type v} {γ : Type w}

/-- The results of the loop; `first` = nothing is kept yet. -/
def firstThen (f : Bool → α → Option β) : Bool → List α → List β
  | _, [] => []
  | first, x :: xs =>
    match f first x with
    | none => firstThen f first xs
    | some y => y :: firstThen f false xs

variable {f g : Bool → α → Option β} {first : Bool} {x : α} {xs : List α}

theorem firstThen_cons_none (h : f first x = none) :
    firstThen f first (x :: xs) = firstThen f first xs := by
  rw [firstThen, h]

theorem firstThen_cons_some {y : β} (h : f first x = some y) :
    firstThen f first (x :: xs) = y :: firstThen f false xs := by
  rw [firstThen, h]

/-- **Behind the first result** every element is asked in the same way. -/
theorem firstThen_false (f : Bool → α → Option β) (xs : List α) :
    firstThen f false xs = xs.filterMap (f false) := by
  induction xs with
  | nil => rfl
  | cons x xs ih =>
      cases h : f false x with
      | none => rw [firstThen_cons_none h, List.filterMap_cons_none h, ih]
      | some y => rw [firstThen_cons_some h, List.filterMap_cons_some h, ih]

/-- **Up to the first result** the elements without one are skipped. -/
theorem firstThen_true (f : Bool → α → Option β) (xs : List α) :
    firstThen f true xs =
      match xs.dropWhile fun x => (f true x).isNone with
      | [] => []
      | x :: rest => (f true x).toList ++ rest.filterMap (f false) := by
  induction xs with
  | nil => rfl
  | cons x xs ih =>
      cases h : f true x with
      | none => rw [firstThen_cons_none h, ih, List.dropWhile_cons_of_pos (by rw [h]; rfl)]
      | some y =>
          rw [firstThen_cons_some h, firstThen_false,
            List.dropWhile_cons_of_neg (by rw [h]; exact Bool.false_ne_true)]
          dsimp only
          rw [h]
          rfl

theorem firstThen_nil_iff (first : Bool) (xs : List α) :
    firstThen f first xs = [] ↔ ∀ x ∈ xs, f first x = none := by
  induction xs with
  | nil => simp [firstThen]
  | cons x xs ih =>
      cases h : f first x with
      | none => rw [firstThen_cons_none h, ih, List.forall_mem_cons, h, eq_self, true_and]
      | some y => simp [firstThen_cons_some h, h]

/-- The loop asks about its own elements only. -/
theorem firstThen_congr (h : ∀ first, ∀ x ∈ xs, f first x = g first x) :
    firstThen f first xs = firstThen g first xs := by
  induction xs generalizing first with
  | nil => rfl
  | cons x xs ih =>
      have ih' : ∀ first, firstThen f first xs = firstThen g first xs :=
        fun _ => ih fun b y hy => h b y (List.mem_cons_of_mem _ hy)
      rw [firstThen, firstThen, h first x List.mem_cons_self, ih', ih']

/-- A partial function in front of the loop. -/
theorem firstThen_filterMap (f : Bool → β → Option γ) (pre : α → Option β) (first : Bool)
    (xs : List α) :
    firstThen (fun b x => (pre x).bind (f b)) first xs = firstThen f first (xs.filterMap pre) := by
  induction xs generalizing first with
  | nil => rfl
  | cons x xs ih =>
      cases h : pre x with
      | none =>
          rw [List.filterMap_cons_none h, firstThen_cons_none (by rw [h]; rfl), ih]
      | some y =>
          rw [List.filterMap_cons_some h, firstThen, firstThen, h, Option.bind_some, ih, ih]

/-- A partial function behind the loop, where it is defined on every result. -/
theorem filterMap_firstThen {post : β → Option γ}
    (h : ∀ first, ∀ x ∈ xs, ∀ y, f first x = some y → post y ≠ none) :
    (firstThen f first xs).filterMap post =
      firstThen (fun b x => (f b x).bind post) first xs := by
  induction xs generalizing first with
  | nil => rfl
  | cons x xs ih =>
      have ih' : ∀ first, (firstThen f first xs).filterMap post =
          firstThen (fun b x => (f b x).bind post) first xs :=
        fun _ => ih fun b y hy => h b y (List.mem_cons_of_mem _ hy)
      cases hf : f first x with
      | none => rw [firstThen_cons_none hf, firstThen_cons_none (by rw [hf]; rfl), ih']
      | some y =>
          obtain ⟨z, hz⟩ := Option.ne_none_iff_exists'.mp (h first x List.mem_cons_self y hf)
          rw [firstThen_cons_some hf, List.filterMap_cons_some hz,
            firstThen_cons_some (by rw [hf]; exact hz), ih']

/-- **The loop that looks at what it has kept.** -/
theorem foldl_firstThen (f : Bool → α → Option β) (ys : List β) (xs : List α) :
    xs.foldl (fun ys x => ys ++ (f ys.isEmpty x).toList) ys =
      ys ++ firstThen f ys.isEmpty xs := by
  induction xs generalizing ys with
  | nil => exact (List.append_nil ys).symm
  | cons x xs ih =>
      rw [List.foldl_cons, ih]
      cases h : f ys.isEmpty x with
      | none => rw [firstThen_cons_none h, Option.toList_none, List.append_nil]
      | some y =>
          have hne : (ys ++ [y]).isEmpty = false := by simp
          rw [firstThen_cons_some h, Option.toList_some, hne, List.append_assoc]
          rfl

/-- The loop asks `f true` about `x`: no element in front of it has a result. -/
def AskedFirst (f : Bool → α → Option β) (xs : List α) (x : α) : Prop :=
  ∃ before behind, xs = before ++ x :: behind ∧ ∀ y ∈ before, f true y = none

theorem not_askedFirst_nil : ¬ AskedFirst f [] x := by
  rintro ⟨before, behind, hsplit, -⟩
  cases before <;> cases hsplit

theorem askedFirst_cons_iff {y : α} :
    AskedFirst f (x :: xs) y ↔ y = x ∨ f true x = none ∧ AskedFirst f xs y := by
  constructor
  · rintro ⟨before, behind, hsplit, hnone⟩
    cases before with
    | nil =>
        cases hsplit
        exact Or.inl rfl
    | cons z before =>
        cases hsplit
        obtain ⟨hz, hrest⟩ := List.forall_mem_cons.mp hnone
        exact Or.inr ⟨hz, before, behind, rfl, hrest⟩
  · rintro (rfl | ⟨hx, before, behind, rfl, hnone⟩)
    · exact ⟨[], xs, rfl, fun _ h => (by cases h)⟩
    · exact ⟨x :: before, behind, rfl, List.forall_mem_cons.mpr ⟨hx, hnone⟩⟩

end FirstThen
