/-
  File:      Sippak/Lib/AddAbsent.lean
  Subject:   APPENDING WHAT IS NOT THERE YET, up to an equivalence.

  `addAbsent same l x` appends `x` unless `l` holds an element that is the same as `x`;
  `addAll` does so for each element of a list, one after the other, so that an element added
  early can keep a later one out.

  * `prefix_addAll` -- what was there stays, in place;
  * `addAll_present` -- afterwards every element is there, up to `same`; `addAll_idem` -- so
    doing it again changes nothing;
  * `addAll_eq_append_iff` -- nothing is kept out exactly when no two of the added elements are
    the same, given that none of them was there before;
  * `Appended`, `addAll_appended` -- what is added behind a list: asked for, and the same as
    nothing in front of it;
  * `mem_addAll_iff` -- which elements are there afterwards.
-/
import Mathlib.Data.List.Basic

namespace AddAbsent

universe u

variable {α : Type u} (same : α → α → Bool)

/-- Append `x` unless `l` has it. -/
def addAbsent (l : List α) (x : α) : List α := if l.any (same x) then l else l ++ [x]

/-- Append each of `xs` unless the list has it by then. -/
def addAll (l xs : List α) : List α := xs.foldl (addAbsent same) l

variable {same}

theorem addAll_append (l xs ys : List α) :
    addAll same l (xs ++ ys) = addAll same (addAll same l xs) ys := List.foldl_append

theorem addAbsent_of_any {l : List α} {x : α} (h : l.any (same x) = true) :
    addAbsent same l x = l := if_pos h

theorem addAbsent_of_not {l : List α} {x : α} (h : l.any (same x) = false) :
    addAbsent same l x = l ++ [x] := by
  unfold addAbsent
  rw [h]
  rfl

theorem prefix_addAbsent (l : List α) (x : α) : l <+: addAbsent same l x := by
  unfold addAbsent
  split
  · exact List.prefix_refl l
  · exact List.prefix_append l [x]

/-- **What was there stays, in place.** -/
theorem prefix_addAll (l xs : List α) : l <+: addAll same l xs := by
  induction xs generalizing l with
  | nil => exact List.prefix_refl l
  | cons x xs ih => exact (prefix_addAbsent l x).trans (ih _)

theorem any_of_prefix {l l' : List α} {x : α} (h : l <+: l') (hx : l.any (same x) = true) :
    l'.any (same x) = true := by
  rw [List.any_eq_true] at hx ⊢
  obtain ⟨y, hy, hs⟩ := hx
  exact ⟨y, h.subset hy, hs⟩

/-- **Afterwards every element is there**, up to `same`. -/
theorem addAll_present (hrefl : ∀ x, same x x = true) (l xs : List α) :
    ∀ x ∈ xs, (addAll same l xs).any (same x) = true := by
  induction xs generalizing l with
  | nil => exact fun x hx => absurd hx List.not_mem_nil
  | cons y xs ih =>
      intro x hx
      rcases List.mem_cons.mp hx with rfl | hx'
      · refine any_of_prefix (prefix_addAll (addAbsent same l x) xs) ?_
        cases h : l.any (same x) with
        | true => rw [addAbsent_of_any h, h]
        | false => simp [addAbsent_of_not h, hrefl]
      · exact ih _ x hx'

/-- Where every element is there already, nothing is added. -/
theorem addAll_of_present {l xs : List α} (h : ∀ x ∈ xs, l.any (same x) = true) :
    addAll same l xs = l := by
  induction xs with
  | nil => rfl
  | cons x xs ih =>
      have hx : addAbsent same l x = l := addAbsent_of_any (h x List.mem_cons_self)
      rw [addAll, List.foldl_cons, hx]
      exact ih fun y hy => h y (List.mem_cons_of_mem _ hy)

/-- **Doing it again changes nothing.** -/
theorem addAll_idem (hrefl : ∀ x, same x x = true) (l xs : List α) :
    addAll same (addAll same l xs) xs = addAll same l xs :=
  addAll_of_present (addAll_present hrefl l xs)

theorem length_addAll_le (same : α → α → Bool) (l xs : List α) :
    (addAll same l xs).length ≤ l.length + xs.length := by
  induction xs generalizing l with
  | nil => exact Nat.le_refl _
  | cons x xs ih =>
      have h := ih (addAbsent same l x)
      have hx : (addAbsent same l x).length ≤ l.length + 1 := by
        unfold addAbsent
        split <;> simp
      rw [List.length_cons]
      show (addAll same (addAbsent same l x) xs).length ≤ _
      omega

/-- **Nothing is kept out exactly when no two of the added elements are the same**, given that
    none of them was there before. -/
theorem addAll_eq_append_iff (hsymm : ∀ x y, same x y = same y x) {l xs : List α}
    (hnew : ∀ x ∈ xs, l.any (same x) = false) :
    addAll same l xs = l ++ xs ↔ xs.Pairwise fun x y => same x y = false := by
  induction xs generalizing l with
  | nil => simp [addAll]
  | cons x xs ih =>
      have hx : addAbsent same l x = l ++ [x] := addAbsent_of_not (hnew x List.mem_cons_self)
      rw [List.pairwise_cons]
      show addAll same (addAbsent same l x) xs = l ++ x :: xs ↔ _
      rw [hx, List.append_cons l x xs]
      by_cases hdis : ∀ y ∈ xs, same x y = false
      · rw [ih fun y hy => ?_]
        · exact ⟨fun h => ⟨hdis, h⟩, fun h => h.2⟩
        · rw [List.any_append, hnew y (List.mem_cons_of_mem _ hy)]
          simp [hsymm y x, hdis y hy]
      · -- some later element is the same as `x`: it is dropped, and the lengths differ
        refine ⟨fun h => absurd ?_ hdis, fun h => absurd h.1 hdis⟩
        intro y hy
        obtain ⟨as, bs, rfl⟩ := List.append_of_mem hy
        cases hxy : same x y with
        | false => rfl
        | true =>
            exfalso
            have hlen := congrArg List.length h
            have hmid : (addAll same (l ++ [x]) as).any (same y) = true :=
              any_of_prefix (prefix_addAll _ _) (by simp [hsymm y x, hxy])
            have hsplit : addAll same (l ++ [x]) (as ++ y :: bs) =
                addAll same (addAll same (l ++ [x]) as) bs := by
              rw [addAll_append]
              exact congrArg (addAll same · bs) (addAbsent_of_any hmid)
            rw [hsplit] at hlen
            have h1 := length_addAll_le same (addAll same (l ++ [x]) as) bs
            have h2 := length_addAll_le same (l ++ [x]) as
            simp only [List.length_append, List.length_cons] at hlen h2
            omega

/-- **Which elements are there afterwards**: those of the list, and each added one that is the same
    as nothing in front of it. -/
theorem mem_addAll_iff
    (htrans : ∀ x y z, same x y = true → same y z = true → same x z = true) {l xs : List α}
    {x : α} : x ∈ addAll same l xs ↔
      x ∈ l ∨ ∃ pre post, xs = pre ++ x :: post ∧ (l ++ pre).any (same x) = false := by
  induction xs generalizing l with
  | nil => simp [addAll]
  | cons y xs ih =>
      show x ∈ addAll same (addAbsent same l y) xs ↔ _
      rw [ih]
      cases hy : l.any (same y) with
      | true =>
          rw [addAbsent_of_any hy]
          refine or_congr_right ⟨fun ⟨pre, post, hxs, hnone⟩ => ?_, fun ⟨pre, post, hxs, hnone⟩ => ?_⟩
          · refine ⟨y :: pre, post, by rw [hxs]; rfl, ?_⟩
            rw [List.any_append, Bool.or_eq_false_iff] at hnone
            obtain ⟨w, hw, hyw⟩ := List.any_eq_true.mp hy
            have hxy : same x y = false := by
              rw [Bool.eq_false_iff]
              intro hxy
              exact List.any_eq_false.mp hnone.1 w hw (htrans x y w hxy hyw)
            rw [List.any_append, hnone.1, List.any_cons, hxy, hnone.2]
            rfl
          · cases pre with
            | nil =>
                cases hxs
                rw [List.append_nil, hy] at hnone
                cases hnone
            | cons z pre =>
                cases hxs
                refine ⟨pre, post, rfl, ?_⟩
                rw [List.any_append, List.any_cons, Bool.or_eq_false_iff,
                  Bool.or_eq_false_iff] at hnone
                rw [List.any_append, hnone.1, hnone.2.2]
                rfl
      | false =>
          rw [addAbsent_of_not hy]
          constructor
          · rintro (hmem | ⟨pre, post, hxs, hnone⟩)
            · rcases List.mem_append.mp hmem with hl | hxy
              · exact Or.inl hl
              · rw [List.mem_singleton.mp hxy]
                exact Or.inr ⟨[], xs, rfl, by rw [List.append_nil, hy]⟩
            · exact Or.inr ⟨y :: pre, post, by rw [hxs]; rfl, by rwa [List.append_cons]⟩
          · rintro (hl | ⟨pre, post, hxs, hnone⟩)
            · exact Or.inl (List.mem_append_left _ hl)
            · cases pre with
              | nil =>
                  cases hxs
                  exact Or.inl (List.mem_append_right _ List.mem_cons_self)
              | cons z pre =>
                  cases hxs
                  exact Or.inr ⟨pre, post, rfl, by rwa [← List.append_cons]⟩

/-! ## What is added -/

/-- Behind `l` stand elements of `xs`, none of them the same as one in front of it. -/
structure Appended (same : α → α → Bool) (l xs more : List α) : Prop where
  asked : ∀ x ∈ more, x ∈ xs
  new : ∀ x ∈ more, l.any (same x) = false
  apart : more.Pairwise fun y x => same x y = false

/-- **No added element is the same as one in front of it**, old or added. -/
theorem Appended.inFront {l xs more pre post : List α} {x : α} (h : Appended same l xs more)
    (hm : more = pre ++ x :: post) : (l ++ pre).any (same x) = false := by
  subst hm
  rw [List.any_append, h.new x (by simp), Bool.false_or, List.any_eq_false]
  intro y hy
  have hyx := (List.pairwise_append.mp h.apart).2.2 y hy x List.mem_cons_self
  simp [hyx]

/-- One more round: `x` is added first. -/
theorem Appended.cons {l xs more : List α} {x : α} (hx : l.any (same x) = false)
    (h : Appended same (l ++ [x]) xs more) : Appended same l (x :: xs) (x :: more) := by
  -- what is new behind `l ++ [x]` is new behind `l`, and not the same as `x`
  have hsplit : ∀ y ∈ more, l.any (same y) = false ∧ same y x = false := by
    intro y hy
    have hy' := h.new y hy
    rw [List.any_append, Bool.or_eq_false_iff] at hy'
    exact ⟨hy'.1, by simpa using hy'.2⟩
  refine ⟨fun y hy => ?_, fun y hy => ?_, ?_⟩
  · rcases List.mem_cons.mp hy with rfl | hy
    · exact List.mem_cons_self
    · exact List.mem_cons_of_mem _ (h.asked y hy)
  · rcases List.mem_cons.mp hy with rfl | hy
    · exact hx
    · exact (hsplit y hy).1
  · exact List.pairwise_cons.mpr ⟨fun y hy => (hsplit y hy).2, h.apart⟩

theorem addAll_appended (same : α → α → Bool) (l xs : List α) :
    ∃ more, addAll same l xs = l ++ more ∧ Appended same l xs more := by
  induction xs generalizing l with
  | nil => exact ⟨[], (List.append_nil l).symm, by simp, by simp, List.Pairwise.nil⟩
  | cons x xs ih =>
      show ∃ more, addAll same (addAbsent same l x) xs = l ++ more ∧ _
      cases hx : l.any (same x) with
      | true =>
          rw [addAbsent_of_any hx]
          obtain ⟨more, heq, h⟩ := ih l
          exact ⟨more, heq, fun y hy => List.mem_cons_of_mem _ (h.asked y hy), h.new, h.apart⟩
      | false =>
          rw [addAbsent_of_not hx]
          obtain ⟨more, heq, h⟩ := ih (l ++ [x])
          refine ⟨x :: more, ?_, h.cons hx⟩
          rw [heq, List.append_assoc, List.singleton_append]

/-- Of elements that are all the same, one is added at most. -/
theorem Appended.countP_le_one {l xs more : List α} (h : Appended same l xs more) {p : α → Bool}
    (hp : ∀ x y, p x = true → p y = true → same x y = true) : more.countP p ≤ 1 := by
  have hapart : (more.filter p).Pairwise fun y x => same x y = false := h.apart.filter p
  have hall : ∀ x ∈ more.filter p, p x = true := fun x hx => (List.mem_filter.mp hx).2
  rw [List.countP_eq_length_filter]
  generalize more.filter p = ps at hapart hall
  match ps with
  | [] => exact Nat.zero_le 1
  | [_] => exact Nat.le_refl 1
  | y :: x :: ps =>
      have hsame := hp x y (hall x (by simp)) (hall y (by simp))
      have hdiff := (List.pairwise_cons.mp hapart).1 x List.mem_cons_self
      rw [hsame] at hdiff
      cases hdiff

end AddAbsent
