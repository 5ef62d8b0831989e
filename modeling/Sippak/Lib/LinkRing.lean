/-
  File:      Sippak/Lib/LinkRing.lean
  Subject:   CIRCULAR DOUBLY LINKED LISTS WITH A HEAD NODE, over arbitrary addresses.

  `Links α` is the link memory: two functions, `prev` and `next`. `IsRing l h xs` says that from
  the head `h` the next links visit exactly `xs` and come back to `h`, that the prev links undo
  the next links there, and that no node occurs twice.

  * `Path` -- the next links lead from `a` over `xs` to `b`; `Path.unique`, `Path.congr`;
  * `insertAfter`, `insertBefore` -- the four link writes that put a node into a list;
  * `IsRing.pushBack` -- inserting before the head appends to the ring, whatever the links of the
    inserted node were; `IsRing.frame` -- and leaves every ring alone that shares no node with it;
  * `walk`, `search` -- following next until the head comes back, counted: on a path both end,
    with the nodes of the path and with the first of them that satisfies the test.
-/
import Mathlib.Data.List.Nodup
import Mathlib.Logic.Function.Basic

namespace LinkRing

universe u

/-- The link fields of all nodes. -/
structure Links (α : Type u) where
  prev : α → α
  next : α → α

/-! ## 1. Paths along the next links -/

/-- From `a` the next links visit `xs`, in this order, and then reach `b`. -/
def Path {α : Type u} (l : Links α) : α → List α → α → Prop
  | a, [], b => l.next a = b
  | a, x :: xs, b => l.next a = x ∧ Path l x xs b

/-- Follow next from `a` until `stop`, at most `n` nodes; `none` = `stop` was not met. -/
def walk {α : Type u} [DecidableEq α] (l : Links α) (stop : α) : Nat → α → Option (List α)
  | 0, a => if a = stop then some [] else none
  | n + 1, a => if a = stop then some [] else (walk l stop n (l.next a)).map (a :: ·)

/-- Follow next from `a` until `stop` or the first node that satisfies `p`, at most `n` nodes;
    the outer `none` = neither was met. -/
def search {α : Type u} [DecidableEq α] (l : Links α) (stop : α) (p : α → Bool) :
    Nat → α → Option (Option α)
  | 0, a => if a = stop then some none else none
  | n + 1, a =>
    if a = stop then some none
    else if p a then some (some a)
    else search l stop p n (l.next a)

section Paths

variable {α : Type u} {l l' : Links α}

theorem path_append {a b y : α} {xs : List α} :
    Path l a (xs ++ [y]) b ↔ Path l a xs y ∧ l.next y = b := by
  induction xs generalizing a with
  | nil => simp [Path]
  | cons x xs ih => simp only [List.cons_append, Path, ih, and_assoc]

/-- A path reads the next links of its start and of its nodes only. -/
theorem Path.congr {a b : α} {xs : List α} (h : Path l a xs b)
    (he : ∀ c ∈ a :: xs, l'.next c = l.next c) : Path l' a xs b := by
  induction xs generalizing a with
  | nil => exact (he a List.mem_cons_self).trans h
  | cons x xs ih =>
      obtain ⟨hx, hp⟩ := h
      refine ⟨(he a List.mem_cons_self).trans hx, ih hp fun c hc => ?_⟩
      exact he c (List.mem_cons_of_mem _ hc)

/-- Every node of a path has its successor on the path or at its end. -/
theorem Path.next_mem {a b c : α} {xs : List α} (h : Path l a xs b) (hc : c ∈ a :: xs) :
    l.next c ∈ xs ∨ l.next c = b := by
  induction xs generalizing a with
  | nil =>
      rw [List.mem_singleton] at hc
      subst hc
      exact Or.inr h
  | cons x xs ih =>
      obtain ⟨hx, hp⟩ := h
      rcases List.mem_cons.mp hc with rfl | hc'
      · exact Or.inl (by rw [hx]; exact List.mem_cons_self)
      · exact (ih hp hc').imp (List.mem_cons_of_mem _) id

/-- The last node of a path (its start, if it visits none) is followed by the end. -/
theorem Path.next_getLast {a b : α} {xs : List α} (h : Path l a xs b) :
    l.next ((a :: xs).getLast (List.cons_ne_nil a xs)) = b := by
  induction xs generalizing a with
  | nil => exact h
  | cons x xs ih => exact ih h.2

/-- **Two paths from one node to one end that neither passes are the same path.** -/
theorem Path.unique {a b : α} {xs ys : List α} (h : Path l a xs b) (h' : Path l a ys b)
    (hx : b ∉ xs) (hy : b ∉ ys) : xs = ys := by
  induction xs generalizing a ys with
  | nil =>
      cases ys with
      | nil => rfl
      | cons y ys => exact absurd (by rw [← h'.1, ← h]; exact List.mem_cons_self) hy
  | cons x xs ih =>
      cases ys with
      | nil => exact absurd (by rw [← h.1, ← h']; exact List.mem_cons_self) hx
      | cons y ys =>
          have e : x = y := h.1.symm.trans h'.1
          subst e
          rw [ih h.2 h'.2 (fun hb => hx (List.mem_cons_of_mem _ hb))
            (fun hb => hy (List.mem_cons_of_mem _ hb))]

variable [DecidableEq α]

/-- **A walk along a path ends and visits the path**, given one step for each node. -/
theorem Path.walk_eq {a b : α} {xs : List α} (h : Path l a xs b) (hb : b ∉ xs) {n : Nat}
    (hn : xs.length ≤ n) : walk l b n (l.next a) = some xs := by
  induction xs generalizing a n with
  | nil =>
      have e : l.next a = b := h
      cases n <;> simp [walk, e]
  | cons x xs ih =>
      obtain ⟨hx, hp⟩ := h
      rw [List.mem_cons, not_or] at hb
      cases n with
      | zero => simp at hn
      | succ n =>
          rw [hx, walk, if_neg (Ne.symm hb.1), ih hp hb.2 (by simpa using hn)]
          rfl

/-- **A search along a path ends with the first node of the path that satisfies the test.** -/
theorem Path.search_eq {a b : α} {xs : List α} {p : α → Bool} (h : Path l a xs b) (hb : b ∉ xs)
    {n : Nat} (hn : xs.length ≤ n) : search l b p n (l.next a) = some (xs.find? p) := by
  induction xs generalizing a n with
  | nil =>
      have e : l.next a = b := h
      cases n <;> simp [search, e]
  | cons x xs ih =>
      obtain ⟨hx, hp⟩ := h
      rw [List.mem_cons, not_or] at hb
      cases n with
      | zero => simp at hn
      | succ n =>
          rw [hx, search, if_neg (Ne.symm hb.1)]
          cases hpx : p x with
          | true => simp [hpx]
          | false => simpa [hpx] using ih hp hb.2 (by simpa using hn)

/-- The search tests nothing behind the first hit, so its answer does not depend on how far it
    was allowed to go. -/
theorem search_mono {b : α} {p : α → Bool} {n : Nat} {a : α} {r : Option α}
    (h : search l b p n a = some r) {m : Nat} (hm : n ≤ m) : search l b p m a = some r := by
  induction n generalizing a m with
  | zero =>
      unfold search at h
      split at h
      · rename_i e
        cases m <;> simpa [search, e] using h
      · cases h
  | succ n ih =>
      obtain ⟨m, rfl⟩ : ∃ k, m = k + 1 := ⟨m - 1, by omega⟩
      unfold search at h ⊢
      split
      · rename_i e
        rwa [if_pos e] at h
      · rename_i e
        rw [if_neg e] at h
        split
        · rename_i hp
          rwa [if_pos hp] at h
        · rename_i hp
          rw [if_neg hp] at h
          exact ih h (by omega)

end Paths

/-! ## 2. Link writes -/

section Writes

variable {α : Type u} [DecidableEq α]

def Links.setNext (l : Links α) (a b : α) : Links α :=
  { l with next := Function.update l.next a b }

def Links.setPrev (l : Links α) (a b : α) : Links α :=
  { l with prev := Function.update l.prev a b }

/-- A node linked to itself: an empty list. -/
def Links.single (l : Links α) (a : α) : Links α :=
  (l.setPrev a a).setNext a a

/-- Put `node` between `pos` and its successor: four writes, in this order. -/
def Links.insertAfter (l : Links α) (pos node : α) : Links α :=
  let l₁ := l.setPrev node pos
  let l₂ := l₁.setNext node (l₁.next pos)
  let l₃ := l₂.setPrev (l₂.next pos) node
  l₃.setNext pos node

/-- Put `node` between `pos` and its predecessor. -/
def Links.insertBefore (l : Links α) (pos node : α) : Links α :=
  l.insertAfter (l.prev pos) node

/-- The next links after an insertion. -/
theorem Links.insertAfter_next {l : Links α} {pos node : α} (c : α) :
    (l.insertAfter pos node).next c =
      if c = pos then node else if c = node then l.next pos else l.next c := by
  simp only [insertAfter, setNext, setPrev, Function.update_apply]

/-- The prev links after an insertion, where the inserted node is not the position itself. -/
theorem Links.insertAfter_prev {l : Links α} {pos node : α} (hne : node ≠ pos) (c : α) :
    (l.insertAfter pos node).prev c =
      if c = l.next pos then node else if c = node then pos else l.prev c := by
  simp only [insertAfter, setNext, setPrev, Function.update_apply, Ne.symm hne, if_false]

end Writes

/-! ## 3. Rings -/

/-- **The ring**: from the head `h` the next links visit `xs` and come back, prev undoes next,
    and no node occurs twice. -/
structure IsRing {α : Type u} (l : Links α) (h : α) (xs : List α) : Prop where
  path : Path l h xs h
  back : ∀ a ∈ h :: xs, l.prev (l.next a) = a
  nodup : (h :: xs).Nodup

section Rings

variable {α : Type u} {l l' : Links α} {h : α} {xs : List α}

theorem IsRing.head_notMem (hr : IsRing l h xs) : h ∉ xs := (List.nodup_cons.mp hr.nodup).1

theorem IsRing.next_mem (hr : IsRing l h xs) {a : α} (ha : a ∈ h :: xs) : l.next a ∈ h :: xs :=
  (hr.path.next_mem ha).elim (List.mem_cons_of_mem _) fun e => e ▸ List.mem_cons_self

/-- The head's prev link names the tail. -/
theorem IsRing.prev_head (hr : IsRing l h xs) :
    l.prev h = (h :: xs).getLast (List.cons_ne_nil h xs) := by
  have hb := hr.back _ (List.getLast_mem (List.cons_ne_nil h xs))
  rwa [hr.path.next_getLast] at hb

/-- A ring reads the links of its own nodes only. -/
theorem IsRing.congr (hr : IsRing l h xs) (hn : ∀ c ∈ h :: xs, l'.next c = l.next c)
    (hp : ∀ c ∈ h :: xs, l'.prev c = l.prev c) : IsRing l' h xs where
  path := hr.path.congr hn
  back a ha := by rw [hn a ha, hp _ (hr.next_mem ha), hr.back a ha]
  nodup := hr.nodup

variable [DecidableEq α]

/-- A node linked to itself is the ring of no node. -/
theorem isRing_single (l : Links α) (a : α) : IsRing (l.single a) a [] where
  path := by simp [Path, Links.single, Links.setNext]
  back c hc := by
    rw [List.mem_singleton] at hc
    subst hc
    simp [Links.single, Links.setNext, Links.setPrev]
  nodup := List.nodup_singleton a

/-- Linking a node to itself leaves alone every ring it is not in. -/
theorem IsRing.single_frame (hr : IsRing l h xs) {a : α} (ha : a ∉ h :: xs) :
    IsRing (l.single a) h xs := by
  refine hr.congr (fun c hc => ?_) fun c hc => ?_
  all_goals
    have hca : c ≠ a := fun e => ha (e ▸ hc)
    simp [Links.single, Links.setNext, Links.setPrev, hca]

/-- **Inserting before the head appends to the ring**, whatever the links of the new node were. -/
theorem IsRing.pushBack (hr : IsRing l h xs) {x : α} (hx : x ∉ h :: xs) :
    IsRing (l.insertBefore h x) h (xs ++ [x]) := by
  have hlast := hr.path.next_getLast
  have hmem : (h :: xs).getLast (List.cons_ne_nil h xs) ∈ h :: xs := List.getLast_mem _
  generalize ht : (h :: xs).getLast (List.cons_ne_nil h xs) = t at hlast hmem
  have hprev : l.prev h = t := hr.prev_head.trans ht
  have htx : x ≠ t := fun e => hx (e ▸ hmem)
  have hnext : ∀ c, (l.insertBefore h x).next c =
      if c = t then x else if c = x then h else l.next c := by
    intro c
    rw [Links.insertBefore, hprev, Links.insertAfter_next, hlast]
  have hback : ∀ c, (l.insertBefore h x).prev c =
      if c = h then x else if c = x then t else l.prev c := by
    intro c
    rw [Links.insertBefore, hprev, Links.insertAfter_prev htx, hlast]
  have hxh : x ≠ h := fun e => hx (e ▸ List.mem_cons_self)
  -- only the tail's next link changed among the old nodes
  have hold : ∀ c ∈ h :: xs, c ≠ t → (l.insertBefore h x).next c = l.next c := by
    intro c hc hct
    have hcx : c ≠ x := fun e => hx (e ▸ hc)
    rw [hnext, if_neg hct, if_neg hcx]
  refine ⟨path_append.mpr ⟨?_, ?_⟩, fun a ha => ?_, ?_⟩
  · -- the old path up to the tail, then the new node
    rcases List.eq_nil_or_concat xs with rfl | ⟨ys, y, rfl⟩
    · have e : h = t := by simpa using ht
      show (l.insertBefore h x).next h = x
      rw [hnext, if_pos e]
    · rw [List.concat_eq_append] at *
      have e : y = t := by simpa using ht
      subst e
      obtain ⟨hp, _⟩ := path_append.mp hr.path
      refine path_append.mpr ⟨hp.congr fun c hc => ?_, ?_⟩
      · have hnd := hr.nodup
        rw [← List.cons_append, List.nodup_append] at hnd
        exact hold c (by rw [← List.cons_append]; exact List.mem_append_left _ hc)
          (hnd.2.2 c hc y List.mem_cons_self)
      · rw [hnext, if_pos rfl]
  · rw [hnext, if_neg htx, if_pos rfl]
  · rw [← List.cons_append, List.mem_append, List.mem_singleton] at ha
    rcases ha with ha | rfl
    · have hax : a ≠ x := fun e => hx (e ▸ ha)
      by_cases hat : a = t
      · rw [hnext, if_pos hat, hback, if_neg hxh, if_pos rfl, hat]
      · rw [hold a ha hat, hback]
        have hnh : l.next a ≠ h := by
          intro e
          have := hr.back a ha
          rw [e, hprev] at this
          exact hat this.symm
        have hnx : l.next a ≠ x := fun e => hx (e ▸ hr.next_mem ha)
        rw [if_neg hnh, if_neg hnx, hr.back a ha]
    · rw [hnext, if_neg htx, if_pos rfl, hback, if_pos rfl]
  · rw [← List.cons_append]
    exact List.nodup_append.mpr ⟨hr.nodup, List.nodup_singleton x, fun a ha b hb => by
      rw [List.mem_singleton] at hb
      subst hb
      exact fun e => hx (e ▸ ha)⟩

/-- **Inserting into one ring leaves every ring alone that shares no node with it and does not
    hold the inserted node.** -/
theorem IsRing.frame (hr : IsRing l h xs) {x : α} (hx : x ∉ h :: xs) {g : α} {ys : List α}
    (hg : IsRing l g ys) (hxg : x ∉ g :: ys) (hdis : ∀ c ∈ g :: ys, c ∉ h :: xs) :
    IsRing (l.insertBefore h x) g ys := by
  have hmem : (h :: xs).getLast (List.cons_ne_nil h xs) ∈ h :: xs := List.getLast_mem _
  have hlast := hr.path.next_getLast
  rw [Links.insertBefore, hr.prev_head]
  have htx : x ≠ (h :: xs).getLast (List.cons_ne_nil h xs) := fun e => hx (e ▸ hmem)
  refine hg.congr (fun c hc => ?_) fun c hc => ?_
  · have hct : c ≠ (h :: xs).getLast (List.cons_ne_nil h xs) := fun e => hdis c hc (e ▸ hmem)
    have hcx : c ≠ x := fun e => hxg (e ▸ hc)
    rw [Links.insertAfter_next, if_neg hct, if_neg hcx]
  · have hch : c ≠ h := fun e => hdis c hc (e ▸ List.mem_cons_self)
    have hcx : c ≠ x := fun e => hxg (e ▸ hc)
    rw [Links.insertAfter_prev htx, hlast, if_neg hch, if_neg hcx]

/-- On a ring the walk from the head comes back to it with the ring's nodes. -/
theorem IsRing.walk_eq (hr : IsRing l h xs) {n : Nat} (hn : xs.length ≤ n) :
    walk l h n (l.next h) = some xs :=
  hr.path.walk_eq hr.head_notMem hn

/-- On a ring the search from the head ends with the first node that satisfies the test. -/
theorem IsRing.search_eq (hr : IsRing l h xs) {p : α → Bool} {n : Nat} (hn : xs.length ≤ n) :
    search l h p n (l.next h) = some (xs.find? p) :=
  hr.path.search_eq hr.head_notMem hn

end Rings

end LinkRing
