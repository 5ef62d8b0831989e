/-
  File:      Sippak/Lib/Printed.lean
  Subject:   OUTPUT PRINTED PART BY PART, and when it comes to the text that was meant.

  A part fails, or hands out a list of items (`Except ε (List ω)`); `view` is the text an item
  shows, and some show none. Nothing here knows what the items are.

  * `andThen` -- one part behind another; without the first there is no output;
  * `Prints` -- a part never shows more than its text, and shows exactly its text exactly where
    `P`. So parts cannot make up for each other: `Prints.andThen`;
  * `Always` -- a property of all output, and the runs that keep it (`Always.andThen`).
-/
import Mathlib.Data.List.Basic

namespace Printed

variable {ε ω ω' α : Type}

/-- The output of one part, and behind it that of another. -/
def andThen : Except ε (List ω) → Except ε (List ω) → Except ε (List ω)
  | .ok out, .ok out' => .ok (out ++ out')
  | .ok _, .error e => .error e
  | .error e, _ => .error e

theorem andThen_ok (out out' : List ω) :
    andThen (.ok out : Except ε (List ω)) (.ok out') = .ok (out ++ out') := rfl

theorem andThen_eq_ok {r r' : Except ε (List ω)} {all : List ω} :
    andThen r r' = .ok all ↔ ∃ out out', r = .ok out ∧ r' = .ok out' ∧ all = out ++ out' := by
  constructor
  · intro h
    cases r with
    | error e => cases h
    | ok out =>
        cases r' with
        | error e => cases h
        | ok out' =>
            cases h
            exact ⟨out, out', rfl, rfl, rfl⟩
  · rintro ⟨out, out', rfl, rfl, rfl⟩
    rfl

/-! ## 1. Parts that show a text -/

/-- The part shows at most as much as `text`, and exactly `text` exactly where `P`. -/
structure Prints (view : ω → List α) (r : Except ε (List ω)) (text : List α) (P : Prop) : Prop where
  bound : ∀ out, r = .ok out → (out.flatMap view).length ≤ text.length
  whole : (∃ out, r = .ok out ∧ out.flatMap view = text) ↔ P

section Rules

variable {view : ω → List α} {r r' : Except ε (List ω)} {text text' : List α} {P P' : Prop}

theorem Prints.ok {out : List ω} (hlen : (out.flatMap view).length ≤ text.length)
    (hP : out.flatMap view = text ↔ P) : Prints view (.ok out : Except ε (List ω)) text P where
  bound := fun _ h => by
    cases h
    exact hlen
  whole := by
    rw [← hP]
    constructor
    · rintro ⟨_, h, heq⟩
      cases h
      exact heq
    · exact fun heq => ⟨out, rfl, heq⟩

/-- A part that shows its text whatever it is. -/
theorem Prints.all {out : List ω} (h : out.flatMap view = text) :
    Prints view (.ok out : Except ε (List ω)) text True :=
  .ok (Nat.le_of_eq (congrArg List.length h)) (iff_true_intro h)

/-- A part that falls short of its text. -/
theorem Prints.short {out : List ω} (h : (out.flatMap view).length < text.length) :
    Prints view (.ok out : Except ε (List ω)) text False :=
  .ok (Nat.le_of_lt h) (iff_of_false (fun heq => Nat.lt_irrefl _ (heq ▸ h)) id)

theorem Prints.error (e : ε) : Prints view (.error e) text False where
  bound := fun _ h => by cases h
  whole := iff_of_false (fun ⟨_, h, _⟩ => by cases h) id

theorem Prints.congr (h : Prints view r text P) (hP : P ↔ P') : Prints view r text P' :=
  ⟨h.bound, h.whole.trans hP⟩

/-- **One part behind another**: neither shows more than its own text, so the whole text is shown
    exactly where both are. -/
theorem Prints.andThen (h : Prints view r text P) (h' : Prints view r' text' P') :
    Prints view (andThen r r') (text ++ text') (P ∧ P') where
  bound := fun all hall => by
    obtain ⟨out, out', hr, hr', rfl⟩ := andThen_eq_ok.mp hall
    rw [List.flatMap_append, List.length_append, List.length_append]
    exact Nat.add_le_add (h.bound out hr) (h'.bound out' hr')
  whole := by
    rw [← h.whole, ← h'.whole]
    constructor
    · rintro ⟨all, hall, heq⟩
      obtain ⟨out, out', hr, hr', rfl⟩ := andThen_eq_ok.mp hall
      rw [List.flatMap_append] at heq
      have hsum := congrArg List.length heq
      have hle := h.bound out hr
      have hle' := h'.bound out' hr'
      rw [List.length_append, List.length_append] at hsum
      obtain ⟨h₁, h₂⟩ := List.append_inj heq (by omega)
      exact ⟨⟨out, hr, h₁⟩, out', hr', h₂⟩
    · rintro ⟨⟨out, hr, h₁⟩, out', hr', h₂⟩
      exact ⟨_, andThen_eq_ok.mpr ⟨out, out', hr, hr', rfl⟩, by rw [List.flatMap_append, h₁, h₂]⟩

/-- The items go through a function that does not touch what they show. -/
theorem Prints.map {view' : ω' → List α} {f : ω → ω'} (h : Prints view r text P)
    (hf : ∀ o, view' (f o) = view o) : Prints view' (r.map (List.map f)) text P := by
  have hview : ∀ out : List ω, (out.map f).flatMap view' = out.flatMap view := fun out => by
    rw [List.flatMap_map]
    exact congrArg out.flatMap (funext hf)
  cases r with
  | error e => exact (Prints.error e).congr (by rw [← h.whole]; simp)
  | ok out =>
      refine .ok (by rw [hview]; exact h.bound out rfl) ?_
      rw [hview, ← h.whole]
      constructor
      · exact fun heq => ⟨out, rfl, heq⟩
      · rintro ⟨_, hout, heq⟩
        cases hout
        exact heq

end Rules

/-! ## 2. Properties of all output -/

/-- Whatever is handed out has the property. -/
def Always (r : Except ε (List ω)) (Q : List ω → Prop) : Prop := ∀ out, r = .ok out → Q out

section Always

variable {r r' : Except ε (List ω)} {Q : List ω → Prop}

theorem Always.ok {out : List ω} (h : Q out) : Always (.ok out : Except ε (List ω)) Q := by
  intro _ hout
  cases hout
  exact h

theorem Always.error (e : ε) : Always (.error e) Q := by
  intro _ hout
  cases hout

/-- What is kept where one output stands behind another is kept by runs. -/
theorem Always.andThen (hQ : ∀ out out', Q out → Q out' → Q (out ++ out')) (h : Always r Q)
    (h' : Always r' Q) : Always (andThen r r') Q := by
  intro all hall
  obtain ⟨out, out', hr, hr', rfl⟩ := andThen_eq_ok.mp hall
  exact hQ out out' (h out hr) (h' out' hr')

/-- A property that more output does not take away. -/
theorem Always.andThen_left (hQ : ∀ out out', Q out → Q (out ++ out')) (h : Always r Q) :
    Always (Printed.andThen r r') Q := by
  intro all hall
  obtain ⟨out, out', hr, -, rfl⟩ := andThen_eq_ok.mp hall
  exact hQ out out' (h out hr)

theorem Always.andThen_right (hQ : ∀ out out', Q out' → Q (out ++ out')) (h : Always r' Q) :
    Always (Printed.andThen r r') Q := by
  intro all hall
  obtain ⟨out, out', -, hr', rfl⟩ := andThen_eq_ok.mp hall
  exact hQ out out' (h out' hr')

end Always

end Printed
