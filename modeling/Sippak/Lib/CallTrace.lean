/-
  File:      Sippak/Lib/CallTrace.lean
  Subject:   PROGRAMS THAT MAKE CALLS AND LEAVE AT THE FIRST ONE THAT FAILS, and the order of their
             calls.

  A program (`Prog`) has a state and keeps the calls it has made; it ends with a value, or leaves
  because a call failed, or quits for a reason of its own. What a call answers may depend on
  all calls before it (`answer`; `none` = it succeeded). Nothing here knows what the calls are.

  * `Front` -- what a run leaves behind that works through a list of calls up to the first failure;
  * `Follows` -- a program does that from every state with `P`, and the rules for it: `bind`,
    `call`, `note`, `lift`, `onLeave`;
  * `Front.before` -- when a call was made, everything in front of it was made and succeeded;
  * `Front.onlyLast`, `Front.onlyEnd` -- the same of a property that the last call alone has, or
    that it alone may have;
  * `LeavesWith` -- what a program leaves with has a property, and the rules for it.
-/
import Mathlib.Data.List.Infix

namespace CallTrace

variable {σ κ ρ ζ α β : Type}

/-- How a program leaves before its end: a call failed, or it quits without a call's doing. -/
inductive Leave (ρ ζ : Type) where
  | failed (status : ρ)
  | quit (reason : ζ)
  deriving DecidableEq, Repr

/-- Where a program has got: the value or the way it left, the state, and all calls so far. -/
structure Ran (σ κ ρ ζ α : Type) where
  outcome : Except (Leave ρ ζ) α
  state : σ
  calls : List κ

/-- A program, from a state and the calls so far. -/
def Prog (σ κ ρ ζ α : Type) : Type := σ → List κ → Ran σ κ ρ ζ α

namespace Prog

/-- What follows on a program that ended. -/
def andThen (f : α → Prog σ κ ρ ζ β) : Ran σ κ ρ ζ α → Ran σ κ ρ ζ β
  | ⟨.ok a, s, h⟩ => f a s h
  | ⟨.error e, s, h⟩ => ⟨.error e, s, h⟩

instance : Monad (Prog σ κ ρ ζ) where
  pure a := fun s h => ⟨.ok a, s, h⟩
  bind x f := fun s h => andThen f (x s h)

/-- The state. -/
def read : Prog σ κ ρ ζ σ := fun s h => ⟨.ok s, s, h⟩

def update (f : σ → σ) : Prog σ κ ρ ζ Unit := fun s h => ⟨.ok (), f s, h⟩

/-- Leave without a call's doing. -/
def quit (reason : ζ) : Prog σ κ ρ ζ α := fun s h => ⟨.error (.quit reason), s, h⟩

/-- A function on the state that makes no call of the list. -/
def lift (f : σ → Except ζ (α × σ)) : Prog σ κ ρ ζ α := fun s h =>
  match f s with
  | .ok (a, s) => ⟨.ok a, s, h⟩
  | .error reason => ⟨.error (.quit reason), s, h⟩

/-- The same of a function that writes the state where it quits, too. -/
def attempt (f : σ → Except ζ α × σ) : Prog σ κ ρ ζ α := fun s h =>
  match f s with
  | (.ok a, s) => ⟨.ok a, s, h⟩
  | (.error reason, s) => ⟨.error (.quit reason), s, h⟩

/-- Make the call, and leave where it fails. -/
def call (answer : List κ → κ → Option ρ) (c : κ) : Prog σ κ ρ ζ Unit := fun s h =>
  match answer h c with
  | none => ⟨.ok (), s, h ++ [c]⟩
  | some status => ⟨.error (.failed status), s, h ++ [c]⟩

/-- Make a call whose answer is not looked at. -/
def note (c : κ) : Prog σ κ ρ ζ Unit := fun s h => ⟨.ok (), s, h ++ [c]⟩

/-- The state where `x` leaves goes through `f`. -/
def onLeave (f : Leave ρ ζ → σ → σ) (x : Prog σ κ ρ ζ α) : Prog σ κ ρ ζ α := fun s h =>
  match x s h with
  | ⟨.ok a, s, h⟩ => ⟨.ok a, s, h⟩
  | ⟨.error e, s, h⟩ => ⟨.error e, f e s, h⟩

end Prog

/-! ## 1. Runs through a list of calls -/

section Runs

variable (answer : List κ → κ → Option ρ)

/-- None of the calls fails, made one after the other behind the calls `h`. -/
def Succeed : List κ → List κ → Prop
  | _, [] => True
  | h, c :: cs => answer h c = none ∧ Succeed (h ++ [c]) cs

theorem succeed_append {h p q : List κ} :
    Succeed answer h (p ++ q) ↔ Succeed answer h p ∧ Succeed answer (h ++ p) q := by
  induction p generalizing h with
  | nil => simp [Succeed]
  | cons c p ih =>
      rw [List.cons_append, Succeed, Succeed, ih, and_assoc, List.append_assoc]
      rfl

/-- **Through the list up to the first failure**: the run ends with a value when all of `script`
    was made and succeeded; it leaves at the first call that fails, with that call's status; or it
    quits somewhere between two calls. -/
inductive Front (script : List κ) (Q : α → σ → Prop) (h : List κ) : Ran σ κ ρ ζ α → Prop where
  | done {a : α} {s : σ} : Succeed answer h script → Q a s → Front script Q h ⟨.ok a, s, h ++ script⟩
  | failed {p q : List κ} {c : κ} {status : ρ} {s : σ} : script = p ++ c :: q →
      Succeed answer h p → answer (h ++ p) c = some status →
      Front script Q h ⟨.error (.failed status), s, h ++ (p ++ [c])⟩
  | quit {p q : List κ} {reason : ζ} {s : σ} : script = p ++ q → Succeed answer h p →
      Front script Q h ⟨.error (.quit reason), s, h ++ p⟩

/-- From every state with `P` the program runs through `script`, and its value and state are then
    as `Q` says. -/
def Follows (P : σ → Prop) (x : Prog σ κ ρ ζ α) (script : List κ) (Q : α → σ → Prop) : Prop :=
  ∀ s h, P s → Front answer script Q h (x s h)

variable {answer}

/-! ## 2. What such a run says -/

section Front

variable {script : List κ} {Q : α → σ → Prop} {h : List κ} {r : Ran σ κ ρ ζ α}

/-- The calls made are a front part of the list. -/
theorem Front.calls_prefix (hr : Front answer script Q h r) :
    ∃ made, r.calls = h ++ made ∧ made <+: script := by
  cases hr with
  | done => exact ⟨script, rfl, List.prefix_refl _⟩
  | failed hs => exact ⟨_, rfl, by rw [hs]; exact ⟨_, List.append_cons _ _ _ |>.symm⟩⟩
  | quit hs => exact ⟨_, rfl, by rw [hs]; exact List.prefix_append _ _⟩

/-- The value of a run that ended, and its calls. -/
theorem Front.of_ok (hr : Front answer script Q h r) {a : α} (ha : r.outcome = .ok a) :
    Succeed answer h script ∧ Q a r.state ∧ r.calls = h ++ script := by
  cases hr with
  | done hall hq =>
      cases ha
      exact ⟨hall, hq, rfl⟩
  | failed => cases ha
  | quit => cases ha

/-- **When a call was made, everything in front of it was made and succeeded.** -/
theorem Front.before (hr : Front answer script Q [] r) {p q : List κ} {c : κ}
    (hs : script = p ++ c :: q) (hnew : c ∉ p) (hc : c ∈ r.calls) :
    (p ++ [c]) <+: r.calls ∧ Succeed answer [] p := by
  -- two front parts of the list: the one up to `c` is the shorter
  have hlong : ∀ made, made <+: script → c ∈ made → (p ++ [c]) <+: made := by
    intro made hmade hmem
    have hpc : (p ++ [c]) <+: script := ⟨q, by rw [hs]; simp⟩
    rcases List.prefix_or_prefix_of_prefix hpc hmade with h | h
    · exact h
    · rcases List.prefix_concat_iff.mp h with rfl | hp
      · exact List.prefix_refl _
      · exact absurd (hp.subset hmem) hnew
  have hfront : ∀ made, (p ++ [c]) <+: made → p <+: made :=
    fun made h => (List.prefix_append p [c]).trans h
  cases hr with
  | done hall =>
      have hpre := hlong _ (List.prefix_refl _) hc
      obtain ⟨t, ht⟩ := hfront _ hpre
      refine ⟨hpre, ?_⟩
      rw [← ht, succeed_append] at hall
      exact hall.1
  | @failed p' q' c' status s hs' hbefore hfail =>
      have hmade : p' ++ [c'] <+: script := by
        rw [hs']
        exact ⟨_, (List.append_cons _ _ _).symm⟩
      have hpre := hlong _ hmade hc
      refine ⟨hpre, ?_⟩
      rcases List.prefix_concat_iff.mp hpre with heq | hp
      · obtain ⟨rfl, -⟩ := List.append_inj' heq rfl
        exact hbefore
      · obtain ⟨t, ht⟩ := hfront _ hp
        rw [← ht, succeed_append] at hbefore
        exact hbefore.1
  | @quit p' q' reason s hs' hbefore =>
      have hmade : p' <+: script := by
        rw [hs']
        exact List.prefix_append _ _
      have hpre := hlong _ hmade hc
      obtain ⟨t, ht⟩ := hfront _ hpre
      refine ⟨hpre, ?_⟩
      rw [← ht, succeed_append] at hbefore
      exact hbefore.1

/-- Only the last call of the list has the property. -/
def OnlyLast (p : κ → Bool) (script : List κ) (c : κ) : Prop :=
  ∃ before, script = before ++ [c] ∧ before.filter p = [] ∧ p c = true

theorem OnlyLast.last {p : κ → Bool} {c : κ} (hc : p c = true) : OnlyLast p [c] c :=
  ⟨[], rfl, rfl, hc⟩

theorem OnlyLast.append {p : κ → Bool} {u v : List κ} {c : κ} (hu : u.filter p = [])
    (hv : OnlyLast p v c) : OnlyLast p (u ++ v) c := by
  obtain ⟨before, rfl, hbefore, hc⟩ := hv
  refine ⟨u ++ before, (List.append_assoc _ _ _).symm, ?_, hc⟩
  rw [List.filter_append, hu, hbefore, List.append_nil]

theorem OnlyLast.cons {p : κ → Bool} {a c : κ} {v : List κ} (ha : p a = false)
    (hv : OnlyLast p v c) : OnlyLast p (a :: v) c :=
  OnlyLast.append (u := [a]) (by rw [List.filter_cons_of_neg (by simp [ha]), List.filter_nil]) hv

/-- **A property of the last call alone**: no other call of the run has it, it is made once, and
    when it is made the whole list was, and everything in front of it succeeded. -/
theorem Front.onlyLast {p : κ → Bool} {c : κ} (hr : Front answer script Q [] r)
    (hs : OnlyLast p script c) :
    (∀ x ∈ r.calls, p x = true → x = c) ∧ (r.calls.filter p).length ≤ 1 ∧
      (c ∈ r.calls → r.calls = script ∧
        ∃ before, script = before ++ [c] ∧ before.filter p = [] ∧ Succeed answer [] before) := by
  obtain ⟨before, hscript, hbefore, hc⟩ := hs
  obtain ⟨made, hcalls, hpre⟩ := hr.calls_prefix
  rw [List.nil_append] at hcalls
  have hone : script.filter p = [c] := by
    rw [hscript, List.filter_append, hbefore, List.filter_cons_of_pos hc]
    rfl
  refine ⟨fun x hx hp => ?_, ?_, fun hmem => ?_⟩
  · have hin : x ∈ script.filter p := List.mem_filter.mpr ⟨hpre.subset (hcalls ▸ hx), hp⟩
    rwa [hone, List.mem_singleton] at hin
  · have hle := (hpre.sublist.filter p).length_le
    rw [hone, ← hcalls] at hle
    exact hle
  · have hnew : c ∉ before := by
      intro hin
      have hcp : c ∈ before.filter p := List.mem_filter.mpr ⟨hin, hc⟩
      rw [hbefore] at hcp
      cases hcp
    obtain ⟨hfront, hall⟩ := hr.before hscript hnew hmem
    rw [hcalls] at hfront ⊢
    refine ⟨hpre.eq_of_length_le ?_, before, hscript, hbefore, hall⟩
    rw [hscript]
    exact hfront.length_le

/-- At most the last call of the list has the property. -/
def OnlyEnd (p : κ → Bool) (script : List κ) : Prop :=
  script.filter p = [] ∨ ∃ c, OnlyLast p script c

/-- **A property of the last call, where that has it**: the same, for whichever call it is. -/
theorem Front.onlyEnd {p : κ → Bool} (hr : Front answer script Q [] r) (hs : OnlyEnd p script) :
    (r.calls.filter p).length ≤ 1 ∧
      ∀ c ∈ r.calls, p c = true → r.calls = script ∧
        ∃ before, script = before ++ [c] ∧ before.filter p = [] ∧ Succeed answer [] before := by
  rcases hs with hnone | ⟨c, hlast⟩
  · -- a front part of the list has no such call either
    obtain ⟨made, hcalls, hpre⟩ := hr.calls_prefix
    have hsub := hpre.sublist.filter p
    rw [hnone, List.sublist_nil] at hsub
    have hno : r.calls.filter p = [] := by
      rw [hcalls]
      exact hsub
    refine ⟨by rw [hno]; exact Nat.zero_le 1, fun c hc hp => ?_⟩
    have hmem := List.mem_filter.mpr ⟨hc, hp⟩
    rw [hno] at hmem
    cases hmem
  · obtain ⟨hsame, hone, hwhole⟩ := hr.onlyLast hlast
    refine ⟨hone, fun x hx hp => ?_⟩
    obtain rfl := hsame x hx hp
    exact hwhole hx

/-- A longer list. -/
theorem Front.left {script₁ script₂ : List κ} {R : β → σ → Prop} {h : List κ}
    {e : Leave ρ ζ} {s : σ} {calls : List κ}
    (hr : Front answer script₁ Q h ⟨.error e, s, calls⟩) :
    Front answer (script₁ ++ script₂) R h (⟨.error e, s, calls⟩ : Ran σ κ ρ ζ β) := by
  cases hr with
  | @failed p q c status s hs hp hc =>
      refine .failed (q := q ++ script₂) ?_ hp hc
      rw [hs, List.append_assoc, List.cons_append]
  | @quit p q reason s hs hp =>
      refine .quit (q := q ++ script₂) ?_ hp
      rw [hs, List.append_assoc]

end Front

/-! ## 3. The rules -/

section Rules

variable {P P' : σ → Prop} {Q Q' : α → σ → Prop} {R : β → σ → Prop} {script u v : List κ}

theorem Follows.pure {a : α} (h : ∀ s, P s → Q a s) :
    Follows answer P (Pure.pure a : Prog σ κ ρ ζ α) [] Q := by
  intro s calls hs
  have hdone : Front answer [] Q calls (⟨.ok a, s, calls ++ []⟩ : Ran σ κ ρ ζ α) :=
    .done trivial (h s hs)
  rw [List.append_nil] at hdone
  exact hdone

/-- **One program after the other.** -/
theorem Follows.bind {x : Prog σ κ ρ ζ α} {f : α → Prog σ κ ρ ζ β}
    (hx : Follows answer P x u Q) (hf : ∀ a, Follows answer (Q a) (f a) v R) :
    Follows answer P (x >>= f) (u ++ v) R := by
  intro s h hs
  have hr := hx s h hs
  show Front answer (u ++ v) R h (Prog.andThen f (x s h))
  generalize x s h = r at hr
  cases hr with
  | @done a s' hall hq =>
      have hr₂ := hf a s' (h ++ u) hq
      show Front answer (u ++ v) R h (f a s' (h ++ u))
      generalize f a s' (h ++ u) = r₂ at hr₂
      cases hr₂ with
      | done hall₂ hq₂ =>
          rw [List.append_assoc]
          exact .done ((succeed_append answer).mpr ⟨hall, hall₂⟩) hq₂
      | @failed p q c status s'' hv hp hc =>
          rw [List.append_assoc, ← List.append_assoc u]
          refine .failed (q := q) ?_ ((succeed_append answer).mpr ⟨hall, hp⟩) ?_
          · rw [hv, List.append_assoc]
          · rw [← List.append_assoc]
            exact hc
      | @quit p q reason s'' hv hp =>
          rw [List.append_assoc]
          refine .quit (q := q) ?_ ((succeed_append answer).mpr ⟨hall, hp⟩)
          rw [hv, List.append_assoc]
  | failed hs' hp hc => exact (Front.failed (Q := Q) hs' hp hc).left
  | quit hs' hp => exact (Front.quit (Q := Q) hs' hp).left

/-- Behind a program without calls whose value is known. -/
theorem Follows.known {x : Prog σ κ ρ ζ α} {f : α → Prog σ κ ρ ζ β} {b : α}
    (hx : Follows answer P x [] fun a s => a = b ∧ P' s)
    (hf : Follows answer P' (f b) script R) : Follows answer P (x >>= f) script R :=
  Follows.bind (u := []) hx fun a s h hs => by
    obtain ⟨rfl, hp⟩ := hs
    exact hf s h hp

theorem Follows.mono {x : Prog σ κ ρ ζ α} (hx : Follows answer P x script Q)
    (hP : ∀ s, P' s → P s) (hQ : ∀ a s, Q a s → Q' a s) : Follows answer P' x script Q' := by
  intro s h hs
  have hr := hx s h (hP s hs)
  generalize x s h = r at hr
  cases hr with
  | done hall hq => exact .done hall (hQ _ _ hq)
  | failed hs' hp hc => exact .failed hs' hp hc
  | quit hs' hp => exact .quit hs' hp

/-- What does not depend on the state may be used outside. -/
theorem Follows.pull {p : Prop} {x : Prog σ κ ρ ζ α}
    (hx : p → Follows answer P x script Q) : Follows answer (fun s => p ∧ P s) x script Q :=
  fun s h hs => hx hs.1 s h hs.2

theorem Follows.read : Follows answer P (Prog.read : Prog σ κ ρ ζ σ) [] fun a s => a = s ∧ P s := by
  intro s h hs
  have hdone : Front answer [] (fun a s => a = s ∧ P s) h (⟨.ok s, s, h ++ []⟩ : Ran σ κ ρ ζ σ) :=
    .done trivial ⟨rfl, hs⟩
  rw [List.append_nil] at hdone
  exact hdone

theorem Follows.update {f : σ → σ} {Q : Unit → σ → Prop} (hf : ∀ s, P s → Q () (f s)) :
    Follows answer P (Prog.update f : Prog σ κ ρ ζ Unit) [] Q := by
  intro s h hs
  have hdone : Front answer [] Q h (⟨.ok (), f s, h ++ []⟩ : Ran σ κ ρ ζ Unit) :=
    .done trivial (hf s hs)
  rw [List.append_nil] at hdone
  exact hdone

theorem Follows.quit {reason : ζ} :
    Follows answer P (Prog.quit reason : Prog σ κ ρ ζ α) script Q := by
  intro s h _
  have hquit : Front answer script Q h
      (⟨.error (.quit reason), s, h ++ []⟩ : Ran σ κ ρ ζ α) := .quit rfl trivial
  rw [List.append_nil] at hquit
  exact hquit

theorem Follows.lift {f : σ → Except ζ (α × σ)}
    (hf : ∀ s a s', P s → f s = .ok (a, s') → Q a s') :
    Follows answer P (Prog.lift f : Prog σ κ ρ ζ α) [] Q := by
  intro s h hs
  show Front answer [] Q h (Prog.lift f s h)
  unfold Prog.lift
  cases he : f s with
  | ok v => exact Follows.pure (fun s' hs' => hs') v.2 h (hf s v.1 v.2 hs he)
  | error reason => exact Follows.quit (P := P) s h hs

theorem Follows.attempt {f : σ → Except ζ α × σ}
    (hf : ∀ s a s', P s → f s = (.ok a, s') → Q a s') :
    Follows answer P (Prog.attempt f : Prog σ κ ρ ζ α) [] Q := by
  intro s h hs
  show Front answer [] Q h (Prog.attempt f s h)
  unfold Prog.attempt
  have hv := hf s
  cases hfs : f s with
  | mk v s' =>
      cases v with
      | ok a => exact Follows.pure (fun s' hs' => hs') s' h (hv a s' hs hfs)
      | error reason => exact Follows.quit (P := fun _ => True) s' h trivial

/-- **A call that is looked at.** -/
theorem Follows.call {c : κ} :
    Follows answer P (Prog.call answer c : Prog σ κ ρ ζ Unit) [c] fun _ s => P s := by
  intro s h hs
  show Front answer [c] _ h (Prog.call answer c s h)
  unfold Prog.call
  cases hc : answer h c with
  | none => exact .done ⟨hc, trivial⟩ hs
  | some status =>
      refine .failed (p := []) (q := []) rfl trivial ?_
      rw [List.append_nil]
      exact hc

/-- A call that is not looked at is one that never fails. -/
theorem Follows.note {c : κ} (hc : ∀ h, answer h c = none) :
    Follows answer P (Prog.note c : Prog σ κ ρ ζ Unit) [c] fun _ s => P s :=
  fun _ h hs => .done ⟨hc h, trivial⟩ hs

/-- What is done to the state of a program that left. -/
theorem Follows.onLeave {x : Prog σ κ ρ ζ α} {f : Leave ρ ζ → σ → σ}
    (hx : Follows answer P x script Q) : Follows answer P (x.onLeave f) script Q := by
  intro s h hs
  have hr := hx s h hs
  show Front answer script Q h (Prog.onLeave f x s h)
  unfold Prog.onLeave
  generalize x s h = r at hr
  cases hr with
  | done hall hq => exact .done hall hq
  | failed hs' hp hc => exact .failed hs' hp hc
  | quit hs' hp => exact .quit hs' hp

end Rules

/-! ## 4. What a program leaves with -/

/-- From every state and behind all calls, what the program leaves with is as `Z` says. -/
def LeavesWith (Z : Leave ρ ζ → Prop) (x : Prog σ κ ρ ζ α) : Prop :=
  ∀ s h e, (x s h).outcome = .error e → Z e

section LeavesWith

variable {Z : Leave ρ ζ → Prop}

theorem LeavesWith.pure {a : α} : LeavesWith Z (Pure.pure a : Prog σ κ ρ ζ α) :=
  fun _ _ _ he => by cases he

theorem LeavesWith.read : LeavesWith Z (Prog.read : Prog σ κ ρ ζ σ) :=
  fun _ _ _ he => by cases he

theorem LeavesWith.note {c : κ} : LeavesWith Z (Prog.note c : Prog σ κ ρ ζ Unit) :=
  fun _ _ _ he => by cases he

theorem LeavesWith.quit {reason : ζ} (h : Z (.quit reason)) :
    LeavesWith Z (Prog.quit reason : Prog σ κ ρ ζ α) := by
  intro s calls e he
  cases he
  exact h

theorem LeavesWith.lift {f : σ → Except ζ (α × σ)}
    (hf : ∀ s reason, f s = .error reason → Z (.quit reason)) :
    LeavesWith Z (Prog.lift f : Prog σ κ ρ ζ α) := by
  intro s calls e he
  unfold Prog.lift at he
  have hv := hf s
  cases hfs : f s with
  | ok v =>
      rw [hfs] at he
      cases he
  | error reason =>
      rw [hfs] at he
      cases he
      exact hv reason hfs

theorem LeavesWith.attempt {f : σ → Except ζ α × σ}
    (hf : ∀ s reason s', f s = (.error reason, s') → Z (.quit reason)) :
    LeavesWith Z (Prog.attempt f : Prog σ κ ρ ζ α) := by
  intro s calls e he
  unfold Prog.attempt at he
  have hv := hf s
  cases hfs : f s with
  | mk v s' =>
      rw [hfs] at he
      cases v with
      | ok a => cases he
      | error reason =>
          cases he
          exact hv reason s' hfs

/-- **A call that is looked at** leaves with its status. -/
theorem LeavesWith.call {c : κ} (hc : ∀ h status, answer h c = some status → Z (.failed status)) :
    LeavesWith Z (Prog.call answer c : Prog σ κ ρ ζ Unit) := by
  intro s h e he
  unfold Prog.call at he
  cases ha : answer h c with
  | none =>
      rw [ha] at he
      cases he
  | some status =>
      rw [ha] at he
      cases he
      exact hc h status ha

theorem LeavesWith.onLeave {x : Prog σ κ ρ ζ α} {f : Leave ρ ζ → σ → σ}
    (hx : LeavesWith Z x) : LeavesWith Z (x.onLeave f) := by
  intro s h e he
  have hr := hx s h
  unfold Prog.onLeave at he
  generalize x s h = r at he hr
  obtain ⟨outcome, s', calls⟩ := r
  cases outcome with
  | ok a => cases he
  | error e' =>
      cases he
      exact hr e rfl

/-- **One program after the other.** -/
theorem LeavesWith.bind {x : Prog σ κ ρ ζ α} {f : α → Prog σ κ ρ ζ β}
    (hx : LeavesWith Z x) (hf : ∀ a, LeavesWith Z (f a)) : LeavesWith Z (x >>= f) := by
  intro s h e he
  have hr := hx s h
  change (Prog.andThen f (x s h)).outcome = .error e at he
  generalize x s h = r at he hr
  obtain ⟨outcome, s', calls⟩ := r
  cases outcome with
  | ok a => exact hf a s' calls e he
  | error e' =>
      cases he
      exact hr e rfl

end LeavesWith

end Runs

end CallTrace
