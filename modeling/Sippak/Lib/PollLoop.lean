/-
  File:      Sippak/Lib/PollLoop.lean
  Subject:   A LOOP THAT POLLS UNTIL A FLAG IS SET: `while (!stopped) poll();`.

  One poll handles a batch of events, in their order; it may be empty. The flag is looked at
  between two polls only, so the events behind the one that sets it are handled as well, if they
  come in its batch. Handling an event may fail. Nothing here knows what the events are.

  * `run_ended_iff` -- **how many polls there are**, and what state they leave;
  * `run_polling_iff` -- when the loop still polls behind the last batch;
  * `Tells` -- a predicate on the events that says when the flag is set, and both of these in its
    terms: `run_ended_tells`, `run_polling_tells`;
  * `tells_of_step` -- such a predicate from what one event does.
-/
import Mathlib.Data.List.Basic
import Mathlib.Data.List.Induction

namespace PollLoop

variable {σ ε α : Type}

/-- What an event does, and the flag. -/
structure Loop (σ ε α : Type) where
  react : σ → ε → Except α σ
  stopped : σ → Bool

/-- How a loop stands behind the batches of its polls. -/
inductive Stand (σ α : Type) where
  | ended (s : σ) (polls : Nat)
  | polling (s : σ)
  | failed (reason : α)
  deriving DecidableEq, Repr

/-- One poll more, in front. -/
def Stand.next : Stand σ α → Stand σ α
  | .ended s polls => .ended s (polls + 1)
  | .polling s => .polling s
  | .failed reason => .failed reason

namespace Loop

variable (L : Loop σ ε α)

/-- The events of a batch. -/
def handle (s : σ) (es : List ε) : Except α σ := es.foldlM L.react s

/-- The loop, with the batches that its polls bring. -/
def run : σ → List (List ε) → Stand σ α
  | s, [] => if L.stopped s then .ended s 0 else .polling s
  | s, batch :: batches =>
    if L.stopped s then .ended s 0
    else match L.handle s batch with
      | .error reason => .failed reason
      | .ok s => (run s batches).next

variable {L} {s t : σ} {n : Nat} {batches : List (List ε)}

/-! ## 1. Events, one after the other -/

theorem handle_append (es fs : List ε) :
    L.handle s (es ++ fs) = (L.handle s es).bind fun s => L.handle s fs := List.foldlM_append

theorem handle_append_ok {es : List ε} (hes : L.handle s es = .ok t) (fs : List ε) :
    L.handle s (es ++ fs) = L.handle t fs := by
  rw [handle_append, hes]
  rfl

theorem handle_append_error {es : List ε} {reason : α} (hes : L.handle s es = .error reason)
    (fs : List ε) : L.handle s (es ++ fs) = .error reason := by
  rw [handle_append, hes]
  rfl

/-- What can be handled in one go can be handled up to any event. -/
theorem handle_front {es fs : List ε} (h : L.handle s (es ++ fs) = .ok t) :
    ∃ u, L.handle s es = .ok u ∧ L.handle u fs = .ok t := by
  rw [handle_append] at h
  cases hes : L.handle s es with
  | error reason =>
      rw [hes] at h
      cases h
  | ok u =>
      rw [hes] at h
      exact ⟨u, rfl, h⟩

/-- The first batches, as far as some more of them. -/
theorem handle_take (h : L.handle s (batches.take n).flatten = .ok t) {k : Nat} (hk : k ≤ n) :
    ∃ u, L.handle s (batches.take k).flatten = .ok u := by
  obtain ⟨rest, hrest⟩ := List.take_prefix_take_left hk (l := batches)
  rw [← hrest, List.flatten_append] at h
  obtain ⟨u, hu, -⟩ := handle_front h
  exact ⟨u, hu⟩

/-! ## 2. The loop -/

/-- The flag is not set behind the first `k` batches. -/
def GoesOn (L : Loop σ ε α) (s : σ) (batches : List (List ε)) (k : Nat) : Prop :=
  ∃ u, L.handle s (batches.take k).flatten = .ok u ∧ L.stopped u = false

theorem goesOn_zero : L.GoesOn s batches 0 ↔ L.stopped s = false := by
  constructor
  · intro ⟨u, hu, hstop⟩
    cases hu
    exact hstop
  · intro h
    exact ⟨s, rfl, h⟩

theorem goesOn_succ {batch : List ε} {k : Nat} (hb : L.handle s batch = .ok t) :
    L.GoesOn s (batch :: batches) (k + 1) ↔ L.GoesOn t batches k := by
  unfold GoesOn
  rw [List.take_succ_cons, List.flatten_cons, handle_append_ok hb]

theorem run_of_stopped (h : L.stopped s = true) : L.run s batches = .ended s 0 := by
  cases batches with
  | nil => rw [run, if_pos h]
  | cons batch batches => rw [run, if_pos h]

/-- Where the flag is set, it is set behind no batch. -/
theorem first_of_stopped (h : L.stopped s = true) :
    (n ≤ batches.length ∧ L.handle s (batches.take n).flatten = .ok t ∧ L.stopped t = true ∧
      ∀ k < n, L.GoesOn s batches k) ↔ s = t ∧ 0 = n := by
  constructor
  · rintro ⟨-, hhandle, -, hbefore⟩
    cases n with
    | zero =>
        cases hhandle
        exact ⟨rfl, rfl⟩
    | succ n =>
        have hgoes := goesOn_zero.mp (hbefore 0 (Nat.succ_pos n))
        rw [h] at hgoes
        cases hgoes
  · rintro ⟨rfl, rfl⟩
    exact ⟨Nat.zero_le _, rfl, h, fun k hk => absurd hk (Nat.not_lt_zero k)⟩

/-- **How many polls there are**: the first number behind which the flag is set. -/
theorem run_ended_iff :
    L.run s batches = .ended t n ↔
      n ≤ batches.length ∧ L.handle s (batches.take n).flatten = .ok t ∧ L.stopped t = true ∧
        ∀ k < n, L.GoesOn s batches k := by
  induction batches generalizing s n with
  | nil =>
      by_cases hstop : L.stopped s = true
      · rw [run_of_stopped hstop, first_of_stopped hstop, Stand.ended.injEq]
      · rw [run, if_neg hstop]
        constructor
        · intro h
          cases h
        · rintro ⟨hn, hhandle, ht, -⟩
          cases Nat.le_zero.mp hn
          cases hhandle
          exact absurd ht hstop
  | cons batch batches ih =>
      by_cases hstop : L.stopped s = true
      · rw [run_of_stopped hstop, first_of_stopped hstop, Stand.ended.injEq]
      · rw [run, if_neg hstop]
        rw [Bool.not_eq_true] at hstop
        cases n with
        | zero =>
            constructor
            · intro h
              split at h
              · cases h
              · rename_i u hu
                cases hr : L.run u batches <;> (rw [hr] at h; cases h)
            · rintro ⟨-, hhandle, ht, -⟩
              cases hhandle
              rw [hstop] at ht
              cases ht
        | succ n =>
            cases hb : L.handle s batch with
            | error reason =>
                constructor
                · intro h
                  cases h
                · rintro ⟨-, hhandle, -⟩
                  rw [List.take_succ_cons, List.flatten_cons, handle_append_error hb] at hhandle
                  cases hhandle
            | ok u =>
                have hnext : (L.run u batches).next = .ended t (n + 1) ↔
                    L.run u batches = .ended t n := by
                  cases L.run u batches <;> simp [Stand.next]
                have hbefore : (∀ k < n + 1, L.GoesOn s (batch :: batches) k) ↔
                    ∀ k < n, L.GoesOn u batches k := by
                  constructor
                  · intro h k hk
                    exact (goesOn_succ hb).mp (h (k + 1) (Nat.succ_lt_succ hk))
                  · intro h k hk
                    cases k with
                    | zero => exact goesOn_zero.mpr hstop
                    | succ k => exact (goesOn_succ hb).mpr (h k (Nat.lt_of_succ_lt_succ hk))
                have hhandle : L.handle s ((batch :: batches).take (n + 1)).flatten =
                    L.handle u (batches.take n).flatten := by
                  rw [List.take_succ_cons, List.flatten_cons, handle_append_ok hb]
                show (L.run u batches).next = .ended t (n + 1) ↔ _
                rw [hnext, ih, hbefore, hhandle, List.length_cons, Nat.add_le_add_iff_right]

/-- **When the loop still polls**: the flag is not set behind any number of batches. -/
theorem run_polling_iff :
    L.run s batches = .polling t ↔
      L.handle s batches.flatten = .ok t ∧ ∀ k ≤ batches.length, L.GoesOn s batches k := by
  induction batches generalizing s with
  | nil =>
      have hzero : (∀ k ≤ ([] : List (List ε)).length, L.GoesOn s [] k) ↔ L.stopped s = false := by
        constructor
        · exact fun h => goesOn_zero.mp (h 0 (Nat.le_refl 0))
        · intro h k hk
          cases Nat.le_zero.mp hk
          exact goesOn_zero.mpr h
      rw [run, hzero]
      cases hstop : L.stopped s with
      | true => simp
      | false =>
          constructor
          · intro h
            cases h
            exact ⟨rfl, rfl⟩
          · rintro ⟨h, -⟩
            cases h
            rfl
  | cons batch batches ih =>
      rw [run]
      by_cases hstop : L.stopped s = true
      · rw [if_pos hstop]
        constructor
        · intro h
          cases h
        · rintro ⟨-, h⟩
          have hgoes := goesOn_zero.mp (h 0 (Nat.zero_le _))
          rw [hstop] at hgoes
          cases hgoes
      · rw [if_neg hstop]
        rw [Bool.not_eq_true] at hstop
        rw [List.flatten_cons, handle_append]
        cases hb : L.handle s batch with
        | error reason =>
            constructor
            · intro h
              cases h
            · rintro ⟨h, -⟩
              cases h
        | ok u =>
            have hnext : (L.run u batches).next = .polling t ↔ L.run u batches = .polling t := by
              cases L.run u batches <;> simp [Stand.next]
            have hall : (∀ k ≤ (batch :: batches).length, L.GoesOn s (batch :: batches) k) ↔
                ∀ k ≤ batches.length, L.GoesOn u batches k := by
              constructor
              · intro h k hk
                exact (goesOn_succ hb).mp (h (k + 1) (Nat.succ_le_succ hk))
              · intro h k hk
                cases k with
                | zero => exact goesOn_zero.mpr hstop
                | succ k => exact (goesOn_succ hb).mpr (h k (Nat.le_of_succ_le_succ hk))
            show (L.run u batches).next = .polling t ↔ L.handle u batches.flatten = .ok t ∧ _
            rw [hnext, ih, hall]

/-! ## 3. In terms of the events -/

/-- `Over` says of the events handled since `s` whether the flag is set. -/
def Tells (L : Loop σ ε α) (s : σ) (Over : List ε → Prop) : Prop :=
  ∀ es t, L.handle s es = .ok t → (L.stopped t = true ↔ Over es)

variable {Over : List ε → Prop}

/-- What tells it from the start tells it later on. -/
theorem Tells.after (h : L.Tells s Over) {es : List ε} (hes : L.handle s es = .ok t) :
    L.Tells t fun fs => Over (es ++ fs) := by
  intro fs u hfs
  refine h (es ++ fs) u ?_
  rw [handle_append, hes]
  exact hfs

theorem Tells.goesOn_iff (h : L.Tells s Over) {k : Nat} {u : σ}
    (hu : L.handle s (batches.take k).flatten = .ok u) :
    L.GoesOn s batches k ↔ ¬ Over (batches.take k).flatten := by
  rw [← h _ u hu, Bool.not_eq_true]
  constructor
  · intro ⟨v, hv, hstop⟩
    rw [hu] at hv
    cases hv
    exact hstop
  · exact fun hstop => ⟨u, hu, hstop⟩

/-- **The number of polls, in terms of the events.** -/
theorem run_ended_tells (h : L.Tells s Over) :
    L.run s batches = .ended t n ↔
      n ≤ batches.length ∧ L.handle s (batches.take n).flatten = .ok t ∧
        Over (batches.take n).flatten ∧ ∀ k < n, ¬ Over (batches.take k).flatten := by
  rw [run_ended_iff]
  refine and_congr_right fun _ => and_congr_right fun hn => ?_
  rw [h _ t hn]
  refine and_congr_right fun _ => forall₂_congr fun k hk => ?_
  obtain ⟨u, hu⟩ := handle_take hn (Nat.le_of_lt hk)
  exact h.goesOn_iff hu

/-- **Polling for ever, in terms of the events**, where what is over stays over. -/
theorem run_polling_tells (h : L.Tells s Over) (hmono : ∀ es fs, Over es → Over (es ++ fs)) :
    L.run s batches = .polling t ↔
      L.handle s batches.flatten = .ok t ∧ ¬ Over batches.flatten := by
  rw [run_polling_iff]
  refine and_congr_right fun hall => ?_
  have htake : batches.take batches.length = batches := List.take_length
  constructor
  · intro hgoes
    have hlast := hgoes _ (Nat.le_refl batches.length)
    rw [h.goesOn_iff (by rw [htake]; exact hall), htake] at hlast
    exact hlast
  · intro hno k hk
    have hfront : L.handle s (batches.take batches.length).flatten = .ok t := by
      rw [htake]
      exact hall
    obtain ⟨u, hu⟩ := handle_take hfront hk
    refine (h.goesOn_iff hu).mpr fun hover => hno ?_
    rw [← List.take_append_drop k batches, List.flatten_append]
    exact hmono _ _ hover

end Loop

/-! ## 4. Events that set the flag -/

section Stops

variable {StopsAt : List ε → ε → Prop} {es fs : List ε} {e : ε}

/-- One of the events sets the flag, where `StopsAt p e` says so of the event `e` behind `p`. -/
def SomeStop (StopsAt : List ε → ε → Prop) (es : List ε) : Prop :=
  ∃ p e q, es = p ++ e :: q ∧ StopsAt p e

theorem not_someStop_nil : ¬ SomeStop StopsAt [] := by
  intro ⟨p, e, q, h, _⟩
  cases p <;> cases h

/-- An event of a longer list is the last one, or one of those before. -/
theorem someStop_snoc : SomeStop StopsAt (es ++ [e]) ↔ SomeStop StopsAt es ∨ StopsAt es e := by
  constructor
  · intro ⟨p, e', q, h, hp⟩
    rcases List.eq_nil_or_concat q with rfl | ⟨q', x, rfl⟩
    · obtain ⟨rfl, hlast⟩ := List.append_inj' h rfl
      cases hlast
      exact Or.inr hp
    · rw [List.concat_eq_append, ← List.cons_append, ← List.append_assoc] at h
      exact Or.inl ⟨p, e', q', (List.append_inj' h rfl).1, hp⟩
  · rintro (⟨p, e', q, rfl, hp⟩ | hp)
    · exact ⟨p, e', q ++ [e], by rw [List.append_assoc, List.cons_append], hp⟩
    · exact ⟨es, e, [], rfl, hp⟩

theorem SomeStop.append (h : SomeStop StopsAt es) (fs : List ε) : SomeStop StopsAt (es ++ fs) := by
  obtain ⟨p, e, q, rfl, hp⟩ := h
  exact ⟨p, e, q ++ fs, by rw [List.append_assoc, List.cons_append], hp⟩

namespace Loop

variable {L : Loop σ ε α} {s : σ}

/-- Where each event may set the flag and never takes it back, a flag that was not set at the start
    is set behind an event that sets it. -/
theorem tells_of_step (h0 : L.stopped s = false)
    (hstep : ∀ es t u e, L.handle s es = .ok t → L.react t e = .ok u →
      (L.stopped u = true ↔ L.stopped t = true ∨ StopsAt es e)) :
    L.Tells s (SomeStop StopsAt) := by
  intro es
  induction es using List.reverseRecOn with
  | nil =>
      intro t ht
      cases ht
      rw [h0]
      exact iff_of_false Bool.false_ne_true not_someStop_nil
  | append_singleton es e ih =>
      intro u hu
      obtain ⟨t, ht, hlast⟩ := handle_front hu
      have hreact : L.react t e = .ok u := by
        unfold handle at hlast
        rw [List.foldlM_cons] at hlast
        cases hr : L.react t e with
        | error reason =>
            rw [hr] at hlast
            cases hlast
        | ok v =>
            rw [hr] at hlast
            cases hlast
            rfl
      rw [hstep es t u e ht hreact, ih t ht, someStop_snoc]

/-- Where no event fails, the events are a fold. -/
theorem handle_of_total {f : σ → ε → σ} (hf : ∀ s e, L.react s e = .ok (f s e)) (s : σ)
    (es : List ε) : L.handle s es = .ok (es.foldl f s) := by
  induction es generalizing s with
  | nil => rfl
  | cons e es ih =>
      unfold handle
      rw [List.foldlM_cons, hf]
      exact ih (f s e)

end Loop

end Stops

end PollLoop
