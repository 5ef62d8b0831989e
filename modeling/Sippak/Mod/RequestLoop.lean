/-
  File:      Sippak/Mod/RequestLoop.lean
  Subject:   WHEN THE MAIN LOOP STOPS in a run of PING, NOTIFY, MESSAGE or REFER.

  Only a response other than a challenge and the second challenge stop the loop. Two things follow
  that a user notices, each with the exact runs it happens in:

  * `neverStuck_iff` -- **the program can wait for ever**: a transaction that ends without a
    response leaves the flag alone and starts nothing, and so does a failing call on the way to
    the second request. `GoesOn` is the condition on one step;
  * `stopsLate_iff` -- **the program can leave too early**: a provisional response sets the flag.

  Both rest on `TsxInv`: at most one transaction is outstanding, and while one is, no final
  response has come but the first challenge.
-/
import Sippak.Mod.Request

namespace Sippak

open Runs

/-! ## 1. Events and what was received -/

/-- The code of a final response. -/
def Event.final : Event → Option Nat
  | .rx r _ => if 200 ≤ r.code then some r.code else none
  | .tsxError _ _ => none

/-- A 1xx response. -/
def Event.provisional : Event → Bool
  | .rx r _ => r.code < 200
  | .tsxError _ _ => false

/-- The final responses received, in order. -/
def finals (es : List Event) : List Nat := es.filterMap Event.final

/-- The final responses other than the first challenge. -/
def answers (es : List Event) : List Nat := (finals es).eraseP isChallenge

theorem finals_snoc (es : List Event) (e : Event) :
    finals (es ++ [e]) = finals es ++ e.final.toList := by
  unfold finals
  rw [List.filterMap_append]
  cases he : e.final with
  | none => simp [he]
  | some c => simp [he]

/-- What is outstanding, against what was received. -/
structure TsxInv (es : List Event) (s : ReqState) : Prop where
  one : s.outstanding ≤ 1
  waiting : 0 < s.outstanding → (finals es = [] ∧ s.authTries = 0) ∨
    ∃ c, isChallenge c = true ∧ finals es = [c] ∧ s.authTries = 1

theorem TsxInv.no_answer {es : List Event} {s : ReqState} (h : TsxInv es s)
    (hpos : 0 < s.outstanding) : answers es = [] := by
  unfold answers
  rcases h.waiting hpos with ⟨hf, -⟩ | ⟨c, hc, hf, -⟩
  · rw [hf]
    rfl
  · rw [hf]
    simp [hc]

section Loop

variable {m : RequestMod} {cfg : Cfg}

/-- The end of the only transaction leaves none outstanding, unless its challenge was answered. -/
theorem endTsx_outstanding {calls : AuthCalls} {code : Nat} {s : ReqState}
    (h1 : s.outstanding = 1) (hpos : 0 < (endTsx m cfg calls code s).outstanding) :
    isChallenge code = true ∧ s.authTries < 1 ∧ (endTsx m cfg calls code s).outstanding = 1 ∧
      (endTsx m cfg calls code s).authTries = s.authTries + 1 := by
  unfold endTsx at hpos ⊢
  rcases sendCb_cases m cfg calls code { s with outstanding := s.outstanding - 1 } with
    ⟨hc, he⟩ | ⟨hc, hge, log, he⟩ | ⟨hc, hlt, -, sess, log, he⟩ | ⟨hc, hlt, -, sess, he⟩
  · rw [he] at hpos
    dsimp only at hpos
    omega
  · rw [he] at hpos
    dsimp only at hpos
    omega
  · rw [he] at hpos
    dsimp only at hpos
    omega
  · rw [he]
    refine ⟨hc, hlt, ?_, rfl⟩
    show s.outstanding - 1 + 1 = 1
    omega

/-- After the end of the only transaction at most one is outstanding. -/
theorem endTsx_le_one {calls : AuthCalls} {code : Nat} {s : ReqState} (h1 : s.outstanding = 1) :
    (endTsx m cfg calls code s).outstanding ≤ 1 := by
  by_cases hpos : 0 < (endTsx m cfg calls code s).outstanding
  · exact Nat.le_of_eq (endTsx_outstanding h1 hpos).2.2.1
  · omega

/-- The end of a transaction stops the loop at a challenge that is not the first. -/
theorem endTsx_loopStop (calls : AuthCalls) (code : Nat) (s : ReqState) :
    (endTsx m cfg calls code s).loopStop =
      (s.loopStop || (isChallenge code && decide (1 ≤ s.authTries))) := by
  unfold endTsx
  rcases sendCb_cases m cfg calls code { s with outstanding := s.outstanding - 1 } with
    ⟨hc, he⟩ | ⟨hc, hge, log, he⟩ | ⟨hc, hlt, -, sess, log, he⟩ | ⟨hc, hlt, -, sess, he⟩
  · rw [he, hc]
    simp
  · have h2 : 1 ≤ s.authTries := hge
    rw [he, hc]
    simp [h2]
  · have h2 : ¬ 1 ≤ s.authTries := Int.not_le.mpr hlt
    rw [he, hc]
    simp [h2]
  · have h2 : ¬ 1 ≤ s.authTries := Int.not_le.mpr hlt
    rw [he, hc]
    simp [h2]

/-- **One step** keeps the invariant. -/
theorem TsxInv.step {es : List Event} {s s' : ReqState} {e : Event} (h : TsxInv es s)
    (hs : step m cfg s e = some s') : TsxInv (es ++ [e]) s' := by
  obtain ⟨hpos, rfl⟩ := step_eq_some_iff.mp hs
  have h1 : s.outstanding = 1 := Nat.le_antisymm h.one hpos
  cases e with
  | rx r calls =>
      obtain ⟨log, he⟩ := react_rx m cfg r calls s
      rw [he]
      by_cases hf : 200 ≤ r.code
      · rw [if_pos hf]
        refine ⟨endTsx_le_one h1, fun hp => Or.inr ?_⟩
        -- something is outstanding again: this was the first challenge
        have hseen : (s.seen r.code log).outstanding = 1 := h1
        obtain ⟨hc, hlt, -, htries⟩ := endTsx_outstanding hseen hp
        rw [ReqState.seen_authTries] at hlt htries
        rcases h.waiting hpos with ⟨hnil, ht⟩ | ⟨c, -, -, ht⟩
        · refine ⟨r.code, hc, ?_, ?_⟩
          · simp [finals_snoc, hnil, Event.final, hf]
          · omega
        · omega
      · rw [if_neg hf]
        refine ⟨h.one, fun hp => ?_⟩
        simpa [finals_snoc, Event.final, hf] using h.waiting hp
  | tsxError e calls =>
      refine ⟨endTsx_le_one h1, fun hp => ?_⟩
      have hc := (endTsx_outstanding h1 hp).1
      cases e <;> cases hc

theorem tsxInv_of_run {es : List Event} {s : ReqState} (h : ReqRun m cfg es s) :
    TsxInv es s := by
  have h0 : TsxInv [] ReqState.start := ⟨Nat.le_refl 1, fun _ => Or.inl ⟨rfl, rfl⟩⟩
  exact Run.keepsHist (P := TsxInv) h0 (fun es s e s' _ hi hs => hi.step hs) h

/-- The counter of challenges stays far from the bounds of its type. -/
theorem authTries_le_two {es : List Event} {s : ReqState} (h : ReqRun m cfg es s) :
    s.authTries ≤ 2 := by
  cases h with
  | start => decide
  | step hr hs =>
      rename_i es t e
      obtain ⟨hpos, rfl⟩ := step_eq_some_iff.mp hs
      have hsent := sentOnce_of_run (reqRun_any hr)
      have hreact : SentOnce _ (react m cfg t e) := hsent.react e
      have hafter := hreact.tries
      have hbefore : t.authTries ≤ 1 := by
        rcases (tsxInv_of_run hr).waiting hpos with ⟨-, ht⟩ | ⟨c, -, -, ht⟩ <;> omega
      have hn := hsent.tries
      split at hafter <;> omega

/-! ## 2. Waiting for ever -/

/-- The step does not leave the program waiting for nothing: the loop is stopped already where the
    transaction ends without a response, and the first challenge is answered. -/
def GoesOn (s : ReqState) : Event → Prop
  | .rx r calls =>
    isChallenge r.code = true →
      s.loopStop = true ∨ 1 ≤ s.authTries ∨ calls.allSucceed = true
  | .tsxError _ _ => s.loopStop = true

/-- Whenever `send_cb` returns, the loop is stopped or a transaction is outstanding. -/
def NeverStuck (m : RequestMod) (cfg : Cfg) (es : List Event) : Prop :=
  ∀ p e, p ++ [e] <+: es → e.tsxEnd ≠ none → ∀ s, ReqRun m cfg (p ++ [e]) s →
    s.loopStop = true ∨ 0 < s.outstanding

/-- The end of the only transaction leaves the loop stopped or a transaction outstanding exactly
    when it was stopped before, or the end is an answered or a second challenge. -/
theorem endTsx_goesOn_iff {calls : AuthCalls} {code : Nat} {s : ReqState}
    (h1 : s.outstanding = 1) :
    ((endTsx m cfg calls code s).loopStop = true ∨
        0 < (endTsx m cfg calls code s).outstanding) ↔
      s.loopStop = true ∨
        (isChallenge code = true ∧ (1 ≤ s.authTries ∨ calls.allSucceed = true)) := by
  have h0 : s.outstanding - 1 = 0 := by omega
  have hout : 0 < (endTsx m cfg calls code s).outstanding ↔
      isChallenge code = true ∧ s.authTries < 1 ∧ calls.allSucceed = true := by
    unfold endTsx
    rcases sendCb_cases m cfg calls code { s with outstanding := s.outstanding - 1 } with
      ⟨hc, he⟩ | ⟨hc, hge, log, he⟩ | ⟨hc, hlt, hno, sess, log, he⟩ | ⟨hc, hlt, hall, sess, he⟩
    · rw [he, hc]
      simp [h0]
    · have h2 : ¬ s.authTries < 1 := Int.not_lt.mpr hge
      rw [he]
      simp [h0, h2]
    · rw [he, hno]
      simp [h0]
    · have h2 : s.authTries < 1 := hlt
      rw [he, hc, hall]
      simp [h2]
  rw [hout, endTsx_loopStop]
  simp only [Bool.or_eq_true, Bool.and_eq_true, decide_eq_true_eq]
  by_cases ht : 1 ≤ s.authTries
  · have hlt : ¬ s.authTries < 1 := Int.not_lt.mpr ht
    simp [ht, hlt]
  · have hlt : s.authTries < 1 := Int.not_le.mp ht
    simp [ht, hlt]

/-- **One step**: the only transaction ends well exactly when the step meets `GoesOn`. -/
theorem react_goesOn_iff {s : ReqState} {e : Event} (h1 : s.outstanding = 1)
    (he : e.tsxEnd ≠ none) :
    ((react m cfg s e).loopStop = true ∨ 0 < (react m cfg s e).outstanding) ↔ GoesOn s e := by
  cases e with
  | rx r calls =>
      have hf : 200 ≤ r.code := by
        by_cases hf : 200 ≤ r.code
        · exact hf
        · exact absurd (if_neg hf) he
      obtain ⟨log, hr⟩ := react_rx m cfg r calls s
      have hseen : (s.seen r.code log).outstanding = 1 := h1
      rw [hr, if_pos hf, endTsx_goesOn_iff hseen]
      cases hc : isChallenge r.code with
      | false => simp [GoesOn, hc]
      | true => simp [GoesOn, hc]
  | tsxError e calls =>
      show ((endTsx m cfg calls e.code s).loopStop = true ∨
        0 < (endTsx m cfg calls e.code s).outstanding) ↔ s.loopStop = true
      rw [endTsx_goesOn_iff h1]
      have hc : isChallenge e.code = false := by cases e <;> rfl
      simp [hc]

/-- **A run never leaves the program waiting for nothing exactly when each of its steps meets
    `GoesOn`.** -/
theorem neverStuck_iff {es : List Event} {s : ReqState} (h : ReqRun m cfg es s) :
    NeverStuck m cfg es ↔ EachStep (Fn (step m cfg)) ReqState.start GoesOn es := by
  -- in front of every event exactly one transaction is outstanding
  have hone : ∀ p e, p ++ [e] <+: es → ∀ t, ReqRun m cfg p t →
      t.outstanding = 1 ∧ ReqRun m cfg (p ++ [e]) (react m cfg t e) := by
    intro p e hp t ht
    obtain ⟨u, hu⟩ := h.prefix hp
    obtain ⟨t', ht', hstep⟩ := hu.snoc_inv
    have heq : t' = t := ht'.unique (Fn.unique _) ht
    subst heq
    obtain ⟨hpos, rfl⟩ := step_eq_some_iff.mp hstep
    exact ⟨Nat.le_antisymm (tsxInv_of_run ht).one hpos, hu⟩
  constructor
  · intro hn p e hp t ht
    obtain ⟨h1, hrun⟩ := hone p e hp t ht
    by_cases hend : e.tsxEnd = none
    · -- a provisional response is no challenge
      cases e with
      | rx r calls =>
          intro hc
          rw [Event.tsxEnd, if_pos (final_of_isChallenge hc)] at hend
          cases hend
      | tsxError e calls => cases hend
    · exact (react_goesOn_iff h1 hend).mp (hn p e hp hend _ hrun)
  · intro hC p e hp hend t ht
    obtain ⟨u, hu, hstep⟩ := ht.snoc_inv
    obtain ⟨h1, -⟩ := hone p e hp u hu
    obtain ⟨-, rfl⟩ := step_eq_some_iff.mp hstep
    exact (react_goesOn_iff h1 hend).mpr (hC p e hp u hu)

/-- A challenge that is answered, a 100 to the second request, and no more: the 100 has stopped the
    loop when the second transaction times out. -/
theorem neverStuck_challenged :
    NeverStuck .ping sippakInit.cfg [.rx (Response.plain 401) AuthCalls.good,
      .rx (Response.plain 100) AuthCalls.good, .tsxError .timeout AuthCalls.good] := by
  have htwo : ReqRun .ping sippakInit.cfg ([] ++ [.rx (Response.plain 401) AuthCalls.good] ++
      [.rx (Response.plain 100) AuthCalls.good]) _ := Run.of_foldlM rfl
  have hrun : ReqRun .ping sippakInit.cfg ([] ++ [.rx (Response.plain 401) AuthCalls.good] ++
      [.rx (Response.plain 100) AuthCalls.good] ++ [.tsxError .timeout AuthCalls.good]) _ :=
    Run.of_foldlM rfl
  have hnil : EachStep (Fn (step .ping sippakInit.cfg)) ReqState.start GoesOn [] :=
    fun p e hp => by simp at hp
  refine (neverStuck_iff hrun).mpr (((hnil.snoc fun s _ => ?_).snoc fun s _ => ?_).snoc
    fun s hs => ?_)
  · exact fun _ => Or.inr (Or.inr rfl)
  · intro hc
    cases hc
  · rw [hs.unique (Fn.unique _) htwo]
    rfl

/-- **No answer at all** to the request of `ping`: at the timeout of the only transaction the
    loop is not stopped, and nothing is outstanding. -/
theorem timeout_waits_for_ever : ∃ s,
    ReqRun .ping sippakInit.cfg [.tsxError .timeout AuthCalls.good] s ∧
      s.loopStop = false ∧ s.outstanding = 0 ∧
      ¬ NeverStuck .ping sippakInit.cfg [.tsxError .timeout AuthCalls.good] := by
  have hrun : ReqRun .ping sippakInit.cfg [.tsxError .timeout AuthCalls.good]
      { ReqState.start with outstanding := 0 } := Run.of_foldlM rfl
  refine ⟨_, hrun, rfl, rfl, fun hn => ?_⟩
  rcases hn [] _ (List.prefix_refl _) (by decide) _ hrun with h | h
  · cases h
  · exact absurd h (by decide)

/-! ## 3. Leaving too early -/

/-- The loop is not stopped before a final response other than the first challenge has come. -/
def StopsLate (m : RequestMod) (cfg : Cfg) (es : List Event) : Prop :=
  ∀ p, p <+: es → ∀ s, ReqRun m cfg p s → s.loopStop = true → answers p ≠ []

/-- A final response that is no challenge, or that follows one, is an answer. -/
theorem answers_snoc_final {es : List Event} {r : Response} {calls : AuthCalls}
    (hf : 200 ≤ r.code) (h : isChallenge r.code = false ∨
      ∃ c, isChallenge c = true ∧ finals es = [c]) (hnil : isChallenge r.code = false →
      finals es = [] ∨ ∃ c, isChallenge c = true ∧ finals es = [c]) :
    answers (es ++ [.rx r calls]) ≠ [] := by
  have hsnoc : finals (es ++ [.rx r calls]) = finals es ++ [r.code] := by
    rw [finals_snoc, Event.final, if_pos hf]
    rfl
  unfold answers
  rw [hsnoc]
  rcases h with hc | ⟨c, hc, hfin⟩
  · rcases hnil hc with hfin | ⟨c, hc', hfin⟩
    · rw [hfin]
      simp [hc]
    · rw [hfin]
      simp [hc']
  · rw [hfin]
    simp [hc]

/-- **One step without a provisional response** stops the loop only with an answer. -/
theorem stop_has_answer {es : List Event} {s s' : ReqState} {e : Event} (hi : TsxInv es s)
    (hnp : e.provisional = false) (hstop : s.loopStop = true → answers es ≠ [])
    (hs : step m cfg s e = some s') (hs' : s'.loopStop = true) : answers (es ++ [e]) ≠ [] := by
  obtain ⟨hpos, rfl⟩ := step_eq_some_iff.mp hs
  -- while the transaction is outstanding the loop is not stopped
  have hrunning : s.loopStop = false := by
    cases hb : s.loopStop with
    | false => rfl
    | true => exact absurd (hi.no_answer hpos) (hstop hb)
  cases e with
  | rx r calls =>
      have hf : 200 ≤ r.code := by
        simpa [Event.provisional] using hnp
      have hfin : finals es = [] ∨ ∃ c, isChallenge c = true ∧ finals es = [c] := by
        rcases hi.waiting hpos with ⟨hf, -⟩ | ⟨c, hc, hf, -⟩
        · exact Or.inl hf
        · exact Or.inr ⟨c, hc, hf⟩
      refine answers_snoc_final hf ?_ fun _ => hfin
      cases hc : isChallenge r.code with
      | false => exact Or.inl rfl
      | true =>
          refine Or.inr ?_
          rcases hi.waiting hpos with ⟨-, ht⟩ | ⟨c, hc', hf', -⟩
          · -- the first challenge does not stop the loop
            exfalso
            obtain ⟨log, hr⟩ := react_rx m cfg r calls s
            rw [hr, if_pos hf, endTsx_loopStop, ReqState.seen_loopStop, hrunning, hc,
              ReqState.seen_authTries, ht] at hs'
            cases hs'
          · exact ⟨c, hc', hf'⟩
  | tsxError e calls =>
      exfalso
      have hc : isChallenge e.code = false := by cases e <;> rfl
      have he : (endTsx m cfg calls e.code s).loopStop = true := hs'
      rw [endTsx_loopStop, hrunning, hc] at he
      cases he

/-- **A run without a provisional response** is not stopped before an answer. -/
theorem stop_has_answer_of_run {es : List Event} {s : ReqState} (h : ReqRun m cfg es s)
    (hnp : ∀ e ∈ es, e.provisional = false) (hstop : s.loopStop = true) : answers es ≠ [] := by
  induction h with
  | start => cases hstop
  | step hr hs ih =>
      have hlast := hnp _ (List.mem_append_right _ (List.mem_singleton_self _))
      have hbefore := ih fun e he => hnp e (List.mem_append_left _ he)
      exact stop_has_answer (tsxInv_of_run hr) hlast hbefore hs hstop

/-- **A provisional response** stops the loop, and there is no answer yet. -/
theorem provisional_stops {es : List Event} {s : ReqState} {e : Event} (hi : TsxInv es s)
    (hpos : 0 < s.outstanding) (hp : e.provisional = true) :
    (react m cfg s e).loopStop = true ∧ answers (es ++ [e]) = [] := by
  cases e with
  | tsxError e calls => cases hp
  | rx r calls =>
      have hlt : ¬ 200 ≤ r.code := by simpa [Event.provisional] using hp
      have hc : isChallenge r.code = false := by
        cases hc : isChallenge r.code with
        | false => rfl
        | true => exact absurd (final_of_isChallenge hc) hlt
      obtain ⟨log, hr⟩ := react_rx m cfg r calls s
      rw [if_neg hlt] at hr
      refine ⟨by simp [hr, hc], ?_⟩
      have hsame : answers (es ++ [.rx r calls]) = answers es := by
        unfold answers
        rw [finals_snoc, Event.final, if_neg hlt]
        simp
      rw [hsame]
      exact hi.no_answer hpos

/-- **The loop stops late in a run exactly when no provisional response comes.** -/
theorem stopsLate_iff {es : List Event} {s : ReqState} (h : ReqRun m cfg es s) :
    StopsLate m cfg es ↔ ∀ e ∈ es, e.provisional = false := by
  constructor
  · intro hl e he
    cases hp : e.provisional with
    | false => rfl
    | true =>
        exfalso
        obtain ⟨p, q, rfl⟩ := List.append_of_mem he
        have hpre : p ++ [e] <+: p ++ e :: q := ⟨q, by simp⟩
        obtain ⟨u, hu⟩ := h.prefix hpre
        obtain ⟨t, ht, hstep⟩ := hu.snoc_inv
        obtain ⟨hpos, rfl⟩ := step_eq_some_iff.mp hstep
        obtain ⟨hstop, hnil⟩ := provisional_stops (tsxInv_of_run ht) hpos hp
        exact hl _ hpre _ hu hstop hnil
  · intro hnp p hp t ht hstop
    exact stop_has_answer_of_run ht (fun e he => hnp e (hp.subset he)) hstop

/-- Challenged and answered: nothing stops the loop before the 200. -/
theorem stopsLate_authenticated :
    StopsLate .ping sippakInit.cfg
      [.rx (Response.plain 401) AuthCalls.good, .rx (Response.plain 200) AuthCalls.good] := by
  have hrun : ReqRun .ping sippakInit.cfg
      [.rx (Response.plain 401) AuthCalls.good, .rx (Response.plain 200) AuthCalls.good] _ :=
    Run.of_foldlM rfl
  exact (stopsLate_iff hrun).mpr (by decide)

/-- `100 Trying` stops the loop of `ping` before any final response. -/
theorem trying_stops_loop : ∃ s,
    ReqRun .ping sippakInit.cfg [.rx (Response.plain 100) AuthCalls.good] s ∧
      s.loopStop = true ∧ answers [.rx (Response.plain 100) AuthCalls.good] = [] ∧
      ¬ StopsLate .ping sippakInit.cfg [.rx (Response.plain 100) AuthCalls.good] := by
  have hrun : ReqRun .ping sippakInit.cfg [.rx (Response.plain 100) AuthCalls.good] _ :=
    Run.of_foldlM rfl
  exact ⟨_, hrun, rfl, rfl, fun hl => hl _ (List.prefix_refl _) _ hrun rfl rfl⟩

end Loop

end Sippak
