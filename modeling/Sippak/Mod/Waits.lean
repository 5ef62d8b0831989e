/-
  File:      Sippak/Mod/Waits.lean
  Subject:   WHAT EACH COMMAND WAITS FOR: the callbacks of all eight, as loops that poll.

  `Waiting` is what `sippak_main_loop` gets to run on: a state, the callback of each event, the
  flag, and, as a field of it, what the flag means: which event sets it behind which others.
  `Handler.waiting` has one for each command. The events of a command come in any order and
  number; nothing of pjsip's order is used here.

  * `react_loopStop` -- PING, NOTIFY, MESSAGE and REFER: an answer that is no challenge, or a
    second challenge;
  * `goesOn_iff` -- when the four do not wait for nothing, by the events so far;
  * `invite_loopStop` -- INVITE, whatever `pjsip_inv_end_session` returns;
  * `Waiting.tells` -- so each loop tells from its events whether the flag is set.
-/
import Sippak.Lib.PollLoop
import Sippak.Mod.Invite
import Sippak.Mod.PublishCommand
import Sippak.Mod.Register
import Sippak.Mod.RequestLoop
import Sippak.Mod.Subscribe

namespace Sippak

open PollLoop Runs

/-! ## 1. The commands with one request -/

/-- A response other than 401 and 407. -/
def Event.isAnswer : Event → Bool
  | .rx r _ => !Sippak.isChallenge r.code
  | .tsxError _ _ => false

def Event.isChallenge : Event → Bool
  | .rx r _ => Sippak.isChallenge r.code
  | .tsxError _ _ => false

/-- An answer, or a challenge behind another. -/
def RequestMod.StopsAt (es : List Event) (e : Event) : Prop :=
  e.isAnswer = true ∨ e.isChallenge = true ∧ ∃ e' ∈ es, e'.isChallenge = true

section Request

variable {m : RequestMod} {cfg : Cfg}

/-- **What one event does to the flag.** -/
theorem react_loopStop (s : ReqState) (e : Event) :
    (react m cfg s e).loopStop =
      (s.loopStop || e.isAnswer || e.isChallenge && decide (1 ≤ s.authTries)) := by
  cases e with
  | rx r calls =>
      obtain ⟨log, hr⟩ := react_rx m cfg r calls s
      rw [hr]
      by_cases hf : 200 ≤ r.code
      · rw [if_pos hf, endTsx_loopStop]
        rfl
      · have hno : Sippak.isChallenge r.code = false := by
          cases hc : Sippak.isChallenge r.code with
          | false => rfl
          | true => exact absurd (final_of_isChallenge hc) hf
        rw [if_neg hf, ReqState.seen_loopStop, Event.isAnswer, Event.isChallenge, hno,
          Bool.false_and, Bool.or_false]
  | tsxError e calls =>
      have hc : Sippak.isChallenge e.code = false := by cases e <;> rfl
      show (endTsx m cfg calls e.code s).loopStop = (s.loopStop || false || false)
      rw [endTsx_loopStop, hc, Bool.false_and, Bool.or_false, Bool.or_false]

/-- **While a transaction is outstanding** the flag says that a provisional response has come. -/
theorem loopStop_iff_provisional {es : List Event} {s : ReqState} (h : ReqRun m cfg es s)
    (hpos : 0 < s.outstanding) : s.loopStop = true ↔ ∃ e ∈ es, e.provisional = true := by
  constructor
  · intro hstop
    by_contra hno
    have hnp : ∀ e ∈ es, e.provisional = false := fun e he =>
      Bool.eq_false_iff.mpr fun hp => hno ⟨e, he, hp⟩
    exact stop_has_answer_of_run h hnp hstop ((tsxInv_of_run h).no_answer hpos)
  · clear hpos
    induction h with
    | start =>
        rintro ⟨e, he, -⟩
        exact absurd he List.not_mem_nil
    | step hr hs ih =>
        rintro ⟨e, he, hp⟩
        obtain ⟨hbefore, rfl⟩ := step_eq_some_iff.mp hs
        rcases List.mem_append.mp he with he | he
        · -- the flag is not taken back
          rw [react_loopStop, ih ⟨e, he, hp⟩]
          rfl
        · obtain rfl := List.mem_singleton.mp he
          exact (provisional_stops (tsxInv_of_run hr) hbefore hp).1

/-- `GoesOn`, by the events before: a transaction ends without a final response only behind a
    provisional one; the first challenge is answered, or comes behind a provisional response. -/
def GoesOnBehind (es : List Event) : Event → Prop
  | .rx r calls =>
    Sippak.isChallenge r.code = true →
      (∃ e ∈ es, e.provisional = true) ∨ (∃ c ∈ finals es, Sippak.isChallenge c = true) ∨
        calls.allSucceed = true
  | .tsxError _ _ => ∃ e ∈ es, e.provisional = true

/-- **The condition on a step is one on the events of the run.** -/
theorem goesOn_iff {es : List Event} {s : ReqState} (h : ReqRun m cfg es s)
    (hpos : 0 < s.outstanding) (e : Event) : GoesOn s e ↔ GoesOnBehind es e := by
  have htries : 1 ≤ s.authTries ↔ ∃ c ∈ finals es, Sippak.isChallenge c = true := by
    rcases (tsxInv_of_run h).waiting hpos with ⟨hnil, ht⟩ | ⟨c, hc, hone, ht⟩
    · rw [hnil, ht]
      simp
    · rw [hone, ht]
      simp [hc]
  cases e with
  | rx r calls =>
      unfold GoesOn GoesOnBehind
      rw [loopStop_iff_provisional h hpos, htries]
  | tsxError e calls => exact loopStop_iff_provisional h hpos

/-- The events so far, in any order, are a run. -/
theorem anyRun_foldl (m : RequestMod) (cfg : Cfg) (es : List Event) :
    AnyRun m cfg es (es.foldl (react m cfg) .start) := by
  induction es using List.reverseRecOn with
  | nil => exact .start
  | append_singleton es e ih =>
      rw [List.foldl_append]
      exact .step ih rfl

/-- A challenge ends its transaction. -/
theorem challengeEnds_eq (es : List Event) : challengeEnds es = es.countP Event.isChallenge := by
  induction es using List.reverseRecOn with
  | nil => rfl
  | append_singleton es e ih =>
      have hend : e.tsxEnd.any Sippak.isChallenge = e.isChallenge := by
        cases e with
        | rx r calls =>
            rw [Event.tsxEnd, Event.isChallenge]
            by_cases hf : 200 ≤ r.code
            · rw [if_pos hf]
              rfl
            · rw [if_neg hf]
              cases hc : Sippak.isChallenge r.code with
              | false => rfl
              | true => exact absurd (final_of_isChallenge hc) hf
        | tsxError e calls => cases e <;> rfl
      rw [challengeEnds_snoc, ih, hend, List.countP_append, List.countP_singleton]

/-- The counter says whether there was a challenge. -/
theorem authTries_pos (es : List Event) :
    1 ≤ (es.foldl (react m cfg) .start).authTries ↔ ∃ e ∈ es, e.isChallenge = true := by
  have htries := (sentOnce_of_run (anyRun_foldl m cfg es)).tries
  rw [challengeEnds_eq] at htries
  rw [← List.countP_pos_iff, htries]
  omega

/-- The main loop with the callbacks of the module. -/
def RequestMod.waitLoop (m : RequestMod) (cfg : Cfg) : Loop ReqState Event Abort :=
  ⟨fun s e => .ok (react m cfg s e), ReqState.loopStop⟩

theorem RequestMod.waitLoop_step (es : List Event) (t u : ReqState) (e : Event)
    (ht : (m.waitLoop cfg).handle .start es = .ok t) (hu : (m.waitLoop cfg).react t e = .ok u) :
    (m.waitLoop cfg).stopped u = true ↔
      (m.waitLoop cfg).stopped t = true ∨ RequestMod.StopsAt es e := by
  rw [Loop.handle_of_total (fun _ _ => rfl) _ es] at ht
  cases ht
  cases hu
  have htries : 1 ≤ (es.foldl (react m cfg) .start).authTries ↔ ∃ e ∈ es, e.isChallenge = true :=
    authTries_pos es
  show (react m cfg (es.foldl (react m cfg) .start) e).loopStop = true ↔ _
  rw [react_loopStop, Bool.or_assoc, Bool.or_eq_true, Bool.or_eq_true, Bool.and_eq_true,
    decide_eq_true_iff, htries]
  rfl

end Request

/-! ## 2. REGISTER and INVITE -/

namespace Register

/-- The main loop with `reg_callback`. -/
def waitLoop (print : ContactPrint) (cfg : Cfg) : Loop RegState RegcCbparam Abort :=
  ⟨fun s regp => regCallback print cfg regp s, RegState.loopStop⟩

/-- Any callback that returns stops the loop. -/
def StopsAt (_ : List RegcCbparam) (_ : RegcCbparam) : Prop := True

theorem waitLoop_step {print : ContactPrint} {cfg : Cfg} (es : List RegcCbparam)
    (t u : RegState) (regp : RegcCbparam) (_ : (waitLoop print cfg).handle .start es = .ok t)
    (hu : (waitLoop print cfg).react t regp = .ok u) :
    (waitLoop print cfg).stopped u = true ↔
      (waitLoop print cfg).stopped t = true ∨ StopsAt es regp := by
  have hstop : u.loopStop = true := ((regCallback_cases print cfg regp t).2 u hu).1
  exact iff_of_true hstop (Or.inr trivial)

end Register

namespace Invite

section Flag

variable {endSession : EndSession}

theorem sendMsg_loopStop (s : InvSession) (result : TdataResult) :
    (sendMsg s result).loopStop = s.loopStop := by
  unfold sendMsg
  split <;> rfl

/-- **What one event does to the flag**, whatever `pjsip_inv_end_session` returns. -/
theorem invite_loopStop (s : InvSession) (e : Event) :
    (react endSession s e).loopStop = (s.loopStop || e.stops) := by
  cases e with
  | rx r ack =>
      show (onRxResponse r ack s).2.loopStop = (s.loopStop || r.code == 487)
      unfold onRxResponse
      by_cases hc : r.code = 487
      · rw [if_pos hc, beq_iff_eq.mpr hc, Bool.or_true]
        rfl
      · rw [if_neg hc, beq_false_of_ne hc, Bool.or_false]
  | stateChanged state cause =>
      show (callOnStateChanged endSession cause { s with state := state }).loopStop = _
      unfold callOnStateChanged
      cases state with
      | PJSIP_INV_STATE_DISCONNECTED => exact (Bool.or_true _).symm
      | PJSIP_INV_STATE_EARLY =>
          dsimp only
          split
          · rw [sendMsg_loopStop]
            exact (Bool.or_false _).symm
          · exact (Bool.or_false _).symm
      | PJSIP_INV_STATE_CONFIRMED =>
          dsimp only
          rw [sendMsg_loopStop]
          exact (Bool.or_false _).symm
      | _ => exact (Bool.or_false _).symm

/-- The main loop with the callbacks of the session. -/
def waitLoop (endSession : EndSession) : Loop InvSession Event Abort :=
  ⟨fun s e => .ok (react endSession s e), InvSession.loopStop⟩

/-- DISCONNECTED, or a 487. -/
def StopsAt (_ : List Event) (e : Event) : Prop := e.stops = true

theorem waitLoop_step {cfg : Cfg} (es : List Event) (t u : InvSession) (e : Event)
    (_ : (waitLoop endSession).handle (start cfg) es = .ok t)
    (hu : (waitLoop endSession).react t e = .ok u) :
    (waitLoop endSession).stopped u = true ↔
      (waitLoop endSession).stopped t = true ∨ StopsAt es e := by
  cases hu
  show (react endSession t e).loopStop = true ↔ _
  rw [invite_loopStop, Bool.or_eq_true]
  rfl

end Flag
end Invite

/-! ## 3. All of them -/

/-- What a command waits for: the start, the callbacks with the flag, what they have logged, and
    which event sets the flag. -/
structure Waiting (State Event : Type) where
  start : State
  loop : Loop State Event Abort
  log : State → List LogLine
  StopsAt : List Event → Event → Prop
  running : loop.stopped start = false
  step : ∀ es t u e, loop.handle start es = .ok t → loop.react t e = .ok u →
    (loop.stopped u = true ↔ loop.stopped t = true ∨ StopsAt es e)

/-- The events say whether the flag is set. -/
theorem Waiting.tells {State Event : Type} (w : Waiting State Event) :
    w.loop.Tells w.start (SomeStop w.StopsAt) := Loop.tells_of_step w.running w.step

/-- What a command keeps while it waits. -/
def Handler.State : Handler → Type
  | .ping | .notify | .message | .refer => ReqState
  | .publish | .subscribe => AuthState
  | .register => Register.RegState
  | .invite => InvSession

/-- What pjsip calls it back with. -/
def Handler.Event : Handler → Type
  | .ping | .notify | .message | .refer => Sippak.Event
  | .publish => Publish.Event
  | .subscribe => Subscribe.Event
  | .register => Register.RegcCbparam
  | .invite => Invite.Event

/-- What the callbacks use of pjsip. -/
structure CallbackLib where
  print : Register.ContactPrint
  endSession : EndSession

def RequestMod.waiting (m : RequestMod) (cfg : Cfg) : Waiting ReqState Event :=
  ⟨.start, m.waitLoop cfg, ReqState.log, RequestMod.StopsAt, rfl, RequestMod.waitLoop_step⟩

/-- What each command waits for. -/
def Handler.waiting (lib : CallbackLib) (cfg : Cfg) : (h : Handler) → Waiting h.State h.Event
  | .ping => RequestMod.ping.waiting cfg
  | .notify => RequestMod.notify.waiting cfg
  | .message => RequestMod.message.waiting cfg
  | .refer => RequestMod.refer.waiting cfg
  | .publish =>
    ⟨.start, Publish.waitLoop, AuthState.log, Publish.StopsAt, rfl, Publish.waitLoop_step⟩
  | .subscribe =>
    ⟨.start, Subscribe.waitLoop, AuthState.log, Subscribe.StopsAt, rfl, Subscribe.waitLoop_step⟩
  | .register =>
    ⟨.start, Register.waitLoop lib.print cfg, Register.RegState.log, Register.StopsAt, rfl,
      Register.waitLoop_step⟩
  | .invite =>
    ⟨Invite.start cfg, Invite.waitLoop lib.endSession, InvSession.log, Invite.StopsAt, rfl,
      Invite.waitLoop_step⟩

/-! ## 4. How long it waits -/

section Wait

variable {State Event : Type} (w : Waiting State Event) (early : List Event)
  (polls : List (List Event)) {n : Nat}

/-- The main loop, behind the events that came while the command was still at its calls. -/
def Waiting.wait : Stand State Abort :=
  match w.loop.handle w.start early with
  | .error a => .failed a
  | .ok s => w.loop.run s polls

/-- The `n`-th poll is the first behind which an event has set the flag. -/
structure Waiting.EndsAt (n : Nat) : Prop where
  enough : n ≤ polls.length
  ended : SomeStop w.StopsAt (early ++ (polls.take n).flatten)
  first : ∀ k < n, ¬ SomeStop w.StopsAt (early ++ (polls.take k).flatten)

/-- None of the callbacks does what C gives no meaning to. -/
def Waiting.Handled (es : List Event) : Prop := ∃ s, w.loop.handle w.start es = .ok s

variable {w early polls}

/-- **How many polls there are.** -/
theorem Waiting.wait_ended_iff :
    (∃ s, w.wait early polls = .ended s n) ↔
      w.Handled (early ++ (polls.take n).flatten) ∧ w.EndsAt early polls n := by
  unfold Waiting.wait Waiting.Handled
  cases hearly : w.loop.handle w.start early with
  | error a =>
      refine iff_of_false (fun ⟨s, h⟩ => by cases h) fun ⟨⟨s, h⟩, _⟩ => ?_
      rw [Loop.handle_append_error hearly] at h
      cases h
  | ok t =>
      have htells := w.tells.after hearly
      rw [Loop.handle_append_ok hearly]
      constructor
      · intro ⟨s, h⟩
        obtain ⟨hn, hs, hover, hfirst⟩ := (Loop.run_ended_tells htells).mp h
        exact ⟨⟨s, hs⟩, hn, hover, hfirst⟩
      · intro ⟨⟨s, hs⟩, hends⟩
        exact ⟨s, (Loop.run_ended_tells htells).mpr
          ⟨hends.enough, hs, hends.ended, hends.first⟩⟩

/-- **When it does not end**: no event of any poll has set the flag. -/
theorem Waiting.wait_polling_iff :
    (∃ s, w.wait early polls = .polling s) ↔
      w.Handled (early ++ polls.flatten) ∧ ¬ SomeStop w.StopsAt (early ++ polls.flatten) := by
  unfold Waiting.wait Waiting.Handled
  cases hearly : w.loop.handle w.start early with
  | error a =>
      refine iff_of_false (fun ⟨s, h⟩ => by cases h) fun ⟨⟨s, h⟩, _⟩ => ?_
      rw [Loop.handle_append_error hearly] at h
      cases h
  | ok t =>
      have htells := w.tells.after hearly
      have hmono : ∀ es fs, SomeStop w.StopsAt (early ++ es) →
          SomeStop w.StopsAt (early ++ (es ++ fs)) := by
        intro es fs h
        rw [← List.append_assoc]
        exact h.append fs
      rw [Loop.handle_append_ok hearly]
      constructor
      · intro ⟨s, h⟩
        obtain ⟨hs, hno⟩ := (Loop.run_polling_tells htells hmono).mp h
        exact ⟨⟨s, hs⟩, hno⟩
      · intro ⟨⟨s, hs⟩, hno⟩
        exact ⟨s, (Loop.run_polling_tells htells hmono).mpr ⟨hs, hno⟩⟩

end Wait

end Sippak
