/-
  File:      Sippak/Mod/Invite.lean
  Subject:   THE INVITE SESSION (invite.c): `on_rx_response` and `call_on_state_changed`, and their
             runs.

  A run starts when the session is created. An event is a response (`on_rx_response` sees it
  before the session does) or a change of the session's state, with the callback. Responses may
  come at any time. The session may be in CALLING and EARLY as often as it likes, since the
  callback is made for each provisional response; CONNECTING, CONFIRMED and DISCONNECTED come
  once each, in this order. This is all that is taken over from pjsip (`mayFollow`), besides what
  `pjsip_inv_end_session` returns (`EndsSession`); there is one session, as the module sets up
  nothing for forked calls.

  * `react_eq` -- what one event does, said once;
  * `sent_of_run` -- what a run hands to `pjsip_inv_send_msg`, event by event;
  * `sent_once_iff` -- **one CANCEL and one BYE**: with `--cancel`, exactly where the session is
    called back in EARLY at most once.
-/
import Sippak.Lib.Run
import Sippak.Mod.Response

namespace Sippak

open Runs

/-! ## 1. The callbacks -/

/-- `pjsip_inv_state`. -/
inductive InvState where
  | PJSIP_INV_STATE_NULL | PJSIP_INV_STATE_CALLING | PJSIP_INV_STATE_INCOMING
  | PJSIP_INV_STATE_EARLY | PJSIP_INV_STATE_CONNECTING | PJSIP_INV_STATE_CONFIRMED
  | PJSIP_INV_STATE_DISCONNECTED
  deriving DecidableEq, Repr

def PJSIP_SC_OK : Nat := 200
def PJSIP_SC_REQUEST_TERMINATED : Nat := 487

/-- The requests the module sends after the INVITE. -/
inductive InvTdata where
  | ACK | CANCEL | BYE
  deriving DecidableEq, Repr

/-- The result of a call that makes a request: its status and `tdata`. -/
abbrev TdataResult := PjStatus × Option InvTdata

/-- `pjsip_inv_end_session`, by the state of the session and the code. -/
abbrev EndSession := InvState → Nat → TdataResult

/-- The module's static data (`inv` with its state), the stop flag of main.c, and what was given
    to `pjsip_inv_send_msg`. -/
structure InvSession where
  earlyCancel : Bool
  state : InvState
  loopStop : Bool
  sent : List InvTdata
  log : List LogLine
  deriving DecidableEq, Repr

namespace Invite

def NAME : CStr := "mod_invite".toList

/-- After `pjsip_inv_create_uac`. -/
def start (cfg : Cfg) : InvSession := ⟨cfg.cancel, .PJSIP_INV_STATE_NULL, false, [], []⟩

def pjLog (s : InvSession) (level : Nat) (text : CStr) : InvSession :=
  { s with log := s.log ++ [⟨level, NAME, text⟩] }

/-- `sippak_loop_cancel`. -/
def sippakLoopCancel (s : InvSession) : InvSession := { s with loopStop := true }

/-- `if (status == PJ_SUCCESS && tdata) pjsip_inv_send_msg(inv, tdata)`. -/
def sendMsg (s : InvSession) : TdataResult → InvSession
  | (.PJ_SUCCESS, some tdata) => { s with sent := s.sent ++ [tdata] }
  | _ => s

/-- How `pjsip_inv_create_ack` ends: its status, and whether there is an ACK. -/
structure AckCall where
  status : PjStatus
  made : Bool
  deriving DecidableEq, Repr

def AckCall.result (ack : AckCall) : TdataResult :=
  (ack.status, if ack.made then some .ACK else none)

/-- `on_rx_response`; the Bool is what it returns. -/
def onRxResponse (r : Response) (ack : AckCall) (s : InvSession) : Bool × InvSession :=
  if r.code = 487 then (false, sippakLoopCancel (sendMsg s ack.result)) else (false, s)

/-- `call_on_state_changed`; `cause` is `inv->cause`. -/
def callOnStateChanged (endSession : EndSession) (cause : Nat) (s : InvSession) : InvSession :=
  match s.state with
  | .PJSIP_INV_STATE_DISCONNECTED => sippakLoopCancel (pjLog s 3 "Call completed.".toList)
  | .PJSIP_INV_STATE_EARLY =>
    if s.earlyCancel then
      sendMsg (pjLog s 3 ("Cancel session in early state (".toList ++ showNat cause ++
        ")".toList)) (endSession .PJSIP_INV_STATE_EARLY PJSIP_SC_REQUEST_TERMINATED)
    else s
  | .PJSIP_INV_STATE_CONFIRMED =>
    sendMsg (pjLog s 3 "Call confirmed. Now terminating with BYE.".toList)
      (endSession .PJSIP_INV_STATE_CONFIRMED PJSIP_SC_OK)
  | _ => s

/-! ## 2. Runs -/

/-- A response, with how `pjsip_inv_create_ack` would end, or a new state of the session. -/
inductive Event where
  | rx (r : Response) (ack : AckCall)
  | stateChanged (state : InvState) (cause : Nat)
  deriving DecidableEq, Repr

/-- How far a session is: CONNECTING, CONFIRMED and DISCONNECTED are the stages behind the
    first. -/
def stage : InvState → Nat
  | .PJSIP_INV_STATE_CONNECTING => 1
  | .PJSIP_INV_STATE_CONFIRMED => 2
  | .PJSIP_INV_STATE_DISCONNECTED => 3
  | _ => 0

/-- The order of the states: forward, or among those of the first stage. -/
def mayFollow (state next : InvState) : Bool :=
  stage state < stage next || (stage state == 0 && stage next == 0)

/-- One event. -/
def react (endSession : EndSession) (s : InvSession) : Event → InvSession
  | .rx r ack => (onRxResponse r ack s).2
  | .stateChanged state cause => callOnStateChanged endSession cause { s with state := state }

/-- One event of a run: the session's states come in their order. -/
def step (endSession : EndSession) (s : InvSession) : Event → Option InvSession
  | .rx r ack => some (react endSession s (.rx r ack))
  | .stateChanged state cause =>
    if mayFollow s.state state then some (react endSession s (.stateChanged state cause)) else none

/-- A run of the session. -/
abbrev InvRun (endSession : EndSession) (cfg : Cfg) : List Event → InvSession → Prop :=
  Run (Fn (step endSession)) (start cfg)

/-- What `pjsip_inv_end_session` returns: a CANCEL in EARLY, a BYE in CONFIRMED. -/
structure EndsSession (endSession : EndSession) : Prop where
  early : endSession .PJSIP_INV_STATE_EARLY PJSIP_SC_REQUEST_TERMINATED =
    (.PJ_SUCCESS, some .CANCEL)
  confirmed : endSession .PJSIP_INV_STATE_CONFIRMED PJSIP_SC_OK = (.PJ_SUCCESS, some .BYE)

/-- The event stops the main loop: DISCONNECTED, or a 487. -/
def Event.stops : Event → Bool
  | .rx r _ => r.code == 487
  | .stateChanged state _ => state == .PJSIP_INV_STATE_DISCONNECTED

/-- The event is the callback for this state. -/
def Event.enters (state : InvState) : Event → Bool
  | .rx _ _ => false
  | .stateChanged state' _ => state' == state

/-- What the event hands to `pjsip_inv_send_msg`. -/
def Event.sends (cancel : Bool) : Event → List InvTdata
  | .rx r ack => if r.code = 487 ∧ ack.status = .PJ_SUCCESS ∧ ack.made = true then [.ACK] else []
  | .stateChanged .PJSIP_INV_STATE_EARLY _ => if cancel then [.CANCEL] else []
  | .stateChanged .PJSIP_INV_STATE_CONFIRMED _ => [.BYE]
  | .stateChanged _ _ => []

/-- The state of the session after the event. -/
def Event.next (state : InvState) : Event → InvState
  | .rx _ _ => state
  | .stateChanged state _ => state

section Steps

variable {endSession : EndSession} {cfg : Cfg}

theorem sendMsg_ack (s : InvSession) (ack : AckCall) :
    sendMsg s ack.result =
      { s with sent := s.sent ++
        if ack.status = .PJ_SUCCESS ∧ ack.made = true then [.ACK] else [] } := by
  obtain ⟨status, made⟩ := ack
  cases made with
  | false => cases status <;> simp [AckCall.result, sendMsg]
  | true => cases status <;> simp [AckCall.result, sendMsg]

/-- **What one event does**: to the session's state, to the stop flag, and what it sends. -/
theorem react_eq (hend : EndsSession endSession) (s : InvSession) (e : Event) :
    ∃ log, react endSession s e =
      { s with
        state := e.next s.state
        loopStop := s.loopStop || e.stops
        sent := s.sent ++ e.sends s.earlyCancel
        log := log } := by
  cases e with
  | rx r ack =>
      refine ⟨s.log, ?_⟩
      show (onRxResponse r ack s).2 = _
      unfold onRxResponse
      by_cases hc : r.code = 487
      · rw [if_pos hc, sendMsg_ack]
        simp [Event.sends, Event.stops, Event.next, hc, sippakLoopCancel]
      · have hcode : (r.code == 487) = false := beq_false_of_ne hc
        rw [if_neg hc]
        simp [Event.sends, Event.stops, Event.next, hc, hcode]
  | stateChanged state cause =>
      show ∃ log, callOnStateChanged endSession cause { s with state := state } = _
      unfold callOnStateChanged
      cases state with
      | PJSIP_INV_STATE_DISCONNECTED =>
          refine ⟨(pjLog s 3 "Call completed.".toList).log, ?_⟩
          rw [Event.stops, Event.sends, List.append_nil, beq_self_eq_true, Bool.or_true]
          · rfl
          · exact fun h => by cases h
          · exact fun h => by cases h
      | PJSIP_INV_STATE_EARLY =>
          cases hcancel : s.earlyCancel with
          | false => exact ⟨s.log, by simp [Event.stops, Event.sends, Event.next]⟩
          | true =>
              refine ⟨(pjLog s 3 ("Cancel session in early state (".toList ++ showNat cause ++
                ")".toList)).log, ?_⟩
              dsimp only
              rw [if_pos rfl, hend.early]
              simp [sendMsg, pjLog, Event.stops, Event.sends, Event.next]
      | PJSIP_INV_STATE_CONFIRMED =>
          refine ⟨(pjLog s 3 "Call confirmed. Now terminating with BYE.".toList).log, ?_⟩
          dsimp only
          rw [hend.confirmed]
          simp [sendMsg, pjLog, Event.stops, Event.sends, Event.next]
      | PJSIP_INV_STATE_NULL | PJSIP_INV_STATE_CALLING | PJSIP_INV_STATE_INCOMING
      | PJSIP_INV_STATE_CONNECTING =>
          exact ⟨s.log, by simp [Event.stops, Event.sends, Event.next]⟩

/-- A step of a run is the event, where a new state of the session may follow. -/
theorem step_cases {s s' : InvSession} {e : Event} (h : step endSession s e = some s') :
    react endSession s e = s' ∧
      ∀ state cause, e = .stateChanged state cause → mayFollow s.state state = true := by
  cases e with
  | rx r ack =>
      cases h
      exact ⟨rfl, fun _ _ he => by cases he⟩
  | stateChanged state cause =>
      rw [step] at h
      split at h
      · rename_i hmay
        cases h
        exact ⟨rfl, fun _ _ he => by cases he; exact hmay⟩
      · cases h

/-- The stages only go forward, and only into the first one from itself. -/
theorem stage_of_mayFollow {state next : InvState} (h : mayFollow state next = true) :
    stage state ≤ stage next ∧ (0 < stage next → stage state < stage next) := by
  unfold mayFollow at h
  simp only [Bool.or_eq_true, Bool.and_eq_true, decide_eq_true_eq, beq_iff_eq] at h
  omega

/-! ## 3. What a run sends -/

/-- What a run over the events leaves. -/
structure After (cfg : Cfg) (es : List Event) (s : InvSession) : Prop where
  cancel : s.earlyCancel = cfg.cancel
  sent : s.sent = es.flatMap (Event.sends cfg.cancel)
  stop : s.loopStop = es.any Event.stops
  confirmed : es.countP (Event.enters .PJSIP_INV_STATE_CONFIRMED) ≤ 1
  early : stage s.state < 2 → es.countP (Event.enters .PJSIP_INV_STATE_CONFIRMED) = 0

/-- **A run sends what its events send, one after the other**, and it confirms the session at
    most once. -/
theorem after_of_run (hend : EndsSession endSession) {es : List Event} {s : InvSession}
    (h : InvRun endSession cfg es s) : After cfg es s := by
  have h0 : After cfg [] (start cfg) :=
    ⟨rfl, rfl, rfl, Nat.zero_le 1, fun _ => rfl⟩
  refine Run.keepsHist (P := fun es s => After cfg es s) h0 ?_ h
  intro es s e s' _ hs hstep
  obtain ⟨hreact, hmay⟩ := step_cases hstep
  obtain ⟨log, he⟩ := react_eq hend s e
  rw [hreact] at he
  subst he
  refine ⟨hs.cancel, ?_, ?_, ?_, ?_⟩
  · rw [List.flatMap_append, List.flatMap_singleton, ← hs.sent, ← hs.cancel]
  · rw [List.any_append, ← hs.stop]
    simp
  · rw [List.countP_append, List.countP_singleton]
    split
    · -- the session was not confirmed before
      rename_i henters
      cases e with
      | rx r ack => cases henters
      | stateChanged state cause =>
          have hstate := beq_iff_eq.mp henters
          subst hstate
          have hstage := (stage_of_mayFollow (hmay _ cause rfl)).2 (by decide)
          rw [hs.early hstage]
    · exact hs.confirmed
  · intro hstage
    rw [List.countP_append, List.countP_singleton]
    cases e with
    | rx r ack => rw [hs.early hstage]; rfl
    | stateChanged state cause =>
        have hle := (stage_of_mayFollow (hmay state cause rfl)).1
        have hother : ¬ Event.enters .PJSIP_INV_STATE_CONFIRMED (.stateChanged state cause) =
            true := by
          intro henters
          have hstate := beq_iff_eq.mp henters
          subst hstate
          have hlt : stage .PJSIP_INV_STATE_CONFIRMED < 2 := hstage
          exact absurd hlt (by decide)
        rw [hs.early (Nat.lt_of_le_of_lt hle hstage), if_neg hother]

/-! ## 4. One CANCEL and one BYE -/

/-- A session ends once: at most one CANCEL is sent, a BYE exactly where the session was
    confirmed, and then one, and the loop is stopped only after DISCONNECTED or a 487. -/
structure EndsOnce (es : List Event) (s : InvSession) : Prop where
  cancel : s.sent.count .CANCEL ≤ 1
  bye : s.sent.count .BYE = if es.any (Event.enters .PJSIP_INV_STATE_CONFIRMED) then 1 else 0
  stop : s.loopStop = true → es.any Event.stops = true

/-- Where an event sends a request exactly if `p` holds of it, a run sends it as often as `p`
    holds. -/
theorem count_sends {cancel : Bool} {tdata : InvTdata} {p : Event → Bool}
    (hp : ∀ e, (Event.sends cancel e).count tdata = if p e then 1 else 0) (es : List Event) :
    (es.flatMap (Event.sends cancel)).count tdata = es.countP p := by
  induction es with
  | nil => rfl
  | cons e es ih =>
      rw [List.flatMap_cons, List.count_append, ih, hp, List.countP_cons, Nat.add_comm]

theorem count_cancel (cancel : Bool) (es : List Event) :
    (es.flatMap (Event.sends cancel)).count .CANCEL =
      es.countP fun e => cancel && e.enters .PJSIP_INV_STATE_EARLY := by
  refine count_sends (fun e => ?_) es
  cases e with
  | rx r ack =>
      rw [Event.sends, Event.enters, Bool.and_false]
      split <;> rfl
  | stateChanged state cause => cases state <;> cases cancel <;> rfl

theorem count_bye (cancel : Bool) (es : List Event) :
    (es.flatMap (Event.sends cancel)).count .BYE =
      es.countP (Event.enters .PJSIP_INV_STATE_CONFIRMED) := by
  refine count_sends (fun e => ?_) es
  cases e with
  | rx r ack =>
      rw [Event.sends, Event.enters]
      split <;> rfl
  | stateChanged state cause => cases state <;> cases cancel <;> rfl

/-- **One CANCEL and one BYE**: a run ends its session once exactly when there is no `--cancel`, or
    at most one callback in EARLY. -/
theorem sent_once_iff (hend : EndsSession endSession) {es : List Event} {s : InvSession}
    (h : InvRun endSession cfg es s) :
    EndsOnce es s ↔
      (cfg.cancel = true → es.countP (Event.enters .PJSIP_INV_STATE_EARLY) ≤ 1) := by
  have hs := after_of_run hend h
  have hcancel : s.sent.count .CANCEL =
      es.countP fun e => cfg.cancel && e.enters .PJSIP_INV_STATE_EARLY := by
    rw [hs.sent, count_cancel]
  have hbye : s.sent.count .BYE =
      if es.any (Event.enters .PJSIP_INV_STATE_CONFIRMED) then 1 else 0 := by
    rw [hs.sent, count_bye]
    have honce := hs.confirmed
    split
    · rename_i hany
      have hpos := List.countP_pos_iff.mpr (List.any_eq_true.mp hany)
      omega
    · rename_i hnone
      rw [List.countP_eq_zero]
      exact fun e he hent => hnone (List.any_eq_true.mpr ⟨e, he, hent⟩)
  constructor
  · intro honce hflag
    have hle := honce.cancel
    rw [hcancel, hflag] at hle
    exact hle
  · intro hcond
    refine ⟨?_, hbye, fun hstop => hs.stop ▸ hstop⟩
    rw [hcancel]
    cases hflag : cfg.cancel with
    | true => exact hcond hflag
    | false => rw [List.countP_eq_zero.mpr fun e _ => by simp]; exact Nat.zero_le 1

end Steps

/-- What `pjsip_inv_end_session` does where the module calls it; elsewhere it refuses. -/
def endSessionUac : EndSession
  | .PJSIP_INV_STATE_EARLY, _ => (.PJ_SUCCESS, some .CANCEL)
  | .PJSIP_INV_STATE_CONFIRMED, _ => (.PJ_SUCCESS, some .BYE)
  | _, _ => (.PJ_EINVAL, none)

theorem endSessionUac_ends : EndsSession endSessionUac := ⟨rfl, rfl⟩

/-- The configuration of `sippak --cancel invite <dest>`. -/
def cancelCfg : Cfg := { sippakInit.cfg with cmd := .CMD_INVITE, cancel := true }

/-- Rung once and cancelled, and answered all the same: the 200 crosses the CANCEL. -/
def crossed : List Event :=
  [.stateChanged .PJSIP_INV_STATE_CALLING 0, .rx (Response.plain 180) ⟨.PJ_SUCCESS, true⟩,
    .stateChanged .PJSIP_INV_STATE_EARLY 180, .rx (Response.plain 200) ⟨.PJ_SUCCESS, true⟩,
    .stateChanged .PJSIP_INV_STATE_CONNECTING 200, .stateChanged .PJSIP_INV_STATE_CONFIRMED 200,
    .rx (Response.plain 200) ⟨.PJ_SUCCESS, true⟩, .stateChanged .PJSIP_INV_STATE_DISCONNECTED 200]

theorem sent_once_crossed : ∃ s, InvRun endSessionUac cancelCfg crossed s ∧
    s.sent = [.CANCEL, .BYE] ∧ EndsOnce crossed s := by
  have hrun : InvRun endSessionUac cancelCfg crossed _ := Run.of_foldlM rfl
  exact ⟨_, hrun, rfl, (sent_once_iff endSessionUac_ends hrun).mpr fun _ => by decide⟩

/-- 180, 183 and then the 487: two CANCELs. -/
def rungTwice : List Event :=
  [.stateChanged .PJSIP_INV_STATE_CALLING 0, .rx (Response.plain 180) ⟨.PJ_SUCCESS, true⟩,
    .stateChanged .PJSIP_INV_STATE_EARLY 180, .rx (Response.plain 183) ⟨.PJ_SUCCESS, true⟩,
    .stateChanged .PJSIP_INV_STATE_EARLY 183, .rx (Response.plain 487) ⟨.PJ_SUCCESS, true⟩,
    .stateChanged .PJSIP_INV_STATE_DISCONNECTED 487]

theorem cancelled_twice : EndsSession endSessionUac ∧
    ∃ s, InvRun endSessionUac cancelCfg rungTwice s ∧
      s.sent = [.CANCEL, .CANCEL, .ACK] ∧ ¬ EndsOnce rungTwice s := by
  have hrun : InvRun endSessionUac cancelCfg rungTwice _ := Run.of_foldlM rfl
  exact ⟨⟨rfl, rfl⟩, _, hrun, rfl, fun h => absurd h.cancel (by decide)⟩

end Invite

end Sippak
