/-
  File:      Sippak/Mod/Request.lean
  Subject:   THE FOUR ONE-REQUEST MODULES (ping.c, notify.c, message.c, refer.c): the callbacks
             `on_rx_response` and `send_cb`, and their runs.

  The four modules have the same two callbacks, up to the name in the log lines and the test in
  front of the Via line of REFER (`RequestMod`). `on_rx_response` sees every response and stops
  the main loop at all but 401 and 407; `send_cb` sees the end of every transaction, with or
  without a response, and answers the first 401 or 407 with a second request.

  A run starts when the first request is out. An event is a response to the outstanding
  transaction, or the transaction's end without one (`Event`); `AuthCalls` says which of pjsip's
  calls inside `send_cb` succeed. `react` is one event, `step` the event where there is a
  transaction to have it.

  * `onRxResponse_eq`, `sendCb_cases` -- what each callback can do, said once;
  * `sentOnce_of_run` -- the static counter counts the challenges that ended a transaction;
  * `credentials_sent_once` -- **credentials are sent at most once**, whatever the events.
-/
import Sippak.Lib.Run
import Sippak.Mod.Response
import Sippak.SipHelper

namespace Sippak

open Runs

/-! ## 1. The callbacks -/

/-- The four modules. -/
inductive RequestMod where
  | ping | notify | message | refer
  deriving DecidableEq, Repr

/-- `NAME`. -/
def RequestMod.NAME : RequestMod → CStr
  | .ping => "mod_ping".toList
  | .notify => "mod_notify".toList
  | .message => "mod_message".toList
  | .refer => "mod_refer".toList

/-- The condition in front of the Via line: REFER wants an rport as well. -/
def RequestMod.logsVia : RequestMod → Via → Bool
  | .refer, via => via.rportParam ≠ 0
  | _, _ => true

/-- The module's static data, the stop flag of main.c, and the endpoint's side of the run: the
    transactions that have not ended, those ever started, and the credentials that went out.
    `authTries` is an `int`, and in a run it does not pass 2 (`authTries_le_two`). -/
structure ReqState where
  authTries : Int
  authSess : List CredInfo
  loopStop : Bool
  log : List LogLine
  outstanding : Nat
  started : Nat
  authSent : List CredInfo
  deriving DecidableEq, Repr

def ReqState.pjLog (s : ReqState) (level : Nat) (sender text : CStr) : ReqState :=
  { s with log := s.log ++ [⟨level, sender, text⟩] }

/-- `sippak_loop_cancel`. -/
def ReqState.sippakLoopCancel (s : ReqState) : ReqState := { s with loopStop := true }

/-- `pjsip_endpt_send_request` of a request with credentials, where it succeeds. -/
def ReqState.sendRequest (s : ReqState) (cred : CredInfo) : ReqState :=
  { s with
    outstanding := s.outstanding + 1
    started := s.started + 1
    authSent := s.authSent ++ [cred] }

/-- The first request is out. -/
def ReqState.start : ReqState := ⟨0, [], false, [], 1, 1, []⟩

/-- Which of pjsip's calls in `send_cb` return `PJ_SUCCESS`. -/
structure AuthCalls where
  cltInit : Bool
  cltReinitReq : Bool
  sendRequest : Bool
  deriving DecidableEq, Repr

/-- The two log lines of `on_rx_response`. -/
def logResponse (m : RequestMod) (r : Response) (s : ReqState) : ReqState :=
  { s with log := s.log ++ responseLines m.NAME m.logsVia r }

/-- `on_rx_response`; the Bool is what it returns. -/
def onRxResponse (m : RequestMod) (r : Response) (s : ReqState) : Bool × ReqState :=
  if isChallenge r.code then (false, logResponse m r s)
  else (false, (logResponse m r s).sippakLoopCancel)

/-- `send_cb`, at the end of a transaction with the status `code`. -/
def sendCb (m : RequestMod) (cfg : Cfg) (calls : AuthCalls) (code : Nat) (s : ReqState) :
    ReqState :=
  if isChallenge code then
    let s := { s with authTries := s.authTries + 1 }
    if 1 < s.authTries then
      ReqState.sippakLoopCancel { s with log := s.log ++ [authFailedLine m.NAME] }
    else if !calls.cltInit then
      s.pjLog 1 m.NAME "Failed init authentication credentials.".toList
    else
      let s := { s with authSess := [sippakSetCred cfg] }
      if !calls.cltReinitReq then
        s.pjLog 1 m.NAME "Failed to re-init client authentication session.".toList
      else if calls.sendRequest then s.sendRequest (sippakSetCred cfg)
      else s
  else s

namespace Ping

def onRxResponse : Response → ReqState → Bool × ReqState := Sippak.onRxResponse .ping
def sendCb : Cfg → AuthCalls → Nat → ReqState → ReqState := Sippak.sendCb .ping

end Ping

namespace Notify

def onRxResponse : Response → ReqState → Bool × ReqState := Sippak.onRxResponse .notify
def sendCb : Cfg → AuthCalls → Nat → ReqState → ReqState := Sippak.sendCb .notify

end Notify

namespace Message

def onRxResponse : Response → ReqState → Bool × ReqState := Sippak.onRxResponse .message
def sendCb : Cfg → AuthCalls → Nat → ReqState → ReqState := Sippak.sendCb .message

end Message

namespace Refer

def onRxResponse : Response → ReqState → Bool × ReqState := Sippak.onRxResponse .refer
def sendCb : Cfg → AuthCalls → Nat → ReqState → ReqState := Sippak.sendCb .refer

end Refer

/-! ## 2. Runs -/

/-- How a transaction ends without a response. -/
inductive TsxError where
  | timeout | transport
  deriving DecidableEq, Repr

def TsxError.code : TsxError → Nat
  | .timeout => 408
  | .transport => 503

/-- A response to the outstanding transaction, or its end without one. -/
inductive Event where
  | rx (r : Response) (calls : AuthCalls)
  | tsxError (e : TsxError) (calls : AuthCalls)
  deriving DecidableEq, Repr

/-- The status a transaction ends with at this event; `none` = it goes on. -/
def Event.tsxEnd : Event → Option Nat
  | .rx r _ => if 200 ≤ r.code then some r.code else none
  | .tsxError e _ => some e.code

/-- The end of the transaction: it is no longer outstanding, and `send_cb` runs. -/
def endTsx (m : RequestMod) (cfg : Cfg) (calls : AuthCalls) (code : Nat) (s : ReqState) :
    ReqState :=
  sendCb m cfg calls code { s with outstanding := s.outstanding - 1 }

/-- One event. A response reaches the transaction after the module, unless the module swallows
    it. -/
def react (m : RequestMod) (cfg : Cfg) (s : ReqState) : Event → ReqState
  | .rx r calls =>
    match onRxResponse m r s with
    | (true, s) => s
    | (false, s) => if 200 ≤ r.code then endTsx m cfg calls r.code s else s
  | .tsxError e calls => endTsx m cfg calls e.code s

/-- One event of a run: there must be a transaction to have it. -/
def step (m : RequestMod) (cfg : Cfg) (s : ReqState) (e : Event) : Option ReqState :=
  if 0 < s.outstanding then some (react m cfg s e) else none

/-- A run of the module from its first request on. -/
abbrev ReqRun (m : RequestMod) (cfg : Cfg) : List Event → ReqState → Prop :=
  Run (Fn (step m cfg)) ReqState.start

/-- The events in any order, also where no transaction is outstanding. -/
abbrev AnyRun (m : RequestMod) (cfg : Cfg) : List Event → ReqState → Prop :=
  Run (fun s e s' => react m cfg s e = s') ReqState.start

section Steps

variable {m : RequestMod} {cfg : Cfg}

theorem step_eq_some_iff {s s' : ReqState} {e : Event} :
    step m cfg s e = some s' ↔ 0 < s.outstanding ∧ react m cfg s e = s' := by
  unfold step
  split
  · rename_i h
    simp [h]
  · rename_i h
    simp [h]

theorem reqRun_any {es : List Event} {s : ReqState} (h : ReqRun m cfg es s) :
    AnyRun m cfg es s := by
  induction h with
  | start => exact .start
  | step _ hs ih => exact .step ih (step_eq_some_iff.mp hs).2

/-- All calls inside `send_cb` succeed. -/
def AuthCalls.allSucceed (calls : AuthCalls) : Bool :=
  calls.cltInit && calls.cltReinitReq && calls.sendRequest

/-- `s` after `on_rx_response` has seen a response with this code. -/
def ReqState.seen (s : ReqState) (code : Nat) (log : List LogLine) : ReqState :=
  { s with loopStop := s.loopStop || !isChallenge code, log := log }

@[simp] theorem ReqState.seen_authTries (s : ReqState) (code : Nat) (log : List LogLine) :
    (s.seen code log).authTries = s.authTries := rfl
@[simp] theorem ReqState.seen_loopStop (s : ReqState) (code : Nat) (log : List LogLine) :
    (s.seen code log).loopStop = (s.loopStop || !isChallenge code) := rfl

/-- **What `on_rx_response` does**: it stops the loop at all but a challenge, and passes the
    response on. -/
theorem onRxResponse_eq (m : RequestMod) (r : Response) (s : ReqState) :
    ∃ log, onRxResponse m r s = (false, s.seen r.code log) := by
  refine ⟨(logResponse m r s).log, ?_⟩
  unfold onRxResponse ReqState.seen
  cases hc : isChallenge r.code with
  | true => simp [logResponse]
  | false => simp [logResponse, ReqState.sippakLoopCancel]

/-- **What `send_cb` does**: nothing, without a challenge; at the second challenge it stops the
    loop; at the first it sends the credentials, or gives up with a log line. -/
theorem sendCb_cases (m : RequestMod) (cfg : Cfg) (calls : AuthCalls) (code : Nat)
    (s : ReqState) :
    (isChallenge code = false ∧ sendCb m cfg calls code s = s) ∨
    (isChallenge code = true ∧ 1 ≤ s.authTries ∧ ∃ log, sendCb m cfg calls code s =
      { s with authTries := s.authTries + 1, loopStop := true, log := log }) ∨
    (isChallenge code = true ∧ s.authTries < 1 ∧ calls.allSucceed = false ∧
      ∃ sess log, sendCb m cfg calls code s =
        { s with authTries := s.authTries + 1, authSess := sess, log := log }) ∨
    (isChallenge code = true ∧ s.authTries < 1 ∧ calls.allSucceed = true ∧
      ∃ sess, sendCb m cfg calls code s =
        { s with
          authTries := s.authTries + 1
          authSess := sess
          outstanding := s.outstanding + 1
          started := s.started + 1
          authSent := s.authSent ++ [sippakSetCred cfg] }) := by
  unfold sendCb
  cases hc : isChallenge code with
  | false => exact Or.inl ⟨rfl, rfl⟩
  | true =>
      refine Or.inr ?_
      by_cases ht : 1 < s.authTries + 1
      · refine Or.inl ⟨rfl, by omega, ?_⟩
        simp only [if_true, if_pos ht]
        exact ⟨_, rfl⟩
      · refine Or.inr ?_
        have hlt : s.authTries < 1 := by omega
        obtain ⟨i, r, d⟩ := calls
        cases i with
        | false =>
            refine Or.inl ⟨rfl, hlt, rfl, ?_⟩
            simp only [if_true, if_neg ht]
            exact ⟨_, _, rfl⟩
        | true =>
            cases r with
            | false =>
                refine Or.inl ⟨rfl, hlt, rfl, ?_⟩
                simp only [if_true, if_neg ht]
                exact ⟨_, _, rfl⟩
            | true =>
                cases d with
                | false =>
                    refine Or.inl ⟨rfl, hlt, rfl, ?_⟩
                    simp only [if_true, if_neg ht]
                    exact ⟨_, _, rfl⟩
                | true =>
                    refine Or.inr ⟨rfl, hlt, rfl, ?_⟩
                    simp only [if_true, if_neg ht]
                    exact ⟨_, rfl⟩

/-- A response, seen by the module and, if it is final, by the transaction. -/
theorem react_rx (m : RequestMod) (cfg : Cfg) (r : Response) (calls : AuthCalls)
    (s : ReqState) :
    ∃ log, react m cfg s (.rx r calls) =
      if 200 ≤ r.code then endTsx m cfg calls r.code (s.seen r.code log)
      else s.seen r.code log := by
  obtain ⟨log, hlog⟩ := onRxResponse_eq m r s
  exact ⟨log, by simp only [react, hlog]⟩

end Steps

/-! ## 3. Credentials are sent at most once -/

/-- How many transactions ended with 401 or 407. -/
def challengeEnds (es : List Event) : Nat := (es.filterMap Event.tsxEnd).countP isChallenge

/-- After `n` transaction ends with a challenge: the static counter counts them, at most the
    first was answered, and the second stopped the loop. -/
structure SentOnce (n : Nat) (s : ReqState) : Prop where
  tries : s.authTries = n
  sent : s.authSent.length ≤ 1
  unsent : n = 0 → s.authSent = []
  started : s.started = 1 + s.authSent.length
  stop : 2 ≤ n → s.loopStop = true

section SendOnce

variable {m : RequestMod} {cfg : Cfg}

/-- Neither the log nor an additional stop matters. -/
theorem SentOnce.seen {n : Nat} {s : ReqState} (h : SentOnce n s) (code : Nat)
    (log : List LogLine) : SentOnce n (s.seen code log) where
  tries := h.tries
  sent := h.sent
  unsent := h.unsent
  started := h.started
  stop hn := by simp [h.stop hn]

theorem SentOnce.endTsx {n : Nat} {s : ReqState} (h : SentOnce n s) (calls : AuthCalls)
    (code : Nat) :
    SentOnce (n + if isChallenge code then 1 else 0) (endTsx m cfg calls code s) := by
  have htries := h.tries
  rcases sendCb_cases m cfg calls code { s with outstanding := s.outstanding - 1 } with
    ⟨hc, he⟩ | ⟨hc, hge, log, he⟩ | ⟨hc, hlt, -, sess, log, he⟩ | ⟨hc, hlt, -, sess, he⟩
  · -- no challenge
    rw [Sippak.endTsx, he, hc]
    exact ⟨h.tries, h.sent, h.unsent, h.started, h.stop⟩
  · -- a further challenge: the loop stops
    rw [Sippak.endTsx, he, if_pos hc]
    refine ⟨?_, h.sent, fun h0 => ?_, h.started, fun _ => rfl⟩
    · show s.authTries + 1 = ((n + 1 : Nat) : Int)
      omega
    · omega
  · -- the first challenge, given up
    rw [Sippak.endTsx, he, if_pos hc]
    have h1 : s.authTries < 1 := hlt
    refine ⟨?_, h.sent, fun h0 => ?_, h.started, fun h2 => ?_⟩
    · show s.authTries + 1 = ((n + 1 : Nat) : Int)
      omega
    · omega
    · omega
  · -- the first challenge, answered: nothing was sent before
    rw [Sippak.endTsx, he, if_pos hc]
    have h1 : s.authTries < 1 := hlt
    have hsent : s.authSent = [] := h.unsent (by omega)
    have hstarted : s.started = 1 := by rw [h.started, hsent]; rfl
    refine ⟨?_, ?_, fun h0 => ?_, ?_, fun h2 => ?_⟩
    · show s.authTries + 1 = ((n + 1 : Nat) : Int)
      omega
    · show (s.authSent ++ [sippakSetCred cfg]).length ≤ 1
      rw [hsent]
      exact Nat.le_refl 1
    · omega
    · show s.started + 1 = 1 + (s.authSent ++ [sippakSetCred cfg]).length
      rw [hsent, hstarted]
      rfl
    · omega

theorem challengeEnds_snoc (es : List Event) (e : Event) :
    challengeEnds (es ++ [e]) =
      challengeEnds es + if e.tsxEnd.any isChallenge then 1 else 0 := by
  unfold challengeEnds
  rw [List.filterMap_append, List.countP_append]
  cases he : e.tsxEnd with
  | none => simp [he]
  | some c => cases hc : isChallenge c <;> simp [he, hc]

/-- **One event** keeps the counts. -/
theorem SentOnce.react {n : Nat} {s : ReqState} (h : SentOnce n s) (e : Event) :
    SentOnce (n + if e.tsxEnd.any isChallenge then 1 else 0) (react m cfg s e) := by
  cases e with
  | rx r calls =>
      obtain ⟨log, he⟩ := react_rx m cfg r calls s
      rw [he]
      have hrx := h.seen r.code log
      by_cases hf : 200 ≤ r.code
      · simpa [Event.tsxEnd, hf] using hrx.endTsx calls r.code
      · simpa [Event.tsxEnd, hf] using hrx
  | tsxError e calls => exact h.endTsx calls e.code

theorem sentOnce_of_run {es : List Event} {s : ReqState} (h : AnyRun m cfg es s) :
    SentOnce (challengeEnds es) s := by
  have h0 : SentOnce (challengeEnds []) ReqState.start :=
    ⟨rfl, Nat.zero_le 1, fun _ => rfl, rfl, fun h2 => absurd h2 (by decide)⟩
  refine Run.keepsHist (P := fun es s => SentOnce (challengeEnds es) s) h0 ?_ h
  intro es s e s' _ hs hstep
  rw [challengeEnds_snoc, ← hstep]
  exact hs.react e

/-- **Credentials are sent at most once**: whatever ends the transactions in whatever order, at
    most one request carries credentials, at most two are started, and the second challenge has
    stopped the loop. -/
theorem credentials_sent_once {es : List Event} {s : ReqState} (h : AnyRun m cfg es s) :
    s.authSent.length ≤ 1 ∧ s.started ≤ 2 ∧ (2 ≤ challengeEnds es → s.loopStop = true) := by
  have hs := sentOnce_of_run h
  have hsent := hs.sent
  have hstarted := hs.started
  exact ⟨hsent, by omega, hs.stop⟩

/-- Every call inside `send_cb` succeeds. -/
def AuthCalls.good : AuthCalls := ⟨true, true, true⟩

/-- Challenged, answered, refused: the second challenge stops the loop. -/
theorem credentials_sent_once_refused : ∃ s,
    AnyRun .ping sippakInit.cfg
        [.rx (Response.plain 401) AuthCalls.good, .rx (Response.plain 401) AuthCalls.good] s ∧
      s.authSent = [sippakSetCred sippakInit.cfg] ∧ s.started = 2 ∧
      (s.authSent.length ≤ 1 ∧ s.started ≤ 2 ∧
        (2 ≤ challengeEnds [.rx (Response.plain 401) AuthCalls.good,
          .rx (Response.plain 401) AuthCalls.good] → s.loopStop = true)) := by
  have hrun : ReqRun .ping sippakInit.cfg
      [.rx (Response.plain 401) AuthCalls.good, .rx (Response.plain 401) AuthCalls.good] _ :=
    Run.of_foldlM rfl
  exact ⟨_, reqRun_any hrun, rfl, rfl, credentials_sent_once (reqRun_any hrun)⟩

end SendOnce

end Sippak
