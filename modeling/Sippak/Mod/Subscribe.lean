/-
  File:      Sippak/Mod/Subscribe.lean
  Subject:   SUBSCRIBE (subscribe.c): `sippak_cmd_subscribe` with `set_sub_evtype`, and the callbacks
             that end the wait.

  Four pairs of calls belong to one of two event packages, message-summary or presence; each is
  chosen by a test of `pres_ev` of its own. `set_sub_evtype` also says which package it is, but
  nothing looks at what it returns. Behind the command, what pjsip reports arrives in any order:
  states of the subscription, ends of transactions, NOTIFY requests, responses.

  * `subscribe_follows` -- the command runs through its list of calls;
  * `subscribe_of_line` -- **all calls are of one package**, the one `set_sub_evtype` returned and
    the command line asks for;
  * `stopped_iff` -- **when the wait is over**, for every order of events.
-/
import Sippak.Lib.PollLoop
import Sippak.Line
import Sippak.Mod.Command
import Sippak.Mod.GiveUp

namespace Sippak

open CallTrace CStr PollLoop

namespace Subscribe

open Cmd

/-! ## 1. The command -/

/-- `set_sub_evtype`. -/
def setSubEvtype (app : App) : EvType × App :=
  if app.cfg.presEv = .EVTYPE_OTHER ∨ app.cfg.presEv = .EVTYPE_UNKNOWN then
    (.EVTYPE_PRES, app.pjLog 2 NAME ("Presence event \"".toList ++ app.cfg.event.text ++
      "\" is not supported. Will use \"presence\".".toList))
  else (app.cfg.presEv, app)

/-- One of the tests of `pres_ev`: the call of either package, with the text for its failure. -/
def packageCall (env : Pjsip) (mwi pres : Call) (mwiText presText : CStr) : Cmd Unit := do
  let app ← Prog.read
  if app.cfg.presEv = .EVTYPE_MWI then assertSucc mwiText (call env mwi)
  else assertSucc presText (call env pres)

/-- `sippak_cmd_subscribe`. -/
def sippakCmdSubscribe (env : Pjsip) : Cmd Unit := do
  let _ ← ofExcept fun app => .ok (setSubEvtype app)
  let localName ← assertSucc "Failed to initiate transport.".toList (sippakTransportInit env)
  let cnt ← createContactHdr localName
  let fromHdr ← createFromHdr env
  let ruri ← createRuri env
  assertSucc "Failed to initiate UA module.".toList (call env .pjsip_ua_init_module)
  assertSucc "Failed to create dialog uac.".toList
    (call env (.pjsip_dlg_create_uac fromHdr cnt ruri ruri))
  let app ← Prog.read
  assertSucc "Failed to set auth credentials.".toList
    (call env (.pjsip_auth_clt_set_credentials (sippakSetCred app.cfg)))
  assertSucc "Failed to intiate events subscribe module.".toList
    (call env .pjsip_evsub_init_module)
  packageCall env .pjsip_mwi_init_module .pjsip_pres_init_module
    "Failed to intiate MWI module.".toList "Failed to intiate presence module.".toList
  assertSucc "Failed to register module mod_subscribe.".toList
    (call env (.pjsip_endpt_register_module .subscribe))
  packageCall env .pjsip_mwi_create_uac .pjsip_pres_create_uac
    "Failed to create MWI UAC.".toList "Failed to create presence UAC.".toList
  packageCall env (.pjsip_mwi_initiate app.cfg.expires) (.pjsip_pres_initiate app.cfg.expires)
    "Failed to initiate MWI request.".toList "Failed to initiate presence request.".toList
  assertSucc "Failed to initiate transaction layer.".toList (call env .pjsip_tsx_layer_init_module)
  packageCall env .pjsip_mwi_send_request .pjsip_pres_send_request
    "Failed to send MWI request.".toList "Failed to send presence request.".toList

/-- The call of the package. -/
def ofPackage (cfg : Cfg) (mwi pres : Call) : Call :=
  if cfg.presEv = .EVTYPE_MWI then mwi else pres

/-- The list of calls. -/
def script (env : Pjsip) (cfg : Cfg) : List Call :=
  transportCalls cfg ++
    [.pjsip_ua_init_module,
      .pjsip_dlg_create_uac (fromHdrOf env cfg) (contactOf env cfg) (ruriOf env cfg)
        (ruriOf env cfg),
      .pjsip_auth_clt_set_credentials (sippakSetCred cfg),
      .pjsip_evsub_init_module,
      ofPackage cfg .pjsip_mwi_init_module .pjsip_pres_init_module,
      .pjsip_endpt_register_module .subscribe,
      ofPackage cfg .pjsip_mwi_create_uac .pjsip_pres_create_uac,
      ofPackage cfg (.pjsip_mwi_initiate cfg.expires) (.pjsip_pres_initiate cfg.expires),
      .pjsip_tsx_layer_init_module,
      ofPackage cfg .pjsip_mwi_send_request .pjsip_pres_send_request]

section Follow

variable {env : Pjsip} {cfg : Cfg} {β : Type} {R : β → App → Prop} {calls : List Call}

/-- `set_sub_evtype` writes the log alone. -/
theorem setSubEvtype_cfg (app : App) : (setSubEvtype app).2.cfg = app.cfg := by
  unfold setSubEvtype
  split <;> rfl

theorem packageCall_follows {mwi pres : Call} {mwiText presText : CStr} :
    Follows env.answer (At cfg) (packageCall env mwi pres mwiText presText)
      [ofPackage cfg mwi pres] fun _ app => At cfg app := by
  refine config fun app hcfg => ?_
  subst hcfg
  unfold ofPackage
  split
  · exact Follows.call.onLeave
  · exact Follows.call.onLeave

/-- The call of the package, and the rest of the list behind it. -/
theorem packaged {mwi pres : Call} {mwiText presText : CStr} {f : Unit → Cmd β}
    (hf : Follows env.answer (At cfg) (f ()) calls R) :
    Follows env.answer (At cfg) (packageCall env mwi pres mwiText presText >>= f)
      (ofPackage cfg mwi pres :: calls) R :=
  Follows.bind (u := [_]) packageCall_follows fun _ => hf

/-- **The command runs through its list of calls.** -/
theorem subscribe_follows :
    Follows env.answer (At cfg) (sippakCmdSubscribe env) (script env cfg) fun _ app =>
      At cfg app := by
  have hev : Follows env.answer (At cfg) (ofExcept fun app => .ok (setSubEvtype app)) []
      fun _ app => At cfg app :=
    Follows.lift fun app ev app' hcfg h => by
      have heq : setSubEvtype app = (ev, app') := Except.ok.inj h
      have hkeep := setSubEvtype_cfg app
      rw [heq] at hkeep
      exact hkeep.trans hcfg
  refine Follows.bind (u := []) hev fun _ => ?_
  refine transport_known (Follows.known createContactHdr_follows ?_)
  refine Follows.known createFromHdr_follows (Follows.known createRuri_follows ?_)
  refine checked (checked (config fun app hcfg => ?_))
  subst hcfg
  refine checked (checked (packaged (checked ?_)))
  exact packaged (packaged (checked packageCall_follows))

end Follow

/-! ## 2. One package -/

/-- The package a call belongs to. -/
def package : Call → Option EvType
  | .pjsip_mwi_init_module | .pjsip_mwi_create_uac | .pjsip_mwi_initiate _
  | .pjsip_mwi_send_request => some .EVTYPE_MWI
  | .pjsip_pres_init_module | .pjsip_pres_create_uac | .pjsip_pres_initiate _
  | .pjsip_pres_send_request => some .EVTYPE_PRES
  | _ => none

/-- The expiration a call asks for. -/
def asksExpires : Call → Option Nat
  | .pjsip_mwi_initiate expires | .pjsip_pres_initiate expires => some expires
  | _ => none

/-- The package a command line asks for: that of `-M`, or of the last `-E`. -/
def linePackage (os : List Opt) : EvType :=
  if (lastArg Opt.mwiArg os).isSome ∨
      (lastArg Opt.eventArg os).map (fun e => eventClass (trim e)) = some .EVTYPE_MWI then
    .EVTYPE_MWI
  else .EVTYPE_PRES

section Package

variable {env : Pjsip} {cfg : Cfg}

/-- The value nothing looks at is the package of every pair of calls. -/
theorem setSubEvtype_package (app : App) :
    (setSubEvtype app).1 =
      if app.cfg.presEv = .EVTYPE_MWI then .EVTYPE_MWI else .EVTYPE_PRES := by
  unfold setSubEvtype
  cases app.cfg.presEv <;> rfl

theorem transportCalls_package (cfg : Cfg) :
    (transportCalls cfg).filterMap package = [] ∧
      (transportCalls cfg).filterMap asksExpires = [] := by
  unfold transportCalls
  split <;> exact ⟨rfl, rfl⟩

/-- The four calls of the list are of one package. -/
theorem script_package (env : Pjsip) (cfg : Cfg) :
    (script env cfg).filterMap package =
      List.replicate 4 (if cfg.presEv = .EVTYPE_MWI then EvType.EVTYPE_MWI else .EVTYPE_PRES) := by
  unfold script ofPackage
  rw [List.filterMap_append, (transportCalls_package cfg).1, List.nil_append]
  split <;> rfl

theorem script_expires (env : Pjsip) (cfg : Cfg) :
    (script env cfg).filterMap asksExpires = [cfg.expires] := by
  unfold script ofPackage
  rw [List.filterMap_append, (transportCalls_package cfg).2, List.nil_append]
  split <;> rfl

/-- Only the last call of the list gives a request to be sent. -/
theorem script_sends (env : Pjsip) (cfg : Cfg) :
    OnlyLast Call.sends (script env cfg)
      (ofPackage cfg .pjsip_mwi_send_request .pjsip_pres_send_request) := by
  have hpair : ∀ mwi pres : Call, mwi.sends = pres.sends →
      (ofPackage cfg mwi pres).sends = pres.sends := by
    intro mwi pres h
    unfold ofPackage
    split
    · exact h
    · rfl
  refine .append (transportCalls_sends cfg) ?_
  refine .cons rfl (.cons rfl (.cons rfl (.cons rfl (.cons (hpair _ _ rfl) (.cons rfl ?_)))))
  refine .cons (hpair _ _ rfl) (.cons (hpair _ _ rfl) (.cons rfl (.last ?_)))
  exact hpair _ _ rfl

end Package

section Line

variable {b : Build} {lib : UriLib} {os : List Opt} {left : List CStr} {app : App}

theorem linePackage_eq (hline : CommandLine b lib os left .subscribe app) :
    (if app.cfg.presEv = .EVTYPE_MWI then EvType.EVTYPE_MWI else .EVTYPE_PRES) =
      linePackage os := by
  rw [(configured_of_line hline).presEv]
  unfold linePackage
  by_cases hmwi : (lastArg Opt.mwiArg os).isSome = true
  · rw [if_pos hmwi, if_pos (Or.inl hmwi)]
    rfl
  · rw [if_neg hmwi]
    cases lastArg Opt.eventArg os with
    | none => simp [hmwi]
    | some e => simp [hmwi]

/-- **One package.** In every environment, each call of the command that belongs to an event
    package belongs to the one the command line asks for, which is what `set_sub_evtype`
    returned; the subscription asks for the last `-X`; and the request is given to pjsip once at
    most, with the last call. -/
theorem subscribe_of_line (hline : CommandLine b lib os left .subscribe app) (env : Pjsip) :
    (setSubEvtype app).1 = linePackage os ∧
    (∀ c ∈ (sippakCmdSubscribe env app []).calls, ∀ ev, package c = some ev →
      ev = linePackage os) ∧
    (∀ c ∈ (sippakCmdSubscribe env app []).calls, ∀ n, asksExpires c = some n →
      n = ((lastArg Opt.expiresArg os).map expiresValue).getD 3600) ∧
    ((sippakCmdSubscribe env app []).calls.filter Call.sends).length ≤ 1 ∧
    ((∃ u, (sippakCmdSubscribe env app []).outcome = .ok u) →
      (sippakCmdSubscribe env app []).calls.filterMap package =
        List.replicate 4 (linePackage os)) := by
  have hrun : Front env.answer (script env app.cfg) _ [] (sippakCmdSubscribe env app []) :=
    subscribe_follows app [] (rfl : At app.cfg app)
  have hpackage := linePackage_eq hline
  obtain ⟨made, hcalls, hpre⟩ := hrun.calls_prefix
  rw [List.nil_append] at hcalls
  refine ⟨(setSubEvtype_package app).trans hpackage, fun c hc ev hev => ?_, fun c hc n hn => ?_,
    (hrun.onlyLast (script_sends env app.cfg)).2.1, fun ⟨u, hu⟩ => ?_⟩
  · have hmem : ev ∈ (script env app.cfg).filterMap package :=
      List.mem_filterMap.mpr ⟨c, hpre.subset (hcalls ▸ hc), hev⟩
    rw [script_package, hpackage] at hmem
    exact List.eq_of_mem_replicate hmem
  · have hmem : n ∈ (script env app.cfg).filterMap asksExpires :=
      List.mem_filterMap.mpr ⟨c, hpre.subset (hcalls ▸ hc), hn⟩
    rw [script_expires, List.mem_singleton] at hmem
    rw [hmem]
    exact (configured_of_line hline).expires
  · obtain ⟨-, -, hscript⟩ := hrun.of_ok hu
    rw [List.nil_append] at hscript
    rw [hscript, script_package, hpackage]

/-- `sippak subscribe -E mwi -X 60 sip:alice@host`. -/
theorem subscribe_mwi : ∃ app,
    CommandLine Build.g711 UriLib.plain [.event "mwi".toList, .expires "60".toList]
        ["subscribe".toList, "sip:alice@host".toList] .subscribe app ∧
      (∀ c ∈ (sippakCmdSubscribe .succeeds app []).calls, ∀ ev, package c = some ev →
        ev = .EVTYPE_MWI) ∧
      (∀ c ∈ (sippakCmdSubscribe .succeeds app []).calls, ∀ n, asksExpires c = some n →
        n = 60) ∧
      (sippakCmdSubscribe .succeeds app []).calls.filterMap package =
        List.replicate 4 .EVTYPE_MWI := by
  obtain ⟨app, hline, hok⟩ : ∃ app,
      CommandLine Build.g711 UriLib.plain [.event "mwi".toList, .expires "60".toList]
        ["subscribe".toList, "sip:alice@host".toList] .subscribe app ∧
      ∃ u, (sippakCmdSubscribe .succeeds app []).outcome = .ok u :=
    ⟨_, ⟨fun _ => (_, _), ["sippak".toList, "subscribe".toList, "-E".toList, "mwi".toList,
      "-X".toList, "60".toList, "sip:alice@host".toList], rfl, rfl, rfl, rfl⟩, ⟨_, rfl⟩⟩
  obtain ⟨-, hpackage, hexpires, -, hall⟩ := subscribe_of_line hline .succeeds
  exact ⟨app, hline, hpackage, hexpires, hall hok⟩

end Line

/-! ## 3. The wait -/

/-- `pjsip_evsub_state`. -/
inductive EvsubState where
  | PJSIP_EVSUB_STATE_NULL | PJSIP_EVSUB_STATE_SENT | PJSIP_EVSUB_STATE_ACCEPTED
  | PJSIP_EVSUB_STATE_PENDING | PJSIP_EVSUB_STATE_ACTIVE | PJSIP_EVSUB_STATE_TERMINATED
  | PJSIP_EVSUB_STATE_UNKNOWN
  deriving DecidableEq, Repr

/-- `sippak_loop_cancel` behind a log line. -/
def stopWith (s : AuthState) (level : Nat) (text : CStr) : AuthState :=
  { s with loopStop := true, log := s.log ++ [⟨level, NAME, text⟩] }

/-- `on_evsub_state`. -/
def onEvsubState (state : EvsubState) (s : AuthState) : AuthState :=
  if state = .PJSIP_EVSUB_STATE_ACTIVE then
    stopWith s 3 "[v] Subscription is activated.".toList
  else if state = .PJSIP_EVSUB_STATE_TERMINATED then
    stopWith s 3 "[x] Subscription is terminated.".toList
  else s

/-- `on_tsx_state`. -/
def onTsxState (statusCode : Nat) (retransmitCount : Int) (s : AuthState) : AuthState :=
  if statusCode = 408 then
    stopWith s 1 ("Response timeout after ".toList ++ showInt retransmitCount ++
      " retransmitions.".toList)
  else s

/-- What pjsip reports; `on_rx_notify` does nothing. -/
inductive Event where
  | rxResponse (r : Response)
  | evsubState (state : EvsubState)
  | tsxState (statusCode : Nat) (retransmitCount : Int)
  | rxNotify

/-- The callback of an event. -/
def handle (s : AuthState) : Event → AuthState
  | .rxResponse r => (onRxResponse r s).2
  | .evsubState state => onEvsubState state s
  | .tsxState statusCode retransmitCount => onTsxState statusCode retransmitCount s
  | .rxNotify => s

/-- A 401 or 407. -/
def Event.challenges : Event → Bool
  | .rxResponse r => isChallenge r.code
  | _ => false

/-- The subscription is active or over, or a transaction timed out. -/
def Event.ends : Event → Bool
  | .evsubState state =>
    state = .PJSIP_EVSUB_STATE_ACTIVE || state = .PJSIP_EVSUB_STATE_TERMINATED
  | .tsxState statusCode _ => statusCode = 408
  | _ => false

/-- What one event does to the counter and to the loop. -/
theorem handle_step (s : AuthState) (e : Event) :
    (handle s e).authTries = (s.authTries + if e.challenges then 1 else 0) ∧
      (handle s e).loopStop =
        (s.loopStop || e.ends || e.challenges && decide (1 < (handle s e).authTries)) := by
  cases e with
  | rxResponse r =>
      refine ⟨counting.tries r s, ?_⟩
      show (onRxResponse r s).2.loopStop =
        (s.loopStop || false || isChallenge r.code && decide (1 < (onRxResponse r s).2.authTries))
      rw [counting.stop, counting.swallow, Bool.or_false]
  | evsubState state =>
      have hno : (Event.evsubState state).challenges = false := rfl
      rw [hno, Bool.false_and, Bool.or_false]
      cases state <;> simp [handle, onEvsubState, stopWith, Event.ends]
  | tsxState statusCode retransmitCount =>
      have hno : (Event.tsxState statusCode retransmitCount).challenges = false := rfl
      rw [hno, Bool.false_and, Bool.or_false]
      by_cases hcode : statusCode = 408 <;>
        simp [handle, onTsxState, stopWith, Event.ends, hcode]
  | rxNotify => simp [handle, Event.challenges, Event.ends]

/-- The counter after any events. -/
theorem foldl_authTries (es : List Event) :
    (es.foldl handle .start).authTries.toNat = es.countP Event.challenges % 2 ^ 16 := by
  induction es using List.reverseRecOn with
  | nil => rfl
  | append_singleton es e ih =>
      rw [List.foldl_append, List.foldl_cons, List.foldl_nil, (handle_step _ e).1,
        UInt16.toNat_add, ih, List.countP_append]
      cases hc : e.challenges with
      | false => simp [hc]
      | true => simp [hc]

/-- Behind the events `es`, the event `e` stops the loop: it ends the wait, or is a challenge that
    is the second or a later one, as far as 16 bits can tell. -/
def StopsAt (es : List Event) (e : Event) : Prop :=
  e.ends = true ∨ e.challenges = true ∧ 1 < (es.countP Event.challenges + 1) % 2 ^ 16

/-- Whether an event stops the loop, by the counter it leaves. -/
theorem stopsAt_iff (es : List Event) (e : Event) :
    StopsAt es e ↔
      (e.ends || e.challenges &&
        decide (1 < (handle (es.foldl handle .start) e).authTries)) = true := by
  have hcount := foldl_authTries (es ++ [e])
  rw [List.foldl_append, List.foldl_cons, List.foldl_nil, List.countP_append] at hcount
  unfold StopsAt
  rw [Bool.or_eq_true, Bool.and_eq_true, decide_eq_true_iff]
  cases hc : e.challenges with
  | false => simp
  | true =>
      have hone : [e].countP Event.challenges = 1 := by simp [hc]
      rw [hone] at hcount
      rw [← hcount, UInt16.lt_iff_toNat_lt]
      rfl

/-- The main loop with these callbacks. -/
def waitLoop : Loop AuthState Event Abort := ⟨fun s e => .ok (handle s e), AuthState.loopStop⟩

theorem waitLoop_handle (es : List Event) :
    waitLoop.handle .start es = .ok (es.foldl handle .start) :=
  Loop.handle_of_total (fun _ _ => rfl) _ es

/-- One event, for the loop. -/
theorem waitLoop_step (es : List Event) (t u : AuthState) (e : Event)
    (ht : waitLoop.handle .start es = .ok t) (hu : waitLoop.react t e = .ok u) :
    waitLoop.stopped u = true ↔ waitLoop.stopped t = true ∨ StopsAt es e := by
  rw [waitLoop_handle] at ht
  cases ht
  cases hu
  show (handle (es.foldl handle .start) e).loopStop = true ↔ _
  rw [(handle_step _ e).2, Bool.or_assoc, Bool.or_eq_true, ← stopsAt_iff]
  rfl

/-- That the counter has 16 bits makes no difference: a second challenge comes before a later one. -/
theorem someStop_iff (es : List Event) :
    SomeStop StopsAt es ↔ (∃ e ∈ es, e.ends = true) ∨ 2 ≤ es.countP Event.challenges := by
  induction es using List.reverseRecOn with
  | nil =>
      refine iff_of_false not_someStop_nil ?_
      simp
  | append_singleton es e ih =>
      have hex : (∃ e' ∈ es ++ [e], e'.ends = true) ↔
          (∃ e' ∈ es, e'.ends = true) ∨ e.ends = true := by
        simp [or_and_right, exists_or]
      rw [someStop_snoc, ih, hex, List.countP_append, List.countP_singleton]
      unfold StopsAt
      cases e.challenges with
      | false =>
          rw [if_neg Bool.false_ne_true, Nat.add_zero]
          simp only [Bool.false_eq_true, false_and, or_false]
          exact or_right_comm
      | true =>
          rw [if_pos rfl]
          generalize es.countP Event.challenges = n
          constructor
          · rintro ((hends | htwo) | hends | ⟨-, hcount⟩)
            · exact Or.inl (Or.inl hends)
            · exact Or.inr (by omega)
            · exact Or.inl (Or.inr hends)
            · exact Or.inr (by omega)
          · rintro ((hends | hends) | htwo)
            · exact Or.inl (Or.inl hends)
            · exact Or.inr (Or.inl hends)
            · rcases Nat.lt_or_ge n 2 with hlt | hge
              · exact Or.inr (Or.inr ⟨rfl, by omega⟩)
              · exact Or.inl (Or.inr hge)

/-- **When the wait is over**: after the events `es`, in whatever order they come, exactly when one
    of them ends it or two of them are challenges. -/
theorem stopped_iff (es : List Event) :
    (es.foldl handle .start).loopStop = true ↔
      (∃ e ∈ es, e.ends = true) ∨ 2 ≤ es.countP Event.challenges := by
  rw [← someStop_iff]
  exact Loop.tells_of_step rfl waitLoop_step es _ (waitLoop_handle es)

end Subscribe
end Sippak
