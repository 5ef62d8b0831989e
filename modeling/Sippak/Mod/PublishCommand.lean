/-
  File:      Sippak/Mod/PublishCommand.lean
  Subject:   PUBLISH (publish.c): `sippak_cmd_publish` with its calls, and what ends the wait.

  The command exits in front of its first call where the expiration is 0, and leaves in the middle
  where the body of the content type cannot be made; only the fallback to pidf is not looked at,
  so that the request may go out without a body. Behind the command, `publish_cb` ends the wait
  at once, `on_rx_response` at a challenge that is not among the first responses.

  * `publish_follows` -- the command runs through its list of calls;
  * `publish_of_line` -- **what is sent, from the command line on**, and when nothing is;
  * `publish_stopped_iff` -- when the wait is over, for every order of events.
-/
import Sippak.Lib.PollLoop
import Sippak.Line
import Sippak.Mod.Command
import Sippak.Mod.GiveUp

namespace Sippak

open CallTrace CStr PollLoop

namespace Publish

open Cmd

/-! ## 1. The command -/

/-- The chain on `ctype_e`, as a step of the command: it leaves with the status of a constructor
    that is looked at. -/
def bodyStep (env : Pjsip) (presId : PjStr) : Cmd (Option MsgBody) :=
  Prog.attempt fun app =>
    ((addBody env.simple presId app).1.mapError Quit.returned, (addBody env.simple presId app).2)

/-- `sippak_cmd_publish`, with its calls. -/
def cmdPublish (env : Pjsip) : Cmd Unit := do
  let app ← Prog.read
  if app.cfg.expires < 1 then
    Prog.quit (.abort (.exit .PJ_CLI_EINVARG
      ⟨1, PROJECT_NAME, "Expires header value must be more then 0.".toList⟩))
  else
    let localName ← assertSucc "Failed to initiate transport.".toList (sippakTransportInit env)
    let targetUri ← createRuri env
    let fromUri ← createFromHdr env
    let presId ← createContactHdr localName
    assertSucc "Failed to create publish client.".toList (call env .pjsip_publishc_create)
    assertSucc "Failed to initiate publish client.".toList
      (call env (.pjsip_publishc_init (event app.cfg) targetUri fromUri targetUri app.cfg.expires))
    setRouteSet env .pjsip_publishc_set_route_set
    assertSucc "Failed to set auth credentials.".toList
      (call env (.pjsip_publishc_set_credentials (sippakSetCred app.cfg)))
    assertSucc "Failed to create publish client.".toList (call env .pjsip_publishc_publish)
    let body ← bodyStep env presId
    assertSucc "Failed to initiate transaction layer.".toList
      (call env .pjsip_tsx_layer_init_module)
    assertSucc "Failed to register module mod_publish.".toList
      (call env (.pjsip_endpt_register_module .publish))
    call env (.pjsip_publishc_send body)

/-- The body of the configuration, or the status of its constructor. -/
def bodyOf (env : Pjsip) (cfg : Cfg) : Except PjStatus (Option MsgBody) :=
  (addBody env.simple (contactOf env cfg) ⟨cfg, []⟩).1

/-- The calls behind the body. -/
def scriptSend : Except PjStatus (Option MsgBody) → List Call
  | .error _ => []
  | .ok body =>
    [.pjsip_tsx_layer_init_module, .pjsip_endpt_register_module .publish,
      .pjsip_publishc_send body]

/-- The list of calls. -/
def script (env : Pjsip) (cfg : Cfg) : List Call :=
  if cfg.expires < 1 then []
  else
    transportCalls cfg ++
      .pjsip_publishc_create ::
      .pjsip_publishc_init (event cfg) (ruriOf env cfg) (fromHdrOf env cfg) (ruriOf env cfg)
        cfg.expires ::
      (routeCalls env cfg .pjsip_publishc_set_route_set ++
        .pjsip_publishc_set_credentials (sippakSetCred cfg) :: .pjsip_publishc_publish ::
        scriptSend (bodyOf env cfg))

section Follow

variable {env : Pjsip} {cfg : Cfg}

/-- What was logged does not change the body. -/
theorem addBody_log (lib : SimpleLib) (presId : PjStr) (app : App) :
    (addBody lib presId app).1 = (addBody lib presId ⟨app.cfg, []⟩).1 := by
  unfold addBody
  cases app.cfg.ctypeE with
  | CTYPE_XPIDF => cases lib.presCreateXpidf (presStatus app.cfg presId) presId <;> rfl
  | CTYPE_PIDF => cases lib.presCreatePidf (presStatus app.cfg presId) presId <;> rfl
  | CTYPE_UNKNOWN | CTYPE_MWI | CTYPE_OTHER => rfl

theorem bodyStep_follows :
    Follows env.answer (At cfg) (bodyStep env (contactOf env cfg)) [] fun body app =>
      bodyOf env cfg = .ok body ∧ At cfg app := by
  refine Follows.attempt fun app body app' hcfg h => ?_
  have hvalue : (addBody env.simple (contactOf env cfg) app).1.mapError Quit.returned = .ok body :=
    congrArg Prod.fst h
  have hstate : (addBody env.simple (contactOf env cfg) app).2 = app' := congrArg Prod.snd h
  refine ⟨?_, ?_⟩
  · unfold bodyOf
    rw [addBody_log, hcfg] at hvalue
    cases hb : (addBody env.simple (contactOf env cfg) ⟨cfg, []⟩).1 with
    | error status =>
        rw [hb] at hvalue
        cases hvalue
    | ok body' =>
        rw [hb] at hvalue
        cases hvalue
        rfl
  · rw [← hstate]
    exact (addBody_cfg _ _ _).trans hcfg

/-- **The command runs through its list of calls.** -/
theorem publish_follows :
    Follows env.answer (At cfg) (cmdPublish env) (script env cfg) fun _ app =>
      At cfg app ∧ ¬ cfg.expires < 1 ∧ ∃ body, bodyOf env cfg = .ok body := by
  refine config fun app hcfg => ?_
  subst hcfg
  unfold script
  by_cases hexpires : app.cfg.expires < 1
  · rw [if_pos hexpires, if_pos hexpires]
    exact Follows.quit
  · rw [if_neg hexpires, if_neg hexpires]
    refine transport_known (Follows.known createRuri_follows ?_)
    refine Follows.known createFromHdr_follows (Follows.known createContactHdr_follows ?_)
    refine checked (checked ?_)
    refine Follows.bind (setRouteSet_follows fun _ => rfl) fun _ => checked (checked ?_)
    refine Follows.bind (u := []) bodyStep_follows fun body => Follows.pull fun hbody => ?_
    rw [hbody]
    refine Follows.mono ?_ (fun _ h => h) fun _ _ h => ⟨h, hexpires, body, rfl⟩
    exact checked (checked Follows.call)

end Follow

/-! ## 2. From the command line on -/

/-- The class of the content that a command line asks for. -/
def lineClass (os : List Opt) : CType :=
  if (lastArg Opt.mwiArg os).isSome then .CTYPE_MWI
  else ((lastArg Opt.contentTypeArg os).map fun t => (setContentType t sippakInit).cfg.ctypeE).getD
    .CTYPE_UNKNOWN

/-- The presence of a command line. -/
def linePresence (os : List Opt) (presId : PjStr) : PresStatus :=
  let isOpen :=
    ((lastArg Opt.presStatusArg os).map fun t => !startsIgnoreCase t "closed".toList).getD true
  ⟨isOpen, presId, ((lastArg Opt.presNoteArg os).map noteValue).getD none,
    if isOpen then .PJRPID_ACTIVITY_UNKNOWN else .PJRPID_ACTIVITY_BUSY⟩

/-- The event of a command line. -/
def lineEvent (os : List Opt) : PjStr :=
  if PjStr.slen ((lastArg Opt.eventArg os).map trim) = 0 then some "presence".toList
  else (lastArg Opt.eventArg os).map trim

/-- The expiration of a command line. -/
def lineExpires (os : List Opt) : Nat :=
  ((lastArg Opt.expiresArg os).map expiresValue).getD 3600

/-- **The body a request is sent with**: what the constructor of the class makes of the presence;
    with a class of neither kind pidf, or no body where that cannot be made. -/
structure SentBody (env : Pjsip) (os : List Opt) (presId : PjStr) (body : Option MsgBody) :
    Prop where
  xpidf : lineClass os = .CTYPE_XPIDF →
    ∃ b, env.simple.presCreateXpidf (linePresence os presId) presId = .ok b ∧ body = some b
  pidf : lineClass os = .CTYPE_PIDF →
    ∃ b, env.simple.presCreatePidf (linePresence os presId) presId = .ok b ∧ body = some b
  fallback : lineClass os ≠ .CTYPE_XPIDF → lineClass os ≠ .CTYPE_PIDF →
    body = (env.simple.presCreatePidf (linePresence os presId) presId).toOption

section Line

variable {b : Build} {lib : UriLib} {os : List Opt} {left : List CStr} {app : App}

/-- What the line says about the fields PUBLISH reads. -/
theorem fields_of_line (hline : CommandLine b lib os left .publish app) (presId : PjStr) :
    app.cfg.ctypeE = lineClass os ∧ presStatus app.cfg presId = linePresence os presId ∧
      event app.cfg = lineEvent os ∧ app.cfg.expires = lineExpires os := by
  have hcfg := configured_of_line hline
  have hclass : app.cfg.ctypePart.2 = lineClass os := by
    rw [hcfg.ctype]
    unfold lineClass
    split
    · rfl
    · cases lastArg Opt.contentTypeArg os <;> rfl
  refine ⟨hclass, ?_, ?_, hcfg.expires⟩
  · unfold presStatus linePresence
    rw [hcfg.presStatusOpen, hcfg.presNote]
  · unfold event lineEvent
    rw [hcfg.event]

/-- A body that was made is the one the line asks for. -/
theorem sentBody_of_line (hline : CommandLine b lib os left .publish app) {env : Pjsip}
    {body : Option MsgBody} (hbody : bodyOf env app.cfg = .ok body) :
    SentBody env os (contactOf env app.cfg) body := by
  obtain ⟨hclass, hpresence, -, -⟩ := fields_of_line hline (contactOf env app.cfg)
  unfold bodyOf addBody at hbody
  dsimp only at hbody
  rw [hclass, hpresence] at hbody
  refine ⟨fun h => ?_, fun h => ?_, fun hx hp => ?_⟩
  · rw [h] at hbody
    dsimp only at hbody
    split at hbody
    · cases hbody
    · rename_i b' hmade
      cases hbody
      exact ⟨b', hmade, rfl⟩
  · rw [h] at hbody
    dsimp only at hbody
    split at hbody
    · cases hbody
    · rename_i b' hmade
      cases hbody
      exact ⟨b', hmade, rfl⟩
  · split at hbody
    · rename_i h
      exact absurd h hx
    · rename_i h
      exact absurd h hp
    · cases hbody
      rfl

/-- The requests of the list. -/
theorem script_sends {env : Pjsip} {cfg : Cfg} (hexpires : ¬ cfg.expires < 1)
    {body : Option MsgBody} (hbody : bodyOf env cfg = .ok body) :
    OnlyLast Call.sends (script env cfg) (.pjsip_publishc_send body) := by
  unfold script
  rw [if_neg hexpires, hbody]
  refine .append (transportCalls_sends cfg) (.cons rfl (.cons rfl ?_))
  refine .append (routeCalls_sends env cfg fun _ => rfl) (.cons rfl (.cons rfl ?_))
  exact .cons rfl (.cons rfl (.last rfl))

theorem script_no_sends {env : Pjsip} {cfg : Cfg}
    (h : cfg.expires < 1 ∨ ∃ status, bodyOf env cfg = .error status) :
    (script env cfg).filter Call.sends = [] := by
  unfold script
  rcases h with h | ⟨status, h⟩
  · rw [if_pos h]
    rfl
  · split
    · rfl
    · rw [h, List.filter_append, transportCalls_sends, List.nil_append]
      show (routeCalls env cfg .pjsip_publishc_set_route_set ++ _).filter Call.sends = []
      rw [List.filter_append, routeCalls_sends env cfg fun _ => rfl]
      rfl

theorem script_onlyEnd (env : Pjsip) (cfg : Cfg) : OnlyEnd Call.sends (script env cfg) := by
  by_cases hlow : cfg.expires < 1
  · exact Or.inl (script_no_sends (Or.inl hlow))
  · cases hbody : bodyOf env cfg with
    | error status => exact Or.inl (script_no_sends (Or.inr ⟨status, hbody⟩))
    | ok body => exact Or.inr ⟨_, script_sends hlow hbody⟩

/-- An expiration of 0 ends the program in front of the first call. -/
theorem cmdPublish_expired (env : Pjsip) {app : App} (h : app.cfg.expires < 1)
    (calls : List Call) :
    cmdPublish env app calls =
      ⟨.error (.quit (.abort (.exit .PJ_CLI_EINVARG
        ⟨1, PROJECT_NAME, "Expires header value must be more then 0.".toList⟩))), app, calls⟩ := by
  show (if app.cfg.expires < 1 then _ else _ : Cmd Unit) app calls = _
  rw [if_pos h]
  rfl

/-- What the client is set up with. -/
theorem script_init {env : Pjsip} {cfg : Cfg} {ev targetUri toUri : PjStr} {fromUri : OutStr}
    {expires : Nat}
    (h : .pjsip_publishc_init ev targetUri fromUri toUri expires ∈ script env cfg) :
    ev = event cfg ∧ targetUri = toUri ∧ expires = cfg.expires ∧ 1 ≤ cfg.expires := by
  have htransport : .pjsip_publishc_init ev targetUri fromUri toUri expires ∉
      transportCalls cfg := by
    unfold transportCalls
    split <;> simp
  have hroute : .pjsip_publishc_init ev targetUri fromUri toUri expires ∉
      routeCalls env cfg .pjsip_publishc_set_route_set := by
    unfold routeCalls
    cases sippakSetProxiesList env.parseHdr ⟨cfg, []⟩ <;> simp
  have hsend : .pjsip_publishc_init ev targetUri fromUri toUri expires ∉
      scriptSend (bodyOf env cfg) := by
    unfold scriptSend
    cases bodyOf env cfg <;> simp
  unfold script at h
  split at h
  · cases h
  · rename_i hexpires
    simp only [List.mem_append, List.mem_cons, htransport, hroute, hsend, or_false, false_or,
      reduceCtorEq, Call.pjsip_publishc_init.injEq] at h
    obtain ⟨rfl, rfl, -, rfl, rfl⟩ := h
    exact ⟨rfl, rfl, rfl, Nat.le_of_not_lt hexpires⟩

/-- **What PUBLISH sends, from the command line on.** In every environment, a request that is given
    to pjsip has the body the line asks for, so none only where the fallback to pidf failed; it
    is given once at most; the client was set up with the event of the line and an expiration
    above 0; and `-X 0` ends the program without a call. -/
theorem publish_of_line (hline : CommandLine b lib os left .publish app) (env : Pjsip) :
    (∀ c ∈ (cmdPublish env app []).calls, c.sends = true →
      ∃ body, c = .pjsip_publishc_send body ∧
        SentBody env os (contactOf env app.cfg) body) ∧
    ((cmdPublish env app []).calls.filter Call.sends).length ≤ 1 ∧
    (∀ ev targetUri fromUri toUri expires,
      .pjsip_publishc_init ev targetUri fromUri toUri expires ∈ (cmdPublish env app []).calls →
      ev = lineEvent os ∧ targetUri = toUri ∧ expires = lineExpires os ∧ 1 ≤ expires) ∧
    (lineExpires os = 0 → (cmdPublish env app []).calls = [] ∧
      ∃ line, (cmdPublish env app []).outcome =
        .error (.quit (.abort (.exit .PJ_CLI_EINVARG line)))) := by
  have hrun : Front env.answer (script env app.cfg) _ [] (cmdPublish env app []) :=
    publish_follows app [] (rfl : At app.cfg app)
  obtain ⟨-, -, hevent, hexpires⟩ := fields_of_line hline (contactOf env app.cfg)
  obtain ⟨made, hcalls, hpre⟩ := hrun.calls_prefix
  rw [List.nil_append] at hcalls
  have hsub : ∀ c ∈ (cmdPublish env app []).calls, c ∈ script env app.cfg :=
    fun c hc => hpre.subset (hcalls ▸ hc)
  refine ⟨fun c hc hs => ?_, ?_, fun ev targetUri fromUri toUri expires hc => ?_, fun hzero => ?_⟩
  · have hin : c ∈ (script env app.cfg).filter Call.sends := List.mem_filter.mpr ⟨hsub c hc, hs⟩
    by_cases hlow : app.cfg.expires < 1
    · rw [script_no_sends (Or.inl hlow)] at hin
      cases hin
    · cases hbody : bodyOf env app.cfg with
      | error status =>
          rw [script_no_sends (Or.inr ⟨status, hbody⟩)] at hin
          cases hin
      | ok body =>
          have hlast := (hrun.onlyLast (script_sends hlow hbody)).1 c hc hs
          exact ⟨body, hlast, sentBody_of_line hline hbody⟩
  · exact (hrun.onlyEnd (script_onlyEnd env app.cfg)).1
  · obtain ⟨rfl, rfl, rfl, hle⟩ := script_init (hsub _ hc)
    exact ⟨hevent, rfl, hexpires, hle⟩
  · have hlow : app.cfg.expires < 1 := by
      rw [hexpires, hzero]
      exact Nat.zero_lt_one
    rw [cmdPublish_expired env hlow]
    exact ⟨rfl, _, rfl⟩

/-- `sippak publish -E dialog -C text/plain -X 60 sip:alice@host`, where no body can be made: the
    request goes out without one. -/
theorem publish_fallback : ∃ app,
    CommandLine Build.g711 UriLib.plain
        [.event "dialog".toList, .contentType "text/plain".toList, .expires "60".toList]
        ["publish".toList, "sip:alice@host".toList] .publish app ∧
      .pjsip_publishc_send none ∈ (cmdPublish .succeeds app []).calls ∧
      (∀ c ∈ (cmdPublish .succeeds app []).calls, c.sends = true →
        ∃ body, c = .pjsip_publishc_send body ∧
          SentBody .succeeds
            [.event "dialog".toList, .contentType "text/plain".toList, .expires "60".toList]
            (contactOf .succeeds app.cfg) body) ∧
      ∀ ev targetUri fromUri toUri expires,
        .pjsip_publishc_init ev targetUri fromUri toUri expires ∈
          (cmdPublish .succeeds app []).calls →
        ev = some "dialog".toList ∧ expires = 60 := by
  obtain ⟨app, hline, hmem⟩ : ∃ app, CommandLine Build.g711 UriLib.plain
      [.event "dialog".toList, .contentType "text/plain".toList, .expires "60".toList]
      ["publish".toList, "sip:alice@host".toList] .publish app ∧
      Call.pjsip_publishc_send none ∈ (cmdPublish .succeeds app []).calls :=
    ⟨_, ⟨fun _ => (_, _), ["sippak".toList, "publish".toList, "-E".toList, "dialog".toList,
      "-C".toList, "text/plain".toList, "-X".toList, "60".toList, "sip:alice@host".toList], rfl,
      rfl, rfl, rfl⟩, List.mem_of_getElem? (i := 8) rfl⟩
  obtain ⟨hsent, -, hinit, -⟩ := publish_of_line hline .succeeds
  refine ⟨app, hline, hmem, hsent, fun ev targetUri fromUri toUri expires hc => ?_⟩
  obtain ⟨hev, -, hexpires, -⟩ := hinit ev targetUri fromUri toUri expires hc
  exact ⟨hev, hexpires⟩

end Line

/-! ## 3. The wait -/

/-- `publish_cb`. -/
def publishCb (code : Nat) (reason : CStr) (s : AuthState) : AuthState :=
  { s with
    loopStop := true
    log := s.log ++ [⟨3, NAME, "Response received: ".toList ++ showNat code ++ " ".toList ++
      reason⟩] }

/-- What pjsip reports. -/
inductive Event where
  | rxResponse (r : Response)
  | publish (code : Nat) (reason : CStr)

/-- The callback of an event. -/
def handle (s : AuthState) : Event → AuthState
  | .rxResponse r => (onRxResponse .PJSIP_RESPONSE_MSG r s).2
  | .publish code reason => publishCb code reason s

def Event.isResponse : Event → Bool
  | .rxResponse _ => true
  | .publish .. => false

def Event.challenges : Event → Bool
  | .rxResponse r => isChallenge r.code
  | .publish .. => false

/-- Behind the events `es`, the event `e` stops the loop: it is the client's callback, or a
    challenge that is the second or a later response, as far as 16 bits can tell. -/
def StopsAt (es : List Event) (e : Event) : Prop :=
  e.isResponse = false ∨
    e.challenges = true ∧ 1 < (es.countP Event.isResponse + 1) % 2 ^ 16

/-- What one event does to the counter and to the loop. -/
theorem handle_step (s : AuthState) (e : Event) :
    (handle s e).authTries = (s.authTries + if e.isResponse then 1 else 0) ∧
      (handle s e).loopStop =
        (s.loopStop || !e.isResponse || e.challenges && decide (1 < (handle s e).authTries)) := by
  cases e with
  | rxResponse r =>
      refine ⟨counting.tries r s, ?_⟩
      have hstop := counting.stop r s
      rw [counting.swallow] at hstop
      show (onRxResponse .PJSIP_RESPONSE_MSG r s).2.loopStop = (s.loopStop || false || _)
      rw [hstop, Bool.or_false]
      rfl
  | publish code reason =>
      refine ⟨(UInt16.add_zero _).symm, ?_⟩
      show true = (s.loopStop || true || _)
      rw [Bool.or_true, Bool.true_or]

/-- The counter after any events. -/
theorem foldl_authTries (es : List Event) :
    (es.foldl handle .start).authTries.toNat = es.countP Event.isResponse % 2 ^ 16 := by
  induction es using List.reverseRecOn with
  | nil => rfl
  | append_singleton es e ih =>
      rw [List.foldl_append, List.foldl_cons, List.foldl_nil, (handle_step _ e).1,
        UInt16.toNat_add, ih, List.countP_append]
      cases hc : e.isResponse with
      | false => simp [hc]
      | true => simp [hc]

/-- Whether an event stops the loop, by the counter it leaves. -/
theorem stopsAt_iff (es : List Event) (e : Event) :
    StopsAt es e ↔
      (!e.isResponse || e.challenges &&
        decide (1 < (handle (es.foldl handle .start) e).authTries)) = true := by
  have hcount := foldl_authTries (es ++ [e])
  rw [List.foldl_append, List.foldl_cons, List.foldl_nil, List.countP_append] at hcount
  unfold StopsAt
  cases hr : e.isResponse with
  | false => simp
  | true =>
      have hone : [e].countP Event.isResponse = 1 := by simp [hr]
      rw [hone] at hcount
      rw [← hcount, Bool.not_true, Bool.false_or, Bool.and_eq_true, decide_eq_true_iff,
        UInt16.lt_iff_toNat_lt]
      simp

/-- The main loop with these callbacks. -/
def waitLoop : Loop AuthState Event Abort := ⟨fun s e => .ok (handle s e), AuthState.loopStop⟩

theorem waitLoop_handle (es : List Event) :
    waitLoop.handle .start es = .ok (es.foldl handle .start) :=
  Loop.handle_of_total (fun _ _ => rfl) _ es

/-- One event, for the loop. -/
theorem waitLoop_step (es : List Event) (t u : AuthState) (e : Event)
    (ht : waitLoop.handle .start es = .ok t) (hu : waitLoop.react t e = .ok u) :
    waitLoop.stopped u = true ↔ waitLoop.stopped t = true ∨ StopsAt es e := by
  rw [waitLoop_handle] at ht
  cases ht
  cases hu
  show (handle (es.foldl handle .start) e).loopStop = true ↔ _
  rw [(handle_step _ e).2, Bool.or_assoc, Bool.or_eq_true, ← stopsAt_iff]
  rfl

/-- **When the wait is over**: exactly when the client's callback has come, or a challenge that was
    not the first response by the 16 bits of the counter. -/
theorem publish_stopped_iff (es : List Event) :
    (es.foldl handle .start).loopStop = true ↔ SomeStop StopsAt es :=
  Loop.tells_of_step rfl waitLoop_step es _ (waitLoop_handle es)

end Publish

end Sippak
