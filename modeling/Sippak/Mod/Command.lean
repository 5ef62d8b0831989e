/-
  File:      Sippak/Mod/Command.lean
  Subject:   WHAT THE COMMANDS ARE MADE OF: the calls of pjsip they make, `SIPPAK_ASSERT_SUCC`,
             `sippak_transport_init` and the steps they share (sip_helper.c, sippak.h).

  Each `sippak_cmd_*` is a program of `CallTrace`: its state is the application structure, its
  calls are pjsip's (`Call`, with their arguments), and every call may fail, also depending on the
  calls before it (`Pjsip.status`). A command returns the status of the call that failed; it
  ends with a value where it returns `PJ_SUCCESS`.

  * `transportInit_follows` -- the two calls that start the transport;
  * `ofExcept_follows` -- a step that makes no call has the value it has in the configuration.
-/
import Sippak.Lib.CallTrace
import Sippak.MediaSdp
import Sippak.Mod.Publish
import Sippak.RouteSet

namespace Sippak

open CallTrace CStr

/-! ## 1. Requests and calls -/

/-- The methods the program makes requests of itself. -/
inductive Method where
  | OPTIONS | NOTIFY | MESSAGE | REFER
  deriving DecidableEq, Repr

/-- The arguments of `pjsip_endpt_create_request`; Call-ID, CSeq and body are NULL, -1 and NULL
    everywhere. -/
structure RequestArgs where
  method : Method
  target : PjStr
  fromHdr : OutStr
  toHdr : PjStr
  contact : Option PjStr
  deriving DecidableEq, Repr

/-- `pjsip_tx_data`: what the request was created from, and what was added to it. -/
structure TxData where
  args : RequestArgs
  msg : NotifyMsg
  deriving DecidableEq, Repr

/-- What a REGISTER client is asked for. -/
inductive RegcRequest where
  | register | unregister | unregisterAll
  deriving DecidableEq, Repr

/-- The calls of pjsip a command makes, with the arguments that are not constants. -/
inductive Call where
  | pj_sockaddr_in_init (host : PjStr) (port : Nat)
  | pjsip_tcp_transport_start
  | pjsip_udp_transport_start
  | pjsip_tsx_layer_init_module
  | pjsip_endpt_register_module (mod : Handler)
  | pjsip_endpt_create_request (args : RequestArgs)
  | pjsip_endpt_send_request (tdata : TxData)
  | pjsip_regc_create
  | pjsip_regc_init (srvUrl : OutStr) (fromUri : OutStr) (toUri : PjStr) (contacts : List PjStr)
      (expires : Nat)
  | pjsip_regc_set_credentials (cred : CredInfo)
  | pjsip_regc_set_route_set (routes : List RouteHdr)
  | pjsip_regc_unregister_all
  | pjsip_regc_unregister
  | pjsip_regc_register
  | pjsip_regc_send (request : RegcRequest)
  | pjsip_ua_init_module
  | pjsip_dlg_create_uac (localUri : OutStr) (contact remoteUri target : PjStr)
  | pjsip_auth_clt_set_credentials (cred : CredInfo)
  | pjsip_evsub_init_module
  | pjsip_mwi_init_module
  | pjsip_pres_init_module
  | pjsip_mwi_create_uac
  | pjsip_pres_create_uac
  | pjsip_mwi_initiate (expires : Nat)
  | pjsip_pres_initiate (expires : Nat)
  | pjsip_mwi_send_request
  | pjsip_pres_send_request
  | pjsip_publishc_create
  | pjsip_publishc_init (event targetUri : PjStr) (fromUri : OutStr) (toUri : PjStr)
      (expires : Nat)
  | pjsip_publishc_set_route_set (routes : List RouteHdr)
  | pjsip_publishc_set_credentials (cred : CredInfo)
  | pjsip_publishc_publish
  | pjsip_publishc_send (body : Option MsgBody)
  | pjsip_100rel_init_module
  | pjsip_inv_usage_init
  | pjsip_inv_create_uac (sdp : SdpSession)
  | pjsip_dlg_set_route_set (routes : List RouteHdr)
  | pjsip_inv_invite
  | pjsip_inv_send_msg
  deriving DecidableEq, Repr

/-- The status of the call is not looked at. -/
def Call.unchecked : Call → Bool
  | .pjsip_regc_set_route_set _ => true
  | .pjsip_publishc_set_route_set _ => true
  | .pjsip_dlg_set_route_set _ => true
  | _ => false

/-- The call gives a request to pjsip to be sent. -/
def Call.sends : Call → Bool
  | .pjsip_endpt_send_request _ => true
  | .pjsip_regc_send _ => true
  | .pjsip_mwi_send_request => true
  | .pjsip_pres_send_request => true
  | .pjsip_publishc_send _ => true
  | .pjsip_inv_send_msg => true
  | _ => false

/-- pjsip as the commands use it. -/
structure Pjsip where
  uri : UriLib
  simple : SimpleLib
  build : Build
  media : MediaLib
  /-- `pjsip_parse_hdr`, of a Route header. -/
  parseHdr : CStr → CStr → Option RouteHdr
  /-- Host and port of the local end of a transport that was started. -/
  localName : Transport → PjStr × Int
  /-- `pj_sockaddr_print`. -/
  sockaddrPrint : PjStr → Nat → CStr
  /-- What a call returns, behind the calls made before. -/
  status : List Call → Call → PjStatus

/-- `status != PJ_SUCCESS`. -/
def PjStatus.failure : PjStatus → Option PjStatus
  | .PJ_SUCCESS => none
  | status => some status

/-- How a call fails, as far as the code can know: whatever a call returns whose status is not
    looked at, the command goes on behind it. So "all calls succeeded" is said of the others. -/
def Pjsip.answer (env : Pjsip) (calls : List Call) (c : Call) : Option PjStatus :=
  if c.unchecked then none else (env.status calls c).failure

/-- A failure is no success. -/
theorem Pjsip.answer_ne_success {env : Pjsip} {calls : List Call} {c : Call} {status : PjStatus}
    (h : env.answer calls c = some status) : status ≠ .PJ_SUCCESS := by
  unfold Pjsip.answer PjStatus.failure at h
  split at h
  · cases h
  · split at h
    · cases h
    · rename_i hne
      rw [← Option.some.inj h]
      exact hne

/-- An environment in which every call succeeds, on a transport bound to 10.0.0.1:5060. -/
def Pjsip.succeeds : Pjsip where
  uri := .plain
  simple := Notify.failingLib
  build := .g711
  media := .succeeds
  parseHdr := plainRoute
  localName := fun _ => (some "10.0.0.1".toList, 5060)
  sockaddrPrint := fun host port => host.text ++ ':' :: showDec port
  status := fun _ _ => .PJ_SUCCESS

/-! ## 2. Commands -/

/-- How a command ends other than by the failure of one of its calls. -/
inductive Quit where
  /-- The program exits, or does something C gives no meaning to. -/
  | abort (a : Abort)
  /-- It returns a status that one of its own functions gave it. -/
  | returned (status : PjStatus)
  deriving DecidableEq, Repr

/-- A function that makes calls of pjsip. -/
abbrev Cmd := Prog App Call PjStatus Quit

namespace Cmd

variable {α : Type}

/-- The log line behind a status that is no success. -/
def logLeave (sender msg : CStr) : Leave PjStatus Quit → App → App
  | .failed _, app => app.pjLog 1 sender msg
  | .quit (.returned _), app => app.pjLog 1 sender msg
  | .quit (.abort _), app => app

/-- `SIPPAK_ASSERT_SUCC(status, msg)` behind `x`. -/
def assertSucc (msg : CStr) (x : Cmd α) : Cmd α := x.onLeave (logLeave PROJECT_NAME msg)

/-- A call of pjsip. -/
def call (env : Pjsip) (c : Call) : Cmd Unit := Prog.call env.answer c

/-- A function of the program that makes none. -/
def ofExcept (f : App → Except Abort (α × App)) : Cmd α :=
  Prog.lift fun app => (f app).mapError Quit.abort

/-- `sippak_transport_init`: host and port of the transport's local end. -/
def sippakTransportInit (env : Pjsip) : Cmd (PjStr × Int) := do
  let app ← Prog.read
  assertSucc ("Failed to initiate socket ".toList ++ app.cfg.localHost.text ++ ":".toList ++
      showDec app.cfg.localPort ++ ".".toList)
    (call env (.pj_sockaddr_in_init app.cfg.localHost app.cfg.localPort))
  let start : Call :=
    if app.cfg.proto = .PJSIP_TRANSPORT_TCP then .pjsip_tcp_transport_start
    else .pjsip_udp_transport_start
  (call env start).onLeave (logLeave SipHelper.NAME ("Failed to init local address ".toList ++
    env.sockaddrPrint app.cfg.localHost app.cfg.localPort ++ ".".toList))
  return env.localName app.cfg.proto

/-- `sippak_create_from_hdr`. -/
def createFromHdr (env : Pjsip) : Cmd OutStr := ofExcept (sippakCreateFromHdr env.uri)

/-- `sippak_create_ruri`. -/
def createRuri (env : Pjsip) : Cmd PjStr := ofExcept (sippakCreateRuri env.uri)

/-- `sippak_create_reg_ruri`. -/
def createRegRuri (env : Pjsip) : Cmd OutStr := ofExcept (sippakCreateRegRuri env.uri)

/-- `sippak_create_contact_hdr`. -/
def createContactHdr (localName : PjStr × Int) : Cmd PjStr := ofExcept fun app =>
  (sippakCreateContactHdr app localName.1 localName.2).map (·, app)

/-- `if (sippak_set_proxies_list(app, &route_set) == PJ_TRUE)`, and the call with the route set. -/
def setRouteSet (env : Pjsip) (c : List RouteHdr → Call) : Cmd Unit := do
  let app ← Prog.read
  match sippakSetProxiesList env.parseHdr app with
  | some routes => Prog.note (c routes)
  | none => return ()

/-- The calls of `sippak_transport_init`. -/
def transportCalls (cfg : Cfg) : List Call :=
  [.pj_sockaddr_in_init cfg.localHost cfg.localPort,
    if cfg.proto = .PJSIP_TRANSPORT_TCP then .pjsip_tcp_transport_start
    else .pjsip_udp_transport_start]

/-- The call that sets the route set, where the configuration has one. -/
def routeCalls (env : Pjsip) (cfg : Cfg) (c : List RouteHdr → Call) : List Call :=
  ((sippakSetProxiesList env.parseHdr ⟨cfg, []⟩).map c).toList

/-- Neither of the two gives a request to be sent. -/
theorem transportCalls_sends (cfg : Cfg) : (transportCalls cfg).filter Call.sends = [] := by
  unfold transportCalls
  split <;> rfl

theorem routeCalls_sends (env : Pjsip) (cfg : Cfg) {c : List RouteHdr → Call}
    (hc : ∀ routes, (c routes).sends = false) :
    (routeCalls env cfg c).filter Call.sends = [] := by
  unfold routeCalls
  cases sippakSetProxiesList env.parseHdr ⟨cfg, []⟩ with
  | none => rfl
  | some routes => exact List.filter_cons_of_neg (by rw [hc]; exact Bool.false_ne_true)

/-! ## 3. What the steps do -/

/-- The state has this configuration. -/
def At (cfg : Cfg) (app : App) : Prop := app.cfg = cfg

/-- The value a step has in the configuration, where it has one. -/
def valueIn (f : App → Except Abort (α × App)) (dflt : α) (cfg : Cfg) : α :=
  match f ⟨cfg, []⟩ with
  | .ok (a, _) => a
  | .error _ => dflt

/-- What was logged before changes neither the value of the step nor the configuration it
    leaves. -/
def LogFree (f : App → Except Abort (α × App)) : Prop :=
  ∀ app a app', f app = .ok (a, app') → ∃ log, f ⟨app.cfg, []⟩ = .ok (a, ⟨app'.cfg, log⟩)

section Steps

variable {env : Pjsip} {cfg : Cfg} {β : Type} {P : App → Prop} {R : β → App → Prop}
  {script : List Call}

/-- **A step without a call**: it has the value it has in the configuration. -/
theorem ofExcept_follows {f : App → Except Abort (α × App)} (hf : LogFree f) :
    Follows env.answer (At cfg) (ofExcept f) [] fun a app =>
      ∃ log, f ⟨cfg, []⟩ = .ok (a, ⟨app.cfg, log⟩) := by
  refine Follows.lift fun app a app' hcfg h => ?_
  cases hc : f app with
  | error e =>
      rw [hc] at h
      cases h
  | ok v =>
      rw [hc] at h
      cases h
      rw [← hcfg]
      exact hf app a app' hc

/-- The same of a step that keeps the configuration. -/
theorem ofExcept_follows_keep {f : App → Except Abort (α × App)} (dflt : α) (hf : LogFree f)
    (hcfg : ∀ app a app', f app = .ok (a, app') → app'.cfg = app.cfg) :
    Follows env.answer (At cfg) (ofExcept f) [] fun a app =>
      a = valueIn f dflt cfg ∧ At cfg app := by
  refine (ofExcept_follows hf).mono (fun _ h => h) fun a app ⟨log, h⟩ => ?_
  refine ⟨?_, hcfg _ _ _ h⟩
  unfold valueIn
  rw [h]

/-- **A call with its check**, and the rest of the list behind it. -/
theorem checked {c : Call} {msg : CStr} {f : Unit → Cmd β}
    (hf : Follows env.answer P (f ()) script R) :
    Follows env.answer P (assertSucc msg (call env c) >>= f) (c :: script) R :=
  Follows.bind (u := [c]) (Follows.call.onLeave) fun _ => hf

/-- The configuration, where the program reads it. -/
theorem config {f : App → Cmd β}
    (hf : ∀ app, app.cfg = cfg → Follows env.answer (At cfg) (f app) script R) :
    Follows env.answer (At cfg) (Prog.read >>= f) script R :=
  Follows.bind (u := []) Follows.read fun app s h hs => by
    obtain ⟨rfl, hcfg⟩ := hs
    exact hf app hcfg app h hcfg

/-- **The transport**: the address, then UDP or TCP. -/
theorem transportInit_follows :
    Follows env.answer (At cfg) (sippakTransportInit env) (transportCalls cfg) fun a app =>
      a = env.localName cfg.proto ∧ At cfg app := by
  refine config fun app hcfg => ?_
  subst hcfg
  refine checked ?_
  refine Follows.bind (u := [_]) (Follows.call.onLeave) fun _ => ?_
  exact Follows.pure fun _ h => ⟨rfl, h⟩

theorem transport_known {msg : CStr} {f : PjStr × Int → Cmd β}
    (hf : Follows env.answer (At cfg) (f (env.localName cfg.proto)) script R) :
    Follows env.answer (At cfg) (assertSucc msg (sippakTransportInit env) >>= f)
      (transportCalls cfg ++ script) R :=
  Follows.bind transportInit_follows.onLeave fun a app h happ => by
    obtain ⟨rfl, hp⟩ := happ
    exact hf app h hp

theorem setRouteSet_follows {c : List RouteHdr → Call} (hc : ∀ routes, (c routes).unchecked = true) :
    Follows env.answer (At cfg) (setRouteSet env c) (routeCalls env cfg c) fun _ app =>
      At cfg app := by
  refine config fun app hcfg => ?_
  subst hcfg
  have hsame : sippakSetProxiesList env.parseHdr ⟨app.cfg, []⟩ =
      sippakSetProxiesList env.parseHdr app := rfl
  unfold routeCalls
  rw [hsame]
  cases sippakSetProxiesList env.parseHdr app with
  | none => exact Follows.pure fun _ h => h
  | some routes =>
      refine Follows.note fun h => ?_
      unfold Pjsip.answer
      rw [if_pos (hc routes)]

theorem createRuri_logFree (lib : UriLib) : LogFree (sippakCreateRuri lib) := by
  intro app a app' h
  unfold sippakCreateRuri at h ⊢
  dsimp only
  split at h
  · cases h
    exact ⟨_, rfl⟩
  · split at h
    · cases h
    · rename_i uri huri
      rw [huri]
      dsimp only
      split at h
      · cases h
        exact ⟨_, rfl⟩
      · cases h
        exact ⟨_, rfl⟩

theorem createFromHdr_logFree (lib : UriLib) : LogFree (sippakCreateFromHdr lib) := by
  intro app a app' h
  unfold sippakCreateFromHdr at h ⊢
  dsimp only
  split at h
  · cases h
    exact ⟨_, rfl⟩
  · split at h
    · cases h
    · split at h
      · cases h
        exact ⟨_, rfl⟩
      · split at h
        · cases h
          exact ⟨_, rfl⟩
        · cases h
          exact ⟨_, rfl⟩

/-! ## 4. What the builders return -/

/-- The From header of the configuration. -/
def fromHdrOf (env : Pjsip) (cfg : Cfg) : OutStr :=
  valueIn (sippakCreateFromHdr env.uri) .unprinted cfg

/-- The request URI of the configuration. -/
def ruriOf (env : Pjsip) (cfg : Cfg) : PjStr := valueIn (sippakCreateRuri env.uri) none cfg

/-- The request URI of a REGISTER. -/
def regRuriOf (env : Pjsip) (cfg : Cfg) : OutStr :=
  valueIn (sippakCreateRegRuri env.uri) .unprinted cfg

/-- The Contact of the configuration, for the transport that was started. -/
def contactOf (env : Pjsip) (cfg : Cfg) : PjStr :=
  valueIn (fun app => (sippakCreateContactHdr app (env.localName cfg.proto).1
    (env.localName cfg.proto).2).map (·, app)) none cfg

theorem createFromHdr_follows :
    Follows env.answer (At cfg) (createFromHdr env) [] fun a app =>
      a = fromHdrOf env cfg ∧ At cfg app :=
  ofExcept_follows_keep _ (createFromHdr_logFree env.uri)
    fun _ _ _ h => Publish.sippakCreateFromHdr_cfg h

theorem createRuri_follows :
    Follows env.answer (At cfg) (createRuri env) [] fun a app =>
      a = ruriOf env cfg ∧ At cfg app :=
  ofExcept_follows_keep _ (createRuri_logFree env.uri) fun _ _ _ h => Publish.sippakCreateRuri_cfg h

/-- The REGISTER builder parses and prints what the request URI builder returned. -/
theorem createRegRuri_cases {lib : UriLib} {app app' : App} {out : OutStr}
    (h : sippakCreateRegRuri lib app = .ok (out, app')) :
    app'.cfg = app.cfg ∧
      ∃ log, sippakCreateRegRuri lib ⟨app.cfg, []⟩ = .ok (out, ⟨app'.cfg, log⟩) := by
  unfold sippakCreateRegRuri at h ⊢
  cases hr : sippakCreateRuri lib app with
  | error e =>
      rw [hr] at h
      cases h
  | ok v =>
      obtain ⟨ruri, app₁⟩ := v
      obtain ⟨log, hsame⟩ := createRuri_logFree lib app ruri app₁ hr
      rw [hr] at h
      rw [hsame]
      dsimp only at h ⊢
      split at h
      · cases h
      · split at h
        · cases h
        · cases h
          exact ⟨Publish.sippakCreateRuri_cfg hr, _, rfl⟩

theorem createRegRuri_follows :
    Follows env.answer (At cfg) (createRegRuri env) [] fun a app =>
      a = regRuriOf env cfg ∧ At cfg app :=
  ofExcept_follows_keep _ (fun _ _ _ h => (createRegRuri_cases h).2)
    fun _ _ _ h => (createRegRuri_cases h).1

theorem createContactHdr_follows :
    Follows env.answer (At cfg) (createContactHdr (env.localName cfg.proto)) [] fun a app =>
      a = contactOf env cfg ∧ At cfg app := by
  refine ofExcept_follows_keep _ (fun app a app' h => ?_) fun app a app' h => ?_
  · cases hc : sippakCreateContactHdr app (env.localName cfg.proto).1
        (env.localName cfg.proto).2 with
    | error e =>
        rw [hc] at h
        cases h
    | ok p =>
        rw [hc] at h
        cases h
        have hsame : sippakCreateContactHdr ⟨app.cfg, []⟩ (env.localName cfg.proto).1
            (env.localName cfg.proto).2 = .ok a := by
          rw [← hc, contact_cases, contact_cases]
        rw [hsame]
        exact ⟨[], rfl⟩
  · cases hc : sippakCreateContactHdr app (env.localName cfg.proto).1
        (env.localName cfg.proto).2 with
    | error e =>
        rw [hc] at h
        cases h
    | ok p =>
        rw [hc] at h
        cases h
        rfl

end Steps

end Cmd

end Sippak
