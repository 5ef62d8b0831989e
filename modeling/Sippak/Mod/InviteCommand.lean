/-
  File:      Sippak/Mod/InviteCommand.lean
  Subject:   INVITE (invite.c): `sippak_cmd_invite`, with the media set-up in the middle of it, and
             what the session of a command line sends.

  `sippak_set_media_sdp` calls pjmedia and not the library the other calls go to; it is one step of
  the command, which goes on where an SDP was made. The codecs it has registered by then are those
  of the last `--codec`.

  * `registerCodecs_registered` -- a registration that succeeds registers the codecs that are
    stored, one by one or all with one call;
  * `invite_follows` -- the command runs through its list of calls;
  * `invite_of_line` -- **no INVITE without its media**;
  * `session_of_line` -- **what is sent behind the INVITE**, in this order: CANCELs, a BYE.
-/
import Sippak.Line
import Sippak.Mod.Command
import Sippak.Mod.Invite

namespace Sippak

open CallTrace CStr Runs

/-! ## 1. A registration that succeeds -/

section Registered

variable {b : Build} {lib : MediaLib}

/-- The codecs that are registered for a choice. -/
def CodecChoice.registered : CodecChoice → List Codec
  | .refused => []
  | .all => [.SIPPAK_CODEC_ALL]
  | .explicit codecs => codecs

/-- A `case` registers the codec it is for. -/
theorem codecCase_registers {slot : Option Codec} {call : MediaCall} {text : CStr}
    (h : codecCase b slot = some (call, text)) : slot = some call.registers := by
  have hif : ∀ (has : Bool) (c : MediaCall) (name : CStr),
      caseIf has c name = some (call, text) → c = call := by
    intro has c name hc
    unfold caseIf at hc
    split at hc
    · cases hc
      rfl
    · cases hc
  cases slot with
  | none => cases h
  | some codec =>
      cases codec with
      | SIPPAK_CODEC_ALL => cases h
      | _ =>
          unfold codecCase at h
          rw [← hif _ _ _ h]
          rfl

/-- **The loop, where it succeeds**: nothing is logged, and the slots are registered in their
    order, whatever the structure is. -/
theorem setMediaCodecsFrom_success {slots : Vector (Option Codec) NUM_CODECS_AVAIL} {n i : Nat}
    {run run' : MediaRun} (h : setMediaCodecsFrom b lib slots n i run = .ok (.PJ_SUCCESS, run')) :
    run'.app = run.app ∧
      run'.calls.map (fun c => some c.registers) =
        run.calls.map (fun c => some c.registers) ++ (slots.toList.drop i).take n ∧
      ∀ app, setMediaCodecsFrom b lib slots n i { run with app := app } =
        .ok (.PJ_SUCCESS, { run' with app := app }) := by
  induction n generalizing i run with
  | zero =>
      cases h
      exact ⟨rfl, (List.append_nil _).symm, fun _ => rfl⟩
  | succ n ih =>
      rw [setMediaCodecsFrom] at h
      cases hslot : slots[i]? with
      | none =>
          rw [hslot] at h
          cases h
      | some slot =>
          rw [hslot] at h
          dsimp only at h
          cases hcase : codecCase b slot with
          | none =>
              rw [hcase] at h
              cases h
          | some v =>
              obtain ⟨call, text⟩ := v
              rw [hcase] at h
              dsimp only at h
              split at h
              · rename_i hok
                obtain ⟨happ, hcalls, hany⟩ := ih h
                have hi : i < slots.toList.length := by
                  rw [Vector.length_toList]
                  exact (Vector.getElem?_eq_some_iff.mp hslot).1
                have hget : slots.toList[i] = slot := (Vector.getElem?_eq_some_iff.mp hslot).2
                refine ⟨happ, ?_, fun app => ?_⟩
                · rw [hcalls, List.drop_eq_getElem_cons hi, List.take_succ_cons, hget,
                    codecCase_registers hcase]
                  simp [MediaRun.call]
                · rw [setMediaCodecsFrom, hslot]
                  dsimp only
                  rw [hcase]
                  dsimp only
                  rw [if_pos hok]
                  exact hany app
              · rename_i hfail
                injection h with hpair
                injection hpair with hstatus _
                exact absurd hstatus hfail

/-- **A registration that succeeds** registers what is stored, and depends on the configuration
    only. -/
theorem registerCodecs_registered {choice : CodecChoice} {app : App} {run : MediaRun}
    (hstored : choice.Stored app.cfg)
    (hfew : ∀ codecs, choice = .explicit codecs → codecs.length < NUM_CODECS_AVAIL)
    (h : registerCodecs b lib ⟨app, []⟩ = .ok (.PJ_SUCCESS, run)) :
    run.calls.map MediaCall.registers = choice.registered := by
  unfold registerCodecs at h
  cases choice with
  | refused => exact hstored.elim
  | all =>
      have hcnt : app.cfg.media.cnt = NUM_CODECS_AVAIL := hstored
      rw [if_pos hcnt] at h
      injection h with hpair
      injection hpair with _ hrun
      rw [← hrun]
      rfl
  | explicit codecs =>
      obtain ⟨hcnt, hslots⟩ := hstored
      have hne : app.cfg.media.cnt ≠ NUM_CODECS_AVAIL := by
        rw [hcnt]
        exact Nat.ne_of_lt (hfew codecs rfl)
      rw [if_neg hne] at h
      obtain ⟨-, hcalls, -⟩ := setMediaCodecsFrom_success h
      dsimp only at hcalls
      rw [hcnt, List.drop_zero, hslots, List.map_nil, List.nil_append] at hcalls
      have hinj : Function.Injective (some : Codec → Option Codec) := Option.some_injective _
      refine hinj.list_map ?_
      rw [List.map_map]
      exact hcalls

/-- The same step with another log. -/
theorem registerCodecs_success {app : App} {run : MediaRun}
    (h : registerCodecs b lib ⟨app, []⟩ = .ok (.PJ_SUCCESS, run)) :
    run.app = app ∧ ∀ app₂ : App, app₂.cfg = app.cfg →
      registerCodecs b lib ⟨app₂, []⟩ = .ok (.PJ_SUCCESS, { run with app := app₂ }) := by
  unfold registerCodecs at h ⊢
  split at h
  · rename_i hall
    injection h with hpair
    injection hpair with hstatus hrun
    subst hrun
    refine ⟨rfl, fun app₂ hcfg => ?_⟩
    rw [hcfg, if_pos hall, hstatus]
    rfl
  · rename_i hnot
    obtain ⟨happ, -, hany⟩ := setMediaCodecsFrom_success h
    refine ⟨happ, fun app₂ hcfg => ?_⟩
    rw [hcfg, if_neg hnot]
    unfold setMediaCodecs
    rw [hcfg]
    exact hany app₂

/-- Behind a check of `SIPPAK_ASSERT_SUCC` that was passed. -/
theorem check_passed {β : Type} {status : PjStatus} {out v : β}
    {rest : Except Abort (PjStatus × β)}
    (h : (if status ≠ .PJ_SUCCESS then .ok (status, out) else rest) = .ok (.PJ_SUCCESS, v)) :
    status = .PJ_SUCCESS ∧ rest = .ok (.PJ_SUCCESS, v) := by
  by_cases hs : status = .PJ_SUCCESS
  · rw [if_neg (fun hne => hne hs)] at h
    exact ⟨hs, h⟩
  · rw [if_pos hs] at h
    injection h with hpair
    injection hpair with hstatus _
    exact absurd hstatus hs

/-- **Where `sippak_set_media_sdp` succeeds**, there is an SDP, it has the program's name, and
    nothing was logged. -/
theorem sippakSetMediaSdp_success {app : App} {made : Option SdpSession} {run : MediaRun}
    (h : sippakSetMediaSdp b lib app = .ok (.PJ_SUCCESS, made, run)) :
    made = some { lib.endptCreateSdp.2 with name := "sippak".toList } ∧ run.app = app ∧
      ∀ app₂ : App, app₂.cfg = app.cfg →
        sippakSetMediaSdp b lib app₂ = .ok (.PJ_SUCCESS, made, { run with app := app₂ }) := by
  unfold sippakSetMediaSdp at h
  obtain ⟨hcreate, h⟩ := check_passed h
  cases hreg : registerCodecs b lib ⟨app, []⟩ with
  | error a =>
      rw [hreg] at h
      cases h
  | ok v =>
      obtain ⟨status, run₁⟩ := v
      rw [hreg] at h
      dsimp only at h
      obtain ⟨hregister, h⟩ := check_passed h
      rw [hregister] at hreg
      obtain ⟨happ, hany⟩ := registerCodecs_success hreg
      obtain ⟨htransport, h⟩ := check_passed h
      obtain ⟨hinfo, h⟩ := check_passed h
      obtain ⟨hsdp, h⟩ := check_passed h
      cases h
      refine ⟨rfl, happ, fun app₂ hcfg => ?_⟩
      unfold sippakSetMediaSdp
      rw [happ, ← hcfg] at htransport
      simp only [hcreate, hany app₂ hcfg, htransport, hinfo, hsdp, ne_eq, not_true_eq_false,
        if_false]

end Registered

namespace Invite

open Cmd

/-! ## 2. The command -/

/-- How the media set-up ends for the command: an SDP, or a way to leave. -/
def mediaSdp (env : Pjsip) (app : App) : Except Quit SdpSession × App :=
  match sippakSetMediaSdp env.build env.media app with
  | .error a => (.error (.abort a), app)
  | .ok (.PJ_SUCCESS, some sdp, run) => (.ok sdp, run.app)
  | .ok (status, _, run) => (.error (.returned status), run.app)

/-- `sippak_set_media_sdp`, as a step of the command. -/
def setMediaSdp (env : Pjsip) : Cmd SdpSession := Prog.attempt (mediaSdp env)

/-- `sippak_cmd_invite`. What it leaves in `early_cancel` is in `Invite.start`. -/
def sippakCmdInvite (env : Pjsip) : Cmd Unit := do
  let localName ← assertSucc "Failed to initiate transport.".toList (sippakTransportInit env)
  assertSucc "Failed to initiate transaction layer.".toList (call env .pjsip_tsx_layer_init_module)
  assertSucc "Failed to initiate UA module.".toList (call env .pjsip_ua_init_module)
  assertSucc "Failed to initiate 100rel module.".toList (call env .pjsip_100rel_init_module)
  assertSucc "Failed to set invite callback usage functions.".toList
    (call env .pjsip_inv_usage_init)
  assertSucc "Failed to register module mod_invite.".toList
    (call env (.pjsip_endpt_register_module .invite))
  let cnt ← createContactHdr localName
  let fromHdr ← createFromHdr env
  let ruri ← createRuri env
  assertSucc "Failed to create dialog uac.".toList
    (call env (.pjsip_dlg_create_uac fromHdr cnt ruri ruri))
  let app ← Prog.read
  assertSucc "Failed to set auth credentials.".toList
    (call env (.pjsip_auth_clt_set_credentials (sippakSetCred app.cfg)))
  let sdp ← assertSucc "Failed to set media SDP.".toList (setMediaSdp env)
  assertSucc "Failed to create invite UAC.".toList (call env (.pjsip_inv_create_uac sdp))
  setRouteSet env .pjsip_dlg_set_route_set
  assertSucc "Failed to create invite request.".toList (call env .pjsip_inv_invite)
  call env .pjsip_inv_send_msg

/-- The SDP that is made in the configuration, where one is. -/
def sdpOf (env : Pjsip) (cfg : Cfg) : Option SdpSession :=
  match sippakSetMediaSdp env.build env.media ⟨cfg, []⟩ with
  | .ok (.PJ_SUCCESS, made, _) => made
  | _ => none

/-- The calls behind the media set-up. -/
def sessionCalls (env : Pjsip) (cfg : Cfg) (sdp : SdpSession) : List Call :=
  .pjsip_inv_create_uac sdp :: (routeCalls env cfg .pjsip_dlg_set_route_set ++
    [.pjsip_inv_invite, .pjsip_inv_send_msg])

/-- The list of calls; it ends with the credentials where no SDP is made. -/
def script (env : Pjsip) (cfg : Cfg) : List Call :=
  transportCalls cfg ++
    .pjsip_tsx_layer_init_module :: .pjsip_ua_init_module :: .pjsip_100rel_init_module ::
      .pjsip_inv_usage_init :: .pjsip_endpt_register_module .invite ::
      .pjsip_dlg_create_uac (fromHdrOf env cfg) (contactOf env cfg) (ruriOf env cfg)
        (ruriOf env cfg) ::
      .pjsip_auth_clt_set_credentials (sippakSetCred cfg) ::
      ((sdpOf env cfg).map (sessionCalls env cfg)).getD []

section Follow

variable {env : Pjsip} {cfg : Cfg}

theorem mediaSdp_made {app app' : App} {sdp : SdpSession}
    (h : mediaSdp env app = (.ok sdp, app')) :
    ∃ run, sippakSetMediaSdp env.build env.media app = .ok (.PJ_SUCCESS, some sdp, run) ∧
      run.app = app' := by
  unfold mediaSdp at h
  split at h
  · cases h
  · rename_i sdp' run heq
    cases h
    exact ⟨run, heq, rfl⟩
  · cases h

/-- **The media set-up** goes on with the SDP of the configuration. -/
theorem setMediaSdp_follows :
    Follows env.answer (At cfg) (setMediaSdp env) [] fun sdp app =>
      sdpOf env cfg = some sdp ∧ At cfg app := by
  refine Follows.attempt fun app sdp app' hcfg h => ?_
  obtain ⟨run, hmade, happ⟩ := mediaSdp_made h
  obtain ⟨-, hkeep, hany⟩ := sippakSetMediaSdp_success hmade
  refine ⟨?_, ?_⟩
  · unfold sdpOf
    rw [hany ⟨cfg, []⟩ hcfg.symm]
  · rw [← happ, hkeep]
    exact hcfg

/-- **The command runs through its list of calls.** -/
theorem invite_follows :
    Follows env.answer (At cfg) (sippakCmdInvite env) (script env cfg) fun _ app =>
      At cfg app ∧ ∃ sdp, sdpOf env cfg = some sdp := by
  refine transport_known (checked (checked (checked (checked (checked ?_)))))
  refine Follows.known createContactHdr_follows (Follows.known createFromHdr_follows ?_)
  refine Follows.known createRuri_follows (checked (config fun app hcfg => ?_))
  subst hcfg
  refine checked ?_
  refine Follows.bind (u := []) setMediaSdp_follows.onLeave fun sdp => Follows.pull fun hsdp => ?_
  rw [hsdp]
  have hroute : Follows env.answer (At app.cfg) (setRouteSet env .pjsip_dlg_set_route_set)
      (routeCalls env app.cfg .pjsip_dlg_set_route_set) fun _ app' => At app.cfg app' :=
    setRouteSet_follows fun _ => rfl
  refine Follows.mono ?_ (fun _ h => h) fun _ _ h => ⟨h, sdp, rfl⟩
  exact checked (Follows.bind hroute fun _ => checked Follows.call)

end Follow
/-! ## 3. From the command line on -/

section Line

variable {b : Build} {lib : UriLib} {os : List Opt} {left : List CStr} {app : App}

/-- Where an SDP is made, only the last call of the list gives a request to be sent. -/
theorem script_sends {env : Pjsip} {cfg : Cfg} {sdp : SdpSession}
    (hsdp : sdpOf env cfg = some sdp) :
    OnlyLast Call.sends (script env cfg) .pjsip_inv_send_msg := by
  unfold script
  rw [hsdp]
  refine .append (transportCalls_sends cfg) (.cons rfl (.cons rfl (.cons rfl (.cons rfl ?_))))
  refine .cons rfl (.cons rfl (.cons rfl (.cons rfl ?_)))
  exact .append (routeCalls_sends env cfg fun _ => rfl) (.cons rfl (.last rfl))

/-- Where none is made, no call does. -/
theorem script_no_sends {env : Pjsip} {cfg : Cfg} (hsdp : sdpOf env cfg = none) :
    (script env cfg).filter Call.sends = [] := by
  unfold script
  rw [hsdp, List.filter_append, transportCalls_sends]
  rfl

theorem script_onlyEnd (env : Pjsip) (cfg : Cfg) : OnlyEnd Call.sends (script env cfg) := by
  cases hsdp : sdpOf env cfg with
  | none => exact Or.inl (script_no_sends hsdp)
  | some sdp => exact Or.inr ⟨_, script_sends hsdp⟩

/-- An SDP of the configuration is what the set-up makes there. -/
theorem sdpOf_some {env : Pjsip} {sdp : SdpSession} (h : sdpOf env app.cfg = some sdp) :
    ∃ media, sippakSetMediaSdp env.build env.media app =
      .ok (.PJ_SUCCESS, some sdp, ⟨app, media⟩) ∧ sdp.name = "sippak".toList := by
  unfold sdpOf at h
  split at h
  · rename_i made run heq
    subst h
    obtain ⟨hmade, -, hany⟩ := sippakSetMediaSdp_success heq
    cases hmade
    exact ⟨run.calls, hany app rfl, rfl⟩
  · cases h

/-- The codecs a line asks for are less than the array holds. -/
theorem codecsAsked_few {codecs : List Codec} (h : codecsAsked b os = .explicit codecs) :
    codecs.length < NUM_CODECS_AVAIL := by
  unfold codecsAsked at h
  cases hl : lastArg Opt.codecArg os with
  | none =>
      rw [hl] at h
      cases h
      decide
  | some s =>
      rw [hl] at h
      have hchoice : codecChoice b (fields (· == ',') s) = .explicit codecs := h
      obtain ⟨status, app', -, hmet⟩ := sippakSetMediaCodecsCfg_met b s sippakInit
      rw [hchoice] at hmet
      exact hmet.2.2.1

/-- **No INVITE without its media.** In every environment, the one request the command gives to
    pjsip is that of the session, once at most. It does so with its last call, where no call failed
    whose status is looked at (that of `pjsip_dlg_set_route_set` is not), and only where
    `sippak_set_media_sdp` has made an SDP: the session was created with this SDP, and the codecs
    registered for it are those of the last `--codec`, in their order, or all with one call. -/
theorem invite_of_line (hline : CommandLine b lib os left .invite app) (env : Pjsip) :
    ((sippakCmdInvite env app []).calls.filter Call.sends).length ≤ 1 ∧
    (∀ c ∈ (sippakCmdInvite env app []).calls, c.sends = true →
      ∃ before sdp media,
        (sippakCmdInvite env app []).calls = before ++ [.pjsip_inv_send_msg] ∧
        Succeed env.answer [] before ∧
        .pjsip_inv_create_uac sdp ∈ before ∧ sdp.name = "sippak".toList ∧
        sippakSetMediaSdp env.build env.media app = .ok (.PJ_SUCCESS, some sdp, ⟨app, media⟩) ∧
        media.map MediaCall.registers = (codecsAsked b os).registered) := by
  have hrun : Front env.answer (script env app.cfg) _ [] (sippakCmdInvite env app []) :=
    invite_follows app [] (rfl : At app.cfg app)
  obtain ⟨hone, hlast⟩ := hrun.onlyEnd (script_onlyEnd env app.cfg)
  refine ⟨hone, fun c hc hs => ?_⟩
  obtain ⟨hwhole, before, hbefore, -, hall⟩ := hlast c hc hs
  cases hsdp : sdpOf env app.cfg with
  | none =>
      have hmem := List.mem_filter.mpr ⟨hwhole ▸ hc, hs⟩
      rw [script_no_sends hsdp] at hmem
      cases hmem
  | some sdp =>
      obtain ⟨media, hset, hname⟩ := sdpOf_some hsdp
      obtain rfl := (hrun.onlyLast (script_sends hsdp)).1 c hc hs
      refine ⟨before, sdp, media, hwhole.trans hbefore, hall, ?_, hname, hset, ?_⟩
      · have hmem : Call.pjsip_inv_create_uac sdp ∈ script env app.cfg := by
          unfold script sessionCalls
          rw [hsdp]
          simp
        rw [hbefore, List.mem_append, List.mem_singleton] at hmem
        exact hmem.resolve_right fun h => by cases h
      · exact registerCodecs_registered (configured_of_line hline).codecs
          (fun _ h => codecsAsked_few h) (sippakSetMediaSdp_some hset)

/-- `sippak --codec G711 invite sip:alice@host`, where every call succeeds. -/
theorem invite_g711 : ∃ app,
    CommandLine Build.g711 UriLib.plain [.codec "G711".toList]
        ["invite".toList, "sip:alice@host".toList] .invite app ∧
      ∃ (before : List Call) (sdp : SdpSession) (media : List MediaCall),
        (sippakCmdInvite .succeeds app []).calls = before ++ [.pjsip_inv_send_msg] ∧
        .pjsip_inv_create_uac sdp ∈ before ∧
        media.map MediaCall.registers = [.SIPPAK_CODEC_G711] := by
  obtain ⟨app, hline, hsent⟩ : ∃ app, CommandLine Build.g711 UriLib.plain
      [.codec "G711".toList] ["invite".toList, "sip:alice@host".toList] .invite app ∧
      .pjsip_inv_send_msg ∈ (sippakCmdInvite .succeeds app []).calls :=
    ⟨_, ⟨fun _ => (_, _), ["sippak".toList, "--codec".toList, "G711".toList, "invite".toList,
      "sip:alice@host".toList], rfl, rfl, rfl, rfl⟩, by decide⟩
  obtain ⟨before, sdp, media, hcalls, -, hsdp, -, -, hmedia⟩ :=
    (invite_of_line hline .succeeds).2 _ hsent rfl
  exact ⟨app, hline, before, sdp, media, hcalls, hsdp, hmedia⟩

/-! ## 4. The session of a line -/

/-- A 487 that is acknowledged by hand. -/
def Event.acked : Event → Bool
  | .rx r ack => r.code == 487 && ack.status == .PJ_SUCCESS && ack.made
  | .stateChanged _ _ => false

/-- The ACKs are one for each such 487. -/
theorem count_ack (cancel : Bool) (es : List Event) :
    (es.flatMap (Event.sends cancel)).count .ACK = es.countP Event.acked := by
  refine count_sends (fun e => ?_) es
  cases e with
  | rx r ack =>
      rw [Event.sends, Event.acked]
      simp only [Bool.and_eq_true, beq_iff_eq, and_assoc]
      split <;> rfl
  | stateChanged state cause => cases state <;> cases cancel <;> rfl

/-- How many CANCELs the callbacks in EARLY are worth. -/
def cancels (cancel : Bool) (es : List Event) : Nat :=
  es.countP fun e => cancel && e.enters .PJSIP_INV_STATE_EARLY

/-- What an event sends besides an ACK. -/
theorem sends_no_ack (cancel : Bool) (e : Event) :
    (Event.sends cancel e).filter (· != .ACK) =
      (if cancel && e.enters .PJSIP_INV_STATE_EARLY then [.CANCEL] else []) ++
        if e.enters .PJSIP_INV_STATE_CONFIRMED then [.BYE] else [] := by
  cases e with
  | rx r ack =>
      rw [Event.sends, Event.enters, Event.enters, Bool.and_false]
      split <;> rfl
  | stateChanged state cause => cases state <;> cases cancel <;> rfl

/-- **The order**: no CANCEL behind the BYE, since EARLY does not come behind CONFIRMED. -/
theorem sent_order {endSession : EndSession} {cfg : Cfg} (hend : EndsSession endSession)
    {es : List Event} {s : InvSession} (h : InvRun endSession cfg es s) :
    s.sent.filter (· != .ACK) =
      List.replicate (cancels cfg.cancel es) .CANCEL ++
        List.replicate (es.countP (Event.enters .PJSIP_INV_STATE_CONFIRMED)) .BYE := by
  refine Run.keepsHist (P := fun es s => s.sent.filter (· != .ACK) =
    List.replicate (cancels cfg.cancel es) .CANCEL ++
      List.replicate (es.countP (Event.enters .PJSIP_INV_STATE_CONFIRMED)) .BYE) rfl ?_ h
  intro es s e s' hrun hs hstep
  have hbefore := after_of_run hend hrun
  obtain ⟨hreact, hmay⟩ := step_cases hstep
  obtain ⟨log, he⟩ := react_eq hend s e
  rw [hreact] at he
  subst he
  dsimp only
  rw [List.filter_append, hs, hbefore.cancel, sends_no_ack]
  unfold cancels
  rw [List.countP_append, List.countP_append, List.countP_singleton, List.countP_singleton]
  by_cases hearly : e.enters .PJSIP_INV_STATE_EARLY = true
  · -- the session was not confirmed before
    cases e with
    | rx r ack => cases hearly
    | stateChanged state cause =>
        have hstate := beq_iff_eq.mp hearly
        subst hstate
        have hle := (stage_of_mayFollow (hmay _ cause rfl)).1
        have hnone := hbefore.early (Nat.lt_of_le_of_lt hle (by decide))
        have hno : Event.enters .PJSIP_INV_STATE_CONFIRMED
            (.stateChanged .PJSIP_INV_STATE_EARLY cause) = false := rfl
        rw [hnone, hno]
        cases cfg.cancel <;> simp [Event.enters, List.replicate_succ']
  · rw [Bool.not_eq_true] at hearly
    rw [hearly, Bool.and_false]
    cases e.enters .PJSIP_INV_STATE_CONFIRMED <;> simp [List.replicate_succ', List.append_assoc]

/-- **What is sent behind the INVITE** of a command line, in every run of its session: with
    `--cancel` a CANCEL for each callback in EARLY, without it none; then one BYE if the session
    was confirmed, and no CANCEL behind it; an ACK for each 487 that can be acknowledged. The
    wait is over exactly when there was a 487, or the session is disconnected. -/
theorem session_of_line (hline : CommandLine b lib os left .invite app)
    {endSession : EndSession} (hend : EndsSession endSession) {es : List Event} {s : InvSession}
    (h : InvRun endSession app.cfg es s) :
    s.sent.filter (· != .ACK) =
      List.replicate
          (if os.contains .cancel then es.countP (Event.enters .PJSIP_INV_STATE_EARLY) else 0)
          .CANCEL ++
        List.replicate (if es.any (Event.enters .PJSIP_INV_STATE_CONFIRMED) then 1 else 0) .BYE ∧
    s.sent.count .ACK = es.countP Event.acked ∧
    (s.loopStop = true ↔ ∃ e ∈ es, e.stops = true) := by
  have hs := after_of_run hend h
  have hflag : app.cfg.cancel = os.contains .cancel := (configured_of_line hline).flag .cancel
  refine ⟨?_, ?_, ?_⟩
  · rw [sent_order hend h, hflag]
    congr 2
    · unfold cancels
      cases os.contains .cancel <;> simp
    · have honce := hs.confirmed
      split
      · rename_i hany
        have hpos := List.countP_pos_iff.mpr (List.any_eq_true.mp hany)
        omega
      · rename_i hnone
        rw [List.countP_eq_zero]
        exact fun e he henters => hnone (List.any_eq_true.mpr ⟨e, he, henters⟩)
  · rw [hs.sent, count_ack]
  · rw [hs.stop, List.any_eq_true]

/-- `sippak --cancel invite sip:alice@host`, answered all the same: the 200 crosses the CANCEL. -/
theorem session_crossed : ∃ app s,
    CommandLine Build.g711 UriLib.plain [.cancel] ["invite".toList, "sip:alice@host".toList]
        .invite app ∧
      InvRun endSessionUac app.cfg crossed s ∧ s.sent.filter (· != .ACK) = [.CANCEL, .BYE] := by
  obtain ⟨app, s, hline, hrun⟩ : ∃ app s,
      CommandLine Build.g711 UriLib.plain [.cancel]
        ["invite".toList, "sip:alice@host".toList] .invite app ∧
      InvRun endSessionUac app.cfg crossed s :=
    ⟨_, _, ⟨fun _ => (_, _), ["sippak".toList, "--cancel".toList, "invite".toList,
      "sip:alice@host".toList], rfl, rfl, rfl, rfl⟩, Run.of_foldlM rfl⟩
  have hsent := (session_of_line hline endSessionUac_ends hrun).1
  exact ⟨app, s, hline, hrun, hsent⟩

end Line

end Invite
end Sippak
