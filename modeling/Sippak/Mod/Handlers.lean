/-
  File:      Sippak/Mod/Handlers.lean
  Subject:   ALL COMMANDS: what the eight `sippak_cmd_*` have in common.

  They make their calls in different orders and number: MESSAGE has its URIs before its transport,
  PUBLISH registers its module behind everything else, SUBSCRIBE starts the transaction layer just
  in front of the request. What they have in common is what a request needs.

  * `handler_follows` -- each command runs through its list of calls, and where it comes to the
    end of it, the last one gave a request to pjsip;
  * `request_is_last` -- **a request is given last, and only behind what it needs**;
  * `failed_call` -- **a command that fails at a call** made no other that is known to have failed.

  "Succeeded" is said of the calls whose status the code looks at: it does not look at that of the
  three `*_set_route_set` calls (`Call.unchecked`), and a constructor of a body is no call here --
  PUBLISH and NOTIFY may go on behind one that failed.
-/
import Sippak.Mod.InviteCommand
import Sippak.Mod.OneRequest
import Sippak.Mod.PublishCommand
import Sippak.Mod.Register
import Sippak.Mod.Subscribe

namespace Sippak

open CallTrace Cmd

/-! ## 1. The commands and their calls -/

/-- The command of a handler. -/
def Handler.command (env : Pjsip) : Handler → Cmd Unit
  | .ping => Ping.sippakCmdPing env
  | .publish => Publish.cmdPublish env
  | .subscribe => Subscribe.sippakCmdSubscribe env
  | .notify => Notify.sippakCmdNotify env
  | .register => Register.sippakCmdRegister env
  | .refer => Refer.sippakCmdRefer env
  | .message => Message.sippakCmdMessage env
  | .invite => Invite.sippakCmdInvite env

/-- Its list of calls. -/
def Handler.script (env : Pjsip) (cfg : Cfg) : Handler → List Call
  | .ping => RequestMod.ping.script env cfg
  | .publish => Publish.script env cfg
  | .subscribe => Subscribe.script env cfg
  | .notify => RequestMod.notify.script env cfg
  | .register => Register.script env cfg
  | .refer => RequestMod.refer.script env cfg
  | .message => RequestMod.message.script env cfg
  | .invite => Invite.script env cfg

section Follow

variable {env : Pjsip} {cfg : Cfg}

/-- The end of such a list is a request. -/
def EndsSent (env : Pjsip) (cfg : Cfg) (h : Handler) : Prop :=
  ∃ c, OnlyLast Call.sends (h.script env cfg) c

/-- **Each command runs through its list of calls**, and its end is a request. -/
theorem handler_follows (h : Handler) :
    Follows env.answer (At cfg) (h.command env) (h.script env cfg) fun _ _ =>
      EndsSent env cfg h := by
  have hone : ∀ m : RequestMod, Follows env.answer (At cfg) (m.cmd env) (m.script env cfg)
      fun _ _ => ∃ c, OnlyLast Call.sends (m.script env cfg) c := fun m =>
    (oneRequest_follows m).mono (fun _ h => h) fun _ _ _ => ⟨_, script_sends m env cfg⟩
  cases h with
  | ping => exact hone .ping
  | notify => exact hone .notify
  | message => exact hone .message
  | refer => exact hone .refer
  | publish =>
      refine Publish.publish_follows.mono (fun _ h => h) ?_
      rintro _ _ ⟨-, hexpires, body, hbody⟩
      exact ⟨_, Publish.script_sends hexpires hbody⟩
  | subscribe =>
      exact Subscribe.subscribe_follows.mono (fun _ h => h) fun _ _ _ =>
        ⟨_, Subscribe.script_sends env cfg⟩
  | register =>
      exact Register.register_follows.mono (fun _ h => h) fun _ _ _ =>
        ⟨_, Register.script_sends env cfg⟩
  | invite =>
      refine Invite.invite_follows.mono (fun _ h => h) ?_
      rintro _ _ ⟨-, sdp, hsdp⟩
      exact ⟨_, Invite.script_sends hsdp⟩

theorem handler_onlyEnd (env : Pjsip) (cfg : Cfg) (h : Handler) :
    OnlyEnd Call.sends (h.script env cfg) := by
  cases h with
  | ping => exact Or.inr ⟨_, script_sends .ping env cfg⟩
  | notify => exact Or.inr ⟨_, script_sends .notify env cfg⟩
  | message => exact Or.inr ⟨_, script_sends .message env cfg⟩
  | refer => exact Or.inr ⟨_, script_sends .refer env cfg⟩
  | publish => exact Publish.script_onlyEnd env cfg
  | subscribe => exact Or.inr ⟨_, Subscribe.script_sends env cfg⟩
  | register => exact Or.inr ⟨_, Register.script_sends env cfg⟩
  | invite => exact Invite.script_onlyEnd env cfg

end Follow

/-! ## 2. What a request needs -/

/-- The transport is started, the transaction layer too, and the module of the command is
    registered. -/
structure Ready (cfg : Cfg) (h : Handler) (calls : List Call) : Prop where
  transport : ∀ c ∈ transportCalls cfg, c ∈ calls
  tsxLayer : .pjsip_tsx_layer_init_module ∈ calls
  module : .pjsip_endpt_register_module h ∈ calls

section Ready

variable {env : Pjsip} {cfg : Cfg} {h : Handler}

/-- None of these calls is the request. -/
theorem Ready.before {before : List Call} {c : Call} (hr : Ready cfg h (before ++ [c]))
    (hc : c.sends = true) : Ready cfg h before := by
  have hin : ∀ x, x.sends = false → x ∈ before ++ [c] → x ∈ before := by
    intro x hx hmem
    rcases List.mem_append.mp hmem with hm | hm
    · exact hm
    · rw [List.mem_singleton.mp hm, hc] at hx
      cases hx
  refine ⟨fun x hx => hin x ?_ (hr.transport x hx), hin _ rfl hr.tsxLayer, hin _ rfl hr.module⟩
  cases hs : x.sends with
  | false => rfl
  | true =>
      have hmem := List.mem_filter.mpr ⟨hx, hs⟩
      rw [transportCalls_sends] at hmem
      cases hmem

/-- A list of calls with a request in it has what the request needs. -/
theorem script_ready {c : Call} (hc : c ∈ h.script env cfg) (hs : c.sends = true) :
    Ready cfg h (h.script env cfg) := by
  have hone : ∀ m : RequestMod, Ready cfg m.handler (m.script env cfg) := by
    intro m
    refine ⟨fun x hx => List.mem_append_left _ hx, ?_, ?_⟩
    · unfold RequestMod.script
      split <;> simp
    · unfold RequestMod.script
      split <;> simp
  have hmem := List.mem_filter.mpr ⟨hc, hs⟩
  cases h with
  | ping => exact hone .ping
  | notify => exact hone .notify
  | message => exact hone .message
  | refer => exact hone .refer
  | subscribe => exact ⟨fun x hx => List.mem_append_left _ hx, by simp [Handler.script,
      Subscribe.script], by simp [Handler.script, Subscribe.script]⟩
  | register => exact ⟨fun x hx => List.mem_append_left _ hx, by simp [Handler.script,
      Register.script], by simp [Handler.script, Register.script]⟩
  | invite => exact ⟨fun x hx => List.mem_append_left _ hx, by simp [Handler.script,
      Invite.script], by simp [Handler.script, Invite.script]⟩
  | publish =>
      -- without a request the list ends before the transaction layer
      have hlow : ¬ cfg.expires < 1 := fun hlow => by
        rw [Handler.script, Publish.script_no_sends (Or.inl hlow)] at hmem
        cases hmem
      cases hbody : Publish.bodyOf env cfg with
      | error status =>
          rw [Handler.script, Publish.script_no_sends (Or.inr ⟨status, hbody⟩)] at hmem
          cases hmem
      | ok body =>
          unfold Handler.script Publish.script
          rw [if_neg hlow, hbody]
          exact ⟨fun x hx => List.mem_append_left _ hx, by simp [Publish.scriptSend],
            by simp [Publish.scriptSend]⟩

end Ready

/-! ## 3. Every command -/

section Every

variable (h : Handler) (env : Pjsip) (app : App)

/-- A request is the only one and the last call, and what it needs comes before. -/
theorem sent_last {c : Call} (hc : c ∈ (h.command env app []).calls) (hs : c.sends = true) :
    ∃ before, (h.command env app []).calls = before ++ [c] ∧ (∀ x ∈ before, x.sends = false) ∧
      Succeed env.answer [] before ∧ Ready app.cfg h before := by
  have hrun : Front env.answer (h.script env app.cfg) _ [] (h.command env app []) :=
    handler_follows h app [] (rfl : At app.cfg app)
  obtain ⟨hwhole, before, hbefore, hnone, hall⟩ :=
    (hrun.onlyEnd (handler_onlyEnd env app.cfg h)).2 c hc hs
  have hready := script_ready (hwhole ▸ hc) hs
  rw [hbefore] at hready
  refine ⟨before, hwhole.trans hbefore, fun x hx => ?_, hall, hready.before hs⟩
  exact Bool.eq_false_iff.mpr (List.filter_eq_nil_iff.mp hnone x hx)

/-- A command that succeeds has given a request, and no call it looks at has failed. -/
theorem sent_of_ok (hok : ∃ u, (h.command env app []).outcome = .ok u) :
    ∃ c ∈ (h.command env app []).calls, c.sends = true ∧
      Succeed env.answer [] (h.command env app []).calls := by
  have hrun : Front env.answer (h.script env app.cfg) _ [] (h.command env app []) :=
    handler_follows h app [] (rfl : At app.cfg app)
  obtain ⟨u, hu⟩ := hok
  obtain ⟨hall, ⟨c, before, hscript, -, hs⟩, hcalls⟩ := hrun.of_ok hu
  rw [List.nil_append] at hcalls
  refine ⟨c, ?_, hs, ?_⟩
  · rw [hcalls, hscript]
    exact List.mem_append_right _ List.mem_cons_self
  · rw [hcalls]
    exact hall

/-- **A request is given last, and only behind what it needs.** In every environment and from every
    configuration, a command gives pjsip one request at most; this is its last call, all calls
    before it whose status is looked at succeeded, and among them are those that start the
    transport and the transaction layer and register the command's own module. A command that
    succeeds has given one. -/
theorem request_is_last :
    ((h.command env app []).calls.filter Call.sends).length ≤ 1 ∧
    (∀ c ∈ (h.command env app []).calls, c.sends = true →
      ∃ before, (h.command env app []).calls = before ++ [c] ∧ Succeed env.answer [] before ∧
        Ready app.cfg h before) ∧
    ((∃ u, (h.command env app []).outcome = .ok u) →
      ∃ c ∈ (h.command env app []).calls, c.sends = true ∧
        Succeed env.answer [] (h.command env app []).calls) := by
  have hrun : Front env.answer (h.script env app.cfg) _ [] (h.command env app []) :=
    handler_follows h app [] (rfl : At app.cfg app)
  refine ⟨(hrun.onlyEnd (handler_onlyEnd env app.cfg h)).1, fun c hc hs => ?_,
    sent_of_ok h env app⟩
  obtain ⟨before, hcalls, -, hall, hready⟩ := sent_last h env app hc hs
  exact ⟨before, hcalls, hall, hready⟩

/-- **A command that fails at a call** made that call last, and of the calls whose status is looked
    at it is the only one that failed; no request went out before it. -/
theorem failed_call {status : PjStatus}
    (hfail : (h.command env app []).outcome = .error (.failed status)) :
    ∃ before c, (h.command env app []).calls = before ++ [c] ∧ Succeed env.answer [] before ∧
      env.answer before c = some status ∧ status ≠ .PJ_SUCCESS ∧
      ∀ x ∈ before, x.sends = false := by
  have hrun : Front env.answer (h.script env app.cfg) _ [] (h.command env app []) :=
    handler_follows h app [] (rfl : At app.cfg app)
  have hlast := (hrun.onlyEnd (handler_onlyEnd env app.cfg h)).2
  generalize h.command env app [] = r at hrun hlast hfail
  cases hrun with
  | done => cases hfail
  | quit => cases hfail
  | @failed p q c status' s hscript hall hc =>
      cases hfail
      refine ⟨p, c, rfl, hall, hc, Pjsip.answer_ne_success hc, fun x hx => ?_⟩
      cases hs : x.sends with
      | false => rfl
      | true =>
          -- a request is the last call, and the one that failed is behind it
          exfalso
          obtain ⟨hwhole, before, hbefore, hnone, -⟩ := hlast x (List.mem_append_left [c] hx) hs
          have hsame : p ++ [c] = before ++ _ := hwhole.trans hbefore
          obtain ⟨rfl, -⟩ := List.append_inj' hsame rfl
          have hmem := List.mem_filter.mpr ⟨hx, hs⟩
          rw [hnone] at hmem
          cases hmem

end Every

/-- An environment in which every call succeeds but the one that sends. -/
def Pjsip.refuses : Pjsip :=
  { Pjsip.succeeds with status := fun _ c => if c.sends then .PJ_EINVAL else .PJ_SUCCESS }

/-- `sippak refer --to sip:bob@host sip:alice@host`, where the request is refused. -/
theorem failed_send : ∃ app,
    CommandLine Build.g711 UriLib.plain [.referTo "sip:bob@host".toList]
        ["refer".toList, "sip:alice@host".toList] .refer app ∧
      ∃ before c, (Handler.refer.command .refuses app []).calls = before ++ [c] ∧
        c.sends = true ∧ ∀ x ∈ before, x.sends = false := by
  obtain ⟨app, hline, hfail, hsent⟩ : ∃ app, CommandLine Build.g711 UriLib.plain
      [.referTo "sip:bob@host".toList] ["refer".toList, "sip:alice@host".toList] .refer app ∧
      (Handler.refer.command .refuses app []).outcome = .error (.failed .PJ_EINVAL) ∧
      ∀ c, (Handler.refer.command .refuses app []).calls.getLast? = some c → c.sends = true :=
    ⟨_, ⟨fun _ => (_, _), ["sippak".toList, "refer".toList, "--to".toList,
      "sip:bob@host".toList, "sip:alice@host".toList], rfl, rfl, rfl, rfl⟩, rfl,
      fun c hc => by cases hc; rfl⟩
  obtain ⟨before, c, hcalls, -, -, -, hbefore⟩ := failed_call .refer .refuses app hfail
  refine ⟨app, hline, before, c, hcalls, hsent c ?_, hbefore⟩
  rw [hcalls, List.getLast?_concat]

/-! ## 4. The status of a command that fails -/

section Leaves

variable {env : Pjsip}

end Leaves

end Sippak
