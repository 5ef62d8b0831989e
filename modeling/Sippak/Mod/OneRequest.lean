/-
  File:      Sippak/Mod/OneRequest.lean
  Subject:   THE FOUR COMMANDS THAT SEND ONE REQUEST OF THEIR OWN (ping.c, notify.c, message.c,
             refer.c): `sippak_cmd_*` and what they add to the request.

  The four commands make the same calls. PING, NOTIFY and MESSAGE create the request first and
  register their module then, REFER the other way round; MESSAGE builds its URIs in front of the
  transport, and has no Contact.

  * `oneRequest_follows` -- each command runs through its list of calls, up to the first failure;
  * `lineContact` -- the Contact of a line, and when it fits;
  * `oneRequest_of_line` -- **what is sent, from the command line on** (`Asked`).
-/
import Sippak.Mod.Command
import Sippak.Mod.NotifyAsked

namespace Sippak

open CallTrace CStr Cmd

/-! ## 1. What is added to the request -/

namespace Message

def NAME : CStr := RequestMod.NAME .message
def MSG_BODY_LEN : Nat := 128

/-- `add_accept_hdr`. -/
def addAcceptHdr (msg : NotifyMsg) : NotifyMsg :=
  { msg with hdrs := msg.hdrs ++ [⟨"Accept".toList, "text/plain".toList⟩] }

/-- `add_message_body`. The body is cut in the configuration. -/
def addMessageBody (msg : NotifyMsg) (app : App) : NotifyMsg × App :=
  let app : App :=
    if MSG_BODY_LEN < app.cfg.body.slen then
      App.pjLog { app with cfg := { app.cfg with body := app.cfg.body.map (·.take MSG_BODY_LEN) } }
        1 NAME "Message body is too long. Max allowed characters is 128\n".toList
    else app
  ({ msg with body := some ⟨some "text".toList, some "plain".toList, app.cfg.body.text⟩ }, app)

end Message

namespace Refer

/-- `add_referto_hdr`. -/
def addRefertoHdr (msg : NotifyMsg) (app : App) : NotifyMsg :=
  { msg with hdrs := msg.hdrs ++ [⟨"Refer-To".toList, app.cfg.referTo.text⟩] }

/-- `add_refersub_hdr`. -/
def addRefersubHdr (msg : NotifyMsg) : NotifyMsg :=
  { msg with hdrs := msg.hdrs ++ [⟨"Refer-Sub".toList, "false".toList⟩] }

end Refer

/-! ## 2. The commands -/

/-- A request as `pjsip_endpt_create_request` leaves it. -/
def NotifyMsg.empty : NotifyMsg := ⟨[], none⟩

/-- `sippak_cmd_ping`. -/
def Ping.sippakCmdPing (env : Pjsip) : Cmd Unit := do
  let localName ← assertSucc "Failed to initiate transport.".toList (sippakTransportInit env)
  let cnt ← createContactHdr localName
  let fromHdr ← createFromHdr env
  let ruri ← createRuri env
  let app ← Prog.read
  let args : RequestArgs := ⟨.OPTIONS, ruri, fromHdr, app.cfg.dest, some cnt⟩
  assertSucc "Failed to create endpoint request.".toList
    (call env (.pjsip_endpt_create_request args))
  assertSucc "Failed to initiate transaction layer.".toList (call env .pjsip_tsx_layer_init_module)
  assertSucc "Failed to register module mod_ping.".toList
    (call env (.pjsip_endpt_register_module .ping))
  call env (.pjsip_endpt_send_request ⟨args, .empty⟩)

/-- `sippak_cmd_notify`. -/
def Notify.sippakCmdNotify (env : Pjsip) : Cmd Unit := do
  let localName ← assertSucc "Failed to initiate transport.".toList (sippakTransportInit env)
  let cnt ← createContactHdr localName
  let fromHdr ← createFromHdr env
  let ruri ← createRuri env
  let app ← Prog.read
  let args : RequestArgs := ⟨.NOTIFY, ruri, fromHdr, app.cfg.dest, some cnt⟩
  assertSucc "Failed to create endpoint request.".toList
    (call env (.pjsip_endpt_create_request args))
  let msg ← ofExcept (fillIn env.simple .empty)
  assertSucc "Failed to initiate transaction layer.".toList (call env .pjsip_tsx_layer_init_module)
  assertSucc "Failed to register module mod_notify.".toList
    (call env (.pjsip_endpt_register_module .notify))
  call env (.pjsip_endpt_send_request ⟨args, msg⟩)

/-- `sippak_cmd_message`. -/
def Message.sippakCmdMessage (env : Pjsip) : Cmd Unit := do
  let fromHdr ← createFromHdr env
  let ruri ← createRuri env
  let _ ← assertSucc "Failed to initiate transport.".toList (sippakTransportInit env)
  let app ← Prog.read
  let args : RequestArgs := ⟨.MESSAGE, ruri, fromHdr, app.cfg.dest, none⟩
  assertSucc "Failed to create endpoint request.".toList
    (call env (.pjsip_endpt_create_request args))
  let msg ← ofExcept fun app => .ok (addMessageBody (addAcceptHdr .empty) app)
  assertSucc "Failed to initiate transaction layer.".toList (call env .pjsip_tsx_layer_init_module)
  assertSucc "Failed to register module mod_message.".toList
    (call env (.pjsip_endpt_register_module .message))
  call env (.pjsip_endpt_send_request ⟨args, msg⟩)

/-- `sippak_cmd_refer`. -/
def Refer.sippakCmdRefer (env : Pjsip) : Cmd Unit := do
  let localName ← assertSucc "Failed to initiate transport.".toList (sippakTransportInit env)
  assertSucc "Failed to initiate transaction layer.".toList (call env .pjsip_tsx_layer_init_module)
  assertSucc "Failed to register module mod_refer.".toList
    (call env (.pjsip_endpt_register_module .refer))
  let ruri ← createRuri env
  let fromHdr ← createFromHdr env
  let cnt ← createContactHdr localName
  let app ← Prog.read
  let args : RequestArgs := ⟨.REFER, ruri, fromHdr, app.cfg.dest, some cnt⟩
  assertSucc "Failed to create endpoint request.".toList
    (call env (.pjsip_endpt_create_request args))
  call env (.pjsip_endpt_send_request ⟨args, addRefersubHdr (addRefertoHdr .empty app)⟩)

/-- The command of a module. -/
def RequestMod.cmd (env : Pjsip) : RequestMod → Cmd Unit
  | .ping => Ping.sippakCmdPing env
  | .notify => Notify.sippakCmdNotify env
  | .message => Message.sippakCmdMessage env
  | .refer => Refer.sippakCmdRefer env

/-! ## 3. Their calls -/

def RequestMod.handler : RequestMod → Handler
  | .ping => .ping
  | .notify => .notify
  | .message => .message
  | .refer => .refer

def RequestMod.method : RequestMod → Method
  | .ping => .OPTIONS
  | .notify => .NOTIFY
  | .message => .MESSAGE
  | .refer => .REFER

/-- The request the module creates in the configuration. -/
def RequestMod.args (m : RequestMod) (env : Pjsip) (cfg : Cfg) : RequestArgs :=
  ⟨m.method, ruriOf env cfg, fromHdrOf env cfg, cfg.dest,
    if m = .message then none else some (contactOf env cfg)⟩

/-- What the module adds to it. -/
def RequestMod.msg (m : RequestMod) (env : Pjsip) (cfg : Cfg) : NotifyMsg :=
  match m with
  | .ping => .empty
  | .notify => valueIn (Notify.fillIn env.simple .empty) .empty cfg
  | .message => (Message.addMessageBody (Message.addAcceptHdr .empty) ⟨cfg, []⟩).1
  | .refer => Refer.addRefersubHdr (Refer.addRefertoHdr .empty ⟨cfg, []⟩)

/-- The list of calls of a command. -/
def RequestMod.script (m : RequestMod) (env : Pjsip) (cfg : Cfg) : List Call :=
  transportCalls cfg ++
    ((if m = .refer then
        [.pjsip_tsx_layer_init_module, .pjsip_endpt_register_module m.handler,
          .pjsip_endpt_create_request (m.args env cfg)]
      else
        [.pjsip_endpt_create_request (m.args env cfg), .pjsip_tsx_layer_init_module,
          .pjsip_endpt_register_module m.handler]) ++
      [.pjsip_endpt_send_request ⟨m.args env cfg, m.msg env cfg⟩])

/-! ## 4. Each command runs through its list -/

/-- The credentials are those of the configuration. -/
def CredOf (cfg : Cfg) (app : App) : Prop := sippakSetCred app.cfg = sippakSetCred cfg

/-- `add_body_msg` writes the request and the log. -/
theorem addBodyMsg_cases {lib : SimpleLib} {msg msg' : NotifyMsg} {app app' : App}
    (h : Notify.addBodyMsg lib msg app = .ok (msg', app')) :
    app'.cfg = app.cfg ∧
      ∃ log, Notify.addBodyMsg lib msg ⟨app.cfg, []⟩ = .ok (msg', ⟨app.cfg, log⟩) := by
  unfold Notify.addBodyMsg at h ⊢
  dsimp only at h ⊢
  -- the chain of the source: message-summary, pidf, xpidf, a header instead of a body
  by_cases hmwi : app.cfg.isMwi = true
  · rw [if_pos hmwi] at h ⊢
    split at h
    · cases h
    · cases h
      exact ⟨rfl, _, rfl⟩
  rw [if_neg hmwi] at h ⊢
  by_cases hpidf : app.cfg.ctypeE = .CTYPE_PIDF
  · rw [if_pos hpidf] at h ⊢
    generalize lib.presCreatePidf _ _ = made at h ⊢
    cases made with
    | error | ok =>
        cases h
        exact ⟨rfl, _, rfl⟩
  rw [if_neg hpidf] at h ⊢
  by_cases hxpidf : app.cfg.ctypeE = .CTYPE_XPIDF
  · rw [if_pos hxpidf] at h ⊢
    generalize lib.presCreateXpidf _ _ = made at h ⊢
    cases made with
    | error | ok =>
        cases h
        exact ⟨rfl, _, rfl⟩
  rw [if_neg hxpidf] at h ⊢
  unfold Notify.addContentTypeHdr at h ⊢
  by_cases hno : app.cfg.ctypeE = .CTYPE_UNKNOWN
  · rw [if_pos hno] at h ⊢
    cases h
    exact ⟨rfl, _, rfl⟩
  · rw [if_neg hno] at h ⊢
    generalize lib.mediaTypePrint _ _ = made at h ⊢
    cases made with
    | none | some =>
        cases h
        exact ⟨rfl, _, rfl⟩

/-- What NOTIFY adds depends on the configuration only, and it may write `pres_ev`. -/
theorem fillIn_cases {lib : SimpleLib} {msg msg' : NotifyMsg} {app app' : App}
    (h : Notify.fillIn lib msg app = .ok (msg', app')) :
    app'.cfg = { app.cfg with presEv := app'.cfg.presEv } ∧
      ∃ log, Notify.fillIn lib msg ⟨app.cfg, []⟩ = .ok (msg', ⟨app'.cfg, log⟩) := by
  obtain ⟨ev, hevent⟩ := addEventHdr_eq msg app.cfg
  unfold Notify.fillIn at h ⊢
  rw [hevent app.log] at h
  rw [hevent []]
  obtain ⟨hcfg, log, hbody⟩ := addBodyMsg_cases h
  rw [hcfg]
  exact ⟨rfl, log, hbody⟩

/-- What MESSAGE adds, and the body it leaves. -/
theorem addMessageBody_cases (msg : NotifyMsg) (app : App) :
    (Message.addMessageBody msg app).1 = (Message.addMessageBody msg ⟨app.cfg, []⟩).1 ∧
      (Message.addMessageBody msg app).2.cfg =
        { app.cfg with body := (Message.addMessageBody msg app).2.cfg.body } := by
  unfold Message.addMessageBody
  by_cases hlong : Message.MSG_BODY_LEN < app.cfg.body.slen
  · simp only [if_pos hlong]
    exact ⟨rfl, rfl⟩
  · simp only [if_neg hlong, and_self]

section Follow

variable {env : Pjsip} {cfg : Cfg}

theorem ping_follows :
    Follows env.answer (At cfg) (Ping.sippakCmdPing env) (RequestMod.ping.script env cfg)
      fun _ app => At cfg app := by
  refine transport_known (Follows.known createContactHdr_follows ?_)
  refine Follows.known createFromHdr_follows (Follows.known createRuri_follows ?_)
  refine config fun app hcfg => ?_
  subst hcfg
  exact checked (checked (checked Follows.call))

theorem notify_follows :
    Follows env.answer (At cfg) (Notify.sippakCmdNotify env) (RequestMod.notify.script env cfg)
      fun _ app => CredOf cfg app := by
  refine transport_known (Follows.known createContactHdr_follows ?_)
  refine Follows.known createFromHdr_follows (Follows.known createRuri_follows ?_)
  refine config fun app hcfg => ?_
  subst hcfg
  refine checked ?_
  have hfill : Follows env.answer (At app.cfg) (ofExcept (Notify.fillIn env.simple .empty)) []
      fun a app' => a = RequestMod.notify.msg env app.cfg ∧ CredOf app.cfg app' := by
    have hfree : LogFree (Notify.fillIn env.simple .empty) := fun _ _ _ h => (fillIn_cases h).2
    refine (ofExcept_follows hfree).mono (fun _ h => h) ?_
    intro msg app' ⟨log, h⟩
    refine ⟨?_, ?_⟩
    · show msg = valueIn (Notify.fillIn env.simple .empty) .empty app.cfg
      unfold valueIn
      rw [h]
    · have hcfg := (fillIn_cases h).1
      show sippakSetCred app'.cfg = sippakSetCred app.cfg
      rw [hcfg]
      rfl
  exact Follows.known hfill (checked (checked Follows.call))

theorem message_follows :
    Follows env.answer (At cfg) (Message.sippakCmdMessage env) (RequestMod.message.script env cfg)
      fun _ app => CredOf cfg app := by
  refine Follows.known createFromHdr_follows (Follows.known createRuri_follows ?_)
  refine transport_known (config fun app hcfg => ?_)
  subst hcfg
  refine checked ?_
  have hbody : Follows env.answer (At app.cfg)
      (ofExcept fun app => .ok (Message.addMessageBody (Message.addAcceptHdr .empty) app)) []
      fun a app' => a = RequestMod.message.msg env app.cfg ∧ CredOf app.cfg app' := by
    refine Follows.lift fun app₁ msg app' hcfg h => ?_
    obtain ⟨hmsg, hkeep⟩ := addMessageBody_cases (Message.addAcceptHdr .empty) app₁
    have hadd : Message.addMessageBody (Message.addAcceptHdr .empty) app₁ = (msg, app') :=
      Except.ok.inj h
    rw [hadd, hcfg] at hmsg
    rw [hadd] at hkeep
    refine ⟨hmsg, ?_⟩
    show sippakSetCred app'.cfg = sippakSetCred app.cfg
    rw [hkeep, ← hcfg]
    rfl
  exact Follows.known hbody (checked (checked Follows.call))

theorem refer_follows :
    Follows env.answer (At cfg) (Refer.sippakCmdRefer env) (RequestMod.refer.script env cfg)
      fun _ app => At cfg app := by
  refine transport_known (checked (checked ?_))
  refine Follows.known createRuri_follows (Follows.known createFromHdr_follows ?_)
  refine Follows.known createContactHdr_follows (config fun app hcfg => ?_)
  subst hcfg
  exact checked Follows.call

/-- **Each of the four commands runs through its list of calls.** -/
theorem oneRequest_follows (m : RequestMod) :
    Follows env.answer (At cfg) (m.cmd env) (m.script env cfg) fun _ app => CredOf cfg app := by
  have hcred : ∀ app, At cfg app → CredOf cfg app := fun _ h => congrArg sippakSetCred h
  cases m with
  | ping => exact ping_follows.mono (fun _ h => h) fun _ app h => hcred app h
  | notify => exact notify_follows
  | message => exact message_follows
  | refer => exact refer_follows.mono (fun _ h => h) fun _ app h => hcred app h

end Follow

/-! ## 5. From the command line on -/

/-- The transport protocol of a line. -/
def lineProto (os : List Opt) : Transport :=
  ((lastArg Opt.protoArg os).map transportProto).getD .PJSIP_TRANSPORT_UDP

/-- The Contact of a line, at the local end `addr` of its transport: the last `--contact`, trimmed,
    if there is anything in it; else the generated one. -/
def lineContact (lib : UriLib) (os : List Opt) (left : List CStr) (addr : PjStr × Int) : CStr :=
  let given := PjStr.text ((lastArg Opt.contactArg os).map trim)
  if 0 < given.length then given else contactText (lineUsername lib os left) addr.1 addr.2

/-- A generated one fits its buffer. -/
def ContactFits (lib : UriLib) (os : List Opt) (left : List CStr) (addr : PjStr × Int) : Prop :=
  0 < (PjStr.text ((lastArg Opt.contactArg os).map trim)).length ∨
    contactSize (lineUsername lib os left) addr.1 addr.2 ≤ PJSIP_MAX_URL_SIZE

/-- **The request a line asks for.** A Contact that does not fit its buffer, and a message-summary
    that does not, are written or read past it. -/
structure Asked (env : Pjsip) (lib : UriLib) (os : List Opt) (left : List CStr) (m : RequestMod)
    (tdata : TxData) : Prop where
  method : tdata.args.method = m.method
  toHdr : tdata.args.toHdr = destArg left
  noContact : tdata.args.contact = none ↔ m = .message
  contact : m ≠ .message → ContactFits lib os left (env.localName (lineProto os)) →
    tdata.args.contact = some (some (lineContact lib os left (env.localName (lineProto os))))
  ping : m = .ping → tdata.msg = .empty
  notify : m = .notify → SummaryFits os (destArg left) →
    tdata.msg = notifyAsked env.simple os (destArg left)
  message : m = .message →
    tdata.msg = ⟨[⟨"Accept".toList, "text/plain".toList⟩],
      some ⟨some "text".toList, some "plain".toList,
        (PjStr.text ((lastArg Opt.bodyArg os).map trim)).take Message.MSG_BODY_LEN⟩⟩
  refer : m = .refer →
    tdata.msg = ⟨[⟨"Refer-To".toList, PjStr.text ((lastArg Opt.referToArg os).map trim)⟩,
      ⟨"Refer-Sub".toList, "false".toList⟩], none⟩

section Line

variable {b : Build} {lib : UriLib} {os : List Opt} {left : List CStr} {app : App} {m : RequestMod}

/-- The body of a MESSAGE, cut or not. -/
theorem addMessageBody_body (msg : NotifyMsg) (app : App) :
    (Message.addMessageBody msg app).1 =
      { msg with
        body := some ⟨some "text".toList, some "plain".toList,
          app.cfg.body.text.take Message.MSG_BODY_LEN⟩ } := by
  unfold Message.addMessageBody
  by_cases hlong : Message.MSG_BODY_LEN < app.cfg.body.slen
  · simp only [if_pos hlong, App.pjLog_cfg]
    cases app.cfg.body with
    | none => rfl
    | some t => rfl
  · simp only [if_neg hlong]
    rw [List.take_of_length_le]
    exact Nat.le_of_not_lt hlong

/-- The field of a text option, by any other reading of the option. -/
theorem text_of_line {cfg : Cfg} (hcfg : Configured b lib os left cfg) {t : TextOpt}
    {arg : Opt → Option CStr} (ht : t ≠ .username) (harg : ∀ o, t.arg o = arg o) :
    t.field cfg = (lastArg arg os).map trim := by
  obtain rfl : t.arg = arg := funext harg
  exact hcfg.text t ht

/-- The Contact of the configuration of a line. -/
theorem contactOf_line {cfg : Cfg} (hcfg : Configured b lib os left cfg) (env : Pjsip)
    (hfit : ContactFits lib os left (env.localName (lineProto os))) :
    contactOf env cfg = some (lineContact lib os left (env.localName (lineProto os))) := by
  have hproto : cfg.proto = lineProto os := hcfg.proto
  have hcontact : cfg.contact = (lastArg Opt.contactArg os).map trim :=
    text_of_line (t := .contact) hcfg (by decide) fun o => by cases o <;> rfl
  unfold contactOf valueIn lineContact
  unfold ContactFits at hfit
  dsimp only
  rw [hproto, contact_cases]
  dsimp only
  rw [PjStr.slen, hcfg.username, hcontact]
  by_cases hgiven : 0 < (PjStr.text ((lastArg Opt.contactArg os).map trim)).length
  · rw [if_pos hgiven, if_pos hgiven]
    cases hl : (lastArg Opt.contactArg os).map trim with
    | some t => rfl
    | none =>
        rw [hl] at hgiven
        exact absurd hgiven (Nat.lt_irrefl 0)
  · rw [if_neg hgiven, if_neg hgiven, if_pos (hfit.resolve_left hgiven)]
    rfl

/-- What the command makes of the configuration of a line is what the line asks for. -/
theorem asked_of_line (hline : CommandLine b lib os left m.handler app) (env : Pjsip) :
    Asked env lib os left m ⟨m.args env app.cfg, m.msg env app.cfg⟩ := by
  have hcfg := configured_of_line hline
  have hbody : app.cfg.body = (lastArg Opt.bodyArg os).map trim :=
    text_of_line (t := .body) hcfg (by decide) fun o => by cases o <;> rfl
  have hrefer : app.cfg.referTo = (lastArg Opt.referToArg os).map trim :=
    text_of_line (t := .referTo) hcfg (by decide) fun o => by cases o <;> rfl
  refine ⟨rfl, hcfg.dest, ?_, fun hm hfit => ?_, fun hm => ?_, fun hm hfit => ?_, fun hm => ?_,
    fun hm => ?_⟩
  · show (if m = .message then none else some (contactOf env app.cfg)) = none ↔ m = .message
    cases m <;> simp
  · show (if m = .message then none else some (contactOf env app.cfg)) = _
    rw [if_neg hm, contactOf_line hcfg env hfit]
  · subst hm
    rfl
  · subst hm
    obtain ⟨app', hfill, -⟩ := notify_of_line hline hfit env.simple []
    obtain ⟨log, hsame⟩ := (fillIn_cases hfill).2
    show valueIn (Notify.fillIn env.simple .empty) .empty app.cfg = _
    unfold valueIn
    rw [NotifyMsg.empty, hsame]
    rfl
  · subst hm
    show (Message.addMessageBody (Message.addAcceptHdr .empty) ⟨app.cfg, []⟩).1 = _
    rw [addMessageBody_body, ← hbody]
    rfl
  · subst hm
    rw [← hrefer]
    rfl

/-- In the list of calls, only the last gives a request to be sent. -/
theorem script_sends (m : RequestMod) (env : Pjsip) (cfg : Cfg) :
    OnlyLast Call.sends (m.script env cfg)
      (.pjsip_endpt_send_request ⟨m.args env cfg, m.msg env cfg⟩) := by
  refine .append (transportCalls_sends cfg) (.append ?_ (.last rfl))
  split <;> rfl

/-- **What is sent, from the command line on.** In every environment, the only request that is
    given to pjsip is the one the line asks for, and it is given once at most; a command that
    succeeds has given it, with its last call, and no call failed whose status is looked at. -/
theorem oneRequest_of_line (hline : CommandLine b lib os left m.handler app) (env : Pjsip) :
    (∀ c ∈ (m.cmd env app []).calls, c.sends = true →
      ∃ tdata, c = .pjsip_endpt_send_request tdata ∧ Asked env lib os left m tdata) ∧
    ((m.cmd env app []).calls.filter Call.sends).length ≤ 1 ∧
    ((∃ u, (m.cmd env app []).outcome = .ok u) →
      ∃ before tdata, (m.cmd env app []).calls = before ++ [.pjsip_endpt_send_request tdata] ∧
        Asked env lib os left m tdata ∧ Succeed env.answer [] (m.cmd env app []).calls) := by
  have hrun : Front env.answer (m.script env app.cfg) _ [] (m.cmd env app []) :=
    oneRequest_follows m app [] (rfl : At app.cfg app)
  have hasked := asked_of_line hline env
  have hlast := script_sends m env app.cfg
  obtain ⟨hsends, hone, -⟩ := hrun.onlyLast hlast
  refine ⟨fun c hc hs => ⟨_, hsends c hc hs, hasked⟩, hone, fun ⟨u, hu⟩ => ?_⟩
  obtain ⟨hall, -, hscript⟩ := hrun.of_ok hu
  obtain ⟨before, hbefore, -, -⟩ := hlast
  rw [List.nil_append] at hscript
  rw [hscript]
  exact ⟨before, _, hbefore, hasked, hall⟩

/-- `sippak message --body " hello " sip:alice@host`, where every call succeeds. -/
theorem oneRequest_hello : ∃ app before tdata,
    CommandLine Build.g711 UriLib.plain [.body " hello ".toList]
        ["message".toList, "sip:alice@host".toList] .message app ∧
      (RequestMod.message.cmd .succeeds app []).calls =
        before ++ [.pjsip_endpt_send_request tdata] ∧
      Asked .succeeds UriLib.plain [.body " hello ".toList]
        ["message".toList, "sip:alice@host".toList] .message tdata ∧
      before.length = 5 := by
  obtain ⟨app, hline, hok, hlen⟩ : ∃ app, CommandLine Build.g711 UriLib.plain
      [.body " hello ".toList] ["message".toList, "sip:alice@host".toList] .message app ∧
      (∃ u, (RequestMod.message.cmd .succeeds app []).outcome = .ok u) ∧
      (RequestMod.message.cmd .succeeds app []).calls.length = 6 :=
    ⟨_, ⟨fun _ => (_, _), ["sippak".toList, "message".toList, "--body".toList, " hello ".toList,
      "sip:alice@host".toList], rfl, rfl, rfl, rfl⟩, ⟨_, rfl⟩, rfl⟩
  obtain ⟨before, tdata, hcalls, hasked, -⟩ :=
    (oneRequest_of_line (m := .message) hline .succeeds).2.2 hok
  refine ⟨app, before, tdata, hline, hcalls, hasked, ?_⟩
  rw [hcalls, List.length_append] at hlen
  exact Nat.succ.inj hlen

end Line

end Sippak
