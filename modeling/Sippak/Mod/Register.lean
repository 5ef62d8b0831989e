/-
  File:      Sippak/Mod/Register.lean
  Subject:   REGISTER (register.c): `sippak_cmd_register`, `reg_callback` and `print_reg_success`.

  Three flags decide what is sent: `--cancel-all` before `--cancel`, and `--clist`, which leaves the
  Contact out of a request of any of the three kinds. `print_reg_success` has a chain on the same
  flags of its own. pjsip's registration client calls back with the outcome; each contact of a
  200 is printed into an array that is zeroed for it.

  * `register_follows` -- the command runs through its list of calls;
  * `register_of_line` -- **what is sent, from the command line on**: it depends on which flags are
    given, not on their order or number;
  * `regCallback_cases` -- when the callback reads behind the array of a contact;
  * `report_of_line` -- **what a 200 is reported as is what was sent**, each contact with its own
    text.
-/
import Sippak.Lib.CArray
import Sippak.Line
import Sippak.Mod.Command

namespace Sippak

open CallTrace CStr

namespace Register

open Cmd

def NAME : CStr := "mod_register".toList

/-! ## 1. The command -/

/-- The text of a `%.*s`, where the string has a length. -/
def outText : OutStr → CStr
  | .str s => s.text
  | .unprinted => []

/-- The call that makes the request. -/
def requestCall : RegcRequest → Call
  | .register => .pjsip_regc_register
  | .unregister => .pjsip_regc_unregister
  | .unregisterAll => .pjsip_regc_unregister_all

/-- The chain on the flags that makes the request. -/
def makeRequest (env : Pjsip) (fromUri : OutStr) : Cmd RegcRequest := do
  let app ← Prog.read
  if app.cfg.cancelAllReg then
    assertSucc ("Failed to cancel all registarations for ".toList ++ outText fromUri ++ ".".toList)
      (call env .pjsip_regc_unregister_all)
    return .unregisterAll
  else if app.cfg.cancel then
    assertSucc ("Failed to cancel registaration for ".toList ++ outText fromUri ++ ".".toList)
      (call env .pjsip_regc_unregister)
    return .unregister
  else
    assertSucc ("Failed to register ".toList ++ outText fromUri ++ ".".toList)
      (call env .pjsip_regc_register)
    return .register

/-- `sippak_cmd_register`. -/
def sippakCmdRegister (env : Pjsip) : Cmd Unit := do
  let localName ← assertSucc "Failed to initiate transport.".toList (sippakTransportInit env)
  assertSucc "Failed to initiate transaction layer.".toList (call env .pjsip_tsx_layer_init_module)
  assertSucc "Failed to register module mod_register.".toList
    (call env (.pjsip_endpt_register_module .register))
  assertSucc "Failed to create register client.".toList (call env .pjsip_regc_create)
  let srvUrl ← createRegRuri env
  let toUri ← createRuri env
  let fromUri ← createFromHdr env
  let contact ← createContactHdr localName
  let app ← Prog.read
  assertSucc "Failed to initiate register client.".toList
    (call env (.pjsip_regc_init srvUrl fromUri toUri (if app.cfg.isClist then [] else [contact])
      app.cfg.expires))
  assertSucc "Failed to set auth credentials.".toList
    (call env (.pjsip_regc_set_credentials (sippakSetCred app.cfg)))
  setRouteSet env .pjsip_regc_set_route_set
  let tdata ← makeRequest env fromUri
  call env (.pjsip_regc_send tdata)

/-- The request the flags ask for. -/
def requestOf (cfg : Cfg) : RegcRequest :=
  if cfg.cancelAllReg then .unregisterAll else if cfg.cancel then .unregister else .register

/-- The contacts of the request. -/
def contactsOf (env : Pjsip) (cfg : Cfg) : List PjStr :=
  if cfg.isClist then [] else [contactOf env cfg]

/-- The list of calls. -/
def script (env : Pjsip) (cfg : Cfg) : List Call :=
  transportCalls cfg ++
    .pjsip_tsx_layer_init_module :: .pjsip_endpt_register_module .register ::
    .pjsip_regc_create ::
    .pjsip_regc_init (regRuriOf env cfg) (fromHdrOf env cfg) (ruriOf env cfg) (contactsOf env cfg)
      cfg.expires ::
    .pjsip_regc_set_credentials (sippakSetCred cfg) ::
    (routeCalls env cfg .pjsip_regc_set_route_set ++
      [requestCall (requestOf cfg), .pjsip_regc_send (requestOf cfg)])

section Follow

variable {env : Pjsip} {cfg : Cfg}

theorem makeRequest_follows (fromUri : OutStr) :
    Follows env.answer (At cfg) (makeRequest env fromUri) [requestCall (requestOf cfg)]
      fun a app => a = requestOf cfg ∧ At cfg app := by
  refine config fun app hcfg => ?_
  subst hcfg
  unfold requestOf
  split
  · exact checked (Follows.pure fun _ h => ⟨rfl, h⟩)
  · split
    · exact checked (Follows.pure fun _ h => ⟨rfl, h⟩)
    · exact checked (Follows.pure fun _ h => ⟨rfl, h⟩)

/-- **The command runs through its list of calls.** -/
theorem register_follows :
    Follows env.answer (At cfg) (sippakCmdRegister env) (script env cfg) fun _ app =>
      At cfg app := by
  refine transport_known (checked (checked (checked ?_)))
  refine Follows.known createRegRuri_follows (Follows.known createRuri_follows ?_)
  refine Follows.known createFromHdr_follows (Follows.known createContactHdr_follows ?_)
  refine config fun app hcfg => ?_
  subst hcfg
  refine checked (checked ?_)
  refine Follows.bind (setRouteSet_follows fun _ => rfl) fun _ => ?_
  refine Follows.bind (u := [_]) (makeRequest_follows _) fun tdata => Follows.pull fun htdata => ?_
  rw [htdata]
  exact Follows.call

end Follow

/-! ## 2. From the command line on -/

/-- The request the flags of a line ask for. -/
def lineRequest (os : List Opt) : RegcRequest :=
  if os.contains .cancelAll then .unregisterAll
  else if os.contains .cancel then .unregister
  else .register

section Line

variable {b : Build} {lib : UriLib} {os : List Opt} {left : List CStr} {app : App}

theorem requestOf_line (hline : CommandLine b lib os left .register app) :
    requestOf app.cfg = lineRequest os := by
  have hcfg := configured_of_line hline
  have hall : app.cfg.cancelAllReg = os.contains .cancelAll := hcfg.flag .cancelAll
  have hone : app.cfg.cancel = os.contains .cancel := hcfg.flag .cancel
  unfold requestOf lineRequest
  rw [hall, hone]

/-- In the list of calls, only the last gives a request to be sent. -/
theorem script_sends (env : Pjsip) (cfg : Cfg) :
    OnlyLast Call.sends (script env cfg) (.pjsip_regc_send (requestOf cfg)) := by
  have hrequest : (requestCall (requestOf cfg)).sends = false := by
    cases requestOf cfg <;> rfl
  refine .append (transportCalls_sends cfg) ?_
  refine .cons rfl (.cons rfl (.cons rfl (.cons rfl (.cons rfl ?_))))
  exact .append (routeCalls_sends env cfg fun _ => rfl) (.cons hrequest (.last rfl))

/-- The call that sets up the client is the one of the configuration. -/
theorem script_init {env : Pjsip} {cfg : Cfg} {srvUrl fromUri : OutStr} {toUri : PjStr}
    {contacts : List PjStr} {expires : Nat}
    (h : .pjsip_regc_init srvUrl fromUri toUri contacts expires ∈ script env cfg) :
    srvUrl = regRuriOf env cfg ∧ fromUri = fromHdrOf env cfg ∧ toUri = ruriOf env cfg ∧
      contacts = contactsOf env cfg ∧ expires = cfg.expires := by
  have htransport : .pjsip_regc_init srvUrl fromUri toUri contacts expires ∉
      transportCalls cfg := by
    unfold transportCalls
    split <;> simp
  have hroute : .pjsip_regc_init srvUrl fromUri toUri contacts expires ∉
      routeCalls env cfg .pjsip_regc_set_route_set := by
    unfold routeCalls
    cases sippakSetProxiesList env.parseHdr ⟨cfg, []⟩ <;> simp
  have hrequest : Call.pjsip_regc_init srvUrl fromUri toUri contacts expires ≠
      requestCall (requestOf cfg) := by
    cases requestOf cfg <;> exact Call.noConfusion
  unfold script at h
  simpa [htransport, hroute, hrequest] using h

/-- **What is sent, from the command line on.** In every environment, the only request given to
    pjsip is the one the flags ask for, whatever their order and number, and it is given once at
    most; the client was set up without a Contact exactly where `--clist` is given, and with the
    last `-X`. -/
theorem register_of_line (hline : CommandLine b lib os left .register app) (env : Pjsip) :
    (∀ c ∈ (sippakCmdRegister env app []).calls, c.sends = true →
      c = .pjsip_regc_send (lineRequest os)) ∧
    ((sippakCmdRegister env app []).calls.filter Call.sends).length ≤ 1 ∧
    (∀ srvUrl fromUri toUri contacts expires,
      .pjsip_regc_init srvUrl fromUri toUri contacts expires ∈
        (sippakCmdRegister env app []).calls →
      (contacts = [] ↔ os.contains .clist = true) ∧ contacts.length ≤ 1 ∧
        expires = ((lastArg Opt.expiresArg os).map expiresValue).getD 3600) ∧
    ((∃ u, (sippakCmdRegister env app []).outcome = .ok u) →
      ∃ before, (sippakCmdRegister env app []).calls =
          before ++ [.pjsip_regc_send (lineRequest os)] ∧
        Succeed env.answer [] (sippakCmdRegister env app []).calls) := by
  have hrun : Front env.answer (script env app.cfg) _ [] (sippakCmdRegister env app []) :=
    register_follows app [] (rfl : At app.cfg app)
  have hcfg := configured_of_line hline
  have hlist : app.cfg.isClist = os.contains .clist := hcfg.flag .clist
  have hlast := script_sends env app.cfg
  rw [requestOf_line hline] at hlast
  obtain ⟨hsends, hone, -⟩ := hrun.onlyLast hlast
  obtain ⟨made, hcalls, hpre⟩ := hrun.calls_prefix
  rw [List.nil_append] at hcalls
  refine ⟨hsends, hone, fun srvUrl fromUri toUri contacts expires hmem => ?_, fun ⟨u, hu⟩ => ?_⟩
  · obtain ⟨-, -, -, rfl, rfl⟩ := script_init (hpre.subset (hcalls ▸ hmem))
    refine ⟨?_, ?_, hcfg.expires⟩
    · unfold contactsOf
      rw [hlist]
      cases os.contains Opt.clist <;> simp
    · unfold contactsOf
      split
      · exact Nat.zero_le 1
      · exact Nat.le_refl 1
  · obtain ⟨hall, -, hscript⟩ := hrun.of_ok hu
    obtain ⟨before, hbefore, -, -⟩ := hlast
    rw [List.nil_append] at hscript
    rw [hscript]
    exact ⟨before, hbefore, hall⟩

/-- `sippak register --cancel -X 60 --clist --cancel-all sip:alice@host`: all registrations are
    asked to be cancelled, without a Contact. -/
theorem register_all : ∃ app,
    CommandLine Build.g711 UriLib.plain
        [.cancel, .expires "60".toList, .clist, .cancelAll]
        ["register".toList, "sip:alice@host".toList] .register app ∧
      (∀ c ∈ (sippakCmdRegister .succeeds app []).calls, c.sends = true →
        c = .pjsip_regc_send .unregisterAll) ∧
      ∃ before, (sippakCmdRegister .succeeds app []).calls =
        before ++ [.pjsip_regc_send .unregisterAll] := by
  obtain ⟨app, hline, hok⟩ : ∃ app, CommandLine Build.g711 UriLib.plain
      [.cancel, .expires "60".toList, .clist, .cancelAll]
      ["register".toList, "sip:alice@host".toList] .register app ∧
      ∃ u, (sippakCmdRegister .succeeds app []).outcome = .ok u :=
    ⟨_, ⟨fun _ => (_, _), ["sippak".toList, "register".toList, "--cancel".toList, "-X".toList,
      "60".toList, "--clist".toList, "--cancel-all".toList, "sip:alice@host".toList], rfl, rfl, rfl,
      rfl⟩, ⟨_, rfl⟩⟩
  obtain ⟨hsends, -, -, hlast⟩ := register_of_line hline .succeeds
  obtain ⟨before, hcalls, -⟩ := hlast hok
  exact ⟨app, hline, hsends, before, hcalls⟩

end Line

/-! ## 3. The callback -/

/-- `pjsip_regc_cbparam`, with the texts of the contacts. -/
structure RegcCbparam where
  code : Nat
  reason : CStr
  contact : List CStr

/-- What `print_on` of a Contact writes into an array of `PJSIP_MAX_URL_SIZE` bytes: a front part of
    the header's text. No zero byte follows. -/
structure ContactPrint where
  written : CStr → CStr
  front : ∀ text, written text <+: text
  fits : ∀ text, (written text).length ≤ PJSIP_MAX_URL_SIZE

/-- What `%s` shows of the array. -/
def ContactPrint.shown (print : ContactPrint) (text : CStr) : CStr := upToNul (print.written text)

/-- The stop flag of main.c and the log. -/
structure RegState where
  loopStop : Bool
  log : List LogLine
  deriving DecidableEq, Repr

def RegState.start : RegState := ⟨false, []⟩

/-- What a 200 is reported as. -/
def successText (cfg : Cfg) : CStr :=
  if cfg.cancelAllReg then "Cancel all registrations.".toList
  else if cfg.cancel then "Unregister contact.".toList
  else if cfg.isClist then "Request for current contacts.".toList
  else "Successfully registered.".toList

/-- The line with the outcome of a 200. -/
def successLine (text : CStr) (regp : RegcCbparam) : LogLine :=
  ⟨3, NAME, text ++ " Response received: ".toList ++ showNat regp.code ++ " ".toList ++ regp.reason⟩

/-- `char buf[PJSIP_MAX_URL_SIZE] = {0}`. -/
def buf : CStr := List.replicate PJSIP_MAX_URL_SIZE '\x00'

/-- The line of the contact at index `i`. -/
def contactLine (i : Nat) (text : CStr) : LogLine :=
  ⟨3, NAME, "\t".toList ++ showDec (i + 1) ++ " - ".toList ++ text⟩

/-- The loop of `print_reg_success`, from index `i` on. -/
def printContacts (print : ContactPrint) : Nat → List CStr → Except Abort (List LogLine)
  | _, [] => .ok []
  | i, hdr :: hdrs =>
    match readStr (fillFront (print.written hdr) buf) with
    | none => .error .outOfBounds
    | some text =>
      match printContacts print (i + 1) hdrs with
      | .error e => .error e
      | .ok lines => .ok (contactLine i text :: lines)

/-- `print_reg_success`. -/
def printRegSuccess (print : ContactPrint) (cfg : Cfg) (regp : RegcCbparam) :
    Except Abort (List LogLine) :=
  match printContacts print 0 regp.contact with
  | .error e => .error e
  | .ok lines =>
    .ok (successLine (successText cfg) regp ::
      ⟨3, NAME, "Contacts list (".toList ++ showDec regp.contact.length ++ "):".toList⟩ :: lines)

/-- `reg_callback`. -/
def regCallback (print : ContactPrint) (cfg : Cfg) (regp : RegcCbparam) (s : RegState) :
    Except Abort RegState :=
  if regp.code = 200 then
    match printRegSuccess print cfg regp with
    | .error e => .error e
    | .ok lines => .ok ⟨true, s.log ++ lines⟩
  else if regp.code = 401 then .ok ⟨true, s.log ++ [authFailedLine NAME]⟩
  else
    .ok ⟨true, s.log ++ [⟨1, NAME, "Registration response: ".toList ++ showNat regp.code ++
      " ".toList ++ regp.reason⟩]⟩

/-! ## 4. What is reported -/

/-- What a 200 says about a request, with or without a Contact. -/
def reportOf (hasContact : Bool) : RegcRequest → CStr
  | .unregisterAll => "Cancel all registrations.".toList
  | .unregister => "Unregister contact.".toList
  | .register =>
    if hasContact then "Successfully registered.".toList
    else "Request for current contacts.".toList

/-- The contact fills its array to the last byte. -/
def FillsArray (print : ContactPrint) (text : CStr) : Prop :=
  (print.written text).length = PJSIP_MAX_URL_SIZE ∧ '\x00' ∉ print.written text

section Report

variable (print : ContactPrint)

/-- One contact: what was written of its own text, or a read behind the array. -/
theorem contact_read (text : CStr) :
    (FillsArray print text ∧ readStr (fillFront (print.written text) buf) = none) ∨
      ¬ FillsArray print text ∧
        readStr (fillFront (print.written text) buf) = some (print.shown text) := by
  have hfits := print.fits text
  unfold FillsArray ContactPrint.shown fillFront readStr buf
  rw [List.drop_replicate]
  generalize print.written text = part at hfits ⊢
  by_cases hnul : '\x00' ∈ part
  · have hfront : upToNul (part ++ List.replicate (PJSIP_MAX_URL_SIZE - part.length) '\x00') =
        upToNul part := upToNul_append_of_nul hnul _
    refine Or.inr ⟨fun h => h.2 hnul, ?_⟩
    rw [if_pos (List.mem_append_left _ hnul), hfront]
  · by_cases hfull : part.length = PJSIP_MAX_URL_SIZE
    · refine Or.inl ⟨⟨hfull, hnul⟩, ?_⟩
      rw [hfull, Nat.sub_self, List.replicate_zero, List.append_nil, if_neg hnul]
    · -- at least one of the zero bytes is left
      obtain ⟨n, hn⟩ : ∃ n, PJSIP_MAX_URL_SIZE - part.length = n + 1 :=
        ⟨PJSIP_MAX_URL_SIZE - part.length - 1, by omega⟩
      refine Or.inr ⟨fun h => hfull h.1, ?_⟩
      rw [hn, List.replicate_succ, if_pos (List.mem_append_right _ List.mem_cons_self),
        upToNul_append hnul, upToNul_cons_nul, List.append_nil, upToNul_eq_self_iff.mpr hnul]

/-- The loop over the contacts. -/
theorem printContacts_cases (i : Nat) (hdrs : List CStr) :
    ((∃ text ∈ hdrs, FillsArray print text) ∧
        printContacts print i hdrs = .error .outOfBounds) ∨
      (¬ ∃ text ∈ hdrs, FillsArray print text) ∧
        printContacts print i hdrs =
          .ok ((hdrs.zipIdx i).map fun h => contactLine h.2 (print.shown h.1)) := by
  induction hdrs generalizing i with
  | nil => exact Or.inr ⟨by simp, rfl⟩
  | cons text hdrs ih =>
      rw [printContacts]
      rcases contact_read print text with ⟨hfill, hread⟩ | ⟨hno, hread⟩
      · rw [hread]
        exact Or.inl ⟨⟨text, List.mem_cons_self, hfill⟩, rfl⟩
      · rw [hread]
        dsimp only
        rcases ih (i + 1) with ⟨⟨text', hmem, hfill⟩, hrest⟩ | ⟨hnone, hrest⟩
        · rw [hrest]
          exact Or.inl ⟨⟨text', List.mem_cons_of_mem _ hmem, hfill⟩, rfl⟩
        · rw [hrest]
          refine Or.inr ⟨?_, rfl⟩
          rintro ⟨text', hmem, hfill⟩
          rcases List.mem_cons.mp hmem with rfl | hmem
          · exact hno hfill
          · exact hnone ⟨text', hmem, hfill⟩

/-- The lines behind a 200. -/
def reportLines (print : ContactPrint) (text : CStr) (regp : RegcCbparam) : List LogLine :=
  successLine text regp ::
    ⟨3, NAME, "Contacts list (".toList ++ showDec regp.contact.length ++ "):".toList⟩ ::
    regp.contact.zipIdx.map fun h => contactLine h.2 (print.shown h.1)

/-- **The callback**: it reads behind an array exactly when a contact of a 200 fills its own; else
    it stops the loop, and a 200 is reported by the flags. -/
theorem regCallback_cases (cfg : Cfg) (regp : RegcCbparam) (s : RegState) :
    (regCallback print cfg regp s = .error .outOfBounds ↔
      regp.code = 200 ∧ ∃ text ∈ regp.contact, FillsArray print text) ∧
    ∀ s', regCallback print cfg regp s = .ok s' →
      s'.loopStop = true ∧
        (regp.code = 200 → s'.log = s.log ++ reportLines print (successText cfg) regp) := by
  unfold regCallback printRegSuccess
  by_cases hcode : regp.code = 200
  · rw [if_pos hcode]
    rcases printContacts_cases print 0 regp.contact with ⟨hfill, hread⟩ | ⟨hno, hread⟩
    · rw [hread]
      refine ⟨⟨fun _ => ⟨hcode, hfill⟩, fun _ => rfl⟩, fun s' h => ?_⟩
      cases h
    · rw [hread]
      refine ⟨⟨fun h => (by cases h), fun h => absurd h.2 hno⟩, fun s' h => ?_⟩
      cases h
      exact ⟨rfl, fun _ => rfl⟩
  · rw [if_neg hcode]
    refine ⟨⟨fun h => ?_, fun h => absurd h.1 hcode⟩, fun s' h => ?_⟩
    · split at h <;> cases h
    · split at h <;> (cases h; exact ⟨rfl, fun h => absurd h hcode⟩)

end Report

section Reported

variable {b : Build} {lib : UriLib} {os : List Opt} {left : List CStr} {app : App}

/-- The two chains on the flags agree. -/
theorem successText_eq (cfg : Cfg) : successText cfg = reportOf (!cfg.isClist) (requestOf cfg) := by
  unfold successText requestOf
  cases cfg.cancelAllReg
  · cases cfg.cancel
    · cases cfg.isClist <;> rfl
    · rfl
  · rfl

/-- **A 200 is reported as what was sent**, from the command line on: the callback of a command
    that succeeded stops the loop, and its lines name the request that was given to pjsip and
    whether it had a Contact; then each contact follows in order, under its number. It reads
    behind an array exactly when a contact fills its own. -/
theorem report_of_line (hline : CommandLine b lib os left .register app) (env : Pjsip)
    (hok : ∃ u, (sippakCmdRegister env app []).outcome = .ok u) (print : ContactPrint)
    (regp : RegcCbparam) (s : RegState) :
    (regCallback print (sippakCmdRegister env app []).state.cfg regp s = .error .outOfBounds ↔
      regp.code = 200 ∧ ∃ text ∈ regp.contact, FillsArray print text) ∧
    ∀ s' request, .pjsip_regc_send request ∈ (sippakCmdRegister env app []).calls →
      regCallback print (sippakCmdRegister env app []).state.cfg regp s = .ok s' →
      s'.loopStop = true ∧
        (regp.code = 200 →
          s'.log = s.log ++ reportLines print (reportOf (!os.contains .clist) request) regp) := by
  have hrun : Front env.answer (script env app.cfg) _ [] (sippakCmdRegister env app []) :=
    register_follows app [] (rfl : At app.cfg app)
  obtain ⟨u, hu⟩ := hok
  obtain ⟨-, hstate, hcalls⟩ := hrun.of_ok hu
  have hcfg : (sippakCmdRegister env app []).state.cfg = app.cfg := hstate
  obtain ⟨hcase, hgood⟩ := regCallback_cases print app.cfg regp s
  rw [hcfg]
  refine ⟨hcase, fun s' request hmem hback => ?_⟩
  obtain ⟨hstop, hlog⟩ := hgood s' hback
  refine ⟨hstop, fun hcode => ?_⟩
  have hlist : app.cfg.isClist = os.contains .clist := (configured_of_line hline).flag .clist
  have hrequest : Call.pjsip_regc_send request = .pjsip_regc_send (requestOf app.cfg) :=
    (hrun.onlyLast (script_sends env app.cfg)).1 _ hmem rfl
  cases hrequest
  rw [hlog hcode, successText_eq, hlist]

/-- Texts that do not fit are cut before their last byte. -/
def ContactPrint.cut : ContactPrint where
  written text := text.take (PJSIP_MAX_URL_SIZE - 1)
  front text := List.take_prefix _ text
  fits text := by
    rw [List.length_take]
    exact (Nat.min_le_left _ _).trans (by decide)

/-- `sippak register --clist sip:alice@host`, and a 200 with a Contact. -/
theorem report_list : ∃ app,
    CommandLine Build.g711 UriLib.plain [.clist] ["register".toList, "sip:alice@host".toList]
        .register app ∧
      ∃ s', regCallback .cut (sippakCmdRegister .succeeds app []).state.cfg
          ⟨200, "OK".toList, ["Contact: <sip:alice@10.0.0.1>".toList]⟩ .start = .ok s' ∧
        s'.loopStop = true ∧
        s'.log = reportLines .cut "Request for current contacts.".toList
          ⟨200, "OK".toList, ["Contact: <sip:alice@10.0.0.1>".toList]⟩ := by
  obtain ⟨app, hline, hok, hmem, s', hback⟩ : ∃ app,
      CommandLine Build.g711 UriLib.plain [.clist] ["register".toList, "sip:alice@host".toList]
        .register app ∧
      (∃ u, (sippakCmdRegister .succeeds app []).outcome = .ok u) ∧
      Call.pjsip_regc_send .register ∈ (sippakCmdRegister .succeeds app []).calls ∧
      ∃ s', regCallback .cut (sippakCmdRegister .succeeds app []).state.cfg
        ⟨200, "OK".toList, ["Contact: <sip:alice@10.0.0.1>".toList]⟩ .start = .ok s' :=
    ⟨_, ⟨fun _ => (_, _), ["sippak".toList, "register".toList, "--clist".toList,
      "sip:alice@host".toList], rfl, rfl, rfl, rfl⟩, ⟨_, rfl⟩,
      List.mem_of_getElem? (i := 8) rfl, _, rfl⟩
  obtain ⟨-, hgood⟩ := report_of_line hline .succeeds hok .cut
    ⟨200, "OK".toList, ["Contact: <sip:alice@10.0.0.1>".toList]⟩ .start
  obtain ⟨hstop, hlog⟩ := hgood s' .register hmem hback
  exact ⟨app, hline, s', hback, hstop, hlog rfl⟩

end Reported

end Register

end Sippak
