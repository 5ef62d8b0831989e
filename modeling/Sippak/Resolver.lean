/-
  File:      Sippak/Resolver.lean
  Subject:   THE RESOLVER STEP OF THE START (dns.c: `sippak_set_resolver_ns`; main.c), and what an
             empty list of name servers does to it.

  `DnsLib` says which status pjsip's resolver functions return; `ResolverRun.calls` keeps the
  calls, with the count and the arrays that `pj_dns_resolver_set_ns` gets. `mainToSwitch` is
  `main` from the logger module on: it goes to a case of its switch, or returns a status before.

  * `usableServer_iff` -- a server is listed exactly where the input has a usable one;
  * `resolver_right_iff` -- **the step is right exactly then**: the count is handed on without a
    test, 0 included;
  * `main_reaches_switch_iff` -- so without a server no command is run, `--help` among them.
-/
import Sippak.Dns
import Sippak.Main

namespace Sippak

open CStr

/-! ## 1. The step -/

/-- What the resolver functions return. -/
structure DnsLib where
  endptCreateResolver : PjStatus
  dnsResolverSetNs : (count : Nat) → Vector PjStr MAX_NS_COUNT → Vector Nat MAX_NS_COUNT → PjStatus
  endptSetResolver : PjStatus

inductive DnsCall where
  | pjsip_endpt_create_resolver
  | pj_dns_resolver_set_ns (count : Nat) (servers : Vector PjStr MAX_NS_COUNT)
      (ports : Vector Nat MAX_NS_COUNT)
  | pjsip_endpt_set_resolver
  deriving DecidableEq, Repr

/-- What `sippak_set_resolver_ns` returns, the structure with the log, and the calls. -/
structure ResolverRun where
  status : PjStatus
  app : App
  calls : List DnsCall
  deriving DecidableEq, Repr

/-- `sippak_set_resolver_ns`; `ns` and `ports` are what its two arrays hold at the start. -/
def sippakSetResolverNs (lib : DnsLib) (res : ResState) (ns : Vector PjStr MAX_NS_COUNT)
    (ports : Vector Nat MAX_NS_COUNT) (app : App) : Except Abort ResolverRun :=
  match sippakGetNsList res app ns ports with
  | .error e => .error e
  | .ok st =>
    let setNs := lib.dnsResolverSetNs st.nsIdx st.ns st.ports
    let calls : List DnsCall :=
      [.pjsip_endpt_create_resolver, .pj_dns_resolver_set_ns st.nsIdx st.ns st.ports]
    if lib.endptCreateResolver ≠ .PJ_SUCCESS then
      .ok ⟨lib.endptCreateResolver,
        st.app.pjLog 1 PROJECT_NAME "Failed to create end point resolver.".toList,
        [.pjsip_endpt_create_resolver]⟩
    else if setNs ≠ .PJ_SUCCESS then
      .ok ⟨setNs, st.app.pjLog 1 PROJECT_NAME "Failed to set DNS name servers.".toList, calls⟩
    else .ok ⟨lib.endptSetResolver, st.app, calls ++ [.pjsip_endpt_set_resolver]⟩

/-! ## 2. When there is a server -/

/-- The input has a usable server: `--ns` has a character that is no comma, or, without `--ns`,
    the system resolver starts and has an IPv4 server. -/
def UsableServer (res : ResState) (app : App) : Prop :=
  match app.cfg.nameservers with
  | none => res.resInit = true ∧ ∃ server ∈ res.nsaddrList, server.sinFamily = .AF_INET
  | some nameservers => ∃ c ∈ nameservers, c ≠ ','

theorem usableServer_iff {res : ResState} {app : App} :
    nsEntries res app ≠ [] ↔ UsableServer res app := by
  have htake : ∀ {α β : Type} (f : α → β) (l : List α),
      (l.take MAX_NS_COUNT).map f ≠ [] ↔ l ≠ [] := by
    intro α β f l
    rw [ne_eq, List.map_eq_nil_iff, List.take_eq_nil_iff]
    simp
  unfold nsEntries UsableServer
  cases app.cfg.nameservers with
  | none =>
      dsimp only
      rw [htake, ResState.ipv4]
      cases res.resInit with
      | false => simp
      | true => simp [ipv4Servers, List.filter_eq_nil_iff]
  | some nameservers =>
      dsimp only
      rw [htake, ne_eq, fields_eq_nil_iff]
      simp

/-! ## 3. When the step is right -/

/-- What is asked of the step: name servers are set only where there is one, and where there is
    none it succeeds and leaves DNS disabled. -/
structure ResolverRight (res : ResState) (app : App) (run : ResolverRun) : Prop where
  counts : ∀ count servers ports,
    DnsCall.pj_dns_resolver_set_ns count servers ports ∈ run.calls → 1 ≤ count
  disabled : nsEntries res app = [] →
    run.status = .PJ_SUCCESS ∧ DnsCall.pjsip_endpt_set_resolver ∉ run.calls

section Step

/-- **What the step does**: the count is the number of servers listed, and it succeeds exactly
    where the three calls do. -/
theorem sippakSetResolverNs_spec (lib : DnsLib) (res : ResState) (app : App)
    (ns : Vector PjStr MAX_NS_COUNT) (ports : Vector Nat MAX_NS_COUNT) :
    ∃ run servers ports', sippakSetResolverNs lib res ns ports app = .ok run ∧
      run.app.cfg = app.cfg ∧
      (∀ count servers ports, DnsCall.pj_dns_resolver_set_ns count servers ports ∈ run.calls →
        count = (nsEntries res app).length) ∧
      (run.status = .PJ_SUCCESS ↔
        lib.endptCreateResolver = .PJ_SUCCESS ∧
        lib.dnsResolverSetNs (nsEntries res app).length servers ports' = .PJ_SUCCESS ∧
        lib.endptSetResolver = .PJ_SUCCESS) ∧
      (run.status = .PJ_SUCCESS → DnsCall.pjsip_endpt_set_resolver ∈ run.calls) := by
  obtain ⟨st, hcall, h⟩ := sippakGetNsList_listed res app ns ports
  unfold sippakSetResolverNs
  rw [hcall, ← h.idx]
  dsimp only
  by_cases h₁ : lib.endptCreateResolver ≠ .PJ_SUCCESS
  · rw [if_pos h₁]
    refine ⟨_, st.ns, st.ports, rfl, h.cfg, ?_, ?_, fun hok => absurd hok h₁⟩
    · intro count servers ports hmem
      simp at hmem
    · exact ⟨fun hok => absurd hok h₁, fun hall => absurd hall.1 h₁⟩
  · have hcreate := Classical.not_not.mp h₁
    rw [if_neg h₁]
    by_cases h₂ : lib.dnsResolverSetNs st.nsIdx st.ns st.ports ≠ .PJ_SUCCESS
    · rw [if_pos h₂]
      refine ⟨_, st.ns, st.ports, rfl, h.cfg, ?_, ?_, fun hok => absurd hok h₂⟩
      · intro count servers ports hmem
        simp only [List.mem_cons, reduceCtorEq, false_or, DnsCall.pj_dns_resolver_set_ns.injEq,
          List.not_mem_nil, or_false] at hmem
        exact hmem.1
      · exact ⟨fun hok => absurd hok h₂, fun hall => absurd hall.2.1 h₂⟩
    · have hset := Classical.not_not.mp h₂
      rw [if_neg h₂]
      refine ⟨_, st.ns, st.ports, rfl, h.cfg, ?_, ?_, fun _ => by simp⟩
      · intro count servers ports hmem
        simp only [List.cons_append, List.nil_append, List.mem_cons, reduceCtorEq, false_or,
          DnsCall.pj_dns_resolver_set_ns.injEq, List.not_mem_nil, or_false] at hmem
        exact hmem.1
      · exact ⟨fun hok => ⟨hcreate, hset, hok⟩, fun hall => hall.2.2⟩

/-- **The step is right exactly where the input has a usable server**, whatever pjsip's functions
    return. -/
theorem resolver_right_iff (lib : DnsLib) (res : ResState) (app : App)
    (ns : Vector PjStr MAX_NS_COUNT) (ports : Vector Nat MAX_NS_COUNT) :
    ∃ run, sippakSetResolverNs lib res ns ports app = .ok run ∧
      (ResolverRight res app run ↔ UsableServer res app) := by
  obtain ⟨run, -, -, hcall, -, hcount, -, hset⟩ := sippakSetResolverNs_spec lib res app ns ports
  refine ⟨run, hcall, ?_⟩
  rw [← usableServer_iff]
  constructor
  · intro h hnil
    obtain ⟨hok, hno⟩ := h.disabled hnil
    exact hno (hset hok)
  · intro hne
    refine ⟨fun count servers ports' hmem => ?_, fun hnil => absurd hnil hne⟩
    rw [hcount count servers ports' hmem]
    exact List.length_pos_of_ne_nil hne

end Step

/-! ## 4. The start of the program -/

/-- The modules `main` registers around the step, and pjsip's resolver. -/
structure MainLib where
  modLoggerRegister : PjStatus
  dns : DnsLib
  modSipManglerRegister : PjStatus

/-- `main` from behind `sippak_getopts` to its `switch`: the case it goes to, or the status it
    returns before. -/
def mainToSwitch (lib : MainLib) (res : ResState) (ns : Vector PjStr MAX_NS_COUNT)
    (ports : Vector Nat MAX_NS_COUNT) (app : App) : Except Abort (Except PjStatus MainCase × App) :=
  if lib.modLoggerRegister ≠ .PJ_SUCCESS then
    .ok (.error lib.modLoggerRegister,
      app.pjLog 1 PROJECT_NAME "Failed to register logger module.".toList)
  else match sippakSetResolverNs lib.dns res ns ports app with
    | .error e => .error e
    | .ok run =>
      if run.status ≠ .PJ_SUCCESS then
        .ok (.error run.status,
          run.app.pjLog 1 PROJECT_NAME "Failed to set DNS resolvers.".toList)
      else if lib.modSipManglerRegister ≠ .PJ_SUCCESS then
        .ok (.error lib.modSipManglerRegister,
          run.app.pjLog 1 PROJECT_NAME "Failed to register SIP mangler module.".toList)
      else .ok (.ok (mainSwitch run.app.cfg.cmd), run.app)

/-- Everything succeeds, but for an empty list of name servers. -/
structure MainLib.RejectsEmpty (lib : MainLib) : Prop where
  logger : lib.modLoggerRegister = .PJ_SUCCESS
  create : lib.dns.endptCreateResolver = .PJ_SUCCESS
  setNs : ∀ count servers ports,
    lib.dns.dnsResolverSetNs count servers ports = .PJ_SUCCESS ↔ 1 ≤ count
  setResolver : lib.dns.endptSetResolver = .PJ_SUCCESS
  mangler : lib.modSipManglerRegister = .PJ_SUCCESS

/-- `main` keeps the configuration on its way to the switch, and gets there exactly where there is
    a usable server. -/
theorem mainToSwitch_out {lib : MainLib} (hlib : lib.RejectsEmpty) (res : ResState) (app : App)
    (ns : Vector PjStr MAX_NS_COUNT) (ports : Vector Nat MAX_NS_COUNT) :
    ∃ out app', mainToSwitch lib res ns ports app = .ok (out, app') ∧ app'.cfg = app.cfg ∧
      (∀ c, out = .ok c → c = mainSwitch app.cfg.cmd) ∧
      (out = .ok (mainSwitch app.cfg.cmd) ↔ UsableServer res app) := by
  obtain ⟨run, servers, ports', hcall, hcfg, -, hstatus, -⟩ :=
    sippakSetResolverNs_spec lib.dns res app ns ports
  have hok : run.status = .PJ_SUCCESS ↔ UsableServer res app := by
    rw [hstatus, hlib.setNs, ← usableServer_iff, ← List.length_pos_iff]
    exact ⟨fun h => h.2.1, fun h => ⟨hlib.create, h, hlib.setResolver⟩⟩
  unfold mainToSwitch
  rw [if_neg (fun h => h hlib.logger), hcall]
  dsimp only
  by_cases h : run.status = .PJ_SUCCESS
  · rw [if_neg (fun hne => hne h), if_neg (fun hne => hne hlib.mangler), hcfg]
    exact ⟨_, _, rfl, hcfg, fun c hc => (Except.ok.inj hc).symm, fun _ => hok.mp h, fun _ => rfl⟩
  · rw [if_pos h]
    refine ⟨_, _, rfl, hcfg, fun c hc => ?_, fun heq => ?_, fun hus => absurd (hok.mpr hus) h⟩
    · cases hc
    · cases heq

/-- **`main` gets to its switch exactly where there is a usable server**, whatever the command:
    one that needs no DNS, the help text and the version are no exception. -/
theorem main_reaches_switch_iff {lib : MainLib} (hlib : lib.RejectsEmpty) (res : ResState)
    (app : App) (ns : Vector PjStr MAX_NS_COUNT) (ports : Vector Nat MAX_NS_COUNT) :
    ∃ out app', mainToSwitch lib res ns ports app = .ok (out, app') ∧
      (out = .ok (mainSwitch app.cfg.cmd) ↔ UsableServer res app) := by
  obtain ⟨out, app', hrun, -, -, hiff⟩ := mainToSwitch_out hlib res app ns ports
  exact ⟨out, app', hrun, hiff⟩

/-- pjsip's functions where nothing else fails: `pj_dns_resolver_set_ns` refuses the count 0. -/
def MainLib.refusing : MainLib where
  modLoggerRegister := .PJ_SUCCESS
  dns :=
    { endptCreateResolver := .PJ_SUCCESS
      dnsResolverSetNs := fun count _ _ => if count = 0 then .PJ_EINVAL else .PJ_SUCCESS
      endptSetResolver := .PJ_SUCCESS }
  modSipManglerRegister := .PJ_SUCCESS

theorem MainLib.refusing_rejectsEmpty : MainLib.refusing.RejectsEmpty where
  logger := rfl
  create := rfl
  setNs := fun count _ _ => by
    show (if count = 0 then PjStatus.PJ_EINVAL else .PJ_SUCCESS) = .PJ_SUCCESS ↔ 1 ≤ count
    cases count with
    | zero => decide
    | succ n => simp
  setResolver := rfl
  mangler := rfl

/-- With `--ns 10.0.0.2` there is a server, whatever the system has. -/
def servedApp : App :=
  { sippakInit with cfg := { sippakInit.cfg with nameservers := some "10.0.0.2".toList } }

theorem switch_with_server : ∃ app', mainToSwitch .refusing ⟨false, []⟩ (Vector.replicate 3 none)
    (Vector.replicate 3 0) servedApp = .ok (.ok (.cmd .ping), app') := by
  obtain ⟨out, app', hrun, hiff⟩ := main_reaches_switch_iff MainLib.refusing_rejectsEmpty
    ⟨false, []⟩ servedApp (Vector.replicate 3 none) (Vector.replicate 3 0)
  rw [hiff.mpr ⟨'1', List.mem_cons_self, by decide⟩] at hrun
  exact ⟨app', hrun⟩

/-- `sippak --ns , --help` ends before the help text, and so it does without `--ns` where the
    system has IPv6 servers only. -/
theorem no_server_no_help :
    (∃ app run app', sippakGetopts Build.g711 UriLib.plain (fun _ => ([.ns ",".toList, .help], []))
        ["sippak".toList, "--ns".toList, ",".toList, "--help".toList] sippakInit =
          .ok (.PJ_SUCCESS, app) ∧
      mainSwitch app.cfg.cmd = .usage ∧
      sippakSetResolverNs MainLib.refusing.dns ⟨true, []⟩ (Vector.replicate 3 none)
        (Vector.replicate 3 0) app = .ok run ∧ ¬ ResolverRight ⟨true, []⟩ app run ∧
      mainToSwitch .refusing ⟨true, []⟩ (Vector.replicate 3 none) (Vector.replicate 3 0) app =
        .ok (.error .PJ_EINVAL, app')) ∧
    ∃ app', mainToSwitch .refusing ⟨true, [⟨.other, ⟨0, 0, 0, 0⟩, (0, 53)⟩]⟩
      (Vector.replicate 3 none) (Vector.replicate 3 0)
      { sippakInit with cfg := { sippakInit.cfg with cmd := .CMD_HELP } } =
        .ok (.error .PJ_EINVAL, app') := by
  refine ⟨⟨_, _, _, rfl, rfl, rfl, fun h => ?_, rfl⟩, _, rfl⟩
  have hcount := h.counts 0 _ _ (List.mem_cons_of_mem _ List.mem_cons_self)
  exact absurd hcount (by decide)

end Sippak
