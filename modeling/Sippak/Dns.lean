/-
  File:      Sippak/Dns.lean
  Subject:   THE NAME SERVERS (dns.c): `sippak_get_ns_list`, from `--ns` or from the system.

  The two arrays are the caller's: they hold anything when the function is called, and a write
  at an index that is not below `MAX_NS_COUNT` is `.outOfBounds`. The state of the system
  resolver (`res_init` and the table behind `_res`) is an argument.

  * `NsState.Listed` -- what was written so far: the entries, in both arrays from the front, and
    nothing behind them;
  * `parseNameserversString_listed`, `systemResolvNs_listed` -- what each source lists.
-/
import Sippak.Lib.Printf
import Sippak.Lib.Tokens
import Sippak.App

namespace Sippak

open CStr

namespace Dns

def NAME : CStr := "dns_helper".toList

end Dns

abbrev MAX_NS_COUNT : Nat := 3

/-! ## 1. The system resolver -/

inductive AddrFamily where
  | AF_INET | other
  deriving DecidableEq, Repr

/-- An entry of `_res.nsaddr_list`; the port is the two bytes as they lie in memory. -/
structure NsAddr where
  sinFamily : AddrFamily
  sinAddr : InAddr
  sinPort : UInt8 × UInt8
  deriving DecidableEq, Repr

/-- What `res_init` returns is 0, and the table it fills (`nscount` entries). -/
structure ResState where
  resInit : Bool
  nsaddrList : List NsAddr
  deriving DecidableEq, Repr

/-- `pj_ntohs`. -/
def ntohs (port : UInt8 × UInt8) : Nat := port.1.toNat * 256 + port.2.toNat

/-! ## 2. The functions -/

/-- `get_port`. -/
def getPort (server : CStr) : Int :=
  let first := strtok (· == ':') server 0
  let found := strtok (· == ':') server (first.1 + first.2.length)
  if found.1 = server.length then 53
  else
    let port := toInt (strtol found.2)
    if port = 0 then 53 else port

/-- `get_server_ip`. -/
def getServerIp (token : CStr) : CStr := token.takeWhile fun c => c != ':'

/-- The conversion to `pj_uint16_t`. -/
def toU16 (n : Int) : Nat := (n % 2 ^ 16).toNat

/-- `ns_idx`, the arrays, and the structure with the log. -/
structure NsState where
  nsIdx : Nat
  ns : Vector PjStr MAX_NS_COUNT
  ports : Vector Nat MAX_NS_COUNT
  app : App
  deriving DecidableEq, Repr

def NsState.pjLog (st : NsState) (level : Nat) (text : CStr) : NsState :=
  { st with app := st.app.pjLog level Dns.NAME text }

/-- `ns[ns_idx] = ip; ports[ns_idx] = port; ns_idx++;` -/
def NsState.store (st : NsState) (ip : CStr) (port : Nat) : Except Abort NsState :=
  if h : st.nsIdx < MAX_NS_COUNT then
    .ok { st with
      nsIdx := st.nsIdx + 1
      ns := st.ns.set st.nsIdx (some ip) h
      ports := st.ports.set st.nsIdx port h }
  else .error .outOfBounds

/-- One round of the loop of `parse_nameservers_string`. -/
def parseNameserversBody (st : NsState) (token : CStr) : Except Abort NsState :=
  if MAX_NS_COUNT ≤ st.nsIdx then
    .ok (st.pjLog 4 ("More NS servers then allowed. Skip server ".toList ++ token))
  else st.store (getServerIp token) (toU16 (getPort token))

/-- `parse_nameservers_string`. -/
def parseNameserversString (nameservers : CStr) (st : NsState) : Except Abort NsState :=
  forTokens (· == ',') nameservers parseNameserversBody (nameservers.length + 1) 0 st

/-- The loop of `system_resolv_ns` over the entries from the `i`th on. -/
def systemResolvFrom (loopNs : Nat) : List NsAddr → NsState → Except Abort NsState
  | [], st => .ok st
  | server :: servers, st =>
    if st.nsIdx < loopNs then
      if server.sinFamily ≠ .AF_INET then
        systemResolvFrom loopNs servers (st.pjLog 4 "Skip non IPv4 name server".toList)
      else match st.store server.sinAddr.text (ntohs server.sinPort) with
        | .error e => .error e
        | .ok st => systemResolvFrom loopNs servers st
    else .ok st

/-- `system_resolv_ns`. -/
def systemResolvNs (res : ResState) (st : NsState) : Except Abort NsState :=
  if !res.resInit then .ok (st.pjLog 1 "Failed to init resolv lib. DNS is disabled.".toList)
  else
    let nscount := res.nsaddrList.length
    systemResolvFrom (if MAX_NS_COUNT < nscount then MAX_NS_COUNT else nscount) res.nsaddrList
      (st.pjLog 4 ("Found ".toList ++ showDec nscount ++
        " name servers configured on system. Will use first IPv4 one.".toList))

/-- `sippak_get_ns_list`, into arrays that hold `ns` and `ports`. It returns `ns_idx`. -/
def sippakGetNsList (res : ResState) (app : App) (ns : Vector PjStr MAX_NS_COUNT)
    (ports : Vector Nat MAX_NS_COUNT) : Except Abort NsState :=
  match app.cfg.nameservers with
  | none => systemResolvNs res ⟨0, ns, ports, app⟩
  | some nameservers => parseNameserversString nameservers ⟨0, ns, ports, app⟩

/-! ## 3. What is listed -/

/-- `entries` were written over the front of both arrays of `st₀`, and nothing else but the log. -/
structure NsState.Listed (st₀ : NsState) (entries : List (CStr × Nat)) (st : NsState) : Prop where
  idx : st.nsIdx = entries.length
  fits : entries.length ≤ MAX_NS_COUNT
  ns : Slots.Overwritten st₀.ns (entries.map fun e => some e.1) st.ns
  ports : Slots.Overwritten st₀.ports (entries.map Prod.snd) st.ports
  cfg : st.app.cfg = st₀.app.cfg

section Listed

variable {st₀ st : NsState} {entries : List (CStr × Nat)}

theorem NsState.Listed.start (ns : Vector PjStr MAX_NS_COUNT) (ports : Vector Nat MAX_NS_COUNT)
    (app : App) : Listed ⟨0, ns, ports, app⟩ [] ⟨0, ns, ports, app⟩ where
  idx := rfl
  fits := Nat.zero_le _
  ns := .refl ns
  ports := .refl ports
  cfg := rfl

theorem NsState.Listed.pjLog (h : st₀.Listed entries st) (level : Nat) (text : CStr) :
    st₀.Listed entries (st.pjLog level text) := ⟨h.idx, h.fits, h.ns, h.ports, h.cfg⟩

/-- **A store where there is room** adds the entry. -/
theorem NsState.Listed.store (h : st₀.Listed entries st) (hlt : entries.length < MAX_NS_COUNT)
    (ip : CStr) (port : Nat) :
    ∃ st', st.store ip port = .ok st' ∧ st₀.Listed (entries ++ [(ip, port)]) st' := by
  have hidx : st.nsIdx < MAX_NS_COUNT := by rwa [h.idx]
  unfold NsState.store
  rw [dif_pos hidx]
  refine ⟨_, rfl, ?_, ?_, ?_, ?_, h.cfg⟩
  · rw [List.length_append, ← h.idx]
    rfl
  · rw [List.length_append]
    exact hlt
  · rw [List.map_append]
    exact h.ns.set (some ip) (by rw [List.length_map]; exact h.idx) hidx
  · rw [List.map_append]
    exact h.ports.set port (by rw [List.length_map]; exact h.idx) hidx

/-- The entry of a field of `--ns`. -/
def nsEntry (token : CStr) : CStr × Nat := (getServerIp token, toU16 (getPort token))

/-- The loop over the fields fills up what room is left. -/
theorem parseNameserversBody_fold (tokens : List CStr) (h : st₀.Listed entries st) :
    ∃ st', tokens.foldlM parseNameserversBody st = .ok st' ∧
      st₀.Listed (entries ++ (tokens.map nsEntry).take (MAX_NS_COUNT - entries.length)) st' := by
  induction tokens generalizing entries st with
  | nil =>
      refine ⟨st, rfl, ?_⟩
      rw [List.map_nil, List.take_nil, List.append_nil]
      exact h
  | cons token tokens ih =>
      rw [List.foldlM_cons, List.map_cons, parseNameserversBody]
      by_cases hfull : MAX_NS_COUNT ≤ entries.length
      · -- no room: the field is skipped
        have hzero : MAX_NS_COUNT - entries.length = 0 := Nat.sub_eq_zero_of_le hfull
        rw [if_pos (by rw [h.idx]; exact hfull)]
        obtain ⟨st', hfold, h'⟩ := ih (h.pjLog _ _)
        refine ⟨st', hfold, ?_⟩
        rw [hzero, List.take_zero] at h' ⊢
        exact h'
      · have hlt := Nat.lt_of_not_le hfull
        obtain ⟨st₁, hstore, h₁⟩ := h.store hlt (getServerIp token) (toU16 (getPort token))
        rw [if_neg (by rw [h.idx]; exact hfull), hstore]
        obtain ⟨st', hfold, h'⟩ := ih h₁
        refine ⟨st', hfold, ?_⟩
        have hroom : MAX_NS_COUNT - entries.length =
            MAX_NS_COUNT - (entries ++ [nsEntry token]).length + 1 := by
          rw [List.length_append, List.length_singleton]
          omega
        rw [hroom, List.take_succ_cons]
        rw [List.append_assoc] at h'
        exact h'

/-- **`--ns` lists the first fields.** -/
theorem parseNameserversString_listed (nameservers : CStr) (ns : Vector PjStr MAX_NS_COUNT)
    (ports : Vector Nat MAX_NS_COUNT) (app : App) :
    ∃ st, parseNameserversString nameservers ⟨0, ns, ports, app⟩ = .ok st ∧
      NsState.Listed ⟨0, ns, ports, app⟩
        (((fields (· == ',') nameservers).take MAX_NS_COUNT).map nsEntry) st := by
  obtain ⟨st, hfold, h⟩ := parseNameserversBody_fold (fields (· == ',') nameservers)
    (NsState.Listed.start ns ports app)
  unfold parseNameserversString
  rw [forTokens_fields, ← List.map_take] at *
  exact ⟨st, hfold, h⟩

/-- The IPv4 entries of the table. -/
def ipv4Servers (servers : List NsAddr) : List NsAddr :=
  servers.filter fun server => server.sinFamily = .AF_INET

/-- The IPv4 servers the system has; none where `res_init` fails. -/
def ResState.ipv4 (res : ResState) : List NsAddr :=
  if res.resInit then ipv4Servers res.nsaddrList else []

/-- The entry of a server of the table. -/
def NsAddr.entry (server : NsAddr) : CStr × Nat := (server.sinAddr.text, ntohs server.sinPort)

theorem systemResolvFrom_listed {loopNs : Nat} (hloop : loopNs ≤ MAX_NS_COUNT)
    (servers : List NsAddr) (h : st₀.Listed entries st) :
    ∃ st', systemResolvFrom loopNs servers st = .ok st' ∧
      st₀.Listed
        (entries ++ ((ipv4Servers servers).map NsAddr.entry).take (loopNs - entries.length))
        st' := by
  induction servers generalizing entries st with
  | nil =>
      refine ⟨st, rfl, ?_⟩
      rw [ipv4Servers, List.filter_nil, List.map_nil, List.take_nil, List.append_nil]
      exact h
  | cons server servers ih =>
      rw [systemResolvFrom, ipv4Servers, List.filter_cons]
      by_cases hlt : entries.length < loopNs
      · rw [if_pos (by rw [h.idx]; exact hlt)]
        by_cases hfam : server.sinFamily = .AF_INET
        · rw [if_neg (fun hne => hne hfam), if_pos (by simp [hfam])]
          obtain ⟨st₁, hstore, h₁⟩ := h.store (Nat.lt_of_lt_of_le hlt hloop)
            server.sinAddr.text (ntohs server.sinPort)
          rw [hstore]
          obtain ⟨st', hrest, h'⟩ := ih h₁
          refine ⟨st', hrest, ?_⟩
          have hroom : loopNs - entries.length =
              loopNs - (entries ++ [server.entry]).length + 1 := by
            rw [List.length_append, List.length_singleton]
            omega
          rw [hroom, List.map_cons, List.take_succ_cons]
          rw [List.append_assoc] at h'
          exact h'
        · rw [if_pos hfam, if_neg (by simp [hfam])]
          exact ih (h.pjLog _ _)
      · have hzero : loopNs - entries.length = 0 :=
          Nat.sub_eq_zero_of_le (Nat.le_of_not_lt hlt)
        rw [if_neg (by rw [h.idx]; exact hlt), hzero, List.take_zero, List.append_nil]
        exact ⟨st, rfl, h⟩

/-- **The system lists its first IPv4 servers.** -/
theorem systemResolvNs_listed (res : ResState) (ns : Vector PjStr MAX_NS_COUNT)
    (ports : Vector Nat MAX_NS_COUNT) (app : App) :
    ∃ st, systemResolvNs res ⟨0, ns, ports, app⟩ = .ok st ∧
      NsState.Listed ⟨0, ns, ports, app⟩
        ((res.ipv4.take MAX_NS_COUNT).map NsAddr.entry) st := by
  unfold systemResolvNs ResState.ipv4
  have hstart := NsState.Listed.start ns ports app
  cases hres : res.resInit with
  | false => exact ⟨_, rfl, hstart.pjLog _ _⟩
  | true =>
      have hloop : (if MAX_NS_COUNT < res.nsaddrList.length then MAX_NS_COUNT
          else res.nsaddrList.length) ≤ MAX_NS_COUNT := by
        split
        · exact Nat.le_refl _
        · rename_i hle
          exact Nat.le_of_not_lt hle
      obtain ⟨st, hrun, h⟩ := systemResolvFrom_listed hloop res.nsaddrList
        (hstart.pjLog 4 ("Found ".toList ++ showDec res.nsaddrList.length ++
          " name servers configured on system. Will use first IPv4 one.".toList))
      refine ⟨st, hrun, ?_⟩
      rw [List.nil_append, List.length_nil, Nat.sub_zero, ← List.map_take] at h
      rw [if_pos rfl]
      -- the bound of the loop cuts no more than the size of the arrays does
      have hcut : (ipv4Servers res.nsaddrList).take
          (if MAX_NS_COUNT < res.nsaddrList.length then MAX_NS_COUNT
            else res.nsaddrList.length) = (ipv4Servers res.nsaddrList).take MAX_NS_COUNT := by
        split
        · rfl
        · rename_i hle
          have hlen : (ipv4Servers res.nsaddrList).length ≤ res.nsaddrList.length :=
            List.length_filter_le _ _
          rw [List.take_of_length_le hlen, List.take_of_length_le (by omega)]
      rw [hcut] at h
      exact h

end Listed

/-! ## 4. `sippak_get_ns_list` -/

/-- The part of a field before its first `:`, or all of it. -/
def fieldHost (token : CStr) : CStr := ((cutAt ':' token).map Prod.fst).getD token

theorem getServerIp_eq (token : CStr) : getServerIp token = fieldHost token := by
  unfold getServerIp fieldHost cutAt
  by_cases h : ':' ∈ token
  · rw [if_pos h]
    rfl
  · rw [if_neg h]
    have hall : ∀ c ∈ token, (c != ':') = true := by
      intro c hc
      rw [bne_iff_ne]
      intro e
      subst e
      exact h hc
    exact List.takeWhile_eq_self_iff.mpr hall

/-- The servers the input names: the first fields of `--ns`, or the system's first IPv4
    servers. -/
def nsEntries (res : ResState) (app : App) : List (CStr × Nat) :=
  match app.cfg.nameservers with
  | none => (res.ipv4.take MAX_NS_COUNT).map NsAddr.entry
  | some nameservers => ((fields (· == ',') nameservers).take MAX_NS_COUNT).map nsEntry

theorem map_nsEntry_port (tokens : List CStr) :
    (tokens.map nsEntry).map Prod.snd = tokens.map fun f => toU16 (getPort f) := by
  simp only [List.map_map, Function.comp_def, nsEntry]

theorem sippakGetNsList_listed (res : ResState) (app : App) (ns : Vector PjStr MAX_NS_COUNT)
    (ports : Vector Nat MAX_NS_COUNT) :
    ∃ st, sippakGetNsList res app ns ports = .ok st ∧
      NsState.Listed ⟨0, ns, ports, app⟩ (nsEntries res app) st := by
  unfold sippakGetNsList nsEntries
  cases app.cfg.nameservers with
  | none => exact systemResolvNs_listed res ns ports app
  | some nameservers => exact parseNameserversString_listed nameservers ns ports app

/-- **`sippak_get_ns_list` finds the right servers and stays in bounds**, whatever the arrays
    held: their fronts hold what the input names, up to the limit, and behind the returned count
    they are what they were. -/
theorem ns_list_right (res : ResState) (app : App) (ns : Vector PjStr MAX_NS_COUNT)
    (ports : Vector Nat MAX_NS_COUNT) :
    ∃ st, sippakGetNsList res app ns ports = .ok st ∧
      (∀ nameservers, app.cfg.nameservers = some nameservers →
        st.nsIdx = min MAX_NS_COUNT (fields (· == ',') nameservers).length ∧
        Slots.Overwritten ns
          (((fields (· == ',') nameservers).take MAX_NS_COUNT).map fun f => some (fieldHost f))
          st.ns ∧
        Slots.Overwritten ports
          (((fields (· == ',') nameservers).take MAX_NS_COUNT).map fun f => toU16 (getPort f))
          st.ports) ∧
      (app.cfg.nameservers = none →
        st.nsIdx = min MAX_NS_COUNT res.ipv4.length ∧
        Slots.Overwritten ns
          ((res.ipv4.take MAX_NS_COUNT).map fun server => some server.sinAddr.text) st.ns ∧
        Slots.Overwritten ports
          ((res.ipv4.take MAX_NS_COUNT).map fun server => ntohs server.sinPort) st.ports) := by
  obtain ⟨st, hcall, h⟩ := sippakGetNsList_listed res app ns ports
  refine ⟨st, hcall, fun nameservers hns => ?_, fun hns => ?_⟩
  · unfold nsEntries at h
    rw [hns] at h
    have hhosts : (((fields (· == ',') nameservers).take MAX_NS_COUNT).map nsEntry).map
        (fun e => some e.1) = ((fields (· == ',') nameservers).take MAX_NS_COUNT).map
          fun f => some (fieldHost f) := by
      rw [List.map_map]
      exact List.map_congr_left fun f _ => congrArg some (getServerIp_eq f)
    have hidx := h.idx
    have hnames := h.ns
    have hports := h.ports
    rw [List.length_map, List.length_take] at hidx
    rw [hhosts] at hnames
    rw [map_nsEntry_port] at hports
    exact ⟨hidx, hnames, hports⟩
  · unfold nsEntries at h
    rw [hns] at h
    have hidx := h.idx
    have hnames := h.ns
    have hports := h.ports
    rw [List.length_map, List.length_take] at hidx
    rw [List.map_map] at hnames hports
    exact ⟨hidx, hnames, hports⟩

/-- Empty fields are skipped, and a fourth server is not stored. -/
example : (fields (· == ',') ",8.8.8.8:53,,a:,b,c,d".toList).take MAX_NS_COUNT =
    ["8.8.8.8:53".toList, "a:".toList, "b".toList] := by decide

end Sippak
