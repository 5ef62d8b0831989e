/-
  File:      Sippak/DnsPort.lean
  Subject:   THE PORT OF A NAME SERVER (dns.c): what `--ns` asks for, and what is stored.

  `portWritten` is the port a field asks for: the text behind its first `:` where that is a
  decimal number from 1 to 65535, and 53 otherwise. `get_port` looks elsewhere: it takes the
  second non-empty piece between the colons, reads the number that piece starts with as a
  `long`, makes it an `int`, replaces 0 by 53, and the array keeps the last 16 bits of the rest.

  * `getPort_eq` -- `get_port` by the pieces;
  * `toU16_getPort` -- the stored port by the number written, without the three conversions;
  * `stored_iff` -- **when a field's port is stored as it was asked for** (`PortReadable`).
-/
import Sippak.Dns
import Sippak.Getopts

namespace Sippak

open CStr

/-! ## 1. What is asked for -/

/-- The text is a decimal number from 1 to 65535. -/
def isPort (t : CStr) : Bool :=
  t ≠ [] && t.all isDigit && 1 ≤ decimal t && decimal t ≤ 65535

/-- The port a field asks for. -/
def portWritten (token : CStr) : Nat :=
  match cutAt ':' token with
  | none => 53
  | some (_, t) => if isPort t then decimal t else 53

/-- The port is where `get_port` looks for it: a server stands in front of it, or it is 53; and
    where there is no port to find, what stands at that place does not read as one (it is 0
    modulo 2 ^ 32, or 53 modulo 2 ^ 16). -/
def PortReadable (token : CStr) : Prop :=
  ∀ host t, cutAt ':' token = some (host, t) →
    if isPort t then host ≠ [] ∨ decimal t = 53
    else ∀ piece, (fields (· == ':') token)[1]? = some piece →
      numeral piece % 4294967296 = 0 ∨ numeral piece % 65536 = 53

theorem isPort_iff {t : CStr} :
    isPort t = true ↔ t ≠ [] ∧ (∀ c ∈ t, isDigit c = true) ∧ 1 ≤ decimal t ∧
      decimal t ≤ 65535 := by
  simp [isPort, and_assoc]

/-! ## 2. What is stored -/

/-- The second piece, read as `get_port` reads it. -/
theorem getPort_eq (token : CStr) :
    getPort token =
      match (fields (· == ':') token)[1]? with
      | none => 53
      | some piece => if toInt (strtol piece) = 0 then 53 else toInt (strtol piece) := by
  unfold getPort
  rcases strtok_next (d := (· == ':')) token (Nat.zero_le _) with
    ⟨hnil, h₁⟩ | ⟨i, tok, h₁, -, hne, hlen, hfields⟩
  · -- no piece at all: the second call starts at the end
    rw [List.drop_zero] at hnil
    have h₂ : strtok (· == ':') token (token.length + 0) = (token.length, []) := by
      rcases strtok_next (d := (· == ':')) token (Nat.le_refl _) with
        ⟨-, h⟩ | ⟨j, tok, -, hj, hne, hlen, -⟩
      · exact h
      · have := List.length_pos_of_ne_nil hne
        omega
    rw [h₁, hnil]
    dsimp only
    rw [List.length_nil, h₂, if_pos rfl]
    rfl
  · rw [List.drop_zero] at hfields
    rw [h₁, hfields, List.getElem?_cons_succ]
    dsimp only
    rcases strtok_next (d := (· == ':')) token hlen with
      ⟨hnil, h₂⟩ | ⟨j, tok₂, h₂, -, hne₂, hlen₂, hfields₂⟩
    · rw [h₂, hnil, if_pos rfl]
      rfl
    · have hpos := List.length_pos_of_ne_nil hne₂
      rw [h₂, hfields₂, if_neg (by dsimp only; omega)]
      rfl

/-- The conversions keep the number modulo `2 ^ 16`, and 0 is what is 0 modulo `2 ^ 32`. -/
theorem toInt_strtol (piece : CStr) :
    (toInt (strtol piece) = 0 ↔ numeral piece % 4294967296 = 0) ∧
      toInt (strtol piece) % 65536 = numeral piece % 65536 := by
  rw [toInt_strtol_eq]
  constructor
  · have hdvd : (4294967296 : Int) ∣ numeral piece ↔ toInt (numeral piece) = 0 :=
      Int.dvd_iff_bmod_eq_zero
    rw [← hdvd, Int.dvd_iff_emod_eq_zero]
  · have hdvd : (4294967296 : Int) ∣ numeral piece - toInt (numeral piece) :=
      Int.dvd_self_sub_bmod
    omega

/-- **The stored port**, by the number the second piece starts with. -/
theorem toU16_getPort (token : CStr) :
    (toU16 (getPort token) : Int) =
      match (fields (· == ':') token)[1]? with
      | none => 53
      | some piece =>
        if numeral piece % 4294967296 = 0 then 53 else numeral piece % 65536 := by
  rw [getPort_eq]
  unfold toU16
  cases (fields (· == ':') token)[1]? with
  | none => rfl
  | some piece =>
      obtain ⟨hzero, hmod⟩ := toInt_strtol piece
      dsimp only
      by_cases h : numeral piece % 4294967296 = 0
      · rw [if_pos (hzero.mpr h), if_pos h]
        rfl
      · have hpos := Int.emod_nonneg (numeral piece) (by decide : (65536 : Int) ≠ 0)
        rw [if_neg (fun h0 => h (hzero.mp h0)), if_neg h, ← hmod]
        exact Int.toNat_of_nonneg (by rw [← hmod] at hpos; exact hpos)

/-! ## 3. When they agree -/

theorem fields_run_only {d : Char → Bool} {s : CStr} (hs : ∀ c ∈ s, d c = false) :
    (fields d s)[1]? = none := by
  by_cases hne : s = []
  · rw [hne, fields_nil]
    rfl
  · rw [fields_of_run hne hs]
    rfl

theorem not_colon_of_isDigit {c : Char} (h : isDigit c = true) : (c == ':') = false := by
  rw [beq_eq_false_iff_ne]
  intro e
  subst e
  cases h

/-- A text of digits starts with the number it is. -/
theorem numeral_of_digits {t : CStr} (hdigits : ∀ c ∈ t, isDigit c = true) :
    numeral t = decimal t := by
  have h := numeral_digits_append hdigits (w := []) fun c hc => absurd hc List.not_mem_nil
  rwa [List.append_nil] at h

/-- The pieces of `host:port` where the second is a port. -/
theorem second_piece {host t : CStr} (hhost : ':' ∉ host) (ht : isPort t = true) :
    (fields (· == ':') (host ++ ':' :: t))[1]? = if host = [] then none else some t := by
  obtain ⟨hne, hdigits, -, -⟩ := isPort_iff.mp ht
  have hrun : fields (· == ':') t = [t] :=
    fields_of_run hne fun c hc => not_colon_of_isDigit (hdigits c hc)
  rw [fields_append_delim rfl, hrun]
  by_cases hnil : host = []
  · rw [if_pos hnil, hnil, fields_nil]
    rfl
  · have hhostRun : fields (· == ':') host = [host] :=
      fields_of_run hnil (not_mem_iff_beq.mp hhost)
    rw [if_neg hnil, hhostRun]
    rfl

/-- **The stored port is the one asked for** exactly where it is where the code looks for it. -/
theorem stored_iff (token : CStr) :
    toU16 (getPort token) = portWritten token ↔ PortReadable token := by
  have hstored := toU16_getPort token
  unfold portWritten PortReadable
  cases hcut : cutAt ':' token with
  | none =>
      have hno : ∀ c ∈ token, (c == ':') = false :=
        not_mem_iff_beq.mp (cutAt_eq_none_iff.mp hcut)
      rw [fields_run_only hno] at hstored
      dsimp only at hstored ⊢
      refine ⟨fun _ host t h => (by cases h), fun _ => ?_⟩
      omega
  | some p =>
      obtain ⟨host, t⟩ := p
      obtain ⟨hsplit, hhost⟩ := cutAt_eq_some hcut
      have hall : ∀ P : CStr → CStr → Prop,
          (∀ host' t', some (host, t) = some (host', t') → P host' t') ↔ P host t := by
        intro P
        exact ⟨fun h => h host t rfl, fun h host' t' heq => by cases heq; exact h⟩
      rw [hall fun host t => if isPort t then host ≠ [] ∨ decimal t = 53
        else ∀ piece, (fields (· == ':') token)[1]? = some piece →
          numeral piece % 4294967296 = 0 ∨ numeral piece % 65536 = 53]
      dsimp only
      by_cases hport : isPort t = true
      · -- a port is written: it is read where a server stands in front of it
        obtain ⟨-, hdigits, hlo, hhi⟩ := isPort_iff.mp hport
        have hnum := numeral_of_digits hdigits
        rw [hsplit, second_piece hhost hport] at hstored
        rw [if_pos hport, if_pos hport]
        by_cases hnil : host = []
        · rw [if_pos hnil] at hstored
          dsimp only at hstored
          rw [hsplit]
          constructor
          · intro h
            exact Or.inr (by omega)
          · intro h
            rcases h with h | h
            · exact absurd hnil h
            · omega
        · rw [if_neg hnil] at hstored
          dsimp only at hstored
          have hndvd : ¬ numeral t % 4294967296 = 0 := by omega
          rw [if_neg hndvd, ← hsplit] at hstored
          exact ⟨fun _ => Or.inl hnil, fun _ => by omega⟩
      · -- no port is written: 53 is right, whatever is read instead
        rw [if_neg hport, if_neg hport]
        cases hpiece : (fields (· == ':') token)[1]? with
        | none =>
            rw [hpiece] at hstored
            dsimp only at hstored
            refine ⟨fun _ piece h => (by cases h), fun _ => ?_⟩
            omega
        | some piece =>
            rw [hpiece] at hstored
            dsimp only at hstored
            have hcases : (toU16 (getPort token) = 53) ↔
                (numeral piece % 4294967296 = 0 ∨ numeral piece % 65536 = 53) := by
              by_cases hzero : numeral piece % 4294967296 = 0
              · rw [if_pos hzero] at hstored
                exact ⟨fun _ => Or.inl hzero, fun _ => Int.ofNat.inj hstored⟩
              · rw [if_neg hzero] at hstored
                constructor
                · intro h
                  rw [← hstored, h]
                  exact Or.inr rfl
                · intro h
                  rcases h with h | h
                  · exact absurd h hzero
                  · rw [h] at hstored
                    exact Int.ofNat.inj hstored
            rw [hcases]
            constructor
            · rintro h _ ⟨⟩
              exact h
            · exact fun h => h piece rfl

/-! ## 4. The stored ports -/

theorem ports_of_listed {res : ResState} {app : App} {ns : Vector PjStr MAX_NS_COUNT}
    {ports : Vector Nat MAX_NS_COUNT} {st : NsState} {nameservers : CStr}
    (hns : app.cfg.nameservers = some nameservers)
    (h : NsState.Listed ⟨0, ns, ports, app⟩ (nsEntries res app) st) :
    st.ports.toList.take st.nsIdx =
      ((fields (· == ',') nameservers).take MAX_NS_COUNT).map fun f => toU16 (getPort f) := by
  have hports := h.ports
  have hidx := h.idx
  unfold nsEntries at hports hidx
  rw [hns] at hports hidx
  dsimp only at hports hidx
  rw [map_nsEntry_port] at hports
  rw [List.length_map] at hidx
  rw [hports, hidx]
  exact List.take_left' (by rw [List.length_map])

/-- **`--ns` stores the ports it was asked for** exactly when in each of the fields it keeps the
    port is where `get_port` looks for it. -/
theorem ns_ports_right_iff (res : ResState) (app : App) (ns : Vector PjStr MAX_NS_COUNT)
    (ports : Vector Nat MAX_NS_COUNT) {nameservers : CStr}
    (hns : app.cfg.nameservers = some nameservers) :
    ∃ st, sippakGetNsList res app ns ports = .ok st ∧
      (st.ports.toList.take st.nsIdx =
          ((fields (· == ',') nameservers).take MAX_NS_COUNT).map portWritten ↔
        ∀ token ∈ (fields (· == ',') nameservers).take MAX_NS_COUNT, PortReadable token) := by
  obtain ⟨st, hcall, h⟩ := sippakGetNsList_listed res app ns ports
  refine ⟨st, hcall, ?_⟩
  rw [ports_of_listed hns h, List.map_inj_left]
  constructor
  · intro hstored token htoken
    exact (stored_iff token).mp (hstored token htoken)
  · intro hread token htoken
    exact (stored_iff token).mpr (hread token htoken)

/-- The structure `--ns` leaves. -/
def App.withNs (app : App) (nameservers : CStr) : App :=
  { app with cfg := { app.cfg with nameservers := some nameservers } }

/-- `--ns 8.8.8.8:5353,1.1.1.1` stores 5353 and 53. -/
theorem ns_ports_right_two :
    ∃ st, sippakGetNsList ⟨false, []⟩ (sippakInit.withNs "8.8.8.8:5353,1.1.1.1".toList)
        (Vector.replicate 3 none) (Vector.replicate 3 0) = .ok st ∧
      (st.ports.toList.take st.nsIdx = [5353, 53] ↔
        ∀ token ∈ ["8.8.8.8:5353".toList, "1.1.1.1".toList], PortReadable token) :=
  ns_ports_right_iff ⟨false, []⟩ (sippakInit.withNs "8.8.8.8:5353,1.1.1.1".toList) _ _ rfl

/-- 65536 is stored as 0 and 70000 as 4464, and a port without a server in front is not seen. -/
theorem ns_port_truncated :
    ∃ app st, sippakGetopts Build.g711 UriLib.plain
        (fun _ => ([.ns "8.8.8.8:65536,1.1.1.1:70000,:5353".toList],
          ["ping".toList, "sip:alice@host".toList]))
        ["sippak".toList, "--ns".toList, "8.8.8.8:65536,1.1.1.1:70000,:5353".toList,
          "ping".toList, "sip:alice@host".toList] sippakInit = .ok (.PJ_SUCCESS, app) ∧
      sippakGetNsList ⟨true, []⟩ app (Vector.replicate 3 none) (Vector.replicate 3 0) = .ok st ∧
      st.ports.toList.take st.nsIdx = [0, 4464, 53] ∧
      (fields (· == ',') "8.8.8.8:65536,1.1.1.1:70000,:5353".toList).map portWritten =
        [53, 53, 5353] :=
  ⟨_, _, rfl, rfl, by decide, by decide⟩

end Sippak
