/-
  File:      Sippak/Lib/SipText.lean
  Subject:   THE TEXT OF A SIP URI, as the grammar of RFC 3261 reads it: `sip:`, an optional
             escaped user with `@` behind it, a host, and an optional port.

  The user is a non-empty run of user characters and escapes `%HH`; it is read unescaped. Of the
  grammar only what stands before parameters and headers is here, and no password.

  * `unescape_length`, `unescape_of_user` -- a text reads as itself exactly where all of it is user
    characters, and as a shorter one where it is well escaped otherwise;
  * `parse_userHost_iff` -- **what a text that was put together from a user part and a host part
    reads as**: it is refused where the user part is empty or not well escaped, whatever the `@`
    in it.
-/
import Sippak.Lib.Printf

namespace SipText

open CStr

/-! ## 1. The grammar -/

/-- `unreserved` and `user-unreserved`. -/
def isUserChar (c : Char) : Bool :=
  c.isAlphanum ||
    ['-', '_', '.', '!', '~', '*', '\'', '(', ')', '&', '=', '+', '$', ',', ';', '?', '/'].contains c

/-- The value of a hexadecimal digit. -/
def hexDigit (c : Char) : Option Nat :=
  if '0' ≤ c && c ≤ '9' then some (c.toNat - '0'.toNat)
  else if 'a' ≤ c && c ≤ 'f' then some (c.toNat - 'a'.toNat + 10)
  else if 'A' ≤ c && c ≤ 'F' then some (c.toNat - 'A'.toNat + 10)
  else none

/-- The user part without its escapes; `none` = it is not made of user characters and escapes. -/
def unescape : CStr → Option CStr
  | [] => some []
  | '%' :: hi :: lo :: s =>
    match hexDigit hi, hexDigit lo, unescape s with
    | some x, some y, some t => some (Char.ofNat (16 * x + y) :: t)
    | _, _, _ => none
  | c :: s => if isUserChar c then (unescape s).map (c :: ·) else none

/-- A host name or an IPv4 address: letters, digits, hyphens and dots. -/
def isHost (s : CStr) : Bool := s ≠ [] && s.all fun c => c.isAlphanum || c == '-' || c == '.'

/-- What a SIP URI says about where to go. -/
structure SipAddr where
  user : Option CStr
  host : CStr
  port : Option Nat
  deriving DecidableEq, Repr

/-- `host [ ":" port ]`. -/
def parseHostport (s : CStr) : Option (CStr × Option Nat) :=
  match cutAt ':' s with
  | none => if isHost s then some (s, none) else none
  | some (host, port) =>
    if isHost host && port ≠ [] && port.all isDigit then some (host, some (decimal port))
    else none

/-- `"sip:" [ user "@" ] host [ ":" port ]`. -/
def parse (s : CStr) : Option SipAddr :=
  if startsIgnoreCase s "sip:".toList then
    match cutAt '@' (s.drop 4) with
    | none => (parseHostport (s.drop 4)).map fun p => ⟨none, p.1, p.2⟩
    | some (user, hostport) =>
      match unescape user, parseHostport hostport with
      | some u, some (host, port) => if user = [] then none else some ⟨some u, host, port⟩
      | _, _ => none
  else none

/-! ## 2. Escapes -/

/-- **Unescaping does not lengthen**, and where it keeps the length there was nothing to do. -/
theorem unescape_length {s t : CStr} (h : unescape s = some t) :
    t.length ≤ s.length ∧ (s.length ≤ t.length → s = t ∧ ∀ c ∈ s, isUserChar c = true) := by
  fun_induction unescape s generalizing t with
  | case1 =>
      cases h
      exact ⟨Nat.le_refl _, fun _ => ⟨rfl, fun _ hc => absurd hc List.not_mem_nil⟩⟩
  | case2 hi lo s x y u hx hy hu ih =>
      -- an escape: three characters become one
      cases h
      obtain ⟨hle, -⟩ := ih ‹unescape s = some u›
      simp only [List.length_cons]
      exact ⟨by omega, fun hge => by omega⟩
  | case3 => cases h
  | case4 c s hesc huser ih =>
      obtain ⟨u, hu, rfl⟩ := Option.map_eq_some_iff.mp h
      obtain ⟨hle, heq⟩ := ih hu
      simp only [List.length_cons]
      refine ⟨by omega, fun hge => ?_⟩
      obtain ⟨rfl, hall⟩ := heq (by omega)
      refine ⟨rfl, fun x hx => ?_⟩
      rcases List.mem_cons.mp hx with rfl | hx
      · exact huser
      · exact hall x hx
  | case5 => cases h

theorem unescape_of_user {s : CStr} (h : ∀ c ∈ s, isUserChar c = true) : unescape s = some s := by
  induction s with
  | nil => rfl
  | cons c s ih =>
      have hc := h c List.mem_cons_self
      have hpercent : c ≠ '%' := by
        intro e
        subst e
        exact absurd hc (by decide)
      rw [unescape, if_pos hc, ih fun x hx => h x (List.mem_cons_of_mem _ hx)]
      · rfl
      · rintro hi lo r rfl
        exact fun _ => hpercent rfl

theorem at_notMem_of_unescape {s t : CStr} (h : unescape s = some t) : '@' ∉ s := by
  have hhex : ∀ {c : Char} {n : Nat}, hexDigit c = some n → c ≠ '@' := by
    rintro c n hc rfl
    have hat : hexDigit '@' = none := by decide
    rw [hat] at hc
    cases hc
  fun_induction unescape s generalizing t with
  | case1 => exact List.not_mem_nil
  | case2 hi lo s x y u hx hy hu ih =>
      have hs := ih ‹unescape s = some u›
      have hhi := hhex ‹hexDigit hi = some x›
      have hlo := hhex ‹hexDigit lo = some y›
      simp only [List.mem_cons, not_or]
      exact ⟨by decide, hhi.symm, hlo.symm, hs⟩
  | case3 => cases h
  | case4 c s hesc huser ih =>
      obtain ⟨u, hu, rfl⟩ := Option.map_eq_some_iff.mp h
      have hc : c ≠ '@' := by
        intro e
        subst e
        exact absurd huser (by decide)
      simp only [List.mem_cons, not_or]
      exact ⟨hc.symm, ih hu⟩
  | case5 => cases h

/-! ## 3. The host part -/

theorem isHost_iff {s : CStr} :
    isHost s = true ↔ s ≠ [] ∧ ∀ c ∈ s, c.isAlphanum = true ∨ c = '-' ∨ c = '.' := by
  simp [isHost, or_assoc]

theorem at_notMem_of_isHost {s : CStr} (h : isHost s = true) : '@' ∉ s := by
  intro hmem
  exact absurd ((isHost_iff.mp h).2 '@' hmem) (by decide)

theorem at_notMem_of_hostport {s : CStr} {p : CStr × Option Nat}
    (h : parseHostport s = some p) : '@' ∉ s := by
  unfold parseHostport at h
  cases hcut : cutAt ':' s with
  | none =>
      rw [hcut] at h
      dsimp only at h
      split at h
      · exact at_notMem_of_isHost ‹_›
      · cases h
  | some q =>
      obtain ⟨host, port⟩ := q
      obtain ⟨rfl, -⟩ := cutAt_eq_some hcut
      rw [hcut] at h
      dsimp only at h
      split at h
      · rename_i hall
        simp only [Bool.and_eq_true, List.all_eq_true] at hall
        obtain ⟨⟨hhost, -⟩, hport⟩ := hall
        intro hmem
        rcases List.mem_append.mp hmem with hmem | hmem
        · exact at_notMem_of_isHost hhost hmem
        · rcases List.mem_cons.mp hmem with heq | hmem
          · exact absurd heq (by decide)
          · exact absurd (hport '@' hmem) (by decide)
      · cases h

/-- `host:port` reads as the two. -/
theorem parseHostport_append {host port : CStr} (hhost : isHost host = true) (hne : port ≠ [])
    (hport : ∀ c ∈ port, isDigit c = true) :
    parseHostport (host ++ ':' :: port) = some (host, some (decimal port)) := by
  have hcolon : ':' ∉ host := by
    intro hmem
    exact absurd ((isHost_iff.mp hhost).2 ':' hmem) (by decide)
  unfold parseHostport
  rw [cutAt_append hcolon]
  dsimp only
  rw [if_pos]
  simp only [Bool.and_eq_true, List.all_eq_true, decide_eq_true_eq]
  exact ⟨⟨hhost, hne⟩, hport⟩

theorem isHost_addr (addr : InAddr) : isHost addr.text = true := by
  have hdec : ∀ n : Nat, ∀ c ∈ showDec n, c.isAlphanum = true ∨ c = '-' ∨ c = '.' := by
    intro n c hc
    have hd : c.isDigit = true := Nat.isDigit_of_mem_toDigits (by decide) (by decide) hc
    exact Or.inl (by rw [Char.isAlphanum, hd, Bool.or_true])
  rw [isHost_iff]
  refine ⟨fun h => showDec_ne_nil _ (List.append_eq_nil_iff.mp h).1, fun c hc => ?_⟩
  unfold InAddr.text at hc
  simp only [List.mem_append, List.mem_cons] at hc
  rcases hc with hc | hc | hc | hc | hc | hc | hc
  · exact hdec _ c hc
  · exact Or.inr (Or.inr hc)
  · exact hdec _ c hc
  · exact Or.inr (Or.inr hc)
  · exact hdec _ c hc
  · exact Or.inr (Or.inr hc)
  · exact hdec _ c hc

/-! ## 4. User and host part together -/

/-- **What `sip:user@host` reads as**, for any texts in the two places: the user part must be
    there and be well escaped. -/
theorem parse_userHost_iff {user hostport host : CStr} {port : Option Nat}
    (hhp : parseHostport hostport = some (host, port)) {v : SipAddr} :
    parse ("sip:".toList ++ (user ++ '@' :: hostport)) = some v ↔
      user ≠ [] ∧ ∃ u, unescape user = some u ∧ v = ⟨some u, host, port⟩ := by
  have hstart : startsIgnoreCase ("sip:".toList ++ (user ++ '@' :: hostport)) "sip:".toList =
      true := by
    rw [startsIgnoreCase_iff, List.map_append]
    exact List.prefix_append _ _
  have hdrop : ("sip:".toList ++ (user ++ '@' :: hostport)).drop 4 = user ++ '@' :: hostport := rfl
  unfold parse
  rw [if_pos hstart, hdrop]
  by_cases hat : '@' ∈ user
  · -- the first `@` is in the user part: what follows it is no host part
    obtain ⟨before, behind, hsplit, hbefore⟩ : ∃ a b, user = a ++ '@' :: b ∧ '@' ∉ a := by
      cases hcut : cutAt '@' user with
      | none => exact absurd hat (cutAt_eq_none_iff.mp hcut)
      | some p => exact ⟨p.1, p.2, cutAt_eq_some hcut⟩
    have hnone : parseHostport (behind ++ '@' :: hostport) = none := by
      cases hp : parseHostport (behind ++ '@' :: hostport) with
      | none => rfl
      | some p => exact absurd (by simp) (at_notMem_of_hostport hp)
    have hcut : cutAt '@' (user ++ '@' :: hostport) =
        some (before, behind ++ '@' :: hostport) := by
      rw [hsplit, List.append_assoc, List.cons_append, cutAt_append hbefore]
    rw [hcut]
    dsimp only
    rw [hnone]
    constructor
    · intro h
      split at h
      · rename_i heq
        cases heq
      · cases h
    · intro ⟨_, u, hu, _⟩
      exact absurd hat (at_notMem_of_unescape hu)
  · rw [cutAt_append hat]
    dsimp only
    rw [hhp]
    cases hu : unescape user with
    | none => simp
    | some u =>
        dsimp only
        by_cases hnil : user = []
        · simp [hnil]
        · rw [if_neg hnil]
          constructor
          · rintro ⟨⟩
            exact ⟨hnil, u, rfl, rfl⟩
          · rintro ⟨-, u', hu', rfl⟩
            cases hu'
            rfl

end SipText
