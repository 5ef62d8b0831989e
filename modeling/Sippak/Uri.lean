/-
  File:      Sippak/Uri.lean
  Subject:   URIs AS PJSIP HANDS THEM OUT, and the two functions the program calls on them.

  The result of `pjsip_parse_uri` is a tagged value (`Uri`); the program casts it to
  `pjsip_sip_uri*`. `Uri.sipUri` is that cast at the moment a field is touched: it has a value on
  a SIP or SIPS URI only.

  The parser and the printer are pjsip's and stay parameters (`UriLib`). What the results say
  about them, where anything, is `UriLib.Tagged`: the URI kinds go by the start of the text.
  `UriLib.plain` is one such pair of functions, for texts without port and parameters; on them
  it reads and writes what pjsip does.
-/
import Sippak.App

namespace Sippak

/-- `pjsip_uri_context_e`. -/
inductive UriContext where
  | PJSIP_URI_IN_REQ_URI | PJSIP_URI_IN_FROMTO_HDR | PJSIP_URI_IN_ROUTING_HDR
  deriving DecidableEq, Repr

/-- `pjsip_sip_uri`; the parameters the program does not touch stay text. -/
structure SipUri where
  secure : Bool
  user : PjStr
  passwd : PjStr
  host : CStr
  port : Nat
  transportParam : PjStr
  lrParam : Bool
  otherParam : CStr
  deriving DecidableEq, Repr

/-- `pjsip_uri`, by kind. -/
inductive Uri where
  | sip (u : SipUri)
  | nameAddr (display : PjStr) (uri : Uri)
  | tel (number : CStr)
  | other (scheme content : CStr)
  deriving DecidableEq, Repr

/-- A field of `(pjsip_sip_uri*)uri` is touched. -/
def Uri.sipUri : Uri → Except Abort SipUri
  | .sip u => .ok u
  | _ => .error .badCast

/-- `PJSIP_URI_SCHEME_IS_SIP || PJSIP_URI_SCHEME_IS_SIPS` on the node itself. -/
def Uri.isSip : Uri → Bool
  | .sip _ => true
  | _ => false

theorem Uri.isSip_iff {v : Uri} : v.isSip = true ↔ ∃ u, v = .sip u := by
  cases v <;> simp [isSip]

theorem Uri.sipUri_of_not {v : Uri} (h : v.isSip = false) : v.sipUri = .error .badCast := by
  cases v with
  | sip u => cases h
  | nameAddr | tel | other => rfl

/-- What the program uses of pjsip's URI code. -/
structure UriLib where
  /-- `pjsip_parse_uri(pool, ptr, slen, 0)`; `none` is NULL. -/
  parseUri : PjStr → Option Uri
  /-- `pjsip_uri_print(context, uri, buf, size)`; `none` is -1. -/
  printUri : UriContext → Uri → Nat → Option CStr

/-- **The kind of a URI goes by the start of its text**: what starts with `sip:` or `sips:` (in
    any case) is not parsed into another kind, and a SIP URI is printed starting so. -/
structure UriLib.Tagged (lib : UriLib) : Prop where
  sipText : ∀ t v, CStr.startsIgnoreCase t "sip:".toList ∨ CStr.startsIgnoreCase t "sips:".toList →
    lib.parseUri (some t) = some v → v.isSip = true
  sipPrint : ∀ c u n t, lib.printUri c (.sip u) n = some t →
    CStr.startsIgnoreCase t "sip:".toList ∨ CStr.startsIgnoreCase t "sips:".toList

/-- Under `Tagged`, the text a SIP URI is printed as parses into a SIP URI or not at all. -/
theorem UriLib.Tagged.reparse {lib : UriLib} (ht : lib.Tagged) {c : UriContext} {u : SipUri}
    {n : Nat} {t : CStr} (hp : lib.printUri c (.sip u) n = some t) {v : Uri}
    (hv : lib.parseUri (some t) = some v) : v.isSip = true :=
  ht.sipText t v (ht.sipPrint c u n t hp) hv

/-! ## Plain URIs -/

namespace UriLib

/-- A SIP URI of a user and a host; NULL without a host. -/
def plainSip (secure : Bool) (user : PjStr) (host : CStr) : Option Uri :=
  if host = [] then none else some (.sip ⟨secure, user, none, host, 0, none, false, []⟩)

/-- `host` or `user@host`. -/
def plainUserHost (secure : Bool) (rest : CStr) : Option Uri :=
  match CStr.cutAt '@' rest with
  | some (user, host) => plainSip secure (some user) host
  | none => plainSip secure none rest

/-- A URI without brackets around it. -/
def plainUri (t : CStr) : Option Uri :=
  if CStr.startsIgnoreCase t "sip:".toList then plainUserHost false (t.drop 4)
  else if CStr.startsIgnoreCase t "sips:".toList then plainUserHost true (t.drop 5)
  else if CStr.startsIgnoreCase t "tel:".toList then some (.tel (t.drop 4))
  else (CStr.cutAt ':' t).map fun p => .other p.1 p.2

/-- A URI, or a URI in angle brackets. -/
def plainParse : PjStr → Option Uri
  | none => none
  | some t =>
    if t.head? = some '<' then
      (plainUri (t.tail.takeWhile (· != '>'))).map (.nameAddr none)
    else plainUri t

/-- From and To show neither transport nor loose routing. -/
def plainPrintSip (c : UriContext) (u : SipUri) : CStr :=
  (if u.secure then "sips:".toList else "sip:".toList)
    ++ (match u.user with
        | some user => if user = [] then [] else user ++ ['@']
        | none => [])
    ++ u.host
    ++ (if c = .PJSIP_URI_IN_FROMTO_HDR then []
        else (match u.transportParam with
              | some t => ";transport=".toList ++ t
              | none => [])
          ++ if u.lrParam then ";lr".toList else [])

def plainText (c : UriContext) : Uri → CStr
  | .sip u => plainPrintSip c u
  | .nameAddr display uri =>
    (match display with
      | some d => "\"".toList ++ d ++ "\" ".toList
      | none => []) ++ ['<'] ++ plainText c uri ++ ['>']
  | .tel number => "tel:".toList ++ number
  | .other scheme content => scheme ++ [':'] ++ content

/-- Parse and print plain URIs. -/
def plain : UriLib where
  parseUri := plainParse
  printUri c u n := if (plainText c u).length < n then some (plainText c u) else none

theorem plainUserHost_isSip {secure : Bool} {rest : CStr} {v : Uri}
    (h : plainUserHost secure rest = some v) : v.isSip = true := by
  have hsip : ∀ user host, plainSip secure user host = some v → v.isSip = true := by
    intro user host h
    unfold plainSip at h
    split at h
    · cases h
    · cases h
      rfl
  unfold plainUserHost at h
  split at h
  · exact hsip _ _ h
  · exact hsip _ _ h

/-- A text that starts with `<` starts with no scheme. -/
theorem head_ne_of_sip {t : CStr}
    (h : CStr.startsIgnoreCase t "sip:".toList ∨ CStr.startsIgnoreCase t "sips:".toList) :
    t.head? ≠ some '<' := by
  intro he
  obtain ⟨s, rfl⟩ : ∃ s, t = '<' :: s := by
    cases t with
    | nil => cases he
    | cons c s => exact ⟨s, by rw [Option.some.inj he]⟩
  revert h
  simp [CStr.startsIgnoreCase, CStr.eqIgnoreCase]

theorem plain_tagged : plain.Tagged where
  sipText t v ht hv := by
    have hv' : plainUri t = some v := by
      change (if t.head? = some '<' then _ else plainUri t) = some v at hv
      rwa [if_neg (head_ne_of_sip ht)] at hv
    unfold plainUri at hv'
    rcases ht with ht | ht
    · rw [if_pos ht] at hv'
      exact plainUserHost_isSip hv'
    · rw [if_pos ht] at hv'
      split at hv'
      · exact plainUserHost_isSip hv'
      · exact plainUserHost_isSip hv'
  sipPrint c u n t h := by
    have ht : t = plainPrintSip c u := by
      unfold plain at h
      dsimp only at h
      split at h
      · exact (Option.some.inj h).symm
      · cases h
    subst ht
    unfold plainPrintSip
    cases u.secure with
    | false => exact Or.inl rfl
    | true => exact Or.inr rfl

end UriLib

end Sippak
