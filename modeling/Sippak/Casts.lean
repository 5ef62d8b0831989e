/-
  File:      Sippak/Casts.lean
  Subject:   THE FIVE CASTS TO `pjsip_sip_uri*`: `add_proxy`, `post_parse_setup` and the three URI
             builders.

  Each of them parses a text without asking for a name-addr and touches a field of the result as
  if it were a SIP URI. A text can be another kind of URI (`tel:`, `<sip:...>`), and then the
  field is not there: `Abort.badCast`.

  **What holds of them** (`noBadCast_iff`): no call ends so exactly when the destination parses
  into a SIP URI or not at all, and the first proxy does. No check of the program rules the other
  kinds out; the texts the program prints itself and reads back (`sippak_create_reg_ruri`) are
  SIP URIs because a SIP URI prints as one (`UriLib.Tagged`).
-/
import Sippak.SipHelper
import Sippak.Tables

namespace Sippak

open CStr

/-- The text parses into a SIP URI or not at all. -/
def SipOrNull (lib : UriLib) (s : PjStr) : Prop :=
  ∀ v, lib.parseUri s = some v → v.isSip = true

/-- None of the five functions touches a field of a SIP URI on another kind of URI. -/
def NoBadCast (lib : UriLib) (app : App) (proxy : CStr) : Prop :=
  addProxy lib proxy app ≠ .error .badCast ∧ postParseSetup lib app ≠ .error .badCast ∧
    sippakCreateFromHdr lib app ≠ .error .badCast ∧ sippakCreateRuri lib app ≠ .error .badCast ∧
    sippakCreateRegRuri lib app ≠ .error .badCast

section Casts

variable {lib : UriLib} {app : App}

theorem sipOrNull_of_none {s : PjStr} (h : lib.parseUri s = none) : SipOrNull lib s := by
  intro v hv
  rw [h] at hv
  cases hv

theorem sipOrNull_iff {s : PjStr} {v : Uri} (h : lib.parseUri s = some v) :
    SipOrNull lib s ↔ v.isSip = true := by
  constructor
  · intro hs
    exact hs v h
  · intro hv w hw
    rw [h] at hw
    cases hw
    exact hv

instance (lib : UriLib) (s : PjStr) : Decidable (SipOrNull lib s) :=
  decidable_of_iff ((lib.parseUri s).all Uri.isSip = true) (by
    unfold SipOrNull
    cases lib.parseUri s <;> simp)

/-! ## 1. Proxies -/

/-- Only the first proxy is edited, so only there the kind matters. -/
theorem forceLr_badCast_iff {first : Bool} {v : Uri} :
    forceLr first v = .error .badCast ↔ first = true ∧ v.isSip = false := by
  cases first with
  | false => simp [forceLr]
  | true =>
      cases hs : v.isSip with
      | false => simp [forceLr, setLrParam, Uri.sipUri_of_not hs]
      | true =>
          obtain ⟨u, rfl⟩ := Uri.isSip_iff.mp hs
          simp [forceLr, setLrParam, Uri.sipUri]

theorem routeText_badCast_iff {first : Bool} {proxy : CStr} :
    routeText lib first proxy = .error .badCast ↔
      first = true ∧ ¬ SipOrNull lib (some (ltrim proxy)) := by
  cases hp : lib.parseUri (some (ltrim proxy)) with
  | none =>
      have hs := sipOrNull_of_none hp
      simp [routeText, hp, hs]
  | some v =>
      rw [sipOrNull_iff hp, Bool.not_eq_true, ← forceLr_badCast_iff]
      simp only [routeText, hp]
      cases forceLr first v with
      | error e => simp
      | ok w =>
          dsimp only
          cases lib.printUri .PJSIP_URI_IN_ROUTING_HDR w PJSIP_MAX_URL_SIZE <;> simp

theorem addProxy_badCast_iff {proxy : CStr} :
    addProxy lib proxy app = .error .badCast ↔
      app.cfg.proxy.cnt = 0 ∧ ¬ SipOrNull lib (some (ltrim proxy)) := by
  have hfirst : app.cfg.proxy.cnt = 0 ↔ (app.cfg.proxy.cnt == 0) = true := beq_iff_eq.symm
  rw [hfirst, ← routeText_badCast_iff, addProxy_eq]
  cases routeText lib (app.cfg.proxy.cnt == 0) proxy with
  | error e => simp
  | ok r =>
      cases r with
      | none => simp
      | some p => cases hpush : app.cfg.proxy.push p <;> simp [hpush]

/-! ## 2. The destination -/

theorem fromHdr_badCast_iff :
    sippakCreateFromHdr lib app = .error .badCast ↔ ¬ SipOrNull lib app.cfg.dest := by
  cases hp : lib.parseUri app.cfg.dest with
  | none =>
      have hs := sipOrNull_of_none hp
      simp [sippakCreateFromHdr, hp, hs]
  | some v =>
      rw [sipOrNull_iff hp]
      cases hs : v.isSip with
      | false => simp [fromHdr_badCast hp hs]
      | true =>
          obtain ⟨u, rfl⟩ := Uri.isSip_iff.mp hs
          simp only [not_true, iff_false]
          unfold sippakCreateFromHdr
          simp only [hp, Uri.sipUri]
          split
          · intro h
            cases h
          · split
            · intro h
              cases h
            · intro h
              cases h

/-- The request URI is the destination, or what a SIP URI prints as. -/
theorem createRuri_cases (hd : SipOrNull lib app.cfg.dest) :
    ∃ ruri app', sippakCreateRuri lib app = .ok (ruri, app') ∧
      (ruri = app.cfg.dest ∨ ∃ u t, ruri = some t ∧
        lib.printUri .PJSIP_URI_IN_REQ_URI (.sip u) PJSIP_MAX_URL_SIZE = some t) := by
  cases hp : lib.parseUri app.cfg.dest with
  | none =>
      unfold sippakCreateRuri
      simp only [hp]
      exact ⟨_, _, rfl, Or.inl rfl⟩
  | some v =>
      obtain ⟨u, rfl⟩ := Uri.isSip_iff.mp (hd v hp)
      rw [createRuri_sip hp]
      cases ht : lib.printUri .PJSIP_URI_IN_REQ_URI (.sip (setTransport app.cfg u))
          PJSIP_MAX_URL_SIZE with
      | none => exact ⟨_, _, rfl, Or.inl rfl⟩
      | some t => exact ⟨_, _, rfl, Or.inr ⟨_, t, rfl, ht⟩⟩

theorem regRuri_ne_badCast (hlib : lib.Tagged) (hd : SipOrNull lib app.cfg.dest) :
    sippakCreateRegRuri lib app ≠ .error .badCast := by
  obtain ⟨ruri, app', hr, hcases⟩ := createRuri_cases hd
  -- in both cases the second parse gives a SIP URI or NULL
  have hs : SipOrNull lib ruri := by
    rcases hcases with rfl | ⟨u, t, rfl, ht⟩
    · exact hd
    · intro v hv
      exact hlib.reparse ht hv
  unfold sippakCreateRegRuri
  simp only [hr]
  cases hp : lib.parseUri ruri with
  | none =>
      intro h
      cases h
  | some v =>
      obtain ⟨u, rfl⟩ := Uri.isSip_iff.mp (hs v hp)
      intro h
      cases h

theorem setupUsername_ne_badCast (hd : SipOrNull lib app.cfg.dest) :
    setupUsername lib app ≠ .error .badCast := by
  unfold setupUsername
  split
  · cases hp : lib.parseUri app.cfg.dest with
    | none =>
        intro h
        cases h
    | some v =>
        obtain ⟨u, rfl⟩ := Uri.isSip_iff.mp (hd v hp)
        intro h
        cases h
  · intro h
    cases h

theorem postParseSetup_ne_badCast (hd : SipOrNull lib app.cfg.dest) :
    postParseSetup lib app ≠ .error .badCast := by
  unfold postParseSetup
  split
  · intro h
    cases h
  · split
    · intro h
      cases h
    · have hd' : SipOrNull lib (setupMwi app).cfg.dest := by
        rwa [(setupMwi_fields app).2.1]
      exact setupUsername_ne_badCast hd'

end Casts

/-! ## 3. All five -/

/-- **No cast goes wrong exactly when** the destination parses into a SIP URI or not at all, and
    so does the proxy where it is the first one. -/
theorem noBadCast_iff (lib : UriLib) (hlib : lib.Tagged) (app : App) (proxy : CStr) :
    NoBadCast lib app proxy ↔
      SipOrNull lib app.cfg.dest ∧
        (app.cfg.proxy.cnt = 0 → SipOrNull lib (some (ltrim proxy))) := by
  constructor
  · intro ⟨hproxy, _, hfrom, _, _⟩
    rw [ne_eq, fromHdr_badCast_iff, not_not] at hfrom
    rw [ne_eq, addProxy_badCast_iff] at hproxy
    exact ⟨hfrom, fun h0 => not_not.mp fun hn => hproxy ⟨h0, hn⟩⟩
  · intro ⟨hd, hproxy⟩
    refine ⟨?_, postParseSetup_ne_badCast hd, ?_, ?_, regRuri_ne_badCast hlib hd⟩
    · rw [ne_eq, addProxy_badCast_iff]
      exact fun h => h.2 (hproxy h.1)
    · rw [ne_eq, fromHdr_badCast_iff]
      exact fun h => h hd
    · obtain ⟨ruri, app', hr, _⟩ := createRuri_cases hd
      rw [hr]
      intro h
      cases h

/-- At `sip:alice@host` with the proxy `sip:proxy`, no cast goes wrong. -/
theorem noBadCast_alice :
    NoBadCast UriLib.plain
      { sippakInit with cfg := { sippakInit.cfg with dest := some "sip:alice@host".toList } }
      "sip:proxy".toList :=
  (noBadCast_iff UriLib.plain UriLib.plain_tagged _ _).mpr
    ⟨fun v hv => by
      have h : v = .sip ⟨false, some "alice".toList, none, "host".toList, 0, none, false, []⟩ := by
        rw [← Option.some.inj hv]
        decide
      rw [h]
      rfl,
     fun _ v hv => by
      have h : v = .sip ⟨false, none, none, "proxy".toList, 0, none, false, []⟩ := by
        rw [← Option.some.inj hv]
        decide
      rw [h]
      rfl⟩

/-- The destination `tel:5551234` passes for a SIP URI. -/
theorem tel_dest_badCast :
    postParseSetup UriLib.plain
        { sippakInit with cfg := { sippakInit.cfg with dest := some "tel:5551234".toList } } =
      .error .badCast ∧
      ¬ ∀ lib, lib.Tagged → ∀ app proxy, NoBadCast lib app proxy := by
  have h : postParseSetup UriLib.plain
      { sippakInit with cfg := { sippakInit.cfg with dest := some "tel:5551234".toList } } =
      .error .badCast := by decide
  exact ⟨h, fun hall => (hall _ UriLib.plain_tagged _ "sip:proxy".toList).2.1 h⟩

end Sippak
