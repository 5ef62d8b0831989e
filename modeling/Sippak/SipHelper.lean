/-
  File:      Sippak/SipHelper.lean
  Subject:   URIs FOR REQUESTS, and the credentials (sip_helper.c).

  The three builders `sippakCreateFromHdr`, `sippakCreateRuri`, `sippakCreateRegRuri` parse the
  destination, edit the SIP URI and print it into a buffer of `PJSIP_MAX_URL_SIZE` bytes; at
  some, not all, failures they fall back to the destination. A length of -1 that a builder
  returns is `OutStr.unprinted`.

  **What holds of them** (`builders_return_iff`): all three return the printed URI or the
  destination, with a length, exactly when `BuildersFit` does -- the destination is a SIP URI,
  the second print of From (with the display name) fits, and the request URI can be read back
  and printed without its user. The two checks the source leaves out are the two conjuncts that
  speak of a print whose result is not tested and of a parse whose result is not tested.
-/
import Sippak.Uri

namespace Sippak

namespace SipHelper

def NAME : CStr := "sip_helper".toList

end SipHelper

/-! ## 1. The builders -/

/-- A `pj_str_t` whose `slen` is assigned from `pjsip_uri_print`: a text, or length -1. -/
inductive OutStr where
  | str (s : PjStr)
  | unprinted
  deriving DecidableEq, Repr

/-- `slen`. -/
def OutStr.slen : OutStr → Int
  | .str s => PjStr.slen s
  | .unprinted => -1

/-- The string of a print: the text, or length -1 when it did not fit. -/
def OutStr.printed : Option CStr → OutStr
  | some t => .str (some t)
  | none => .unprinted

/-- `dest_uri->user = app->cfg.username`. -/
def setUser (cfg : Cfg) (u : SipUri) : SipUri := { u with user := cfg.username }

/-- `if (app->cfg.proto == PJSIP_TRANSPORT_TCP) dest_uri->transport_param = pj_str("tcp")`. -/
def setTransport (cfg : Cfg) (u : SipUri) : SipUri :=
  if cfg.proto = .PJSIP_TRANSPORT_TCP then { u with transportParam := some "tcp".toList } else u

/-- `ruri_s->user.slen = 0; ruri_s->user.ptr = NULL`. -/
def removeUser (u : SipUri) : SipUri := { u with user := none }

/-- `sippak_create_from_hdr`. -/
def sippakCreateFromHdr (lib : UriLib) (app : App) : Except Abort (OutStr × App) :=
  match lib.parseUri app.cfg.dest with
  | none =>
    .ok (.str app.cfg.dest, app.pjLog 1 SipHelper.NAME
      ("Failed to parse URI ".toList ++ PjStr.shown app.cfg.dest ++ " for From header.".toList))
  | some destUri =>
    match destUri.sipUri with
    | .error e => .error e
    | .ok u =>
      match lib.printUri .PJSIP_URI_IN_FROMTO_HDR (.sip (setUser app.cfg u)) PJSIP_MAX_URL_SIZE with
      | none =>
        .ok (.str app.cfg.dest,
          app.pjLog 1 SipHelper.NAME "Failed to print from uri to buffer.".toList)
      | some hdr =>
        match app.cfg.fromName with
        | none => .ok (.str (some hdr), app)
        | some display =>
          -- the result of this second print is returned as it is
          .ok (.printed (lib.printUri .PJSIP_URI_IN_FROMTO_HDR
            (.nameAddr (some display) (.sip (setUser app.cfg u))) PJSIP_MAX_URL_SIZE), app)

/-- `sippak_create_ruri`. -/
def sippakCreateRuri (lib : UriLib) (app : App) : Except Abort (PjStr × App) :=
  match lib.parseUri app.cfg.dest with
  | none =>
    .ok (app.cfg.dest, app.pjLog 1 SipHelper.NAME
      ("Failed to parse URI ".toList ++ PjStr.shown app.cfg.dest ++ " for Request-URI.".toList))
  | some destUri =>
    -- without TCP no field of the SIP URI is touched
    match (if app.cfg.proto = .PJSIP_TRANSPORT_TCP then
        destUri.sipUri.map fun u => Uri.sip (setTransport app.cfg u) else .ok destUri) with
    | .error e => .error e
    | .ok uri =>
      match lib.printUri .PJSIP_URI_IN_REQ_URI uri PJSIP_MAX_URL_SIZE with
      | none =>
        .ok (app.cfg.dest,
          app.pjLog 1 SipHelper.NAME "Failed to print Request-URI to buffer.".toList)
      | some ruri => .ok (some ruri, app)

/-- `sippak_create_reg_ruri`. -/
def sippakCreateRegRuri (lib : UriLib) (app : App) : Except Abort (OutStr × App) :=
  match sippakCreateRuri lib app with
  | .error e => .error e
  | .ok (ruri, app) =>
    match lib.parseUri ruri with
    | none => .error .nullUri
    | some ruriS =>
      match ruriS.sipUri with
      | .error e => .error e
      | .ok u =>
        .ok (.printed (lib.printUri .PJSIP_URI_IN_REQ_URI (.sip (removeUser u))
          PJSIP_MAX_URL_SIZE), app)

/-- `pjsip_cred_info`. -/
structure CredInfo where
  realm : CStr
  scheme : CStr
  username : PjStr
  dataType : CStr
  data : PjStr
  deriving DecidableEq, Repr

/-- `sippak_set_cred`. -/
def sippakSetCred (cfg : Cfg) : CredInfo where
  realm := "*".toList
  scheme := "digest".toList
  username := cfg.username
  dataType := "PJSIP_CRED_DATA_PLAIN_PASSWD".toList
  data := cfg.password

/-! ## 2. What they return -/

section Builders

variable (lib : UriLib) (app : App)

/-- The URI the From header is printed from: with the display name when there is one. -/
def fromUri (cfg : Cfg) (u : SipUri) : Uri :=
  match cfg.fromName with
  | none => .sip (setUser cfg u)
  | some display => .nameAddr (some display) (.sip (setUser cfg u))

/-- The edit of the From header: user and display name. -/
def editFrom (cfg : Cfg) : Uri → Option Uri
  | .sip u => some (fromUri cfg u)
  | _ => none

/-- The edit of the request URI: the transport, where it is TCP. -/
def editRuri (cfg : Cfg) : Uri → Option Uri
  | .sip u => some (.sip (setTransport cfg u))
  | v => if cfg.proto = .PJSIP_TRANSPORT_TCP then none else some v

/-- The edit of the REGISTER URI: no user. -/
def editReg : Uri → Option Uri
  | .sip u => some (.sip (removeUser u))
  | _ => none

/-- `out` is the destination, or the text of the edited URI in the context `c`, where the URI is
    what the text `src` parses into. -/
def PrintedOrDest (c : UriContext) (src : PjStr) (edit : Uri → Option Uri) (out : OutStr) : Prop :=
  0 ≤ out.slen ∧
    (out = .str app.cfg.dest ∨
      ∃ v w t, lib.parseUri src = some v ∧ edit v = some w ∧
        lib.printUri c w PJSIP_MAX_URL_SIZE = some t ∧ out = .str (some t))

/-- `sippak_create_from_hdr` returns its printed URI or the destination. -/
def FromReturns : Prop :=
  ∃ out app', sippakCreateFromHdr lib app = .ok (out, app') ∧
    PrintedOrDest lib app .PJSIP_URI_IN_FROMTO_HDR app.cfg.dest (editFrom app.cfg) out

/-- `sippak_create_ruri` returns its printed URI or the destination. -/
def RuriReturns : Prop :=
  ∃ out app', sippakCreateRuri lib app = .ok (out, app') ∧
    PrintedOrDest lib app .PJSIP_URI_IN_REQ_URI app.cfg.dest (editRuri app.cfg) (.str out)

/-- `sippak_create_reg_ruri` returns its printed URI, which has no user, or the destination. -/
def RegRuriReturns : Prop :=
  ∃ out app' ruri app₁, sippakCreateRegRuri lib app = .ok (out, app') ∧
    sippakCreateRuri lib app = .ok (ruri, app₁) ∧
    PrintedOrDest lib app .PJSIP_URI_IN_REQ_URI ruri editReg out

/-- **The condition**: the destination is a SIP URI; with a display name, the From header fits
    once the URI alone does; the text the request URI prints to is a SIP URI whose user-less
    form fits, and where it does not print, the destination's user-less form fits. -/
def BuildersFit (cfg : Cfg) : Prop :=
  ∃ u, lib.parseUri cfg.dest = some (.sip u) ∧
    (lib.printUri .PJSIP_URI_IN_FROMTO_HDR (.sip (setUser cfg u)) PJSIP_MAX_URL_SIZE ≠ none →
      lib.printUri .PJSIP_URI_IN_FROMTO_HDR (fromUri cfg u) PJSIP_MAX_URL_SIZE ≠ none) ∧
    (lib.printUri .PJSIP_URI_IN_REQ_URI (.sip (setTransport cfg u)) PJSIP_MAX_URL_SIZE = none →
      lib.printUri .PJSIP_URI_IN_REQ_URI (.sip (removeUser u)) PJSIP_MAX_URL_SIZE ≠ none) ∧
    ∀ t, lib.printUri .PJSIP_URI_IN_REQ_URI (.sip (setTransport cfg u)) PJSIP_MAX_URL_SIZE =
        some t →
      ∃ v, lib.parseUri (some t) = some (.sip v) ∧
        lib.printUri .PJSIP_URI_IN_REQ_URI (.sip (removeUser v)) PJSIP_MAX_URL_SIZE ≠ none

variable {lib app}

/-- A text or the destination has a length; -1 is neither. -/
theorem OutStr.slen_str_nonneg (s : PjStr) : 0 ≤ (OutStr.str s).slen := Int.natCast_nonneg _

theorem OutStr.not_unprinted {c : UriContext} {src : PjStr} {edit : Uri → Option Uri} :
    ¬ PrintedOrDest lib app c src edit .unprinted :=
  fun h => absurd h.1 (by decide)

/-- A print that is returned untested is good exactly when it fitted. -/
theorem printedOrDest_printed_iff (app : App) (c : UriContext) {src : PjStr}
    {edit : Uri → Option Uri} {v w : Uri} (hv : lib.parseUri src = some v) (hw : edit v = some w) :
    PrintedOrDest lib app c src edit (.printed (lib.printUri c w PJSIP_MAX_URL_SIZE)) ↔
      lib.printUri c w PJSIP_MAX_URL_SIZE ≠ none := by
  cases hp : lib.printUri c w PJSIP_MAX_URL_SIZE with
  | none => exact ⟨fun h => absurd h OutStr.not_unprinted, fun h => absurd rfl h⟩
  | some t =>
      refine ⟨fun _ => Option.some_ne_none t, fun _ => ⟨OutStr.slen_str_nonneg _, Or.inr ?_⟩⟩
      exact ⟨v, w, t, hv, hw, hp, rfl⟩

theorem printedOrDest_dest {c : UriContext} {src : PjStr} {edit : Uri → Option Uri} :
    PrintedOrDest lib app c src edit (.str app.cfg.dest) :=
  ⟨OutStr.slen_str_nonneg _, Or.inl rfl⟩

/-! ### From -/

/-- On a SIP destination the From builder is good exactly when a display name does not spoil a
    print that fitted. -/
theorem fromReturns_sip {u : SipUri} (hu : lib.parseUri app.cfg.dest = some (.sip u)) :
    FromReturns lib app ↔
      (lib.printUri .PJSIP_URI_IN_FROMTO_HDR (.sip (setUser app.cfg u)) PJSIP_MAX_URL_SIZE ≠ none →
        lib.printUri .PJSIP_URI_IN_FROMTO_HDR (fromUri app.cfg u) PJSIP_MAX_URL_SIZE ≠ none) := by
  unfold FromReturns sippakCreateFromHdr
  simp only [hu, Uri.sipUri]
  cases h1 : lib.printUri .PJSIP_URI_IN_FROMTO_HDR (.sip (setUser app.cfg u))
      PJSIP_MAX_URL_SIZE with
  | none =>
      refine ⟨fun _ h => absurd rfl h, fun _ => ?_⟩
      exact ⟨_, _, rfl, printedOrDest_dest⟩
  | some hdr =>
      have hedit : editFrom app.cfg (.sip u) = some (fromUri app.cfg u) := rfl
      have hpr := printedOrDest_printed_iff app .PJSIP_URI_IN_FROMTO_HDR hu hedit
      cases hn : app.cfg.fromName with
      | none =>
          have hf : fromUri app.cfg u = .sip (setUser app.cfg u) := by simp only [fromUri, hn]
          rw [hf, h1] at hpr
          refine ⟨fun _ _ => by rw [hf, h1]; exact Option.some_ne_none hdr, fun _ => ?_⟩
          exact ⟨_, _, rfl, hpr.mpr (Option.some_ne_none hdr)⟩
      | some display =>
          have hf : fromUri app.cfg u =
              .nameAddr (some display) (.sip (setUser app.cfg u)) := by simp only [fromUri, hn]
          rw [hf] at hpr ⊢
          constructor
          · rintro ⟨out, app', he, hout⟩ _
            cases he
            exact hpr.mp hout
          · intro h
            exact ⟨_, _, rfl, hpr.mpr (h (Option.some_ne_none hdr))⟩

/-- On any other kind of URI it writes a field the structure does not have. -/
theorem fromHdr_badCast {v : Uri} (hv : lib.parseUri app.cfg.dest = some v)
    (hs : v.isSip = false) : sippakCreateFromHdr lib app = .error .badCast := by
  unfold sippakCreateFromHdr
  simp only [hv, Uri.sipUri_of_not hs]

/-! ### Request-URI -/

/-- What the request URI builder does on a SIP destination. -/
theorem createRuri_sip {u : SipUri} (hu : lib.parseUri app.cfg.dest = some (.sip u)) :
    sippakCreateRuri lib app =
      match lib.printUri .PJSIP_URI_IN_REQ_URI (.sip (setTransport app.cfg u))
        PJSIP_MAX_URL_SIZE with
      | none => .ok (app.cfg.dest,
          app.pjLog 1 SipHelper.NAME "Failed to print Request-URI to buffer.".toList)
      | some t => .ok (some t, app) := by
  have hedit : (if app.cfg.proto = .PJSIP_TRANSPORT_TCP then
      (Uri.sip u).sipUri.map fun u => Uri.sip (setTransport app.cfg u) else .ok (.sip u)) =
      (.ok (.sip (setTransport app.cfg u)) : Except Abort Uri) := by
    split
    · rfl
    · rename_i hp
      simp only [setTransport, if_neg hp]
  unfold sippakCreateRuri
  simp only [hu, hedit]

theorem ruriReturns_sip {u : SipUri} (hu : lib.parseUri app.cfg.dest = some (.sip u)) :
    RuriReturns lib app := by
  unfold RuriReturns
  rw [createRuri_sip hu]
  have hedit : editRuri app.cfg (.sip u) = some (.sip (setTransport app.cfg u)) := rfl
  have hpr := printedOrDest_printed_iff app .PJSIP_URI_IN_REQ_URI hu hedit
  cases hp : lib.printUri .PJSIP_URI_IN_REQ_URI (.sip (setTransport app.cfg u))
      PJSIP_MAX_URL_SIZE with
  | none => exact ⟨_, _, rfl, printedOrDest_dest⟩
  | some t =>
      rw [hp] at hpr
      exact ⟨_, _, rfl, hpr.mpr (Option.some_ne_none t)⟩

/-! ### REGISTER -/

/-- Reading the request URI back: what the REGISTER builder does once it has it. -/
theorem createRegRuri_of {ruri : PjStr} {app₁ : App} {u : SipUri}
    (hr : sippakCreateRuri lib app = .ok (ruri, app₁)) (hu : lib.parseUri ruri = some (.sip u)) :
    sippakCreateRegRuri lib app =
      .ok (.printed (lib.printUri .PJSIP_URI_IN_REQ_URI (.sip (removeUser u))
        PJSIP_MAX_URL_SIZE), app₁) := by
  unfold sippakCreateRegRuri
  simp only [hr, hu, Uri.sipUri]

/-- The REGISTER builder is good exactly when the request URI is read back as a SIP URI and its
    user-less form fits. -/
theorem regRuriReturns_iff {ruri : PjStr} {app₁ : App}
    (hr : sippakCreateRuri lib app = .ok (ruri, app₁)) :
    RegRuriReturns lib app ↔
      ∃ v, lib.parseUri ruri = some (.sip v) ∧
        lib.printUri .PJSIP_URI_IN_REQ_URI (.sip (removeUser v)) PJSIP_MAX_URL_SIZE ≠ none := by
  constructor
  · intro ⟨out, app', ruri', app₁', he, hr', hout⟩
    rw [hr] at hr'
    cases hr'
    unfold sippakCreateRegRuri at he
    simp only [hr] at he
    split at he
    · cases he
    · rename_i v hv
      cases hs : v.isSip with
      | false =>
          rw [Uri.sipUri_of_not hs] at he
          cases he
      | true =>
          obtain ⟨u, rfl⟩ := Uri.isSip_iff.mp hs
          cases he
          exact ⟨u, hv, (printedOrDest_printed_iff app .PJSIP_URI_IN_REQ_URI
            hv (rfl : editReg (.sip u) = _)).mp hout⟩
  · intro ⟨v, hv, hp⟩
    refine ⟨_, _, ruri, app₁, createRegRuri_of hr hv, hr, ?_⟩
    exact (printedOrDest_printed_iff app .PJSIP_URI_IN_REQ_URI hv
      (rfl : editReg (.sip v) = _)).mpr hp

/-- On a SIP destination: the request URI's text reads back and fits, and where there is none, the
    destination's own does. -/
theorem regRuriReturns_sip {u : SipUri} (hu : lib.parseUri app.cfg.dest = some (.sip u)) :
    RegRuriReturns lib app ↔
      (lib.printUri .PJSIP_URI_IN_REQ_URI (.sip (setTransport app.cfg u)) PJSIP_MAX_URL_SIZE =
          none →
        lib.printUri .PJSIP_URI_IN_REQ_URI (.sip (removeUser u)) PJSIP_MAX_URL_SIZE ≠ none) ∧
      ∀ t, lib.printUri .PJSIP_URI_IN_REQ_URI (.sip (setTransport app.cfg u))
          PJSIP_MAX_URL_SIZE = some t →
        ∃ v, lib.parseUri (some t) = some (.sip v) ∧
          lib.printUri .PJSIP_URI_IN_REQ_URI (.sip (removeUser v)) PJSIP_MAX_URL_SIZE ≠ none := by
  have hruri := createRuri_sip hu
  cases hp : lib.printUri .PJSIP_URI_IN_REQ_URI (.sip (setTransport app.cfg u))
      PJSIP_MAX_URL_SIZE with
  | none =>
      rw [hp] at hruri
      rw [regRuriReturns_iff hruri, hu]
      simp
  | some t =>
      rw [hp] at hruri
      rw [regRuriReturns_iff hruri]
      simp

/-! ### All three -/

/-- The builders are good on a SIP destination only: another kind is written to as if it were one,
    and where the destination does not parse, it is handed to the parser a second time, untested. -/
theorem builders_need_sip (hfrom : FromReturns lib app) (hreg : RegRuriReturns lib app) :
    ∃ u, lib.parseUri app.cfg.dest = some (.sip u) := by
  cases hd : lib.parseUri app.cfg.dest with
  | none =>
      have hr : sippakCreateRuri lib app = .ok (app.cfg.dest, app.pjLog 1 SipHelper.NAME
          ("Failed to parse URI ".toList ++ PjStr.shown app.cfg.dest ++
            " for Request-URI.".toList)) := by
        unfold sippakCreateRuri
        simp only [hd]
      obtain ⟨v, hv, -⟩ := (regRuriReturns_iff hr).mp hreg
      rw [hd] at hv
      cases hv
  | some v =>
      cases hs : v.isSip with
      | false =>
          obtain ⟨out, app', he, -⟩ := hfrom
          rw [fromHdr_badCast hd hs] at he
          cases he
      | true =>
          obtain ⟨u, rfl⟩ := Uri.isSip_iff.mp hs
          exact ⟨u, rfl⟩

/-- **The three URI builders return a printed URI or the destination exactly when
    `BuildersFit`.** -/
theorem builders_return_iff (lib : UriLib) (app : App) :
    FromReturns lib app ∧ RuriReturns lib app ∧ RegRuriReturns lib app ↔
      BuildersFit lib app.cfg := by
  constructor
  · intro ⟨hfrom, _, hreg⟩
    obtain ⟨u, hu⟩ := builders_need_sip hfrom hreg
    have hfits := (regRuriReturns_sip hu).mp hreg
    exact ⟨u, hu, (fromReturns_sip hu).mp hfrom, hfits⟩
  · intro ⟨u, hu, hfrom, hfits⟩
    exact ⟨(fromReturns_sip hu).mpr hfrom, ruriReturns_sip hu, (regRuriReturns_sip hu).mpr hfits⟩

end Builders

/-- The configuration of `-u bob register alice`: `alice` is no URI. -/
def registerAlice : App :=
  { sippakInit with
    cfg := { sippakInit.cfg with
      cmd := .CMD_REGISTER, dest := some "alice".toList, username := some "bob".toList } }

/-- The REGISTER builder uses the NULL that its second parse returns. -/
theorem regRuri_unparsable_dest :
    sippakCreateRegRuri UriLib.plain registerAlice = .error .nullUri ∧
      ¬ ∀ lib app, FromReturns lib app ∧ RuriReturns lib app ∧ RegRuriReturns lib app := by
  have h : sippakCreateRegRuri UriLib.plain registerAlice = .error .nullUri := by decide
  refine ⟨h, fun hall => ?_⟩
  obtain ⟨out, app', ruri, app₁, he, -⟩ := (hall UriLib.plain registerAlice).2.2
  rw [h] at he
  cases he

end Sippak
