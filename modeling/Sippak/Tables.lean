/-
  File:      Sippak/Tables.lean
  Subject:   THE TWO TABLES OF THE COMMAND LINE: `cfg.hdrs` (`-H`) and `cfg.proxy` (`-R`).

  Both are arrays of twelve slots with a counter beside them, and both functions that write them
  test `cnt > 12` before they write at `cnt`: the test lets the counter 12 through, and the
  thirteenth accepted value is written behind the array.

  * `addCustomHeader_eq`, `addProxy_eq` -- each function as a text to add and a push;
  * `accepted` -- which values a sequence of `-H` and `-R` options asks to add, without any limit;
  * `sipFirst` -- whether the `lr` parameter of the first proxy is written into a SIP URI;
  * `optLoop_undefined_iff`, `optLoop_tables` -- the option loop against `accepted`;
  * `tables_hold_iff` -- **the tables hold the first twelve accepted values of each kind, and no
    write is outside them, exactly when there are at most twelve of each kind and the first proxy
    is no other kind of URI**;
  * `custom_header_parsed` -- **where a `-H` value is cut**: at its first colon, each piece without
    the white space in front of it.
-/
import Sippak.Getopts

namespace Sippak

open CStr

/-! ## 1. One option -/

def App.setHdrs (app : App) (hdrs : Slots GenericHdr MAX_CUSTOM_HEADERS) : App :=
  { app with cfg := { app.cfg with hdrs := hdrs } }

def App.setProxy (app : App) (proxy : Slots CStr MAX_PROXY_HEADERS) : App :=
  { app with cfg := { app.cfg with proxy := proxy } }

@[simp] theorem App.setHdrs_hdrs (app : App) (hdrs) : (app.setHdrs hdrs).cfg.hdrs = hdrs := rfl
@[simp] theorem App.setHdrs_proxy (app : App) (hdrs) :
    (app.setHdrs hdrs).cfg.proxy = app.cfg.proxy := rfl
@[simp] theorem App.setProxy_proxy (app : App) (proxy) :
    (app.setProxy proxy).cfg.proxy = proxy := rfl
@[simp] theorem App.setProxy_hdrs (app : App) (proxy) :
    (app.setProxy proxy).cfg.hdrs = app.cfg.hdrs := rfl

/-- The header a `-H` argument gives: what stands before the first colon and what follows it,
    without the white space in front of either. -/
def headerGiven (arg : CStr) : Option GenericHdr :=
  (cutAt ':' (ltrim arg)).map fun p => ⟨p.1, ltrim p.2⟩

/-- The text a `-R` argument is stored as; `none` = it is skipped. -/
def routeText (lib : UriLib) (first : Bool) (arg : CStr) : Except Abort (Option CStr) :=
  match lib.parseUri (some (ltrim arg)) with
  | none => .ok none
  | some uri =>
    match forceLr first uri with
    | .error e => .error e
    | .ok uri =>
      match lib.printUri .PJSIP_URI_IN_ROUTING_HDR uri PJSIP_MAX_URL_SIZE with
      | none => .ok none
      | some p => .ok (if 0 < p.length then some p else none)

/-- The line about a proxy that is no URI. -/
def skipProxy (lib : UriLib) (arg : CStr) (app : App) : App :=
  if (lib.parseUri (some (ltrim arg))).isNone then
    app.pjLog 2 PROJECT_NAME ("Failed to parse proxy URI '".toList ++ ltrim arg ++ "'.".toList)
  else app

@[simp] theorem skipProxy_cfg (lib : UriLib) (arg : CStr) (app : App) :
    (skipProxy lib arg app).cfg = app.cfg := by
  unfold skipProxy
  split <;> rfl

/-- **`add_custom_header` is a push of `headerGiven`**: its test of the counter never fires, since
    the counter of a table that fits is not above its size. -/
theorem addCustomHeader_eq (arg : CStr) (app : App) :
    addCustomHeader arg app =
      match headerGiven arg with
      | none =>
        .ok (.PJ_EINVAL, app.pjLog 1 PROJECT_NAME ("Invalid header: ".toList ++ ltrim arg))
      | some h =>
        match app.cfg.hdrs.push h with
        | none => .error .outOfBounds
        | some hdrs => .ok (.PJ_SUCCESS, app.setHdrs hdrs) := by
  have hcnt : ¬ MAX_CUSTOM_HEADERS < app.cfg.hdrs.cnt := by
    have h := app.cfg.hdrs.cnt_le
    omega
  unfold addCustomHeader headerGiven
  rw [if_neg hcnt]
  cases cutAt ':' (ltrim arg) with
  | none => rfl
  | some p => rfl

/-- **`add_proxy` is a push of `routeText`.** -/
theorem addProxy_eq (lib : UriLib) (arg : CStr) (app : App) :
    addProxy lib arg app =
      match routeText lib (app.cfg.proxy.cnt == 0) arg with
      | .error e => .error e
      | .ok none => .ok (skipProxy lib arg app)
      | .ok (some p) =>
        match app.cfg.proxy.push p with
        | none => .error .outOfBounds
        | some proxy => .ok (app.setProxy proxy) := by
  have hcnt : ¬ MAX_PROXY_HEADERS < app.cfg.proxy.cnt := by
    have h := app.cfg.proxy.cnt_le
    omega
  unfold addProxy routeText skipProxy
  rw [if_neg hcnt]
  cases lib.parseUri (some (ltrim arg)) with
  | none => rfl
  | some uri =>
      cases hf : forceLr (app.cfg.proxy.cnt == 0) uri with
      | error e => simp only [hf]
      | ok uri' =>
          cases hp : lib.printUri .PJSIP_URI_IN_ROUTING_HDR uri' PJSIP_MAX_URL_SIZE with
          | none => simp only [hf, hp]; rfl
          | some p =>
              by_cases hlen : 0 < p.length
              · simp only [hf, hp, if_pos hlen]
                rfl
              · simp only [hf, hp, if_neg hlen]
                rfl

/-- A `-H` option leaves everything but its own table alone. -/
theorem addCustomHeader_frame {arg : CStr} {app app' : App} {s : Status}
    (h : addCustomHeader arg app = .ok (s, app')) :
    app'.cfg = { app.cfg with hdrs := app'.cfg.hdrs } := by
  rw [addCustomHeader_eq] at h
  split at h
  · cases h
    rfl
  · split at h
    · cases h
    · cases h
      rfl

/-- A `-R` option leaves everything but its own table alone. -/
theorem addProxy_frame {lib : UriLib} {arg : CStr} {app app' : App}
    (h : addProxy lib arg app = .ok app') :
    app'.cfg = { app.cfg with proxy := app'.cfg.proxy } := by
  rw [addProxy_eq] at h
  split at h
  · cases h
  · cases h
    rw [skipProxy_cfg]
  · split at h
    · cases h
    · cases h
      rfl

/-! ## 2. A sequence of options -/

/-- A `-H` or a `-R` option with its argument. -/
inductive TableOpt where
  | header (optarg : CStr)
  | proxy (optarg : CStr)
  deriving DecidableEq, Repr

def TableOpt.toOpt : TableOpt → Opt
  | .header optarg => .header optarg
  | .proxy optarg => .proxy optarg

/-- The values of both kinds that the options ask to add, up to the first header without a colon,
    which ends the loop. `first` = no proxy was accepted yet. A proxy whose edit C gives no meaning
    to (`sipFirst`) is no value of its own, and the options behind it are read as any others. -/
def accepted (lib : UriLib) : Bool → List TableOpt → List GenericHdr × List CStr
  | _, [] => ([], [])
  | first, .header arg :: os =>
    match headerGiven arg with
    | none => ([], [])
    | some h => (h :: (accepted lib first os).1, (accepted lib first os).2)
  | first, .proxy arg :: os =>
    match routeText lib first arg with
    | .error _ => accepted lib first os
    | .ok none => accepted lib first os
    | .ok (some p) => ((accepted lib false os).1, p :: (accepted lib false os).2)

/-- Up to the first proxy that is stored, none is another kind of URI than a SIP URI: `add_proxy`
    writes the `lr` parameter of each of them through a cast. -/
def sipFirst (lib : UriLib) : Bool → List TableOpt → Bool
  | _, [] => true
  | first, .header arg :: os => (headerGiven arg).isNone || sipFirst lib first os
  | first, .proxy arg :: os =>
    match routeText lib first arg with
    | .error _ => false
    | .ok none => sipFirst lib first os
    | .ok (some _) => sipFirst lib false os

def OptResult.app : OptResult → App
  | .next app => app
  | .ret _ app => app

section Loop

variable (b : Build) (lib : UriLib)

/-- One round with a `-H` option. -/
theorem optLoop_header (arg : CStr) (os : List Opt) (app : App) :
    optLoop b lib app (.header arg :: os) =
      match headerGiven arg with
      | none =>
        .ok (.ret .PJ_CLI_EINVARG
          (app.pjLog 1 PROJECT_NAME ("Invalid header: ".toList ++ ltrim arg)))
      | some h =>
        match app.cfg.hdrs.push h with
        | none => .error .outOfBounds
        | some hdrs => optLoop b lib (app.setHdrs hdrs) os := by
  rw [optLoop, optStep, addCustomHeader_eq]
  cases headerGiven arg with
  | none => rfl
  | some h =>
      dsimp only
      cases app.cfg.hdrs.push h with
      | none => rfl
      | some hdrs => rfl

/-- One round with a `-R` option. -/
theorem optLoop_proxy (arg : CStr) (os : List Opt) (app : App) :
    optLoop b lib app (.proxy arg :: os) =
      match routeText lib (app.cfg.proxy.cnt == 0) arg with
      | .error e => .error e
      | .ok none => optLoop b lib (skipProxy lib arg app) os
      | .ok (some p) =>
        match app.cfg.proxy.push p with
        | none => .error .outOfBounds
        | some proxy => optLoop b lib (app.setProxy proxy) os := by
  rw [optLoop, optStep, addProxy_eq]
  cases routeText lib (app.cfg.proxy.cnt == 0) arg with
  | error e => rfl
  | ok r =>
      cases r with
      | none => rfl
      | some p =>
          dsimp only
          cases app.cfg.proxy.push p with
          | none => rfl
          | some proxy => rfl

/-- The edit of the first proxy fails with a cast only. -/
theorem routeText_error {first : Bool} {arg : CStr} {e : Abort}
    (h : routeText lib first arg = .error e) : e = .badCast := by
  unfold routeText at h
  split at h
  · cases h
  · rename_i v _
    split at h
    · rename_i e' hf
      cases h
      unfold forceLr setLrParam at hf
      cases v with
      | sip u => split at hf <;> cases hf
      | nameAddr | tel | other =>
          split at hf
          · cases hf
            rfl
          · cases hf
    · split at h <;> cases h

/-- **The loop does nothing undefined exactly when** the accepted values fit into what is left of
    the tables and the first proxy is a SIP URI. -/
theorem optLoop_undefined_iff (os : List TableOpt) (app : App) :
    (optLoop b lib app (os.map TableOpt.toOpt) ≠ .error .outOfBounds ∧
        optLoop b lib app (os.map TableOpt.toOpt) ≠ .error .badCast) ↔
      app.cfg.hdrs.cnt + (accepted lib (app.cfg.proxy.cnt == 0) os).1.length ≤
          MAX_CUSTOM_HEADERS ∧
        app.cfg.proxy.cnt + (accepted lib (app.cfg.proxy.cnt == 0) os).2.length ≤
          MAX_PROXY_HEADERS ∧
        sipFirst lib (app.cfg.proxy.cnt == 0) os = true := by
  induction os generalizing app with
  | nil =>
      have hh := app.cfg.hdrs.cnt_le
      have hp := app.cfg.proxy.cnt_le
      simpa [optLoop, accepted, sipFirst] using ⟨hh, hp⟩
  | cons o os ih =>
      have hh := app.cfg.hdrs.cnt_le
      have hp := app.cfg.proxy.cnt_le
      cases o with
      | header arg =>
          rw [List.map_cons, TableOpt.toOpt, optLoop_header, accepted, sipFirst]
          cases headerGiven arg with
          | none => simpa using ⟨hh, hp⟩
          | some hdr =>
              dsimp only
              cases hpush : app.cfg.hdrs.push hdr with
              | none =>
                  have hfull := Slots.push_eq_none_iff.mp hpush
                  simp only [ne_eq, not_true_eq_false, false_and, List.length_cons, false_iff]
                  omega
              | some hdrs =>
                  have hcnt := Slots.push_cnt hpush
                  dsimp only
                  rw [ih, App.setHdrs_hdrs, App.setHdrs_proxy, hcnt, List.length_cons,
                    Option.isNone_some, Bool.false_or, Nat.add_right_comm, Nat.add_assoc]
      | proxy arg =>
          rw [List.map_cons, TableOpt.toOpt, optLoop_proxy, accepted, sipFirst]
          cases hr : routeText lib (app.cfg.proxy.cnt == 0) arg with
          | error e =>
              -- the write of the `lr` parameter is what is undefined
              have he := routeText_error lib hr
              subst he
              simp
          | ok r =>
              cases r with
              | none =>
                  dsimp only
                  rw [ih, skipProxy_cfg]
              | some p =>
                  dsimp only
                  cases hpush : app.cfg.proxy.push p with
                  | none =>
                      have hfull := Slots.push_eq_none_iff.mp hpush
                      simp only [ne_eq, not_true_eq_false, false_and, List.length_cons, false_iff]
                      omega
                  | some proxy =>
                      have hcnt := Slots.push_cnt hpush
                      dsimp only
                      rw [ih, App.setProxy_hdrs, App.setProxy_proxy, Slots.push_cnt_beq hpush,
                        hcnt, List.length_cons, Nat.add_right_comm, Nat.add_assoc]

/-- **A loop that ends has appended to each table what was accepted for it.** -/
theorem optLoop_tables (os : List TableOpt) (app : App) {r : OptResult}
    (h : optLoop b lib app (os.map TableOpt.toOpt) = .ok r) :
    r.app.cfg.hdrs.items =
        app.cfg.hdrs.items ++ (accepted lib (app.cfg.proxy.cnt == 0) os).1 ∧
      r.app.cfg.proxy.items =
        app.cfg.proxy.items ++ (accepted lib (app.cfg.proxy.cnt == 0) os).2 := by
  induction os generalizing app with
  | nil =>
      cases h
      simp [accepted, OptResult.app]
  | cons o os ih =>
      cases o with
      | header arg =>
          rw [List.map_cons, TableOpt.toOpt, optLoop_header] at h
          rw [accepted]
          cases hg : headerGiven arg with
          | none =>
              simp only [hg] at h
              cases h
              simp [OptResult.app]
          | some hdr =>
              simp only [hg] at h
              cases hpush : app.cfg.hdrs.push hdr with
              | none =>
                  simp only [hpush] at h
                  cases h
              | some hdrs =>
                  simp only [hpush] at h
                  have hitems := (Slots.push_eq_some_iff.mp hpush).2
                  have hi := ih _ h
                  rwa [App.setHdrs_hdrs, App.setHdrs_proxy, hitems, List.append_assoc] at hi
      | proxy arg =>
          rw [List.map_cons, TableOpt.toOpt, optLoop_proxy] at h
          rw [accepted]
          cases hr : routeText lib (app.cfg.proxy.cnt == 0) arg with
          | error e =>
              simp only [hr] at h
              cases h
          | ok t =>
              cases t with
              | none =>
                  simp only [hr] at h
                  have hi := ih _ h
                  rwa [skipProxy_cfg] at hi
              | some p =>
                  simp only [hr] at h
                  cases hpush : app.cfg.proxy.push p with
                  | none =>
                      simp only [hpush] at h
                      cases h
                  | some proxy =>
                      simp only [hpush] at h
                      have hitems := (Slots.push_eq_some_iff.mp hpush).2
                      have hi := ih _ h
                      rwa [App.setProxy_hdrs, App.setProxy_proxy, Slots.push_cnt_beq hpush,
                        hitems, List.append_assoc] at hi

end Loop

/-! ## 3. The whole option loop -/

/-- What a sequence of `-H` and `-R` options must do to the two tables: no write is outside them
    or through a pointer to another structure, they hold the first accepted values, and neither
    kind of option changes the other's table. -/
structure TablesHold (b : Build) (lib : UriLib) (os : List TableOpt) : Prop where
  inBounds : optLoop b lib sippakInit (os.map TableOpt.toOpt) ≠ .error .outOfBounds
  wellCast : optLoop b lib sippakInit (os.map TableOpt.toOpt) ≠ .error .badCast
  hdrs : ∀ r, optLoop b lib sippakInit (os.map TableOpt.toOpt) = .ok r →
    r.app.cfg.hdrs.cnt ≤ MAX_CUSTOM_HEADERS ∧
      r.app.cfg.hdrs.items = (accepted lib true os).1.take MAX_CUSTOM_HEADERS
  proxy : ∀ r, optLoop b lib sippakInit (os.map TableOpt.toOpt) = .ok r →
    r.app.cfg.proxy.cnt ≤ MAX_PROXY_HEADERS ∧
      r.app.cfg.proxy.items = (accepted lib true os).2.take MAX_PROXY_HEADERS
  headerKeeps : ∀ arg app s app', addCustomHeader arg app = .ok (s, app') →
    app'.cfg.proxy = app.cfg.proxy
  proxyKeeps : ∀ arg app app', addProxy lib arg app = .ok app' → app'.cfg.hdrs = app.cfg.hdrs

/-- **The tables hold exactly when at most twelve values of each kind are accepted** and the first
    proxy is no other kind of URI. -/
theorem tables_hold_iff (b : Build) (lib : UriLib) (os : List TableOpt) :
    TablesHold b lib os ↔
      (accepted lib true os).1.length ≤ MAX_CUSTOM_HEADERS ∧
        (accepted lib true os).2.length ≤ MAX_PROXY_HEADERS ∧ sipFirst lib true os = true := by
  have hundef : (optLoop b lib sippakInit (os.map TableOpt.toOpt) ≠ .error .outOfBounds ∧
        optLoop b lib sippakInit (os.map TableOpt.toOpt) ≠ .error .badCast) ↔
      0 + (accepted lib true os).1.length ≤ MAX_CUSTOM_HEADERS ∧
        0 + (accepted lib true os).2.length ≤ MAX_PROXY_HEADERS ∧ sipFirst lib true os = true :=
    optLoop_undefined_iff b lib os sippakInit
  rw [Nat.zero_add, Nat.zero_add] at hundef
  constructor
  · intro h
    exact hundef.mp ⟨h.inBounds, h.wellCast⟩
  · intro hfit
    have htables := fun r (hr : _ = Except.ok r) => optLoop_tables b lib os sippakInit hr
    refine ⟨(hundef.mpr hfit).1, (hundef.mpr hfit).2, fun r hr => ⟨r.app.cfg.hdrs.cnt_le, ?_⟩,
      fun r hr => ⟨r.app.cfg.proxy.cnt_le, ?_⟩, fun arg app s app' h => ?_,
      fun arg app app' h => ?_⟩
    · rw [List.take_of_length_le hfit.1]
      exact (htables r hr).1
    · rw [List.take_of_length_le hfit.2.1]
      exact (htables r hr).2
    · rw [addCustomHeader_frame h]
    · rw [addProxy_frame h]

/-- Thirteen times `-H "X: 1"`: the last header is written behind the array. -/
theorem thirteen_headers_outOfBounds :
    (∀ b, optLoop b UriLib.plain sippakInit
        ((List.replicate 13 (TableOpt.header "X: 1".toList)).map TableOpt.toOpt) =
      .error .outOfBounds) ∧
      ¬ ∀ b lib os, TablesHold b lib os := by
  have h : ∀ b, optLoop b UriLib.plain sippakInit
      ((List.replicate 13 (TableOpt.header "X: 1".toList)).map TableOpt.toOpt) =
      .error .outOfBounds := fun b => rfl
  refine ⟨h, fun hall => ?_⟩
  have b : Build := ⟨true, true, true, true, true, true, true, true, true, true, true, true, true⟩
  exact (hall b UriLib.plain _).inBounds (h b)

/-! ## 4. What a `-H` option stores -/

theorem headerGiven_append {before : CStr} (h : ':' ∉ before) (behind : CStr) :
    headerGiven (before ++ ':' :: behind) = some ⟨ltrim before, ltrim behind⟩ := by
  rw [headerGiven, ltrim_append_cons (by decide), cutAt_append (notMem_ltrim h), Option.map_some]

/-- A value is no header exactly when it has no colon. -/
theorem headerGiven_eq_none_iff {arg : CStr} : headerGiven arg = none ↔ ':' ∉ arg := by
  constructor
  · intro h hmem
    obtain ⟨before, behind, rfl, hno⟩ := List.eq_append_cons_of_mem hmem
    rw [headerGiven_append hno] at h
    cases h
  · intro h
    rw [headerGiven, cutAt_eq_none_iff.mpr (notMem_ltrim h), Option.map_none]

/-- The `-H` value `arg` is stored as `h` behind the headers that are there, and nothing else
    changes. -/
def StoresHeader (app : App) (arg : CStr) (h : GenericHdr) : Prop :=
  ∃ hdrs, addCustomHeader arg app = .ok (.PJ_SUCCESS, app.setHdrs hdrs) ∧
    hdrs.items = app.cfg.hdrs.items ++ [h] ∧ hdrs.cnt = app.cfg.hdrs.cnt + 1

theorem storesHeader_of_given {app : App} (hroom : app.cfg.hdrs.cnt < MAX_CUSTOM_HEADERS)
    {arg : CStr} {h : GenericHdr} (hg : headerGiven arg = some h) : StoresHeader app arg h := by
  cases hpush : app.cfg.hdrs.push h with
  | none =>
      have hfull := Slots.push_eq_none_iff.mp hpush
      omega
  | some hdrs =>
      refine ⟨hdrs, ?_, (Slots.push_eq_some_iff.mp hpush).2, Slots.push_cnt hpush⟩
      rw [addCustomHeader_eq, hg]
      dsimp only
      rw [hpush]

/-- A value that is no header is refused with a line in the log. -/
theorem addCustomHeader_refuses {app : App} {arg : CStr} (hg : headerGiven arg = none) :
    addCustomHeader arg app =
      .ok (.PJ_EINVAL, app.pjLog 1 PROJECT_NAME ("Invalid header: ".toList ++ ltrim arg)) := by
  rw [addCustomHeader_eq, hg]

/-- How `-H` values are taken: refused without a colon, and then nothing is stored; cut at the
    first colon otherwise, so that a name and a value that are put together are read back. -/
structure HeadersParsed (app : App) : Prop where
  refused_iff : ∀ arg, (∃ app', addCustomHeader arg app = .ok (.PJ_EINVAL, app')) ↔ ':' ∉ arg
  kept : ∀ arg app', addCustomHeader arg app = .ok (.PJ_EINVAL, app') → app'.cfg = app.cfg
  stored : ∀ before behind, ':' ∉ before →
    StoresHeader app (before ++ ':' :: behind) ⟨ltrim before, ltrim behind⟩
  readBack : ∀ name w value, ':' ∉ name → NoLead name → (∀ c ∈ w, isSpace c = true) →
    NoLead value → StoresHeader app (name ++ ':' :: (w ++ value)) ⟨name, value⟩

/-- **Every `-H` value while there is room.** -/
theorem custom_header_parsed {app : App} (hroom : app.cfg.hdrs.cnt < MAX_CUSTOM_HEADERS) :
    HeadersParsed app := by
  -- what has a colon is stored, so a refusal is of a value without one
  have hcut : ∀ before behind, ':' ∉ before →
      StoresHeader app (before ++ ':' :: behind) ⟨ltrim before, ltrim behind⟩ :=
    fun _ behind hno => storesHeader_of_given hroom (headerGiven_append hno behind)
  have hrefused : ∀ arg app', addCustomHeader arg app = .ok (.PJ_EINVAL, app') → ':' ∉ arg := by
    intro arg app' h hmem
    obtain ⟨before, behind, rfl, hno⟩ := List.eq_append_cons_of_mem hmem
    obtain ⟨hdrs, hok, -⟩ := hcut before behind hno
    rw [hok] at h
    cases h
  refine ⟨fun arg => ⟨fun ⟨app', h⟩ => hrefused arg app' h, fun hno => ?_⟩,
    fun arg app' h => ?_, hcut, fun name w value hno hname hw hvalue => ?_⟩
  · exact ⟨_, addCustomHeader_refuses (headerGiven_eq_none_iff.mpr hno)⟩
  · rw [addCustomHeader_refuses (headerGiven_eq_none_iff.mpr (hrefused arg app' h))] at h
    cases h
    rfl
  · have hst := hcut name (w ++ value) hno
    rwa [ltrim_of_noLead hname, ltrim_append_of_space hw, ltrim_of_noLead hvalue] at hst

/-- The first `-H` option, and one with a colon in its value. -/
theorem custom_header_parsed_first :
    headerGiven "  P-user: <sip:bob@foo.com>;x-fer: false".toList =
        some ⟨"P-user".toList, "<sip:bob@foo.com>;x-fer: false".toList⟩ ∧
      HeadersParsed sippakInit :=
  ⟨by decide, custom_header_parsed (by decide)⟩

end Sippak
