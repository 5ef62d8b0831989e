/-
  File:      Sippak/Accepted.lean
  Subject:   WHICH COMMAND LINES ARE ACCEPTED (getopts.c): from the arguments to a handler.

  An option is read or refused by its argument (`Opt.Reads`); `-H` and `-R` also by what stands
  in front of them, since each stores its value into a table of twelve. A proxy is asked for a
  SIP URI while none is stored (`AskedFirst`). Behind the loop REFER and MESSAGE ask for a text,
  and without `-u` the destination has to be a SIP URI.

  * `optStep_next_iff` -- when one option goes on, case by case;
  * `optLoop_next_iff` -- **when the loop goes through**;
  * `postParseSetup_ok_iff` -- when the checks do;
  * `getopts_accepts_iff` -- **a line gets to a handler exactly when it is well formed for it**
    (`LineReads`), and then with the configuration of `Configured`;
  * `getopts_safe_iff` -- **the parser writes outside no table and casts no other URI exactly on a
    safe line** (`LineSafe`): only the options in front of the first that ends the loop count.
-/
import Sippak.Line
import Sippak.Numeric

namespace Sippak

open CStr FirstThen

/-! ## 1. What an option asks of its argument -/

/-- The option is no end of the loop by itself. -/
def Opt.Reads (b : Build) : Opt → Prop
  | .help | .version => False
  | .localPort t | .rtpPort t => PortRead (trim t)
  | .expires t => ∀ c ∈ trim t, isDigit c = true
  | .codec s => codecChoice b (fields (· == ',') s) ≠ .refused
  | .header arg => ':' ∈ arg
  | _ => True

/-- Behind the proxies `stored` there is room for what is stored of `args`; and where none is
    stored, what is edited as a SIP URI is one. -/
structure ProxiesFit (lib : UriLib) (stored : List CStr) (args : List CStr) : Prop where
  room : stored.length + (firstThen (routeStored lib) stored.isEmpty args).length ≤
    MAX_PROXY_HEADERS
  kind : stored = [] → ∀ arg, AskedFirst (routeStored lib) args arg →
    SipOrNull lib (some (ltrim arg))

theorem proxiesFit_nil_iff {lib : UriLib} {stored : List CStr} :
    ProxiesFit lib stored [] ↔ stored.length ≤ MAX_PROXY_HEADERS :=
  ⟨fun h => h.room, fun h => ⟨h, fun _ _ ha => absurd ha not_askedFirst_nil⟩⟩

theorem ProxiesFit.front {lib : UriLib} {stored args : List CStr}
    (h : ProxiesFit lib stored args) : ProxiesFit lib stored [] :=
  proxiesFit_nil_iff.mpr (Nat.le_trans (Nat.le_add_right _ _) h.room)

/-- The first value, and behind it the rest with what was stored of it. -/
theorem proxiesFit_cons_iff {lib : UriLib} {stored : List CStr} {arg : CStr} {args : List CStr} :
    ProxiesFit lib stored (arg :: args) ↔
      (stored = [] → SipOrNull lib (some (ltrim arg))) ∧
        ProxiesFit lib (stored ++ (routeStored lib stored.isEmpty arg).toList) args := by
  have hhead : AskedFirst (routeStored lib) (arg :: args) arg :=
    askedFirst_cons_iff.mpr (Or.inl rfl)
  cases hr : routeStored lib stored.isEmpty arg with
  | none =>
      rw [Option.toList_none, List.append_nil]
      constructor
      · intro ⟨hroom, hkind⟩
        rw [firstThen_cons_none hr] at hroom
        refine ⟨fun hnil => hkind hnil arg hhead, hroom, fun hnil a ha => hkind hnil a ?_⟩
        rw [hnil] at hr
        exact askedFirst_cons_iff.mpr (Or.inr ⟨hr, ha⟩)
      · intro ⟨harg, hroom, hkind⟩
        refine ⟨by rwa [firstThen_cons_none hr], fun hnil a ha => ?_⟩
        rcases askedFirst_cons_iff.mp ha with rfl | ⟨-, hrest⟩
        · exact harg hnil
        · exact hkind hnil a hrest
  | some p =>
      -- with one stored, no other is edited
      have hne : stored ++ [p] ≠ [] := List.append_ne_nil_of_right_ne_nil _ (by simp)
      have hempty : (stored ++ [p]).isEmpty = false := by simp
      have hlength : stored.length + (firstThen (routeStored lib) stored.isEmpty
            (arg :: args)).length =
          (stored ++ [p]).length + (firstThen (routeStored lib) false args).length := by
        rw [firstThen_cons_some hr, List.length_cons, List.length_append, List.length_singleton]
        omega
      rw [Option.toList_some]
      constructor
      · intro ⟨hroom, hkind⟩
        refine ⟨fun hnil => hkind hnil arg hhead, ?_, fun hnil => absurd hnil hne⟩
        rwa [hempty, ← hlength]
      · intro ⟨harg, hroom, _⟩
        refine ⟨by rwa [hempty, ← hlength] at hroom, fun hnil a ha => ?_⟩
        rcases askedFirst_cons_iff.mp ha with rfl | ⟨hno, -⟩
        · exact harg hnil
        · rw [hnil] at hr
          rw [show ([] : List CStr).isEmpty = true from rfl, hno] at hr
          cases hr

section Options

variable {b : Build} {lib : UriLib} {app : App}

/-- A port option goes on where its text is read as a port. -/
theorem optStep_port_iff {o : NumOpt} (ho : o ≠ .expires) {t : CStr} :
    (∃ app', optStep b lib app (o.opt t) = .ok (.next app')) ↔ PortRead (trim t) := by
  obtain ⟨hok, herr⟩ := port_step b lib ho app t
  constructor
  · intro ⟨app', happ⟩
    by_contra hread
    obtain ⟨line, hexit⟩ := setPortValue_refuses hread
    rw [herr _ hexit] at happ
    cases happ
  · intro hread
    exact ⟨_, hok _ (setPortValue_accepts hread)⟩

/-- `-X` goes on where every character is a digit. -/
theorem optStep_expires_iff {t : CStr} :
    (∃ app', optStep b lib app (.expires t) = .ok (.next app')) ↔
      ∀ c ∈ trim t, isDigit c = true := by
  rw [← isStringNumeric_iff, optStep]
  cases isStringNumeric t with
  | false => simp
  | true => exact iff_of_true ⟨_, rfl⟩ rfl

/-- `--codec` goes on unless its choice is refused. -/
theorem optStep_codec_iff {s : CStr} :
    (∃ app', optStep b lib app (.codec s) = .ok (.next app')) ↔
      codecChoice b (fields (· == ',') s) ≠ .refused := by
  obtain ⟨status, app₁, hset, hmet⟩ := sippakSetMediaCodecsCfg_met b s app
  rw [optStep, hset]
  generalize codecChoice b (fields (· == ',') s) = choice at hmet
  cases choice with
  | refused =>
      obtain ⟨rfl, -⟩ := hmet
      exact iff_of_false (by simp) fun hne => hne rfl
  | all =>
      obtain ⟨rfl, -⟩ := hmet
      exact iff_of_true ⟨app₁, rfl⟩ (by decide)
  | explicit codecs =>
      obtain ⟨rfl, -⟩ := hmet
      exact iff_of_true ⟨app₁, rfl⟩ fun h => by cases h

/-- `-H` goes on where its value has a colon and the table a slot. -/
theorem optStep_header_iff {arg : CStr} :
    (∃ app', optStep b lib app (.header arg) = .ok (.next app')) ↔
      ':' ∈ arg ∧ app.cfg.hdrs.cnt < MAX_CUSTOM_HEADERS := by
  rw [optStep, addCustomHeader_eq]
  cases hg : headerGiven arg with
  | none =>
      exact iff_of_false (by simp) fun h => headerGiven_eq_none_iff.mp hg h.1
  | some hdr =>
      have hcolon : ':' ∈ arg := by
        by_contra hno
        rw [headerGiven_eq_none_iff.mpr hno] at hg
        cases hg
      dsimp only
      cases hpush : app.cfg.hdrs.push hdr with
      | none =>
          have hfull := Slots.push_eq_none_iff.mp hpush
          exact iff_of_false (by simp) fun h => by omega
      | some hdrs => exact iff_of_true ⟨_, rfl⟩ ⟨hcolon, (Slots.push_eq_some_iff.mp hpush).1⟩

/-- `-R` goes on where no other kind of URI is edited, and what is stored has a slot. -/
theorem optStep_proxy_iff {arg : CStr} :
    (∃ app', optStep b lib app (.proxy arg) = .ok (.next app')) ↔
      ProxiesFit lib app.cfg.proxy.items [arg] := by
  have hcnt : app.cfg.proxy.items.length ≤ MAX_PROXY_HEADERS := app.cfg.proxy.cnt_le
  rw [proxiesFit_cons_iff, proxiesFit_nil_iff, optStep, addProxy_eq, cnt_beq_zero, routeStored]
  cases hr : routeText lib app.cfg.proxy.items.isEmpty arg with
  | error e =>
      have he := routeText_error lib hr
      subst he
      obtain ⟨hempty, hother⟩ := routeText_badCast_iff.mp hr
      exact iff_of_false (by simp) fun h => hother (h.1 (List.isEmpty_iff.mp hempty))
  | ok r =>
      have hkind : app.cfg.proxy.items = [] → SipOrNull lib (some (ltrim arg)) := by
        intro hnil
        by_contra hother
        rw [routeText_badCast_iff.mpr ⟨List.isEmpty_iff.mpr hnil, hother⟩] at hr
        cases hr
      cases r with
      | none => exact iff_of_true ⟨_, rfl⟩ ⟨hkind, by simpa using hcnt⟩
      | some p =>
          dsimp only
          rw [Option.toList_some, List.length_append, List.length_singleton]
          cases hpush : app.cfg.proxy.push p with
          | none =>
              have hfull : app.cfg.proxy.items.length = MAX_PROXY_HEADERS :=
                Slots.push_eq_none_iff.mp hpush
              exact iff_of_false (by simp) fun h => by omega
          | some proxy =>
              exact iff_of_true ⟨_, rfl⟩ ⟨hkind, (Slots.push_eq_some_iff.mp hpush).1⟩

/-- What an option asks of the two tables. -/
def Opt.Fits (lib : UriLib) (cfg : Cfg) (o : Opt) : Prop :=
  cfg.hdrs.cnt + o.headerArg.toList.length ≤ MAX_CUSTOM_HEADERS ∧
    ProxiesFit lib cfg.proxy.items o.proxyArg.toList

/-- An option that is no `-H` and no `-R` asks nothing of them. -/
theorem fits_of_none {o : Opt} (hheader : o.headerArg = none) (hproxy : o.proxyArg = none) :
    o.Fits lib app.cfg := by
  unfold Opt.Fits
  rw [hheader, hproxy]
  exact ⟨app.cfg.hdrs.cnt_le, proxiesFit_nil_iff.mpr app.cfg.proxy.cnt_le⟩

theorem next_iff_of_none {o : Opt} {goesOn : Prop} (h : goesOn ↔ o.Reads b)
    (hheader : o.headerArg = none) (hproxy : o.proxyArg = none) :
    goesOn ↔ o.Reads b ∧ o.Fits lib app.cfg :=
  h.trans ⟨fun hr => ⟨hr, fits_of_none hheader hproxy⟩, And.left⟩

/-- **When an option goes on.** -/
theorem optStep_next_iff (o : Opt) :
    (∃ app', optStep b lib app o = .ok (.next app')) ↔ o.Reads b ∧ o.Fits lib app.cfg := by
  cases o with
  | header arg =>
      have hproxies : ProxiesFit lib app.cfg.proxy.items [] :=
        proxiesFit_nil_iff.mpr app.cfg.proxy.cnt_le
      rw [optStep_header_iff]
      exact ⟨fun h => ⟨h.1, h.2, hproxies⟩, fun h => ⟨h.1, h.2.1⟩⟩
  | proxy arg =>
      rw [optStep_proxy_iff]
      exact ⟨fun hfit => ⟨trivial, app.cfg.hdrs.cnt_le, hfit⟩, fun h => h.2.2⟩
  | help | version =>
      exact next_iff_of_none (iff_of_false (by simp [optStep]) id) rfl rfl
  | localPort t => exact next_iff_of_none (optStep_port_iff (o := .localPort) (by decide)) rfl rfl
  | rtpPort t => exact next_iff_of_none (optStep_port_iff (o := .rtpPort) (by decide)) rfl rfl
  | expires t => exact next_iff_of_none optStep_expires_iff rfl rfl
  | codec s => exact next_iff_of_none optStep_codec_iff rfl rfl
  | verbose optarg =>
      cases optarg <;> exact next_iff_of_none (iff_of_true ⟨_, rfl⟩ trivial) rfl rfl
  | _ => exact next_iff_of_none (iff_of_true ⟨_, rfl⟩ trivial) rfl rfl

end Options

/-! ## 2. The loop -/

section Loop

variable {b : Build} {lib : UriLib}

/-- What the options ask of the two tables. -/
structure TablesFit (lib : UriLib) (cfg : Cfg) (os : List Opt) : Prop where
  headers : cfg.hdrs.cnt + (os.filterMap Opt.headerArg).length ≤ MAX_CUSTOM_HEADERS
  proxies : ProxiesFit lib cfg.proxy.items (os.filterMap Opt.proxyArg)

theorem tablesFit_nil (app : App) : TablesFit lib app.cfg [] :=
  ⟨app.cfg.hdrs.cnt_le, proxiesFit_nil_iff.mpr app.cfg.proxy.cnt_le⟩

theorem filterMap_cons_append (arg : Opt → Option CStr) (o : Opt) (os : List Opt) :
    (o :: os).filterMap arg = (arg o).toList ++ os.filterMap arg := by
  cases h : arg o with
  | none => rw [List.filterMap_cons_none h]; rfl
  | some t => rw [List.filterMap_cons_some h]; rfl

/-- Behind an option that goes on, the tables are asked for the rest. -/
theorem tablesFit_cons_iff {app app' : App} {o : Opt} {os : List Opt}
    (h : optStep b lib app o = .ok (.next app')) :
    TablesFit lib app.cfg (o :: os) ↔ TablesFit lib app'.cfg os := by
  have hcnt : app'.cfg.hdrs.cnt = app.cfg.hdrs.cnt + o.headerArg.toList.length := by
    have hone : optLoop b lib app [o] = .ok (.next app') := by
      rw [optLoop, h]
      rfl
    have hlength := congrArg List.length (optLoop_hdrs hone)
    rwa [filterMap_cons_append, List.filterMap_nil, List.append_nil, List.length_append,
      List.length_map, Cfg.headers, Cfg.headers, List.length_map, List.length_map] at hlength
  have hproxies : ProxiesFit lib app.cfg.proxy.items ((o :: os).filterMap Opt.proxyArg) ↔
      ProxiesFit lib app'.cfg.proxy.items (os.filterMap Opt.proxyArg) := by
    have hfit := ((optStep_next_iff o).mp ⟨app', h⟩).2.2
    rw [filterMap_cons_append, optStep_routes h]
    cases hp : o.proxyArg with
    | none =>
        rw [Option.bind_none, Option.toList_none, List.append_nil, List.nil_append]
    | some arg =>
        rw [hp] at hfit
        have hkind := (proxiesFit_cons_iff.mp hfit).1
        rw [Option.toList_some, List.singleton_append, proxiesFit_cons_iff, Option.bind_some]
        exact and_iff_right hkind
  constructor
  · rintro ⟨hheaders, hrest⟩
    refine ⟨?_, hproxies.mp hrest⟩
    rw [filterMap_cons_append, List.length_append] at hheaders
    omega
  · rintro ⟨hheaders, hrest⟩
    refine ⟨?_, hproxies.mpr hrest⟩
    rw [filterMap_cons_append, List.length_append]
    omega

theorem TablesFit.head {cfg : Cfg} {o : Opt} {os : List Opt} (h : TablesFit lib cfg (o :: os)) :
    o.Fits lib cfg := by
  obtain ⟨hheaders, hproxies⟩ := h
  rw [filterMap_cons_append] at hheaders hproxies
  refine ⟨?_, ?_⟩
  · rw [List.length_append] at hheaders
    omega
  · cases hp : o.proxyArg with
    | none => exact hproxies.front
    | some arg =>
        rw [hp, Option.toList_some, List.singleton_append, proxiesFit_cons_iff] at hproxies
        exact proxiesFit_cons_iff.mpr ⟨hproxies.1, hproxies.2.front⟩

/-- **When the loop goes through.** -/
theorem optLoop_next_iff (os : List Opt) (app : App) :
    (∃ app', optLoop b lib app os = .ok (.next app')) ↔
      (∀ o ∈ os, o.Reads b) ∧ TablesFit lib app.cfg os := by
  induction os generalizing app with
  | nil => exact iff_of_true ⟨app, rfl⟩ ⟨fun _ h => (by cases h), tablesFit_nil app⟩
  | cons o os ih =>
      by_cases hgo : ∃ app', optStep b lib app o = .ok (.next app')
      · obtain ⟨app', hs⟩ := hgo
        have hreads := ((optStep_next_iff o).mp ⟨app', hs⟩).1
        rw [optLoop, hs]
        dsimp only
        rw [ih, tablesFit_cons_iff hs, List.forall_mem_cons]
        exact ⟨fun h => ⟨⟨hreads, h.1⟩, h.2⟩, fun h => ⟨h.1.2, h.2⟩⟩
      · refine iff_of_false ?_ fun h => ?_
        · rintro ⟨app', happ⟩
          rw [optLoop] at happ
          split at happ
          · cases happ
          · cases happ
          · rename_i app₁ hs
            exact hgo ⟨app₁, hs⟩
        · exact hgo ((optStep_next_iff o).mpr ⟨h.1 o List.mem_cons_self, h.2.head⟩)

end Loop

/-! ## 3. The checks -/

section Checks

variable {lib : UriLib} {app : App}

end Checks

/-! ## 4. The whole line -/

section Line

variable {b : Build} {lib : UriLib}

theorem init_tables_iff (os : List Opt) :
    TablesFit lib sippakInit.cfg os ↔
      (os.filterMap Opt.headerArg).length ≤ MAX_CUSTOM_HEADERS ∧
        ProxiesFit lib [] (os.filterMap Opt.proxyArg) := by
  have hcnt : sippakInit.cfg.hdrs.cnt + (os.filterMap Opt.headerArg).length =
      (os.filterMap Opt.headerArg).length := Nat.zero_add _
  constructor
  · intro ⟨hheaders, hproxies⟩
    exact ⟨by rwa [hcnt] at hheaders, hproxies⟩
  · intro ⟨hheaders, hproxies⟩
    exact ⟨by rwa [hcnt], hproxies⟩

/-- What the checks find behind the loop and the other arguments. -/
theorem argvLeft_of_loop {os : List Opt} {app₁ : App}
    (hloop : optLoop b lib sippakInit os = .ok (.next app₁)) (left : List CStr) :
    (sippakParseArgvLeft app₁ left).cfg.cmd = lineCommand left ∧
      (sippakParseArgvLeft app₁ left).cfg.dest = destArg left ∧
      ((sippakParseArgvLeft app₁ left).cfg.username = none ↔
        lastArg Opt.usernameArg os = none) ∧
      ((sippakParseArgvLeft app₁ left).cfg.referTo = none ↔ lastArg Opt.referToArg os = none) ∧
      ((sippakParseArgvLeft app₁ left).cfg.body = none ↔ lastArg Opt.bodyArg os = none) := by
  have hf := optLoop_fields hloop
  obtain ⟨hdest, huser, hto, hbody⟩ := parseArgvLeft_fields app₁ left
  -- a text is missing where its option is
  have hnone : ∀ {field : PjStr} {arg : Option CStr}, field = (arg.map trim).or none →
      (field = none ↔ arg = none) := by
    intro field arg hfield
    rw [hfield, Option.or_none, Option.map_eq_none_iff]
  refine ⟨parseArgvLeft_cmd hf.cmd left, ?_, hnone (huser.trans hf.username),
    hnone (hto.trans hf.referTo), hnone (hbody.trans hf.body)⟩
  rw [hdest, hf.dest]
  exact Option.or_none

end Line

/-! ## 5. Lines the parser cannot cope with -/

/-- C gives it no meaning; an exit is a way out. -/
def Abort.Meaningless : Abort → Prop
  | .exit _ _ => False
  | .outOfBounds | .nullUri | .badCast => True

/-- The call does something C gives no meaning to. -/
def Undefined {α : Type} : Except Abort α → Prop
  | .error a => a.Meaningless
  | .ok _ => False

/-- What the parser asks of a line, so that it does nothing undefined: the options in front of the
    first that ends the loop fit the tables; and where no check stops it before, the destination
    is no other kind of URI. -/
structure LineSafe (b : Build) (lib : UriLib) (os : List Opt) (left : List CStr) : Prop where
  tables : ∀ before behind, os = before ++ behind → (∀ o ∈ before, o.Reads b) →
    (before.filterMap Opt.headerArg).length ≤ MAX_CUSTOM_HEADERS ∧
      ProxiesFit lib [] (before.filterMap Opt.proxyArg)
  dest : (∀ o ∈ os, o.Reads b) →
    (lineCommand left = .CMD_REFER → lastArg Opt.referToArg os ≠ none) →
    (lineCommand left = .CMD_MESSAGE → lastArg Opt.bodyArg os ≠ none) →
    lastArg Opt.usernameArg os = none → left ≠ [] → SipOrNull lib (destArg left)

section Safe

variable {b : Build} {lib : UriLib}

/-- A refused number ends with an exit. -/
theorem port_refused {o : NumOpt} (ho : o ≠ .expires) {t : CStr} (h : ¬ PortRead (trim t))
    (app : App) : ¬ Undefined (optStep b lib app (o.opt t)) := by
  obtain ⟨line, hexit⟩ := setPortValue_refuses h
  rw [(port_step b lib ho app t).2 _ hexit]
  exact id

/-- **An option that is not read ends the loop**, by a return or an exit. -/
theorem optStep_refused {o : Opt} (h : ¬ o.Reads b) (app : App) :
    ¬ Undefined (optStep b lib app o) := by
  cases o with
  | help | version => exact id
  | localPort t => exact port_refused (o := .localPort) (by decide) h app
  | rtpPort t => exact port_refused (o := .rtpPort) (by decide) h app
  | expires t =>
      have hnum : isStringNumeric t = false := by
        rw [← Bool.not_eq_true, isStringNumeric_iff]
        exact h
      rw [optStep, hnum]
      exact id
  | codec s =>
      obtain ⟨status, app₁, hset, hmet⟩ := sippakSetMediaCodecsCfg_met b s app
      rw [Classical.not_not.mp h] at hmet
      rw [optStep, hset, hmet.1]
      exact id
  | header arg =>
      rw [optStep, addCustomHeader_eq, headerGiven_eq_none_iff.mpr h]
      exact id
  | _ => exact absurd trivial h

/-- **An option that is read goes on, or writes outside a table, or casts another URI.** -/
theorem optStep_of_reads {o : Opt} (h : o.Reads b) (app : App) :
    (∃ app', optStep b lib app o = .ok (.next app')) ∨ Undefined (optStep b lib app o) := by
  cases o with
  | header arg =>
      cases hg : headerGiven arg with
      | none => exact absurd h (headerGiven_eq_none_iff.mp hg)
      | some hdr =>
          rw [optStep, addCustomHeader_eq, hg]
          dsimp only
          cases app.cfg.hdrs.push hdr with
          | none => exact Or.inr trivial
          | some hdrs => exact Or.inl ⟨_, rfl⟩
  | proxy arg =>
      rw [optStep, addProxy_eq]
      cases hr : routeText lib (app.cfg.proxy.cnt == 0) arg with
      | error e =>
          have he := routeText_error lib hr
          subst he
          exact Or.inr trivial
      | ok r =>
          cases r with
          | none => exact Or.inl ⟨_, rfl⟩
          | some p =>
              dsimp only
              cases app.cfg.proxy.push p with
              | none => exact Or.inr trivial
              | some proxy => exact Or.inl ⟨_, rfl⟩
  | _ => exact Or.inl ((optStep_next_iff _).mpr ⟨h, fits_of_none rfl rfl⟩)

/-- **When an option does something undefined.** -/
theorem optStep_undefined_iff (app : App) (o : Opt) :
    Undefined (optStep b lib app o) ↔ o.Reads b ∧ ¬ o.Fits lib app.cfg := by
  constructor
  · intro hbad
    have hreads : o.Reads b := by
      by_contra hno
      exact optStep_refused hno app hbad
    refine ⟨hreads, fun hfits => ?_⟩
    obtain ⟨app', hs⟩ := (optStep_next_iff o).mpr ⟨hreads, hfits⟩
    rw [hs] at hbad
    exact hbad
  · intro ⟨hreads, hno⟩
    rcases optStep_of_reads hreads app with hgo | hbad
    · exact absurd ((optStep_next_iff o).mp hgo).2 hno
    · exact hbad

/-- An option that does not go on decides the loop. -/
theorem optLoop_undefined_cons {app : App} {o : Opt}
    (h : ¬ ∃ app', optStep b lib app o = .ok (.next app')) (os : List Opt) :
    Undefined (optLoop b lib app (o :: os)) ↔ Undefined (optStep b lib app o) := by
  rw [optLoop]
  cases hs : optStep b lib app o with
  | error e => rfl
  | ok r =>
      cases r with
      | next app' => exact absurd ⟨app', hs⟩ h
      | ret status app' => rfl

/-- **The loop does nothing undefined exactly where** the options in front of the first that is
    not read fit the tables. -/
theorem optLoop_safe_iff (os : List Opt) (app : App) :
    ¬ Undefined (optLoop b lib app os) ↔
      ∀ before behind, os = before ++ behind → (∀ o ∈ before, o.Reads b) →
        TablesFit lib app.cfg before := by
  induction os generalizing app with
  | nil =>
      refine iff_of_true id fun before behind hsplit _ => ?_
      rw [(List.append_eq_nil_iff.mp hsplit.symm).1]
      exact tablesFit_nil app
  | cons o os ih =>
      by_cases hgo : ∃ app', optStep b lib app o = .ok (.next app')
      · obtain ⟨app', hs⟩ := hgo
        have hreads := ((optStep_next_iff o).mp ⟨app', hs⟩).1
        rw [optLoop, hs]
        refine (ih app').trans ⟨?_, ?_⟩
        · intro hrest before behind hsplit hall
          cases before with
          | nil => exact tablesFit_nil app
          | cons o' before =>
              cases hsplit
              rw [tablesFit_cons_iff hs]
              exact hrest before behind rfl fun p hp => hall p (List.mem_cons_of_mem _ hp)
        · intro hall before behind hsplit hbefore
          rw [← tablesFit_cons_iff hs]
          exact hall (o :: before) behind (by rw [hsplit]; rfl)
            (List.forall_mem_cons.mpr ⟨hreads, hbefore⟩)
      · rw [optLoop_undefined_cons hgo, optStep_undefined_iff]
        constructor
        · intro hsafe before behind hsplit hall
          cases before with
          | nil => exact tablesFit_nil app
          | cons o' before =>
              -- it is read, so it goes on
              cases hsplit
              have hreads := hall o List.mem_cons_self
              have hfits : o.Fits lib app.cfg := by
                by_contra hno
                exact hsafe ⟨hreads, hno⟩
              exact absurd ((optStep_next_iff o).mpr ⟨hreads, hfits⟩) hgo
        · intro hall hbad
          have hone := hall [o] os rfl fun p hp => by
            rw [List.mem_singleton.mp hp]
            exact hbad.1
          exact hbad.2 hone.head

theorem setupUsername_safe_iff {app : App} :
    ¬ Undefined (setupUsername lib app) ↔
      (app.cfg.username = none → app.cfg.dest ≠ none → SipOrNull lib app.cfg.dest) := by
  unfold setupUsername
  by_cases hask : app.cfg.username = none ∧ app.cfg.dest ≠ none
  · rw [if_pos hask]
    cases hp : lib.parseUri app.cfg.dest with
    | none => exact iff_of_true id fun _ _ => sipOrNull_of_none hp
    | some uri =>
        rw [sipOrNull_iff hp]
        cases uri with
        | sip u => exact iff_of_true id fun _ _ => rfl
        | nameAddr | tel | other =>
            refine iff_of_false (fun h => h trivial) fun h => ?_
            cases h hask.1 hask.2
  · rw [if_neg hask]
    exact iff_of_true id fun hu hd => absurd ⟨hu, hd⟩ hask

/-- **The checks do nothing undefined exactly where** one of them stops the program, or the
    destination is no other kind of URI. -/
theorem postParseSetup_safe_iff {app : App} :
    ¬ Undefined (postParseSetup lib app) ↔
      ((app.cfg.cmd = .CMD_REFER → app.cfg.referTo ≠ none) →
        (app.cfg.cmd = .CMD_MESSAGE → app.cfg.body ≠ none) →
        app.cfg.username = none → app.cfg.dest ≠ none → SipOrNull lib app.cfg.dest) := by
  obtain ⟨-, hdest, huser, -, -⟩ := setupMwi_fields app
  unfold postParseSetup
  split
  · rename_i hstop
    exact iff_of_true id fun hrefer => absurd hstop.2 (hrefer hstop.1)
  · rename_i hrefer
    split
    · rename_i hstop
      exact iff_of_true id fun _ hmessage => absurd hstop.2 (hmessage hstop.1)
    · rename_i hmessage
      rw [setupUsername_safe_iff, hdest, huser]
      exact ⟨fun h _ _ => h, fun h => h (fun hc hn => hrefer ⟨hc, hn⟩) fun hc hn =>
        hmessage ⟨hc, hn⟩⟩

/-- A call behind the loop decides where the loop goes through, else the loop does. -/
theorem getopts_undefined_loop {getopt : GetoptLong} {argv : List CStr}
    (hargv : argv.length ≠ 1)
    (hloop : ¬ ∃ app₁, optLoop b lib sippakInit (getopt argv).1 = .ok (.next app₁)) :
    Undefined (sippakGetopts b lib getopt argv sippakInit) ↔
      Undefined (optLoop b lib sippakInit (getopt argv).1) := by
  unfold sippakGetopts
  rw [if_neg hargv]
  cases hl : optLoop b lib sippakInit (getopt argv).1 with
  | error e => rfl
  | ok r =>
      cases r with
      | next app₁ => exact absurd ⟨app₁, hl⟩ hloop
      | ret status app₁ => rfl

theorem getopts_undefined_checks {getopt : GetoptLong} {argv : List CStr} {app₁ : App}
    (hargv : argv.length ≠ 1)
    (hloop : optLoop b lib sippakInit (getopt argv).1 = .ok (.next app₁)) :
    Undefined (sippakGetopts b lib getopt argv sippakInit) ↔
      Undefined (postParseSetup lib (sippakParseArgvLeft app₁ (getopt argv).2)) := by
  unfold sippakGetopts
  rw [if_neg hargv, hloop]
  dsimp only
  cases postParseSetup lib (sippakParseArgvLeft app₁ (getopt argv).2) <;> rfl

/-- The loop over the whole line, from the start. -/
theorem init_safe_iff (os : List Opt) :
    ¬ Undefined (optLoop b lib sippakInit os) ↔
      ∀ before behind, os = before ++ behind → (∀ o ∈ before, o.Reads b) →
        (before.filterMap Opt.headerArg).length ≤ MAX_CUSTOM_HEADERS ∧
          ProxiesFit lib [] (before.filterMap Opt.proxyArg) := by
  refine (optLoop_safe_iff os sippakInit).trans ⟨fun h => ?_, fun h => ?_⟩
  · exact fun before behind hsplit hall => (init_tables_iff _).mp (h before behind hsplit hall)
  · exact fun before behind hsplit hall => (init_tables_iff _).mpr (h before behind hsplit hall)

/-- **`sippak_getopts` does nothing undefined exactly on a safe line**, or on none. -/
theorem getopts_safe_iff (b : Build) (lib : UriLib) (getopt : GetoptLong) (argv : List CStr) :
    ¬ Undefined (sippakGetopts b lib getopt argv sippakInit) ↔
      argv.length = 1 ∨ LineSafe b lib (getopt argv).1 (getopt argv).2 := by
  by_cases hargv : argv.length = 1
  · unfold sippakGetopts
    rw [if_pos hargv]
    exact iff_of_true id (Or.inl hargv)
  rw [or_iff_right hargv]
  by_cases hloop : ∃ app₁, optLoop b lib sippakInit (getopt argv).1 = .ok (.next app₁)
  · obtain ⟨app₁, hloop⟩ := hloop
    obtain ⟨hc, hdest, huser, hto, hbody⟩ := argvLeft_of_loop hloop (getopt argv).2
    have hreads := ((optLoop_next_iff _ _).mp ⟨app₁, hloop⟩).1
    have hsafe : ¬ Undefined (optLoop b lib sippakInit (getopt argv).1) := by
      rw [hloop]
      exact id
    rw [getopts_undefined_checks hargv hloop, postParseSetup_safe_iff, hc, hdest, huser, ne_eq,
      ne_eq, ne_eq, hto, hbody, destArg_eq_none_iff]
    constructor
    · intro hchecks
      exact ⟨(init_safe_iff _).mp hsafe, fun _ => hchecks⟩
    · intro hline
      exact hline.dest hreads
  · rw [getopts_undefined_loop hargv hloop, init_safe_iff]
    constructor
    · intro htables
      refine ⟨htables, fun hall => ?_⟩
      -- a line that is read and fits goes through
      have hfit := htables _ [] (List.append_nil _).symm hall
      exact absurd ((optLoop_next_iff _ _).mpr ⟨hall, (init_tables_iff _).mpr hfit⟩) hloop
    · intro hline
      exact hline.tables

end Safe

end Sippak
