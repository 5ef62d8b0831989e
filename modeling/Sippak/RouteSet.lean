/-
  File:      Sippak/RouteSet.lean
  Subject:   FROM -R TO THE ROUTE SET (getopts.c: `add_proxy`; sip_helper.c:
             `sippak_set_proxies_list`).

  While the options are parsed a proxy is parsed, the first accepted one gets the lr parameter,
  and its text is stored; when a request is made, each stored text is parsed once more, as a
  Route header. `pjsip_parse_hdr` is pjsip's and stays a parameter (`parseHdr`).

  * `optLoop_routes` -- the texts after the option loop, whatever other options stand between;
  * `wantedRoutes` -- the routes the values ask for, stated on the URIs: the first one that can be
    stored with lr, then those that can be stored as written;
  * `proxies_list_right` -- **the route set is `wantedRoutes`**, where a printed URI is read back
    as the same URI; there is none exactly when no value was valid;
  * `getopts_routes` -- the same of a whole command line.
-/
import Sippak.Casts
import Sippak.Lib.FirstThen
import Sippak.Options

namespace Sippak

open CStr FirstThen

/-! ## 1. The route set -/

/-- `pjsip_route_hdr`. -/
structure RouteHdr where
  display : PjStr
  uri : Uri
  otherParam : CStr
  deriving DecidableEq, Repr

def ROUTE : CStr := "Route".toList

section RouteSet

variable (parseHdr : CStr → CStr → Option RouteHdr)

/-- One round of the loop over `app->cfg.proxy`. -/
def pushRoute (routeSet : List RouteHdr) (p : CStr) : List RouteHdr :=
  match parseHdr ROUTE p with
  | some route => routeSet ++ [route]
  | none => routeSet

/-- `sippak_set_proxies_list`; `none` = `PJ_FALSE`, and `*rset` is not written. -/
def sippakSetProxiesList (app : App) : Option (List RouteHdr) :=
  if app.cfg.proxy.cnt = 0 then none
  else some (app.cfg.proxy.items.foldl (pushRoute parseHdr) [])

theorem foldl_pushRoute (routeSet : List RouteHdr) (ps : List CStr) :
    ps.foldl (pushRoute parseHdr) routeSet = routeSet ++ ps.filterMap (parseHdr ROUTE) := by
  induction ps generalizing routeSet with
  | nil => exact (List.append_nil routeSet).symm
  | cons p ps ih =>
      rw [List.foldl_cons, ih, pushRoute]
      cases h : parseHdr ROUTE p with
      | none => rw [List.filterMap_cons_none h]
      | some r => rw [List.filterMap_cons_some h, List.append_assoc, List.singleton_append]

/-- The stored texts that are Route headers, in order. -/
theorem sippakSetProxiesList_eq (app : App) :
    sippakSetProxiesList parseHdr app =
      if app.cfg.proxy.items = [] then none
      else some (app.cfg.proxy.items.filterMap (parseHdr ROUTE)) := by
  unfold sippakSetProxiesList
  rw [foldl_pushRoute, List.nil_append]
  exact if_congr List.length_eq_zero_iff rfl rfl

end RouteSet

/-! ## 2. What the option loop stores -/

/-- The argument of a `-R` option. -/
def Opt.proxyArg : Opt → Option CStr
  | .proxy optarg => some optarg
  | _ => none

/-- The texts in `app->cfg.proxy`. -/
def Cfg.proxyTexts (cfg : Cfg) : List CStr := cfg.proxy.items

/-- The text that is stored for a `-R` value. -/
def routeStored (lib : UriLib) (first : Bool) (arg : CStr) : Option CStr :=
  match routeText lib first arg with
  | .ok p => p
  | .error _ => none

section Loop

variable {b : Build} {lib : UriLib}

theorem cnt_beq_zero (proxy : Slots CStr MAX_PROXY_HEADERS) :
    (proxy.cnt == 0) = proxy.items.isEmpty := by
  unfold Slots.cnt
  cases proxy.items <;> rfl

/-- One option: a `-R` option may store its text, the others keep the list. -/
theorem optStep_routes {app app' : App} {o : Opt} (h : optStep b lib app o = .ok (.next app')) :
    app'.cfg.proxy.items = app.cfg.proxy.items ++
      (o.proxyArg.bind (routeStored lib app.cfg.proxy.items.isEmpty)).toList := by
  have hw := congrArg Cfg.proxy (optStep_write h)
  cases o with
  | proxy optarg =>
      rw [optStep, addProxy_eq, cnt_beq_zero] at h
      show _ = _ ++ (routeStored lib app.cfg.proxy.items.isEmpty optarg).toList
      unfold routeStored
      cases hr : routeText lib app.cfg.proxy.items.isEmpty optarg with
      | error e =>
          simp only [hr] at h
          cases h
      | ok r =>
          simp only [hr] at h
          cases r with
          | none =>
              cases h
              rw [skipProxy_cfg]
              exact (List.append_nil _).symm
          | some p =>
              dsimp only at h
              cases hpush : app.cfg.proxy.push p with
              | none =>
                  rw [hpush] at h
                  cases h
              | some proxy =>
                  rw [hpush] at h
                  cases h
                  exact (Slots.push_eq_some_iff.mp hpush).2
  | _ => exact (congrArg Slots.items hw).trans (List.append_nil _).symm

/-- **The texts after the loop**, whatever other options stand between the `-R` options. -/
theorem optLoop_routes {os : List Opt} {app app' : App}
    (h : optLoop b lib app os = .ok (.next app')) :
    app'.cfg.proxy.items = app.cfg.proxy.items ++
      firstThen (routeStored lib) app.cfg.proxy.items.isEmpty (os.filterMap Opt.proxyArg) := by
  have hfold : app'.cfg.proxyTexts =
      os.foldl (fun ps o => ps ++ (o.proxyArg.bind (routeStored lib ps.isEmpty)).toList)
        app.cfg.proxyTexts := optLoop_fold (fun _ _ _ hs => optStep_routes hs) h
  rw [← firstThen_filterMap, ← foldl_firstThen]
  exact hfold

/-- A line of `-R` options goes through: none is another kind of URI, and there is room. -/
theorem optLoop_proxies (args : List CStr) (app : App)
    (hkind : ∀ arg ∈ args, SipOrNull lib (some (ltrim arg)))
    (hroom : app.cfg.proxy.cnt + args.length ≤ MAX_PROXY_HEADERS) :
    ∃ app', optLoop b lib app (args.map Opt.proxy) = .ok (.next app') := by
  induction args generalizing app with
  | nil => exact ⟨app, rfl⟩
  | cons arg args ih =>
      have hkind' := fun a ha => hkind a (List.mem_cons_of_mem _ ha)
      rw [List.length_cons] at hroom
      rw [List.map_cons, optLoop_proxy]
      cases hr : routeText lib (app.cfg.proxy.cnt == 0) arg with
      | error e =>
          have he := routeText_error lib hr
          subst he
          exact absurd (hkind arg List.mem_cons_self) (routeText_badCast_iff.mp hr).2
      | ok r =>
          cases r with
          | none =>
              refine ih _ hkind' ?_
              rw [skipProxy_cfg]
              omega
          | some p =>
              dsimp only
              cases hpush : app.cfg.proxy.push p with
              | none =>
                  have hfull := Slots.push_eq_none_iff.mp hpush
                  omega
              | some proxy =>
                  refine ih _ hkind' ?_
                  rw [App.setProxy_proxy, Slots.push_cnt hpush]
                  omega

end Loop

/-! ## 3. The routes the values ask for -/

def withLr (u : SipUri) : SipUri := { u with lrParam := true }

/-- The lr parameter is forced where nothing is stored yet. -/
def lrForced (first : Bool) (u : SipUri) : SipUri := if first then withLr u else u

/-- The text of a proxy, where it can be printed within `PJSIP_MAX_URL_SIZE`. -/
def proxyText (lib : UriLib) (u : SipUri) : Option CStr :=
  (lib.printUri .PJSIP_URI_IN_ROUTING_HDR (.sip u) PJSIP_MAX_URL_SIZE).filter (0 < ·.length)

/-- The SIP URI of a `-R` value. -/
def proxyUri (lib : UriLib) (arg : CStr) : Option SipUri :=
  match lib.parseUri (some (ltrim arg)) with
  | some (.sip u) => some u
  | _ => none

/-- The SIP URIs of the values, in the order given. -/
def sipUris (lib : UriLib) (args : List CStr) : List SipUri := args.filterMap (proxyUri lib)

/-- **The routes the values ask for**: the first URI that can be printed with lr, with it, and
    behind it those that can be printed as they are written. -/
def wantedRoutes (lib : UriLib) (args : List CStr) : List SipUri :=
  match (sipUris lib args).dropWhile fun u => (proxyText lib (withLr u)).isNone with
  | [] => []
  | u :: rest => withLr u :: rest.filter fun v => (proxyText lib v).isSome

/-- What is printed for `u` is read back as `u` in a Route header. -/
def ReadsBack (lib : UriLib) (parseHdr : CStr → CStr → Option RouteHdr) (u : SipUri) : Prop :=
  ∀ p ∈ proxyText lib u, (parseHdr ROUTE p).map RouteHdr.uri = some (.sip u)

section Routes

variable {b : Build} {lib : UriLib} {parseHdr : CStr → CStr → Option RouteHdr}

/-- A value of the right kind is stored as its SIP URI prints. -/
theorem routeStored_eq {arg : CStr} (hkind : SipOrNull lib (some (ltrim arg))) (first : Bool) :
    routeStored lib first arg =
      (proxyUri lib arg).bind fun u => proxyText lib (lrForced first u) := by
  unfold routeStored routeText proxyUri
  cases hp : lib.parseUri (some (ltrim arg)) with
  | none => rfl
  | some v =>
      obtain ⟨u, rfl⟩ := Uri.isSip_iff.mp (hkind v hp)
      have hlr : forceLr first (.sip u) = .ok (.sip (lrForced first u)) := by cases first <;> rfl
      dsimp only
      rw [hlr, Option.bind_some, proxyText]
      dsimp only
      cases lib.printUri .PJSIP_URI_IN_ROUTING_HDR (.sip (lrForced first u)) PJSIP_MAX_URL_SIZE with
      | none => rfl
      | some p =>
          by_cases hlen : 0 < p.length
          · simp [Option.filter, hlen]
          · simp [Option.filter, hlen]

/-- The stored texts are those of the SIP URIs. -/
theorem stored_of_uris {args : List CStr}
    (hkind : ∀ arg ∈ args, SipOrNull lib (some (ltrim arg))) :
    firstThen (routeStored lib) true args =
      firstThen (fun first u => proxyText lib (lrForced first u)) true (sipUris lib args) := by
  rw [sipUris, ← firstThen_filterMap]
  exact firstThen_congr fun first arg ha => routeStored_eq (hkind arg ha) first

/-- **The closed form** of the loop on SIP URIs: what can be printed comes out as a URI. -/
theorem wantedRoutes_eq (lib : UriLib) (args : List CStr) :
    firstThen (fun first u => (proxyText lib (lrForced first u)).map fun _ =>
        Uri.sip (lrForced first u)) true (sipUris lib args) =
      (wantedRoutes lib args).map Uri.sip := by
  have hskip : (fun u => ((proxyText lib (lrForced true u)).map fun _ =>
      Uri.sip (lrForced true u)).isNone) = fun u => (proxyText lib (withLr u)).isNone := by
    funext u
    exact Option.isNone_map
  have hrest : ∀ us : List SipUri,
      us.filterMap (fun v => (proxyText lib v).map fun _ => Uri.sip v) =
        (us.filter fun v => (proxyText lib v).isSome).map Uri.sip := by
    intro us
    rw [← List.filterMap_eq_map', List.filterMap_filter]
    congr 1
    funext v
    cases proxyText lib v <;> rfl
  rw [firstThen_true, hskip, wantedRoutes]
  cases hd : (sipUris lib args).dropWhile fun u => (proxyText lib (withLr u)).isNone with
  | nil => rfl
  | cons u rest =>
      -- the first URI that is not skipped can be printed
      have hhead := List.head?_dropWhile_not (fun u => (proxyText lib (withLr u)).isNone)
        (sipUris lib args)
      rw [hd] at hhead
      cases hp : proxyText lib (withLr u) with
      | none =>
          dsimp only [List.head?_cons] at hhead
          rw [hp] at hhead
          cases hhead
      | some p =>
          show ((proxyText lib (withLr u)).map _).toList ++ rest.filterMap _ = _
          rw [hp]
          exact congrArg (Uri.sip (withLr u) :: ·) (hrest rest)

theorem wantedRoutes_nil_iff (lib : UriLib) (args : List CStr) :
    wantedRoutes lib args = [] ↔ ∀ u ∈ sipUris lib args, proxyText lib (withLr u) = none := by
  rw [← List.map_eq_nil_iff (f := Uri.sip), ← wantedRoutes_eq, firstThen_nil_iff]
  exact forall₂_congr fun u _ => Option.map_eq_none_iff

/-- **The route set** `rset` (`none` = `PJ_FALSE`) of the values `args`. -/
structure RouteSetRight (lib : UriLib) (args : List CStr) (rset : Option (List RouteHdr)) :
    Prop where
  routes : ∀ rs, rset = some rs → rs.map RouteHdr.uri = (wantedRoutes lib args).map Uri.sip
  looseFirst : ∀ rs, rset = some rs →
    ∃ u rest, rs.map RouteHdr.uri = Uri.sip u :: rest ∧ u.lrParam = true
  none_iff : rset = none ↔ ∀ u ∈ sipUris lib args, proxyText lib (withLr u) = none

/-- The texts the loop stores make the route set that is asked for. -/
theorem routeSet_of_stored {args : List CStr} {app : App}
    (hkind : ∀ arg ∈ args, SipOrNull lib (some (ltrim arg)))
    (hback : ∀ u ∈ sipUris lib args,
      ReadsBack lib parseHdr u ∧ ReadsBack lib parseHdr (withLr u))
    (hstored : app.cfg.proxy.items = firstThen (routeStored lib) true args) :
    RouteSetRight lib args (sippakSetProxiesList parseHdr app) := by
  rw [stored_of_uris hkind] at hstored
  have hread : ∀ first, ∀ u ∈ sipUris lib args, ∀ p, proxyText lib (lrForced first u) = some p →
      (parseHdr ROUTE p).map RouteHdr.uri = some (Uri.sip (lrForced first u)) := by
    intro first u hu p hp
    cases first with
    | false => exact (hback u hu).1 p hp
    | true => exact (hback u hu).2 p hp
  have hwanted : (app.cfg.proxy.items.filterMap (parseHdr ROUTE)).map RouteHdr.uri =
      (wantedRoutes lib args).map Uri.sip := by
    rw [List.map_filterMap, hstored, filterMap_firstThen, ← wantedRoutes_eq]
    · refine firstThen_congr fun first u hu => ?_
      cases hp : proxyText lib (lrForced first u) with
      | none => rfl
      | some p => exact hread first u hu p hp
    · intro first u hu p hp
      rw [hread first u hu p hp]
      exact Option.some_ne_none _
  have hnil : app.cfg.proxy.items = [] ↔ wantedRoutes lib args = [] := by
    rw [wantedRoutes_nil_iff, hstored, firstThen_nil_iff]
    rfl
  rw [sippakSetProxiesList_eq]
  by_cases hempty : app.cfg.proxy.items = []
  · rw [if_pos hempty]
    refine ⟨fun rs h => (by cases h), fun rs h => (by cases h), ?_⟩
    rw [← wantedRoutes_nil_iff, ← hnil]
    exact ⟨fun _ => hempty, fun _ => rfl⟩
  · rw [if_neg hempty]
    refine ⟨fun rs h => ?_, fun rs h => ?_, ?_⟩
    · rw [← Option.some.inj h, hwanted]
    · rw [← Option.some.inj h, hwanted]
      -- something is stored, so the first wanted route is there, with lr
      have hsome : wantedRoutes lib args ≠ [] := fun he => hempty (hnil.mpr he)
      unfold wantedRoutes at hsome ⊢
      split at hsome
      · exact absurd rfl hsome
      · exact ⟨_, _, rfl, rfl⟩
    · rw [← wantedRoutes_nil_iff, ← hnil]
      exact ⟨fun h => (by cases h), fun h => absurd h hempty⟩

/-- **The route set of the `-R` values**: for at most twelve values, each a SIP URI or no URI, a
    line of `-R` options goes through, and after every loop with these `-R` values that goes
    through the route set is the one they ask for. -/
theorem proxies_list_right {args : List CStr} (hlen : args.length ≤ MAX_PROXY_HEADERS)
    (hkind : ∀ arg ∈ args, SipOrNull lib (some (ltrim arg)))
    (hback : ∀ u ∈ sipUris lib args,
      ReadsBack lib parseHdr u ∧ ReadsBack lib parseHdr (withLr u)) :
    (∃ app, optLoop b lib sippakInit (args.map Opt.proxy) = .ok (.next app)) ∧
      ∀ os app, os.filterMap Opt.proxyArg = args →
        optLoop b lib sippakInit os = .ok (.next app) →
        RouteSetRight lib args (sippakSetProxiesList parseHdr app) := by
  refine ⟨optLoop_proxies args sippakInit hkind ?_, fun os app hos hloop => ?_⟩
  · show 0 + args.length ≤ MAX_PROXY_HEADERS
    omega
  · subst hos
    exact routeSet_of_stored hkind hback (optLoop_routes hloop)

/-- The proxies of an accepted line are those of its option loop. -/
theorem getopts_proxy {getopt : GetoptLong} {argv : List CStr} {app : App}
    (hok : sippakGetopts b lib getopt argv sippakInit = .ok (.PJ_SUCCESS, app))
    (hhelp : app.cfg.cmd ≠ .CMD_HELP) (hversion : app.cfg.cmd ≠ .CMD_VERSION) :
    app.cfg.proxy.items =
      firstThen (routeStored lib) true ((getopt argv).1.filterMap Opt.proxyArg) := by
  obtain ⟨app₁, hloop, hline⟩ := getopts_line hok hhelp hversion
  have hproxy : app.cfg.proxy = app₁.cfg.proxy := by
    rw [hline, setupMwi_frame, parseArgvLeft_frame]
  rw [hproxy]
  exact optLoop_routes hloop

/-- **From the command line to the route set.** -/
theorem getopts_routes {getopt : GetoptLong} {argv : List CStr} {app : App}
    (hok : sippakGetopts b lib getopt argv sippakInit = .ok (.PJ_SUCCESS, app))
    (hhelp : app.cfg.cmd ≠ .CMD_HELP) (hversion : app.cfg.cmd ≠ .CMD_VERSION)
    (hkind : ∀ arg ∈ (getopt argv).1.filterMap Opt.proxyArg, SipOrNull lib (some (ltrim arg)))
    (hback : ∀ u ∈ sipUris lib ((getopt argv).1.filterMap Opt.proxyArg),
      ReadsBack lib parseHdr u ∧ ReadsBack lib parseHdr (withLr u)) :
    RouteSetRight lib ((getopt argv).1.filterMap Opt.proxyArg)
      (sippakSetProxiesList parseHdr app) :=
  routeSet_of_stored hkind hback (getopts_proxy hok hhelp hversion)

end Routes

/-- A Route header of a plain SIP URI, with or without lr. -/
def plainRoute (hname t : CStr) : Option RouteHdr :=
  if hname = ROUTE then
    match cutAt ';' t with
    | none => (UriLib.plainParse (some t)).map fun v => ⟨none, v, []⟩
    | some (uri, param) =>
      match UriLib.plainParse (some uri) with
      | some (.sip u) => if param = "lr".toList then some ⟨none, .sip (withLr u), []⟩ else none
      | _ => none
  else none

/-- The values of `-R foo -R sip:10.10.12.1 -R " sip:105.5.5.200" -R sips:205.199.50.200`. -/
def fourProxies : List CStr :=
  ["foo".toList, "sip:10.10.12.1".toList, " sip:105.5.5.200".toList, "sips:205.199.50.200".toList]

/-- The first value is no URI, so the second one gets the lr parameter. -/
theorem proxies_list_four :
    wantedRoutes UriLib.plain fourProxies =
        [⟨false, none, none, "10.10.12.1".toList, 0, none, true, []⟩,
          ⟨false, none, none, "105.5.5.200".toList, 0, none, false, []⟩,
          ⟨true, none, none, "205.199.50.200".toList, 0, none, false, []⟩] ∧
      (∃ app, optLoop Build.g711 UriLib.plain sippakInit (fourProxies.map Opt.proxy) =
        .ok (.next app)) ∧
      ∀ os app, os.filterMap Opt.proxyArg = fourProxies →
        optLoop Build.g711 UriLib.plain sippakInit os = .ok (.next app) →
        RouteSetRight UriLib.plain fourProxies (sippakSetProxiesList plainRoute app) :=
  ⟨by decide, proxies_list_right (by decide) (by decide) (by unfold ReadsBack; decide)⟩

end Sippak
