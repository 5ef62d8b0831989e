/-
  File:      Sippak/Mod/NotifyAgree.lean
  Subject:   EVENT AND CONTENT OF A NOTIFY WITHOUT `-E`, from the command line to the request that
             is sent (getopts.c, notify.c, and sip_helper.c for the `-H` headers).

  The event is inferred for two of the three content types that belong to one. Any other `-C`
  makes a header, and `on_tx_request` adds the `-H` headers whose name is not there: one of them
  may name a content type, or the event, too. A header is taken for what its name says, also in
  its compact form and with blanks in front of the colon.

  * `Agree` -- event and content of a request, over all headers it is sent with;
  * `plain_iff` -- when the header of a `-C` value is none of the three types;
  * `mem_sent_iff` -- which headers of a kind are sent;
  * `request_shape` -- what the builders make of such a line;
  * `content_agrees_iff` -- **when event and content agree** (`ContentAgrees`).
-/
import Sippak.Mod.AddHeaders
import Sippak.Mod.NotifyAsked

namespace Sippak

open AddAbsent CStr

/-! ## 1. Content types and events of a request -/

/-- The subtypes of `application` that belong to an event. -/
def contentEvents : List (CStr × CStr) :=
  [("pidf+xml".toList, "presence".toList), ("xpidf+xml".toList, "presence".toList),
    ("simple-message-summary".toList, "message-summary".toList)]

/-- A value without its parameters. -/
def paramless (v : CStr) : CStr := trim (v.takeWhile (· != ';'))

/-- The value is the media type `application/sub`, with any parameters. -/
def isType (v sub : CStr) : Bool :=
  match cutAt '/' v with
  | none => false
  | some p => eqIgnoreCase (trim p.1) "application".toList && eqIgnoreCase (paramless p.2) sub

/-- The header has this name, or the compact form of it. -/
def isNamed (name compact : CStr) (h : GenericHdr) : Bool :=
  eqIgnoreCase (trim h.name) name || eqIgnoreCase (trim h.name) compact

def isContentType : GenericHdr → Bool := isNamed "Content-Type".toList "c".toList

def isEvent : GenericHdr → Bool := isNamed "Event".toList "o".toList

/-- The request with the headers `on_tx_request` adds. -/
def NotifyMsg.sent (cfg : Cfg) (msg : NotifyMsg) : NotifyMsg :=
  ⟨addSipHeaders cfg msg.hdrs, msg.body⟩

/-- The request is sent with the content type `v`: that of its body, or that of a header. -/
def SentType (msg : NotifyMsg) (v : CStr) : Prop :=
  (∃ body, msg.body = some body ∧ v = mediaText ⟨body.type, body.subtype⟩) ∨
    ∃ h ∈ msg.hdrs, isContentType h = true ∧ v = h.hvalue

/-- Every Event header of the request names this event, and there is one. -/
def EventIs (msg : NotifyMsg) (event : CStr) : Prop :=
  (∃ h ∈ msg.hdrs, isEvent h = true) ∧
    ∀ h ∈ msg.hdrs, isEvent h = true → paramless h.hvalue = event

/-- **Event and content agree**: a content type that belongs to an event goes with that event and
    with a body of that type. -/
def Agree (msg : NotifyMsg) : Prop :=
  ∀ e ∈ contentEvents, ∀ v, SentType msg v → isType v e.1 = true →
    EventIs msg e.2 ∧
      ∃ body, msg.body = some body ∧ isType (mediaText ⟨body.type, body.subtype⟩) e.1 = true

/-- pjsip's constructors succeed, with a body of their type. -/
structure SimpleLib.Creates (lib : SimpleLib) : Prop where
  pidf : ∀ status entity, ∃ data,
    lib.presCreatePidf status entity =
      .ok ⟨some "application".toList, some "pidf+xml".toList, data⟩
  xpidf : ∀ status entity, ∃ data,
    lib.presCreateXpidf status entity =
      .ok ⟨some "application".toList, some "xpidf+xml".toList, data⟩

/-- `pjsip_media_type_print` prints `type/subtype` where it is shorter than the buffer. -/
def SimpleLib.PrintsTypes (lib : SimpleLib) : Prop :=
  ∀ media size, lib.mediaTypePrint media size =
    if (mediaText media).length < size then some (mediaText media) else none

theorem contentEvents_forall {P : CStr × CStr → Prop} :
    (∀ e ∈ contentEvents, P e) ↔
      P ("pidf+xml".toList, "presence".toList) ∧ P ("xpidf+xml".toList, "presence".toList) ∧
        P ("simple-message-summary".toList, "message-summary".toList) := by
  simp [contentEvents]

/-- Headers of the same name are of the same kind. -/
theorem isNamed_congr {name compact : CStr} {x y : GenericHdr} (h : sameName x y = true) :
    isNamed name compact x = isNamed name compact y := by
  have htrim := eqIgnoreCase_iff.mp (eqIgnoreCase_trim h)
  unfold isNamed eqIgnoreCase
  rw [htrim]

theorem not_sameName {name compact : CStr} {h x : GenericHdr} (hh : isNamed name compact h = true)
    (hx : isNamed name compact x = false) : sameName h x = false := by
  rw [Bool.eq_false_iff]
  intro hsame
  rw [isNamed_congr hsame, hx] at hh
  cases hh

/-- The kinds of the headers the program names itself. -/
theorem isContentType_contentType (v : CStr) :
    isContentType ⟨"Content-Type".toList, v⟩ = true := rfl
theorem isContentType_event (v : CStr) : isContentType ⟨"Event".toList, v⟩ = false := rfl
theorem isContentType_userAgent (v : CStr) : isContentType ⟨USER_AGENT, v⟩ = false := rfl
theorem isEvent_contentType (v : CStr) : isEvent ⟨"Content-Type".toList, v⟩ = false := rfl
theorem isEvent_event (v : CStr) : isEvent ⟨"Event".toList, v⟩ = true := rfl
theorem isEvent_userAgent (v : CStr) : isEvent ⟨USER_AGENT, v⟩ = false := rfl

/-! ## 2. The header of a `-C` value -/

/-- The value `v` stands for none of the three types: it does not start as the alias of the
    message-summary does, it is none of their names, and its first two pieces are none of them. -/
structure PlainType (v : CStr) : Prop where
  noMwi : startsIgnoreCase v "mwi".toList = false
  noSubtype : '/' ∉ v → ∀ e ∈ contentEvents, eqIgnoreCase (paramless v) e.1 = false
  noParts : ∀ t s more, fields (· == '/') v = t :: s :: more →
    eqIgnoreCase (trim t) "application".toList = true →
    ∀ e ∈ contentEvents, eqIgnoreCase (paramless s) e.1 = false

theorem isType_slash {t : CStr} (ht : '/' ∉ t) (s sub : CStr) :
    isType (t ++ '/' :: s) sub =
      (eqIgnoreCase (trim t) "application".toList && eqIgnoreCase (paramless s) sub) := by
  unfold isType
  rw [cutAt_append ht]

/-- The type of a printed media type without a slash in front. -/
theorem isType_mediaText {t : CStr} (ht : '/' ∉ t) (s sub : CStr) :
    isType (mediaText ⟨some t, some s⟩) sub =
      (eqIgnoreCase (trim t) "application".toList && eqIgnoreCase (paramless s) sub) := by
  by_cases hnil : t = []
  · -- nothing is printed
    rw [hnil]
    rfl
  · have htext : mediaText ⟨some t, some s⟩ = t ++ '/' :: s := if_neg hnil
    rw [htext, isType_slash ht]

/-- A run of slashes has no type. -/
theorem isType_slashes {v : CStr} (hall : ∀ c ∈ v, c = '/') (s sub : CStr) :
    isType (mediaText ⟨some v, some s⟩) sub = false := by
  cases v with
  | nil => rfl
  | cons c v =>
      have hc : c = '/' := hall c List.mem_cons_self
      subst hc
      exact (isType_slash (List.not_mem_nil) (v ++ '/' :: s) sub).trans rfl

/-- Slashes are no name. -/
theorem paramless_slashes {s sub : CStr} (hall : ∀ c ∈ s, c = '/')
    (hsub : '/' ∉ sub.map Char.toLower) (hempty : eqIgnoreCase [] sub = false) :
    eqIgnoreCase (paramless s) sub = false := by
  have hsame : paramless s = s := by
    unfold paramless
    rw [List.takeWhile_eq_self_iff.mpr fun c hc => by rw [hall c hc]; decide]
    exact trim_eq_self fun c hc => by rw [hall c hc]; decide
  rw [hsame]
  cases s with
  | nil => exact hempty
  | cons c s =>
      refine not_eqIgnoreCase_of_slash ?_ hsub
      rw [hall c List.mem_cons_self]
      exact List.mem_cons_self

/-- The media type of a value that starts with no alias, compared with one of the three. -/
theorem plain_media_iff {v : CStr} {e : CStr × CStr} (he : e ∈ contentEvents) {media : MediaType}
    (hplain : '/' ∉ v → media = ⟨some "application".toList, some v⟩)
    (hslash : '/' ∈ v →
      media = ⟨some (slashTokens restLeft v).1, some (slashTokens restLeft v).2⟩) :
    isType (mediaText media) e.1 = true ↔
      ('/' ∉ v ∧ eqIgnoreCase (paramless v) e.1 = true) ∨
        ∃ t s more, fields (· == '/') v = t :: s :: more ∧
          eqIgnoreCase (trim t) "application".toList = true ∧
          eqIgnoreCase (paramless s) e.1 = true := by
  have hnames : ∀ e ∈ contentEvents, '/' ∉ e.1.map Char.toLower ∧ eqIgnoreCase [] e.1 = false := by
    decide
  obtain ⟨hsub, hempty⟩ := hnames e he
  by_cases hv : '/' ∈ v
  · rw [hslash hv, or_iff_right fun h => h.1 hv]
    have htokens := slashTokens_eq restLeft v
    have hfield : ∀ t ∈ fields (· == '/') v, '/' ∉ t := fun t ht =>
      not_mem_iff_beq.mpr (not_delim_of_mem_fields ht)
    match hf : fields (· == '/') v with
    | [] =>
        -- both tokens are what is left of a run of slashes
        rw [hf] at htokens
        have hall : ∀ c ∈ v, c = '/' := fun c hc =>
          beq_iff_eq.mp (fields_eq_nil_iff.mp hf c hc)
        have hleft : restLeft v 0 = v := rfl
        rw [htokens, hleft, isType_slashes hall]
        simp
    | [t] =>
        rw [hf] at htokens hfield
        rw [htokens]
        obtain ⟨behind, hleft, -, -, hall⟩ := restLeft_singleton hf
        dsimp only
        rw [hleft, isType_mediaText (hfield t List.mem_cons_self),
          paramless_slashes hall hsub hempty]
        simp
    | t :: s :: more =>
        rw [hf] at htokens hfield
        rw [htokens, isType_mediaText (hfield t List.mem_cons_self)]
        simp
  · have hone : ∀ t s more, fields (· == '/') v ≠ t :: s :: more := by
      intro t s more hf
      by_cases hnil : v = []
      · rw [hnil, fields_nil] at hf
        cases hf
      · rw [fields_of_run hnil (not_mem_iff_beq.mp hv)] at hf
        cases hf
    rw [hplain hv, isType_mediaText (by decide)]
    constructor
    · intro h
      rw [Bool.and_eq_true] at h
      exact Or.inl ⟨hv, h.2⟩
    · rintro (⟨-, h⟩ | ⟨t, s, more, hf, -⟩)
      · rw [h]
        decide
      · exact absurd hf (hone t s more)

/-- **The header of a value that starts with no presence alias is none of the three types** exactly
    where the value is plain. -/
theorem plain_iff {t : CStr} (hpidf : startsIgnoreCase (trim t) "pidf".toList = false)
    (hxpidf : startsIgnoreCase (trim t) "xpidf".toList = false) :
    (∀ e ∈ contentEvents,
        isType (mediaText (setContentType t sippakInit).cfg.ctypeMedia) e.1 = false) ↔
      PlainType (trim t) := by
  cases hmwi : startsIgnoreCase (trim t) "mwi".toList with
  | true =>
      -- the alias of the message-summary
      have hmem := (mediaAliases_forall.mp fun e he => he).2.2
      have hsummary : (setContentType t sippakInit).cfg.ctypeMedia =
          ⟨some "application".toList, some "simple-message-summary".toList⟩ :=
        media_of_alias restLeft sippakInit hmem hmwi
      refine iff_of_false (fun h => ?_) fun h => ?_
      · have hno := h _ (contentEvents_forall.mp fun e he => he).2.2
        rw [hsummary] at hno
        exact absurd hno (by decide)
      · rw [h.noMwi] at hmwi
        cases hmwi
  | false =>
      have hno : ∀ e ∈ mediaAliases, startsIgnoreCase (trim t) e.1 = false :=
        mediaAliases_forall.mpr ⟨hpidf, hxpidf, hmwi⟩
      have hiff : ∀ e ∈ contentEvents,
          isType (mediaText (setContentType t sippakInit).cfg.ctypeMedia) e.1 = true ↔ _ :=
        fun e he => plain_media_iff he (media_of_plain restLeft sippakInit hno)
          fun hslash => (media_of_slash restLeft sippakInit hno hslash).1
      constructor
      · intro h
        refine ⟨hmwi, fun hslash e he => ?_, fun t' s more hf happ e he => ?_⟩
        · rw [Bool.eq_false_iff]
          intro heq
          have htype := (hiff e he).mpr (Or.inl ⟨hslash, heq⟩)
          rw [h e he] at htype
          cases htype
        · rw [Bool.eq_false_iff]
          intro heq
          have htype := (hiff e he).mpr (Or.inr ⟨t', s, more, hf, happ, heq⟩)
          rw [h e he] at htype
          cases htype
      · intro hplain e he
        rw [Bool.eq_false_iff]
        intro htype
        rcases (hiff e he).mp htype with ⟨hslash, heq⟩ | ⟨t', s, more, hf, happ, heq⟩
        · rw [hplain.noSubtype hslash e he] at heq
          cases heq
        · rw [hplain.noParts t' s more hf happ e he] at heq
          cases heq

/-! ## 3. Which headers are sent -/

/-- The `-H` headers of a line. -/
def givenHeaders (os : List Opt) : List GenericHdr :=
  (os.filterMap Opt.headerArg).filterMap headerGiven

/-- A `-H` header, the first of its name. -/
def FirstGiven (os : List Opt) (h : GenericHdr) : Prop :=
  ∃ pre post, givenHeaders os = pre ++ h :: post ∧ pre.any (sameName h) = false

/-- The custom headers of the configuration are those of the line. -/
theorem Configured.givenHeaders {b : Build} {lib : UriLib} {os : List Opt} {left : List CStr}
    {cfg : Cfg} (hconf : Configured b lib os left cfg) : cfg.hdrs.items = givenHeaders os := by
  have hread := congrArg (List.filterMap id) hconf.hdrs
  rw [Cfg.headers, List.filterMap_map, List.filterMap_map] at hread
  exact (List.filterMap_some).symm.trans hread

/-- Having the name of another header is handed on. -/
theorem sameName_trans (x y z : GenericHdr) (hxy : sameName x y = true)
    (hyz : sameName y z = true) : sameName x z = true := by
  unfold sameName at hxy hyz ⊢
  rw [eqIgnoreCase_iff] at hxy hyz ⊢
  exact hyz.trans hxy

/-- **Which headers of a kind are sent**: the module's own (`own`), and of the `-H` headers the
    first of each name that none of the module's has. -/
theorem mem_sent_iff {name compact : CStr} {cfg : Cfg} {os : List Opt}
    (hitems : cfg.hdrs.items = givenHeaders os) {orig own : List GenericHdr}
    (horig : ∀ h ∈ orig, isNamed name compact h = false)
    (hua : ∀ value, isNamed name compact ⟨USER_AGENT, value⟩ = false) {h : GenericHdr}
    (hh : isNamed name compact h = true) :
    h ∈ addSipHeaders cfg (orig ++ own) ↔
      h ∈ own ∨ FirstGiven os h ∧ own.any (sameName h) = false := by
  -- neither the request's first headers nor the User-Agent are of this kind
  obtain ⟨ua, hagent, huas⟩ : ∃ ua : List GenericHdr,
      withUserAgent cfg.userAgent (orig ++ own) = orig ++ (own ++ ua) ∧
        ∀ x ∈ ua, isNamed name compact x = false := by
    unfold withUserAgent addAbsent
    split
    · split
      · exact ⟨[], by rw [List.append_nil], fun x hx => absurd hx List.not_mem_nil⟩
      · refine ⟨[_], List.append_assoc _ _ _, fun x hx => ?_⟩
        rw [List.mem_singleton.mp hx]
        exact hua _
    · exact ⟨[], by rw [List.append_nil], fun x hx => absurd hx List.not_mem_nil⟩
  have hmem : ∀ xs : List GenericHdr, (∀ x ∈ xs, isNamed name compact x = false) → h ∉ xs := by
    intro xs hxs hx
    rw [hxs h hx] at hh
    cases hh
  have hany : ∀ xs : List GenericHdr, (∀ x ∈ xs, isNamed name compact x = false) →
      xs.any (sameName h) = false := by
    intro xs hxs
    rw [List.any_eq_false]
    intro x hx
    rw [not_sameName hh (hxs x hx)]
    exact Bool.false_ne_true
  rw [addSipHeaders_eq_addAll, hagent, hitems, mem_addAll_iff sameName_trans]
  have hin : h ∈ orig ++ (own ++ ua) ↔ h ∈ own := by
    rw [List.mem_append, List.mem_append, or_iff_right (hmem _ horig), or_iff_left (hmem _ huas)]
  have hfront : ∀ pre : List GenericHdr, (orig ++ (own ++ ua) ++ pre).any (sameName h) = false ↔
      pre.any (sameName h) = false ∧ own.any (sameName h) = false := by
    intro pre
    rw [List.any_append, List.any_append, List.any_append, hany _ horig, hany _ huas,
      Bool.false_or, Bool.or_false, Bool.or_eq_false_iff, and_comm]
  rw [hin]
  refine or_congr_right ⟨?_, ?_⟩
  · rintro ⟨pre, post, hgiven, hnone⟩
    exact ⟨⟨pre, post, hgiven, ((hfront pre).mp hnone).1⟩, ((hfront pre).mp hnone).2⟩
  · rintro ⟨⟨pre, post, hgiven, hfirst⟩, hown⟩
    exact ⟨pre, post, hgiven, (hfront pre).mpr ⟨hfirst, hown⟩⟩

/-! ## 4. The request of a line without `-E` -/

/-- The content type a line asks for a body of, with its event: `-M`, or a presence alias. -/
def bodyType (os : List Opt) : Option (CStr × CStr) :=
  if (lastArg Opt.mwiArg os).isSome then
    some ("simple-message-summary".toList, "message-summary".toList)
  else
    match (lineCtype os).2 with
    | .CTYPE_PIDF => some ("pidf+xml".toList, "presence".toList)
    | .CTYPE_XPIDF => some ("xpidf+xml".toList, "presence".toList)
    | .CTYPE_UNKNOWN | .CTYPE_MWI | .CTYPE_OTHER => none

/-- The Content-Type header of a line: the media type of its `-C`, where there is no body and the
    text is shorter than 512 bytes. -/
def typeHeader (os : List Opt) : Option CStr :=
  if bodyType os = none ∧ (lastArg Opt.contentTypeArg os).isSome ∧
      (mediaText (lineCtype os).1).length < 512 then some (mediaText (lineCtype os).1)
  else none

section Line

variable {b : Build} {lib : UriLib} {os : List Opt} {left : List CStr} {app app' : App}
  {slib : SimpleLib} {orig : List GenericHdr} {sent : NotifyMsg}

/-- The class of a value. -/
theorem setContentType_class (t : CStr) (app : App) :
    (setContentType t app).cfg.ctypeE =
      if startsIgnoreCase (trim t) "pidf".toList then .CTYPE_PIDF
      else if startsIgnoreCase (trim t) "xpidf".toList then .CTYPE_XPIDF
      else if startsIgnoreCase (trim t) "mwi".toList then .CTYPE_MWI
      else .CTYPE_OTHER := by
  unfold setContentType setContentTypeLeft
  dsimp only
  split
  · rfl
  · split
    · rfl
    · split
      · rfl
      · split <;> rfl

/-- A line without `-C` has no class of content types. -/
theorem lineCtype_unknown_iff (os : List Opt) :
    (lineCtype os).2 = .CTYPE_UNKNOWN ↔ lastArg Opt.contentTypeArg os = none := by
  unfold lineCtype
  cases lastArg Opt.contentTypeArg os with
  | none => exact iff_of_true rfl rfl
  | some t =>
      refine iff_of_false (fun h => ?_) (Option.some_ne_none t)
      have hclass : (setContentType t sippakInit).cfg.ctypeE = .CTYPE_UNKNOWN := h
      rw [setContentType_class] at hclass
      split at hclass
      · cases hclass
      · split at hclass
        · cases hclass
        · split at hclass <;> cases hclass

/-- The headers behind those the request was created with, and the body. -/
structure Shape (os : List Opt) (own : List GenericHdr) (body : Option MsgBody) : Prop where
  withBody : ∀ e, bodyType os = some e → own = [⟨"Event".toList, e.2⟩] ∧
    ∃ data, body = some ⟨some "application".toList, some e.1, data⟩
  without : bodyType os = none → body = none ∧
    own = ⟨"Event".toList, "keep-alive".toList⟩ ::
      ((typeHeader os).map fun v => ⟨"Content-Type".toList, v⟩).toList

/-- **What the builders make of a line without `-E`.** -/
theorem request_shape (hline : CommandLine b lib os left .notify app)
    (hno : lastArg Opt.eventArg os = none) (hprints : slib.PrintsTypes) (hcreates : slib.Creates)
    (hsent : Notify.fillIn slib ⟨orig, none⟩ app = .ok (sent, app')) :
    app'.cfg.hdrs.items = givenHeaders os ∧
      ∃ own, sent.hdrs = orig ++ own ∧ Shape os own sent.body := by
  have hconf := configured_of_line hline
  cases hm : lastArg Opt.mwiArg os with
  | some m =>
      obtain ⟨his, hev, hmedia, -⟩ := hconf.summary hm
      have hkind : bodyType os =
          some ("simple-message-summary".toList, "message-summary".toList) := by
        unfold bodyType
        rw [hm]
        rfl
      rw [fillIn_mwi slib _ his hev hmedia] at hsent
      split at hsent
      · cases hsent
      · cases hsent
        refine ⟨hconf.givenHeaders, _, rfl, fun e he => ?_, fun he => ?_⟩
        · rw [hkind] at he
          cases he
          exact ⟨rfl, _, rfl⟩
        · rw [hkind] at he
          cases he
  | none =>
      obtain ⟨his, hevent, hstatus, hctype⟩ := hconf.plain hm
      have hmedia : app.cfg.ctypeMedia = (lineCtype os).1 := congrArg Prod.fst hctype
      have hclass : app.cfg.ctypeE = (lineCtype os).2 := congrArg Prod.snd hctype
      obtain ⟨app₁, hfill, hcfg⟩ := fillIn_plain slib orig his
      rw [hsent] at hfill
      cases hfill
      refine ⟨by rw [hcfg]; exact hconf.givenHeaders, _, rfl, ?_⟩
      have hvalue : notifyEvent os =
          if (lineCtype os).2.isPresence then "presence".toList else "keep-alive".toList := by
        unfold notifyEvent
        rw [hm, hno]
        rfl
      have hkind : bodyType os = _ := if_neg (by rw [hm]; exact Bool.noConfusion)
      rw [hmedia, hclass, hevent, hvalue]
      cases hc : (lineCtype os).2 with
      | CTYPE_PIDF =>
          rw [hc] at hkind
          obtain ⟨data, hdata⟩ := hcreates.pidf (Notify.presStatus app.cfg)
            (Notify.presStatus app.cfg).id
          refine ⟨fun e he => ?_, fun he => ?_⟩
          · rw [hkind] at he
            cases he
            refine ⟨rfl, data, ?_⟩
            simp only [Notify.contentOf, hdata]
            rfl
          · rw [hkind] at he
            cases he
      | CTYPE_XPIDF =>
          rw [hc] at hkind
          obtain ⟨data, hdata⟩ := hcreates.xpidf (Notify.presStatus app.cfg)
            (Notify.presStatus app.cfg).id
          refine ⟨fun e he => ?_, fun he => ?_⟩
          · rw [hkind] at he
            cases he
            refine ⟨rfl, data, ?_⟩
            simp only [Notify.contentOf, hdata]
            rfl
          · rw [hkind] at he
            cases he
      | CTYPE_UNKNOWN =>
          rw [hc] at hkind
          have hnone := (lineCtype_unknown_iff os).mp hc
          refine ⟨fun e he => ?_, fun _ => ⟨rfl, ?_⟩⟩
          · rw [hkind] at he
            cases he
          · have hheader : typeHeader os = none := by
              unfold typeHeader
              rw [hnone]
              exact if_neg fun h => Bool.noConfusion h.2.1
            rw [hheader]
            rfl
      | CTYPE_MWI | CTYPE_OTHER =>
          rw [hc] at hkind
          have hsome : (lastArg Opt.contentTypeArg os).isSome = true := by
            rw [Option.isSome_iff_ne_none]
            intro hnone
            rw [(lineCtype_unknown_iff os).mpr hnone] at hc
            cases hc
          refine ⟨fun e he => ?_, fun _ => ⟨rfl, ?_⟩⟩
          · rw [hkind] at he
            cases he
          · simp only [Notify.contentOf, hprints _ _, typeHeader, hkind, hsome, true_and]
            rfl

/-! ## 5. When they agree -/

/-- **The condition.** A Content-Type header of `-C` stands for none of the three types. Of the
    `-H` headers that are sent, one that is a Content-Type names none of them but the type of the
    body; and with a body, one that is an Event names the event of it. -/
structure ContentAgrees (os : List Opt) : Prop where
  typed : ∀ t, lastArg Opt.contentTypeArg os = some t → typeHeader os ≠ none →
    PlainType (trim t)
  header : ∀ h, FirstGiven os h → isContentType h = true →
    (typeHeader os ≠ none → eqIgnoreCase h.name "Content-Type".toList = false) →
    ∀ e ∈ contentEvents, isType h.hvalue e.1 = true → bodyType os = some e
  event : ∀ e, bodyType os = some e → ∀ h, FirstGiven os h → isEvent h = true →
    eqIgnoreCase h.name "Event".toList = false → paramless h.hvalue = e.2

theorem bodyType_mem {e : CStr × CStr} (h : bodyType os = some e) : e ∈ contentEvents := by
  unfold bodyType at h
  split at h
  · cases h
    decide
  · split at h
    · cases h
      decide
    · cases h
      decide
    · cases h
    · cases h
    · cases h

theorem typeHeader_of_body {e : CStr × CStr} (h : bodyType os = some e) :
    typeHeader os = none := by
  unfold typeHeader
  rw [h]
  exact if_neg fun hall => Option.some_ne_none _ hall.1

/-- The header of `-C`, by its value. -/
theorem typed_iff (os : List Opt) :
    (∀ t, lastArg Opt.contentTypeArg os = some t → typeHeader os ≠ none → PlainType (trim t)) ↔
      ∀ v, typeHeader os = some v → ∀ e ∈ contentEvents, isType v e.1 = false := by
  cases hheader : typeHeader os with
  | none => simp
  | some v =>
      unfold typeHeader at hheader
      split at hheader
      · rename_i hall
        obtain ⟨hbody, hsome, -⟩ := hall
        cases hheader
        obtain ⟨t, ht⟩ := Option.isSome_iff_exists.mp hsome
        have hctype : lineCtype os = (setContentType t sippakInit).cfg.ctypePart := by
          unfold lineCtype
          rw [ht]
          rfl
        have hclass : (lineCtype os).2 = (setContentType t sippakInit).cfg.ctypeE :=
          congrArg Prod.snd hctype
        rw [setContentType_class] at hclass
        -- without a body the value starts with no presence alias
        have hno : startsIgnoreCase (trim t) "pidf".toList = false ∧
            startsIgnoreCase (trim t) "xpidf".toList = false := by
          unfold bodyType at hbody
          split at hbody
          · cases hbody
          · rw [hclass] at hbody
            constructor
            · rw [Bool.eq_false_iff]
              intro hpidf
              rw [if_pos hpidf] at hbody
              cases hbody
            · rw [Bool.eq_false_iff]
              intro hxpidf
              by_cases hpidf : startsIgnoreCase (trim t) "pidf".toList = true
              · rw [if_pos hpidf] at hbody
                cases hbody
              · rw [if_neg hpidf, if_pos hxpidf] at hbody
                cases hbody
        have hplain := plain_iff hno.1 hno.2
        have hmedia : (lineCtype os).1 = (setContentType t sippakInit).cfg.ctypeMedia :=
          congrArg Prod.fst hctype
        rw [ht, hmedia]
        constructor
        · intro h v hv
          cases hv
          exact hplain.mpr (h t rfl (Option.some_ne_none _))
        · intro h t' ht' _
          cases ht'
          exact hplain.mp (h _ rfl)
      · cases hheader

/-- A request with a body agrees where its Event headers name the event of the body, and its
    Content-Type headers no other of the three types. -/
theorem agree_body_iff {msg : NotifyMsg} {e : CStr × CStr} (he : e ∈ contentEvents) {data : CStr}
    (hbody : msg.body = some ⟨some "application".toList, some e.1, data⟩)
    (hevent : ∃ h ∈ msg.hdrs, isEvent h = true) :
    Agree msg ↔
      (∀ h ∈ msg.hdrs, isEvent h = true → paramless h.hvalue = e.2) ∧
        ∀ h ∈ msg.hdrs, isContentType h = true →
          ∀ e' ∈ contentEvents, isType h.hvalue e'.1 = true → e' = e := by
  have htypes : ∀ e ∈ contentEvents, ∀ e' ∈ contentEvents,
      isType (mediaText ⟨some "application".toList, some e.1⟩) e'.1 = true ↔ e' = e := by decide
  constructor
  · intro hagree
    have hown : SentType msg (mediaText ⟨some "application".toList, some e.1⟩) :=
      Or.inl ⟨_, hbody, rfl⟩
    refine ⟨(hagree e he _ hown ((htypes e he e he).mpr rfl)).1.2, fun h hh hct e' he' htype => ?_⟩
    obtain ⟨-, body, hsome, hof⟩ := hagree e' he' h.hvalue (Or.inr ⟨h, hh, hct, rfl⟩) htype
    rw [hbody] at hsome
    cases hsome
    exact (htypes e he e' he').mp hof
  · rintro ⟨hevents, hheaders⟩ e' he' v hv htype
    have hsame : e' = e := by
      rcases hv with ⟨body, hsome, rfl⟩ | ⟨h, hh, hct, rfl⟩
      · rw [hbody] at hsome
        cases hsome
        exact (htypes e he e' he').mp htype
      · exact hheaders h hh hct e' he' htype
    subst hsame
    exact ⟨⟨hevent, hevents⟩, _, hbody, (htypes e' he e' he).mpr rfl⟩

/-- A request without a body agrees where no Content-Type header names one of the three types. -/
theorem agree_noBody_iff {msg : NotifyMsg} (hbody : msg.body = none) :
    Agree msg ↔ ∀ h ∈ msg.hdrs, isContentType h = true →
      ∀ e ∈ contentEvents, isType h.hvalue e.1 = false := by
  constructor
  · intro hagree h hh hct e he
    rw [Bool.eq_false_iff]
    intro htype
    obtain ⟨-, body, hsome, -⟩ := hagree e he h.hvalue (Or.inr ⟨h, hh, hct, rfl⟩) htype
    rw [hbody] at hsome
    cases hsome
  · rintro hno e he v (⟨body, hsome, -⟩ | ⟨h, hh, hct, rfl⟩) htype
    · rw [hbody] at hsome
      cases hsome
    · rw [hno h hh hct e he] at htype
      cases htype

/-- The Content-Type and the Event headers of the request that is sent. -/
theorem sent_headers {own : List GenericHdr} {body : Option MsgBody} (hshape : Shape os own body)
    {cfg : Cfg} (hitems : cfg.hdrs.items = givenHeaders os)
    (horig : ∀ h ∈ orig, isContentType h = false ∧ isEvent h = false) :
    (∀ h, isContentType h = true → (h ∈ addSipHeaders cfg (orig ++ own) ↔
      (∃ v, typeHeader os = some v ∧ h = ⟨"Content-Type".toList, v⟩) ∨
        FirstGiven os h ∧
          (typeHeader os ≠ none → eqIgnoreCase h.name "Content-Type".toList = false))) ∧
    ∃ v, (∀ e, bodyType os = some e → v = e.2) ∧
      ∀ h, isEvent h = true → (h ∈ addSipHeaders cfg (orig ++ own) ↔
        h = ⟨"Event".toList, v⟩ ∨
          FirstGiven os h ∧ eqIgnoreCase h.name "Event".toList = false) := by
  obtain ⟨v, hv, hown⟩ : ∃ v, (∀ e, bodyType os = some e → v = e.2) ∧
      own = ⟨"Event".toList, v⟩ ::
        ((typeHeader os).map fun v => ⟨"Content-Type".toList, v⟩).toList := by
    cases hkind : bodyType os with
    | some e =>
        refine ⟨e.2, fun e' he => by cases he; rfl, ?_⟩
        rw [(hshape.withBody e hkind).1, typeHeader_of_body hkind]
        rfl
    | none => exact ⟨_, fun e he => (by cases he), (hshape.without hkind).2⟩
  subst hown
  refine ⟨fun h hh => ?_, v, hv, fun h hh => ?_⟩
  · rw [mem_sent_iff hitems (fun x hx => (horig x hx).1) isContentType_userAgent hh,
      List.any_cons, not_sameName hh (isContentType_event v), Bool.false_or, List.mem_cons]
    have hne : h ≠ ⟨"Event".toList, v⟩ := by
      rintro rfl
      rw [isContentType_event] at hh
      cases hh
    rw [or_iff_right hne]
    cases typeHeader os with
    | none => simp
    | some ct => simp [sameName, eqIgnoreCase_comm]
  · rw [mem_sent_iff hitems (fun x hx => (horig x hx).2) isEvent_userAgent hh, List.any_cons,
      List.mem_cons]
    have hct : ((typeHeader os).map fun v => GenericHdr.mk "Content-Type".toList v).toList.any
        (sameName h) = false := by
      cases typeHeader os with
      | none => rfl
      | some ct =>
          show (sameName h ⟨"Content-Type".toList, ct⟩ || false) = false
          rw [not_sameName hh (isEvent_contentType ct)]
          rfl
    have hno : h ∉ ((typeHeader os).map fun v => GenericHdr.mk "Content-Type".toList v).toList := by
      cases typeHeader os with
      | none => simp
      | some ct =>
          intro hmem
          rw [List.mem_singleton.mp hmem, isEvent_contentType] at hh
          cases hh
    rw [or_iff_left hno, hct, Bool.or_false]
    simp only [sameName, eqIgnoreCase_comm]

/-- **Event and content of a NOTIFY without `-E` agree** exactly where `ContentAgrees` says, in
    every request that is sent: over the headers pjsip created it with (`orig`), those of the
    module and those of the command line. -/
theorem content_agrees_iff (hline : CommandLine b lib os left .notify app)
    (hno : lastArg Opt.eventArg os = none) (hprints : slib.PrintsTypes) (hcreates : slib.Creates)
    (horig : ∀ h ∈ orig, isContentType h = false ∧ isEvent h = false)
    (hsent : Notify.fillIn slib ⟨orig, none⟩ app = .ok (sent, app')) :
    Agree (sent.sent app'.cfg) ↔ ContentAgrees os := by
  obtain ⟨hitems, own, hhdrs, hshape⟩ := request_shape hline hno hprints hcreates hsent
  obtain ⟨hct, v, hv, hev⟩ := sent_headers hshape hitems horig
  have hmsg : (sent.sent app'.cfg).hdrs = addSipHeaders app'.cfg (orig ++ own) := by
    rw [← hhdrs]
    rfl
  cases hkind : bodyType os with
  | some e =>
      obtain ⟨-, data, hbody⟩ := hshape.withBody e hkind
      have hnone := typeHeader_of_body hkind
      have hve := hv e hkind
      subst hve
      have hplainless : paramless e.2 = e.2 := by
        have hall : ∀ e ∈ contentEvents, paramless e.2 = e.2 := by decide
        exact hall e (bodyType_mem hkind)
      have hevent : ∃ h ∈ (sent.sent app'.cfg).hdrs, isEvent h = true := by
        refine ⟨⟨"Event".toList, e.2⟩, ?_, isEvent_event _⟩
        rw [hmsg]
        exact (hev _ (isEvent_event _)).mpr (Or.inl rfl)
      have hsame : (sent.sent app'.cfg).body = _ := hbody
      rw [agree_body_iff (bodyType_mem hkind) hsame hevent, hmsg]
      constructor
      · rintro ⟨hevents, htypes⟩
        refine ⟨fun t ht hne => absurd hnone hne, fun h hfirst hh _ e' he' htype => ?_,
          fun e' he' h hfirst hh hname => ?_⟩
        · have hmem := (hct h hh).mpr (Or.inr ⟨hfirst, fun hne => absurd hnone hne⟩)
          rw [htypes h hmem hh e' he' htype]
          exact hkind
        · rw [hkind] at he'
          cases he'
          exact hevents h ((hev h hh).mpr (Or.inr ⟨hfirst, hname⟩)) hh
      · intro hagrees
        refine ⟨fun h hmem hh => ?_, fun h hmem hh e' he' htype => ?_⟩
        · rcases (hev h hh).mp hmem with rfl | ⟨hfirst, hname⟩
          · exact hplainless
          · exact hagrees.event e hkind h hfirst hh hname
        · rcases (hct h hh).mp hmem with ⟨ct, hsome, -⟩ | ⟨hfirst, hname⟩
          · rw [hnone] at hsome
            cases hsome
          · have hsame := hagrees.header h hfirst hh hname e' he' htype
            rw [hkind] at hsame
            cases hsame
            rfl
  | none =>
      obtain ⟨hbody, -⟩ := hshape.without hkind
      have hsame : (sent.sent app'.cfg).body = none := hbody
      rw [agree_noBody_iff hsame, hmsg]
      constructor
      · intro hno
        refine ⟨(typed_iff os).mpr fun ct hsome e he => ?_, fun h hfirst hh hname e he htype => ?_,
          fun e he => ?_⟩
        · have hmem := (hct _ (isContentType_contentType ct)).mpr (Or.inl ⟨ct, hsome, rfl⟩)
          exact hno _ hmem (isContentType_contentType ct) e he
        · rw [hno h ((hct h hh).mpr (Or.inr ⟨hfirst, hname⟩)) hh e he] at htype
          cases htype
        · rw [hkind] at he
          cases he
      · intro hagrees h hmem hh e he
        rcases (hct h hh).mp hmem with ⟨ct, hsome, rfl⟩ | ⟨hfirst, hname⟩
        · exact (typed_iff os).mp hagrees.typed ct hsome e he
        · rw [Bool.eq_false_iff]
          intro htype
          have hsame := hagrees.header h hfirst hh hname e he htype
          rw [hkind] at hsame
          cases hsame

end Line

/-- pjsip's functions where they succeed. -/
def pjsipSimple : SimpleLib where
  mediaTypePrint := fun media size =>
    if (mediaText media).length < size then some (mediaText media) else none
  presCreatePidf := fun _ _ => .ok ⟨some "application".toList, some "pidf+xml".toList, []⟩
  presCreateXpidf := fun _ _ => .ok ⟨some "application".toList, some "xpidf+xml".toList, []⟩

theorem pjsipSimple_prints : pjsipSimple.PrintsTypes := fun _ _ => rfl

theorem pjsipSimple_creates : pjsipSimple.Creates where
  pidf := fun _ _ => ⟨[], rfl⟩
  xpidf := fun _ _ => ⟨[], rfl⟩

/-- `sippak -C pidf -H "c: application/pidf+xml" notify sip:alice@host`: the body is a presence
    document, the event is `presence`, and the second Content-Type is that of the body. -/
theorem content_agrees_pidf : ∃ app sent app',
    CommandLine Build.g711 UriLib.plain
        [.contentType "pidf".toList, .header "c: application/pidf+xml".toList]
        ["notify".toList, "sip:alice@host".toList] .notify app ∧
      Notify.fillIn pjsipSimple ⟨[⟨"Via".toList, "SIP/2.0/UDP 10.0.0.1".toList⟩], none⟩ app =
        .ok (sent, app') ∧
      (sent.sent app'.cfg).hdrs.length = 3 ∧ Agree (sent.sent app'.cfg) := by
  obtain ⟨app, sent, app', hline, hsent, hlen⟩ : ∃ app sent app',
      CommandLine Build.g711 UriLib.plain
          [.contentType "pidf".toList, .header "c: application/pidf+xml".toList]
          ["notify".toList, "sip:alice@host".toList] .notify app ∧
        Notify.fillIn pjsipSimple ⟨[⟨"Via".toList, "SIP/2.0/UDP 10.0.0.1".toList⟩], none⟩ app =
          .ok (sent, app') ∧ (sent.sent app'.cfg).hdrs.length = 3 :=
    ⟨_, _, _, ⟨fun _ => (_, _), ["sippak".toList, "-C".toList, "pidf".toList, "-H".toList,
      "c: application/pidf+xml".toList, "notify".toList, "sip:alice@host".toList], rfl, rfl, rfl,
      rfl⟩, rfl, rfl⟩
  refine ⟨app, sent, app', hline, hsent, hlen, ?_⟩
  refine (content_agrees_iff hline rfl pjsipSimple_prints pjsipSimple_creates (fun h hh => ?_)
    hsent).mpr ?_
  · rw [List.mem_singleton.mp hh]
    decide
  · have hone : ∀ h, FirstGiven [.contentType "pidf".toList,
        .header "c: application/pidf+xml".toList] h →
        h = ⟨"c".toList, "application/pidf+xml".toList⟩ := by
      rintro h ⟨pre, post, hgiven, -⟩
      have hlist : [GenericHdr.mk "c".toList "application/pidf+xml".toList] = pre ++ h :: post :=
        hgiven
      have hmem : h ∈ pre ++ h :: post := List.mem_append_right pre List.mem_cons_self
      rw [← hlist] at hmem
      exact List.mem_singleton.mp hmem
    refine ⟨fun t ht hne => absurd rfl hne, fun h hfirst _ _ e he htype => ?_,
      fun e he h hfirst hev _ => ?_⟩
    · rw [hone h hfirst] at htype
      have hall : ∀ e ∈ contentEvents, isType "application/pidf+xml".toList e.1 = true →
          bodyType [.contentType "pidf".toList, .header "c: application/pidf+xml".toList] =
            some e := by decide
      exact hall e he htype
    · rw [hone h hfirst] at hev
      exact absurd hev (by decide)

/-- A Content-Type header that names one of the three types, in a request without a body. -/
theorem not_agree_of_header {hdrs : List GenericHdr} {v : CStr} {e : CStr × CStr}
    (he : e ∈ contentEvents) (hv : ⟨"Content-Type".toList, v⟩ ∈ hdrs)
    (htype : isType v e.1 = true) : ¬ Agree ⟨hdrs, none⟩ := by
  intro hagree
  have hno := (agree_noBody_iff rfl).mp hagree _ hv (isContentType_contentType v) e he
  dsimp only at hno
  rw [hno] at htype
  cases htype

/-- With `-C mwi` the header is that of a message-summary, with `-C application/pidf+xml` and with
    `-H "Content-Type: application/pidf+xml"` that of a presence document; the event is
    `keep-alive`, and there is no body. -/
theorem content_disagrees :
    (∃ app sent app', CommandLine Build.g711 UriLib.plain [.contentType "mwi".toList]
        ["notify".toList, "sip:alice@host".toList] .notify app ∧
      Notify.fillIn pjsipSimple ⟨[], none⟩ app = .ok (sent, app') ∧
      sent.sent app'.cfg = ⟨[⟨"Event".toList, "keep-alive".toList⟩,
        ⟨"Content-Type".toList, "application/simple-message-summary".toList⟩], none⟩ ∧
      ¬ Agree (sent.sent app'.cfg)) ∧
    (∃ app sent app',
      CommandLine Build.g711 UriLib.plain [.contentType "application/pidf+xml".toList]
        ["notify".toList, "sip:alice@host".toList] .notify app ∧
      Notify.fillIn pjsipSimple ⟨[], none⟩ app = .ok (sent, app') ∧
      sent.sent app'.cfg = ⟨[⟨"Event".toList, "keep-alive".toList⟩,
        ⟨"Content-Type".toList, "application/pidf+xml".toList⟩], none⟩ ∧
      ¬ Agree (sent.sent app'.cfg)) ∧
    ∃ app sent app',
      CommandLine Build.g711 UriLib.plain [.header "Content-Type: application/pidf+xml".toList]
        ["notify".toList, "sip:alice@host".toList] .notify app ∧
      Notify.fillIn pjsipSimple ⟨[], none⟩ app = .ok (sent, app') ∧
      sent.sent app'.cfg = ⟨[⟨"Event".toList, "keep-alive".toList⟩,
        ⟨"Content-Type".toList, "application/pidf+xml".toList⟩], none⟩ ∧
      ¬ Agree (sent.sent app'.cfg) := by
  have hpidf := (contentEvents_forall.mp fun e he => he).1
  have hsummary := (contentEvents_forall.mp fun e he => he).2.2
  refine ⟨⟨_, _, _, ⟨fun _ => (_, _), ["sippak".toList, "-C".toList, "mwi".toList,
      "notify".toList, "sip:alice@host".toList], rfl, rfl, rfl, rfl⟩, rfl, rfl, ?_⟩,
    ⟨_, _, _, ⟨fun _ => (_, _), ["sippak".toList, "-C".toList, "application/pidf+xml".toList,
      "notify".toList, "sip:alice@host".toList], rfl, rfl, rfl, rfl⟩, rfl, rfl, ?_⟩,
    _, _, _, ⟨fun _ => (_, _), ["sippak".toList, "-H".toList,
      "Content-Type: application/pidf+xml".toList, "notify".toList, "sip:alice@host".toList], rfl,
      rfl, rfl, rfl⟩, rfl, rfl, ?_⟩
  · exact not_agree_of_header hsummary (List.mem_cons_of_mem _ List.mem_cons_self) (by decide)
  · exact not_agree_of_header hpidf (List.mem_cons_of_mem _ List.mem_cons_self) (by decide)
  · exact not_agree_of_header hpidf (List.mem_cons_of_mem _ List.mem_cons_self) (by decide)

end Sippak
