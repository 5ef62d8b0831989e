/-
  File:      Sippak/ContentType.lean
  Subject:   THE CONTENT TYPE OF `-C` (getopts.c) and its header in NOTIFY (notify.c).

  `set_content_type` compares the value with the three aliases by their length only, so that a
  longer value is taken for one; and it takes two tokens of a value with a slash without asking
  whether they were found. What the tokeniser leaves where there is none is a parameter
  (`left`): the results hold whatever it is, and for pjlib's, the rest of the text.

  * `media_of_alias`, `media_of_plain`, `media_of_slash` -- the media type, branch by branch;
  * `slashTokens` -- the two tokens by the fields of the value;
  * `mediaRight_iff` -- **when the media type is what the value says**.
-/
import Sippak.Lib.Tokens
import Sippak.Mod.Notify

namespace Sippak

open CStr

/-! ## 1. What is asked for -/

/-- The aliases and the media types they stand for. -/
def mediaAliases : List (CStr × MediaType) :=
  [("pidf".toList, ⟨some "application".toList, some "pidf+xml".toList⟩),
    ("xpidf".toList, ⟨some "application".toList, some "xpidf+xml".toList⟩),
    ("mwi".toList, ⟨some "application".toList, some "simple-message-summary".toList⟩)]

/-- `type/subtype`, and nothing where there is no type. -/
def mediaText (media : MediaType) : CStr :=
  if media.type.text = [] then [] else media.type.text ++ '/' :: media.subtype.text

/-- `pjsip_media_type_print` prints `type/subtype`, if it fits in the buffer. -/
structure SimpleLib.PrintsMedia (lib : SimpleLib) : Prop where
  text : ∀ media size out, lib.mediaTypePrint media size = some out → out = mediaText media
  fits : ∀ media size, (mediaText media).length < size → lib.mediaTypePrint media size ≠ none

/-- What the value `v` says, and the structure `app` behind `-C v`. -/
structure MediaRight (v : CStr) (app : App) : Prop where
  /-- An alias, in any letter case, is its media type. -/
  named : ∀ e ∈ mediaAliases, eqIgnoreCase v e.1 = true → app.cfg.ctypeMedia = e.2
  /-- What is longer than an alias and has a slash is not taken for it. -/
  longer : ∀ e ∈ mediaAliases, startsIgnoreCase v e.1 = true → eqIgnoreCase v e.1 = false →
    '/' ∈ v → app.cfg.ctypeMedia ≠ e.2
  /-- Any other value without a slash is a subtype of `application`. -/
  plain : (∀ e ∈ mediaAliases, eqIgnoreCase v e.1 = false) → '/' ∉ v →
    app.cfg.ctypeMedia = ⟨some "application".toList, some v⟩
  /-- `t/s` is type and subtype. -/
  parts : ∀ t s, t ≠ [] → s ≠ [] → '/' ∉ t → '/' ∉ s → v = t ++ '/' :: s →
    app.cfg.ctypeMedia = ⟨some t, some s⟩
  /-- So that what NOTIFY prints for `t/s` is the value; one of 512 bytes or more is not printed. -/
  printed : ∀ t s, t ≠ [] → s ≠ [] → '/' ∉ t → '/' ∉ s → v = t ++ '/' :: s →
    ∀ (lib : SimpleLib) (msg : NotifyMsg), lib.PrintsMedia →
      (Notify.addContentTypeHdr lib msg app).1.hdrs = msg.hdrs ++ [⟨"Content-Type".toList, v⟩] ∨
        ((Notify.addContentTypeHdr lib msg app).1.hdrs = msg.hdrs ∧ 512 ≤ v.length)
  typeSlash : '/' ∉ app.cfg.ctypeMedia.type.text
  subtypeSlash : '/' ∉ app.cfg.ctypeMedia.subtype.text

/-! ## 2. The branches -/

section Branches

variable (left : CStr → Nat → CStr) {type : CStr} (app : App)

theorem mediaAliases_forall {P : CStr × MediaType → Prop} :
    (∀ e ∈ mediaAliases, P e) ↔
      P ("pidf".toList, ⟨some "application".toList, some "pidf+xml".toList⟩) ∧
        P ("xpidf".toList, ⟨some "application".toList, some "xpidf+xml".toList⟩) ∧
        P ("mwi".toList,
          ⟨some "application".toList, some "simple-message-summary".toList⟩) := by
  simp [mediaAliases]

/-- A text starts with one alias at most. -/
theorem alias_unique {v : CStr} {e e' : CStr × MediaType} (he : e ∈ mediaAliases)
    (he' : e' ∈ mediaAliases) (hs : startsIgnoreCase v e.1 = true)
    (hs' : startsIgnoreCase v e'.1 = true) : e = e' := by
  have hpairs : ∀ e ∈ mediaAliases, ∀ e' ∈ mediaAliases,
      e.1.map Char.toLower <+: e'.1.map Char.toLower → e = e' := by decide
  rcases startsIgnoreCase_both hs hs' with hp | hp
  · exact hpairs e he e' he' hp
  · exact (hpairs e' he' e he hp).symm

/-- What starts with an alias gets its media type. -/
theorem media_of_alias {e : CStr × MediaType} (he : e ∈ mediaAliases)
    (hs : startsIgnoreCase (trim type) e.1 = true) :
    (setContentTypeLeft left type app).cfg.ctypeMedia = e.2 := by
  obtain ⟨hpidf, hxpidf, hmwi⟩ := mediaAliases_forall.mp fun e he => he
  unfold setContentTypeLeft
  dsimp only
  by_cases h₁ : startsIgnoreCase (trim type) "pidf".toList = true
  · rw [if_pos h₁, alias_unique he hpidf hs h₁]
  · rw [if_neg h₁]
    by_cases h₂ : startsIgnoreCase (trim type) "xpidf".toList = true
    · rw [if_pos h₂, alias_unique he hxpidf hs h₂]
    · rw [if_neg h₂]
      by_cases h₃ : startsIgnoreCase (trim type) "mwi".toList = true
      · rw [if_pos h₃, alias_unique he hmwi hs h₃]
      · -- one of the three comparisons was the entry's
        have hnone : ∀ e ∈ mediaAliases, ¬ startsIgnoreCase (trim type) e.1 = true :=
          mediaAliases_forall.mpr ⟨h₁, h₂, h₃⟩
        exact absurd hs (hnone e he)

theorem media_of_plain (hno : ∀ e ∈ mediaAliases, startsIgnoreCase (trim type) e.1 = false)
    (hslash : '/' ∉ trim type) :
    (setContentTypeLeft left type app).cfg.ctypeMedia =
      ⟨some "application".toList, some (trim type)⟩ := by
  obtain ⟨h₁, h₂, h₃⟩ := mediaAliases_forall.mp hno
  unfold setContentTypeLeft
  dsimp only
  rw [if_neg (by rw [h₁]; decide), if_neg (by rw [h₂]; decide), if_neg (by rw [h₃]; decide),
    if_neg hslash]

/-- The two tokens of a value with a slash. -/
def slashTokens (left : CStr → Nat → CStr) (v : CStr) : CStr × CStr :=
  let first := strtokLeft left (· == '/') v 0
  (first.2, (strtokLeft left (· == '/') v (first.1 + first.2.length)).2)

theorem media_of_slash (hno : ∀ e ∈ mediaAliases, startsIgnoreCase (trim type) e.1 = false)
    (hslash : '/' ∈ trim type) :
    (setContentTypeLeft left type app).cfg.ctypeMedia =
        ⟨some (slashTokens left (trim type)).1, some (slashTokens left (trim type)).2⟩ ∧
      (setContentTypeLeft left type app).cfg.ctypeE = .CTYPE_OTHER := by
  obtain ⟨h₁, h₂, h₃⟩ := mediaAliases_forall.mp hno
  unfold setContentTypeLeft
  dsimp only
  rw [if_neg (by rw [h₁]; decide), if_neg (by rw [h₂]; decide), if_neg (by rw [h₃]; decide),
    if_pos hslash]
  unfold slashTokens
  dsimp only
  exact ⟨rfl, rfl⟩

end Branches

/-! ## 3. The two tokens -/

section Tokens

variable {v : CStr}

/-- What the tokeniser leaves for a token it does not find has no slash. -/
def LeftClear (left : CStr → Nat → CStr) (v : CStr) : Prop :=
  match fields (· == '/') v with
  | [] => '/' ∉ left v 0 ∧ '/' ∉ left v (v.length + (left v 0).length)
  | [t] => '/' ∉ left v ((v.takeWhile (· == '/')).length + t.length)
  | _ => True

/-- The first token stands behind the leading delimiters. -/
theorem strtok_index {d : Char → Bool} {s tok : CStr} {i : Nat} (h : strtok d s 0 = (i, tok))
    (hne : tok ≠ []) : i = (s.takeWhile d).length := by
  unfold strtok at h
  dsimp only at h
  split at h
  · cases h
    exact absurd rfl hne
  · cases h
    rw [List.drop_zero, Nat.zero_add]

/-- **The two tokens by the fields.** -/
theorem slashTokens_eq (left : CStr → Nat → CStr) (v : CStr) :
    match fields (· == '/') v with
    | [] => slashTokens left v = (left v 0, left v (v.length + (left v 0).length))
    | [t] => slashTokens left v = (t, left v ((v.takeWhile (· == '/')).length + t.length))
    | t :: s :: _ => slashTokens left v = (t, s) := by
  unfold slashTokens
  rcases strtokLeft_next (d := (· == '/')) left v (Nat.zero_le _) with
    ⟨hnil, h₁⟩ | ⟨i, t, h₁, hne, hlen, hfields⟩
  · rw [List.drop_zero] at hnil
    have h₂ : strtokLeft left (· == '/') v (v.length + (left v 0).length) =
        (v.length, left v (v.length + (left v 0).length)) := by
      unfold strtokLeft
      rw [strtok_behind (Nat.le_add_right _ _), if_pos rfl]
    rw [hnil, h₁]
    dsimp only
    rw [h₂]
  · have hi : i = (v.takeWhile (· == '/')).length := by
      unfold strtokLeft at h₁
      split at h₁
      · rename_i hend
        have hpos := List.length_pos_of_ne_nil hne
        cases h₁
        omega
      · exact strtok_index h₁ hne
    rw [List.drop_zero] at hfields
    rw [hfields, h₁]
    dsimp only
    rcases strtokLeft_next (d := (· == '/')) left v hlen with
      ⟨hnil, h₂⟩ | ⟨j, s, h₂, -, -, hfields₂⟩
    · rw [hnil, h₂, hi]
    · rw [hfields₂, h₂]

/-- **Neither token has a slash** exactly where what is left behind has none. -/
theorem slashTokens_clear_iff {left : CStr → Nat → CStr} :
    ('/' ∉ (slashTokens left v).1 ∧ '/' ∉ (slashTokens left v).2) ↔ LeftClear left v := by
  have htokens := slashTokens_eq left v
  have hfield : ∀ t ∈ fields (· == '/') v, '/' ∉ t := fun t ht =>
    not_mem_iff_beq.mpr (not_delim_of_mem_fields ht)
  unfold LeftClear
  match hf : fields (· == '/') v with
  | [] =>
      rw [hf] at htokens
      rw [htokens]
  | [t] =>
      rw [hf] at htokens hfield
      rw [htokens]
      exact ⟨fun h => h.2, fun h => ⟨hfield t List.mem_cons_self, h⟩⟩
  | t :: s :: more =>
      rw [hf] at htokens hfield
      rw [htokens]
      refine iff_of_true ⟨hfield t List.mem_cons_self, hfield s ?_⟩ trivial
      exact List.mem_cons_of_mem _ List.mem_cons_self

/-- The tokens of `t/s`. -/
theorem slashTokens_parts (left : CStr → Nat → CStr) {t s : CStr} (ht : t ≠ []) (hs : s ≠ [])
    (hnt : '/' ∉ t) (hns : '/' ∉ s) : slashTokens left (t ++ '/' :: s) = (t, s) := by
  have hfields : fields (· == '/') (t ++ '/' :: s) = [t, s] := by
    rw [fields_append_delim rfl, fields_of_run ht (not_mem_iff_beq.mp hnt),
      fields_of_run hs (not_mem_iff_beq.mp hns)]
    rfl
  have htokens := slashTokens_eq left (t ++ '/' :: s)
  rwa [hfields] at htokens

/-- Where only the first token is found, pjlib leaves the slashes behind it. -/
theorem restLeft_singleton {t : CStr} (hf : fields (· == '/') v = [t]) :
    ∃ behind, restLeft v ((v.takeWhile (· == '/')).length + t.length) = behind ∧
      v = v.takeWhile (· == '/') ++ (t ++ behind) ∧ t ≠ [] ∧ ∀ c ∈ behind, c = '/' := by
  obtain ⟨behind, hv, hne, hdelim⟩ := fields_singleton hf
  refine ⟨behind, ?_, hv, hne, fun c hc => beq_iff_eq.mp (hdelim c hc)⟩
  have hdrop : v.dropWhile (· == '/') = t ++ behind :=
    List.append_cancel_left (List.takeWhile_append_dropWhile.trans hv)
  unfold restLeft
  rw [← List.drop_drop, drop_takeWhile_length, hdrop, List.drop_left]

/-- **pjlib leaves the rest of the text**: a slash is left where the value ends with one and has
    fewer than two fields. -/
theorem leftClear_restLeft_iff (hslash : '/' ∈ v) :
    LeftClear restLeft v ↔ 2 ≤ (fields (· == '/') v).length ∨ v.getLast? ≠ some '/' := by
  unfold LeftClear
  match hf : fields (· == '/') v with
  | [] =>
      -- slashes only
      have hall := fields_eq_nil_iff.mp hf
      have hlast : v.getLast? = some '/' := by
        have hne := List.ne_nil_of_mem hslash
        rw [List.getLast?_eq_some_getLast hne]
        exact congrArg some (beq_iff_eq.mp (hall _ (List.getLast_mem hne)))
      refine iff_of_false (fun h => h.1 hslash) fun h => ?_
      rcases h with h | h
      · exact absurd h (by decide)
      · exact h hlast
  | [t] =>
      obtain ⟨behind, hleft, hv, hne, hdelim⟩ := restLeft_singleton hf
      have hrun := not_delim_of_mem_fields (hf ▸ List.mem_cons_self : t ∈ fields (· == '/') v)
      dsimp only
      rw [hleft]
      by_cases hnil : behind = []
      · -- the value ends with the field
        refine iff_of_true (by rw [hnil]; exact List.not_mem_nil) (Or.inr fun hlast => ?_)
        rw [hv, hnil, List.append_nil, List.getLast?_append_of_ne_nil _ hne,
          List.getLast?_eq_some_getLast hne] at hlast
        have hno := hrun _ (List.getLast_mem hne)
        rw [Option.some.inj hlast] at hno
        exact absurd hno (by decide)
      · have hlast := List.getLast_mem hnil
        have hslash' : '/' ∈ behind := by
          rw [hdelim _ hlast] at hlast
          exact hlast
        refine iff_of_false (fun h => h hslash') fun h => ?_
        rcases h with h | h
        · exact absurd h (by simp)
        · refine h ?_
          rw [hv, ← List.append_assoc, List.getLast?_append_of_ne_nil _ hnil,
            List.getLast?_eq_some_getLast hnil]
          exact congrArg some (hdelim _ hlast)
  | t :: s :: more =>
      exact iff_of_true trivial (Or.inl (by simp))

end Tokens

/-! ## 4. When the media type is what the value says -/

/-- The media type of a value that starts with an alias is right only for the alias itself, and
    for the subtype it stands for. -/
def NoLongerAlias (v : CStr) : Prop :=
  ∀ e ∈ mediaAliases, startsIgnoreCase v e.1 = true →
    eqIgnoreCase v e.1 = true ∨ some v = e.2.subtype

/-- A text with a slash is no name without one. -/
theorem not_eqIgnoreCase_of_slash {v name : CStr} (hslash : '/' ∈ v)
    (hname : '/' ∉ name.map Char.toLower) : eqIgnoreCase v name = false := by
  rw [Bool.eq_false_iff]
  intro heq
  have hmem : Char.toLower '/' ∈ v.map Char.toLower := List.mem_map_of_mem hslash
  rw [eqIgnoreCase_iff.mp heq] at hmem
  exact hname hmem

/-- A text without a slash has no two parts. -/
theorem ne_parts_of_noSlash {v : CStr} (h : '/' ∉ v) (t s : CStr) : v ≠ t ++ '/' :: s := by
  intro hv
  rw [hv] at h
  exact h (List.mem_append_right _ List.mem_cons_self)

theorem no_alias_of_slash {v : CStr} (h : NoLongerAlias v) (hslash : '/' ∈ v) :
    ∀ e ∈ mediaAliases, startsIgnoreCase v e.1 = false := by
  have hnames : ∀ e ∈ mediaAliases, '/' ∉ e.1.map Char.toLower ∧ '/' ∉ e.2.subtype.text := by
    decide
  intro e he
  rw [Bool.eq_false_iff]
  intro hs
  rcases h e he hs with heq | hsub
  · rw [not_eqIgnoreCase_of_slash hslash (hnames e he).1] at heq
    cases heq
  · have hno := (hnames e he).2
    rw [← hsub] at hno
    exact hno hslash

/-- What NOTIFY prints of a media type. -/
theorem addContentTypeHdr_hdrs {lib : SimpleLib} (hlib : lib.PrintsMedia) (msg : NotifyMsg)
    {app : App} (hset : app.cfg.ctypeE ≠ .CTYPE_UNKNOWN) :
    (Notify.addContentTypeHdr lib msg app).1.hdrs =
        msg.hdrs ++ [⟨"Content-Type".toList, mediaText app.cfg.ctypeMedia⟩] ∨
      ((Notify.addContentTypeHdr lib msg app).1.hdrs = msg.hdrs ∧
        512 ≤ (mediaText app.cfg.ctypeMedia).length) := by
  unfold Notify.addContentTypeHdr
  rw [if_neg hset]
  cases hp : lib.mediaTypePrint app.cfg.ctypeMedia 512 with
  | none =>
      refine Or.inr ⟨rfl, ?_⟩
      by_contra hlt
      exact hlib.fits _ _ (Nat.lt_of_not_le hlt) hp
  | some out =>
      rw [hlib.text _ _ _ hp]
      exact Or.inl rfl

section Right

variable (left : CStr → Nat → CStr) (type : CStr) (app : App)

/-- A value with a slash that starts with no alias. -/
theorem mediaRight_of_slash (hno : ∀ e ∈ mediaAliases, startsIgnoreCase (trim type) e.1 = false)
    (hslash : '/' ∈ trim type) (hclear : LeftClear left (trim type)) :
    MediaRight (trim type) (setContentTypeLeft left type app) := by
  obtain ⟨hmedia, hclass⟩ := media_of_slash left app hno hslash
  have hnamed : ∀ e ∈ mediaAliases, ¬ eqIgnoreCase (trim type) e.1 = true :=
    fun e he => Bool.eq_false_iff.mp (eqIgnoreCase_of_starts (hno e he))
  have hparts : ∀ t s, t ≠ [] → s ≠ [] → '/' ∉ t → '/' ∉ s → trim type = t ++ '/' :: s →
      (setContentTypeLeft left type app).cfg.ctypeMedia = ⟨some t, some s⟩ := by
    intro t s ht hs hnt hns hv
    rw [hmedia, hv, slashTokens_parts left ht hs hnt hns]
  refine ⟨fun e he heq => absurd heq (hnamed e he), fun e he hs => ?_,
    fun _ h => absurd hslash h, hparts, fun t s ht hs hnt hns hv lib msg hlib => ?_, ?_, ?_⟩
  · rw [hno e he] at hs
    cases hs
  · have htext : mediaText (setContentTypeLeft left type app).cfg.ctypeMedia = trim type := by
      rw [hparts t s ht hs hnt hns hv, hv]
      exact if_neg ht
    have hset : (setContentTypeLeft left type app).cfg.ctypeE ≠ .CTYPE_UNKNOWN := by
      rw [hclass]
      exact CType.noConfusion
    have hprint := addContentTypeHdr_hdrs hlib msg hset
    rwa [htext] at hprint
  · rw [hmedia]
    exact (slashTokens_clear_iff.mpr hclear).1
  · rw [hmedia]
    exact (slashTokens_clear_iff.mpr hclear).2

/-- A value without a slash that starts with an alias. -/
theorem mediaRight_of_alias {e : CStr × MediaType} (he : e ∈ mediaAliases)
    (hs : startsIgnoreCase (trim type) e.1 = true) (hslash : '/' ∉ trim type)
    (hclear : NoLongerAlias (trim type)) :
    MediaRight (trim type) (setContentTypeLeft left type app) := by
  have hmedia := media_of_alias left app he hs
  have htypes : ∀ e ∈ mediaAliases, e.2 = ⟨some "application".toList, e.2.subtype⟩ ∧
      '/' ∉ e.2.type.text ∧ '/' ∉ e.2.subtype.text := by decide
  have hnoparts := ne_parts_of_noSlash hslash
  refine ⟨fun e' he' heq => ?_, fun _ _ _ _ h => absurd h hslash, fun hother _ => ?_,
    fun t s _ _ _ _ hv => absurd hv (hnoparts t s),
    fun t s _ _ _ _ hv => absurd hv (hnoparts t s), ?_, ?_⟩
  · rw [hmedia, alias_unique he he' hs (startsIgnoreCase_of_eq heq)]
  · rcases hclear e he hs with heq | hsub
    · rw [hother e he] at heq
      cases heq
    · rw [hmedia, (htypes e he).1, hsub]
  · rw [hmedia]
    exact (htypes e he).2.1
  · rw [hmedia]
    exact (htypes e he).2.2

/-- A value without a slash that starts with no alias. -/
theorem mediaRight_of_plain (hno : ∀ e ∈ mediaAliases, startsIgnoreCase (trim type) e.1 = false)
    (hslash : '/' ∉ trim type) : MediaRight (trim type) (setContentTypeLeft left type app) := by
  have hmedia := media_of_plain left app hno hslash
  have hnoparts := ne_parts_of_noSlash hslash
  refine ⟨fun e he heq => ?_, fun _ _ _ _ h => absurd h hslash, fun _ _ => hmedia,
    fun t s _ _ _ _ hv => absurd hv (hnoparts t s),
    fun t s _ _ _ _ hv => absurd hv (hnoparts t s), ?_, ?_⟩
  · rw [eqIgnoreCase_of_starts (hno e he)] at heq
    cases heq
  · rw [hmedia]
    show '/' ∉ "application".toList
    decide
  · rw [hmedia]
    exact hslash

/-- **The media type is what the value says** exactly when the value is no longer than the alias
    it starts with, and the tokeniser leaves no slash for a token it does not find. -/
theorem mediaRight_iff :
    MediaRight (trim type) (setContentTypeLeft left type app) ↔
      NoLongerAlias (trim type) ∧ ('/' ∈ trim type → LeftClear left (trim type)) := by
  constructor
  · intro hright
    have hclear : NoLongerAlias (trim type) := by
      intro e he hs
      by_cases heq : eqIgnoreCase (trim type) e.1 = true
      · exact Or.inl heq
      · have hmedia := media_of_alias left app he hs
        have hslash : '/' ∉ trim type := fun h =>
          hright.longer e he hs (Bool.eq_false_iff.mpr heq) h hmedia
        have hother : ∀ e' ∈ mediaAliases, eqIgnoreCase (trim type) e'.1 = false := by
          intro e' he'
          rw [Bool.eq_false_iff]
          intro heq'
          rw [← alias_unique he he' hs (startsIgnoreCase_of_eq heq')] at heq'
          exact heq heq'
        have hplain := hright.plain hother hslash
        rw [hmedia] at hplain
        exact Or.inr (congrArg MediaType.subtype hplain).symm
    refine ⟨hclear, fun hslash => ?_⟩
    obtain ⟨hmedia, -⟩ := media_of_slash left app (no_alias_of_slash hclear hslash) hslash
    have htype := hright.typeSlash
    have hsubtype := hright.subtypeSlash
    rw [hmedia] at htype hsubtype
    exact slashTokens_clear_iff.mp ⟨htype, hsubtype⟩
  · intro ⟨hclear, hleft⟩
    by_cases hslash : '/' ∈ trim type
    · exact mediaRight_of_slash left type app (no_alias_of_slash hclear hslash) hslash
        (hleft hslash)
    · by_cases halias : ∃ e ∈ mediaAliases, startsIgnoreCase (trim type) e.1 = true
      · obtain ⟨e, he, hs⟩ := halias
        exact mediaRight_of_alias left type app he hs hslash hclear
      · refine mediaRight_of_plain left type app (fun e he => ?_) hslash
        rw [Bool.eq_false_iff]
        exact fun hs => halias ⟨e, he, hs⟩

end Right

/-- **When `-C` says what it stores**: whatever the tokeniser leaves for a token it does not find,
    and for pjlib's. -/
theorem content_type_right_iff (type : CStr) (app : App) :
    (∀ left, MediaRight (trim type) (setContentTypeLeft left type app) ↔
      NoLongerAlias (trim type) ∧ ('/' ∈ trim type → LeftClear left (trim type))) ∧
    (MediaRight (trim type) (setContentType type app) ↔
      NoLongerAlias (trim type) ∧ ('/' ∈ trim type →
        2 ≤ (fields (· == '/') (trim type)).length ∨ (trim type).getLast? ≠ some '/')) := by
  refine ⟨fun left => mediaRight_iff left type app, ?_⟩
  have hleft : ('/' ∈ trim type → LeftClear restLeft (trim type)) ↔
      ('/' ∈ trim type →
        2 ≤ (fields (· == '/') (trim type)).length ∨ (trim type).getLast? ≠ some '/') :=
    forall_congr' fun hslash => leftClear_restLeft_iff hslash
  unfold setContentType
  rw [mediaRight_iff, hleft]

/-- `-C pidf-diff+xml` is stored as `application/pidf+xml`, and `-C text/` with the subtype `/`. -/
theorem content_type_longer :
    (setContentType "pidf-diff+xml".toList sippakInit).cfg.ctypeMedia =
        ⟨some "application".toList, some "pidf+xml".toList⟩ ∧
      ¬ MediaRight "pidf-diff+xml".toList (setContentType "pidf-diff+xml".toList sippakInit) ∧
      (setContentType "text/".toList sippakInit).cfg.ctypeMedia =
        ⟨some "text".toList, some "/".toList⟩ ∧
      ¬ MediaRight "text/".toList (setContentType "text/".toList sippakInit) := by
  refine ⟨by decide, fun h => ?_, by decide, fun h => ?_⟩
  · have hplain := h.plain (by decide) (by decide)
    exact absurd hplain (by decide)
  · exact absurd h.subtypeSlash (by decide)

end Sippak
