/-
  File:      Sippak/Lib/Tokens.lean
  Subject:   THE FIELDS OF A TEXT, and that the index-based tokeniser visits them.

  `fields d s` is what stands between the delimiters of `s`, from left to right, without the empty
  pieces. The tokeniser works on indices and skips delimiters as it goes; `strtok_next` says what
  one call does to the fields that are left, and everything else follows from it.

  * `strtok_split` -- one call: what it skips, what it returns and what it leaves;
  * `strtok_next` -- in terms of the fields: none is left, or the first one is returned and its end
    is a place to go on from;
  * `forTokens_fields` -- **the loop over the tokeniser is a fold over the fields**, each once and
    in order, whatever its body does.
-/
import Mathlib.Data.List.TakeWhile
import Sippak.Lib.CStr

namespace CStr

variable {d : Char → Bool}

/-- What stands between the delimiters, without the empty pieces. -/
def fields (d : Char → Bool) (s : CStr) : List CStr := (s.splitOnP d).filter fun t => t ≠ []

/-! ## 1. The fields of a text -/

/-- **A delimiter separates the fields before it from those after it.** -/
theorem fields_append_delim {c : Char} (hc : d c = true) (s t : CStr) :
    fields d (s ++ c :: t) = fields d s ++ fields d t := by
  unfold fields
  rw [List.splitOnP_append_cons s t hc, List.filter_append]

theorem fields_nil : fields d [] = [] := by simp [fields]

theorem fields_cons_delim {c : Char} (hc : d c = true) (s : CStr) :
    fields d (c :: s) = fields d s := by
  have h := fields_append_delim hc [] s
  rwa [fields_nil] at h

/-- Delimiters in front do not matter. -/
theorem fields_append_of_delims {p : CStr} (hp : ∀ c ∈ p, d c = true) (s : CStr) :
    fields d (p ++ s) = fields d s := by
  induction p with
  | nil => rfl
  | cons c p ih =>
      rw [List.cons_append, fields_cons_delim (hp c List.mem_cons_self)]
      exact ih fun x hx => hp x (List.mem_cons_of_mem _ hx)

/-- A text without a delimiter is one field. -/
theorem fields_of_run {t : CStr} (hne : t ≠ []) (ht : ∀ c ∈ t, d c = false) :
    fields d t = [t] := by
  unfold fields
  rw [List.splitOnP_eq_singleton ht]
  simp [hne]

/-- A run in front, up to a delimiter or the end, is the first field. -/
theorem fields_append_run {t s : CStr} (hne : t ≠ []) (ht : ∀ c ∈ t, d c = false)
    (hs : ∀ c ∈ s.head?, d c = true) : fields d (t ++ s) = t :: fields d s := by
  cases s with
  | nil => rw [List.append_nil, fields_of_run hne ht, fields_nil]
  | cons c s =>
      have hc : d c = true := hs c rfl
      rw [fields_append_delim hc, fields_of_run hne ht, fields_cons_delim hc]
      rfl

/-- What follows the leading delimiters starts with a run, or is empty. -/
theorem takeWhile_ne_nil_of_dropWhile {s : CStr} (h : s.dropWhile d ≠ []) :
    (s.dropWhile d).takeWhile (fun c => !d c) ≠ [] := by
  cases hs : s.dropWhile d with
  | nil => exact absurd hs h
  | cons c r =>
      have hc : d c = false := by
        have hhead := List.head_dropWhile_not d h
        simp only [hs, List.head_cons] at hhead
        exact hhead
      rw [List.takeWhile_cons_of_pos (by simp [hc])]
      exact List.cons_ne_nil c _

/-- What is taken up to a delimiter is a run. -/
theorem not_delim_of_run {s : CStr} : ∀ c ∈ s.takeWhile (fun c => !d c), d c = false := by
  intro c hc
  simpa using List.mem_takeWhile_imp hc

/-- Behind it stands a delimiter, or nothing. -/
theorem delim_of_behind_run {s : CStr} :
    ∀ c ∈ (s.dropWhile fun c => !d c).head?, d c = true := by
  intro c hc
  have hhead := List.head?_dropWhile_not (fun c => !d c) s
  rw [Option.mem_def.mp hc] at hhead
  simpa using hhead

/-- **The fields from the left**: skip delimiters, take the run, go on behind it. -/
theorem fields_eq (s : CStr) :
    fields d s =
      if s.dropWhile d = [] then []
      else (s.dropWhile d).takeWhile (fun c => !d c) ::
        fields d ((s.dropWhile d).dropWhile fun c => !d c) := by
  have hskip : fields d s = fields d (s.dropWhile d) := by
    have h := fields_append_of_delims (d := d) (p := s.takeWhile d)
      (fun c hc => List.mem_takeWhile_imp hc) (s.dropWhile d)
    rwa [List.takeWhile_append_dropWhile] at h
  rw [hskip]
  split
  · rename_i h
    rw [h, fields_nil]
  · rename_i h
    have h' := fields_append_run (takeWhile_ne_nil_of_dropWhile h) not_delim_of_run
      (delim_of_behind_run (s := s.dropWhile d))
    rwa [List.takeWhile_append_dropWhile] at h'

/-- There is a field exactly where there is a character that is no delimiter. -/
theorem fields_eq_nil_iff {s : CStr} : fields d s = [] ↔ ∀ c ∈ s, d c = true := by
  rw [← List.dropWhile_eq_nil_iff, fields_eq]
  split
  · rename_i h
    simp [h]
  · rename_i h
    simp [h]

/-- No field holds a delimiter. -/
theorem not_delim_of_mem_fields {s t : CStr} (ht : t ∈ fields d s) : ∀ c ∈ t, d c = false := by
  -- by the length of the text: the fields behind the first are those of a shorter one
  induction hn : s.length using Nat.strong_induction_on generalizing s with
  | _ n ih =>
      subst hn
      rw [fields_eq] at ht
      split at ht
      · exact absurd ht List.not_mem_nil
      · rename_i hne
        rcases List.mem_cons.mp ht with e | hmem
        · subst e
          exact not_delim_of_run
        · have hpos := List.length_pos_of_ne_nil (takeWhile_ne_nil_of_dropWhile hne)
          have hsplit := congrArg List.length (List.takeWhile_append_dropWhile
            (p := fun c => !d c) (l := s.dropWhile d))
          have hle := (List.dropWhile_suffix d (l := s)).length_le
          rw [List.length_append] at hsplit
          exact ih _ (by omega) hmem rfl

/-- A text with one field: delimiters, the field, delimiters. -/
theorem fields_singleton {s t : CStr} (h : fields d s = [t]) :
    ∃ behind, s = s.takeWhile d ++ (t ++ behind) ∧ t ≠ [] ∧ ∀ c ∈ behind, d c = true := by
  rw [fields_eq] at h
  split at h
  · cases h
  · rename_i hne
    obtain ⟨ht, hrest⟩ := List.cons.inj h
    refine ⟨(s.dropWhile d).dropWhile fun c => !d c, ?_, ?_, fields_eq_nil_iff.mp hrest⟩
    · rw [← ht, List.takeWhile_append_dropWhile, List.takeWhile_append_dropWhile]
    · rw [← ht]
      exact takeWhile_ne_nil_of_dropWhile hne

/-! ## 2. The tokeniser -/

theorem drop_takeWhile_length (p : Char → Bool) (s : CStr) :
    s.drop (s.takeWhile p).length = s.dropWhile p := by
  have h : (s.takeWhile p ++ s.dropWhile p).drop (s.takeWhile p).length = s.dropWhile p :=
    List.drop_left
  rwa [List.takeWhile_append_dropWhile] at h

/-- **One call**: only delimiters are left; or what is skipped, the run and the rest are what was
    left, and the place and the run are the answer. -/
theorem strtok_split (d : Char → Bool) (s : CStr) (start : Nat) :
    ((∀ c ∈ s.drop start, d c = true) ∧ strtok d s start = (s.length, [])) ∨
      ∃ skipped tok behind, s.drop start = skipped ++ (tok ++ behind) ∧
        (∀ c ∈ skipped, d c = true) ∧ tok ≠ [] ∧ (∀ c ∈ tok, d c = false) ∧
        (∀ c ∈ behind.head?, d c = true) ∧ strtok d s start = (start + skipped.length, tok) := by
  unfold strtok
  dsimp only
  rw [drop_takeWhile_length]
  by_cases hrest : (s.drop start).dropWhile d = []
  · rw [hrest]
    exact Or.inl ⟨List.dropWhile_eq_nil_iff.mp hrest, rfl⟩
  · have hne := takeWhile_ne_nil_of_dropWhile hrest
    rw [if_neg hne]
    refine Or.inr ⟨_, _, ((s.drop start).dropWhile d).dropWhile fun c => !d c, ?_,
      fun c hc => List.mem_takeWhile_imp hc, hne, not_delim_of_run, delim_of_behind_run, rfl⟩
    rw [List.takeWhile_append_dropWhile, List.takeWhile_append_dropWhile]

/-- **One call**: no field is left; or the first field is returned with its place, and the others
    are left behind it. -/
theorem strtok_next (s : CStr) {start : Nat} (h : start ≤ s.length) :
    (fields d (s.drop start) = [] ∧ strtok d s start = (s.length, [])) ∨
      ∃ i tok, strtok d s start = (i, tok) ∧ start ≤ i ∧ tok ≠ [] ∧ i + tok.length ≤ s.length ∧
        fields d (s.drop start) = tok :: fields d (s.drop (i + tok.length)) := by
  rcases strtok_split d s start with ⟨hdelims, hcall⟩ | ⟨skipped, tok, behind, hdrop, hdelims,
    hne, hrun, hhead, hcall⟩
  · exact Or.inl ⟨fields_eq_nil_iff.mpr hdelims, hcall⟩
  · have hrest : s.drop (start + skipped.length + tok.length) = behind := by
      rw [← List.drop_drop, ← List.drop_drop, hdrop, List.drop_left, List.drop_left]
    refine Or.inr ⟨_, tok, hcall, Nat.le_add_right _ _, hne, ?_, ?_⟩
    · -- delimiters, run and rest make up what is left from `start` on
      have hlen := congrArg List.length hdrop
      simp only [List.length_append, List.length_drop] at hlen
      omega
    · rw [hrest, hdrop, fields_append_of_delims hdelims, fields_append_run hne hrun hhead]

/-- Behind the end there is no token. -/
theorem strtok_behind {s : CStr} {start : Nat} (h : s.length ≤ start) :
    strtok d s start = (s.length, []) := by
  unfold strtok
  rw [List.drop_eq_nil_of_le h]
  rfl

/-- **One call, with the token it leaves**: what the library puts there, or the first field. -/
theorem strtokLeft_next (left : CStr → Nat → CStr) (s : CStr) {start : Nat} (h : start ≤ s.length) :
    (fields d (s.drop start) = [] ∧ strtokLeft left d s start = (s.length, left s start)) ∨
      ∃ i tok, strtokLeft left d s start = (i, tok) ∧ tok ≠ [] ∧ i + tok.length ≤ s.length ∧
        fields d (s.drop start) = tok :: fields d (s.drop (i + tok.length)) := by
  unfold strtokLeft
  rcases strtok_next (d := d) s h with ⟨hnil, hs⟩ | ⟨i, tok, hs, -, hne, hlen, hfields⟩
  · rw [hs, if_pos rfl]
    exact Or.inl ⟨hnil, rfl⟩
  · have hpos := List.length_pos_of_ne_nil hne
    have hi : i ≠ s.length := by omega
    rw [hs, if_neg hi]
    exact Or.inr ⟨i, tok, rfl, hne, hlen, hfields⟩

/-- From `start` on the loop is a fold over the fields that are left. -/
theorem forTokens_eq {σ ρ : Type} (s : CStr) (body : σ → CStr → Except ρ σ) {fuel start : Nat}
    (st : σ) (h : start ≤ s.length) (hfuel : s.length < start + fuel) :
    forTokens d s body fuel start st = (fields d (s.drop start)).foldlM body st := by
  induction fuel generalizing start st with
  | zero => omega
  | succ fuel ih =>
      rw [forTokens]
      rcases strtok_next (d := d) s h with ⟨hnil, hs⟩ | ⟨i, tok, hs, hi, hne, hlen, hfields⟩
      · rw [hs, hnil, if_pos rfl]
        rfl
      · have hpos := List.length_pos_of_ne_nil hne
        have hi' : i ≠ s.length := by omega
        rw [hs, hfields, if_neg hi', List.foldlM_cons]
        cases hb : body st tok with
        | error r => rfl
        | ok st' =>
            have hfuel' : s.length < i + tok.length + fuel := by omega
            exact ih st' hlen hfuel'

/-- **The loop over the tokeniser is a fold over the fields**, each once and in order. -/
theorem forTokens_fields {σ ρ : Type} (s : CStr) (body : σ → CStr → Except ρ σ) (st : σ) :
    forTokens d s body (s.length + 1) 0 st = (fields d s).foldlM body st :=
  forTokens_eq s body st (Nat.zero_le _) (by omega)

end CStr
