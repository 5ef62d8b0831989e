/-
  File:      Sippak/Lib/TokenLoop.lean
  Subject:   THE LOOP OVER THE INDEX-BASED TOKENISER, ROUND BY ROUND.

      for (i = strtok(s, d, &tok, 0); i != len && more; i = strtok(s, d, &tok, i + tok.len)) body

  The loop variable is what the last call returned, and the end mark is an index like any other.
  Here the loop is a transition system: a state is the last call's answer with the state of the
  body, or what the body has left the function with; a step is a round, and its event the place
  and the token the body was run on.

  * `fieldsAt`, `mem_fieldsAt_iff`, `fieldsAt_sorted` -- the maximal runs without a delimiter, with
    their places, from left to right;
  * `strtok_place` -- one call from an edge finds the next of them;
  * `rounds` -- what a loop does to a list of fields, without indices;
  * `TokenLoop.visits` -- **the loop visits what `rounds` says**: no run leaves that order or goes on
    behind it, and a run that cannot go on has visited all of it.
-/
import Sippak.Lib.Run
import Sippak.Lib.Tokens

namespace CStr

open Runs

variable {d : Char → Bool}

/-! ## 1. The fields with their places -/

/-- A field starts at the index `i`: no delimiter stands there, and one stands before it, or
    nothing does. -/
def startsField (d : Char → Bool) (s : CStr) (i : Nat) : Bool :=
  s[i]?.any (fun c => !d c) && (i == 0 || s[i - 1]?.any d)

/-- The fields that start at `start` or behind it. -/
def fieldsFrom (d : Char → Bool) (s : CStr) (start : Nat) : List (Nat × CStr) :=
  (List.range' start (s.length - start)).filterMap fun i =>
    if startsField d s i then some (i, (s.drop i).takeWhile fun c => !d c) else none

/-- The fields of a text, each with the index it starts at. -/
def fieldsAt (d : Char → Bool) (s : CStr) : List (Nat × CStr) := fieldsFrom d s 0

/-- No field goes over the index `k` from the left. -/
def Edge (d : Char → Bool) (s : CStr) (k : Nat) : Prop := k = 0 ∨ ∀ c ∈ s[k]?, d c = true

/-- The text is a maximal run without a delimiter, and it stands at this place. -/
structure IsField (d : Char → Bool) (s : CStr) (field : Nat × CStr) : Prop where
  ne : field.2 ≠ []
  run : ∀ c ∈ field.2, d c = false
  place : ∃ before behind, s = before ++ (field.2 ++ behind) ∧ before.length = field.1 ∧
    (∀ c ∈ before.getLast?, d c = true) ∧ ∀ c ∈ behind.head?, d c = true

theorem fieldsFrom_of_le {s : CStr} {k : Nat} (h : s.length ≤ k) : fieldsFrom d s k = [] := by
  rw [fieldsFrom, Nat.sub_eq_zero_of_le h]
  rfl

theorem fieldsFrom_of_starts {s : CStr} {k : Nat} (h : k < s.length)
    (hk : startsField d s k = true) :
    fieldsFrom d s k = (k, (s.drop k).takeWhile fun c => !d c) :: fieldsFrom d s (k + 1) := by
  have hlen : s.length - k = s.length - (k + 1) + 1 := by omega
  rw [fieldsFrom, hlen, List.range'_succ, List.filterMap_cons_some (by rw [if_pos hk])]
  rfl

theorem fieldsFrom_of_not_starts {s : CStr} {k : Nat} (hk : startsField d s k = false) :
    fieldsFrom d s k = fieldsFrom d s (k + 1) := by
  by_cases h : k < s.length
  · have hlen : s.length - k = s.length - (k + 1) + 1 := by omega
    rw [fieldsFrom, hlen, List.range'_succ, List.filterMap_cons_none (by rw [hk]; rfl)]
    rfl
  · rw [fieldsFrom_of_le (by omega), fieldsFrom_of_le (by omega)]

/-- Indices where no field starts do not matter. -/
theorem fieldsFrom_add {s : CStr} {k : Nat} (n : Nat)
    (hno : ∀ j, j < n → startsField d s (k + j) = false) :
    fieldsFrom d s k = fieldsFrom d s (k + n) := by
  induction n with
  | zero => rfl
  | succ n ih =>
      rw [ih fun j hj => hno j (Nat.lt_succ_of_lt hj),
        fieldsFrom_of_not_starts (hno n (Nat.lt_succ_self n))]
      rfl

/-- A delimiter starts no field. -/
theorem startsField_of_delim {s : CStr} {i : Nat} (h : ∀ c ∈ s[i]?, d c = true) :
    startsField d s i = false := by
  unfold startsField
  cases hc : s[i]? with
  | none => rfl
  | some c =>
      rw [Option.any_some, h c hc]
      rfl

/-- Inside a run no field starts. -/
theorem startsField_of_inside {s : CStr} {i : Nat} (h : ∀ c ∈ s[i]?, d c = false) :
    startsField d s (i + 1) = false := by
  unfold startsField
  rw [Nat.add_sub_cancel, beq_false_of_ne (Nat.succ_ne_zero i), Bool.false_or]
  cases hc : s[i]? with
  | none => rw [Option.any_none, Bool.and_false]
  | some c => rw [Option.any_some, h c hc, Bool.and_false]

/-- **The fields are listed from left to right.** -/
theorem fieldsAt_sorted (s : CStr) : (fieldsAt d s).Pairwise fun f g => f.1 < g.1 := by
  refine List.Pairwise.filterMap _ ?_ List.pairwise_lt_range'
  intro i j hij f hf g hg
  rw [Option.ite_none_right_eq_some] at hf hg
  rw [← (Option.some.inj hf.2), ← (Option.some.inj hg.2)]
  exact hij

theorem mem_fieldsAt {s : CStr} {i : Nat} {tok : CStr} :
    (i, tok) ∈ fieldsAt d s ↔
      i < s.length ∧ startsField d s i = true ∧ (s.drop i).takeWhile (fun c => !d c) = tok := by
  unfold fieldsAt fieldsFrom
  rw [List.mem_filterMap]
  constructor
  · rintro ⟨j, hj, h⟩
    rw [Option.ite_none_right_eq_some] at h
    obtain ⟨hstart, heq⟩ := h
    cases heq
    rw [List.mem_range'_1] at hj
    exact ⟨by omega, hstart, rfl⟩
  · rintro ⟨hi, hstart, rfl⟩
    refine ⟨i, ?_, by rw [if_pos hstart]⟩
    rw [List.mem_range'_1]
    omega

theorem startsField_iff {s : CStr} {i : Nat} :
    startsField d s i = true ↔
      (∃ c, s[i]? = some c ∧ d c = false) ∧ (i = 0 ∨ ∃ c, s[i - 1]? = some c ∧ d c = true) := by
  unfold startsField
  rw [Bool.and_eq_true, Bool.or_eq_true, beq_iff_eq, Option.any_eq_true, Option.any_eq_true]
  simp only [Bool.not_eq_true']

/-- A run in front, up to a delimiter or the end, is what is taken. -/
theorem takeWhile_run {tok behind : CStr} (hrun : ∀ c ∈ tok, d c = false)
    (hhead : ∀ c ∈ behind.head?, d c = true) :
    (tok ++ behind).takeWhile (fun c => !d c) = tok := by
  rw [List.takeWhile_append_of_pos fun c hc => by rw [hrun c hc]; rfl]
  cases behind with
  | nil => exact List.append_nil tok
  | cons c behind =>
      rw [List.takeWhile_cons_of_neg (by rw [hhead c rfl]; exact Bool.false_ne_true),
        List.append_nil]

/-- **The list holds exactly the maximal runs**, each at its place. -/
theorem mem_fieldsAt_iff {s : CStr} {field : Nat × CStr} :
    field ∈ fieldsAt d s ↔ IsField d s field := by
  obtain ⟨i, tok⟩ := field
  rw [mem_fieldsAt, startsField_iff]
  constructor
  · rintro ⟨hi, ⟨⟨c, hc, hhere⟩, hbefore⟩, rfl⟩
    have hlen : (s.take i).length = i := List.length_take_of_le (Nat.le_of_lt hi)
    refine ⟨?_, not_delim_of_run, s.take i, (s.drop i).dropWhile fun c => !d c, ?_, hlen, ?_,
      delim_of_behind_run⟩
    · have hdrop : s.drop i = c :: s.drop (i + 1) := by
        rw [List.drop_eq_getElem_cons hi, (List.getElem?_eq_some_iff.mp hc).2]
      show (s.drop i).takeWhile (fun c => !d c) ≠ []
      rw [hdrop, List.takeWhile_cons_of_pos (by rw [hhere]; rfl)]
      exact List.cons_ne_nil _ _
    · rw [List.takeWhile_append_dropWhile, List.take_append_drop]
    · intro x hx
      rw [List.getLast?_eq_getElem?, hlen] at hx
      rcases hbefore with rfl | ⟨y, hy, hdelim⟩
      · cases hx
      · by_cases h0 : i = 0
        · subst h0
          cases hx
        · rw [List.getElem?_take_of_lt (by omega), hy] at hx
          cases hx
          exact hdelim
  · rintro ⟨hne, hrun, before, behind, rfl, rfl, hlast, hhead⟩
    dsimp only at hne hrun ⊢
    have hdrop : (before ++ (tok ++ behind)).drop before.length = tok ++ behind := List.drop_left
    have hpos := List.length_pos_of_ne_nil hne
    refine ⟨?_, ⟨⟨tok.head hne, ?_, hrun _ (List.head_mem hne)⟩, ?_⟩, ?_⟩
    · rw [List.length_append, List.length_append]
      omega
    · rw [← List.head?_drop, hdrop, List.head?_append_of_ne_nil _ hne, List.head?_eq_some_head hne]
    · by_cases h0 : before = []
      · rw [h0]
        exact Or.inl rfl
      · have hb := List.length_pos_of_ne_nil h0
        refine Or.inr ⟨before.getLast h0, ?_, hlast _ (List.getLast?_eq_some_getLast h0)⟩
        rw [List.getElem?_append_left (by omega), ← List.getLast?_eq_getElem?,
          List.getLast?_eq_some_getLast h0]
    · rw [hdrop]
      exact takeWhile_run hrun hhead

/-! ## 2. One call -/

/-- The characters behind an index, counted from it. -/
theorem getElem?_of_drop {s t : CStr} {k : Nat} (h : s.drop k = t) (j : Nat) :
    s[k + j]? = t[j]? := by
  rw [← h, List.getElem?_drop]

/-- **One call from an edge** finds the next field with its place and stops at an edge, or there
    is none and the answer is the end. -/
theorem strtok_place {s : CStr} {k : Nat} (hk : Edge d s k) :
    (fieldsFrom d s k = [] ∧ (strtok d s k).1 = s.length) ∨
      ∃ i tok, strtok d s k = (i, tok) ∧ i < s.length ∧ Edge d s (i + tok.length) ∧
        fieldsFrom d s k = (i, tok) :: fieldsFrom d s (i + tok.length) := by
  rcases strtok_split d s k with ⟨hdelims, hcall⟩ | ⟨skipped, tok, behind, hdrop, hdelims, hne,
    hrun, hhead, hcall⟩
  · refine Or.inl ⟨?_, by rw [hcall]⟩
    rw [fieldsFrom_add (s.length - k), fieldsFrom_of_le (by omega)]
    intro j _
    refine startsField_of_delim fun c hc => hdelims c ?_
    rw [getElem?_of_drop rfl] at hc
    exact List.mem_of_getElem? hc
  · have hpos := List.length_pos_of_ne_nil hne
    have hat := getElem?_of_drop hdrop
    have hdrop' : s.drop (k + skipped.length) = tok ++ behind := by
      rw [← List.drop_drop, hdrop, List.drop_left]
    have hat' := getElem?_of_drop hdrop'
    have hlen : k + skipped.length < s.length := by
      have hlen := congrArg List.length hdrop'
      rw [List.length_drop, List.length_append] at hlen
      omega
    have hskip : fieldsFrom d s k = fieldsFrom d s (k + skipped.length) := by
      refine fieldsFrom_add _ fun j hj => startsField_of_delim fun c hc => ?_
      rw [hat, List.getElem?_append_left hj] at hc
      exact hdelims c (List.mem_of_getElem? hc)
    have hfirst : s[k + skipped.length]? = some (tok.head hne) := by
      rw [← List.head?_drop, hdrop', List.head?_append_of_ne_nil _ hne,
        List.head?_eq_some_head hne]
    have hstarts : startsField d s (k + skipped.length) = true := by
      have hno := hrun _ (List.head_mem hne)
      refine startsField_iff.mpr ⟨⟨tok.head hne, hfirst, hno⟩, ?_⟩
      by_cases h0 : skipped = []
      · -- nothing is skipped: a delimiter at the edge would be no start of the run
        subst h0
        rcases hk with rfl | hk
        · exact Or.inl rfl
        · rw [hk _ hfirst] at hno
          cases hno
      · have hs := List.length_pos_of_ne_nil h0
        refine Or.inr ⟨skipped.getLast h0, ?_, hdelims _ (List.getLast_mem h0)⟩
        rw [Nat.add_sub_assoc hs, hat, List.getElem?_append_left (by omega),
          ← List.getLast?_eq_getElem?, List.getLast?_eq_some_getLast h0]
    have hinside : fieldsFrom d s (k + skipped.length + 1) =
        fieldsFrom d s (k + skipped.length + tok.length) := by
      have hsucc : k + skipped.length + tok.length =
          k + skipped.length + 1 + (tok.length - 1) := by omega
      rw [hsucc]
      refine fieldsFrom_add _ fun j hj => ?_
      rw [Nat.add_right_comm]
      refine startsField_of_inside fun c hc => ?_
      rw [hat', List.getElem?_append_left (by omega)] at hc
      exact hrun c (List.mem_of_getElem? hc)
    refine Or.inr ⟨_, tok, hcall, hlen, Or.inr fun c hc => ?_, ?_⟩
    · rw [hat', List.getElem?_append_right (Nat.le_refl _), Nat.sub_self,
        ← List.head?_eq_getElem?] at hc
      exact hhead c hc
    · rw [hskip, fieldsFrom_of_starts hlen hstarts, hdrop', takeWhile_run hrun hhead, hinside]

/-- The call as the loop sees it. -/
theorem strtokLeft_place (left : CStr → Nat → CStr) {s : CStr} {k : Nat} (hk : Edge d s k) :
    (fieldsFrom d s k = [] ∧ (strtokLeft left d s k).1 = s.length) ∨
      ∃ i tok, strtokLeft left d s k = (i, tok) ∧ i < s.length ∧ Edge d s (i + tok.length) ∧
        fieldsFrom d s k = (i, tok) :: fieldsFrom d s (i + tok.length) := by
  unfold strtokLeft
  rcases strtok_place hk with ⟨hnil, hcall⟩ | ⟨i, tok, hcall, hlt, hedge, hfields⟩
  · rw [if_pos hcall]
    exact Or.inl ⟨hnil, rfl⟩
  · rw [hcall, if_neg (Nat.ne_of_lt hlt)]
    exact Or.inr ⟨i, tok, rfl, hlt, hedge, hfields⟩

/-- From an edge on, the texts of the fields are the fields of the rest. -/
theorem map_fieldsFrom {s : CStr} {k : Nat} (hk : Edge d s k) (hle : k ≤ s.length) :
    (fieldsFrom d s k).map Prod.snd = fields d (s.drop k) := by
  -- by what is left of the text: both take the token of the same call off the front
  induction hn : s.length - k using Nat.strong_induction_on generalizing k with
  | _ n ih =>
      subst hn
      rcases strtok_place hk with ⟨hnil, hend⟩ | ⟨i, tok, hcall, hlt, hedge, hplaces⟩
      · rcases strtok_next (d := d) s hle with ⟨hnone, -⟩ | ⟨i, tok, hcall, -, hne, hlen, -⟩
        · rw [hnil, hnone]
          rfl
        · have hpos := List.length_pos_of_ne_nil hne
          rw [hcall] at hend
          dsimp only at hend
          omega
      · rcases strtok_next (d := d) s hle with ⟨-, hend⟩ | ⟨j, t, hcall', hj, hne, hlen, hfields⟩
        · rw [hcall] at hend
          cases hend
          omega
        · rw [hcall] at hcall'
          cases hcall'
          have hpos := List.length_pos_of_ne_nil hne
          rw [hplaces, hfields, List.map_cons, ih _ (by omega) hedge hlen rfl]

/-- **Without their places they are the fields of the text.** -/
theorem map_fieldsAt (s : CStr) : (fieldsAt d s).map Prod.snd = fields d s :=
  map_fieldsFrom (Or.inl rfl) (Nat.zero_le _)

/-! ## 3. What a loop does to a list of fields -/

section Rounds

variable {α σ ρ : Type}

/-- The elements the body is run on, from left to right, and what is left of it: its state where
    the condition fails or the list ends, and else what it left the function with. -/
def rounds (more : σ → Bool) (body : σ → α → Except ρ σ) : σ → List α → List α × Except ρ σ
  | st, [] => ([], .ok st)
  | st, a :: as =>
    if more st then
      match body st a with
      | .error r => ([a], .error r)
      | .ok st' => (a :: (rounds more body st' as).1, (rounds more body st' as).2)
    else ([], .ok st)

variable {more : σ → Bool} {body : σ → α → Except ρ σ} {st : σ}

theorem rounds_of_done (as : List α) (h : more st = false) : rounds more body st as = ([], .ok st) := by
  cases as with
  | nil => rfl
  | cons a as => rw [rounds, h]; rfl

theorem rounds_cons_error {a : α} {r : ρ} (as : List α) (h : more st = true)
    (hb : body st a = .error r) : rounds more body st (a :: as) = ([a], .error r) := by
  rw [rounds, if_pos h, hb]

theorem rounds_cons_ok {a : α} {st' : σ} (as : List α) (h : more st = true)
    (hb : body st a = .ok st') :
    rounds more body st (a :: as) =
      (a :: (rounds more body st' as).1, (rounds more body st' as).2) := by
  rw [rounds, if_pos h, hb]

/-- Where the condition never fails, the result is the fold's. -/
theorem rounds_result (body : σ → α → Except ρ σ) (st : σ) (as : List α) :
    (rounds (fun _ => true) body st as).2 = as.foldlM body st := by
  induction as generalizing st with
  | nil => rfl
  | cons a as ih =>
      rw [List.foldlM_cons]
      cases hb : body st a with
      | error r =>
          rw [rounds_cons_error as rfl hb]
          rfl
      | ok st' =>
          rw [rounds_cons_ok as rfl hb]
          exact ih st'

/-- Where the body always goes on, it is run on every element. -/
theorem rounds_of_fold {st' : σ} {as : List α} (h : as.foldlM body st = .ok st') :
    rounds (fun _ => true) body st as = (as, .ok st') := by
  refine Prod.ext ?_ (by rw [rounds_result, h])
  induction as generalizing st with
  | nil => rfl
  | cons a as ih =>
      rw [List.foldlM_cons] at h
      cases hb : body st a with
      | error r =>
          rw [hb] at h
          cases h
      | ok st₁ =>
          rw [hb] at h
          rw [rounds_cons_ok as rfl hb, ih h]

end Rounds

/-! ## 4. The loop -/

/-- A loop over the tokeniser: the text and its delimiters, what a call that finds nothing leaves
    in the token, the second half of the loop condition, the body and its state before the
    loop. -/
structure TokenLoop (σ ρ : Type) where
  left : CStr → Nat → CStr
  d : Char → Bool
  s : CStr
  more : σ → Bool
  body : σ → Nat × CStr → Except ρ σ
  init : σ

/-- Where a loop stands: before the test of its condition, with the answer of the last call; or
    the body has left the function. -/
inductive LoopState (σ ρ : Type) where
  | test (found : Nat × CStr) (st : σ)
  | returned (r : ρ)

/-- What is left of the body's state. -/
def LoopState.result {σ ρ : Type} : LoopState σ ρ → Except ρ σ
  | .test _ st => .ok st
  | .returned r => .error r

namespace TokenLoop

variable {σ ρ : Type} (l : TokenLoop σ ρ)

/-- The call from `start` on. -/
def call (start : Nat) : Nat × CStr := strtokLeft l.left l.d l.s start

/-- The loop before its first test. -/
def start : LoopState σ ρ := .test (l.call 0) l.init

/-- What a round on the token leads to. -/
def next (found : Nat × CStr) : Except ρ σ → LoopState σ ρ
  | .error r => .returned r
  | .ok st => .test (l.call (found.1 + found.2.length)) st

/-- **One round**, where the condition holds: the body runs on the token of the last call, and the
    next call is made from its end. -/
def step : LoopState σ ρ → Nat × CStr → Option (LoopState σ ρ)
  | .test found st, visited =>
    if found.1 ≠ l.s.length ∧ l.more st = true ∧ visited = found then
      some (l.next found (l.body st found))
    else none
  | .returned _, _ => none

/-- The loop visits `vs`, in this order, and is over with `result`: whatever run of it, what was
    visited is a front part of `vs` (so no run has more rounds than `vs` has elements); a run that
    cannot go on has visited all of `vs`; and there is one that cannot go on. -/
structure Visits (vs : List (Nat × CStr)) (result : Except ρ σ) : Prop where
  inOrder : ∀ visited state, Run (Fn l.step) l.start visited state → visited <+: vs
  complete : ∀ visited state, Run (Fn l.step) l.start visited state → Over (Fn l.step) state →
    visited = vs ∧ state.result = result
  ends : ∃ state, Run (Fn l.step) l.start vs state ∧ Over (Fn l.step) state

/-- The loop from the state `st` on, over the fields `todo`. -/
def roundsFrom (st : σ) (todo : List (Nat × CStr)) : List (Nat × CStr) × Except ρ σ :=
  rounds l.more l.body st todo

/-- The answer of the last call, where `todo` is left. -/
def Answer (found : Nat × CStr) (todo : List (Nat × CStr)) : Prop :=
  (todo = [] ∧ found.1 = l.s.length) ∨
    (found.1 < l.s.length ∧ Edge l.d l.s (found.1 + found.2.length) ∧
      todo = found :: fieldsFrom l.d l.s (found.1 + found.2.length))

/-- **The invariant**: what was visited and what is left are what the whole text asks for. -/
def At (visited : List (Nat × CStr)) : LoopState σ ρ → Prop
  | .test found st => ∃ todo, l.Answer found todo ∧
    l.roundsFrom l.init (fieldsAt l.d l.s) =
      (visited ++ (l.roundsFrom st todo).1, (l.roundsFrom st todo).2)
  | .returned r => l.roundsFrom l.init (fieldsAt l.d l.s) = (visited, .error r)

variable {l}

theorem call_answer {k : Nat} (hk : Edge l.d l.s k) :
    l.Answer (l.call k) (fieldsFrom l.d l.s k) := by
  unfold Answer call
  rcases strtokLeft_place l.left hk with ⟨hnil, hcall⟩ | ⟨i, tok, hcall, hlt, hedge, hfields⟩
  · exact Or.inl ⟨hnil, hcall⟩
  · rw [hcall]
    exact Or.inr ⟨hlt, hedge, hfields⟩

theorem at_start : l.At [] l.start := ⟨_, call_answer (Or.inl rfl), rfl⟩

/-- What a round needs, and what it leads to. -/
theorem step_eq_some {found e : Nat × CStr} {st : σ} {state : LoopState σ ρ}
    (h : Fn l.step (.test found st) e state) :
    found.1 ≠ l.s.length ∧ l.more st = true ∧ e = found ∧
      state = l.next found (l.body st found) := by
  unfold Fn step at h
  rw [Option.ite_none_right_eq_some] at h
  obtain ⟨⟨hne, hmore, he⟩, hstate⟩ := h
  exact ⟨hne, hmore, he, (Option.some.inj hstate).symm⟩

/-- **One round keeps the invariant.** -/
theorem at_step {visited : List (Nat × CStr)} {state state' : LoopState σ ρ} {e : Nat × CStr}
    (hat : l.At visited state) (h : Fn l.step state e state') : l.At (visited ++ [e]) state' := by
  cases state with
  | returned r => cases h
  | test found st =>
      obtain ⟨hne, hmore, rfl, rfl⟩ := step_eq_some h
      obtain ⟨todo, hanswer, hwhole⟩ := hat
      rcases hanswer with ⟨-, hend⟩ | ⟨-, hedge, rfl⟩
      · exact absurd hend hne
      · cases hb : l.body st e with
        | error r =>
            -- the body leaves the function: nothing behind the token is asked for
            show l.roundsFrom l.init (fieldsAt l.d l.s) = (visited ++ [e], .error r)
            rw [hwhole, roundsFrom, rounds_cons_error _ hmore hb]
        | ok st' =>
            refine ⟨_, call_answer hedge, ?_⟩
            rw [hwhole, roundsFrom, rounds_cons_ok _ hmore hb, List.append_assoc]
            rfl

/-- **Every run keeps it.** -/
theorem at_run {visited : List (Nat × CStr)} {state : LoopState σ ρ}
    (h : Run (Fn l.step) l.start visited state) : l.At visited state :=
  h.keepsHist at_start fun _ _ _ _ _ hat hs => at_step hat hs

/-- What was visited is a front part of what the text asks for. -/
theorem at_prefix {visited : List (Nat × CStr)} {state : LoopState σ ρ}
    (h : l.At visited state) : visited <+: (l.roundsFrom l.init (fieldsAt l.d l.s)).1 := by
  cases state with
  | test found st =>
      obtain ⟨todo, -, hwhole⟩ := h
      rw [hwhole]
      exact List.prefix_append _ _
  | returned r =>
      show visited <+: (l.roundsFrom l.init (fieldsAt l.d l.s)).1
      rw [show l.roundsFrom l.init (fieldsAt l.d l.s) = (visited, .error r) from h]

/-- Where no round is possible nothing is left. -/
theorem at_over {visited : List (Nat × CStr)} {state : LoopState σ ρ} (h : l.At visited state)
    (hover : Over (Fn l.step) state) :
    l.roundsFrom l.init (fieldsAt l.d l.s) = (visited, state.result) := by
  cases state with
  | returned r => exact h
  | test found st =>
      obtain ⟨todo, hanswer, hwhole⟩ := h
      have hnone : l.roundsFrom st todo = ([], .ok st) := by
        rcases hanswer with ⟨rfl, -⟩ | ⟨hlt, -, -⟩
        · rfl
        · cases hmore : l.more st with
          | false => exact rounds_of_done todo hmore
          | true =>
              refine absurd ?_ (hover found (l.next found (l.body st found)))
              exact if_pos ⟨Nat.ne_of_lt hlt, hmore, rfl⟩
      show l.roundsFrom l.init (fieldsAt l.d l.s) = (visited, .ok st)
      rw [hwhole, hnone, List.append_nil]

/-- **The loop visits what the fields of its text ask for**, and is over with their result. -/
theorem visits {vs : List (Nat × CStr)} {result : Except ρ σ}
    (h : l.roundsFrom l.init (fieldsAt l.d l.s) = (vs, result)) : l.Visits vs result := by
  have hinOrder : ∀ visited state, Run (Fn l.step) l.start visited state → visited <+: vs := by
    intro visited state hrun
    have hprefix := at_prefix (at_run hrun)
    rwa [h] at hprefix
  have hcomplete : ∀ visited state, Run (Fn l.step) l.start visited state →
      Over (Fn l.step) state → visited = vs ∧ state.result = result := by
    intro visited state hrun hover
    have hwhole := at_over (at_run hrun) hover
    rw [h] at hwhole
    cases hwhole
    exact ⟨rfl, rfl⟩
  obtain ⟨visited, state, hrun, hover⟩ := Run.exists_over fun visited state hrun =>
    (hinOrder visited state hrun).length_le
  obtain ⟨rfl, -⟩ := hcomplete visited state hrun hover
  exact ⟨hinOrder, hcomplete, state, hrun, hover⟩

end TokenLoop

end CStr
