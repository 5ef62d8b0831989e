/-
  File:      Sippak/Lib/CStr.lean
  Subject:   C STRINGS AND COUNTED STRINGS: the string functions of the C library and of pjlib
             that a text-handling program uses, as functions on lists of characters.

  A C string is the list of its bytes before the terminating zero, one `Char` each; a counted
  string (`pj_str_t`) is such a list or NULL.

  * `trim`, `ltrim` -- white space is what `isspace` of the C locale says;
  * `eqIgnoreCase`, `startsIgnoreCase` -- `stricmp(a, b) == 0` and `strnicmp(a, b, strlen(b)) == 0`;
  * `cutAt` -- `strchr` and the two pieces it separates;
  * `strtok`, `forTokens` -- the index-based tokeniser and the loop written over it;
  * `strtoul`, `strtol`, `atoi` -- with the widths at which they wrap, saturate or truncate;
    `strtol_eq` and `atoi_eq` say them by the number a text starts with (`numeral`).
-/
import Mathlib.Algebra.Ring.Int.Defs
import Mathlib.Algebra.Ring.Nat
import Mathlib.Data.List.Basic
import Mathlib.Data.List.TakeWhile

/-- The bytes of a C string, without the terminating zero. -/
abbrev CStr := List Char

/-- A counted string; `none` is the NULL pointer with length 0. -/
abbrev PjStr := Option CStr

/-- The bytes a counted string covers. -/
def PjStr.text (s : PjStr) : CStr := s.getD []

/-- `%s` of its pointer, where a zero byte follows the text; glibc's `printf` takes NULL, too. -/
def PjStr.shown (s : PjStr) : CStr := s.getD "(null)".toList

/-- `slen`. -/
def PjStr.slen (s : PjStr) : Nat := s.text.length

namespace CStr

/-! ## 1. Characters -/

/-- `isspace` in the C locale: blank, \t, \n, \v, \f, \r. -/
def isSpace (c : Char) : Bool := c.toNat == 32 || (9 ≤ c.toNat && c.toNat ≤ 13)

def isDigit (c : Char) : Bool := '0' ≤ c && c ≤ '9'

/-- The value of a decimal digit. -/
def digit (c : Char) : Nat := c.toNat - '0'.toNat

/-! ## 2. Trimming, comparing, splitting -/

/-- Drop the leading white space. -/
def ltrim (s : CStr) : CStr := s.dropWhile isSpace

/-- Drop the leading and the trailing white space (`pj_strtrim`). -/
def trim (s : CStr) : CStr := ((ltrim s).reverse.dropWhile isSpace).reverse

/-- `stricmp(a, b) == 0`. -/
def eqIgnoreCase (a b : CStr) : Bool := a.map Char.toLower == b.map Char.toLower

/-- `strnicmp(s, name, strlen(name)) == 0`: `s` starts with `name`, ignoring case. -/
def startsIgnoreCase (s name : CStr) : Bool := eqIgnoreCase (s.take name.length) name

/-- The text before the first `c` and the text after it; `none` = there is no `c`. -/
def cutAt (c : Char) (s : CStr) : Option (CStr × CStr) :=
  if c ∈ s then some (s.takeWhile (· != c), (s.dropWhile (· != c)).tail) else none

/-- A text without white space is trimmed already. -/
theorem trim_eq_self {s : CStr} (h : ∀ c ∈ s, isSpace c = false) : trim s = s := by
  have hkeep : ∀ t : CStr, (∀ c ∈ t, isSpace c = false) → t.dropWhile isSpace = t := by
    intro t ht
    cases t with
    | nil => rfl
    | cons c t => exact List.dropWhile_cons_of_neg (by rw [ht c List.mem_cons_self]; decide)
  unfold trim ltrim
  rw [hkeep s h, hkeep s.reverse fun c hc => h c (List.mem_reverse.mp hc), List.reverse_reverse]

/-- What is left of the leading trim is the trimmed text and white space. -/
theorem ltrim_eq_trim_append (s : CStr) :
    ∃ w, ltrim s = trim s ++ w ∧ ∀ c ∈ w, isSpace c = true := by
  refine ⟨((ltrim s).reverse.takeWhile isSpace).reverse, ?_, ?_⟩
  · rw [trim, ← List.reverse_append, List.takeWhile_append_dropWhile, List.reverse_reverse]
  · intro c hc
    exact List.mem_takeWhile_imp (List.mem_reverse.mp hc)

theorem not_mem_iff_beq {x : Char} {s : CStr} : x ∉ s ↔ ∀ c ∈ s, (c == x) = false := by
  constructor
  · intro h c hc
    rw [beq_eq_false_iff_ne]
    intro e
    subst e
    exact h hc
  · intro h hmem
    have hno := h x hmem
    rw [beq_self_eq_true] at hno
    cases hno

/-- The text does not start with white space. -/
def NoLead (s : CStr) : Prop := ∀ c ∈ s.head?, isSpace c = false

theorem ltrim_of_noLead {s : CStr} (h : NoLead s) : ltrim s = s := by
  cases s with
  | nil => rfl
  | cons c s => exact List.dropWhile_cons_of_neg (by rw [h c rfl]; exact Bool.false_ne_true)

theorem ltrim_append_of_space {w : CStr} (h : ∀ c ∈ w, isSpace c = true) (s : CStr) :
    ltrim (w ++ s) = ltrim s := List.dropWhile_append_of_pos h

/-- White space in front of a character that is none does not reach behind it. -/
theorem ltrim_append_cons {c : Char} (h : isSpace c = false) (s t : CStr) :
    ltrim (s ++ c :: t) = ltrim s ++ c :: t := by
  unfold ltrim
  induction s with
  | nil => exact List.dropWhile_cons_of_neg (by rw [h]; exact Bool.false_ne_true)
  | cons x s ih =>
      rw [List.cons_append, List.dropWhile_cons, List.dropWhile_cons]
      split
      · exact ih
      · rfl

theorem notMem_ltrim {c : Char} {s : CStr} (h : c ∉ s) : c ∉ ltrim s :=
  fun hmem => h ((List.dropWhile_sublist isSpace).subset hmem)

/-- **The two pieces**: the text, and no separator in the first. -/
theorem cutAt_eq_some {c : Char} {s before behind : CStr} (h : cutAt c s = some (before, behind)) :
    s = before ++ c :: behind ∧ c ∉ before := by
  unfold cutAt at h
  split at h
  · rename_i hc
    cases h
    refine ⟨?_, fun hmem => ?_⟩
    · have hne : s.dropWhile (· != c) ≠ [] := by
        intro hnil
        have := List.dropWhile_eq_nil_iff.mp hnil c hc
        simp at this
      have hhead := List.head_dropWhile_not (· != c) hne
      have hc' : (s.dropWhile (· != c)).head hne = c := by simpa using hhead
      calc s = s.takeWhile (· != c) ++ s.dropWhile (· != c) :=
            List.takeWhile_append_dropWhile.symm
        _ = s.takeWhile (· != c) ++ c :: (s.dropWhile (· != c)).tail := by
            rw [← List.cons_head_tail hne, hc', List.tail_cons]
    · have := List.mem_takeWhile_imp hmem
      simp at this
  · cases h

/-- Cutting at the separator that was put in. -/
theorem cutAt_append {c : Char} {before : CStr} (h : c ∉ before) (behind : CStr) :
    cutAt c (before ++ c :: behind) = some (before, behind) := by
  have hall : ∀ x ∈ before, (x != c) = true := by
    intro x hx
    rw [bne_iff_ne]
    intro e
    subst e
    exact h hx
  have htake : (before ++ c :: behind).takeWhile (· != c) = before := by
    rw [List.takeWhile_append_of_pos hall, List.takeWhile_cons_of_neg (by simp), List.append_nil]
  have hdrop : (before ++ c :: behind).dropWhile (· != c) = c :: behind := by
    rw [List.dropWhile_append_of_pos hall, List.dropWhile_cons_of_neg (by simp)]
  unfold cutAt
  rw [if_pos (by simp), htake, hdrop, List.tail_cons]

theorem cutAt_eq_none_iff {c : Char} {s : CStr} : cutAt c s = none ↔ c ∉ s := by
  unfold cutAt
  split
  · rename_i hc
    simp [hc]
  · rename_i hc
    simp [hc]

theorem eqIgnoreCase_refl (a : CStr) : eqIgnoreCase a a = true := beq_self_eq_true _

theorem eqIgnoreCase_iff {a b : CStr} :
    eqIgnoreCase a b = true ↔ a.map Char.toLower = b.map Char.toLower := by
  rw [eqIgnoreCase, beq_iff_eq]

/-- White space has no letter case. -/
theorem isSpace_toLower (c : Char) : isSpace c.toLower = isSpace c := by
  unfold Char.toLower
  split
  · rename_i h
    have hlo : 65 ≤ c.toNat := UInt32.le_iff_toNat_le.mp h.1
    have hhi : c.toNat ≤ 90 := UInt32.le_iff_toNat_le.mp h.2
    have hval : (c.val + ('a'.val - 'A'.val)).toNat = c.toNat + 32 := by
      rw [UInt32.toNat_add]
      show (c.toNat + 32) % 2 ^ 32 = _
      omega
    unfold isSpace
    rw [Bool.eq_iff_iff]
    simp only [Char.toNat, Bool.or_eq_true, beq_iff_eq, Bool.and_eq_true, decide_eq_true_eq, hval]
    simp only [Char.toNat] at hlo hhi
    omega
  · rfl

/-- Trimming keeps the letter case, and looks at none. -/
theorem map_trim (s : CStr) : (trim s).map Char.toLower = trim (s.map Char.toLower) := by
  have hspace : isSpace ∘ Char.toLower = isSpace := funext isSpace_toLower
  unfold trim ltrim
  simp only [List.dropWhile_map, hspace, ← List.map_reverse]

theorem eqIgnoreCase_trim {a b : CStr} (h : eqIgnoreCase a b = true) :
    eqIgnoreCase (trim a) (trim b) = true := by
  rw [eqIgnoreCase_iff] at h ⊢
  rw [map_trim, map_trim, h]
theorem eqIgnoreCase_comm (a b : CStr) : eqIgnoreCase a b = eqIgnoreCase b a := by
  rw [Bool.eq_iff_iff, eqIgnoreCase_iff, eqIgnoreCase_iff, eq_comm]

/-- `strnicmp` against a name: the name, in any case, is what the text starts with. -/
theorem startsIgnoreCase_iff {s name : CStr} :
    startsIgnoreCase s name = true ↔ name.map Char.toLower <+: s.map Char.toLower := by
  rw [startsIgnoreCase, eqIgnoreCase_iff, List.map_take, List.prefix_iff_eq_take,
    List.length_map, eq_comm]

/-- What starts with a longer name starts with the shorter one. -/
theorem startsIgnoreCase_of_append {s name more : CStr}
    (h : startsIgnoreCase s (name ++ more) = true) : startsIgnoreCase s name = true := by
  rw [startsIgnoreCase_iff] at h ⊢
  rw [List.map_append] at h
  exact (List.prefix_append _ _).trans h

/-- Of two names a text can start with, one starts with the other. -/
theorem startsIgnoreCase_both {s name name' : CStr} (h : startsIgnoreCase s name = true)
    (h' : startsIgnoreCase s name' = true) :
    name.map Char.toLower <+: name'.map Char.toLower ∨
      name'.map Char.toLower <+: name.map Char.toLower :=
  List.prefix_or_prefix_of_prefix (startsIgnoreCase_iff.mp h) (startsIgnoreCase_iff.mp h')

theorem startsIgnoreCase_of_eq {s name : CStr} (h : eqIgnoreCase s name = true) :
    startsIgnoreCase s name = true :=
  startsIgnoreCase_iff.mpr (eqIgnoreCase_iff.mp h ▸ List.prefix_refl _)

/-- What does not start with a name is not the name. -/
theorem eqIgnoreCase_of_starts {s name : CStr} (h : startsIgnoreCase s name = false) :
    eqIgnoreCase s name = false := by
  rw [Bool.eq_false_iff]
  intro heq
  rw [startsIgnoreCase_of_eq heq] at h
  cases h

/-! ## 3. Tokens -/

/-- `strtok(s, d, &tok, start)`: skip delimiters from `start`; the index of the token and the
    token, or the length of `s` and an empty token when nothing is left. -/
def strtok (d : Char → Bool) (s : CStr) (start : Nat) : Nat × CStr :=
  let rest := s.drop start
  let skipped := (rest.takeWhile d).length
  let tok := (rest.drop skipped).takeWhile fun c => !d c
  if tok = [] then (s.length, []) else (start + skipped, tok)

/-- The call with the token as it is left behind: where there is none, what `left` says the
    library has put there. -/
def strtokLeft (left : CStr → Nat → CStr) (d : Char → Bool) (s : CStr) (start : Nat) :
    Nat × CStr :=
  if (strtok d s start).1 = s.length then (s.length, left s start) else strtok d s start

/-- What `pj_strtok` leaves where it finds no token: the rest of the text. -/
def restLeft (s : CStr) (start : Nat) : CStr := s.drop start

/-- `for (i = strtok(s, d, &tok, 0); i != len; i = strtok(s, d, &tok, i + tok.len)) body`.
    An error of the body leaves the loop; `fuel` bounds the number of rounds. -/
def forTokens {σ ρ : Type} (d : Char → Bool) (s : CStr) (body : σ → CStr → Except ρ σ) :
    Nat → Nat → σ → Except ρ σ
  | 0, _, st => .ok st
  | fuel + 1, start, st =>
    if (strtok d s start).1 = s.length then .ok st
    else match body st (strtok d s start).2 with
      | .error r => .error r
      | .ok st' => forTokens d s body fuel ((strtok d s start).1 + (strtok d s start).2.length) st'

/-! ## 4. Numbers -/

/-- Reduce to a signed number of `2 ^ 64` values, as a conversion to `long` does. -/
def toLong (n : Int) : Int := n.bmod (2 ^ 64)

/-- Reduce to a signed number of `2 ^ 32` values, as a conversion to `int` does. -/
def toInt (n : Int) : Int := n.bmod (2 ^ 32)

/-- The leading decimal digits, accumulated in 64 bits without a sign. -/
def strtoul (s : CStr) : Nat :=
  (s.takeWhile isDigit).foldl (fun v c => (v * 10 + digit c) % 2 ^ 64) 0

/-- An optional sign and the leading decimal digits, as a 64-bit `long`. -/
def strtol : CStr → Int
  | '-' :: s => toLong (-(strtoul s : Int))
  | '+' :: s => toLong (strtoul s)
  | s => toLong (strtoul s)

/-- The number a run of decimal digits denotes. -/
def decimal (s : CStr) : Nat := s.foldl (fun v c => v * 10 + digit c) 0

/-- The number a text starts with: an optional sign and the digits behind it, of any length. -/
def numeral : CStr → Int
  | '-' :: s => -(decimal (s.takeWhile isDigit) : Int)
  | '+' :: s => decimal (s.takeWhile isDigit)
  | s => decimal (s.takeWhile isDigit)

/-- `atoi` of glibc: skip white space, read a sign and the digits saturating at the limits of a
    64-bit `long`, convert to `int`. -/
def atoi (s : CStr) : Int :=
  match ltrim s with
  | '-' :: t => toInt (max (-(decimal (t.takeWhile isDigit) : Int)) (-(2 ^ 63)))
  | '+' :: t => toInt (min (decimal (t.takeWhile isDigit)) (2 ^ 63 - 1))
  | t => toInt (min (decimal (t.takeWhile isDigit)) (2 ^ 63 - 1))

/-- Reducing after each digit or once at the end is the same. -/
theorem strtoul_eq (s : CStr) : strtoul s = decimal (s.takeWhile isDigit) % 2 ^ 64 := by
  have hfold : ∀ (l : CStr) (v : Nat),
      l.foldl (fun v c => (v * 10 + digit c) % 2 ^ 64) (v % 2 ^ 64) =
        l.foldl (fun v c => v * 10 + digit c) v % 2 ^ 64 := by
    intro l
    induction l with
    | nil => exact fun _ => rfl
    | cons c l ih =>
        intro v
        have hstep : (v % 2 ^ 64 * 10 + digit c) % 2 ^ 64 = (v * 10 + digit c) % 2 ^ 64 := by
          omega
        rw [List.foldl_cons, List.foldl_cons, hstep, ih]
  exact hfold (s.takeWhile isDigit) 0

/-- **`strtol` is the number the text starts with**, reduced to a `long`. -/
theorem strtol_eq (s : CStr) : strtol s = toLong (numeral s) := by
  have hmod : ∀ n : Nat, toLong ((n % 2 ^ 64 : Nat) : Int) = toLong n := fun n =>
    Int.emod_bmod n (2 ^ 64)
  have hneg : ∀ n : Nat, toLong (-((n % 2 ^ 64 : Nat) : Int)) = toLong (-(n : Int)) := by
    intro n
    have h : (0 - (n : Int) % (2 ^ 64 : Nat)).bmod (2 ^ 64) = (0 - (n : Int)).bmod (2 ^ 64) :=
      Int.sub_emod_bmod 0 (2 ^ 64)
    rw [Int.zero_sub, Int.zero_sub] at h
    exact h
  unfold strtol numeral
  split
  · rw [strtoul_eq, hneg]
  · rw [strtoul_eq, hmod]
  · rw [strtoul_eq, hmod]

/-- A `long` made an `int` is the number made an `int`. -/
theorem toInt_strtol_eq (s : CStr) : toInt (strtol s) = toInt (numeral s) := by
  rw [strtol_eq]
  exact Int.bmod_bmod_of_dvd (by decide)

/-- White space is no digit. -/
theorem isDigit_of_isSpace {c : Char} (h : isSpace c = true) : isDigit c = false := by
  rw [isSpace, Bool.or_eq_true, beq_iff_eq, Bool.and_eq_true, decide_eq_true_iff,
    decide_eq_true_iff] at h
  rw [isDigit, Bool.and_eq_false_iff]
  refine Or.inl (decide_eq_false fun hle => ?_)
  have h0 : '0'.toNat ≤ c.toNat := hle
  have h48 : '0'.toNat = 48 := rfl
  omega

/-- A text that starts with white space starts with no number. -/
theorem numeral_of_lead {c : Char} {s : CStr} (h : isSpace c = true) : numeral (c :: s) = 0 := by
  unfold numeral
  split
  · rename_i heq
    cases heq
    exact absurd h (by decide)
  · rename_i heq
    cases heq
    exact absurd h (by decide)
  · rw [List.takeWhile_cons_of_neg (by rw [isDigit_of_isSpace h]; exact Bool.noConfusion)]
    rfl

/-- Digits with white space behind them start with the number they are. -/
theorem numeral_digits_append {t w : CStr} (ht : ∀ c ∈ t, isDigit c = true)
    (hw : ∀ c ∈ w, isSpace c = true) : numeral (t ++ w) = decimal t := by
  have hrun : (t ++ w).takeWhile isDigit = t := by
    rw [List.takeWhile_append_of_pos ht]
    cases w with
    | nil => exact List.append_nil t
    | cons c w =>
        have hc := isDigit_of_isSpace (hw c List.mem_cons_self)
        rw [List.takeWhile_cons_of_neg (by rw [hc]; exact Bool.noConfusion), List.append_nil]
  -- a sign is neither a digit nor white space
  have hsign : ∀ c, isDigit c = false → isSpace c = false → c ∉ t ++ w := by
    intro c hd hs hmem
    rcases List.mem_append.mp hmem with hmem | hmem
    · rw [ht c hmem] at hd
      cases hd
    · rw [hw c hmem] at hs
      cases hs
  unfold numeral
  split
  · rename_i s heq
    exact absurd (heq ▸ List.mem_cons_self) (hsign '-' (by decide) (by decide))
  · rename_i s heq
    exact absurd (heq ▸ List.mem_cons_self) (hsign '+' (by decide) (by decide))
  · rw [hrun]

/-- **`atoi` is the number the text starts with**, saturated to a `long`, then made an `int`. -/
theorem atoi_eq (s : CStr) :
    atoi s = toInt (max (min (numeral (ltrim s)) (2 ^ 63 - 1)) (-(2 ^ 63))) := by
  unfold atoi numeral
  split <;> exact congrArg toInt (by omega)

/-- `int` by the remainder. -/
theorem toInt_eq (n : Int) :
    toInt n = if n % 4294967296 < 2147483648 then n % 4294967296
      else n % 4294967296 - 4294967296 :=
  Int.bmod_def n (2 ^ 32)

/-- The numbers an `int` holds. -/
def FitsInt (n : Int) : Prop := -(2 ^ 31) ≤ n ∧ n < 2 ^ 31

theorem toInt_of_fits {n : Int} (h : FitsInt n) : toInt n = n := by
  obtain ⟨hlo, hhi⟩ := h
  rw [toInt_eq]
  split <;> omega

end CStr
