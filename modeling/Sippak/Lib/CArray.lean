/-
  File:      Sippak/Lib/CArray.lean
  Subject:   READING TEXT OUT OF A CHARACTER ARRAY that need not hold a terminated string.

  A pointer into an array is the list of the bytes from it to the array's end. What reads up to a
  zero byte has no result (`none`) where there is no zero byte up to that end.

  * `strchr_front`, `readPrec_front`, `readPrec_neg` -- what is read off a known front part;
  * `fillFront` -- text written over the front, the bytes behind it left as they were.
-/
import Sippak.Lib.Printf

namespace CStr

/-- `%s`: the bytes up to the first zero byte. -/
def readStr (a : CStr) : Option CStr := if '\x00' ∈ a then some (upToNul a) else none

/-- `strchr(a, c)`, as an index; the inner `none` is NULL. -/
def strchr (c : Char) (a : CStr) : Option (Option Nat) :=
  if c ∈ upToNul a then some (some (a.takeWhile (· != c)).length)
  else if '\x00' ∈ a then some none
  else none

/-- `%.*s`: at most `prec` bytes, up to a zero byte; with a negative `prec` it is `%s`. -/
def readPrec (prec : Int) (a : CStr) : Option CStr :=
  if prec < 0 then readStr a
  else if prec.toNat ≤ a.length ∨ '\x00' ∈ a then some (upToNul (a.take prec.toNat))
  else none

/-- The text is written over the front of the array, without a zero byte behind it. -/
def fillFront (text a : CStr) : CStr := text ++ a.drop text.length

section Reading

variable {a front behind : CStr}

/-- **The first `c` behind a front part** that has neither it nor a zero byte. -/
theorem strchr_front {c : Char} (hc : c ≠ '\x00') (hfront : c ∉ front) (hnul : '\x00' ∉ front) :
    strchr c (front ++ c :: behind) = some (some front.length) := by
  have hmem : c ∈ upToNul (front ++ c :: behind) := by
    rw [upToNul_append hnul]
    refine List.mem_append_right front ?_
    unfold upToNul
    rw [List.takeWhile_cons_of_pos (by rw [bne_iff_ne]; exact hc)]
    exact List.mem_cons_self
  have hrun : (front ++ c :: behind).takeWhile (· != c) = front := by
    rw [List.takeWhile_append_of_pos fun x hx => by
      rw [bne_iff_ne]
      exact fun heq => hfront (heq ▸ hx)]
    rw [List.takeWhile_cons_of_neg (by simp), List.append_nil]
  unfold strchr
  rw [if_pos hmem, hrun]

/-- A zero byte in front: there is no `c`, and the string is empty. -/
theorem strchr_cons_nul (c : Char) (s : CStr) : strchr c ('\x00' :: s) = some none := by
  unfold strchr
  rw [upToNul_cons_nul, if_neg List.not_mem_nil, if_pos List.mem_cons_self]

theorem readStr_cons_nul (s : CStr) : readStr ('\x00' :: s) = some [] := by
  unfold readStr
  rw [if_pos List.mem_cons_self, upToNul_cons_nul]

/-- **A precision that ends at the front part's end** reads the front part up to its zero byte. -/
theorem readPrec_front (front behind : CStr) :
    readPrec front.length (front ++ behind) = some (upToNul front) := by
  have hle : front.length ≤ (front ++ behind).length := by
    rw [List.length_append]
    exact Nat.le_add_right _ _
  unfold readPrec
  rw [if_neg (by omega), Int.toNat_natCast, if_pos (Or.inl hle), List.take_left]

/-- **A negative precision is none**: the array is read up to a zero byte. -/
theorem readPrec_neg {prec : Int} (h : prec < 0) (a : CStr) : readPrec prec a = readStr a :=
  if_pos h

/-- The string of an array that is zeroed from `n` on is no longer than `n`. -/
theorem upToNul_length_le_of_drop {n : Nat} (h : ∀ c ∈ a.drop n, c = '\x00') :
    (upToNul a).length ≤ n := by
  induction a generalizing n with
  | nil => exact Nat.zero_le n
  | cons c a ih =>
      cases n with
      | zero =>
          have hc : c = '\x00' := h c List.mem_cons_self
          rw [hc, upToNul_cons_nul]
          exact Nat.le_refl 0
      | succ n =>
          unfold upToNul
          rw [List.takeWhile_cons]
          split
          · exact Nat.succ_le_succ (ih h)
          · exact Nat.zero_le _

/-- A zero byte in the front part ends the string there. -/
theorem upToNul_append_of_nul (h : '\x00' ∈ front) (behind : CStr) :
    upToNul (front ++ behind) = upToNul front := by
  unfold upToNul
  rw [List.takeWhile_append, if_neg]
  intro hall
  have hself : front.takeWhile (· != '\x00') = front :=
    (List.takeWhile_prefix _).eq_of_length hall
  exact upToNul_eq_self_iff.mp hself h

theorem length_fillFront {text a : CStr} (h : text.length ≤ a.length) :
    (fillFront text a).length = a.length := by
  rw [fillFront, List.length_append, List.length_drop]
  omega

end Reading

end CStr
