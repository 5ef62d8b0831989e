/-
  File:      Sippak/Lib/Printf.lean
  Subject:   FORMATTED TEXT: the conversions `%d`, `%u` and `%.*s`, and what `sprintf` and
             `snprintf` leave in a buffer.

  A format is written out as the concatenation of its pieces. `sprintf` has no result where the
  text and its terminating zero are longer than the buffer; `snprintf` stores what fits and
  returns the length the whole text has.

  * `decimal_showDec` -- a printed number reads back.
-/
import Sippak.Lib.CStr

namespace CStr

/-! ## 1. Conversions -/

/-- `%u`, and `%d` of a number that is not negative. -/
def showDec (n : Nat) : CStr := Nat.toDigits 10 n

/-- `%d`. -/
def showSigned : Int → CStr
  | .ofNat n => showDec n
  | .negSucc n => '-' :: showDec (n + 1)

/-- `%.*s` of a counted string: its bytes up to a zero byte. -/
def upToNul (s : CStr) : CStr := s.takeWhile fun c => c != '\x00'

theorem upToNul_of_noNul {s : CStr} (h : ∀ c ∈ s, c ≠ '\x00') : upToNul s = s :=
  List.takeWhile_eq_self_iff.mpr fun c hc => by simpa using h c hc

theorem upToNul_length_le (s : CStr) : (upToNul s).length ≤ s.length :=
  (List.takeWhile_prefix _).length_le

theorem upToNul_eq_self_iff {s : CStr} : upToNul s = s ↔ '\x00' ∉ s := by
  refine ⟨fun h hmem => ?_, fun h => upToNul_of_noNul fun c hc heq => h (heq ▸ hc)⟩
  rw [← h] at hmem
  have hno := List.mem_takeWhile_imp hmem
  simp at hno

/-- A front part without a zero byte is read through. -/
theorem upToNul_append {front : CStr} (h : '\x00' ∉ front) (behind : CStr) :
    upToNul (front ++ behind) = front ++ upToNul behind := by
  unfold upToNul
  refine List.takeWhile_append_of_pos fun c hc => ?_
  rw [bne_iff_ne]
  exact fun heq => h (heq ▸ hc)

theorem upToNul_cons_nul (s : CStr) : upToNul ('\x00' :: s) = [] := rfl

theorem showDec_ne_nil (n : Nat) : showDec n ≠ [] := Nat.toDigits_ne_nil

theorem isDigit_of_mem_showDec {n : Nat} {c : Char} (h : c ∈ showDec n) : isDigit c = true := by
  have hc := Nat.isDigit_of_mem_toDigits (by decide) (by decide) h
  unfold Char.isDigit at hc
  unfold isDigit
  simp only [Bool.and_eq_true, decide_eq_true_eq] at hc ⊢
  exact hc

theorem decimal_eq_ofDigitChars (s : CStr) : decimal s = Nat.ofDigitChars 10 s 0 := by
  rw [Nat.ofDigitChars_eq_foldl]
  unfold decimal digit
  congr 1
  funext v c
  rw [Nat.mul_comm]

/-- **A printed number reads back.** -/
theorem decimal_showDec (n : Nat) : decimal (showDec n) = n := by
  rw [decimal_eq_ofDigitChars]
  exact Nat.ofDigitChars_ten_toDigits

/-! ## 2. Buffers -/

/-- `sprintf(buf, ..)` into `size` bytes: the text; `none` = it is written past the last one. -/
def sprintf (size : Nat) (text : CStr) : Option CStr :=
  if text.length + 1 ≤ size then some text else none

/-- `snprintf(buf, size, ..)`: the bytes stored, the terminating zero with them, and the
    result. -/
def snprintf (size : Nat) (text : CStr) : CStr × Nat :=
  (if size = 0 then [] else text.take (size - 1) ++ ['\x00'], text.length)

/-! ## 3. IPv4 addresses -/

/-- `struct in_addr`: the four bytes, in network order. -/
structure InAddr where
  a : UInt8
  b : UInt8
  c : UInt8
  d : UInt8
  deriving DecidableEq, Repr

/-- `inet_ntop` for `AF_INET`. -/
def InAddr.text (addr : InAddr) : CStr :=
  showDec addr.a.toNat ++ '.' :: (showDec addr.b.toNat ++ '.' ::
    (showDec addr.c.toNat ++ '.' :: showDec addr.d.toNat))

end CStr
