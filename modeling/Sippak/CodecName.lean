/-
  File:      Sippak/CodecName.lean
  Subject:   THE NAMES OF THE CODECS: which token selects which codec (media_helper.c).

  `codecTable` is the chain of comparisons of `codec_str_parse` as a table. Its names are all
  different, and one of them, `g722.1`, stands behind a name it starts with: whoever asks for
  G.722.1 gets G.722.

  * `codecStrParse_eq` -- the function is the first match of the table;
  * `codecTable_hidden` -- the one name that can never be the first match;
  * `codecStrParse_answers_iff` -- so **the longest name decides except for tokens that start with
    the hidden one**.
-/
import Sippak.Lib.NameTable
import Sippak.CodecList

namespace Sippak

open CStr NameTable

/-- The comparisons of `codec_str_parse`, in their order. -/
def codecTable : List (CStr × Codec) :=
  [("speex".toList, .SIPPAK_CODEC_SPEEX), ("ilbc".toList, .SIPPAK_CODEC_ILBC),
    ("gsm".toList, .SIPPAK_CODEC_GSM), ("g711".toList, .SIPPAK_CODEC_G711),
    ("g722".toList, .SIPPAK_CODEC_G722), ("ipp".toList, .SIPPAK_CODEC_IPP),
    ("g722.1".toList, .SIPPAK_CODEC_G7221), ("l16".toList, .SIPPAK_CODEC_L16),
    ("amr".toList, .SIPPAK_CODEC_OCAMR), ("silk".toList, .SIPPAK_CODEC_SILK),
    ("opus".toList, .SIPPAK_CODEC_OPUS), ("bcg729".toList, .SIPPAK_CODEC_BCG729),
    ("all".toList, .SIPPAK_CODEC_ALL)]

/-! ## 1. The table -/

/-- **The function is the first match of the table.** -/
theorem codecStrParse_eq (tok : CStr) : codecStrParse tok = first codecTable tok := rfl

theorem codecTable_distinct : Distinct codecTable := by
  unfold Distinct
  decide

/-- **One name is hidden**, behind the shorter `g722`. -/
theorem codecTable_hidden : hidden codecTable = [("g722.1".toList, .SIPPAK_CODEC_G7221)] := by
  decide

/-- A text that starts with `g722.1` has no longer name to start with. -/
theorem longest_g7221 {tok : CStr} (h : startsIgnoreCase tok "g722.1".toList = true) :
    Longest codecTable tok ("g722.1".toList, .SIPPAK_CODEC_G7221) where
  mem := by decide
  starts := h
  longest := by
    have hbound : ∀ e ∈ codecTable, e.1.length ≤ "g722.1".toList.length := by decide
    exact fun e he _ => hbound e he

/-- No other codec's name starts like the hidden one. -/
theorem own_name_not_hidden {e : CStr × Codec} (he : e ∈ codecTable)
    (hne : e.2 ≠ .SIPPAK_CODEC_G7221) {tok : CStr} (h : eqIgnoreCase tok e.1 = true) :
    startsIgnoreCase tok "g722.1".toList = false := by
  have hothers : ∀ e ∈ codecTable, e.2 ≠ .SIPPAK_CODEC_G7221 →
      startsIgnoreCase e.1 "g722.1".toList = false := by decide
  rw [← hothers e he hne, Bool.eq_iff_iff, startsIgnoreCase_iff, startsIgnoreCase_iff,
    eqIgnoreCase_iff.mp h]

/-! ## 2. The longest name -/

theorem codecStrParse_ne_g7221 (tok : CStr) :
    codecStrParse tok ≠ some .SIPPAK_CODEC_G7221 := by
  intro h
  have hnamed := codecStrParse_named tok _ h (by decide)
  exact absurd hnamed (by decide)

/-- **The longest name decides**, and no name means no codec, except where the token starts with
    the hidden name. -/
theorem codecStrParse_answers_iff (tok : CStr) :
    Answers codecTable tok (codecStrParse tok) ↔
      startsIgnoreCase tok "g722.1".toList = false := by
  constructor
  · intro hans
    cases hs : startsIgnoreCase tok "g722.1".toList with
    | false => rfl
    | true =>
        have hright : Answers codecTable tok (some .SIPPAK_CODEC_G7221) := ⟨_, longest_g7221 hs⟩
        exact absurd (hans.unique codecTable_distinct hright) (codecStrParse_ne_g7221 tok)
  · intro hs
    rw [codecStrParse_eq]
    refine first_answers fun e he => ?_
    rw [codecTable_hidden, List.mem_singleton] at he
    rw [he]
    exact hs

/-- **Which tokens get the codec of the longest name**; and a token that is a codec's name, in any
    letter case, selects that codec unless it is the hidden one. -/
theorem codec_named_iff (tok : CStr) :
    (Answers codecTable tok (codecStrParse tok) ↔
      startsIgnoreCase tok "g722.1".toList = false) ∧
    ∀ e ∈ codecTable, eqIgnoreCase tok e.1 = true →
      (codecStrParse tok = some e.2 ↔ e.2 ≠ .SIPPAK_CODEC_G7221) := by
  refine ⟨codecStrParse_answers_iff tok, fun e he hown => ⟨fun hparse h => ?_, fun hne => ?_⟩⟩
  · rw [h] at hparse
    exact codecStrParse_ne_g7221 tok hparse
  · have hans := (codecStrParse_answers_iff tok).mpr (own_name_not_hidden he hne hown)
    have hright : Answers codecTable tok (some e.2) := ⟨e.1, Longest.own he hown⟩
    exact hans.unique codecTable_distinct hright

/-- `g722.1` selects G.722. -/
theorem g7221_is_g722 :
    codecStrParse "g722.1".toList = some .SIPPAK_CODEC_G722 ∧
      ¬ Answers codecTable "g722.1".toList (codecStrParse "g722.1".toList) := by
  refine ⟨by decide, fun hans => ?_⟩
  have hno := (codecStrParse_answers_iff "g722.1".toList).mp hans
  exact absurd hno (by decide)

end Sippak
