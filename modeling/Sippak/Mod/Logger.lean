/-
  File:      Sippak/Mod/Logger.lean
  Subject:   THE HEADERS IN THE MESSAGE LOG (mod/logger.c): `print_sipmsg_headers` and the two
             functions it prints with.

  One array of 512 bytes serves all headers of a message. `print_on` is pjsip's (`HdrLib`): it
  fills the front of the array and returns the length; where the text does not fit it returns -1
  and leaves the array, and what is printed then is read out of what an earlier header left there.

  * `printGenericHeader_stored` -- a header that fits is printed from the array;
  * `printGenericHeader_fresh` -- without an earlier one a header that does not fit is an error;
  * `printGenericHeader_stale` -- behind one that fits it is never shown;
  * `headers_shown_iff` -- **when every header is shown**.
-/
import Sippak.Lib.CArray
import Sippak.App

namespace Sippak

open CStr

namespace Logger

def NAME : CStr := "mod_logger".toList

end Logger

/-! ## 1. Headers -/

/-- The name of a header: a token, so neither a colon nor a zero byte is in it. -/
structure HdrName where
  text : CStr
  token : ':' ∉ text ∧ '\x00' ∉ text

/-- A header of a message, with the name it is printed under and the text of its value. -/
inductive SipHdr where
  | PJSIP_H_CALL_ID (name : HdrName) (id : CStr)
  | other (name : HdrName) (value : CStr)

def SipHdr.isCallId : SipHdr → Bool
  | .PJSIP_H_CALL_ID .. => true
  | .other .. => false

/-- What `print_on` writes: name, colon, value. -/
def SipHdr.text : SipHdr → CStr
  | .PJSIP_H_CALL_ID name id => name.text ++ ':' :: ' ' :: id
  | .other name value => name.text ++ ':' :: value

/-- pjsip's `hdr->vptr->print_on(hdr, buf, size)`: the array and the length, or -1 and the array as
    it was. A header may need more bytes than its text has; what needs more is longer. -/
structure HdrLib where
  printOn : SipHdr → CStr → Nat → CStr × Int
  hdrRoom : SipHdr → Nat
  text_le : ∀ hdr, hdr.text.length ≤ hdrRoom hdr
  printsOn : ∀ hdr buf size, printOn hdr buf size =
    if hdrRoom hdr ≤ size then (fillFront hdr.text buf, (hdr.text.length : Int)) else (buf, -1)
  longer : ∀ hdr hdr', hdrRoom hdr < hdrRoom hdr' → hdr.text.length < hdr'.text.length

/-- Where a header needs no more than its text has. -/
def HdrLib.exact : HdrLib where
  printOn hdr buf size :=
    if hdr.text.length ≤ size then (fillFront hdr.text buf, hdr.text.length) else (buf, -1)
  hdrRoom hdr := hdr.text.length
  text_le := fun _ => Nat.le_refl _
  printsOn := fun _ _ _ => rfl
  longer := fun _ _ h => h

/-- The headers of a message, one Call-ID among them. -/
structure SipMsg where
  hdrs : List SipHdr
  oneCallId : hdrs.countP SipHdr.isCallId = 1

/-- The name and the id of a Call-ID header. -/
def SipHdr.callId : SipHdr → Option (HdrName × CStr)
  | .PJSIP_H_CALL_ID name id => some (name, id)
  | .other .. => none

/-- The header goes through the array, and fits. -/
def SipHdr.Stored (lib : HdrLib) (hdr : SipHdr) : Prop :=
  hdr.isCallId = false ∧ lib.hdrRoom hdr ≤ 512

/-- The header goes through the array, and does not fit. -/
def SipHdr.TooLong (lib : HdrLib) (hdr : SipHdr) : Prop :=
  hdr.isCallId = false ∧ 512 < lib.hdrRoom hdr

/-- `PJSIP_MSG_CID_HDR(msg)`: the first Call-ID. -/
def SipMsg.cidHdr (msg : SipMsg) : Option (HdrName × CStr) := msg.hdrs.findSome? SipHdr.callId

section Fits

variable {lib : HdrLib} {hdr : SipHdr}

/-- A Call-ID does not go through the array. -/
theorem SipHdr.not_stored_of_callId (h : hdr.isCallId = true) : ¬ hdr.Stored lib := by
  rintro ⟨hno, -⟩
  rw [h] at hno
  cases hno

theorem SipHdr.not_tooLong_of_callId (h : hdr.isCallId = true) : ¬ hdr.TooLong lib := by
  rintro ⟨hno, -⟩
  rw [h] at hno
  cases hno

theorem SipHdr.not_tooLong_of_fits (h : lib.hdrRoom hdr ≤ 512) : ¬ hdr.TooLong lib :=
  fun hlong => Nat.not_lt_of_le h hlong.2

theorem SipHdr.text_pos (hdr : SipHdr) : 0 < hdr.text.length := by
  cases hdr with
  | PJSIP_H_CALL_ID name id | other name value =>
      rw [SipHdr.text, List.length_append]
      exact Nat.add_pos_right _ (Nat.zero_lt_succ _)

/-- A header that fits is stored, -/
theorem HdrLib.printOn_fits {size : Nat} (h : lib.hdrRoom hdr ≤ size) (buf : CStr) :
    lib.printOn hdr buf size = (fillFront hdr.text buf, (hdr.text.length : Int)) := by
  rw [lib.printsOn, if_pos h]

/-- and one that does not leaves the array. -/
theorem HdrLib.printOn_short {size : Nat} (h : ¬ lib.hdrRoom hdr ≤ size) (buf : CStr) :
    lib.printOn hdr buf size = (buf, -1) := by
  rw [lib.printsOn, if_neg h]

end Fits

/-! ## 2. The terminal -/

inductive Color where
  | COLOR_BRIGHT_WHITE | COLOR_GREEN | COLOR_RED | COLOR_YELLOW | COLOR_BRIGHT_BLUE
  deriving DecidableEq, Repr

/-- What reaches the terminal: the sequences that set and restore its color, text, and lines of
    the log. -/
inductive Out where
  | setColor (color : Color)
  | restoreColor
  | print (text : CStr)
  | log (line : LogLine)
  deriving DecidableEq, Repr

/-- The switches of the module: the first of the library's build, the others set by
    `sippak_mod_logger_register`. -/
structure Term where
  PJ_TERM_HAS_COLOR : Bool
  ENABLE_COLORS : Bool
  PRINT_TRAIL_CHR : Bool
  deriving DecidableEq, Repr

/-- `TRAIL_CHR`. -/
def TRAIL_CHR : Char := '.'

namespace Term

variable (t : Term)

/-- `term_set_color`. -/
def termSetColor (color : Color) : List Out :=
  if t.ENABLE_COLORS && t.PJ_TERM_HAS_COLOR then [.setColor color] else []

/-- `term_restore_color`. -/
def termRestoreColor : List Out :=
  if t.ENABLE_COLORS && t.PJ_TERM_HAS_COLOR then [.restoreColor] else []

/-- `PRINT_COLOR`. -/
def printColor (color : Color) (text : CStr) : List Out := t.termSetColor color ++ [.print text]

/-- `print_trail_chr`. -/
def printTrailChr : List Out :=
  (if t.PRINT_TRAIL_CHR then t.printColor .COLOR_BRIGHT_WHITE [TRAIL_CHR] else []) ++
    [.print "\n".toList]

/-- `print_hdr_clid`. -/
def printHdrClid : Option (HdrName × CStr) → List Out
  | none => [.log ⟨1, Logger.NAME, "Failed to extract Call-ID header!".toList⟩]
  | some (name, id) =>
    t.printColor .COLOR_GREEN (upToNul name.text) ++ t.printColor .COLOR_RED ": ".toList ++
      t.printColor .COLOR_BRIGHT_BLUE (upToNul id) ++ t.printTrailChr ++ t.termRestoreColor

/-- The name and the value of a header, as `print_generic_header` prints them. -/
def printNameValue (hname hval : CStr) : List Out :=
  t.printColor .COLOR_GREEN hname ++ t.printColor .COLOR_RED ":".toList ++
    t.printColor .COLOR_YELLOW hval ++ t.printTrailChr ++ t.termRestoreColor

/-- `print_generic_header`, of a pointer to the start of an array; a read that goes past the end of
    the array is `.outOfBounds`. -/
def printGenericHeader (header : CStr) (len : Int) : Except Abort (List Out) :=
  match strchr ':' header with
  | none => .error .outOfBounds
  | some none =>
    match readStr header with
    | none => .error .outOfBounds
    | some text => .ok [.log ⟨1, Logger.NAME, "Invalid SIP header: ".toList ++ text⟩]
  | some (some hnameLen) =>
    let hvalLen := len - hnameLen - 1
    match readPrec hnameLen header, readPrec hvalLen (header.drop (hnameLen + 1)) with
    | some hname, some hval => .ok (t.printNameValue hname hval)
    | _, _ => .error .outOfBounds

/-- The loop of `print_sipmsg_headers` from the array `value` on: what each round prints. -/
def printSipmsgHeadersFrom (lib : HdrLib) (cid : Option (HdrName × CStr)) :
    List SipHdr → CStr → Except Abort (List (List Out))
  | [], _ => .ok []
  | hdr :: hdrs, value =>
    if hdr.isCallId then
      match printSipmsgHeadersFrom lib cid hdrs value with
      | .error e => .error e
      | .ok parts => .ok (t.printHdrClid cid :: parts)
    else
      let (value, len) := lib.printOn hdr value 512
      match t.printGenericHeader value len with
      | .error e => .error e
      | .ok part =>
        match printSipmsgHeadersFrom lib cid hdrs value with
        | .error e => .error e
        | .ok parts => .ok (part :: parts)

/-- `char value[512] = {0}`. -/
def zeroed : CStr := List.replicate 512 '\x00'

/-- `print_sipmsg_headers`. -/
def printSipmsgHeaders (lib : HdrLib) (msg : SipMsg) : Except Abort (List (List Out)) :=
  t.printSipmsgHeadersFrom lib msg.cidHdr msg.hdrs zeroed

end Term

/-! ## 3. What is shown -/

/-- The text of an output, whatever its color. -/
def Out.printed : Out → CStr
  | .print text => text
  | _ => []

def shown (out : List Out) : CStr := out.flatMap Out.printed

@[simp] theorem shown_append (out out' : List Out) :
    shown (out ++ out') = shown out ++ shown out' :=
  List.flatMap_append

@[simp] theorem shown_print (text : CStr) : shown [.print text] = text := List.append_nil text

/-- No header that does not fit stands behind one that does, and no zero byte is in the others. -/
def Showable (lib : HdrLib) (hdrs : List SipHdr) : Prop :=
  hdrs.Pairwise (fun a b => a.Stored lib → ¬ b.TooLong lib) ∧
    ∀ hdr ∈ hdrs, ¬ hdr.TooLong lib → '\x00' ∉ hdr.text

/-- The array is zeroed behind some length, and each header that does not fit is longer. -/
def ZeroBehind (lib : HdrLib) (value : CStr) : Prop :=
  ∃ n, (∀ c ∈ value.drop n, c = '\x00') ∧ ∀ hdr, 512 < lib.hdrRoom hdr → n < hdr.text.length

/-- The array holds what an earlier header left there. -/
structure Holding (lib : HdrLib) (value : CStr) : Prop where
  size : value.length = 512
  front : ∃ (name : HdrName) (behind : CStr), value = name.text ++ ':' :: behind
  behind : ZeroBehind lib value

section Array

variable {lib : HdrLib} {hdr : SipHdr} {name : HdrName} {v : CStr}

theorem zeroBehind_zeroed : ZeroBehind lib Term.zeroed :=
  ⟨0, fun _ hc => List.eq_of_mem_replicate hc, fun hdr _ => hdr.text_pos⟩

/-- A header that is stored leaves what is behind it. -/
theorem ZeroBehind.fill (hv : ZeroBehind lib v) (hfits : lib.hdrRoom hdr ≤ 512) :
    ZeroBehind lib (fillFront hdr.text v) := by
  obtain ⟨n, hzero, hless⟩ := hv
  refine ⟨max n hdr.text.length, fun c hc => hzero c ?_, fun hdr' hlong => ?_⟩
  · have hdrop : (fillFront hdr.text v).drop (max n hdr.text.length) =
        v.drop (max n hdr.text.length) := by
      rw [fillFront, List.drop_append, List.drop_eq_nil_of_le (Nat.le_max_right _ _),
        List.nil_append, List.drop_drop, Nat.add_sub_cancel' (Nat.le_max_right _ _)]
    rw [hdrop] at hc
    exact List.drop_subset_drop_left v (Nat.le_max_left n hdr.text.length) hc
  · exact Nat.max_lt.mpr ⟨hless hdr' hlong, lib.longer hdr hdr' (Nat.lt_of_le_of_lt hfits hlong)⟩

/-- What the array holds is shorter than a header that does not fit. -/
theorem Holding.shorter {behind : CStr} (hv : Holding lib (name.text ++ ':' :: behind))
    (hlong : 512 < lib.hdrRoom hdr) :
    (name.text ++ ':' :: upToNul behind).length < hdr.text.length := by
  obtain ⟨n, hzero, hless⟩ := hv.behind
  have hcut : upToNul (name.text ++ ':' :: behind) = name.text ++ ':' :: upToNul behind := by
    rw [upToNul_append name.token.2]
    rfl
  rw [← hcut]
  exact Nat.lt_of_le_of_lt (upToNul_length_le_of_drop hzero) (hless hdr hlong)

end Array

namespace Term

variable (t : Term) (lib : HdrLib)

/-- What stands behind a header. -/
def trailer : CStr := (if t.PRINT_TRAIL_CHR then [TRAIL_CHR] else []) ++ "\n".toList

/-- The round for a header shows its text and nothing else; or it prints an error, which names no
    text but the header's own. -/
def Shows (hdr : SipHdr) (part : List Out) : Prop :=
  shown part = hdr.text ++ t.trailer ∨
    ∃ text, text <+: hdr.text ∧
      part = [.log ⟨1, Logger.NAME, "Invalid SIP header: ".toList ++ text⟩]

/-- From the array `value` on, each header is shown in its round. -/
def ShownFrom (cid : Option (HdrName × CStr)) (hdrs : List SipHdr) (value : CStr) : Prop :=
  ∃ parts, t.printSipmsgHeadersFrom lib cid hdrs value = .ok parts ∧
    List.Forall₂ t.Shows hdrs parts

/-- The message log shows every header, in order. -/
def HeadersShown (msg : SipMsg) : Prop := t.ShownFrom lib msg.cidHdr msg.hdrs zeroed

variable {t : Term} {lib : HdrLib}

@[simp] theorem shown_printColor (color : Color) (text : CStr) :
    shown (t.printColor color text) = text := by
  unfold printColor termSetColor
  split <;> rw [shown_append, shown_print] <;> rfl

@[simp] theorem shown_printTrailChr : shown t.printTrailChr = t.trailer := by
  unfold printTrailChr trailer
  rw [shown_append, shown_print]
  split
  · rw [shown_printColor]
  · rfl

@[simp] theorem shown_termRestoreColor : shown t.termRestoreColor = [] := by
  unfold termRestoreColor
  split <;> rfl

/-- A line of the log shows nothing of a header. -/
theorem shown_log (line : LogLine) : shown [.log line] = [] := rfl

theorem shown_printHdrClid (name : HdrName) (id : CStr) :
    shown (t.printHdrClid (some (name, id))) =
      name.text ++ ':' :: ' ' :: (upToNul id ++ t.trailer) := by
  have hname : upToNul name.text = name.text := upToNul_eq_self_iff.mpr name.token.2
  simp [printHdrClid, hname]

theorem shown_printNameValue (hname hval : CStr) :
    shown (t.printNameValue hname hval) = hname ++ ':' :: (hval ++ t.trailer) := by
  simp [printNameValue]

/-! ## 4. One round -/

section Round

variable {hdr : SipHdr} {name : HdrName} {v : CStr} {part : List Out}

/-- A round that prints name, colon and the value up to a zero byte shows the header exactly where
    no zero byte is in it. -/
theorem shows_iff (htext : hdr.text = name.text ++ ':' :: v)
    (hshown : shown part = name.text ++ ':' :: (upToNul v ++ t.trailer)) :
    t.Shows hdr part ↔ '\x00' ∉ hdr.text := by
  have hnul : '\x00' ∉ hdr.text ↔ upToNul v = v := by
    rw [htext, upToNul_eq_self_iff, List.mem_append, List.mem_cons]
    simp [name.token.2]
  rw [hnul]
  constructor
  · rintro (heq | ⟨text, -, rfl⟩)
    · rw [hshown, htext, List.append_assoc, List.cons_append, List.append_cancel_left_eq,
        List.cons_inj_right, List.append_cancel_right_eq] at heq
      exact heq
    · rw [shown_log] at hshown
      exact absurd hshown.symm (by simp)
  · intro heq
    refine Or.inl ?_
    rw [hshown, htext, heq, List.append_assoc, List.cons_append]

/-- **A name and a colon in front of the array**: the name is printed, and behind the colon what
    the precision reads. -/
theorem printGenericHeader_colon (name : HdrName) (behind : CStr) (len : Int) :
    t.printGenericHeader (name.text ++ ':' :: behind) len =
      (readPrec (len - name.text.length - 1) behind).elim (.error .outOfBounds)
        fun hval => .ok (t.printNameValue name.text hval) := by
  have hchr : strchr ':' (name.text ++ ':' :: behind) = some (some name.text.length) :=
    strchr_front (by decide) name.token.1 name.token.2
  have hprec : readPrec name.text.length (name.text ++ ':' :: behind) = some name.text := by
    rw [readPrec_front, upToNul_eq_self_iff.mpr name.token.2]
  have hdrop : (name.text ++ ':' :: behind).drop (name.text.length + 1) = behind := by
    rw [← List.drop_drop, List.drop_left]
    rfl
  unfold printGenericHeader
  rw [hchr]
  dsimp only
  rw [hprec, hdrop]
  cases readPrec (len - name.text.length - 1) behind with
  | none => rfl
  | some hval => rfl

/-- **A header that fits** is printed from the array, up to a zero byte in its value. -/
theorem printGenericHeader_stored (name : HdrName) (v value : CStr) :
    t.printGenericHeader (fillFront (SipHdr.other name v).text value)
      (SipHdr.other name v).text.length = .ok (t.printNameValue name.text (upToNul v)) := by
  have hlen : ((SipHdr.other name v).text.length : Int) - name.text.length - 1 = v.length := by
    rw [SipHdr.text, List.length_append, List.length_cons]
    omega
  have harray : fillFront (SipHdr.other name v).text value =
      name.text ++ ':' :: (v ++ value.drop (SipHdr.other name v).text.length) :=
    List.append_assoc name.text (':' :: v) _
  rw [harray, printGenericHeader_colon, hlen, readPrec_front]
  rfl

/-- **Without an earlier header** in the array the error names no text. -/
theorem printGenericHeader_fresh :
    t.printGenericHeader zeroed (-1) =
      .ok [.log ⟨1, Logger.NAME, "Invalid SIP header: ".toList ++ []⟩] := by
  have hzero : zeroed = '\x00' :: List.replicate 511 '\x00' := rfl
  unfold printGenericHeader
  rw [hzero, strchr_cons_nul, readStr_cons_nul]

/-- **Behind a header that fits** the text in the array is printed for the one that does not. -/
theorem printGenericHeader_stale {behind : CStr} (hv : Holding lib (name.text ++ ':' :: behind))
    (hlong : 512 < lib.hdrRoom hdr)
    (hpart : t.printGenericHeader (name.text ++ ':' :: behind) (-1) = .ok part) :
    ¬ t.Shows hdr part := by
  have hneg : -1 - (name.text.length : Int) - 1 < 0 := by omega
  rw [printGenericHeader_colon, readPrec_neg hneg, readStr] at hpart
  split at hpart
  · cases hpart
    rintro (heq | ⟨text, -, hlog⟩)
    · have hlen := congrArg List.length heq
      have hless := hv.shorter hlong
      rw [shown_printNameValue] at hlen
      simp only [List.length_append, List.length_cons] at hlen hless
      omega
    · have hshown := congrArg shown hlog
      rw [shown_printNameValue, shown_log] at hshown
      exact absurd hshown (by simp)
  · cases hpart

end Round

/-! ## 5. The loop -/

section Loop

variable {cid : Option (HdrName × CStr)} {hdr : SipHdr} {hdrs : List SipHdr} {value : CStr}

theorem shownFrom_nil : t.ShownFrom lib cid [] value := ⟨[], rfl, .nil⟩

/-- The round of a Call-ID leaves the array. -/
theorem shownFrom_callId (h : hdr.isCallId = true) :
    t.ShownFrom lib cid (hdr :: hdrs) value ↔
      t.Shows hdr (t.printHdrClid cid) ∧ t.ShownFrom lib cid hdrs value := by
  unfold ShownFrom
  rw [printSipmsgHeadersFrom, if_pos h]
  constructor
  · rintro ⟨parts, hparts, hall⟩
    cases hrest : t.printSipmsgHeadersFrom lib cid hdrs value with
    | error e =>
        rw [hrest] at hparts
        cases hparts
    | ok rest =>
        rw [hrest] at hparts
        cases hparts
        obtain ⟨hfirst, hall⟩ := List.forall₂_cons.mp hall
        exact ⟨hfirst, rest, rfl, hall⟩
  · rintro ⟨hfirst, rest, hrest, hall⟩
    rw [hrest]
    exact ⟨_, rfl, .cons hfirst hall⟩

/-- The round of another header prints from the array as `print_on` leaves it. -/
theorem shownFrom_other (h : hdr.isCallId = false) :
    t.ShownFrom lib cid (hdr :: hdrs) value ↔
      (∃ part, t.printGenericHeader (lib.printOn hdr value 512).1 (lib.printOn hdr value 512).2 =
        .ok part ∧ t.Shows hdr part) ∧ t.ShownFrom lib cid hdrs (lib.printOn hdr value 512).1 := by
  unfold ShownFrom
  rw [printSipmsgHeadersFrom, if_neg (by rw [h]; exact Bool.false_ne_true)]
  dsimp only
  constructor
  · rintro ⟨parts, hparts, hall⟩
    cases hround : t.printGenericHeader (lib.printOn hdr value 512).1
        (lib.printOn hdr value 512).2 with
    | error e =>
        rw [hround] at hparts
        cases hparts
    | ok part =>
        rw [hround] at hparts
        cases hrest : t.printSipmsgHeadersFrom lib cid hdrs (lib.printOn hdr value 512).1 with
        | error e =>
            rw [hrest] at hparts
            cases hparts
        | ok rest =>
            rw [hrest] at hparts
            cases hparts
            obtain ⟨hfirst, hall⟩ := List.forall₂_cons.mp hall
            exact ⟨⟨part, rfl, hfirst⟩, rest, rfl, hall⟩
  · rintro ⟨⟨part, hround, hfirst⟩, rest, hrest, hall⟩
    rw [hround, hrest]
    exact ⟨_, rfl, .cons hfirst hall⟩

/-- The round of a Call-ID. -/
theorem shows_callId_iff (name : HdrName) (id : CStr) :
    t.Shows (.PJSIP_H_CALL_ID name id) (t.printHdrClid (some (name, id))) ↔
      '\x00' ∉ (SipHdr.PJSIP_H_CALL_ID name id).text :=
  shows_iff (v := ' ' :: id) rfl (shown_printHdrClid name id)

/-- The round of a header that fits: it is shown where it has no zero byte, and held. -/
theorem round_stored (name : HdrName) {v : CStr} (hsize : value.length = 512)
    (hv : ZeroBehind lib value) (hfits : lib.hdrRoom (.other name v) ≤ 512) :
    ((∃ part, t.printGenericHeader (lib.printOn (.other name v) value 512).1
        (lib.printOn (.other name v) value 512).2 = .ok part ∧
        t.Shows (.other name v) part) ↔ '\x00' ∉ (SipHdr.other name v).text) ∧
      Holding lib (lib.printOn (.other name v) value 512).1 := by
  have hiff : t.Shows (.other name v) (t.printNameValue name.text (upToNul v)) ↔
      '\x00' ∉ (SipHdr.other name v).text := shows_iff rfl (shown_printNameValue _ _)
  have hlen : (SipHdr.other name v).text.length ≤ value.length :=
    hsize ▸ Nat.le_trans (lib.text_le _) hfits
  rw [lib.printOn_fits hfits]
  show ((∃ part, t.printGenericHeader (fillFront (SipHdr.other name v).text value)
    (SipHdr.other name v).text.length = .ok part ∧ t.Shows (.other name v) part) ↔ _) ∧
      Holding lib (fillFront (SipHdr.other name v).text value)
  rw [printGenericHeader_stored]
  refine ⟨⟨?_, fun h => ⟨_, rfl, hiff.mpr h⟩⟩, ?_, ⟨name, _, List.append_assoc name.text _ _⟩,
    hv.fill hfits⟩
  · rintro ⟨part, hpart, hshows⟩
    cases hpart
    exact hiff.mp hshows
  · rw [length_fillFront hlen, hsize]

/-- **Behind a header that fits** all others are shown exactly where none of them is too long and
    none has a zero byte. -/
theorem shownFrom_holding (hv : Holding lib value)
    (hcid : ∀ hdr ∈ hdrs, hdr.isCallId = true → cid = hdr.callId) :
    t.ShownFrom lib cid hdrs value ↔ ∀ hdr ∈ hdrs, ¬ hdr.TooLong lib ∧ '\x00' ∉ hdr.text := by
  induction hdrs generalizing value with
  | nil => exact ⟨fun _ hdr h => absurd h List.not_mem_nil, fun _ => shownFrom_nil⟩
  | cons hdr hdrs ih =>
      have hrest : ∀ hdr ∈ hdrs, hdr.isCallId = true → cid = hdr.callId := fun h hmem =>
        hcid h (List.mem_cons_of_mem _ hmem)
      rw [List.forall_mem_cons]
      cases hdr with
      | PJSIP_H_CALL_ID name id =>
          have hshort : ¬ (SipHdr.PJSIP_H_CALL_ID name id).TooLong lib :=
            SipHdr.not_tooLong_of_callId rfl
          obtain rfl : cid = some (name, id) := hcid _ List.mem_cons_self rfl
          rw [shownFrom_callId rfl, shows_callId_iff, ih hv hrest]
          simp only [hshort, not_false_eq_true, true_and]
      | other name v =>
          rw [shownFrom_other rfl]
          by_cases hfits : lib.hdrRoom (.other name v) ≤ 512
          · have hshort := SipHdr.not_tooLong_of_fits hfits
            obtain ⟨hround, hheld⟩ := round_stored (t := t) name hv.size hv.behind hfits
            rw [hround, ih hheld hrest]
            simp only [hshort, not_false_eq_true, true_and]
          · -- the array is left, and what it holds is no text of this header
            have hlong := Nat.lt_of_not_le hfits
            obtain ⟨held, behind, rfl⟩ := hv.front
            rw [lib.printOn_short hfits]
            refine iff_of_false ?_ fun h => h.1.1 ⟨rfl, hlong⟩
            rintro ⟨⟨part, hpart, hshows⟩, -⟩
            exact printGenericHeader_stale hv hlong hpart hshows

/-- **From the zeroed array on**: the headers are shown exactly where they are showable. -/
theorem shownFrom_zeroed (hcid : ∀ hdr ∈ hdrs, hdr.isCallId = true → cid = hdr.callId) :
    t.ShownFrom lib cid hdrs zeroed ↔ Showable lib hdrs := by
  induction hdrs with
  | nil => exact ⟨fun _ => ⟨.nil, fun hdr h => absurd h List.not_mem_nil⟩, fun _ => shownFrom_nil⟩
  | cons hdr hdrs ih =>
      have hrest : ∀ hdr ∈ hdrs, hdr.isCallId = true → cid = hdr.callId := fun h hmem =>
        hcid h (List.mem_cons_of_mem _ hmem)
      unfold Showable at ih ⊢
      rw [List.pairwise_cons, List.forall_mem_cons]
      cases hdr with
      | PJSIP_H_CALL_ID name id =>
          have hshort : ¬ (SipHdr.PJSIP_H_CALL_ID name id).TooLong lib :=
            SipHdr.not_tooLong_of_callId rfl
          have hfree : ¬ (SipHdr.PJSIP_H_CALL_ID name id).Stored lib :=
            SipHdr.not_stored_of_callId rfl
          obtain rfl : cid = some (name, id) := hcid _ List.mem_cons_self rfl
          rw [shownFrom_callId rfl, shows_callId_iff, ih hrest]
          simp only [hshort, hfree, not_false_eq_true, true_imp_iff, false_imp_iff, implies_true,
            true_and]
          exact and_left_comm
      | other name v =>
          rw [shownFrom_other rfl]
          by_cases hfits : lib.hdrRoom (.other name v) ≤ 512
          · have hshort := SipHdr.not_tooLong_of_fits hfits
            have hstored : (SipHdr.other name v).Stored lib := ⟨rfl, hfits⟩
            have hsize : zeroed.length = 512 := List.length_replicate
            obtain ⟨hround, hheld⟩ := round_stored (t := t) name hsize zeroBehind_zeroed hfits
            rw [hround, shownFrom_holding hheld hrest]
            simp only [hshort, hstored, not_false_eq_true, true_imp_iff]
            constructor
            · intro ⟨hnul, hall⟩
              have hpair : hdrs.Pairwise fun a b => a.Stored lib → ¬ b.TooLong lib :=
                List.pairwise_of_forall_mem_list fun a _ b hb _ => (hall b hb).1
              exact ⟨⟨fun b hb => (hall b hb).1, hpair⟩, hnul, fun b hb _ => (hall b hb).2⟩
            · rintro ⟨⟨hnone, -⟩, hnul, hall⟩
              exact ⟨hnul, fun b hb => ⟨hnone b hb, hall b hb (hnone b hb)⟩⟩
          · -- the error names nothing, and the array is still zeroed
            have hlong : (SipHdr.other name v).TooLong lib := ⟨rfl, Nat.lt_of_not_le hfits⟩
            have hfree : ¬ (SipHdr.other name v).Stored lib := fun h => hfits h.2
            rw [lib.printOn_short hfits]
            show (∃ part, t.printGenericHeader zeroed (-1) = .ok part ∧
              t.Shows (.other name v) part) ∧ t.ShownFrom lib cid hdrs zeroed ↔ _
            rw [printGenericHeader_fresh, ih hrest]
            simp only [hlong, hfree, not_true_eq_false, false_imp_iff, implies_true, true_and]
            exact and_iff_right ⟨_, rfl, Or.inr ⟨[], List.nil_prefix, rfl⟩⟩

end Loop

end Term

/-! ## 6. A message -/

/-- Of one Call-ID the first is any. -/
theorem findSome?_callId {hdrs : List SipHdr} (hone : hdrs.countP SipHdr.isCallId = 1)
    {hdr : SipHdr} (h : hdr ∈ hdrs) (hcid : hdr.isCallId = true) :
    hdrs.findSome? SipHdr.callId = hdr.callId := by
  induction hdrs with
  | nil => exact absurd h List.not_mem_nil
  | cons first hdrs ih =>
      cases first with
      | PJSIP_H_CALL_ID name id =>
          rw [List.countP_cons_of_pos rfl] at hone
          rcases List.mem_cons.mp h with rfl | hmem
          · rfl
          · -- a second one
            have hpos := List.countP_pos_iff.mpr ⟨hdr, hmem, hcid⟩
            omega
      | other name v =>
          rw [List.countP_cons_of_neg Bool.false_ne_true] at hone
          rcases List.mem_cons.mp h with rfl | hmem
          · cases hcid
          · exact ih hone hmem

/-- **The one Call-ID is the one that is printed.** -/
theorem SipMsg.cidHdr_eq (msg : SipMsg) {hdr : SipHdr} (h : hdr ∈ msg.hdrs)
    (hcid : hdr.isCallId = true) : msg.cidHdr = hdr.callId :=
  findSome?_callId msg.oneCallId h hcid

/-- **When the message log shows every header**: exactly where no header that does not fit the
    array stands behind one that does, and no zero byte is in those that are printed. -/
theorem headers_shown_iff (t : Term) (lib : HdrLib) (msg : SipMsg) :
    t.HeadersShown lib msg ↔ Showable lib msg.hdrs :=
  Term.shownFrom_zeroed fun _ h hcid => msg.cidHdr_eq h hcid

/-- A terminal without colors, and no character behind the lines. -/
def plainTerm : Term := ⟨true, false, false⟩

/-- A message with a short header and behind it one of 609 bytes. -/
def longSubjectMsg : SipMsg where
  hdrs := [.PJSIP_H_CALL_ID ⟨"Call-ID".toList, by decide⟩ "1".toList,
    .other ⟨"Max-Forwards".toList, by decide⟩ " 70".toList,
    .other ⟨"Subject".toList, by decide⟩ (' ' :: List.replicate 600 'x')]
  oneCallId := rfl

/-- In the place of the long header the short one is printed again. -/
theorem short_header_printed_again :
    plainTerm.printSipmsgHeaders .exact longSubjectMsg =
      .ok [[.print "Call-ID".toList, .print ": ".toList, .print "1".toList,
          .print "\n".toList],
        [.print "Max-Forwards".toList, .print ":".toList, .print " 70".toList,
          .print "\n".toList],
        [.print "Max-Forwards".toList, .print ":".toList, .print " 70".toList,
          .print "\n".toList]] ∧
      ¬ plainTerm.HeadersShown .exact longSubjectMsg := by
  refine ⟨by decide +kernel, fun h => ?_⟩
  obtain ⟨hpair, -⟩ :=
    (Term.shownFrom_zeroed fun _ hmem hcid => longSubjectMsg.cidHdr_eq hmem hcid).mp h
  obtain ⟨hbehind, -⟩ := List.pairwise_cons.mp (List.pairwise_cons.mp hpair).2
  refine hbehind _ (List.mem_singleton_self _) ⟨rfl, by decide⟩ ⟨rfl, ?_⟩
  show 512 < (SipHdr.text _).length
  rw [SipHdr.text, List.length_append, List.length_cons, List.length_cons, List.length_replicate]
  decide

end Sippak
