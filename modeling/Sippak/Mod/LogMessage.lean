/-
  File:      Sippak/Mod/LogMessage.lean
  Subject:   THE MESSAGE LOG (mod/logger.c): the start line, the content headers and the body around
             the headers of Logger.lean, the two callbacks of the module, and its registration.

  A run of the log is a list of messages received and sent. What a message shows is compared with
  its text: start line and headers, for one that is sent the content headers, and the body. No
  part shows more than its own text, so none makes up for another.

  * `printSipmsgHeaders_prints`, `printSipmsgBody_prints`, .. -- what a part shows, and when that
    is its text;
  * `log_shown_iff` -- **when the log of a run is the text of its messages**;
  * `Term.logAll_tidy`, `Term.logAll_painted_iff` -- the color of the terminal in a run;
  * `log_colors_of_line` -- the same from the command line on.
-/
import Sippak.Lib.Printed
import Sippak.Line
import Sippak.Mod.Logger
import Sippak.Resolver

namespace Sippak

open CStr Printed

/-! ## 1. Messages -/

/-- pjsip's printers. That of a Request-URI needs `room` bytes for the text; in an array with less
    it leaves the beginning of the text. -/
structure PrintLib extends UriLib, HdrLib where
  text : Uri → CStr
  room : Uri → Nat
  left : Uri → CStr
  prints : ∀ uri size, printUri .PJSIP_URI_IN_REQ_URI uri size =
    if room uri ≤ size then some (text uri) else none
  text_lt : ∀ uri, (text uri).length < room uri
  left_lt : ∀ uri, 128 < room uri →
    (left uri).length < 128 ∧ (left uri).length < (text uri).length

/-- `msg->line`, by `msg->type`. -/
inductive StartLine where
  | status (code : Int) (reason : CStr)
  | req (method : CStr) (uri : Uri)

/-- `pjsip_msg_body`. Its `print_body` needs `room` bytes for the text. -/
structure Body where
  contentType : MediaType
  text : CStr
  room : Nat
  text_le : text.length ≤ room

def Body.printBody (body : Body) (size : Nat) : Option CStr :=
  if body.room ≤ size then some body.text else none

/-- `pjsip_msg`. -/
structure Message extends SipMsg where
  line : StartLine
  body : Option Body

/-- What `logging_on_rx_msg` reads of `pjsip_rx_data`. -/
structure LoggedRx where
  msg : Message
  len : Int
  info : CStr
  typeName : CStr
  srcName : CStr
  srcPort : Int

/-- What `logging_on_tx_msg` reads of `pjsip_tx_data`; `len` is `buf.cur - buf.start`. -/
structure LoggedTx where
  msg : Message
  len : Int
  info : CStr
  typeName : CStr
  dstName : CStr
  dstPort : Int

/-- The line of the log in front of a received message. -/
def LoggedRx.logLine (rdata : LoggedRx) : LogLine :=
  ⟨3, PROJECT_NAME, "RX ".toList ++ showSigned rdata.len ++ " bytes ".toList ++ rdata.info ++
    " from ".toList ++ rdata.typeName ++ " ".toList ++ rdata.srcName ++ ":".toList ++
    showSigned rdata.srcPort ++ ":\n".toList⟩

/-- The line in front of a message that is sent. -/
def LoggedTx.logLine (tdata : LoggedTx) : LogLine :=
  ⟨3, PROJECT_NAME, "TX ".toList ++ showSigned tdata.len ++ " bytes ".toList ++ tdata.info ++
    " to ".toList ++ tdata.typeName ++ " ".toList ++ tdata.dstName ++ ":".toList ++
    showSigned tdata.dstPort ++ ":\n".toList⟩

/-- A callback of the module. -/
inductive Logged where
  | rx (rdata : LoggedRx)
  | tx (tdata : LoggedTx)

def Logged.msg : Logged → Message
  | .rx rdata => rdata.msg
  | .tx tdata => tdata.msg

def Logged.isTx : Logged → Bool
  | .rx _ => false
  | .tx _ => true

def Logged.logLine : Logged → LogLine
  | .rx rdata => rdata.logLine
  | .tx tdata => tdata.logLine

/-! ## 2. The terminal -/

/-- The colors of a message: those of its headers, and two of its own. -/
inductive MsgColor where
  | COLOR_BLUE | COLOR_CYAN
  | hdr (color : Color)
  deriving DecidableEq, Repr

/-- As `Out`, with these colors. -/
inductive MsgOut where
  | setColor (color : MsgColor)
  | restoreColor
  | print (text : CStr)
  | log (line : LogLine)
  deriving DecidableEq, Repr

def MsgOut.ofHdr : Out → MsgOut
  | .setColor color => .setColor (.hdr color)
  | .restoreColor => .restoreColor
  | .print text => .print text
  | .log line => .log line

/-- The text of an output, whatever its color. -/
def MsgOut.printed : MsgOut → CStr
  | .print text => text
  | _ => []

theorem MsgOut.printed_ofHdr (out : Out) : (MsgOut.ofHdr out).printed = out.printed := by
  cases out <;> rfl

/-- `sippak_mod_logger_register`: the status of `pjsip_endpt_register_module`, and the switches. -/
def sippakModLoggerRegister (hasColor : Bool) (lib : MainLib) (app : App) : PjStatus × Term :=
  (lib.modLoggerRegister,
    { PJ_TERM_HAS_COLOR := hasColor
      ENABLE_COLORS := app.cfg.logDecor.contains .PJ_LOG_HAS_COLOR
      PRINT_TRAIL_CHR := app.cfg.trailDot })

/-- `Content-Type`. -/
def ctypeHdr (ctype : MediaType) : SipHdr :=
  .other ⟨"Content-Type".toList, by decide⟩
    (' ' :: (ctype.type.text ++ '/' :: ctype.subtype.text))

/-- `Content-Length`. -/
def clenHdr (len : Nat) : SipHdr :=
  .other ⟨"Content-Length".toList, by decide⟩ (' ' :: showDec len)

namespace Term

variable (t : Term) (lib : PrintLib)

/-- Colors are asked for, and pjlib is built with them. -/
def colored : Bool := t.ENABLE_COLORS && t.PJ_TERM_HAS_COLOR

/-- `PRINT_COLOR`. -/
def paint (color : MsgColor) (text : CStr) : List MsgOut :=
  (if t.colored then [.setColor color] else []) ++ [.print text]

/-- The end of a line: `print_trail_chr` and `term_restore_color`. -/
def endLine : List MsgOut := (t.printTrailChr ++ t.termRestoreColor).map .ofHdr

/-- `char uri_buf[128] = {0}` behind `pjsip_uri_print`, and what that returned. -/
def uriBuf (uri : Uri) : CStr × Int :=
  match lib.printUri .PJSIP_URI_IN_REQ_URI uri 128 with
  | some text => (fillFront text (List.replicate 128 '\x00'), text.length)
  | none => (fillFront (lib.left uri) (List.replicate 128 '\x00'), -1)

/-- `print_sipmsg_head`. -/
def printSipmsgHead : StartLine → Except Abort (List MsgOut)
  | .status code reason =>
    .ok (t.paint .COLOR_BLUE "SIP/2.0 ".toList ++
      (t.paint .COLOR_CYAN (showSigned code ++ " ".toList) ++
        (t.paint (.hdr .COLOR_GREEN) (upToNul reason) ++ t.endLine)))
  | .req method uri =>
    match readPrec (uriBuf lib uri).2 (uriBuf lib uri).1 with
    | none => .error .outOfBounds
    | some text =>
      .ok (t.paint .COLOR_BLUE (upToNul method ++ " ".toList) ++
        (t.paint .COLOR_CYAN (text ++ " ".toList) ++
          (t.paint (.hdr .COLOR_GREEN) "SIP/2.0".toList ++ t.endLine)))

/-- A header put together in `char hdr_holder[512] = {0}` and printed from there; what does not
    fit is written past its end. -/
def printHolder (hdr : SipHdr) : Except Abort (List MsgOut) :=
  if hdr.text.length ≤ 512 then
    (t.printGenericHeader (fillFront hdr.text zeroed) hdr.text.length).map (List.map .ofHdr)
  else .error .outOfBounds

/-- `print_content_type_hdr`. -/
def printContentTypeHdr (body : Body) : Except Abort (List MsgOut) :=
  if body.contentType.type.slen = 0 ∨ body.contentType.subtype.slen = 0 then .ok []
  else t.printHolder (ctypeHdr body.contentType)

/-- `print_content_len_hdr`. -/
def printContentLenHdr (len : Nat) : Except Abort (List MsgOut) := t.printHolder (clenHdr len)

/-- The body itself, behind its headers. -/
def printBodyText (text : CStr) : List MsgOut :=
  t.paint .COLOR_CYAN ("\n".toList ++ (upToNul text ++ "\n".toList)) ++
    t.termRestoreColor.map .ofHdr

/-- `print_sipmsg_body`. -/
def printSipmsgBody (isTx : Bool) : Option Body → Except Abort (List MsgOut)
  | some body =>
    match body.printBody SIPMSG_BODY_LEN with
    | none => .ok [.log ⟨1, Logger.NAME,
        "ERROR in logger.c: Message body buffer is too short (".toList ++
          showDec SIPMSG_BODY_LEN ++ ").".toList⟩]
    | some buf =>
      if isTx then
        andThen (t.printContentTypeHdr body)
          (andThen (t.printContentLenHdr buf.length) (.ok (t.printBodyText buf)))
      else .ok (t.printBodyText buf)
  | none => if isTx then t.printContentLenHdr 0 else .ok []

/-- What both callbacks print behind their line of the log. -/
def printSipmsg (isTx : Bool) (msg : Message) : Except Abort (List MsgOut) :=
  andThen (t.printSipmsgHead lib msg.line)
    (andThen (((t.printSipmsgHeaders lib.toHdrLib msg.toSipMsg).map List.flatten).map
        (List.map .ofHdr))
      (andThen (t.printSipmsgBody isTx msg.body) (.ok [.print "\n".toList])))

/-- `logging_on_rx_msg`. It returns `PJ_FALSE`: the other modules get the message. -/
def loggingOnRxMsg (rdata : LoggedRx) : Except Abort (Bool × List MsgOut) :=
  (andThen (.ok [.log rdata.logLine]) (t.printSipmsg lib false rdata.msg)).map (Prod.mk false)

/-- `logging_on_tx_msg`. -/
def loggingOnTxMsg (tdata : LoggedTx) : Except Abort (PjStatus × List MsgOut) :=
  (andThen (.ok [.log tdata.logLine]) (t.printSipmsg lib true tdata.msg)).map
    (Prod.mk .PJ_SUCCESS)

/-- The output of a callback. -/
def logOne : Logged → Except Abort (List MsgOut)
  | .rx rdata => (t.loggingOnRxMsg lib rdata).map Prod.snd
  | .tx tdata => (t.loggingOnTxMsg lib tdata).map Prod.snd

/-- The output of a run. -/
def logAll : List Logged → Except Abort (List MsgOut)
  | [] => .ok []
  | m :: ms => andThen (t.logOne lib m) (logAll ms)

end Term

/-! ## 3. The text of a message -/

/-- The start line. -/
def StartLine.text (lib : PrintLib) : StartLine → CStr
  | .status code reason => "SIP/2.0 ".toList ++ (showSigned code ++ " ".toList ++ reason)
  | .req method uri => method ++ " ".toList ++ (lib.text uri ++ " ".toList ++ "SIP/2.0".toList)

/-- The type of a body, where it is known. -/
def ctypeHdrs (ctype : MediaType) : List SipHdr :=
  if ctype.type.slen = 0 ∨ ctype.subtype.slen = 0 then [] else [ctypeHdr ctype]

/-- The content headers pjsip puts on a message it sends. -/
def Message.contentHdrs (msg : Message) : List SipHdr :=
  msg.body.elim [clenHdr 0] fun body => ctypeHdrs body.contentType ++ [clenHdr body.text.length]

/-- The body, on lines of its own. -/
def Message.bodyText (msg : Message) : CStr :=
  msg.body.elim [] fun body => "\n".toList ++ (body.text ++ "\n".toList)

/-- The content headers of a received message stand among the others. -/
def Message.behind (msg : Message) (isTx : Bool) : List SipHdr :=
  if isTx then msg.contentHdrs else []

/-- No part of the start line is too long for its array, and no zero byte is in it. -/
def StartLine.Whole (lib : PrintLib) : StartLine → Prop
  | .status _ reason => '\x00' ∉ reason
  | .req method uri => '\x00' ∉ method ∧ lib.room uri ≤ 128 ∧ '\x00' ∉ lib.text uri

/-- A header that fits the array, without a zero byte. -/
def SipHdr.Whole (lib : HdrLib) (hdr : SipHdr) : Prop := ¬ hdr.TooLong lib ∧ '\x00' ∉ hdr.text

/-- Every part of a message fits the array it is printed from, without a zero byte. The content
    headers are put together in an array of their own, without `print_on`. -/
structure Message.Whole (lib : PrintLib) (isTx : Bool) (msg : Message) : Prop where
  line : msg.line.Whole lib
  hdrs : ∀ hdr ∈ msg.hdrs, hdr.Whole lib.toHdrLib
  behind : ∀ hdr ∈ msg.behind isTx, hdr.Whole .exact
  body : ∀ body, msg.body = some body → body.room ≤ SIPMSG_BODY_LEN ∧ '\x00' ∉ body.text

namespace Term

variable (t : Term) (lib : PrintLib)

/-- Headers, each on its line. -/
def linesText (hdrs : List SipHdr) : CStr := hdrs.flatMap fun hdr => hdr.text ++ t.trailer

/-- A message in the log, with the empty line behind it. -/
def messageText (isTx : Bool) (msg : Message) : CStr :=
  (msg.line.text lib ++ t.trailer) ++ (t.linesText msg.hdrs ++
    ((t.linesText (msg.behind isTx) ++ msg.bodyText) ++ "\n".toList))

/-! ## 4. What a part shows -/

section Parts

variable {t : Term} {lib : PrintLib} {hlib : HdrLib} {hdr : SipHdr} {hdrs : List SipHdr}
  {value : CStr}

@[simp] theorem paint_shown (color : MsgColor) (text : CStr) :
    (t.paint color text).flatMap MsgOut.printed = text := by
  unfold paint
  split <;> exact List.append_nil text

/-- A piece with a color, whole. -/
theorem paint_prints_all (color : MsgColor) (text : CStr) :
    Prints MsgOut.printed (.ok (t.paint color text) : Except Abort _) text True :=
  .all (paint_shown color text)

/-- A piece with a color, up to a zero byte. -/
theorem paint_prints (color : MsgColor) (text : CStr) :
    Prints MsgOut.printed (.ok (t.paint color (upToNul text)) : Except Abort _) text
      ('\x00' ∉ text) := by
  refine .ok ?_ ?_
  · rw [paint_shown]
    exact upToNul_length_le text
  · rw [paint_shown]
    exact upToNul_eq_self_iff

/-- A piece with a color, its text cut to `cut`. -/
theorem paint_prints_cut (color : MsgColor) {text cut : CStr} {P : Prop} (behind : CStr)
    (hle : cut.length ≤ text.length) (hP : cut = text ↔ P) :
    Prints MsgOut.printed (.ok (t.paint color (cut ++ behind)) : Except Abort _)
      (text ++ behind) P := by
  refine .ok ?_ ?_
  · rw [paint_shown, List.length_append, List.length_append]
    exact Nat.add_le_add_right hle _
  · rw [paint_shown, List.append_cancel_right_eq, hP]

theorem endLine_prints : Prints MsgOut.printed (.ok t.endLine : Except Abort _) t.trailer True := by
  have hall : Prints Out.printed (.ok (t.printTrailChr ++ t.termRestoreColor) : Except Abort _)
      t.trailer True := by
    refine .all ?_
    show shown (t.printTrailChr ++ t.termRestoreColor) = t.trailer
    simp
  exact hall.map MsgOut.printed_ofHdr

/-- A line with name, colon and the value up to a zero byte. -/
theorem nameValue_prints {name : HdrName} {v : CStr} {out : List Out}
    (htext : hdr.text = name.text ++ ':' :: v)
    (hshown : shown out = name.text ++ ':' :: (upToNul v ++ t.trailer)) :
    Prints Out.printed (.ok out : Except Abort _) (hdr.text ++ t.trailer)
      ('\x00' ∉ hdr.text) := by
  have hnul : '\x00' ∉ hdr.text ↔ upToNul v = v := by
    rw [htext, upToNul_eq_self_iff, List.mem_append, List.mem_cons]
    simp [name.token.2]
  have hview : out.flatMap Out.printed = name.text ++ ':' :: (upToNul v ++ t.trailer) := hshown
  refine .ok ?_ ?_
  · have hle := upToNul_length_le v
    rw [hview, htext]
    simp only [List.length_append, List.length_cons]
    omega
  · rw [hview, hnul, htext, List.append_assoc, List.cons_append, List.append_cancel_left_eq,
      List.cons_inj_right, List.append_cancel_right_eq]

/-- The array in front of a round: still zeroed, or holding an earlier header. -/
def Fed (hlib : HdrLib) (value : CStr) : Prop := value = zeroed ∨ Holding hlib value

theorem Fed.length (hv : Fed hlib value) : value.length = 512 := by
  rcases hv with rfl | hv
  · exact List.length_replicate
  · exact hv.size

theorem Fed.behind (hv : Fed hlib value) : ZeroBehind hlib value := by
  rcases hv with rfl | hv
  · exact zeroBehind_zeroed
  · exact hv.behind

/-- **The round of a header** that goes through the array. -/
theorem printGenericHeader_prints (hv : Fed hlib value) (name : HdrName) (v : CStr) :
    Prints Out.printed
        (t.printGenericHeader (hlib.printOn (.other name v) value 512).1
          (hlib.printOn (.other name v) value 512).2)
        ((SipHdr.other name v).text ++ t.trailer) ((SipHdr.other name v).Whole hlib) ∧
      Fed hlib (hlib.printOn (.other name v) value 512).1 := by
  by_cases hfits : hlib.hdrRoom (.other name v) ≤ 512
  · have hshort := SipHdr.not_tooLong_of_fits hfits
    obtain ⟨-, hheld⟩ := round_stored (t := t) name hv.length hv.behind hfits
    refine ⟨?_, Or.inr hheld⟩
    rw [hlib.printOn_fits hfits]
    show Prints _ (t.printGenericHeader (fillFront (SipHdr.other name v).text value)
      (SipHdr.other name v).text.length) _ _
    rw [printGenericHeader_stored]
    exact (nameValue_prints rfl (shown_printNameValue _ _)).congr (and_iff_right hshort).symm
  · -- the array is left, and so is what it shows
    have hlong := Nat.lt_of_not_le hfits
    have hno : (SipHdr.other name v).Whole hlib ↔ False :=
      iff_of_false (fun h => h.1 ⟨rfl, hlong⟩) id
    rw [hlib.printOn_short hfits]
    refine ⟨Prints.congr ?_ hno.symm, hv⟩
    show Prints _ (t.printGenericHeader value (-1)) _ _
    rcases hv with rfl | hv
    · rw [printGenericHeader_fresh]
      refine .short ?_
      rw [List.length_append]
      exact Nat.lt_add_right _ (SipHdr.text_pos _)
    · obtain ⟨held, behind, rfl⟩ := hv.front
      have hneg : -1 - (held.text.length : Int) - 1 < 0 := by omega
      rw [printGenericHeader_colon, readPrec_neg hneg, readStr]
      split
      · refine .short ?_
        have hless := hv.shorter hlong
        show (shown (t.printNameValue held.text (upToNul behind))).length < _
        rw [shown_printNameValue]
        simp only [List.length_append, List.length_cons] at hless ⊢
        omega
      · exact .error _

/-- The output of the loop over the headers, round by round. -/
theorem headersFrom_callId {cid : Option (HdrName × CStr)} (h : hdr.isCallId = true) :
    (t.printSipmsgHeadersFrom hlib cid (hdr :: hdrs) value).map List.flatten =
      andThen (.ok (t.printHdrClid cid))
        ((t.printSipmsgHeadersFrom hlib cid hdrs value).map List.flatten) := by
  rw [printSipmsgHeadersFrom, if_pos h]
  cases t.printSipmsgHeadersFrom hlib cid hdrs value with
  | error e => rfl
  | ok parts => rfl

theorem headersFrom_other {cid : Option (HdrName × CStr)} (h : hdr.isCallId = false) :
    (t.printSipmsgHeadersFrom hlib cid (hdr :: hdrs) value).map List.flatten =
      andThen (t.printGenericHeader (hlib.printOn hdr value 512).1 (hlib.printOn hdr value 512).2)
        ((t.printSipmsgHeadersFrom hlib cid hdrs (hlib.printOn hdr value 512).1).map
          List.flatten) := by
  rw [printSipmsgHeadersFrom, if_neg (by rw [h]; exact Bool.false_ne_true)]
  dsimp only
  cases t.printGenericHeader (hlib.printOn hdr value 512).1 (hlib.printOn hdr value 512).2 with
  | error e => rfl
  | ok part =>
      cases t.printSipmsgHeadersFrom hlib cid hdrs (hlib.printOn hdr value 512).1 with
      | error e => rfl
      | ok parts => rfl

/-- **The loop over the headers.** -/
theorem printSipmsgHeadersFrom_prints {cid : Option (HdrName × CStr)} (hv : Fed hlib value)
    (hcid : ∀ hdr ∈ hdrs, hdr.isCallId = true → cid = hdr.callId) :
    Prints Out.printed ((t.printSipmsgHeadersFrom hlib cid hdrs value).map List.flatten)
      (t.linesText hdrs) (∀ hdr ∈ hdrs, hdr.Whole hlib) := by
  induction hdrs generalizing value with
  | nil => exact (Prints.all rfl).congr (by simp)
  | cons hdr hdrs ih =>
      have hrest : ∀ hdr ∈ hdrs, hdr.isCallId = true → cid = hdr.callId := fun h hmem =>
        hcid h (List.mem_cons_of_mem _ hmem)
      rw [List.forall_mem_cons]
      cases hdr with
      | PJSIP_H_CALL_ID name id =>
          obtain rfl : cid = some (name, id) := hcid _ List.mem_cons_self rfl
          have hround : Prints Out.printed (.ok (t.printHdrClid (some (name, id))) : Except Abort _)
              ((SipHdr.PJSIP_H_CALL_ID name id).text ++ t.trailer)
              ((SipHdr.PJSIP_H_CALL_ID name id).Whole hlib) :=
            (nameValue_prints (v := ' ' :: id) rfl (shown_printHdrClid name id)).congr
              (and_iff_right (SipHdr.not_tooLong_of_callId rfl)).symm
          rw [headersFrom_callId rfl]
          exact hround.andThen (ih hv hrest)
      | other name v =>
          obtain ⟨hround, hv'⟩ := printGenericHeader_prints (t := t) hv name v
          rw [headersFrom_other rfl]
          exact hround.andThen (ih hv' hrest)

/-- **The headers of a message.** -/
theorem printSipmsgHeaders_prints (hlib : HdrLib) (msg : SipMsg) :
    Prints MsgOut.printed
      (((t.printSipmsgHeaders hlib msg).map List.flatten).map (List.map .ofHdr))
      (t.linesText msg.hdrs) (∀ hdr ∈ msg.hdrs, hdr.Whole hlib) :=
  (printSipmsgHeadersFrom_prints (Or.inl rfl) fun _ h hcid => msg.cidHdr_eq h hcid).map
    MsgOut.printed_ofHdr

/-- A header that is put together in its own array. -/
theorem printHolder_prints (name : HdrName) (v : CStr) :
    Prints MsgOut.printed (t.printHolder (.other name v))
      ((SipHdr.other name v).text ++ t.trailer) ((SipHdr.other name v).Whole .exact) := by
  obtain ⟨hround, -⟩ := printGenericHeader_prints (t := t) (Or.inl rfl : Fed .exact zeroed) name v
  unfold printHolder
  by_cases hfits : (SipHdr.other name v).text.length ≤ 512
  · rw [HdrLib.exact.printOn_fits hfits] at hround
    rw [if_pos hfits]
    exact hround.map MsgOut.printed_ofHdr
  · rw [if_neg hfits]
    exact (Prints.error _).congr
      (iff_of_false id fun h => h.1 ⟨rfl, Nat.lt_of_not_le hfits⟩)

theorem linesText_singleton : t.linesText [hdr] = hdr.text ++ t.trailer := List.append_nil _

theorem printContentTypeHdr_prints (body : Body) :
    Prints MsgOut.printed (t.printContentTypeHdr body)
      (t.linesText (ctypeHdrs body.contentType))
      (∀ hdr ∈ ctypeHdrs body.contentType, hdr.Whole .exact) := by
  unfold printContentTypeHdr ctypeHdrs
  by_cases hnone : body.contentType.type.slen = 0 ∨ body.contentType.subtype.slen = 0
  · rw [if_pos hnone, if_pos hnone]
    exact (Prints.all rfl).congr (by simp)
  · rw [if_neg hnone, if_neg hnone, linesText_singleton, List.forall_mem_singleton]
    exact printHolder_prints _ _

theorem printContentLenHdr_prints (len : Nat) :
    Prints MsgOut.printed (t.printContentLenHdr len) (t.linesText [clenHdr len])
      (∀ hdr ∈ [clenHdr len], hdr.Whole .exact) := by
  rw [linesText_singleton, List.forall_mem_singleton]
  exact printHolder_prints _ _

/-- What the array of a Request-URI is read as. -/
theorem uriBuf_read (lib : PrintLib) (uri : Uri) : ∃ text,
    readPrec (uriBuf lib uri).2 (uriBuf lib uri).1 = some text ∧ text.length ≤ (lib.text uri).length ∧
    (text = lib.text uri ↔ lib.room uri ≤ 128 ∧ '\x00' ∉ lib.text uri) := by
  unfold uriBuf
  rw [lib.prints]
  by_cases hroom : lib.room uri ≤ 128
  · rw [if_pos hroom]
    refine ⟨upToNul (lib.text uri), readPrec_front _ _, upToNul_length_le _, ?_⟩
    rw [upToNul_eq_self_iff, and_iff_right hroom]
  · -- what is left of the text ends at a zero byte of the array
    rw [if_neg hroom]
    obtain ⟨hleft, hshort⟩ := lib.left_lt uri (Nat.lt_of_not_le hroom)
    have hmem : '\x00' ∈ fillFront (lib.left uri) (List.replicate 128 '\x00') := by
      refine List.mem_append_right _ ?_
      rw [List.drop_replicate]
      exact List.mem_replicate.mpr ⟨by omega, rfl⟩
    have hlen : (upToNul (fillFront (lib.left uri) (List.replicate 128 '\x00'))).length ≤
        (lib.left uri).length := by
      by_cases hnul : '\x00' ∈ lib.left uri
      · rw [fillFront, upToNul_append_of_nul hnul]
        exact upToNul_length_le _
      · rw [fillFront, List.drop_replicate, show 128 - (lib.left uri).length =
          (127 - (lib.left uri).length) + 1 by omega, List.replicate_succ, upToNul_append hnul,
          upToNul_cons_nul, List.append_nil]
    refine ⟨_, ?_, Nat.le_of_lt (Nat.lt_of_le_of_lt hlen hshort), ?_⟩
    · dsimp only
      rw [readPrec_neg (by decide), readStr, if_pos hmem]
    · refine iff_of_false (fun heq => ?_) fun h => hroom h.1
      rw [heq] at hlen
      exact Nat.lt_irrefl _ (Nat.lt_of_le_of_lt hlen hshort)

/-- **The start line.** -/
theorem printSipmsgHead_prints (line : StartLine) :
    Prints MsgOut.printed (t.printSipmsgHead lib line) (line.text lib ++ t.trailer)
      (line.Whole lib) := by
  have hend := endLine_prints (t := t)
  have hassoc : ∀ a b c d : CStr, a ++ (b ++ c) ++ d = a ++ (b ++ (c ++ d)) := fun a b c d => by
    rw [List.append_assoc, List.append_assoc]
  cases line with
  | status code reason =>
      have hversion := paint_prints_all (t := t) .COLOR_BLUE "SIP/2.0 ".toList
      have hcode := paint_prints_all (t := t) .COLOR_CYAN (showSigned code ++ " ".toList)
      have hreason := paint_prints (t := t) (.hdr .COLOR_GREEN) reason
      have hparts := hversion.andThen (hcode.andThen (hreason.andThen hend))
      rw [andThen_ok, andThen_ok, andThen_ok] at hparts
      show Prints _ _
        ("SIP/2.0 ".toList ++ (showSigned code ++ " ".toList ++ reason) ++ t.trailer) _
      rw [hassoc]
      exact hparts.congr (by simp only [true_and, and_true, StartLine.Whole])
  | req method uri =>
      obtain ⟨text, hread, hle, hwhole⟩ := uriBuf_read lib uri
      have hmethod := paint_prints_cut (t := t) .COLOR_BLUE " ".toList (upToNul_length_le method)
        upToNul_eq_self_iff
      have huri := paint_prints_cut (t := t) .COLOR_CYAN " ".toList hle hwhole
      have hversion := paint_prints_all (t := t) (.hdr .COLOR_GREEN) "SIP/2.0".toList
      have hparts := hmethod.andThen (huri.andThen (hversion.andThen hend))
      rw [andThen_ok, andThen_ok, andThen_ok] at hparts
      unfold printSipmsgHead
      dsimp only
      rw [hread]
      show Prints _ _ (method ++ " ".toList ++ (lib.text uri ++ " ".toList ++ "SIP/2.0".toList) ++
        t.trailer) _
      rw [hassoc]
      exact hparts.congr (by simp only [and_true, StartLine.Whole])

/-- **The body**, with the content headers of a message that is sent. -/
theorem printSipmsgBody_prints (isTx : Bool) (msg : Message) :
    Prints MsgOut.printed (t.printSipmsgBody isTx msg.body)
      (t.linesText (msg.behind isTx) ++ msg.bodyText)
      ((∀ hdr ∈ msg.behind isTx, hdr.Whole .exact) ∧
        ∀ body, msg.body = some body → body.room ≤ SIPMSG_BODY_LEN ∧ '\x00' ∉ body.text) := by
  unfold Message.behind Message.contentHdrs Message.bodyText
  cases msg.body with
  | none =>
      cases isTx with
      | false => exact (Prints.all rfl).congr (by simp)
      | true =>
          have hlen := printContentLenHdr_prints (t := t) 0
          show Prints _ (t.printContentLenHdr 0) (t.linesText [clenHdr 0] ++ []) _
          rw [List.append_nil]
          exact hlen.congr (by simp)
  | some body =>
      have htext : Prints MsgOut.printed (.ok (t.printBodyText body.text) : Except Abort _)
          ("\n".toList ++ (body.text ++ "\n".toList)) ('\x00' ∉ body.text) := by
        have hview : (t.printBodyText body.text).flatMap MsgOut.printed =
            "\n".toList ++ (upToNul body.text ++ "\n".toList) := by
          unfold printBodyText
          rw [List.flatMap_append, paint_shown]
          unfold termRestoreColor
          split <;> exact List.append_nil _
        refine .ok ?_ ?_
        · rw [hview]
          simpa using upToNul_length_le body.text
        · rw [hview, List.append_cancel_left_eq, List.append_cancel_right_eq]
          exact upToNul_eq_self_iff
      have hbody : (∀ body', some body = some body' →
          body'.room ≤ SIPMSG_BODY_LEN ∧ '\x00' ∉ body'.text) ↔
          body.room ≤ SIPMSG_BODY_LEN ∧ '\x00' ∉ body.text := by
        simp
      rw [hbody]
      unfold printSipmsgBody Body.printBody
      by_cases hroom : body.room ≤ SIPMSG_BODY_LEN
      · simp only [hroom, if_true, true_and]
        cases isTx with
        | false => exact htext.congr (by simp)
        | true =>
            have hparts := (printContentTypeHdr_prints (t := t) body).andThen
              ((printContentLenHdr_prints (t := t) body.text.length).andThen htext)
            show Prints _ _
              (t.linesText (ctypeHdrs body.contentType ++ [clenHdr body.text.length]) ++ _)
              ((∀ hdr ∈ ctypeHdrs body.contentType ++ [clenHdr body.text.length], hdr.Whole .exact) ∧
                _)
            rw [linesText, List.flatMap_append, List.append_assoc, List.forall_mem_append,
              and_assoc]
            exact hparts
      · -- the log has an error instead
        simp only [hroom, if_false, false_and, and_false]
        refine .short ?_
        show 0 < _
        simp only [Option.elim_some, List.length_append]
        exact Nat.add_pos_right _ (Nat.add_pos_left (by decide) _)

/-- **A message.** -/
theorem printSipmsg_prints (isTx : Bool) (msg : Message) :
    Prints MsgOut.printed (t.printSipmsg lib isTx msg) (t.messageText lib isTx msg)
      (msg.Whole lib isTx) := by
  have hempty : Prints MsgOut.printed (.ok [.print "\n".toList] : Except Abort _) "\n".toList
      True := .all rfl
  have hhead : Prints MsgOut.printed (t.printSipmsgHead lib msg.line)
      (msg.line.text lib ++ t.trailer) (msg.line.Whole lib) := printSipmsgHead_prints msg.line
  have hparts := hhead.andThen
    ((printSipmsgHeaders_prints (t := t) lib.toHdrLib msg.toSipMsg).andThen
      ((printSipmsgBody_prints (t := t) isTx msg).andThen hempty))
  refine hparts.congr ⟨?_, ?_⟩
  · rintro ⟨hline, hhdrs, ⟨hbehind, hbody⟩, -⟩
    exact ⟨hline, hhdrs, hbehind, hbody⟩
  · intro h
    exact ⟨h.line, h.hdrs, ⟨h.behind, h.body⟩, trivial⟩

/-- The output of a callback: a line of the log, and the message. -/
theorem logOne_eq (m : Logged) :
    t.logOne lib m = andThen (.ok [.log m.logLine]) (t.printSipmsg lib m.isTx m.msg) := by
  cases m with
  | rx rdata =>
      unfold logOne loggingOnRxMsg
      dsimp only [Logged.isTx, Logged.msg]
      cases t.printSipmsg lib false rdata.msg with
      | error e => rfl
      | ok out => rfl
  | tx tdata =>
      unfold logOne loggingOnTxMsg
      dsimp only [Logged.isTx, Logged.msg]
      cases t.printSipmsg lib true tdata.msg with
      | error e => rfl
      | ok out => rfl

theorem logOne_prints (m : Logged) :
    Prints MsgOut.printed (t.logOne lib m) (t.messageText lib m.isTx m.msg)
      (m.msg.Whole lib m.isTx) := by
  have hline : Prints MsgOut.printed (.ok [.log m.logLine] : Except Abort _) [] True := .all rfl
  rw [logOne_eq]
  exact (hline.andThen (printSipmsg_prints m.isTx m.msg)).congr (by rw [true_and])

theorem logAll_prints (ms : List Logged) :
    Prints MsgOut.printed (t.logAll lib ms) (ms.flatMap fun m => t.messageText lib m.isTx m.msg)
      (∀ m ∈ ms, m.msg.Whole lib m.isTx) := by
  induction ms with
  | nil => exact (Prints.all rfl).congr (by simp)
  | cons m ms ih =>
      rw [List.forall_mem_cons, List.flatMap_cons]
      exact (logOne_prints m).andThen ih

end Parts

end Term

/-- **When the log of a run is the text of its messages**, start lines, headers and bodies in
    their order and nothing else: exactly where every part of every message fits the array it is
    printed from, with no zero byte in it. -/
theorem log_shown_iff (t : Term) (lib : PrintLib) (ms : List Logged) :
    (∃ out, t.logAll lib ms = .ok out ∧
      out.flatMap MsgOut.printed = ms.flatMap fun m => t.messageText lib m.isTx m.msg) ↔
      ∀ m ∈ ms, m.msg.Whole lib m.isTx :=
  (Term.logAll_prints ms).whole

/-! ## 5. The color of the terminal -/

/-- From the color on, no line of the log is written in a color, and none is left behind. -/
def settledFrom : Option MsgColor → List MsgOut → Bool
  | color, [] => color.isNone
  | _, .setColor color :: out => settledFrom (some color) out
  | _, .restoreColor :: out => settledFrom none out
  | color, .print _ :: out => settledFrom color out
  | color, .log _ :: out => color.isNone && settledFrom color out

def MsgOut.colorless : MsgOut → Bool
  | .setColor _ | .restoreColor => false
  | .print _ | .log _ => true

/-- Output that leaves the terminal as it was, and as it is where there are no colors. -/
structure Tidy (t : Term) (out : List MsgOut) : Prop where
  settled : settledFrom none out = true
  colorless : (t.colored || out.all MsgOut.colorless) = true

/-- Output has set a color. -/
def Painted (out : List MsgOut) : Prop := ∃ color, .setColor color ∈ out

theorem settledFrom_append {color : Option MsgColor} {out out' : List MsgOut}
    (h : settledFrom color out = true) (h' : settledFrom none out' = true) :
    settledFrom color (out ++ out') = true := by
  induction out generalizing color with
  | nil =>
      cases color with
      | none => exact h'
      | some color => cases h
  | cons o out ih =>
      cases o with
      | setColor color => exact ih (h : settledFrom (some color) out = true)
      | restoreColor => exact ih (h : settledFrom none out = true)
      | print text => exact ih (h : settledFrom color out = true)
      | log line =>
          obtain ⟨hcolor, hrest⟩ := Bool.and_eq_true_iff.mp h
          exact Bool.and_eq_true_iff.mpr ⟨hcolor, ih hrest⟩

section Tidy

variable {t : Term} {lib : PrintLib} {hlib : HdrLib} {hdrs : List SipHdr}

theorem Tidy.append (out out' : List MsgOut) (h : Tidy t out) (h' : Tidy t out') :
    Tidy t (out ++ out') where
  settled := settledFrom_append h.settled h'.settled
  colorless := by
    have hleft := h.colorless
    have hright := h'.colorless
    rw [Bool.or_eq_true] at hleft hright ⊢
    rw [List.all_append, Bool.and_eq_true]
    rcases hleft with hcolored | hleft
    · exact Or.inl hcolored
    · exact hright.imp_right fun hright => ⟨hleft, hright⟩

theorem Tidy.nil : Tidy t [] := ⟨rfl, Bool.or_true _⟩

theorem Tidy.log (line : LogLine) : Tidy t [.log line] := ⟨rfl, Bool.or_true _⟩

theorem Tidy.print (text : CStr) : Tidy t [.print text] := ⟨rfl, Bool.or_true _⟩

/-- **A line** of three pieces: behind the end of the line the terminal is as before. -/
theorem Tidy.line (c₁ c₂ c₃ : MsgColor) (s₁ s₂ s₃ : CStr) :
    Tidy t (t.paint c₁ s₁ ++ (t.paint c₂ s₂ ++ (t.paint c₃ s₃ ++ t.endLine))) := by
  obtain ⟨has, enable, trail⟩ := t
  cases has <;> cases enable <;> cases trail <;> exact ⟨rfl, rfl⟩

/-- The lines of headers are such lines. -/
theorem Tidy.header (c₁ c₂ c₃ : Color) (s₁ s₂ s₃ : CStr) :
    Tidy t ((t.printColor c₁ s₁ ++ t.printColor c₂ s₂ ++ t.printColor c₃ s₃ ++ t.printTrailChr ++
      t.termRestoreColor).map .ofHdr) := by
  obtain ⟨has, enable, trail⟩ := t
  cases has <;> cases enable <;> cases trail <;> exact ⟨rfl, rfl⟩

namespace Term

theorem printHdrClid_tidy (cid : Option (HdrName × CStr)) :
    Tidy t ((t.printHdrClid cid).map .ofHdr) := by
  cases cid with
  | none => exact .log _
  | some p =>
      obtain ⟨name, id⟩ := p
      exact .header _ _ _ _ _ _

theorem printGenericHeader_tidy (header : CStr) (len : Int) :
    Always ((t.printGenericHeader header len).map (List.map .ofHdr)) (Tidy t) := by
  unfold printGenericHeader
  split
  · exact .error _
  · split
    · exact .error _
    · exact .ok (.log _)
  · dsimp only
    split
    · exact .ok (.header _ _ _ _ _ _)
    · exact .error _

/-- The colors of the headers are among those of a message. -/
theorem map_andThen_ofHdr (r r' : Except Abort (List Out)) :
    (andThen r r').map (List.map MsgOut.ofHdr) =
      andThen (r.map (List.map .ofHdr)) (r'.map (List.map .ofHdr)) := by
  cases r with
  | error e => rfl
  | ok out =>
      cases r' with
      | error e => rfl
      | ok out' => exact congrArg Except.ok List.map_append

theorem printSipmsgHeadersFrom_tidy (cid : Option (HdrName × CStr)) (value : CStr) :
    Always (((t.printSipmsgHeadersFrom hlib cid hdrs value).map List.flatten).map (List.map .ofHdr))
      (Tidy t) := by
  induction hdrs generalizing value with
  | nil => exact .ok .nil
  | cons hdr hdrs ih =>
      cases h : hdr.isCallId with
      | true =>
          rw [headersFrom_callId h, map_andThen_ofHdr]
          exact .andThen Tidy.append (.ok (printHdrClid_tidy cid)) (ih value)
      | false =>
          rw [headersFrom_other h, map_andThen_ofHdr]
          exact .andThen Tidy.append (printGenericHeader_tidy _ _) (ih _)

theorem printSipmsgHead_tidy (line : StartLine) : Always (t.printSipmsgHead lib line) (Tidy t) := by
  unfold printSipmsgHead
  split
  · exact .ok (.line _ _ _ _ _ _)
  · split
    · exact .error _
    · exact .ok (.line _ _ _ _ _ _)

theorem printHolder_tidy (hdr : SipHdr) : Always (t.printHolder hdr) (Tidy t) := by
  unfold printHolder
  split
  · exact printGenericHeader_tidy _ _
  · exact .error _

theorem printContentLenHdr_tidy (len : Nat) : Always (t.printContentLenHdr len) (Tidy t) :=
  printHolder_tidy (clenHdr len)

theorem printBodyText_tidy (text : CStr) : Tidy t (t.printBodyText text) := by
  obtain ⟨has, enable, trail⟩ := t
  cases has <;> cases enable <;> exact ⟨rfl, rfl⟩

theorem printSipmsgBody_tidy (isTx : Bool) (body : Option Body) :
    Always (t.printSipmsgBody isTx body) (Tidy t) := by
  unfold printSipmsgBody
  cases body with
  | none =>
      dsimp only
      split
      · exact printContentLenHdr_tidy 0
      · exact .ok .nil
  | some body =>
      dsimp only
      split
      · exact .ok (.log _)
      · split
        · have htype : Always (t.printContentTypeHdr body) (Tidy t) := by
            unfold printContentTypeHdr
            split
            · exact .ok .nil
            · exact printHolder_tidy _
          exact .andThen Tidy.append htype
            (.andThen Tidy.append (printContentLenHdr_tidy _) (.ok (printBodyText_tidy _)))
        · exact .ok (printBodyText_tidy _)

theorem printSipmsg_tidy (isTx : Bool) (msg : Message) :
    Always (t.printSipmsg lib isTx msg) (Tidy t) :=
  .andThen Tidy.append (printSipmsgHead_tidy msg.line)
    (.andThen Tidy.append (printSipmsgHeadersFrom_tidy _ _)
      (.andThen Tidy.append (printSipmsgBody_tidy isTx msg.body) (.ok (.print _))))

/-- **A run of the log** is tidy. -/
theorem logAll_tidy (ms : List Logged) : Always (t.logAll lib ms) (Tidy t) := by
  induction ms with
  | nil => exact .ok .nil
  | cons m ms ih =>
      refine .andThen Tidy.append ?_ ih
      rw [logOne_eq]
      exact .andThen Tidy.append (.ok (.log _)) (printSipmsg_tidy m.isTx m.msg)

/-- Where there are colors, the start line has some. -/
theorem printSipmsgHead_painted (h : t.colored = true) (line : StartLine) :
    Always (t.printSipmsgHead lib line) Painted := by
  have hfirst : ∀ text behind, Painted (t.paint .COLOR_BLUE text ++ behind) := by
    intro text behind
    refine ⟨.COLOR_BLUE, List.mem_append_left _ ?_⟩
    unfold paint
    rw [if_pos h]
    exact List.mem_cons_self
  unfold printSipmsgHead
  split
  · exact .ok (hfirst _ _)
  · split
    · exact .error _
    · exact .ok (hfirst _ _)

/-- **When a run of the log sets a color**: with the first message, where there are colors. -/
theorem logAll_painted_iff {ms : List Logged} {out : List MsgOut}
    (hout : t.logAll lib ms = .ok out) : Painted out ↔ t.colored = true ∧ ms ≠ [] := by
  have hleft : ∀ out out', Painted out → Painted (out ++ out') := fun out out' h =>
    h.imp fun _ hmem => List.mem_append_left out' hmem
  have hright : ∀ out out', Painted out' → Painted (out ++ out') := fun out out' h =>
    h.imp fun _ hmem => List.mem_append_right out hmem
  constructor
  · rintro ⟨color, hmem⟩
    refine ⟨?_, ?_⟩
    · rcases Bool.or_eq_true_iff.mp (logAll_tidy ms out hout).colorless with hcolored | hall
      · exact hcolored
      · cases List.all_eq_true.mp hall _ hmem
    · rintro rfl
      cases hout
      exact absurd hmem List.not_mem_nil
  · rintro ⟨hcolored, hne⟩
    cases ms with
    | nil => exact absurd rfl hne
    | cons m ms =>
        refine Always.andThen_left hleft ?_ out hout
        rw [logOne_eq]
        exact .andThen_right hright (.andThen_left hleft (printSipmsgHead_painted hcolored _))

end Term

/-- **From the command line on**: behind a run of the log the terminal has its own color, in which
    the lines of the log are written, too; and the run sets one exactly where `--color` is given,
    pjlib has colors, and there was a message. -/
theorem log_colors_of_line {b : Build} {os : List Opt} {left : List CStr} {h : Handler} {app : App}
    (hline : CommandLine b lib.toUriLib os left h app) {hasColor : Bool} {modules : MainLib}
    {ms : List Logged} {out : List MsgOut}
    (hout : (sippakModLoggerRegister hasColor modules app).2.logAll lib ms = .ok out) :
    settledFrom none out = true ∧
      (Painted out ↔ .color ∈ os ∧ hasColor = true ∧ ms ≠ []) := by
  have hcolor : app.cfg.logDecor.contains .PJ_LOG_HAS_COLOR = true ↔ .color ∈ os := by
    rw [List.contains_iff_mem, (configured_of_line hline).logDecor]
    constructor
    · rintro (heq | heq | ⟨o, ho, hmem⟩)
      · cases heq
      · cases heq
      · cases o <;> simp [Opt.decor] at hmem
        exact ho
    · exact fun hmem => Or.inr (Or.inr ⟨.color, hmem, List.mem_singleton_self _⟩)
  refine ⟨(Term.logAll_tidy ms out hout).settled, ?_⟩
  rw [Term.logAll_painted_iff hout, ← hcolor]
  show (app.cfg.logDecor.contains .PJ_LOG_HAS_COLOR && hasColor) = true ∧ ms ≠ [] ↔ _
  rw [Bool.and_eq_true, and_assoc]

end Tidy

/-! ## 6. A logged request -/

/-- The printers of plain URIs and headers. -/
def PrintLib.plain : PrintLib where
  toUriLib := UriLib.plain
  toHdrLib := .exact
  text := UriLib.plainText .PJSIP_URI_IN_REQ_URI
  room uri := (UriLib.plainText .PJSIP_URI_IN_REQ_URI uri).length + 1
  left uri := (UriLib.plainText .PJSIP_URI_IN_REQ_URI uri).take 127
  prints := fun _ _ => rfl
  text_lt := fun _ => Nat.lt_succ_self _
  left_lt := fun uri h => by
    rw [List.length_take]
    omega

/-- An OPTIONS request with a body of four bytes, its Call-ID in the short form. -/
def optionsTx : LoggedTx where
  msg :=
    { hdrs := [.PJSIP_H_CALL_ID ⟨"i".toList, by decide⟩ "1".toList]
      oneCallId := rfl
      line := .req "OPTIONS".toList
        (.sip ⟨false, some "alice".toList, none, "host".toList, 0, none, false, []⟩)
      body := some ⟨⟨some "text".toList, some "plain".toList⟩, "ping".toList, 4, by decide⟩ }
  len := 90
  info := "Request msg OPTIONS/cseq=1".toList
  typeName := "UDP".toList
  dstName := "10.0.0.2".toList
  dstPort := 5060

example : (plainTerm.logAll .plain [.tx optionsTx]).map (List.flatMap MsgOut.printed) =
    .ok ("OPTIONS sip:alice@host SIP/2.0\ni: 1\nContent-Type: text/plain\n".toList ++
      "Content-Length: 4\n\nping\n\n".toList) := by
  decide +kernel

theorem optionsTx_whole : optionsTx.msg.Whole .plain true where
  line := ⟨by decide, by decide, by decide⟩
  hdrs := fun hdr h => by
    obtain rfl := List.mem_singleton.mp h
    exact ⟨SipHdr.not_tooLong_of_fits (by decide), by decide⟩
  behind := fun hdr h => by
    have hmem : hdr ∈ [ctypeHdr ⟨some "text".toList, some "plain".toList⟩, clenHdr 4] := h
    rcases List.mem_pair.mp hmem with rfl | rfl
    · exact ⟨SipHdr.not_tooLong_of_fits (by decide), by decide⟩
    · exact ⟨SipHdr.not_tooLong_of_fits (by decide), by decide⟩
  body := fun body h => by
    obtain rfl := Option.some.inj h
    exact ⟨by decide, by decide⟩

/-- With `--color` it is logged in colors. -/
theorem log_colors_options : ∃ app out,
    CommandLine Build.g711 UriLib.plain [.color] ["ping".toList, "sip:alice@host".toList] .ping
        app ∧
      (sippakModLoggerRegister true .refusing app).2.logAll .plain [.tx optionsTx] = .ok out ∧
      settledFrom none out = true ∧ Painted out := by
  obtain ⟨app, hline⟩ : ∃ app, CommandLine Build.g711 PrintLib.plain.toUriLib [.color]
      ["ping".toList, "sip:alice@host".toList] .ping app :=
    ⟨_, ⟨fun _ => (_, _), ["sippak".toList, "--color".toList, "ping".toList,
      "sip:alice@host".toList], rfl, rfl, rfl, rfl⟩⟩
  have hwhole : ∀ m ∈ [Logged.tx optionsTx], m.msg.Whole .plain m.isTx := fun m h => by
    obtain rfl := List.mem_singleton.mp h
    exact optionsTx_whole
  obtain ⟨out, hout, -⟩ :=
    (Term.logAll_prints (t := (sippakModLoggerRegister true .refusing app).2) _).whole.mpr hwhole
  obtain ⟨hsettled, hpainted⟩ := log_colors_of_line hline hout
  exact ⟨app, out, hline, hout, hsettled,
    hpainted.mpr ⟨List.mem_singleton_self _, rfl, List.cons_ne_nil _ _⟩⟩

end Sippak
