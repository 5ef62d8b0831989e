/-
  File:      Sippak/Mod/AddHeaders.lean
  Subject:   THE CONFIGURED HEADERS OF ONE MESSAGE (sip_helper.c: `sippak_add_sip_headers`).

  SipMangler.lean follows the function through the memory, where one node can be linked into two
  messages. Here a message's headers are a sequence of its own, and the function goes from one
  sequence to the next.

  * `addSipHeaders_eq` -- the function adds what `-A` and `-H` ask for (`configured`) and what is
    not there yet, one after the other;
  * `tx_sends_addSipHeaders`, `request_addSipHeaders` -- it is what `on_tx_request` leaves in a
    message that shares no node, and in the first request of a run;
  * `add_sip_headers_conservative` -- **the message keeps its headers in front, only headers whose
    name is not in front of them are added, the User-Agent once at most, and a second call changes
    nothing.**
-/
import Sippak.Mod.SipMangler

namespace Sippak

open AddAbsent

/-! ## 1. The function on a sequence of headers -/

/-- `pjsip_msg_find_hdr_by_name(msg, name, NULL)`. -/
def findHdrByName (msg : List GenericHdr) (name : CStr) : Option GenericHdr :=
  msg.find? fun hdr => CStr.eqIgnoreCase hdr.name name

/-- One round of the loop over `app->cfg.hdrs`. -/
def addHdrAdd (msg : List GenericHdr) (hdrAdd : GenericHdr) : List GenericHdr :=
  match findHdrByName msg hdrAdd.name with
  | none => msg ++ [hdrAdd]
  | some _ => msg

/-- `sippak_add_sip_headers`. -/
def addSipHeaders (cfg : Cfg) (msg : List GenericHdr) : List GenericHdr :=
  let msg :=
    if findHdrByName msg USER_AGENT = none ∧ 0 < PjStr.slen cfg.userAgent then
      msg ++ [⟨USER_AGENT, PjStr.text cfg.userAgent⟩]
    else msg
  if 0 < cfg.hdrs.cnt then cfg.hdrs.items.foldl addHdrAdd msg else msg

/-! ## 2. As additions of what is not there -/

/-- The headers `-A` and `-H` ask for, in the order they are tried. -/
def configured (cfg : Cfg) : List GenericHdr :=
  (if 0 < PjStr.slen cfg.userAgent then [⟨USER_AGENT, PjStr.text cfg.userAgent⟩] else []) ++
    cfg.hdrs.items

theorem findHdrByName_eq_none_iff (msg : List GenericHdr) (hdr : GenericHdr) :
    findHdrByName msg hdr.name = none ↔ msg.any (sameName hdr) = false := by
  rw [findHdrByName, List.find?_eq_none, List.any_eq_false]
  rfl

theorem addHdrAdd_eq : addHdrAdd = addAbsent sameName := by
  funext msg hdrAdd
  have hiff := findHdrByName_eq_none_iff msg hdrAdd
  unfold addHdrAdd
  cases hf : findHdrByName msg hdrAdd.name with
  | none => rw [addAbsent_of_not (hiff.mp hf)]
  | some found =>
      have hany : msg.any (sameName hdrAdd) = true :=
        (Bool.not_eq_false _).mp fun hb => by
          rw [hiff.mpr hb] at hf
          cases hf
      rw [addAbsent_of_any hany]

/-- The first part of the function. -/
theorem withUserAgent_eq (cfg : Cfg) (msg : List GenericHdr) :
    (if findHdrByName msg USER_AGENT = none ∧ 0 < PjStr.slen cfg.userAgent then
      msg ++ [⟨USER_AGENT, PjStr.text cfg.userAgent⟩] else msg) =
      withUserAgent cfg.userAgent msg := by
  have hiff := findHdrByName_eq_none_iff msg ⟨USER_AGENT, PjStr.text cfg.userAgent⟩
  dsimp only at hiff
  unfold withUserAgent
  by_cases hua : 0 < PjStr.slen cfg.userAgent
  · rw [if_pos hua]
    by_cases hf : findHdrByName msg USER_AGENT = none
    · rw [if_pos ⟨hf, hua⟩, addAbsent_of_not (hiff.mp hf)]
    · rw [if_neg fun hb => hf hb.1, addAbsent_of_any]
      exact (Bool.not_eq_false _).mp fun hb => hf (hiff.mpr hb)
  · rw [if_neg hua, if_neg fun hb => hua hb.2]

/-- **The function adds what is configured and not there yet**: the User-Agent, then the custom
    headers. -/
theorem addSipHeaders_eq_addAll (cfg : Cfg) (msg : List GenericHdr) :
    addSipHeaders cfg msg =
      addAll sameName (withUserAgent cfg.userAgent msg) cfg.hdrs.items := by
  unfold addSipHeaders
  rw [withUserAgent_eq, addHdrAdd_eq]
  dsimp only
  split
  · rfl
  · rename_i hcnt
    -- the test of the counter only skips a loop without rounds
    have hnil : cfg.hdrs.items = [] := by
      rw [Nat.not_lt_eq, Nat.le_zero_eq] at hcnt
      exact List.length_eq_zero_iff.mp hcnt
    rw [hnil]
    rfl

theorem addSipHeaders_eq (cfg : Cfg) (msg : List GenericHdr) :
    addSipHeaders cfg msg = addAll sameName msg (configured cfg) := by
  rw [addSipHeaders_eq_addAll, configured, addAll_append]
  unfold withUserAgent
  split <;> rfl

/-! ## 3. What `on_tx_request` leaves in a message -/

/-- **On the wire**: a call that returns leaves in a message that shares no node what the function
    makes of its headers. -/
theorem tx_sends_addSipHeaders {cfg : Cfg} {w w' : Wire} {msg : Addr} {fuel : Nat} (h : w.Inv)
    (hmsg : msg ∈ w.msgs) (hclear : Clear w msg) (hua : w.userAgent = cfg.userAgent)
    (hhdrs : w.hdrs.map w.store.hdr = cfg.hdrs.items)
    (hs : onTxRequest fuel msg w = some w') : w'.sent msg = addSipHeaders cfg (w.sent msg) := by
  rw [addSipHeaders_eq_addAll, ← hua, ← hhdrs]
  exact (tx_sends h hmsg hclear hs).sent

/-- The first request of a run, with the headers pjsip gave it. -/
theorem request_addSipHeaders (cfg : Cfg) (orig : List GenericHdr) :
    ∀ fuel w, onTxRequest fuel (Wire.start cfg).store.brk ((Wire.start cfg).request orig) =
        some w → w.sent (Wire.start cfg).store.brk = addSipHeaders cfg orig := by
  intro fuel w htx
  rw [addSipHeaders_eq_addAll]
  exact (request_tx cfg orig).2 fuel w htx

/-! ## 4. Conservative, and the same when done again -/

/-- The name of the header is User-Agent. -/
def isUserAgent (hdr : GenericHdr) : Bool := CStr.eqIgnoreCase hdr.name USER_AGENT

/-- What `sippak_add_sip_headers` may make of the headers `msg`: they stay in front (`kept`), every
    header behind them was asked for and has a name that no header in front of it has (`absent`),
    at most one of them is a User-Agent, and the function leaves the result as it is (`again`). -/
structure AddsAbsent (cfg : Cfg) (msg msg' : List GenericHdr) : Prop where
  kept : msg <+: msg'
  absent : ∀ pre hdr post, msg' = pre ++ hdr :: post → msg.length ≤ pre.length →
    hdr ∈ configured cfg ∧ ∀ x ∈ pre, CStr.eqIgnoreCase x.name hdr.name = false
  userAgentOnce : (msg'.drop msg.length).countP isUserAgent ≤ 1
  again : addSipHeaders cfg msg' = msg'

theorem sameName_of_isUserAgent (x y : GenericHdr) (hx : isUserAgent x = true)
    (hy : isUserAgent y = true) : sameName x y = true := by
  unfold isUserAgent at hx hy
  rw [CStr.eqIgnoreCase_iff] at hx hy
  exact CStr.eqIgnoreCase_iff.mpr (hy.trans hx.symm)

/-- **Adding the configured headers is conservative and idempotent**, for every message and every
    configuration. -/
theorem add_sip_headers_conservative (cfg : Cfg) (msg : List GenericHdr) :
    AddsAbsent cfg msg (addSipHeaders cfg msg) := by
  have hagain : addSipHeaders cfg (addSipHeaders cfg msg) = addSipHeaders cfg msg := by
    simp only [addSipHeaders_eq]
    exact addAll_idem sameName_refl msg (configured cfg)
  obtain ⟨more, heq, h⟩ := addAll_appended sameName msg (configured cfg)
  rw [← addSipHeaders_eq] at heq
  refine ⟨⟨more, heq.symm⟩, fun pre hdr post hsplit hlen => ?_, ?_, hagain⟩
  · -- the header stands behind those of the message
    rw [heq] at hsplit
    obtain ⟨new, rfl⟩ : msg <+: pre :=
      List.prefix_of_prefix_length_le ⟨more, hsplit⟩ (List.prefix_append _ _) hlen
    rw [List.append_assoc] at hsplit
    have hmore : more = new ++ hdr :: post := List.append_cancel_left hsplit
    have hfront := h.inFront hmore
    rw [List.any_eq_false] at hfront
    refine ⟨h.asked hdr ?_, fun x hx => Bool.eq_false_iff.mpr (hfront x hx)⟩
    rw [hmore]
    exact List.mem_append_right _ List.mem_cons_self
  · rw [heq, List.drop_left]
    exact h.countP_le_one sameName_of_isUserAgent

end Sippak
