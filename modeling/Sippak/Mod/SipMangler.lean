/-
  File:      Sippak/Mod/SipMangler.lean
  Subject:   CUSTOM HEADERS ON THE WIRE (sip_mangler.c: `on_tx_request`; sip_helper.c:
             `sippak_add_sip_headers`).

  The header nodes of `-H` are made once, while the options are parsed, and `on_tx_request` links
  those very nodes into every request that lacks a header of their name; a User-Agent of `-A` is a
  new node each time.

  * `tx_sends` -- **one call, as a function on header sequences**: where no node it adds is in
    another message (`Clear`), it appends the User-Agent and then each custom header whose name
    is not there yet (`AddAbsent.addAll`), and touches no other message;
  * `tx_again` -- a second call on the same message, a retransmission, adds nothing;
  * `lists_stay_wellFormed` -- so in every run whose sends are all `Clear`, every list stays
    well formed and every further send that is `Clear` returns;
  * `headers_arrive_iff` -- **what is given on the command line arrives**, in order and complete,
    exactly when no two of the given names are equal up to case.
-/
import Sippak.HeaderList
import Sippak.Lib.Run
import Sippak.Tables

namespace Sippak

open LinkRing AddAbsent Runs

/-! ## 1. The callback -/

def USER_AGENT : CStr := "User-Agent".toList

/-- The first part of `sippak_add_sip_headers`; `none` = the search did not end in time. -/
def addUserAgent (fuel : Nat) (msg : Addr) (w : Wire) : Option Wire :=
  match w.findHdr fuel msg USER_AGENT with
  | none => none
  | some found =>
    if found = none ∧ 0 < PjStr.slen w.userAgent then
      some (w.addNew msg ⟨USER_AGENT, PjStr.text w.userAgent⟩)
    else some w

/-- One round of the loop over `app->cfg.hdrs`. -/
def addCustom (fuel : Nat) (msg : Addr) (w : Wire) (hdrAdd : Addr) : Option Wire :=
  match w.findHdr fuel msg (w.store.hdr hdrAdd).name with
  | none => none
  | some none => some (w.pjsipMsgAddHdr msg hdrAdd)
  | some (some _) => some w

/-- `sippak_add_sip_headers`. -/
def sippakAddSipHeaders (fuel : Nat) (msg : Addr) (w : Wire) : Option Wire :=
  match addUserAgent fuel msg w with
  | none => none
  | some w => w.hdrs.foldlM (addCustom fuel msg) w

/-- `on_tx_request`; it always returns `PJ_SUCCESS`. -/
def onTxRequest (fuel : Nat) (msg : Addr) (w : Wire) : Option Wire :=
  sippakAddSipHeaders fuel msg w

/-! ## 2. One call as a function on header sequences -/

/-- `x` is kept out by `y`: the name of `y` is that of `x` up to case. -/
def sameName (x y : GenericHdr) : Bool := CStr.eqIgnoreCase y.name x.name

/-- The headers with the User-Agent of `-A`. -/
def withUserAgent (ua : PjStr) (l : List GenericHdr) : List GenericHdr :=
  if 0 < PjStr.slen ua then addAbsent sameName l ⟨USER_AGENT, PjStr.text ua⟩ else l

/-- From `w` to `w'` only the message `msg` changed: it now has the headers `l`. -/
structure Sends (msg : Addr) (w : Wire) (l : List GenericHdr) (w' : Wire) : Prop where
  inv : w'.Inv
  hdrs : w'.hdrs = w.hdrs
  userAgent : w'.userAgent = w.userAgent
  msgs : w'.msgs = w.msgs
  others : ∀ m, m ≠ msg → w'.own m = w.own m
  content : ∀ a < w.store.brk, w'.store.hdr a = w.store.hdr a
  grown : w.store.brk ≤ w'.store.brk
  sent : w'.sent msg = l

/-- No custom header that `msg` lacks is in another message. -/
def Clear (w : Wire) (msg : Addr) : Prop :=
  ∀ c ∈ w.hdrs, ∀ m ∈ w.msgs, m ≠ msg → c ∈ w.own m →
    (w.sent msg).any (sameName (w.store.hdr c)) = true

section Call

variable {w w' : Wire} {msg : Addr} {fuel : Nat}

theorem Sends.refl (h : w.Inv) (msg : Addr) : Sends msg w (w.sent msg) w :=
  ⟨h, rfl, rfl, rfl, fun _ _ => rfl, fun _ _ => rfl, Nat.le_refl _, rfl⟩

theorem Sends.trans {w₁ : Wire} {l l' : List GenericHdr} (h : Sends msg w l w₁)
    (h' : Sends msg w₁ l' w') : Sends msg w l' w' where
  inv := h'.inv
  hdrs := h'.hdrs.trans h.hdrs
  userAgent := h'.userAgent.trans h.userAgent
  msgs := h'.msgs.trans h.msgs
  others m hne := (h'.others m hne).trans (h.others m hne)
  content a ha := (h'.content a (Nat.lt_of_lt_of_le ha h.grown)).trans (h.content a ha)
  grown := Nat.le_trans h.grown h'.grown
  sent := h'.sent

/-- The custom headers say afterwards what they said before. -/
theorem Sends.hdrs_map {l : List GenericHdr} (hs : Sends msg w l w') (h : w.Inv) :
    w'.hdrs.map w'.store.hdr = w.hdrs.map w.store.hdr := by
  rw [hs.hdrs]
  exact List.map_congr_left fun c hc => hs.content c (h.hdrsBelow c hc)

theorem sent_create (h : w.Inv) (hmsg : msg ∈ w.msgs) (hdr : GenericHdr) :
    (w.create hdr).sent msg = w.sent msg := by
  refine List.map_congr_left fun a ha => ?_
  have hlt := h.below msg hmsg a (List.mem_cons_of_mem _ ha)
  exact Function.update_of_ne (Nat.ne_of_lt hlt) _ _

theorem sent_msgAddHdr (w : Wire) (msg x : Addr) :
    (w.pjsipMsgAddHdr msg x).sent msg = w.sent msg ++ [w.store.hdr x] := by
  show (Function.update w.own msg (w.own msg ++ [x]) msg).map w.store.hdr = _
  rw [Function.update_self, List.map_append]
  rfl

/-- A new header is appended. -/
theorem addNew_sends (h : w.Inv) (hmsg : msg ∈ w.msgs) (hdr : GenericHdr) :
    Sends msg w (w.sent msg ++ [hdr]) (w.addNew msg hdr) where
  inv := h.addNew hmsg hdr
  hdrs := rfl
  userAgent := rfl
  msgs := rfl
  others m hne := Function.update_of_ne hne _ _
  content a ha := Function.update_of_ne (Nat.ne_of_lt ha) _ _
  grown := Nat.le_succ _
  sent := by
    show ((w.create hdr).pjsipMsgAddHdr msg w.store.brk).sent msg = _
    rw [sent_msgAddHdr, sent_create h hmsg]
    show w.sent msg ++ [Function.update w.store.hdr w.store.brk hdr w.store.brk] = _
    rw [Function.update_self]

/-- A search that found nothing says that no header of that name goes out. -/
theorem find_none_iff (w : Wire) (msg : Addr) (hdr : GenericHdr) :
    ((w.own msg).find? fun a => CStr.eqIgnoreCase (w.store.hdr a).name hdr.name) = none ↔
      (w.sent msg).any (sameName hdr) = false := by
  rw [List.find?_eq_none, Wire.sent, List.any_map, List.any_eq_false]
  rfl

/-- The User-Agent is appended where it is wanted and lacking. -/
theorem addUserAgent_sends (h : w.Inv) (hmsg : msg ∈ w.msgs)
    (hs : addUserAgent fuel msg w = some w') :
    Sends msg w (withUserAgent w.userAgent (w.sent msg)) w' := by
  unfold addUserAgent at hs
  cases hf : w.findHdr fuel msg USER_AGENT with
  | none =>
      simp only [hf] at hs
      cases hs
  | some found =>
      simp only [hf] at hs
      have hfound := Wire.findHdr_eq h hmsg hf
      have hiff := find_none_iff w msg ⟨USER_AGENT, PjStr.text w.userAgent⟩
      rw [← hfound] at hiff
      unfold withUserAgent
      by_cases hua : 0 < PjStr.slen w.userAgent
      · rw [if_pos hua]
        by_cases hn : found = none
        · rw [if_pos ⟨hn, hua⟩] at hs
          cases hs
          rw [addAbsent_of_not (hiff.mp hn)]
          exact addNew_sends h hmsg _
        · rw [if_neg fun hb => hn hb.1] at hs
          cases hs
          have hany : (w.sent msg).any (sameName ⟨USER_AGENT, PjStr.text w.userAgent⟩) = true :=
            (Bool.not_eq_false _).mp fun hb => hn (hiff.mpr hb)
          rw [addAbsent_of_any hany]
          exact Sends.refl h msg
      · rw [if_neg hua]
        rw [if_neg fun hb => hua hb.2] at hs
        cases hs
        exact Sends.refl h msg

/-- **One round of the loop** appends the custom header unless its name is there. -/
theorem addCustom_sends (h : w.Inv) (hmsg : msg ∈ w.msgs) (hclear : Clear w msg) {c : Addr}
    (hc : c ∈ w.hdrs) (hs : addCustom fuel msg w c = some w') :
    Sends msg w (addAbsent sameName (w.sent msg) (w.store.hdr c)) w' := by
  unfold addCustom at hs
  cases hf : w.findHdr fuel msg (w.store.hdr c).name with
  | none =>
      simp only [hf] at hs
      cases hs
  | some found =>
      simp only [hf] at hs
      have hfound := Wire.findHdr_eq h hmsg hf
      have hiff := find_none_iff w msg (w.store.hdr c)
      rw [← hfound] at hiff
      cases found with
      | none =>
          cases hs
          have hlack := hiff.mp rfl
          -- a node whose name is lacking is in no list at all
          have hfree : ∀ m ∈ w.msgs, c ∉ m :: w.own m := by
            intro m hm hmem
            rcases List.mem_cons.mp hmem with rfl | hown
            · exact h.hdrsNoMsg c hc hm
            · have hany : (w.sent msg).any (sameName (w.store.hdr c)) = true := by
                by_cases he : m = msg
                · subst he
                  rw [List.any_eq_true]
                  exact ⟨w.store.hdr c, List.mem_map_of_mem hown, CStr.eqIgnoreCase_refl _⟩
                · exact hclear c hc m hm he hown
              rw [hlack] at hany
              cases hany
          rw [addAbsent_of_not hlack, ← sent_msgAddHdr]
          exact ⟨h.msgAddHdr hmsg (h.hdrsBelow c hc) hfree, rfl, rfl, rfl,
            fun m hne => Function.update_of_ne hne _ _, fun _ _ => rfl, Nat.le_refl _, rfl⟩
      | some a =>
          cases hs
          have hany : (w.sent msg).any (sameName (w.store.hdr c)) = true := by
            refine (Bool.not_eq_false _).mp fun hb => ?_
            cases hiff.mpr hb
          rw [addAbsent_of_any hany]
          exact Sends.refl h msg

/-- A message that only gained headers stays clear. -/
theorem Clear.mono (hclear : Clear w msg) (h : w.Inv) {l : List GenericHdr}
    (hs : Sends msg w l w') (hpre : w.sent msg <+: l) : Clear w' msg := by
  intro c hc m hm hne hown
  rw [hs.hdrs] at hc
  rw [hs.msgs] at hm
  rw [hs.others m hne] at hown
  rw [hs.sent, hs.content c (h.hdrsBelow c hc)]
  exact any_of_prefix hpre (hclear c hc m hm hne hown)

/-- **The loop** appends what is not there yet, header by header. -/
theorem addCustoms_sends (h : w.Inv) (hmsg : msg ∈ w.msgs) (hclear : Clear w msg) {cs : List Addr}
    (hcs : ∀ c ∈ cs, c ∈ w.hdrs) (hs : cs.foldlM (addCustom fuel msg) w = some w') :
    Sends msg w (addAll sameName (w.sent msg) (cs.map w.store.hdr)) w' := by
  induction cs generalizing w with
  | nil =>
      cases hs
      exact Sends.refl h msg
  | cons c cs ih =>
      rw [List.foldlM_cons] at hs
      obtain ⟨w₁, h1, h2⟩ := Option.bind_eq_some_iff.mp hs
      have hstep := addCustom_sends h hmsg hclear (hcs c List.mem_cons_self) h1
      have hclear₁ := hclear.mono h hstep (prefix_addAbsent _ _)
      have hrest := ih hstep.inv (by rwa [hstep.msgs]) hclear₁
        (fun d hd => by rw [hstep.hdrs]; exact hcs d (List.mem_cons_of_mem _ hd)) h2
      have hmap : cs.map w₁.store.hdr = cs.map w.store.hdr :=
        List.map_congr_left fun d hd =>
          hstep.content d (h.hdrsBelow d (hcs d (List.mem_cons_of_mem _ hd)))
      rw [hstep.sent, hmap] at hrest
      exact hstep.trans hrest

theorem prefix_withUserAgent (ua : PjStr) (l : List GenericHdr) : l <+: withUserAgent ua l := by
  unfold withUserAgent
  split
  · exact prefix_addAbsent _ _
  · exact List.prefix_refl l

/-- **One call of `on_tx_request`**: the User-Agent, then the custom headers, each where its name
    is not there yet; no other message changes. -/
theorem tx_sends (h : w.Inv) (hmsg : msg ∈ w.msgs) (hclear : Clear w msg)
    (hs : onTxRequest fuel msg w = some w') :
    Sends msg w (addAll sameName (withUserAgent w.userAgent (w.sent msg))
      (w.hdrs.map w.store.hdr)) w' := by
  unfold onTxRequest sippakAddSipHeaders at hs
  cases hu : addUserAgent fuel msg w with
  | none =>
      simp only [hu] at hs
      cases hs
  | some w₁ =>
      simp only [hu] at hs
      have hua := addUserAgent_sends h hmsg hu
      have hloop := addCustoms_sends hua.inv (by rwa [hua.msgs])
        (hclear.mono h hua (prefix_withUserAgent _ _)) (fun c hc => hc) hs
      rw [hua.sent, hua.hdrs_map h] at hloop
      exact hua.trans hloop

theorem sameName_refl (x : GenericHdr) : sameName x x = true := CStr.eqIgnoreCase_refl _

/-- Where a header of that name is in front already, the User-Agent is not added. -/
theorem withUserAgent_again {ua : PjStr} {l l' : List GenericHdr}
    (h : withUserAgent ua l <+: l') : withUserAgent ua l' = l' := by
  unfold withUserAgent at h ⊢
  split
  · rename_i hua
    rw [if_pos hua] at h
    have hany := addAll_present sameName_refl l [⟨USER_AGENT, PjStr.text ua⟩] _
      (List.mem_singleton_self _)
    have hany' := any_of_prefix h hany
    exact addAbsent_of_any hany'
  · rfl

/-- **A retransmission adds nothing**: the second call on a message leaves its headers as the
    first one did. -/
theorem tx_again {w'' : Wire} {fuel' : Nat} (h : w.Inv) (hmsg : msg ∈ w.msgs)
    (hclear : Clear w msg) (hs : onTxRequest fuel msg w = some w')
    (hs' : onTxRequest fuel' msg w' = some w'') : w''.sent msg = w'.sent msg := by
  have h1 := tx_sends h hmsg hclear hs
  have hpre : withUserAgent w.userAgent (w.sent msg) <+:
      addAll sameName (withUserAgent w.userAgent (w.sent msg)) (w.hdrs.map w.store.hdr) :=
    prefix_addAll _ _
  have hclear' := hclear.mono h h1 ((prefix_withUserAgent _ _).trans hpre)
  have h2 := tx_sends h1.inv (by rwa [h1.msgs]) hclear' hs'
  calc w''.sent msg
      = addAll sameName (withUserAgent w.userAgent (w'.sent msg)) (w.hdrs.map w.store.hdr) := by
        rw [h2.sent, h1.userAgent, h1.hdrs_map h]
    _ = addAll sameName (w'.sent msg) (w.hdrs.map w.store.hdr) := by
        rw [withUserAgent_again (by rw [h1.sent]; exact hpre)]
    _ = w'.sent msg := by
        rw [h1.sent]
        exact addAll_idem sameName_refl _ _

/-! ### The call returns -/

theorem length_sent (w : Wire) (msg : Addr) : (w.sent msg).length = (w.own msg).length :=
  List.length_map _

theorem addCustom_returns (h : w.Inv) (hmsg : msg ∈ w.msgs) (c : Addr)
    (hn : (w.own msg).length ≤ fuel) : ∃ w', addCustom fuel msg w c = some w' := by
  obtain ⟨r, hr⟩ := Wire.findHdr_isSome h hmsg (w.store.hdr c).name hn
  unfold addCustom
  rw [hr]
  cases r with
  | none => exact ⟨_, rfl⟩
  | some a => exact ⟨_, rfl⟩

theorem length_addAbsent_le (l : List GenericHdr) (x : GenericHdr) :
    (addAbsent sameName l x).length ≤ l.length + 1 :=
  length_addAll_le sameName l [x]

theorem addCustoms_return (h : w.Inv) (hmsg : msg ∈ w.msgs) (hclear : Clear w msg) {cs : List Addr}
    (hcs : ∀ c ∈ cs, c ∈ w.hdrs) (hn : (w.own msg).length + cs.length ≤ fuel) :
    ∃ w', cs.foldlM (addCustom fuel msg) w = some w' := by
  induction cs generalizing w with
  | nil => exact ⟨w, rfl⟩
  | cons c cs ih =>
      rw [List.length_cons] at hn
      have hown : (w.own msg).length ≤ fuel := by omega
      obtain ⟨w₁, h1⟩ := addCustom_returns h hmsg c hown
      have hstep := addCustom_sends h hmsg hclear (hcs c List.mem_cons_self) h1
      have hlen := length_addAbsent_le (w.sent msg) (w.store.hdr c)
      rw [← hstep.sent, length_sent, length_sent] at hlen
      obtain ⟨w', h2⟩ := ih hstep.inv (by rwa [hstep.msgs])
        (hclear.mono h hstep (prefix_addAbsent _ _))
        (fun d hd => by rw [hstep.hdrs]; exact hcs d (List.mem_cons_of_mem _ hd)) (by omega)
      exact ⟨w', by rw [List.foldlM_cons, h1]; exact h2⟩

/-- **A call on a clear message returns**, given one step for each header it can meet. -/
theorem tx_returns (h : w.Inv) (hmsg : msg ∈ w.msgs) (hclear : Clear w msg)
    (hn : (w.own msg).length + 1 + w.hdrs.length ≤ fuel) :
    ∃ w', onTxRequest fuel msg w = some w' := by
  have hown : (w.own msg).length ≤ fuel := by omega
  obtain ⟨r, hr⟩ := Wire.findHdr_isSome h hmsg USER_AGENT hown
  have hu : ∃ w₁, addUserAgent fuel msg w = some w₁ := by
    unfold addUserAgent
    rw [hr]
    dsimp only
    split
    · exact ⟨_, rfl⟩
    · exact ⟨_, rfl⟩
  obtain ⟨w₁, hu⟩ := hu
  have hua := addUserAgent_sends h hmsg hu
  have hlen : (w₁.own msg).length ≤ (w.own msg).length + 1 := by
    rw [← length_sent, ← length_sent, hua.sent]
    unfold withUserAgent
    split
    · exact length_addAbsent_le _ _
    · omega
  unfold onTxRequest sippakAddSipHeaders
  rw [hu]
  refine addCustoms_return hua.inv (by rwa [hua.msgs])
    (hclear.mono h hua (prefix_withUserAgent _ _)) (fun c hc => hc) ?_
  rw [hua.hdrs]
  omega

/-! ### The call has one result -/

/-- A longer search has the same result: so has a call. -/
theorem addUserAgent_mono {n : Nat} (hn : fuel ≤ n) (hs : addUserAgent fuel msg w = some w') :
    addUserAgent n msg w = some w' := by
  unfold addUserAgent at hs ⊢
  cases hf : w.findHdr fuel msg USER_AGENT with
  | none =>
      rw [hf] at hs
      cases hs
  | some found =>
      have hmono : w.findHdr n msg USER_AGENT = some found := search_mono hf hn
      rw [hf] at hs
      rw [hmono]
      exact hs

theorem addCustom_mono {n : Nat} (hn : fuel ≤ n) {c : Addr}
    (hs : addCustom fuel msg w c = some w') : addCustom n msg w c = some w' := by
  unfold addCustom at hs ⊢
  cases hf : w.findHdr fuel msg (w.store.hdr c).name with
  | none =>
      rw [hf] at hs
      cases hs
  | some found =>
      have hmono : w.findHdr n msg (w.store.hdr c).name = some found := search_mono hf hn
      rw [hf] at hs
      rw [hmono]
      exact hs

theorem addCustoms_mono {n : Nat} (hn : fuel ≤ n) {cs : List Addr}
    (hs : cs.foldlM (addCustom fuel msg) w = some w') :
    cs.foldlM (addCustom n msg) w = some w' := by
  induction cs generalizing w with
  | nil => exact hs
  | cons c cs ih =>
      rw [List.foldlM_cons] at hs ⊢
      obtain ⟨w₁, hc, hrest⟩ := Option.bind_eq_some_iff.mp hs
      exact Option.bind_eq_some_iff.mpr ⟨w₁, addCustom_mono hn hc, ih hrest⟩

theorem onTxRequest_mono {n : Nat} (hn : fuel ≤ n) (hs : onTxRequest fuel msg w = some w') :
    onTxRequest n msg w = some w' := by
  unfold onTxRequest sippakAddSipHeaders at hs ⊢
  cases hu : addUserAgent fuel msg w with
  | none =>
      rw [hu] at hs
      cases hs
  | some w₁ =>
      have hmono := addUserAgent_mono hn hu
      rw [hu] at hs
      rw [hmono]
      have hfold : w₁.hdrs.foldlM (addCustom fuel msg) w₁ = some w' := hs
      exact addCustoms_mono hn hfold

end Call

/-! ## 3. Runs -/

/-- What happens to the messages of a run: pjsip makes one, pjsip adds a header of its own to one,
    or one is sent. -/
inductive TxEvent where
  | newMsg
  | pjsipAdds (msg : Addr) (h : GenericHdr)
  | tx (msg : Addr)

/-- One event; a send is there once its searches end. -/
def TxStep (w : Wire) : TxEvent → Wire → Prop
  | .newMsg, w' => w' = w.newMsg
  | .pjsipAdds msg h, w' => msg ∈ w.msgs ∧ w' = w.addNew msg h
  | .tx msg, w' => msg ∈ w.msgs ∧ ∃ fuel, onTxRequest fuel msg w = some w'

/-- A send is of a clear message. -/
def ClearStep (w : Wire) : TxEvent → Prop
  | .tx msg => Clear w msg
  | _ => True

/-- The node `add_custom_header` makes for a custom header. -/
def Wire.registerHdr (w : Wire) (h : GenericHdr) : Wire :=
  { w.create h with hdrs := w.hdrs ++ [w.store.brk] }

/-- No node and no message, but the configured User-Agent. -/
def Wire.empty (ua : PjStr) : Wire where
  store := ⟨⟨id, id⟩, fun _ => ⟨[], []⟩, 0⟩
  hdrs := []
  userAgent := ua
  msgs := []
  own := fun _ => []

/-- The memory once the options are parsed. -/
def Wire.start (cfg : Cfg) : Wire :=
  cfg.hdrs.items.foldl Wire.registerHdr (Wire.empty cfg.userAgent)

/-- Parsing made the custom headers, in order, and no message. -/
theorem registered (ua : PjStr) (hs : List GenericHdr) :
    (hs.foldl Wire.registerHdr (Wire.empty ua)).Inv ∧
      (hs.foldl Wire.registerHdr (Wire.empty ua)).msgs = [] ∧
      (hs.foldl Wire.registerHdr (Wire.empty ua)).userAgent = ua ∧
      (hs.foldl Wire.registerHdr (Wire.empty ua)).hdrs.map
        (hs.foldl Wire.registerHdr (Wire.empty ua)).store.hdr = hs := by
  induction hs using List.reverseRecOn with
  | nil => exact ⟨⟨by simp [Wire.empty], by simp [Wire.empty], by simp [Wire.empty],
      by simp [Wire.empty], by simp [Wire.empty]⟩, rfl, rfl, rfl⟩
  | append_singleton hs h ih =>
      rw [List.foldl_append]
      generalize hs.foldl Wire.registerHdr (Wire.empty ua) = w at ih
      obtain ⟨hinv, hmsgs, hua, hmap⟩ := ih
      have hcreate := hinv.create h
      show (w.registerHdr h).Inv ∧ (w.registerHdr h).msgs = [] ∧
        (w.registerHdr h).userAgent = ua ∧
        (w.registerHdr h).hdrs.map (w.registerHdr h).store.hdr = hs ++ [h]
      refine ⟨⟨hcreate.ring, hcreate.apart, hcreate.below, fun c hc => ?_, fun c hc hm => ?_⟩,
        hmsgs, hua, ?_⟩
      · rcases List.mem_append.mp hc with hc | hc
        · exact hcreate.hdrsBelow c hc
        · rw [List.mem_singleton.mp hc]
          exact Nat.lt_succ_self _
      · have hm' : c ∈ w.msgs := hm
        rw [hmsgs] at hm'
        cases hm'
      · have hold : w.hdrs.map (Function.update w.store.hdr w.store.brk h) =
            w.hdrs.map w.store.hdr :=
          List.map_congr_left fun c hc =>
            Function.update_of_ne (Nat.ne_of_lt (hinv.hdrsBelow c hc)) _ _
        show (w.hdrs ++ [w.store.brk]).map (Function.update w.store.hdr w.store.brk h) = _
        rw [List.map_append, hold, hmap, List.map_singleton, Function.update_self]

theorem start_inv (cfg : Cfg) : (Wire.start cfg).Inv := (registered cfg.userAgent _).1

/-- **One step** that is clear keeps the invariant. -/
theorem TxStep.inv {w w' : Wire} {e : TxEvent} (h : w.Inv) (hclear : ClearStep w e)
    (hs : TxStep w e w') : w'.Inv := by
  cases e with
  | newMsg =>
      have he : w' = w.newMsg := hs
      rw [he]
      exact h.newMsg
  | pjsipAdds msg hdr =>
      obtain ⟨hmsg, he⟩ : msg ∈ w.msgs ∧ w' = w.addNew msg hdr := hs
      rw [he]
      exact h.addNew hmsg hdr
  | tx msg =>
      obtain ⟨hmsg, fuel, htx⟩ : msg ∈ w.msgs ∧ ∃ fuel, onTxRequest fuel msg w = some w' := hs
      exact (tx_sends h hmsg hclear htx).inv

/-- **One step has one outcome**, however long its searches may take. -/
theorem TxStep.unique (w : Wire) (e : TxEvent) (a b : Wire) (ha : TxStep w e a)
    (hb : TxStep w e b) : a = b := by
  cases e with
  | newMsg =>
      have ha' : a = w.newMsg := ha
      have hb' : b = w.newMsg := hb
      rw [ha', hb']
  | pjsipAdds msg hdr =>
      obtain ⟨-, ha'⟩ : msg ∈ w.msgs ∧ a = w.addNew msg hdr := ha
      obtain ⟨-, hb'⟩ : msg ∈ w.msgs ∧ b = w.addNew msg hdr := hb
      rw [ha', hb']
  | tx msg =>
      obtain ⟨-, n, hn⟩ : msg ∈ w.msgs ∧ ∃ fuel, onTxRequest fuel msg w = some a := ha
      obtain ⟨-, m, hm⟩ : msg ∈ w.msgs ∧ ∃ fuel, onTxRequest fuel msg w = some b := hb
      have hleft := onTxRequest_mono (Nat.le_max_left n m) hn
      have hright := onTxRequest_mono (Nat.le_max_right n m) hm
      exact Option.some.inj (hleft.symm.trans hright)

/-- A step behind a run is clear where it is in the one state the run leads to. -/
theorem EachStep.snoc_of_run {w₀ w : Wire} {es : List TxEvent} {e : TxEvent}
    (h : EachStep TxStep w₀ ClearStep es) (hrun : Run TxStep w₀ es w) (he : ClearStep w e) :
    EachStep TxStep w₀ ClearStep (es ++ [e]) := by
  refine h.snoc fun w' hw' => ?_
  rw [hw'.unique TxStep.unique hrun]
  exact he

/-- **In a run whose sends are all clear every list is well formed in every state**, and every
    further send of a clear message returns. -/
theorem lists_stay_wellFormed {cfg : Cfg} {es : List TxEvent} {w : Wire}
    (h : Run TxStep (Wire.start cfg) es w) (hC : EachStep TxStep (Wire.start cfg) ClearStep es) :
    w.WellFormed ∧ ∀ msg ∈ w.msgs, Clear w msg → ∃ fuel w', onTxRequest fuel msg w = some w' := by
  have hinv : w.Inv :=
    h.keepsUnder (start_inv cfg) (fun _ _ _ hinv hclear hs => TxStep.inv hinv hclear hs) hC
  exact ⟨hinv.wellFormed, fun msg hmsg hclear =>
    ⟨_, tx_returns hinv hmsg hclear (Nat.le_refl _)⟩⟩

/-- The configuration of `-H "X: 1"`; its node is at the address 0. -/
def cfgX1 : Cfg :=
  { sippakInit.cfg with hdrs := ⟨[⟨"X".toList, "1".toList⟩], by decide⟩ }

/-- One request, sent twice, and a second one that has a header of the name. -/
theorem lists_wellFormed_retransmitted : ∃ w,
    Run TxStep (Wire.start cfgX1)
        [.newMsg, .tx 1, .tx 1, .newMsg, .pjsipAdds 2 ⟨"x".toList, "2".toList⟩, .tx 2] w ∧
      w.sent 1 = [⟨"X".toList, "1".toList⟩] ∧ w.sent 2 = [⟨"x".toList, "2".toList⟩] ∧
      (w.WellFormed ∧
        ∀ msg ∈ w.msgs, Clear w msg → ∃ fuel w', onTxRequest fuel msg w = some w') := by
  have h0 : EachStep TxStep (Wire.start cfgX1) ClearStep [] := fun p e hp => by simp at hp
  have h1 : Run TxStep (Wire.start cfgX1) ([] ++ [.newMsg]) _ := .step .start rfl
  have h2 : Run TxStep (Wire.start cfgX1) ([] ++ [.newMsg] ++ [.tx 1]) _ :=
    .step h1 ⟨by decide, 2, rfl⟩
  have h3 : Run TxStep (Wire.start cfgX1) ([] ++ [.newMsg] ++ [.tx 1] ++ [.tx 1]) _ :=
    .step h2 ⟨by decide, 2, rfl⟩
  have h4 : Run TxStep (Wire.start cfgX1) ([] ++ [.newMsg] ++ [.tx 1] ++ [.tx 1] ++ [.newMsg]) _ :=
    .step h3 rfl
  have h5 : Run TxStep (Wire.start cfgX1) ([] ++ [.newMsg] ++ [.tx 1] ++ [.tx 1] ++ [.newMsg] ++
      [.pjsipAdds 2 ⟨"x".toList, "2".toList⟩]) _ := .step h4 ⟨by decide, rfl⟩
  have h6 : Run TxStep (Wire.start cfgX1) ([] ++ [.newMsg] ++ [.tx 1] ++ [.tx 1] ++ [.newMsg] ++
      [.pjsipAdds 2 ⟨"x".toList, "2".toList⟩] ++ [.tx 2]) _ := .step h5 ⟨by decide, 2, rfl⟩
  have c1 := EachStep.snoc_of_run h0 .start (e := .newMsg) trivial
  have c2 := EachStep.snoc_of_run c1 h1 (e := .tx 1) (by unfold ClearStep Clear; decide)
  have c3 := EachStep.snoc_of_run c2 h2 (e := .tx 1) (by unfold ClearStep Clear; decide)
  have c4 := EachStep.snoc_of_run c3 h3 (e := .newMsg) trivial
  have c5 := EachStep.snoc_of_run c4 h4
    (e := .pjsipAdds 2 ⟨"x".toList, "2".toList⟩) trivial
  have c6 := EachStep.snoc_of_run c5 h5 (e := .tx 2) (by unfold ClearStep Clear; decide)
  exact ⟨_, h6, rfl, rfl, lists_stay_wellFormed h6 c6⟩

/-- **Two requests with one custom header**: from the first message the next links lead into the
    second and never come back. -/
theorem two_requests_break_list : ∃ w,
    Run TxStep (Wire.start cfgX1) [.newMsg, .newMsg, .tx 1, .tx 2] w ∧ ¬ w.WellFormed := by
  have hrun : Run TxStep (Wire.start cfgX1)
      ([] ++ [.newMsg] ++ [.newMsg] ++ [.tx 1] ++ [.tx 2]) _ :=
    .step (.step (.step (.step .start rfl) rfl) ⟨by decide, 2, rfl⟩) ⟨by decide, 2, rfl⟩
  refine ⟨_, hrun, fun hwf => ?_⟩
  obtain ⟨n, hn⟩ := hwf 1 (by decide)
  -- node 0 and the head 2 follow each other
  have hloop : ∀ (l : Links Addr), l.next 0 = 2 → l.next 2 = 0 →
      ∀ n, walk l 1 n 0 = none ∧ walk l 1 n 2 = none := by
    intro l h0 h2 n
    induction n with
    | zero => exact ⟨rfl, rfl⟩
    | succ n ih =>
        constructor
        · show (walk l 1 n (l.next 0)).map _ = none
          rw [h0, ih.2]
          rfl
        · show (walk l 1 n (l.next 2)).map _ = none
          rw [h2, ih.1]
          rfl
  change walk _ 1 n 0 = some _ at hn
  rw [(hloop _ rfl rfl n).1] at hn
  cases hn

/-! ## 4. From the command line to the wire -/

/-- A request as pjsip builds it, with the headers `orig`. -/
def Wire.request (w : Wire) (orig : List GenericHdr) : Wire :=
  orig.foldl (fun v h => v.addNew w.store.brk h) w.newMsg

/-- The options `-A ua` (where it is given) and `-H` for each of `args`. -/
def cmdLine (ua : Option CStr) (args : List CStr) : List Opt :=
  (ua.map Opt.userAgent).toList ++ args.map Opt.header

/-- **What is given on the command line arrives**: the first request goes out with the headers
    pjsip gave it (and the User-Agent), then each supplied header, in order. -/
def HeadersArrive (b : Build) (lib : UriLib) (ua : Option CStr) (args : List CStr)
    (orig : List GenericHdr) : Prop :=
  ∃ app fuel w, optLoop b lib sippakInit (cmdLine ua args) = .ok (.next app) ∧
    onTxRequest fuel (Wire.start app.cfg).store.brk ((Wire.start app.cfg).request orig) = some w ∧
    w.sent (Wire.start app.cfg).store.brk =
      withUserAgent (ua.map CStr.trim) orig ++ args.filterMap headerGiven

section CommandLine

variable {b : Build} {lib : UriLib}

theorem newMsg_sends {w : Wire} (h : w.Inv) :
    Sends w.store.brk w.newMsg [] w.newMsg := by
  have hs := Sends.refl h.newMsg w.store.brk
  have hnil : w.newMsg.sent w.store.brk = [] := by
    show (Function.update w.own w.store.brk [] w.store.brk).map w.store.hdr = []
    rw [Function.update_self]
    rfl
  rwa [hnil] at hs

/-- Building a request gives it its headers. -/
theorem request_sends {w : Wire} (h : w.Inv) (orig : List GenericHdr) :
    Sends w.store.brk w.newMsg orig (w.request orig) := by
  induction orig using List.reverseRecOn with
  | nil => exact newMsg_sends h
  | append_singleton orig x ih =>
      have hmem : w.store.brk ∈ (w.request orig).msgs := by
        rw [ih.msgs]
        exact List.mem_append_right _ (List.mem_singleton_self _)
      have hadd := addNew_sends ih.inv hmem x
      rw [ih.sent] at hadd
      unfold Wire.request at ih hadd ⊢
      rw [List.foldl_append]
      exact ih.trans hadd

/-- Well-formed `-H` options, as many as fit, are all stored. -/
theorem optLoop_headers (args : List CStr) (app : App)
    (hgood : ∀ a ∈ args, (headerGiven a).isSome = true)
    (hfit : app.cfg.hdrs.cnt + args.length ≤ MAX_CUSTOM_HEADERS) :
    ∃ app', optLoop b lib app (args.map Opt.header) = .ok (.next app') ∧
      app'.cfg.hdrs.items = app.cfg.hdrs.items ++ args.filterMap headerGiven ∧
      app'.cfg.userAgent = app.cfg.userAgent := by
  induction args generalizing app with
  | nil => exact ⟨app, rfl, by simp, rfl⟩
  | cons a args ih =>
      obtain ⟨hdr, hg⟩ := Option.isSome_iff_exists.mp (hgood a List.mem_cons_self)
      rw [List.length_cons] at hfit
      rw [List.map_cons, optLoop_header, hg]
      dsimp only
      cases hp : app.cfg.hdrs.push hdr with
      | none =>
          have hfull := Slots.push_eq_none_iff.mp hp
          omega
      | some hdrs =>
          have hitems := (Slots.push_eq_some_iff.mp hp).2
          have hcnt := Slots.push_cnt hp
          have hfit' : (app.setHdrs hdrs).cfg.hdrs.cnt + args.length ≤ MAX_CUSTOM_HEADERS := by
            rw [App.setHdrs_hdrs, hcnt]
            omega
          obtain ⟨app', hloop, h1, h2⟩ :=
            ih _ (fun x hx => hgood x (List.mem_cons_of_mem _ hx)) hfit'
          refine ⟨app', hloop, ?_, h2⟩
          rw [h1, App.setHdrs_hdrs, hitems, List.filterMap_cons, hg, List.append_assoc]
          rfl

/-- The whole command line. -/
theorem optLoop_cmdLine (b : Build) (lib : UriLib) (ua : Option CStr) {args : List CStr}
    (hgood : ∀ a ∈ args, (headerGiven a).isSome = true)
    (hlen : args.length ≤ MAX_CUSTOM_HEADERS) :
    ∃ app, optLoop b lib sippakInit (cmdLine ua args) = .ok (.next app) ∧
      app.cfg.hdrs.items = args.filterMap headerGiven ∧
      app.cfg.userAgent = ua.map CStr.trim := by
  cases ua with
  | none =>
      obtain ⟨app, hloop, h1, h2⟩ := optLoop_headers (b := b) args sippakInit hgood (by
        show 0 + args.length ≤ _
        omega)
      exact ⟨app, hloop, h1, h2⟩
  | some t =>
      obtain ⟨app, hloop, h1, h2⟩ := optLoop_headers (b := b) args
        { sippakInit with cfg := { sippakInit.cfg with userAgent := pjstrTrimmed t } } hgood (by
          show 0 + args.length ≤ _
          omega)
      exact ⟨app, hloop, h1, h2⟩

/-- **The first send of a request** returns, and what it leaves in the request. -/
theorem request_tx (cfg : Cfg) (orig : List GenericHdr) :
    (∃ fuel w, onTxRequest fuel (Wire.start cfg).store.brk ((Wire.start cfg).request orig) =
        some w) ∧
      ∀ fuel w, onTxRequest fuel (Wire.start cfg).store.brk ((Wire.start cfg).request orig) =
          some w →
        w.sent (Wire.start cfg).store.brk =
          addAll sameName (withUserAgent cfg.userAgent orig) cfg.hdrs.items := by
  obtain ⟨hinv, hmsgs, hua, hmap⟩ := registered cfg.userAgent cfg.hdrs.items
  change (Wire.start cfg).Inv at hinv
  change (Wire.start cfg).msgs = [] at hmsgs
  change (Wire.start cfg).userAgent = cfg.userAgent at hua
  change (Wire.start cfg).hdrs.map (Wire.start cfg).store.hdr = cfg.hdrs.items at hmap
  generalize Wire.start cfg = w₀ at hinv hmsgs hua hmap ⊢
  have hreq := request_sends hinv orig
  have hone : (w₀.request orig).msgs = [w₀.store.brk] := by
    rw [hreq.msgs]
    show w₀.msgs ++ [w₀.store.brk] = _
    rw [hmsgs, List.nil_append]
  have hmem : w₀.store.brk ∈ (w₀.request orig).msgs := by
    rw [hone]
    exact List.mem_singleton_self _
  -- there is no other message that could have a custom header
  have hclear : Clear (w₀.request orig) w₀.store.brk := by
    intro c _ m hm hne _
    rw [hone, List.mem_singleton] at hm
    exact absurd hm hne
  have hcustom : (w₀.request orig).hdrs.map (w₀.request orig).store.hdr = cfg.hdrs.items :=
    (hreq.hdrs_map hinv.newMsg).trans hmap
  refine ⟨⟨_, tx_returns hreq.inv hmem hclear (Nat.le_refl _)⟩, fun fuel w htx => ?_⟩
  have hs := (tx_sends hreq.inv hmem hclear htx).sent
  rw [hcustom, hreq.userAgent, hreq.sent] at hs
  rw [hs, ← hua]
  rfl

/-- What is stored arrives exactly when adding what is not there yet leaves nothing out. -/
theorem headersArrive_iff_addAll (ua : Option CStr) {args : List CStr} (orig : List GenericHdr)
    (hgood : ∀ a ∈ args, (headerGiven a).isSome = true)
    (hlen : args.length ≤ MAX_CUSTOM_HEADERS) :
    HeadersArrive b lib ua args orig ↔
      addAll sameName (withUserAgent (ua.map CStr.trim) orig) (args.filterMap headerGiven) =
        withUserAgent (ua.map CStr.trim) orig ++ args.filterMap headerGiven := by
  obtain ⟨app, hloop, hitems, hua⟩ := optLoop_cmdLine b lib ua hgood hlen
  -- what a send of the request leaves in it, and that the send returns
  obtain ⟨hreturns, hsent⟩ := request_tx app.cfg orig
  rw [hua, hitems] at hsent
  constructor
  · intro ⟨app', fuel, w, hloop', htx, harrive⟩
    rw [hloop] at hloop'
    cases hloop'
    rw [← hsent fuel w htx, harrive]
  · intro hall
    obtain ⟨fuel, w, htx⟩ := hreturns
    exact ⟨app, fuel, w, hloop, htx, by rw [hsent fuel w htx, hall]⟩

/-- **What is given on the command line arrives exactly when no two of the given names are equal up
    to case**, given that pjsip and `-A` did not use them. -/
theorem headers_arrive_iff {ua : Option CStr} {args : List CStr} {orig : List GenericHdr}
    (hgood : ∀ a ∈ args, (headerGiven a).isSome = true)
    (hlen : args.length ≤ MAX_CUSTOM_HEADERS)
    (hnew : ∀ h ∈ args.filterMap headerGiven, orig.any (sameName h) = false ∧
      (ua ≠ none → CStr.eqIgnoreCase USER_AGENT h.name = false)) :
    HeadersArrive b lib ua args orig ↔
      (args.filterMap headerGiven).Pairwise fun x y => sameName x y = false := by
  rw [headersArrive_iff_addAll ua orig hgood hlen]
  refine addAll_eq_append_iff (fun x y => CStr.eqIgnoreCase_comm _ _) fun h hh => ?_
  obtain ⟨horig, hua⟩ := hnew h hh
  unfold withUserAgent
  cases ua with
  | none => exact horig
  | some t =>
      split
      · unfold addAbsent
        split
        · exact horig
        · show (orig ++ [_]).any (sameName h) = false
          rw [List.any_append, horig, List.any_cons, List.any_nil, Bool.or_false, Bool.false_or]
          exact hua (Option.some_ne_none t)
      · exact horig

/-- `-H "X-Foo: bar" -H P-user:1`. -/
theorem headers_arrive_two :
    HeadersArrive Build.g711 UriLib.plain none ["X-Foo: bar".toList, "P-user:1".toList]
      [⟨"Via".toList, "SIP/2.0/UDP host".toList⟩] :=
  (headers_arrive_iff (by decide) (by decide) (by decide)).mpr (by decide)

/-- `-H X:1 -H x:2`: the second header is lost. -/
theorem equal_names_lose_header :
    ¬ HeadersArrive Build.g711 UriLib.plain none ["X:1".toList, "x:2".toList] [] := by
  rw [headersArrive_iff_addAll none [] (by decide) (by decide)]
  decide

end CommandLine

end Sippak
