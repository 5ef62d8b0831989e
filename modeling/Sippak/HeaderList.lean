/-
  File:      Sippak/HeaderList.lean
  Subject:   THE HEADER LISTS OF MESSAGES in memory: nodes, links, and pjsip's operations on them.

  A header node has an address, its two links and its content; a message is the head of a circular
  list of such nodes. `pjsip_msg_add_hdr` links the node it is given, not a copy, so it overwrites
  the links the node had (`Wire.pjsipMsgAddHdr`). `Wire.own` records, beside the memory, which
  nodes were added to which message; nothing the program does reads it.

  * `Wire.WellFormed` -- from every head the next links visit the message's own headers and come
    back;
  * `Wire.Inv` -- the lists are rings, no two of them share a node, and a node made later is in
    none of them; kept by making nodes and messages (`Inv.create`, `Inv.newMsg`) and by adding a
    node that is in no list (`Inv.msgAddHdr`);
  * `findHdr_eq`, `findHdr_isSome` -- on rings the search by name ends, with the first header of
    that name.
-/
import Sippak.App
import Sippak.Lib.AddAbsent
import Sippak.Lib.LinkRing

namespace Sippak

open LinkRing

abbrev Addr : Type := Nat

/-- The memory of header nodes; addresses from `brk` on are free. -/
structure Store where
  links : Links Addr
  hdr : Addr → GenericHdr
  brk : Addr

/-- The store, the nodes in `app->cfg.hdrs.h`, `app->cfg.user_agent`, and the messages of the run
    with the headers that were put into each. -/
structure Wire where
  store : Store
  hdrs : List Addr
  userAgent : PjStr
  msgs : List Addr
  own : Addr → List Addr

namespace Wire

/-! ## 1. pjsip's operations -/

/-- `pjsip_generic_string_hdr_create`: a new node, linked to itself. -/
def create (w : Wire) (h : GenericHdr) : Wire :=
  { w with
    store := ⟨w.store.links.single w.store.brk, Function.update w.store.hdr w.store.brk h,
      w.store.brk + 1⟩ }

/-- `pjsip_msg_add_hdr(msg, node)`: `pj_list_push_back` on the list of the message. -/
def pjsipMsgAddHdr (w : Wire) (msg node : Addr) : Wire :=
  { w with
    store := { w.store with links := w.store.links.insertBefore msg node }
    own := Function.update w.own msg (w.own msg ++ [node]) }

/-- A new header in a message. -/
def addNew (w : Wire) (msg : Addr) (h : GenericHdr) : Wire :=
  (w.create h).pjsipMsgAddHdr msg w.store.brk

/-- `pjsip_msg_create`: a message without headers. -/
def newMsg (w : Wire) : Wire :=
  { w with
    store := { w.store with
      links := w.store.links.single w.store.brk, brk := w.store.brk + 1 }
    msgs := w.msgs ++ [w.store.brk]
    own := Function.update w.own w.store.brk [] }

/-- `pjsip_msg_find_hdr_by_name(msg, name, NULL)` in at most `fuel` steps. -/
def findHdr (w : Wire) (fuel : Nat) (msg : Addr) (name : CStr) : Option (Option Addr) :=
  search w.store.links msg (fun a => CStr.eqIgnoreCase (w.store.hdr a).name name) fuel
    (w.store.links.next msg)

/-- The headers of a message, as they go out. -/
def sent (w : Wire) (msg : Addr) : List GenericHdr := (w.own msg).map w.store.hdr

/-! ## 2. Well-formed lists -/

/-- **From every message the next links visit the message's own headers and come back**, in
    finitely many steps. -/
def WellFormed (w : Wire) : Prop :=
  ∀ m ∈ w.msgs, ∃ n, walk w.store.links m n (w.store.links.next m) = some (w.own m)

/-- **The invariant**: the lists are rings, no node is in two of them, and no node made later is
    in one of them. -/
structure Inv (w : Wire) : Prop where
  ring : ∀ m ∈ w.msgs, IsRing w.store.links m (w.own m)
  apart : ∀ m ∈ w.msgs, ∀ m' ∈ w.msgs, m ≠ m' → ∀ a ∈ m :: w.own m, a ∉ m' :: w.own m'
  below : ∀ m ∈ w.msgs, ∀ a ∈ m :: w.own m, a < w.store.brk
  hdrsBelow : ∀ c ∈ w.hdrs, c < w.store.brk
  hdrsNoMsg : ∀ c ∈ w.hdrs, c ∉ w.msgs

section Invariant

variable {w : Wire}

theorem Inv.wellFormed (h : w.Inv) : w.WellFormed :=
  fun m hm => ⟨(w.own m).length, (h.ring m hm).walk_eq (Nat.le_refl _)⟩

/-- The next node to be made is in no list. -/
theorem Inv.fresh (h : w.Inv) {m : Addr} (hm : m ∈ w.msgs) : w.store.brk ∉ m :: w.own m :=
  fun hb => Nat.lt_irrefl _ (h.below m hm _ hb)

theorem Inv.create (h : w.Inv) (hdr : GenericHdr) : (w.create hdr).Inv where
  ring m hm := (h.ring m hm).single_frame (h.fresh hm)
  apart := h.apart
  below m hm a ha := Nat.lt_succ_of_lt (h.below m hm a ha)
  hdrsBelow c hc := Nat.lt_succ_of_lt (h.hdrsBelow c hc)
  hdrsNoMsg := h.hdrsNoMsg

theorem Inv.newMsg (h : w.Inv) : w.newMsg.Inv := by
  -- the old messages keep their lists
  have hold : ∀ m ∈ w.msgs, w.newMsg.own m = w.own m := by
    intro m hm
    have hne : m ≠ w.store.brk := Nat.ne_of_lt (h.below m hm m List.mem_cons_self)
    exact Function.update_of_ne hne _ _
  have hnew : w.newMsg.own w.store.brk = [] := Function.update_self _ _ _
  have hcases : ∀ m ∈ w.newMsg.msgs, m ∈ w.msgs ∨ m = w.store.brk := by
    intro m hm
    rcases List.mem_append.mp hm with hm | hm
    · exact Or.inl hm
    · exact Or.inr (List.mem_singleton.mp hm)
  refine ⟨fun m hm => ?_, fun m hm m' hm' hne a ha => ?_, fun m hm a ha => ?_,
    fun c hc => Nat.lt_succ_of_lt (h.hdrsBelow c hc), fun c hc hm => ?_⟩
  · rcases hcases m hm with hm | rfl
    · rw [hold m hm]
      exact (h.ring m hm).single_frame (h.fresh hm)
    · rw [hnew]
      exact isRing_single w.store.links w.store.brk
  · rcases hcases m hm with hm | rfl
    · rw [hold m hm] at ha
      rcases hcases m' hm' with hm' | rfl
      · rw [hold m' hm']
        exact h.apart m hm m' hm' hne a ha
      · rw [hnew, List.mem_singleton]
        exact Nat.ne_of_lt (h.below m hm a ha)
    · rw [hnew, List.mem_singleton] at ha
      rcases hcases m' hm' with hm' | rfl
      · rw [hold m' hm', ha]
        exact h.fresh hm'
      · exact absurd rfl hne
  · rcases hcases m hm with hm | rfl
    · rw [hold m hm] at ha
      exact Nat.lt_succ_of_lt (h.below m hm a ha)
    · rw [hnew, List.mem_singleton] at ha
      rw [ha]
      exact Nat.lt_succ_self _
  · rcases hcases c hm with hm | rfl
    · exact h.hdrsNoMsg c hc hm
    · exact Nat.lt_irrefl _ (h.hdrsBelow _ hc)

/-- **Adding a node that is in no list** keeps the invariant. -/
theorem Inv.msgAddHdr (h : w.Inv) {msg x : Addr} (hmsg : msg ∈ w.msgs) (hlt : x < w.store.brk)
    (hx : ∀ m ∈ w.msgs, x ∉ m :: w.own m) : (w.pjsipMsgAddHdr msg x).Inv := by
  have hown : (w.pjsipMsgAddHdr msg x).own msg = w.own msg ++ [x] := Function.update_self _ _ _
  have hold : ∀ m, m ≠ msg → (w.pjsipMsgAddHdr msg x).own m = w.own m :=
    fun m hne => Function.update_of_ne hne _ _
  -- what is in the list afterwards was there before, or is the new node
  have hmem : ∀ a, a ∈ msg :: (w.own msg ++ [x]) → a ∈ msg :: w.own msg ∨ a = x := by
    intro a ha
    rw [← List.cons_append, List.mem_append, List.mem_singleton] at ha
    exact ha
  refine ⟨fun m hm => ?_, fun m hm m' hm' hne a ha => ?_, fun m hm a ha => ?_, h.hdrsBelow,
    h.hdrsNoMsg⟩
  · by_cases he : m = msg
    · subst he
      rw [hown]
      exact (h.ring m hm).pushBack (hx m hm)
    · rw [hold m he]
      exact (h.ring msg hmsg).frame (hx msg hmsg) (h.ring m hm) (hx m hm)
        (h.apart m hm msg hmsg he)
  · by_cases he : m = msg
    · subst he
      rw [hown] at ha
      rw [hold m' (Ne.symm hne)]
      rcases hmem a ha with ha | rfl
      · exact h.apart m hm m' hm' hne a ha
      · exact hx m' hm'
    · rw [hold m he] at ha
      by_cases he' : m' = msg
      · subst he'
        rw [hown]
        intro ha'
        rcases hmem a ha' with ha' | rfl
        · exact h.apart m hm m' hm' hne a ha ha'
        · exact hx m hm ha
      · rw [hold m' he']
        exact h.apart m hm m' hm' hne a ha
  · by_cases he : m = msg
    · subst he
      rw [hown] at ha
      rcases hmem a ha with ha | rfl
      · exact h.below m hm a ha
      · exact hlt
    · rw [hold m he] at ha
      exact h.below m hm a ha

/-- A new header in a message. -/
theorem Inv.addNew (h : w.Inv) {msg : Addr} (hmsg : msg ∈ w.msgs) (hdr : GenericHdr) :
    (w.addNew msg hdr).Inv :=
  (h.create hdr).msgAddHdr hmsg (Nat.lt_succ_self _) fun _ hm => h.fresh hm

/-! ## 3. Searching -/

/-- **What a search that ended found**: the first own header of that name. -/
theorem findHdr_eq (h : w.Inv) {msg : Addr} (hmsg : msg ∈ w.msgs) {fuel : Nat} {name : CStr}
    {r : Option Addr} (hf : w.findHdr fuel msg name = some r) :
    r = (w.own msg).find? fun a => CStr.eqIgnoreCase (w.store.hdr a).name name := by
  have hlong := search_mono hf (Nat.le_max_left fuel (w.own msg).length)
  have hring := (h.ring msg hmsg).search_eq (p := fun a =>
    CStr.eqIgnoreCase (w.store.hdr a).name name) (Nat.le_max_right fuel (w.own msg).length)
  rw [hring] at hlong
  exact (Option.some.inj hlong).symm

/-- A search ends when it may take one step for each header. -/
theorem findHdr_isSome (h : w.Inv) {msg : Addr} (hmsg : msg ∈ w.msgs) (name : CStr) {fuel : Nat}
    (hn : (w.own msg).length ≤ fuel) : ∃ r, w.findHdr fuel msg name = some r :=
  ⟨_, (h.ring msg hmsg).search_eq hn⟩

end Invariant

end Wire

end Sippak
