/-
  File:      Sippak/Mod/GiveUp.lean
  Subject:   WHEN PUBLISH AND SUBSCRIBE GIVE UP ON AUTHENTICATION (publish.c, subscribe.c:
             `on_rx_response`).

  Both modules see every response before the transaction layer does, so before duplicates are
  dropped, and both keep one static 16-bit counter `auth_tries`: a 401 or 407 that finds it above
  one stops the loop and is swallowed. PUBLISH advances it at every response, SUBSCRIBE at every
  401 and 407 (`counts`).

  An `Exchange` is what can be delivered: provisional responses and a challenge to the first
  request, then copies of that challenge and responses to the request with credentials, in any
  order. The callback is right when it gives up at a challenge to the second request and at
  nothing else (`GivesUpRightly`).

  * `Counting` -- what either callback does, in terms of its counter;
  * `after_authTries` -- the counter after any responses: how many of them counted, modulo 2^16;
  * `counterTells_short_iff` -- over fewer than 2^16 responses the count tells the two requests
    apart exactly when nothing that counts comes in front of the challenge and no copy of it;
  * `givesUpRightly_iff` -- **each callback is right exactly when its count tells the two requests
    apart** (`CounterTells`), and what that is for each module in a short exchange.
-/
import Mathlib.Data.List.Induction
import Sippak.Mod.Response

namespace Sippak

/-! ## 1. The callbacks -/

/-- `pjsip_msg_type_e`. -/
inductive MsgType where
  | PJSIP_REQUEST_MSG | PJSIP_RESPONSE_MSG
  deriving DecidableEq, Repr

/-- The static counter of the module, and the stop flag of main.c. -/
structure AuthState where
  authTries : UInt16
  loopStop : Bool
  log : List LogLine
  deriving DecidableEq, Repr

def AuthState.start : AuthState := ⟨0, false, []⟩

/-- Stop the loop with the line about the credentials. -/
def AuthState.giveUp (s : AuthState) (name : CStr) : AuthState :=
  { s with loopStop := true, log := s.log ++ [authFailedLine name] }

namespace Publish

def NAME : CStr := "mod_publish".toList

/-- `on_rx_response`; the Bool is what it returns. -/
def onRxResponse (type : MsgType) (r : Response) (s : AuthState) : Bool × AuthState :=
  let s := { s with authTries := s.authTries + 1 }
  if type ≠ .PJSIP_RESPONSE_MSG then (false, s)
  else if isChallenge r.code then
    if 1 < s.authTries then (true, s.giveUp NAME) else (false, s)
  else (false, s)

/-- Every response counts. -/
def counts (_ : Response) : Bool := true

end Publish

namespace Subscribe

def NAME : CStr := "mod_subscribe".toList

/-- `on_rx_response`; the Bool is what it returns. -/
def onRxResponse (r : Response) (s : AuthState) : Bool × AuthState :=
  let s := { s with log := s.log ++ responseLines NAME (fun _ => true) r }
  if isChallenge r.code then
    let s := { s with authTries := s.authTries + 1 }
    if 1 < s.authTries then (true, s.giveUp NAME) else (false, s)
  else (false, s)

/-- A 401 or 407 counts. -/
def counts (r : Response) : Bool := isChallenge r.code

end Subscribe

/-- **What such a callback does**: it advances the counter at the responses that count, and gives
    up at a challenge that finds the counter above one. -/
structure Counting (rx : Response → AuthState → Bool × AuthState) (counts : Response → Bool) :
    Prop where
  challenge : ∀ r, isChallenge r.code = true → counts r = true
  tries : ∀ r s, (rx r s).2.authTries = s.authTries + if counts r then 1 else 0
  swallow : ∀ r s, (rx r s).1 = (isChallenge r.code && decide (1 < (rx r s).2.authTries))
  stop : ∀ r s, (rx r s).2.loopStop = (s.loopStop || (rx r s).1)

theorem Publish.counting : Counting (Publish.onRxResponse .PJSIP_RESPONSE_MSG) Publish.counts where
  challenge _ _ := rfl
  tries r s := by
    unfold onRxResponse
    cases isChallenge r.code with
    | false => rfl
    | true =>
        by_cases ht : 1 < s.authTries + 1
        · simp [ht, AuthState.giveUp, counts]
        · simp [ht, counts]
  swallow r s := by
    unfold onRxResponse
    cases isChallenge r.code with
    | false => rfl
    | true =>
        by_cases ht : 1 < s.authTries + 1
        · simp [ht, AuthState.giveUp]
        · simp [ht]
  stop r s := by
    unfold onRxResponse
    cases isChallenge r.code with
    | false => simp
    | true =>
        by_cases ht : 1 < s.authTries + 1
        · simp [ht, AuthState.giveUp]
        · simp [ht]

theorem Subscribe.counting : Counting Subscribe.onRxResponse Subscribe.counts where
  challenge _ h := h
  tries r s := by
    unfold onRxResponse counts
    cases isChallenge r.code with
    | false => simp
    | true =>
        by_cases ht : 1 < s.authTries + 1
        · simp [ht, AuthState.giveUp]
        · simp [ht]
  swallow r s := by
    unfold onRxResponse
    cases isChallenge r.code with
    | false => rfl
    | true =>
        by_cases ht : 1 < s.authTries + 1
        · simp [ht, AuthState.giveUp]
        · simp [ht]
  stop r s := by
    unfold onRxResponse
    cases isChallenge r.code with
    | false => simp
    | true =>
        by_cases ht : 1 < s.authTries + 1
        · simp [ht, AuthState.giveUp]
        · simp [ht]

/-! ## 2. What is delivered -/

/-- A response, and whether the request it answers carries credentials. -/
structure Delivered where
  auth : Bool
  resp : Response
  deriving DecidableEq, Repr

/-- The credentials were refused. -/
def Delivered.refused (d : Delivered) : Bool := d.auth && isChallenge d.resp.code

/-- The responses of one command: provisional ones and a challenge to the first request; then, in
    any order, copies of that challenge (`none`) and responses to the request with credentials. -/
structure Exchange where
  provisionals : List Response
  challenge : Response
  rest : List (Option Response)
  isProvisional : ∀ r ∈ provisionals, r.code < 200
  isChallenge : isChallenge challenge.code = true

/-- A member of `rest`. -/
def Exchange.later (x : Exchange) : Option Response → Delivered
  | none => ⟨false, x.challenge⟩
  | some r => ⟨true, r⟩

/-- The responses in the order they are delivered. -/
def Exchange.delivered (x : Exchange) : List Delivered :=
  x.provisionals.map (⟨false, ·⟩) ++ ⟨false, x.challenge⟩ :: x.rest.map x.later

section Run

variable {rx : Response → AuthState → Bool × AuthState} {counts : Response → Bool}

/-- The state after the responses `p`. -/
def after (rx : Response → AuthState → Bool × AuthState) (p : List Delivered) : AuthState :=
  p.foldl (fun s d => (rx d.resp s).2) AuthState.start

/-- **The callback is right**: at every response it gives up, that is returns true and stops the
    loop, exactly when the credentials were refused. -/
def GivesUpRightly (rx : Response → AuthState → Bool × AuthState) (x : Exchange) : Prop :=
  ∀ p d q, x.delivered = p ++ d :: q →
    (rx d.resp (after rx p)).1 = d.refused ∧
      (rx d.resp (after rx p)).2.loopStop = ((after rx p).loopStop || d.refused)

/-- **The count tells the requests apart**: at every challenge, the number of responses that
    counted so far, modulo 2^16, is above one exactly when the challenge answers credentials. -/
def CounterTells (counts : Response → Bool) (x : Exchange) : Prop :=
  ∀ p d q, x.delivered = p ++ d :: q → isChallenge d.resp.code = true →
    (d.auth = true ↔ 1 < (p ++ [d]).countP (fun d => counts d.resp) % 2 ^ 16)

theorem after_snoc (p : List Delivered) (d : Delivered) :
    after rx (p ++ [d]) = (rx d.resp (after rx p)).2 := by
  unfold after
  rw [List.foldl_append]
  rfl

/-- **The counter after any responses.** -/
theorem after_authTries (h : Counting rx counts) (p : List Delivered) :
    (after rx p).authTries.toNat = p.countP (fun d => counts d.resp) % 2 ^ 16 := by
  induction p using List.reverseRecOn with
  | nil => rfl
  | append_singleton p d ih =>
      rw [after_snoc, h.tries, UInt16.toNat_add, ih, List.countP_append]
      cases hc : counts d.resp with
      | false => simp [hc]
      | true => simp [hc]

/-- **Each callback is right exactly when the count tells the two requests apart.** -/
theorem givesUpRightly_of_counting (h : Counting rx counts) (x : Exchange) :
    GivesUpRightly rx x ↔ CounterTells counts x := by
  -- what the callback returns at `d` after `p`
  have hret : ∀ p (d : Delivered), (rx d.resp (after rx p)).1 =
      (isChallenge d.resp.code &&
        decide (1 < (p ++ [d]).countP (fun d => counts d.resp) % 2 ^ 16)) := by
    intro p d
    rw [h.swallow, ← after_snoc, ← after_authTries h]
    rfl
  constructor
  · intro hg p d q hx hc
    have hr := (hg p d q hx).1
    rw [hret, Delivered.refused, hc, Bool.true_and, Bool.and_true] at hr
    rw [← hr, decide_eq_true_eq]
  · intro ht p d q hx
    have hr : (rx d.resp (after rx p)).1 = d.refused := by
      rw [hret, Delivered.refused]
      cases hc : isChallenge d.resp.code with
      | false => simp
      | true =>
          rw [Bool.true_and, Bool.and_true, Bool.eq_iff_iff, decide_eq_true_eq]
          exact (ht p d q hx hc).symm
    exact ⟨hr, by rw [h.stop, hr]⟩

/-! ## 3. Short exchanges -/

theorem delivered_challenge (x : Exchange) : x.delivered =
    x.provisionals.map (⟨false, ·⟩) ++ ⟨false, x.challenge⟩ :: x.rest.map x.later := rfl

/-- A challenge that is delivered is the first one, or comes after it. -/
theorem challenge_position {x : Exchange} {p q : List Delivered} {d : Delivered}
    (hx : x.delivered = p ++ d :: q) (hd : isChallenge d.resp.code = true) :
    (p = x.provisionals.map (⟨false, ·⟩) ∧ d = ⟨false, x.challenge⟩) ∨
      ∃ as, p = x.provisionals.map (⟨false, ·⟩) ++ ⟨false, x.challenge⟩ :: as ∧
        d ∈ x.rest.map x.later := by
  rw [delivered_challenge] at hx
  rcases List.append_eq_append_iff.mp hx with ⟨as, hp, hq⟩ | ⟨as, hp, hq⟩
  · cases as with
    | nil =>
        obtain ⟨rfl, -⟩ := List.cons.inj hq
        exact Or.inl ⟨by rw [hp, List.append_nil], rfl⟩
    | cons a as =>
        obtain ⟨rfl, hrest⟩ := List.cons.inj hq
        exact Or.inr ⟨as, hp, by rw [hrest]; simp⟩
  · cases as with
    | nil =>
        obtain ⟨rfl, -⟩ := List.cons.inj hq
        exact Or.inl ⟨by rw [hp, List.append_nil], rfl⟩
    | cons a as =>
        -- a provisional response is no challenge
        exfalso
        obtain ⟨rfl, -⟩ := List.cons.inj hq
        have hmem : d ∈ x.provisionals.map (⟨false, ·⟩) := by
          rw [hp]
          simp
        obtain ⟨r, hr, rfl⟩ := List.mem_map.mp hmem
        have h1 := x.isProvisional r hr
        have h2 := final_of_isChallenge hd
        exact absurd h1 (Nat.not_lt.mpr h2)

theorem countP_provisionals (rs : List Response) :
    (rs.map (Delivered.mk false)).countP (fun d => counts d.resp) = rs.countP counts := by
  rw [List.countP_map]
  rfl

/-- **Over fewer than 2^16 responses the count tells the requests apart exactly when** nothing
    that counts comes in front of the challenge, and no copy of it comes. -/
theorem counterTells_short_iff (hc : ∀ r, isChallenge r.code = true → counts r = true)
    {x : Exchange} (hlen : x.delivered.length < 2 ^ 16) :
    CounterTells counts x ↔ x.provisionals.countP counts = 0 ∧ none ∉ x.rest := by
  have hch : counts x.challenge = true := hc _ x.isChallenge
  -- the count never wraps
  have hmod : ∀ p d q, x.delivered = p ++ d :: q →
      (p ++ [d]).countP (fun d => counts d.resp) % 2 ^ 16 =
        (p ++ [d]).countP fun d => counts d.resp := by
    intro p d q hx
    have h1 : (p ++ [d]).countP (fun d => counts d.resp) ≤ (p ++ [d]).length :=
      List.countP_le_length
    have h2 := congrArg List.length hx
    simp only [List.length_append, List.length_cons, List.length_nil] at h1 h2
    exact Nat.mod_eq_of_lt (by omega)
  constructor
  · intro ht
    refine ⟨?_, fun hcopy => ?_⟩
    · have h := ht _ _ _ (delivered_challenge x) x.isChallenge
      rw [hmod _ _ _ (delivered_challenge x), List.countP_append, countP_provisionals] at h
      simp only [Bool.false_eq_true, false_iff, List.countP_singleton, hch, if_true] at h
      omega
    · -- a copy: the challenge and the copy have counted by then
      obtain ⟨as, bs, hrest⟩ := List.append_of_mem hcopy
      have hx : x.delivered =
          (x.provisionals.map (⟨false, ·⟩) ++ ⟨false, x.challenge⟩ :: as.map x.later) ++
            ⟨false, x.challenge⟩ :: bs.map x.later := by
        rw [delivered_challenge, hrest]
        simp [Exchange.later]
      have h := ht _ _ _ hx x.isChallenge
      rw [hmod _ _ _ hx] at h
      simp only [Bool.false_eq_true, false_iff, List.countP_append, List.countP_cons,
        List.countP_nil, hch, if_true] at h
      omega
  · intro ⟨hprov, hcopy⟩ p d q hx hd
    rw [hmod _ _ _ hx]
    have hd1 := hc _ hd
    rcases challenge_position hx hd with ⟨rfl, rfl⟩ | ⟨as, rfl, hmem⟩
    · rw [List.countP_append, countP_provisionals, hprov]
      simp [hch]
    · -- no copy, so it answers the credentials
      obtain ⟨o, ho, rfl⟩ := List.mem_map.mp hmem
      cases o with
      | none => exact absurd ho hcopy
      | some r =>
          have hr : counts r = true := hd1
          simp only [Exchange.later, List.countP_append, List.countP_cons, List.countP_nil, hch, hr,
            if_true, true_iff]
          omega

end Run

/-! ## 4. The two modules -/

/-- To PUBLISH every provisional response counts. -/
theorem countP_publish (x : Exchange) :
    x.provisionals.countP Publish.counts = 0 ↔ x.provisionals = [] := by
  rw [List.countP_eq_zero]
  constructor
  · intro h
    exact List.eq_nil_iff_forall_not_mem.mpr fun r hr => h r hr rfl
  · intro h r hr
    rw [h] at hr
    cases hr

/-- To SUBSCRIBE none does. -/
theorem countP_subscribe (x : Exchange) : x.provisionals.countP Subscribe.counts = 0 := by
  rw [List.countP_eq_zero]
  intro r hr hc
  have hfinal := final_of_isChallenge hc
  exact absurd (x.isProvisional r hr) (Nat.not_lt.mpr hfinal)

/-- **PUBLISH and SUBSCRIBE give up rightly exactly where their counts tell the two requests
    apart.** In an exchange that the counter can count: PUBLISH where the challenge comes first
    and once, SUBSCRIBE where it comes once. -/
theorem givesUpRightly_iff (x : Exchange) :
    ((GivesUpRightly (Publish.onRxResponse .PJSIP_RESPONSE_MSG) x ↔
        CounterTells Publish.counts x) ∧
      (GivesUpRightly Subscribe.onRxResponse x ↔ CounterTells Subscribe.counts x)) ∧
    (x.delivered.length < 2 ^ 16 →
      (GivesUpRightly (Publish.onRxResponse .PJSIP_RESPONSE_MSG) x ↔
        x.provisionals = [] ∧ none ∉ x.rest) ∧
      (GivesUpRightly Subscribe.onRxResponse x ↔ none ∉ x.rest)) := by
  have hpub := givesUpRightly_of_counting Publish.counting x
  have hsub := givesUpRightly_of_counting Subscribe.counting x
  refine ⟨⟨hpub, hsub⟩, fun hlen => ⟨?_, ?_⟩⟩
  · rw [hpub, counterTells_short_iff Publish.counting.challenge hlen, countP_publish]
  · rw [hsub, counterTells_short_iff Subscribe.counting.challenge hlen]
    exact and_iff_right (countP_subscribe x)

/-- The challenge, and the answer to the credentials. -/
def challengedThen200 : Exchange where
  provisionals := []
  challenge := Response.plain 401
  rest := [some (Response.plain 200)]
  isProvisional := by decide
  isChallenge := rfl

theorem givesUpRightly_challenged :
    GivesUpRightly (Publish.onRxResponse .PJSIP_RESPONSE_MSG) challengedThen200 ∧
      GivesUpRightly Subscribe.onRxResponse challengedThen200 := by
  obtain ⟨hpub, hsub⟩ := (givesUpRightly_iff challengedThen200).2 (by decide)
  exact ⟨hpub.mpr (by decide), hsub.mpr (by decide)⟩

/-- `100 Trying`, then the challenge. -/
def tryingThen401 : Exchange where
  provisionals := [Response.plain 100]
  challenge := Response.plain 401
  rest := []
  isProvisional := by decide
  isChallenge := rfl

/-- The challenge and a retransmitted copy of it. -/
def twice401 : Exchange where
  provisionals := []
  challenge := Response.plain 401
  rest := [none]
  isProvisional := by decide
  isChallenge := rfl

/-- PUBLISH gives up at the first challenge after a provisional response, SUBSCRIBE at a copy of
    the first challenge. -/
theorem gives_up_too_early :
    ¬ GivesUpRightly (Publish.onRxResponse .PJSIP_RESPONSE_MSG) tryingThen401 ∧
      ¬ GivesUpRightly Subscribe.onRxResponse twice401 := by
  refine ⟨fun h => ?_, fun h => ?_⟩
  · have hret := (h [⟨false, Response.plain 100⟩] ⟨false, Response.plain 401⟩ [] rfl).1
    exact absurd hret (by decide)
  · have hret := (h [⟨false, Response.plain 401⟩] ⟨false, Response.plain 401⟩ [] rfl).1
    exact absurd hret (by decide)

end Sippak
