/-
  File:      Sippak/TokenLoops.lean
  Subject:   THE THREE LOOPS OVER THE TOKENISER (dns.c, getopts.c, media_helper.c), round by round.

  The functions of the other files compute the loops' results; here the same bodies run in the
  loop as it is written, with its index and its end mark.

  * `parseNameserversLoop_visits` -- every field of `--ns`, the ones skipped for want of room too;
  * `setMwiLoop_visits` -- the first four fields of `--mwi`;
  * `codecsCfgLoop_visits` -- the fields of `--codec` up to the first that decides the choice;
  * `token_loops_visit` -- **what each loop visits**, for every text.
-/
import Sippak.Lib.TokenLoop
import Sippak.CodecList
import Sippak.Dns
import Sippak.MwiList

namespace Sippak

open CStr Runs

/-! ## 1. The loops -/

/-- The loop of `parse_nameservers_string`. -/
def parseNameserversLoop (left : CStr → Nat → CStr) (nameservers : CStr) (st : NsState) :
    TokenLoop NsState Abort where
  left := left
  d := (· == ',')
  s := nameservers
  more := fun _ => true
  body := fun st found => parseNameserversBody st found.2
  init := st

/-- The loop of `set_mwi_list`; `mwi_idx < 4` is in its condition. -/
def setMwiLoop (left : CStr → Nat → CStr) (mwiListStr : CStr) :
    TokenLoop (Nat × Vector Int 4) (Nat × Vector Int 4) where
  left := left
  d := (· == ',')
  s := mwiListStr
  more := fun st => decide (st.1 < 4)
  body := fun st found => mwiBody st found.2
  init := (0, Vector.replicate 4 0)

/-- The loop of `sippak_set_media_codecs_cfg`. -/
def codecsCfgLoop (left : CStr → Nat → CStr) (b : Build) (codecsStr : CStr) (app : App) :
    TokenLoop (Nat × App) (Except Abort (Status × App)) where
  left := left
  d := (· == ',')
  s := codecsStr
  more := fun _ => true
  body := fun st found => codecsCfgBody b st found.2
  init := (0, app)

/-- What `sippak_set_media_codecs_cfg` does behind its loop. -/
def codecsCfgReturn :
    Except (Except Abort (Status × App)) (Nat × App) → Except Abort (Status × App)
  | .error r => r
  | .ok (i, app) => .ok (.PJ_SUCCESS, app.setMedia { app.cfg.media with cnt := i })

/-! ## 2. What each visits -/

/-- A fold over the fields with their places is the loop over the tokeniser. -/
theorem foldlM_fieldsAt {σ ρ : Type} (d : Char → Bool) (s : CStr) (body : σ → CStr → Except ρ σ)
    (st : σ) :
    (fieldsAt d s).foldlM (fun st found => body st found.2) st =
      forTokens d s body (s.length + 1) 0 st := by
  rw [forTokens_fields, ← map_fieldsAt, List.foldlM_map]

/-- **The name servers**: every field, whether it is stored or skipped. -/
theorem parseNameserversLoop_visits (left : CStr → Nat → CStr) (nameservers : CStr)
    (ns : Vector PjStr MAX_NS_COUNT) (ports : Vector Nat MAX_NS_COUNT) (app : App) :
    (parseNameserversLoop left nameservers ⟨0, ns, ports, app⟩).Visits
      (fieldsAt (· == ',') nameservers)
      (parseNameserversString nameservers ⟨0, ns, ports, app⟩) := by
  obtain ⟨st, hcall, -⟩ := parseNameserversString_listed nameservers ns ports app
  rw [hcall]
  refine TokenLoop.visits (rounds_of_fold ?_)
  rw [← hcall]
  exact foldlM_fieldsAt (· == ',') nameservers parseNameserversBody _

/-- From the slot `i` on the loop of `--mwi` takes as many fields as there are slots left. -/
theorem mwi_rounds (fields : List (Nat × CStr)) (i : Nat) (v : Vector Int 4) :
    ∃ st, rounds (fun st => decide (st.1 < 4)) (fun st found => mwiBody st found.2) (i, v) fields =
        (fields.take (4 - i), .ok st) ∧
      (fields.foldlM (fun st found => mwiBody st found.2) (i, v) = .ok st ∨
        fields.foldlM (fun st found => mwiBody st found.2) (i, v) = .error st) := by
  induction fields generalizing i v with
  | nil => exact ⟨(i, v), by rw [List.take_nil]; rfl, Or.inl rfl⟩
  | cons found fields ih =>
      rw [List.foldlM_cons]
      by_cases hi : i < 4
      · obtain ⟨st, hrounds, hfold⟩ := ih (i + 1) (v.set i (stored found.2) hi)
        have hbody := mwiBody_of_lt v found.2 hi
        have hroom : 4 - i = 4 - (i + 1) + 1 := by omega
        refine ⟨st, ?_, ?_⟩
        · refine Eq.trans (rounds_cons_ok fields (decide_eq_true hi) hbody) ?_
          rw [hrounds, hroom, List.take_succ_cons]
        · rw [hbody]
          exact hfold
      · have hzero : 4 - i = 0 := by omega
        refine ⟨(i, v), ?_, Or.inr ?_⟩
        · rw [hzero, List.take_zero]
          exact rounds_of_done _ (decide_eq_false hi)
        · rw [mwiBody, dif_neg hi]
          rfl

/-- **The numbers of `--mwi`**: the first four fields. -/
theorem setMwiLoop_visits (left : CStr → Nat → CStr) (mwiListStr : CStr) :
    ∃ st, (setMwiLoop left mwiListStr).Visits ((fieldsAt (· == ',') mwiListStr).take 4) (.ok st) ∧
      ∀ app, (setMwiList mwiListStr app).cfg.mwi = st.2 := by
  obtain ⟨st, hrounds, hfold⟩ :=
    mwi_rounds (fieldsAt (· == ',') mwiListStr) 0 (Vector.replicate 4 0)
  refine ⟨st, TokenLoop.visits hrounds, fun app => ?_⟩
  unfold setMwiList
  rw [← foldlM_fieldsAt]
  rcases hfold with hfold | hfold <;> rw [hfold]

/-- The codec loop takes the fields up to the first that decides the choice. -/
theorem codecs_rounds {b : Build} {app : App} (fields : List (Nat × CStr)) {cs : List Codec}
    {st : Nat × App} (h : Listed app cs st) :
    (rounds (fun _ => true) (fun st found => codecsCfgBody b st found.2) st fields).1 =
      fields.take (fields.findIdx (fun f => isAllToken f.2 || isRefusedToken b f.2) + 1) := by
  induction fields generalizing cs st with
  | nil => rfl
  | cons found fields ih =>
      rw [List.findIdx_cons, List.take_succ_cons]
      cases hall : isAllToken found.2 with
      | true =>
          obtain ⟨app', hbody, -⟩ := codecsCfgBody_all b st hall
          rw [rounds_cons_error fields rfl hbody]
          rfl
      | false =>
          cases href : isRefusedToken b found.2 with
          | true =>
              obtain ⟨app', hbody, -⟩ := codecsCfgBody_refused st href
              rw [rounds_cons_error fields rfl hbody]
              rfl
          | false =>
              obtain ⟨codec, hp, hne, hsup⟩ := usable_iff.mp ⟨hall, href⟩
              obtain ⟨st', hbody, h'⟩ := codecsCfgBody_listed h hp hne hsup
              rw [rounds_cons_ok fields rfl hbody, ih h']
              rfl

/-- **The codecs**: the fields up to the first that names all codecs or none of the build. -/
theorem codecsCfgLoop_visits (left : CStr → Nat → CStr) (b : Build) (codecsStr : CStr)
    (app : App) :
    ∃ r, (codecsCfgLoop left b codecsStr app).Visits
        ((fieldsAt (· == ',') codecsStr).take ((fieldsAt (· == ',') codecsStr).findIdx
          (fun f => isAllToken f.2 || isRefusedToken b f.2) + 1)) r ∧
      sippakSetMediaCodecsCfg b codecsStr app = codecsCfgReturn r := by
  refine ⟨((codecsCfgLoop left b codecsStr app).roundsFrom (0, app)
    (fieldsAt (· == ',') codecsStr)).2, TokenLoop.visits (Prod.ext ?_ rfl), ?_⟩
  · exact codecs_rounds (fieldsAt (· == ',') codecsStr) (Listed.start app)
  · have hresult : ((codecsCfgLoop left b codecsStr app).roundsFrom (0, app)
        (fieldsAt (· == ',') codecsStr)).2 = _ := rounds_result _ _ _
    rw [hresult]
    show sippakSetMediaCodecsCfg b codecsStr app = codecsCfgReturn
      ((fieldsAt (· == ',') codecsStr).foldlM (fun st found => codecsCfgBody b st found.2) (0, app))
    rw [foldlM_fieldsAt]
    rfl

/-! ## 3. All three -/

/-- **What the loops visit**, whatever a call that finds nothing leaves in the token: the name
    servers every field, the numbers the first four, the codecs those up to the first field that
    decides the choice, which is all of them where none does. `fieldsAt` lists the maximal runs
    without a comma, from left to right, and nothing else. -/
theorem token_loops_visit (left : CStr → Nat → CStr) (s : CStr) :
    (∀ field, field ∈ fieldsAt (· == ',') s ↔ IsField (· == ',') s field) ∧
    (fieldsAt (· == ',') s).Pairwise (fun f g => f.1 < g.1) ∧
    (∀ ns ports app, (parseNameserversLoop left s ⟨0, ns, ports, app⟩).Visits
      (fieldsAt (· == ',') s) (parseNameserversString s ⟨0, ns, ports, app⟩)) ∧
    (∃ st, (setMwiLoop left s).Visits ((fieldsAt (· == ',') s).take 4) (.ok st) ∧
      ∀ app, (setMwiList s app).cfg.mwi = st.2) ∧
    ∀ b app, ∃ r, (codecsCfgLoop left b s app).Visits
        ((fieldsAt (· == ',') s).take ((fieldsAt (· == ',') s).findIdx
          (fun f => isAllToken f.2 || isRefusedToken b f.2) + 1)) r ∧
      sippakSetMediaCodecsCfg b s app = codecsCfgReturn r :=
  ⟨fun _ => mem_fieldsAt_iff, fieldsAt_sorted s, parseNameserversLoop_visits left s,
    setMwiLoop_visits left s, fun b app => codecsCfgLoop_visits left b s app⟩

/-- `--codec all,g711` is two fields, and the loop is left at the first. -/
theorem codecs_loop_left_early :
    fieldsAt (· == ',') "all,g711".toList = [(0, "all".toList), (4, "g711".toList)] ∧
      ∀ r, ¬ (codecsCfgLoop restLeft .g711 "all,g711".toList sippakInit).Visits
        (fieldsAt (· == ',') "all,g711".toList) r := by
  refine ⟨by decide, fun r h => ?_⟩
  obtain ⟨r', hearly, -⟩ := codecsCfgLoop_visits restLeft .g711 "all,g711".toList sippakInit
  obtain ⟨state, hrun, hover⟩ := h.ends
  have hsame := (hearly.complete _ state hrun hover).1
  exact absurd hsame (by decide)

end Sippak
