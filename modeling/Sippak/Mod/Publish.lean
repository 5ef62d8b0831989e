/-
  File:      Sippak/Mod/Publish.lean
  Subject:   WHAT PUBLISH SENDS (publish.c: `sippak_cmd_publish`): the event package, the URIs and
             the presence body.

  pjsip's publish client takes the event, the URIs and the expiration and makes the request of
  them; the program then puts the body in. The transport, the client and the transaction layer
  are taken to come up; a body constructor may fail.

  * `sippakCmdPublish_inv` -- **what is sent**, field by field, when the command gets to sending.
-/
import Sippak.Contact
import Sippak.Mod.Notify
import Sippak.SipHelper

namespace Sippak

open CStr

/-- The request the publish client is set up for. -/
structure PublishMsg where
  event : PjStr
  targetUri : PjStr
  fromUri : OutStr
  expires : Nat
  cred : CredInfo
  body : Option MsgBody
  deriving DecidableEq, Repr

namespace Publish

/-- The event package: `--event`, or presence. -/
def event (cfg : Cfg) : PjStr :=
  if cfg.event.slen = 0 then some "presence".toList else cfg.event

/-- `pres_status`. -/
def presStatus (cfg : Cfg) (presId : PjStr) : PresStatus :=
  ⟨cfg.presStatusOpen, presId, cfg.presNote,
    if cfg.presStatusOpen then .PJRPID_ACTIVITY_UNKNOWN else .PJRPID_ACTIVITY_BUSY⟩

/-- The chain on `ctype_e` that makes the body. The status of the last constructor is not looked
    at. -/
def addBody (lib : SimpleLib) (presId : PjStr) (app : App) :
    Except PjStatus (Option MsgBody) × App :=
  match app.cfg.ctypeE with
  | .CTYPE_XPIDF =>
    match lib.presCreateXpidf (presStatus app.cfg presId) presId with
    | .error status =>
      (.error status, app.pjLog 1 PROJECT_NAME "Failed to create XPIDF publish body.".toList)
    | .ok body => (.ok (some body), app)
  | .CTYPE_PIDF =>
    match lib.presCreatePidf (presStatus app.cfg presId) presId with
    | .error status =>
      (.error status, app.pjLog 1 PROJECT_NAME "Failed to create PIDF publish body.".toList)
    | .ok body => (.ok (some body), app)
  | _ =>
    (.ok (lib.presCreatePidf (presStatus app.cfg presId) presId).toOption,
      app.pjLog 2 PROJECT_NAME ("Content type \"".toList ++ app.cfg.ctypeMedia.subtype.text ++
        "\" can not be used. Fall back to pidf content type.".toList))

/-- `sippak_cmd_publish`. -/
def sippakCmdPublish (uriLib : UriLib) (lib : SimpleLib) (localAddr : PjStr) (localPort : Int)
    (app : App) : Except Abort (Except PjStatus PublishMsg × App) :=
  if app.cfg.expires < 1 then
    .error (.exit .PJ_CLI_EINVARG
      ⟨1, PROJECT_NAME, "Expires header value must be more then 0.".toList⟩)
  else match sippakCreateRuri uriLib app with
    | .error e => .error e
    | .ok (targetUri, app) =>
      match sippakCreateFromHdr uriLib app with
      | .error e => .error e
      | .ok (fromUri, app) =>
        match sippakCreateContactHdr app localAddr localPort with
        | .error e => .error e
        | .ok presId =>
          match addBody lib presId app with
          | (.error status, app) => .ok (.error status, app)
          | (.ok body, app) =>
            .ok (.ok ⟨event app.cfg, targetUri, fromUri, app.cfg.expires,
              sippakSetCred app.cfg, body⟩, app)

/-! ## What is sent -/

/-- The builders only write the log. -/
theorem sippakCreateRuri_cfg {lib : UriLib} {app app' : App} {out : PjStr}
    (h : sippakCreateRuri lib app = .ok (out, app')) : app'.cfg = app.cfg := by
  unfold sippakCreateRuri at h
  split at h
  · cases h
    rfl
  · split at h
    · cases h
    · split at h
      · cases h
        rfl
      · cases h
        rfl

theorem sippakCreateFromHdr_cfg {lib : UriLib} {app app' : App} {out : OutStr}
    (h : sippakCreateFromHdr lib app = .ok (out, app')) : app'.cfg = app.cfg := by
  unfold sippakCreateFromHdr at h
  split at h
  · cases h
    rfl
  · split at h
    · cases h
    · split at h
      · cases h
        rfl
      · split at h
        · cases h
          rfl
        · cases h
          rfl

theorem addBody_cfg (lib : SimpleLib) (presId : PjStr) (app : App) :
    (addBody lib presId app).2.cfg = app.cfg := by
  unfold addBody
  split
  · split <;> rfl
  · split <;> rfl
  · rfl

/-- **What is sent**: an expiration above 0, and event and credentials of the configuration the
    command started with. -/
theorem sippakCmdPublish_inv {uriLib : UriLib} {lib : SimpleLib} {localAddr : PjStr}
    {localPort : Int} {app app' : App} {msg : PublishMsg}
    (h : sippakCmdPublish uriLib lib localAddr localPort app = .ok (.ok msg, app')) :
    app'.cfg = app.cfg ∧ msg.event = event app.cfg ∧ msg.expires = app.cfg.expires ∧
      1 ≤ msg.expires ∧ msg.cred = sippakSetCred app.cfg := by
  unfold sippakCmdPublish at h
  split at h
  · cases h
  · rename_i hexpires
    split at h
    · cases h
    · rename_i targetUri app₁ hruri
      have hcfg₁ := sippakCreateRuri_cfg hruri
      split at h
      · cases h
      · rename_i fromUri app₂ hfrom
        have hcfg₂ := (sippakCreateFromHdr_cfg hfrom).trans hcfg₁
        split at h
        · cases h
        · rename_i presId _
          have hcfg₃ := (addBody_cfg lib presId app₂).trans hcfg₂
          split at h
          · cases h
          · rename_i body app₃ hbody
            rw [hbody] at hcfg₃
            cases h
            have hcfg : app'.cfg = app.cfg := hcfg₃
            rw [hcfg]
            exact ⟨rfl, rfl, rfl, Nat.le_of_not_lt hexpires, rfl⟩

end Publish

end Sippak
