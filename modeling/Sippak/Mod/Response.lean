/-
  File:      Sippak/Mod/Response.lean
  Subject:   WHAT A RESPONSE CALLBACK READS (the parts of `pjsip_rx_data` the modules look at), and
             the lines the callbacks log about it.

  `msg->type` is not here: pjsip hands `on_rx_response` to the modules for responses only, and
  PUBLISH, which tests it, takes it as an argument of its own.
-/
import Sippak.App

namespace Sippak

/-- `pjsip_via_hdr`, the two fields that are logged. -/
structure Via where
  rportParam : Int
  recvdParam : PjStr
  deriving DecidableEq, Repr

structure Response where
  code : Nat
  reason : CStr
  via : Option Via
  deriving DecidableEq, Repr

/-- A response with this code, without reason and Via. -/
def Response.plain (code : Nat) : Response := ⟨code, [], none⟩

/-- `code == 401 || code == 407`. -/
def isChallenge (code : Nat) : Bool := code == 401 || code == 407

theorem final_of_isChallenge {code : Nat} (h : isChallenge code = true) : 200 ≤ code := by
  unfold isChallenge at h
  simp only [Bool.or_eq_true, beq_iff_eq] at h
  omega

def showNat (n : Nat) : CStr := (toString n).toList

def showInt (n : Int) : CStr := (toString n).toList

/-- The two log lines of an `on_rx_response`; `logsVia` is the condition in front of the second. -/
def responseLines (name : CStr) (logsVia : Via → Bool) (r : Response) : List LogLine :=
  ⟨3, name, "Response received: ".toList ++ showNat r.code ++ " ".toList ++ r.reason⟩ ::
    match r.via with
    | some via =>
      if logsVia via then
        [⟨3, name, "Via rport: ".toList ++ showInt via.rportParam ++ ", received: ".toList ++
          PjStr.text via.recvdParam⟩]
      else []
    | none => []

/-- The line at which PING, NOTIFY, MESSAGE, REFER, PUBLISH and SUBSCRIBE give up. -/
def authFailedLine (name : CStr) : LogLine :=
  ⟨1, name, "Authentication failed. Check your username and password".toList⟩

end Sippak
