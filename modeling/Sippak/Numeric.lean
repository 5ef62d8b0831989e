/-
  File:      Sippak/Numeric.lean
  Subject:   THE OPTIONS THAT TAKE A NUMBER: `-P`, `--rtp-port` and `-X` (getopts.c).

  A text is checked and read by two scans. `is_string_numeric` looks at the trimmed text and asks
  that every character is a digit, which an empty text meets; `atoi` reads the text as it is, and
  what it reads goes through a `long` and an `int`. So what is stored is the number written only
  up to a multiple of `2 ^ 32`.

  * `atoi_numeric` -- the two scans see the same digits;
  * `setPortValue_accepts`, `setPortValue_refuses` -- the ports that get through (`PortRead`);
  * `optStep_exact_iff` -- **when the number stored is the one written** (`NumOpt.Wraps`).
-/
import Sippak.Options

namespace Sippak

open CStr

/-! ## 1. What is asked for -/

/-- The text is a number: digits, and at least one. -/
def IsNumber (t : CStr) : Prop := t ≠ [] ∧ ∀ c ∈ t, isDigit c = true

inductive NumOpt where
  | localPort | rtpPort | expires
  deriving DecidableEq, Repr

namespace NumOpt

/-- The option, with its argument. -/
def opt (optarg : CStr) : NumOpt → Opt
  | .localPort => .localPort optarg
  | .rtpPort => .rtpPort optarg
  | .expires => .expires optarg

/-- The field the option sets. -/
def field (cfg : Cfg) : NumOpt → Nat
  | .localPort => cfg.localPort
  | .rtpPort => cfg.media.rtpPort
  | .expires => cfg.expires

/-- The structure with a number in that field. -/
def store (app : App) (n : Nat) : NumOpt → App
  | .localPort => { app with cfg := { app.cfg with localPort := n } }
  | .rtpPort =>
    { app with cfg := { app.cfg with media := { app.cfg.media with rtpPort := n } } }
  | .expires => { app with cfg := { app.cfg with expires := n } }

/-- The numbers the option takes: a port, or what an `unsigned int` holds. -/
def Takes (n : Nat) : NumOpt → Prop
  | .localPort | .rtpPort => 1 ≤ n ∧ n ≤ 65535
  | .expires => n < 2 ^ 32

/-- **Nothing is changed silently**: the number the trimmed text denotes is stored, or the program
    exits with an error. -/
def Exact (app : App) (optarg : CStr) (r : Except Abort OptResult) (o : NumOpt) : Prop :=
  (IsNumber (trim optarg) ∧ o.Takes (decimal (trim optarg)) ∧
      r = .ok (.next (o.store app (decimal (trim optarg))))) ∨
    ∃ line, r = .error (.exit .PJ_CLI_EINVARG line)

/-- The texts that are taken for another number: for a port what comes back from `2 ^ 32` on as
    one, for `-X` no digit at all and every number the field cannot hold. -/
def Wraps (t : CStr) : NumOpt → Prop
  | .localPort | .rtpPort =>
    (∀ c ∈ t, isDigit c = true) ∧ 2 ^ 32 ≤ decimal t ∧ decimal t < 2 ^ 63 ∧
      1 ≤ decimal t % 2 ^ 32 ∧ decimal t % 2 ^ 32 ≤ 65535
  | .expires => (∀ c ∈ t, isDigit c = true) ∧ (t = [] ∨ 2 ^ 32 ≤ decimal t)

theorem field_store (app : App) (n : Nat) (o : NumOpt) : o.field (o.store app n).cfg = n := by
  cases o <;> rfl

/-- What is stored can be read off the structure. -/
theorem store_inj {app : App} {n m : Nat} {o : NumOpt} (h : o.store app n = o.store app m) :
    n = m := by
  have hfield := congrArg (fun app' : App => o.field app'.cfg) h
  rwa [field_store, field_store] at hfield

end NumOpt

/-! ## 2. The two scans -/

theorem isStringNumeric_iff (s : CStr) :
    isStringNumeric s = true ↔ ∀ c ∈ trim s, isDigit c = true := List.all_eq_true

/-- **`atoi` reads the digits that were checked**, saturated and truncated. -/
theorem atoi_numeric {s : CStr} (h : ∀ c ∈ trim s, isDigit c = true) :
    atoi s = toInt (min (decimal (trim s)) (2 ^ 63 - 1)) := by
  obtain ⟨w, hw, hspace⟩ := ltrim_eq_trim_append s
  rw [atoi_eq, hw, numeral_digits_append h hspace]
  exact congrArg toInt (by omega)

/-- What it reads, as `unsigned`. -/
theorem atoi_numeric_unsigned {s : CStr} (h : ∀ c ∈ trim s, isDigit c = true) :
    (atoi s % 2 ^ 32).toNat = min (decimal (trim s)) (2 ^ 63 - 1) % 2 ^ 32 := by
  rw [atoi_numeric h, toInt_eq]
  split <;> omega

/-! ## 3. The ports -/

/-- The texts that get through as a port. -/
def PortRead (t : CStr) : Prop :=
  (∀ c ∈ t, isDigit c = true) ∧ decimal t < 2 ^ 63 ∧ 1 ≤ decimal t % 2 ^ 32 ∧
    decimal t % 2 ^ 32 ≤ 65535

/-- A number in the range of a port, by the digits: from `2 ^ 63` on it reads as -1. -/
theorem port_range {s : CStr} (h : ∀ c ∈ trim s, isDigit c = true) :
    (1 ≤ atoi s ∧ atoi s ≤ 65535 ↔ PortRead (trim s)) ∧
      (1 ≤ atoi s → atoi s ≤ 65535 → (atoi s).toNat = decimal (trim s) % 2 ^ 32) := by
  unfold PortRead
  rw [atoi_numeric h, toInt_eq]
  refine ⟨⟨fun ⟨hlo, hhi⟩ => ⟨h, ?_⟩, fun ⟨_, hlong, hlo, hhi⟩ => ?_⟩, fun hlo hhi => ?_⟩
  · split at hlo <;> omega
  · split <;> omega
  · split at hlo <;> rename_i hsign <;> simp only [hsign, if_true, if_false] at hhi ⊢ <;> omega

theorem port_max : ((2 <<< 15 : Int) - 1) = 65535 := by decide

theorem setPortValue_accepts {s : CStr} (h : PortRead (trim s)) :
    setPortValue s = .ok (decimal (trim s) % 2 ^ 32) := by
  obtain ⟨hiff, hval⟩ := port_range h.1
  obtain ⟨hlo, hhi⟩ := hiff.mpr h
  have hin : ¬ (atoi s < 1 ∨ (2 <<< 15) - 1 < atoi s) := by
    rw [port_max]
    omega
  unfold setPortValue
  rw [(isStringNumeric_iff s).mpr h.1, if_neg (by decide), if_neg hin, hval hlo hhi]

theorem setPortValue_refuses {s : CStr} (h : ¬ PortRead (trim s)) :
    ∃ line, setPortValue s = .error (.exit .PJ_CLI_EINVARG line) := by
  unfold setPortValue
  cases hnum : isStringNumeric s with
  | false => exact ⟨_, rfl⟩
  | true =>
      have hno := mt (port_range ((isStringNumeric_iff s).mp hnum)).1.mp h
      have hout : atoi s < 1 ∨ (2 <<< 15) - 1 < atoi s := by
        rw [port_max]
        omega
      rw [if_neg (by decide), if_pos hout]
      exact ⟨_, rfl⟩

/-- A port option: exact unless the number comes back as a port behind `2 ^ 32`. -/
theorem port_exact_iff {app : App} {s : CStr} {r : Except Abort OptResult} {o : NumOpt}
    (htakes : ∀ n, o.Takes n ↔ 1 ≤ n ∧ n ≤ 65535)
    (hok : ∀ port, setPortValue s = .ok port → r = .ok (.next (o.store app port)))
    (herr : ∀ e, setPortValue s = .error e → r = .error e) :
    o.Exact app s r ↔ ¬ (PortRead (trim s) ∧ 2 ^ 32 ≤ decimal (trim s)) := by
  by_cases hread : PortRead (trim s)
  · have hr := hok _ (setPortValue_accepts hread)
    obtain ⟨hdigits, hlong, hlo, hhi⟩ := hread
    constructor
    · intro hexact hwraps
      rcases hexact with ⟨-, -, hstored⟩ | ⟨line, hexit⟩
      · rw [hr] at hstored
        injection hstored with hnext
        injection hnext with happ
        have heq := NumOpt.store_inj happ
        omega
      · rw [hr] at hexit
        cases hexit
    · intro hno
      have hsmall : decimal (trim s) < 2 ^ 32 := by
        by_contra hge
        exact hno ⟨⟨hdigits, hlong, hlo, hhi⟩, Nat.le_of_not_lt hge⟩
      rw [Nat.mod_eq_of_lt hsmall] at hr hlo hhi
      refine Or.inl ⟨⟨fun hnil => ?_, hdigits⟩, (htakes _).mpr ⟨hlo, hhi⟩, hr⟩
      rw [hnil] at hlo
      exact absurd hlo (by decide)
  · obtain ⟨line, hexit⟩ := setPortValue_refuses hread
    exact iff_of_true (Or.inr ⟨line, herr _ hexit⟩) fun hwraps => hread hwraps.1

/-! ## 4. The three options -/

section Options

variable (b : Build) (lib : UriLib)

/-- A port option stores what `set_port_value` returns. -/
theorem port_step {o : NumOpt} (ho : o ≠ .expires) (app : App) (s : CStr) :
    (∀ port, setPortValue s = .ok port →
        optStep b lib app (o.opt s) = .ok (.next (o.store app port))) ∧
      ∀ e, setPortValue s = .error e → optStep b lib app (o.opt s) = .error e := by
  cases o with
  | expires => exact absurd rfl ho
  | localPort | rtpPort =>
      refine ⟨fun port hport => ?_, fun e he => ?_⟩
      · rw [NumOpt.opt, optStep, hport]
        rfl
      · rw [NumOpt.opt, optStep, he]

/-- `-X` keeps the last 32 bits of what `atoi` reads. -/
theorem expires_step (app : App) {s : CStr} (h : ∀ c ∈ trim s, isDigit c = true) :
    optStep b lib app (NumOpt.expires.opt s) =
      .ok (.next (NumOpt.expires.store app
        (min (decimal (trim s)) (2 ^ 63 - 1) % 2 ^ 32))) := by
  rw [NumOpt.opt, optStep, (isStringNumeric_iff s).mpr h, if_neg (by decide),
    atoi_numeric_unsigned h]
  rfl

theorem expires_exact_iff (app : App) (s : CStr) :
    NumOpt.expires.Exact app s (optStep b lib app (NumOpt.expires.opt s)) ↔
      ¬ NumOpt.expires.Wraps (trim s) := by
  by_cases hdigits : ∀ c ∈ trim s, isDigit c = true
  · rw [expires_step b lib app hdigits]
    constructor
    · intro hexact hwraps
      rcases hexact with ⟨⟨hne, -⟩, htakes, -⟩ | ⟨line, hexit⟩
      · rcases hwraps.2 with hnil | hbig
        · exact hne hnil
        · exact absurd htakes (Nat.not_lt.mpr hbig)
      · cases hexit
    · intro hno
      have hne : trim s ≠ [] := fun hnil => hno ⟨hdigits, Or.inl hnil⟩
      have hsmall : decimal (trim s) < 2 ^ 32 := by
        by_contra hge
        exact hno ⟨hdigits, Or.inr (Nat.le_of_not_lt hge)⟩
      have hsame : min (decimal (trim s)) (2 ^ 63 - 1) % 2 ^ 32 = decimal (trim s) := by omega
      rw [hsame]
      exact Or.inl ⟨⟨hne, hdigits⟩, hsmall, rfl⟩
  · refine iff_of_true (Or.inr ?_) fun hwraps => hdigits hwraps.1
    have hnum : isStringNumeric s = false := by
      rw [← Bool.not_eq_true, isStringNumeric_iff]
      exact hdigits
    rw [NumOpt.opt, optStep, hnum, if_pos (by decide)]
    exact ⟨_, rfl⟩

/-- **The number stored is the one written, or the program exits**, exactly where the text is not
    one that is taken for another number. -/
theorem optStep_exact_iff (o : NumOpt) (app : App) (s : CStr) :
    o.Exact app s (optStep b lib app (o.opt s)) ↔ ¬ o.Wraps (trim s) := by
  have hport : PortRead (trim s) ∧ 2 ^ 32 ≤ decimal (trim s) ↔
      NumOpt.localPort.Wraps (trim s) := by
    refine ⟨fun ⟨⟨hdigits, hlong, hlo, hhi⟩, hbig⟩ => ?_,
      fun ⟨hdigits, hbig, hlong, hlo, hhi⟩ => ?_⟩
    · exact ⟨hdigits, hbig, hlong, hlo, hhi⟩
    · exact ⟨⟨hdigits, hlong, hlo, hhi⟩, hbig⟩
  cases o with
  | localPort =>
      obtain ⟨hok, herr⟩ := port_step b lib (o := .localPort) (by decide) app s
      rw [port_exact_iff (fun n => Iff.rfl) hok herr, hport]
  | rtpPort =>
      obtain ⟨hok, herr⟩ := port_step b lib (o := .rtpPort) (by decide) app s
      rw [port_exact_iff (fun n => Iff.rfl) hok herr, hport]
      rfl
  | expires => exact expires_exact_iff b lib app s

/-- A port is read as the number it is. -/
theorem setPortValue_port {s : CStr} (hnum : IsNumber (trim s)) (hlo : 1 ≤ decimal (trim s))
    (hhi : decimal (trim s) ≤ 65535) : setPortValue s = .ok (decimal (trim s)) := by
  have hsame : decimal (trim s) % 2 ^ 32 = decimal (trim s) := by omega
  have hread : PortRead (trim s) := ⟨hnum.2, by omega, by omega, by omega⟩
  rw [setPortValue_accepts hread, hsame]

/-- What the option takes is stored. -/
theorem optStep_stored (o : NumOpt) (app : App) {s : CStr} (hnum : IsNumber (trim s))
    (htakes : o.Takes (decimal (trim s))) :
    optStep b lib app (o.opt s) = .ok (.next (o.store app (decimal (trim s)))) := by
  cases o with
  | localPort | rtpPort =>
      exact (port_step b lib (by decide) app s).1 _ (setPortValue_port hnum htakes.1 htakes.2)
  | expires =>
      have hlt : decimal (trim s) < 2 ^ 32 := htakes
      have hsame : min (decimal (trim s)) (2 ^ 63 - 1) % 2 ^ 32 = decimal (trim s) := by omega
      rw [expires_step b lib app hnum.2, hsame]

/-- **A numeric option is never silently changed** exactly where its text is not one that is taken
    for another number; and a number the option takes is stored. -/
theorem numeric_exact_iff (o : NumOpt) (app : App) (s : CStr) :
    (o.Exact app s (optStep b lib app (o.opt s)) ↔ ¬ o.Wraps (trim s)) ∧
      (IsNumber (trim s) → o.Takes (decimal (trim s)) →
        optStep b lib app (o.opt s) = .ok (.next (o.store app (decimal (trim s))))) :=
  ⟨optStep_exact_iff b lib o app s, optStep_stored b lib o app⟩

end Options

/-- `-P 4294967297` is accepted as the port 1, `-X 4294967296` as 0 seconds, and so is an empty
    `-X`. -/
theorem numeric_wrapped :
    ∃ app, sippakGetopts Build.g711 UriLib.plain
        (fun _ => ([.localPort "4294967297".toList, .rtpPort " 4294967298 ".toList,
          .expires "4294967296".toList], ["ping".toList, "sip:alice@host".toList]))
        ["sippak".toList, "-P".toList, "4294967297".toList, "--rtp-port".toList,
          " 4294967298 ".toList, "-X".toList, "4294967296".toList, "ping".toList,
          "sip:alice@host".toList] sippakInit = .ok (.PJ_SUCCESS, app) ∧
      app.cfg.localPort = 1 ∧ app.cfg.media.rtpPort = 2 ∧ app.cfg.expires = 0 ∧
      ∃ app', optStep Build.g711 UriLib.plain app (.expires []) = .ok (.next app') ∧
        app'.cfg.expires = 0 :=
  ⟨_, rfl, rfl, rfl, rfl, _, rfl, rfl⟩

end Sippak
