import Reckoner.Proofs.ExpressionFaults

/-!
# Checked settings (what a session made from them can rely on)

Settings that pass their check give a float for the empty expression, and a size of the
cache that counts can be compared with. A session made from them therefore has an outcome
for every text (`Session.documented_of_check`), and how many results it keeps has no
bearing on it (`Session.appraisal_of_check`).
-/

namespace Reckoner

theorem Settings.demand_eq_ok {holds : Bool} {reason : Text} (h : demand holds reason = .ok ()) :
    holds = true := by
  unfold demand at h
  split at h
  · assumption
  · cases h

/-- What passing the check says about the settings that evaluating depends on. -/
theorem Settings.check_elim {settings : Settings} (h : settings.check = .ok ()) :
    settings.cacheSize.isNatural = .ok true ∧ ∃ x, settings.emptyResult = .float x := by
  obtain ⟨_, -, h⟩ := bind_eq_ok h
  obtain ⟨natural, hnatural, h⟩ := bind_eq_ok h
  obtain ⟨_, hholds, h⟩ := bind_eq_ok h
  obtain ⟨_, hempty, -⟩ := bind_eq_ok h
  obtain rfl := demand_eq_ok hholds
  refine ⟨hnatural, ?_⟩
  have hkind := of_decide_eq_true (demand_eq_ok hempty)
  cases hvalue : settings.emptyResult with
  | float x => exact ⟨x, rfl⟩
  | _ =>
      rw [hvalue] at hkind
      cases hkind

theorem Limit.usable_ofInt (n : Int) : (ofInt n).usable = .ok () := by
  unfold ofInt
  split <;> rfl

theorem Limit.usable_ofSetting {size : Setting} (h : size.isNatural = .ok true) :
    (ofSetting size).usable = .ok () := by
  cases size with
  | truth b => exact usable_ofInt _
  | integer n => exact usable_ofInt n
  | float x =>
      show (ofFloat x).usable = .ok ()
      unfold ofFloat
      split
      · rfl
      · split <;> rfl
  | absent => cases h
  | text s => cases h

namespace Session

variable {settings : Settings} (hcheck : settings.check = .ok ())

include hcheck

theorem usable_of_check (strict : Option Bool) (size : Option Int) :
    (ofSettings settings strict size).limit.usable = .ok () := by
  cases size with
  | none => exact Limit.usable_ofSetting (Settings.check_elim hcheck).1
  | some n => exact Limit.usable_ofInt n

/-- What a source comes to does not depend on how many results are kept. -/
theorem appraisal_of_check (strict : Option Bool) (size size' : Option Int) (source : Text) :
    appraisal (ofSettings settings strict size) source =
      appraisal (ofSettings settings strict size') source := by
  unfold appraisal
  rw [usable_of_check hcheck, usable_of_check hcheck]
  rfl

/-- The empty text comes to the value that the settings have for it. -/
theorem appraisal_nil_of_check (strict : Option Bool) (size : Option Int) {x : Float}
    (hempty : settings.emptyResult = .float x) :
    appraisal (ofSettings settings strict size) [] = .ok x := by
  have hparse (strict : Bool) : Scan.parse [] strict = .ok none := by
    cases strict <;> decide +kernel
  have hvalue : (ofSettings settings strict size).emptyResult = .ok x := by
    show settings.emptyResult.toFloat = .ok x
    rw [hempty]
    rfl
  unfold appraisal
  rw [hparse, usable_of_check hcheck]
  show (ofSettings settings strict size).emptyResult >>= Except.ok = .ok x
  rw [hvalue]
  rfl

theorem documented_of_check (strict : Option Bool) (size : Option Int) (source : Text) (e : Fault)
    (h : appraisal (ofSettings settings strict size) source = .error e) : e.Documented := by
  obtain ⟨x, hx⟩ := (Settings.check_elim hcheck).2
  refine appraisal_error (x := x) ?_ (usable_of_check hcheck strict size) h
  show settings.emptyResult.toFloat = .ok x
  rw [hx]
  rfl

end Session

end Reckoner
