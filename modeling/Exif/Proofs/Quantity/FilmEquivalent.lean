import Exif.Proofs.Quantity.Dependence
import Exif.Proofs.Failures
import Exif.Proofs.TagStore

/-! How the focal length on film is decided. A recorded one that is positive counts. Otherwise the tags
from which it is computed are checked one after the other, and the first check that fails decides; where
all of them pass it is the focal length scaled by the ratio of the diagonals. The checks leave no division
by zero. -/

namespace Exif

theorem ResolutionUnit.millimeters_of_code (n : Int) : (ofCode? n).bind millimeters =
    if n = 2 then some 25.4 else if n = 3 then some 10.0 else .none := by
  by_cases hinch : n = 2
  · subst hinch
    rfl
  by_cases hcentimeter : n = 3
  · subst hcentimeter
    rfl
  rw [if_neg hinch, if_neg hcentimeter]
  by_cases hone : n = 1
  · subst hone
    rfl
  · have hnone : ofCode? n = .none := by
      simp only [ofCode?, List.find?_eq_none, decide_eq_true_eq]
      intro u _ hu
      cases u <;> simp only [code] at hu <;> omega
    rw [hnone]
    rfl

namespace TagStore

/-! ## Checks -/

/-- The double that can be read under a tag, or zero if there is none. -/
def reading (s : TagStore) (tag : Tag) : Float :=
  match s.double? tag with
  | .ok (some x) => x
  | _ => 0

def unreadable (s : TagStore) (tag : Tag) : List Failure :=
  match s.double? tag with
  | .ok (some _) => []
  | .ok none => [absent tag]
  | .error e => [e]

def notPositive (s : TagStore) (tag : Tag) : List Failure :=
  if s.reading tag ≤ 0 then [illegal tag (.notPositive (s.reading tag))] else []

/-- A unit that is recorded has to be the inch or the centimeter. -/
def unsupportedUnit (s : TagStore) : List Failure :=
  match s.int? .focalPlaneResolutionUnit with
  | some code => if code = 2 ∨ code = 3 then [] else [unitFailure code]
  | none => []

def unitLength (s : TagStore) : Float :=
  if s.int? .focalPlaneResolutionUnit = some 3 then 10.0 else 25.4

def sensorDiagonal (s : TagStore) : Float :=
  Double.hypot (s.unitLength / s.reading .focalPlaneXResolution * s.reading .pixelXDimension)
    (s.unitLength / s.reading .focalPlaneYResolution * s.reading .pixelYDimension)

def zeroDiagonal (s : TagStore) : List Failure :=
  if s.sensorDiagonal == 0 then [illegal .pixelXDimension .zeroDiagonal] else []

/-- All that speaks against a computed focal length on film, in the order of the checks. A check counts only
where those before it pass, so zero may stand for a tag that cannot be read. -/
def equivalentFaults (s : TagStore) : List Failure :=
  s.unreadable .focalLength ++ s.unreadable .pixelXDimension ++ s.unreadable .pixelYDimension ++
    s.unreadable .focalPlaneXResolution ++ s.notPositive .focalPlaneXResolution ++
    s.unreadable .focalPlaneYResolution ++ s.notPositive .focalPlaneYResolution ++
    s.unsupportedUnit ++ s.zeroDiagonal

variable {s : TagStore} {tag : Tag}

theorem double_eq_firstError (s : TagStore) (tag : Tag) :
    s.double tag = firstError (s.unreadable tag) (s.reading tag) := by
  unfold double unreadable reading
  rcases s.double? tag with e | _ | x <;> rfl

theorem resolution_eq_firstError (s : TagStore) (tag : Tag) :
    s.resolution tag = firstError (s.unreadable tag ++ s.notPositive tag) (s.reading tag) := by
  unfold resolution
  rw [double_eq_firstError]
  refine firstError_bind ?_
  unfold notPositive
  split <;> rfl

theorem resolutionUnitLength_eq_firstError (s : TagStore) :
    s.resolutionUnitLength = firstError s.unsupportedUnit s.unitLength := by
  unfold resolutionUnitLength resolutionUnitCode unsupportedUnit unitLength
  rw [ResolutionUnit.millimeters_of_code]
  rcases s.int? .focalPlaneResolutionUnit with _ | n
  · rfl
  · simp only [Option.getD_some, Option.some.injEq]
    by_cases hinch : n = 2
    · subst hinch
      rfl
    · by_cases hcentimeter : n = 3
      · subst hcentimeter
        rfl
      · simp only [hinch, hcentimeter, if_false, or_self]
        rfl

theorem computedEquivalent_eq_firstError (s : TagStore) :
    s.computedEquivalent = firstError s.equivalentFaults
      (s.reading .focalLength * filmDiagonal / s.sensorDiagonal) := by
  unfold computedEquivalent equivalentFaults
  simp only [double_eq_firstError, resolution_eq_firstError, resolutionUnitLength_eq_firstError,
    List.append_assoc]
  refine firstError_bind ?_
  refine firstError_bind ?_
  refine firstError_bind ?_
  rw [← List.append_assoc]
  refine firstError_bind ?_
  rw [← List.append_assoc]
  refine firstError_bind ?_
  refine firstError_bind ?_
  change (if s.sensorDiagonal == 0 then Except.error _ else Except.ok _) = _
  unfold zeroDiagonal
  split <;> rfl

/-! ## Divisions -/

/-- The computation of the focal length on film with every division failing where the divisor is zero. -/
def checkedEquivalent (s : TagStore) : Except Failure Float := do
  let focalLength ← s.double .focalLength
  let xDimension ← s.double .pixelXDimension
  let yDimension ← s.double .pixelYDimension
  let xResolution ← s.resolution .focalPlaneXResolution
  let yResolution ← s.resolution .focalPlaneYResolution
  let unit ← s.resolutionUnitLength
  let xPitch ← divide unit xResolution
  let yPitch ← divide unit yResolution
  let diagonal := Double.hypot (xPitch * xDimension) (yPitch * yDimension)
  if diagonal == 0 then .error (illegal .pixelXDimension .zeroDiagonal)
  else divide (focalLength * filmDiagonal) diagonal

theorem divide_of_ne_zero {x y : Float} (h : (y == 0) = false) : divide x y = .ok (x / y) := by
  rw [divide, h]
  rfl

theorem ne_zero_of_resolution {x : Float} (h : s.resolution tag = .ok x) : (x == 0) = false := by
  obtain ⟨y, -, h⟩ := bind_eq_ok.1 h
  split at h
  · exact nomatch h
  · next hpositive =>
    obtain rfl := Except.ok.inj h
    exact Double.ne_zero_of_not_le_zero hpositive

/-- The checks leave no division by zero. -/
theorem checkedEquivalent_eq (s : TagStore) : s.checkedEquivalent = s.computedEquivalent := by
  unfold checkedEquivalent computedEquivalent
  refine bind_congr_of_ok fun focalLength _ => ?_
  refine bind_congr_of_ok fun xDimension _ => ?_
  refine bind_congr_of_ok fun yDimension _ => ?_
  refine bind_congr_of_ok fun xResolution hx => ?_
  refine bind_congr_of_ok fun yResolution hy => ?_
  refine bind_congr_of_ok fun unit _ => ?_
  rw [divide_of_ne_zero (ne_zero_of_resolution hx), divide_of_ne_zero (ne_zero_of_resolution hy)]
  change (if _ then _ else _) = if _ then _ else _
  split
  · rfl
  · next hne => exact divide_of_ne_zero (Bool.eq_false_iff.2 hne)

/-! ## The decision -/

/-- Zero or less is no record of a focal length on film. -/
theorem recordedEquivalent?_of_not_pos (hs : s.Convertible)
    (h : ∀ x, s.double? .focalLengthIn35mmFilm = .ok (some x) → ¬ 0 < x) :
    s.recordedEquivalent? = .ok none := by
  obtain ⟨_ | x, hv⟩ := hs.double?_total .focalLengthIn35mmFilm
  · rw [recordedEquivalent?, hv]
    rfl
  · rw [recordedEquivalent?, hv]
    exact congrArg Except.ok (Option.filter_some_neg (decide_eq_false (h x hv)))

/-- Without a record, the focal length on film is computed if nothing speaks against it. -/
theorem value_of_unrecorded (h : s.recordedEquivalent? = .ok none) :
    s.value .focalLength35mmEquivalent = firstError s.equivalentFaults
      (.double (s.reading .focalLength * filmDiagonal / s.sensorDiagonal)) := by
  rw [value, focalLength35mmEquivalent_eq, h, foundOr, computedEquivalent_eq_firstError, map_firstError]

/-- The decision. A positive focal length on film that is recorded is given as it is. Otherwise the first
check that fails is reported, and the computed focal length is given if none does. With every division
checked the computation comes to the same, so none has a divisor of zero, and there is no failure other
than an absent tag and an illegal value. -/
theorem equivalent_decided_by_checks {s : TagStore} (hs : s.Convertible) :
    -- a recorded one
    (∀ x, s.double? .focalLengthIn35mmFilm = .ok (some x) → 0 < x →
      s.value .focalLength35mmEquivalent = .ok (.double x)) ∧
      -- a computed one
      ((∀ x, s.double? .focalLengthIn35mmFilm = .ok (some x) → ¬ 0 < x) →
        (∀ e, s.value .focalLength35mmEquivalent = .error e ↔ s.equivalentFaults.head? = some e) ∧
          ∀ v, s.value .focalLength35mmEquivalent = .ok v ↔ s.equivalentFaults = [] ∧
            v = .double (s.reading .focalLength * Double.hypot 36 24 / s.sensorDiagonal)) ∧
      -- its divisions
      s.checkedEquivalent = s.computedEquivalent ∧
      ∀ e, s.value .focalLength35mmEquivalent = .error e →
        (∃ tag, e = absent tag) ∨ ∃ tag why, e = illegal tag why := by
  refine ⟨?_, ?_, checkedEquivalent_eq s, fun e => hs.absent_or_illegal rfl⟩
  · intro x hx hpos
    rw [value, focalLength35mmEquivalent_eq, recordedEquivalent?_of_pos hx hpos]
    rfl
  · intro h
    have hvalue := value_of_unrecorded (recordedEquivalent?_of_not_pos hs h)
    refine ⟨fun e => ?_, fun v => ?_⟩
    · rw [hvalue, firstError_eq_error]
    · rw [hvalue, firstError_eq_ok, eq_comm (a := v)]
      rfl

/-- A store without a record of the focal length on film, and with a sensor of so fine a resolution that
its size is zero. -/
def flatSensor : TagStore :=
  ⟨⟨[(.focalLengthIn35mmFilm, .double 0), (.focalLength, .double 50), (.pixelXDimension, .double 3600),
    (.pixelYDimension, .double 2400), (.focalPlaneXResolution, .double (1 / 0)),
    (.focalPlaneYResolution, .double (1 / 0))], by decide⟩, 0, none⟩

theorem equivalent_decided_by_checks_flatSensor :
    flatSensor.Convertible ∧ flatSensor.value .focalLength35mmEquivalent =
        .error (illegal .pixelXDimension .zeroDiagonal) ∧
      flatSensor.checkedEquivalent = .error (illegal .pixelXDimension .zeroDiagonal) := by
  have hconvertible : flatSensor.Convertible := convertible_of_entries (by simp [flatSensor])
  obtain ⟨-, hcomputed, hchecked, -⟩ := equivalent_decided_by_checks hconvertible
  have hunrecorded : ∀ x, flatSensor.double? .focalLengthIn35mmFilm = .ok (some x) → ¬ 0 < x := by
    intro x hx
    have hzero : flatSensor.double? .focalLengthIn35mmFilm = .ok (some 0) := rfl
    obtain rfl := Option.some.inj (Except.ok.inj (hzero.symm.trans hx))
    decide
  have hfaults : flatSensor.equivalentFaults = [illegal .pixelXDimension .zeroDiagonal] := by
    have hdiagonal : (flatSensor.sensorDiagonal == 0) = true := by decide +kernel
    have hx : flatSensor.notPositive .focalPlaneXResolution = [] := if_neg (by decide +kernel)
    have hy : flatSensor.notPositive .focalPlaneYResolution = [] := if_neg (by decide +kernel)
    rw [equivalentFaults, zeroDiagonal, hdiagonal, hx, hy]
    rfl
  refine ⟨hconvertible, ((hcomputed hunrecorded).1 _).2 (congrArg List.head? hfaults), ?_⟩
  rw [hchecked, computedEquivalent_eq_firstError, hfaults]
  rfl

end TagStore

end Exif
