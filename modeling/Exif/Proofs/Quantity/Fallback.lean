import Exif.Proofs.Results
import Exif.Quantity

/-! Several derivations look for a recorded value first and compute one only where none is recorded.
They are all the same function, `foundOr`, of what was found and of the computation. -/

namespace Exif

/-- What was found, or else what is computed. A failure of the search is not made good. -/
def foundOr (found : Except Failure (Option Float)) (computed : Except Failure Float) :
    Except Failure Float :=
  match found with
  | .ok (some x) => .ok x
  | .ok none => computed
  | .error e => .error e

theorem FailsOnly.foundOr {P : Failure → Prop} {found : Except Failure (Option Float)}
    {computed : Except Failure Float} (hfound : FailsOnly P found) (hcomputed : FailsOnly P computed) :
    FailsOnly P (foundOr found computed) := by
  cases found with
  | error e => exact .error (hfound e rfl)
  | ok v =>
    cases v with
    | some x => exact .ok x
    | none => exact hcomputed

namespace TagStore

theorem firstAvailable_eq (s : TagStore) (own other : Tag)
    (convert : Float → Except Failure Float) :
    s.firstAvailable own other convert = foundOr (s.double? own) (s.double other >>= convert) := by
  unfold firstAvailable
  cases s.double? own with
  | error e => rfl
  | ok v => cases v <;> rfl

theorem luminanceValue_eq (s : TagStore) :
    s.luminanceValue = foundOr (s.double? .brightnessValue)
      ((fun (av, tv, sv) => av + tv - sv) <$> asPartOf .brightness s.brightnessParts) := by
  unfold luminanceValue
  cases s.double? .brightnessValue with
  | error e => rfl
  | ok v => cases v <;> rfl

theorem focalLength35mmEquivalent_eq (s : TagStore) :
    s.focalLength35mmEquivalent = foundOr s.recordedEquivalent? s.computedEquivalent := by
  unfold focalLength35mmEquivalent
  cases s.recordedEquivalent? with
  | error e => rfl
  | ok v => cases v <;> rfl

end TagStore

end Exif
