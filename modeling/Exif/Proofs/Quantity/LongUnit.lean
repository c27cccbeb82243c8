import Exif.Proofs.Failures

/-! A unit of the focal plane resolution whose code cannot be written. Where the focal length on film is
computed and only the unit stands in its way, the code has to be reported. If it has too many digits for
that, the failure is one of writing the code, and not an illegal value. -/

namespace Exif.TagStore

/-- The focal length on film is computed, all that comes before the length of the unit can be read, and
the code that is recorded for the unit has too many digits to be reported. -/
structure StopsAtUnit (s : TagStore) : Prop where
  unrecorded : s.recordedEquivalent? = .ok none
  focalLength : ∃ x, s.double .focalLength = .ok x
  xDimension : ∃ x, s.double .pixelXDimension = .ok x
  yDimension : ∃ x, s.double .pixelYDimension = .ok x
  xResolution : ∃ x, s.resolution .focalPlaneXResolution = .ok x
  yResolution : ∃ x, s.resolution .focalPlaneYResolution = .ok x
  unit : ∃ n, s.tags.get? .focalPlaneResolutionUnit = some (.int n) ∧ Decimal.isWritable n = false

variable {s : TagStore} {q : Quantity} {tag : Tag}

/-! ## Steps before the unit -/

theorem double?_writes (h : tag ∈ Quantity.focalLength35mmEquivalent.doubleTags) :
    FailsOnly (· ≠ .unwritableInteger) (s.double? tag) :=
  (double?_fails h).mono fun _ he => he.1 ▸ Failure.noConfusion

theorem double_writes (h : tag ∈ Quantity.focalLength35mmEquivalent.doubleTags) :
    FailsOnly (· ≠ .unwritableInteger) (s.double tag) := by
  refine (double?_writes h).bind fun v _ => ?_
  cases v with
  | none => exact .error Failure.noConfusion
  | some x => exact .ok x

theorem resolution_writes (h : tag ∈ Quantity.focalLength35mmEquivalent.doubleTags) :
    FailsOnly (· ≠ .unwritableInteger) (s.resolution tag) := by
  refine (double_writes h).bind fun x _ => ?_
  split
  · exact .error Failure.noConfusion
  · exact .ok x

theorem resolution_of_double {x : Float} (hx : s.double tag = .ok x) (hpos : ¬ x ≤ 0) :
    s.resolution tag = .ok x := by
  rw [resolution, hx]
  exact if_neg hpos

theorem recordedEquivalent?_writes : FailsOnly (· ≠ .unwritableInteger) s.recordedEquivalent? :=
  (double?_writes (by decide)).bind fun _ _ => .ok _

/-! ## The unit -/

theorem unitLength_of_long {n : Int} (hn : s.tags.get? .focalPlaneResolutionUnit = some (.int n))
    (hlong : Decimal.isWritable n = false) : s.resolutionUnitLength = .error .unwritableInteger := by
  have hcode : s.resolutionUnitCode = n := by
    rw [resolutionUnitCode, int?, hn]
    rfl
  have hunknown : ResolutionUnit.ofCode? n = none := by
    refine List.find?_eq_none.2 fun u _ => ?_
    have hshort : Decimal.isWritable u.code = true := by cases u <;> decide
    rw [decide_eq_true_eq]
    rintro rfl
    exact nomatch hlong.symm.trans hshort
  have hfailure : unitFailure n = .unwritableInteger := dif_neg (Bool.eq_false_iff.1 hlong)
  rw [resolutionUnitLength, hcode, hunknown, hfailure]
  rfl

theorem computedEquivalent_of_stopsAtUnit (h : s.StopsAtUnit) :
    s.computedEquivalent = .error .unwritableInteger := by
  obtain ⟨-, ⟨f, hf⟩, ⟨x, hx⟩, ⟨y, hy⟩, ⟨xr, hxr⟩, ⟨yr, hyr⟩, n, hn, hlong⟩ := h
  rw [computedEquivalent, hf, hx, hy, hxr, hyr, unitLength_of_long hn hlong]
  rfl

theorem stopsAtUnit_of_computed (hrecorded : s.recordedEquivalent? = .ok none)
    (hunit : s.HasLongUnit .focalLength35mmEquivalent)
    (h : s.computedEquivalent = .error .unwritableInteger) : s.StopsAtUnit := by
  obtain ⟨f, hf, h⟩ := (double_writes (by decide)).error_of_bind h
  obtain ⟨x, hx, h⟩ := (double_writes (by decide)).error_of_bind h
  obtain ⟨y, hy, h⟩ := (double_writes (by decide)).error_of_bind h
  obtain ⟨xr, hxr, h⟩ := (resolution_writes (by decide)).error_of_bind h
  obtain ⟨yr, hyr, -⟩ := (resolution_writes (by decide)).error_of_bind h
  exact ⟨hrecorded, ⟨f, hf⟩, ⟨x, hx⟩, ⟨y, hy⟩, ⟨xr, hxr⟩, ⟨yr, hyr⟩, hunit.2⟩

/-- No other quantity writes an integer. -/
theorem value_eq_unwritable_iff : s.value q = .error .unwritableInteger ↔
    q = .focalLength35mmEquivalent ∧ s.StopsAtUnit := by
  constructor
  · intro h
    have hout := value_outcome s q
    rw [h] at hout
    cases hout with
    | tooLong hunit =>
      obtain ⟨rfl, -⟩ := id hunit
      rw [value, focalLength35mmEquivalent_eq, map_eq_error] at h
      refine ⟨rfl, ?_⟩
      rcases hrecorded : s.recordedEquivalent? with e | _ | x
      · rw [hrecorded] at h
        exact absurd (Except.error.inj h) (recordedEquivalent?_writes e hrecorded)
      · rw [hrecorded] at h
        exact stopsAtUnit_of_computed hrecorded hunit h
      · rw [hrecorded] at h
        cases h
  · rintro ⟨rfl, h⟩
    rw [value, focalLength35mmEquivalent_eq, h.unrecorded, foundOr, computedEquivalent_of_stopsAtUnit h]
    rfl

end Exif.TagStore
