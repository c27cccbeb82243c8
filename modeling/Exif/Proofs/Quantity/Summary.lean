import Mathlib.Data.List.Basic
import Exif.Proofs.OrderedMap
import Exif.Proofs.Quantity.LongUnit

/-! Summaries. Every quantity has one of a few outcomes, and they decide whether there is a summary and
what it lists. Where there is one, the columns of the composite quantities follow from the other
columns. -/

namespace Exif

variable {s : TagStore} {rows : List (Quantity × Option TagValue)}

/-! ## Outcomes -/

namespace TagStore

theorem summary_fails_iff (s : TagStore) :
    (∃ e, s.summary = .error e) ↔ ∃ q, ¬ OnlyUnavailable (s.value q) := by
  cases hs : s.summary with
  | error e =>
    obtain ⟨before, q, after, -, he, hne, -⟩ := summary_eq_error.1 hs
    exact iff_of_true ⟨e, rfl⟩ ⟨q, fun h => hne (h e he)⟩
  | ok rows =>
    refine iff_of_false ?_ ?_
    · rintro ⟨e, he⟩
      exact nomatch he
    · rintro ⟨q, hq⟩
      exact hq ((summary_eq_ok.1 hs).1 q)

/-- The outcome of every quantity, and what a summary makes of the outcomes: it fails as the first
quantity that has a failure other than a lack of data, and otherwise lists all quantities in order, with
a gap exactly where data are missing. The failure to write an integer is that of the focal length on film,
where it is computed up to a unit whose code has too many digits. -/
theorem summary_of_outcomes (s : TagStore) :
    (∀ q, Outcome s q (s.value q)) ∧
      (∀ q, s.value q = .error .unwritableInteger ↔
        q = .focalLength35mmEquivalent ∧ s.StopsAtUnit) ∧
      -- whether there is a summary, and how it fails
      ((∃ e, s.summary = .error e) ↔ ∃ q, ¬ OnlyUnavailable (s.value q)) ∧
      (∀ e, s.summary = .error e ↔ ∃ before q after, Quantity.all = before ++ q :: after ∧
        s.value q = .error e ∧ (¬ ∃ why, e = .unavailable why) ∧
        ∀ p ∈ before, OnlyUnavailable (s.value p)) ∧
      -- what it lists, and in which order
      (∀ rows, s.summary = .ok rows ↔ (∀ q, OnlyUnavailable (s.value q)) ∧
        rows = Quantity.all.map fun q => (q, (s.value q).toOption)) ∧
      Quantity.all.map Quantity.name =
        ["make", "model", "f_number", "exposure_time", "iso", "aperture_value", "time_value",
          "exposure_value", "film_speed_value", "luminance_value", "average_luminance",
          "focal_length_35mm_equiv", "thumbnail_location"] :=
  ⟨value_outcome s, fun _ => value_eq_unwritable_iff, summary_fails_iff s, fun _ => summary_eq_error,
    fun _ => summary_eq_ok, rfl⟩

def longCode : Int := Decimal.leastBeyond Decimal.maxDigits

theorem isWritable_longCode : Decimal.isWritable longCode = false := by
  rw [Bool.eq_false_iff, ne_eq, Decimal.isWritable_iff, longCode, Int.natAbs_natCast]
  exact lt_irrefl _

def longUnit : TagStore :=
  ⟨⟨[(.focalLength, .double 50), (.pixelXDimension, .double 3600), (.pixelYDimension, .double 2400),
    (.focalPlaneXResolution, .double 1000), (.focalPlaneYResolution, .double 1000),
    (.focalPlaneResolutionUnit, .int longCode)], by decide⟩, 0, none⟩

theorem stopsAtUnit_longUnit : longUnit.StopsAtUnit where
  unrecorded := rfl
  focalLength := ⟨_, rfl⟩
  xDimension := ⟨_, rfl⟩
  yDimension := ⟨_, rfl⟩
  xResolution := ⟨1000, resolution_of_double rfl (by decide +kernel)⟩
  yResolution := ⟨1000, resolution_of_double rfl (by decide +kernel)⟩
  unit := ⟨longCode, rfl, isWritable_longCode⟩

/-- The code is illegal for a unit, and yet the focal length on film is neither given nor unavailable. -/
theorem summary_fails_longUnit :
    ¬ ((∃ v, longUnit.value .focalLength35mmEquivalent = .ok v) ∨
        (∃ why, longUnit.value .focalLength35mmEquivalent = .error (.unavailable why)) ∨
        longUnit.value .focalLength35mmEquivalent = .error .integerTooLarge ∨
        longUnit.value .focalLength35mmEquivalent = .error .divisionByZero) ∧
      longUnit.summary = .error .unwritableInteger := by
  have hvalue : longUnit.value .focalLength35mmEquivalent = .error .unwritableInteger :=
    value_eq_unwritable_iff.2 ⟨rfl, stopsAtUnit_longUnit⟩
  refine ⟨?_, summary_eq_error.2 ⟨Quantity.all.take 11, _, [.thumbnailLocation], rfl, hvalue, ?_, ?_⟩⟩
  · rw [hvalue]
    simp
  · rintro ⟨why, h⟩
    exact nomatch h
  · have hlacks : ∀ q ∈ Quantity.all.take 11, ∃ why, longUnit.value q = .error (.unavailable why) := by
      simp only [Quantity.all, List.take_succ_cons, List.take_zero, List.forall_mem_cons]
      exact ⟨⟨_, rfl⟩, ⟨_, rfl⟩, ⟨_, rfl⟩, ⟨_, rfl⟩, ⟨_, rfl⟩, ⟨_, rfl⟩, ⟨_, rfl⟩, ⟨_, rfl⟩, ⟨_, rfl⟩,
        ⟨_, rfl⟩, ⟨_, rfl⟩, fun q hq => absurd hq List.not_mem_nil⟩
    intro q hq e he
    obtain ⟨why, hwhy⟩ := hlacks q hq
    exact ⟨why, Except.error.inj (he.symm.trans hwhy)⟩

end TagStore

/-! ## Columns -/

def column (rows : List (Quantity × Option TagValue)) (q : Quantity) : Option TagValue :=
  (rows.lookup q).join

theorem column_of_summary (h : s.summary = .ok rows) (q : Quantity) :
    column rows q = (s.value q).toOption := by
  obtain ⟨-, rfl⟩ := TagStore.summary_eq_ok.1 h
  rw [column, List.lookup_graph _ q.mem_all]
  rfl

theorem kind_of_column (h : s.summary = .ok rows) {q : Quantity} {v : TagValue}
    (hv : column rows q = some v) : v.kind = q.kind := by
  have hout := TagStore.value_outcome s q
  rw [column_of_summary h] at hv
  cases hq : s.value q with
  | error e =>
    rw [hq] at hv
    exact nomatch hv
  | ok w =>
    rw [hq] at hv hout
    obtain rfl := Option.some.inj hv
    exact hout

/-- The column of a quantity whose values are all doubles. -/
theorem double_column (h : s.summary = .ok rows) {q : Quantity} {r : Except Failure Float}
    (hq : s.value q = .double <$> r) : column rows q = r.toOption.map .double := by
  rw [column_of_summary h, hq, toOption_map]

/-- Where there is a summary, a double is given or unavailable. -/
theorem onlyUnavailable_of_summary (h : s.summary = .ok rows) {q : Quantity} {r : Except Failure Float}
    (hq : s.value q = .double <$> r) : OnlyUnavailable r := by
  intro e he
  refine (TagStore.summary_eq_ok.1 h).1 q e ?_
  rw [hq, he]
  rfl

namespace TagStore

theorem exposureValue_toOption (s : TagStore) :
    s.exposureValue.toOption =
      s.timeValue.toOption.bind fun tv => s.apertureValue.toOption.bind fun av => some (tv + av) := by
  simp only [exposureValue, toOption_bind, toOption_pure]

theorem isoTag_of_iso {speed : Float} (h : s.iso = .ok speed) : ∃ tag, s.isoTag = .ok tag := by
  obtain ⟨v, hv, -⟩ := bind_eq_ok.1 h
  exact ⟨_, by rw [isoTag, hv]; rfl⟩

theorem filmSpeedValue_toOption (s : TagStore) :
    s.filmSpeedValue.toOption = s.iso.toOption.bind fun speed =>
      if speed * filmSpeedConstant ≤ 0 then none
      else some (Double.log2 (speed * filmSpeedConstant)) := by
  rw [filmSpeedValue, toOption_bind]
  cases hiso : s.iso with
  | error e => rfl
  | ok speed =>
    obtain ⟨tag, htag⟩ := isoTag_of_iso hiso
    change (s.isoTag >>= fun tag => logarithm tag (speed * filmSpeedConstant)).toOption =
      if speed * filmSpeedConstant ≤ 0 then none else _
    rw [htag, toOption_bind]
    change (logarithm tag (speed * filmSpeedConstant)).toOption = _
    rw [logarithm]
    split <;> rfl

theorem asPartOf_toOption {α : Type} (c : Composite) (r : Except Failure α) :
    (asPartOf c r).toOption = r.toOption := by
  unfold asPartOf
  split <;> rfl

/-- Without a recorded brightness, the luminance value is there if all its parts are. -/
theorem luminanceValue_toOption (h : s.double? .brightnessValue = .ok none) :
    s.luminanceValue.toOption = s.apertureValue.toOption.bind fun av =>
      s.timeValue.toOption.bind fun tv =>
        s.filmSpeedValue.toOption.bind fun sv => some (av + tv - sv) := by
  rw [luminanceValue_eq, h, foundOr, toOption_map, asPartOf_toOption]
  simp only [brightnessParts, toOption_bind, toOption_pure, Option.map_bind, Function.comp_def,
    Option.map_some]

theorem averageLuminance_toOption_of_parts (h : OnlyUnavailable s.averageLuminance) {f t speed : Float}
    (hparts : s.luminanceParts = .ok (f, t, speed)) :
    s.averageLuminance.toOption = if t ≤ 0 ∨ speed ≤ 0 then none
      else some (f * f * reflectedLightConstant / (t * speed)) := by
  have hchecks := averageLuminance_of_parts hparts
  obtain ⟨-, -, hiso⟩ := luminanceParts_eq_ok.1 hparts
  obtain ⟨tag, htag⟩ := isoTag_of_iso hiso
  rw [htag] at hchecks
  by_cases ht : t ≤ 0
  · rw [hchecks, if_pos ht, if_pos (Or.inl ht)]
    rfl
  · by_cases hspeed : speed ≤ 0
    · rw [hchecks, if_neg ht, if_pos hspeed, if_pos (Or.inr hspeed)]
      rfl
    · rw [if_neg ht, if_neg hspeed, divide] at hchecks
      rw [if_neg (not_or.2 ⟨ht, hspeed⟩)]
      split at hchecks
      · -- a division by zero is no lack of data
        obtain ⟨why, hwhy⟩ := h _ hchecks
        cases hwhy
      · rw [hchecks]
        rfl

theorem averageLuminance_toOption (h : OnlyUnavailable s.averageLuminance) :
    s.averageLuminance.toOption = s.fNumber.toOption.bind fun f =>
      s.exposureTime.toOption.bind fun t => s.iso.toOption.bind fun speed =>
        if t ≤ 0 ∨ speed ≤ 0 then none
        else some (f * f * reflectedLightConstant / (t * speed)) := by
  have hvalue : s.averageLuminance.toOption = s.luminanceParts.toOption.bind fun p =>
      if p.2.1 ≤ 0 ∨ p.2.2 ≤ 0 then none
      else some (p.1 * p.1 * reflectedLightConstant / (p.2.1 * p.2.2)) := by
    cases hparts : s.luminanceParts with
    | error e =>
      rw [averageLuminance, toOption_bind, asPartOf_toOption, hparts]
      rfl
    | ok p => exact averageLuminance_toOption_of_parts h hparts
  rw [hvalue]
  simp only [luminanceParts, toOption_bind, toOption_pure, Option.bind_assoc, Option.bind_some]

end TagStore

/-! ## Columns of composite quantities -/

section

variable (h : s.summary = .ok rows)
include h

theorem exposureValue_column :
    (column rows .exposureValue = none ↔
        column rows .timeValue = none ∨ column rows .apertureValue = none) ∧
      ∀ tv av, column rows .timeValue = some (.double tv) →
        column rows .apertureValue = some (.double av) →
        column rows .exposureValue = some (.double (tv + av)) := by
  rw [double_column h (q := .exposureValue) rfl, double_column h (q := .timeValue) rfl,
    double_column h (q := .apertureValue) rfl, s.exposureValue_toOption]
  cases s.timeValue.toOption with
  | none => simp
  | some tv => cases s.apertureValue.toOption <;> simp

theorem filmSpeedValue_column :
    (column rows .filmSpeedValue = none ↔ column rows .iso = none ∨
        ∃ speed, column rows .iso = some (.double speed) ∧ speed * filmSpeedConstant ≤ 0) ∧
      ∀ speed, column rows .iso = some (.double speed) → ¬ speed * filmSpeedConstant ≤ 0 →
        column rows .filmSpeedValue = some (.double (Double.log2 (speed * filmSpeedConstant))) := by
  rw [double_column h (q := .filmSpeedValue) rfl, double_column h (q := .iso) rfl,
    s.filmSpeedValue_toOption]
  cases s.iso.toOption with
  | none => simp
  | some speed =>
    by_cases hle : speed * filmSpeedConstant ≤ 0
    · simp [hle]
    · simp [hle]

theorem luminanceValue_column_recorded {x : Float}
    (hx : s.double? .brightnessValue = .ok (some x)) :
    column rows .luminanceValue = some (.double x) := by
  rw [double_column h (q := .luminanceValue) rfl, s.luminanceValue_eq, hx]
  rfl

theorem luminanceValue_column_computed (hx : ¬ ∃ x, s.double? .brightnessValue = .ok (some x)) :
    (column rows .luminanceValue = none ↔ column rows .apertureValue = none ∨
        column rows .timeValue = none ∨ column rows .filmSpeedValue = none) ∧
      ∀ av tv sv, column rows .apertureValue = some (.double av) →
        column rows .timeValue = some (.double tv) →
        column rows .filmSpeedValue = some (.double sv) →
        column rows .luminanceValue = some (.double (av + tv - sv)) := by
  have hnone : s.double? .brightnessValue = .ok none := by
    cases hb : s.double? .brightnessValue with
    | error e =>
      -- an integer that is too large would have left no summary
      have hvalue : s.luminanceValue = .error e := by rw [s.luminanceValue_eq, hb]; rfl
      obtain ⟨why, rfl⟩ := onlyUnavailable_of_summary h (q := .luminanceValue) rfl e hvalue
      obtain ⟨hlarge, -⟩ := TagStore.double?_fails (q := .luminanceValue) (by decide) _ hb
      exact nomatch hlarge
    | ok v =>
      cases v with
      | none => rfl
      | some x => exact absurd ⟨x, hb⟩ hx
  rw [double_column h (q := .luminanceValue) rfl, double_column h (q := .apertureValue) rfl,
    double_column h (q := .timeValue) rfl, double_column h (q := .filmSpeedValue) rfl,
    TagStore.luminanceValue_toOption hnone]
  cases s.apertureValue.toOption with
  | none => simp
  | some av =>
    cases s.timeValue.toOption with
    | none => simp
    | some tv => cases s.filmSpeedValue.toOption <;> simp

theorem averageLuminance_column :
    (column rows .averageLuminance = none ↔ column rows .fNumber = none ∨
        column rows .exposureTime = none ∨ column rows .iso = none ∨
        (∃ t, column rows .exposureTime = some (.double t) ∧ t ≤ 0) ∨
        ∃ speed, column rows .iso = some (.double speed) ∧ speed ≤ 0) ∧
      ∀ f t speed, column rows .fNumber = some (.double f) →
        column rows .exposureTime = some (.double t) → column rows .iso = some (.double speed) →
        ¬ t ≤ 0 → ¬ speed ≤ 0 → column rows .averageLuminance =
          some (.double (f * f * reflectedLightConstant / (t * speed))) := by
  have hlack : OnlyUnavailable s.averageLuminance :=
    onlyUnavailable_of_summary h (q := .averageLuminance) rfl
  rw [double_column h (q := .averageLuminance) rfl, double_column h (q := .fNumber) rfl,
    double_column h (q := .exposureTime) rfl, double_column h (q := .iso) rfl,
    TagStore.averageLuminance_toOption hlack]
  cases s.fNumber.toOption with
  | none => simp
  | some f =>
    cases s.exposureTime.toOption with
    | none => simp
    | some t =>
      cases s.iso.toOption with
      | none => simp
      | some speed =>
        by_cases ht : t ≤ 0
        · simp [ht]
        · by_cases hspeed : speed ≤ 0 <;> simp [ht, hspeed]

end

/-- In a summary the composite quantities follow from the other columns. They have a gap exactly where
a column that they need has one, or holds a number from which they cannot be computed. -/
theorem summary_columns (h : s.summary = .ok rows) :
    (∀ q v, column rows q = some v → v.kind = q.kind) ∧
      -- the exposure value
      ((column rows .exposureValue = none ↔
          column rows .timeValue = none ∨ column rows .apertureValue = none) ∧
        ∀ tv av, column rows .timeValue = some (.double tv) →
          column rows .apertureValue = some (.double av) →
          column rows .exposureValue = some (.double (tv + av))) ∧
      -- the film speed value
      ((column rows .filmSpeedValue = none ↔ column rows .iso = none ∨
          ∃ speed, column rows .iso = some (.double speed) ∧ speed * (1 / 3.125) ≤ 0) ∧
        ∀ speed, column rows .iso = some (.double speed) → ¬ speed * (1 / 3.125) ≤ 0 →
          column rows .filmSpeedValue = some (.double (Double.log2 (speed * (1 / 3.125))))) ∧
      -- the luminance value, recorded or computed
      (∀ x, s.double? .brightnessValue = .ok (some x) →
        column rows .luminanceValue = some (.double x)) ∧
      ((¬ ∃ x, s.double? .brightnessValue = .ok (some x)) →
        (column rows .luminanceValue = none ↔ column rows .apertureValue = none ∨
          column rows .timeValue = none ∨ column rows .filmSpeedValue = none) ∧
        ∀ av tv sv, column rows .apertureValue = some (.double av) →
          column rows .timeValue = some (.double tv) →
          column rows .filmSpeedValue = some (.double sv) →
          column rows .luminanceValue = some (.double (av + tv - sv))) ∧
      -- the average luminance
      (column rows .averageLuminance = none ↔ column rows .fNumber = none ∨
          column rows .exposureTime = none ∨ column rows .iso = none ∨
          (∃ t, column rows .exposureTime = some (.double t) ∧ t ≤ 0) ∨
          ∃ speed, column rows .iso = some (.double speed) ∧ speed ≤ 0) ∧
        ∀ f t speed, column rows .fNumber = some (.double f) →
          column rows .exposureTime = some (.double t) → column rows .iso = some (.double speed) →
          ¬ t ≤ 0 → ¬ speed ≤ 0 →
          column rows .averageLuminance = some (.double (f * f * 12.5 / (t * speed))) :=
  ⟨fun _ _ => kind_of_column h, exposureValue_column h, filmSpeedValue_column h,
    fun _ => luminanceValue_column_recorded h, luminanceValue_column_computed h,
    averageLuminance_column h⟩

def apexStore : TagStore :=
  ⟨⟨[(.shutterSpeedValue, .double 1), (.apertureValue, .double 2)], by decide⟩, 0, none⟩

theorem summary_columns_apexStore :
    ∃ rows, apexStore.summary = .ok rows ∧ column rows .timeValue = some (.double 1) ∧
      column rows .exposureValue = some (.double 3) ∧ column rows .filmSpeedValue = none := by
  have hconvertible : apexStore.Convertible := by
    intro tag n hn
    have hmem : (tag, TagValue.int n) ∈ apexStore.tags.entries := OrderedMap.get?_eq_some_iff.1 hn
    simp [apexStore] at hmem
  have hunderflow : ¬ apexStore.ExposureUnderflows := by
    rintro ⟨f, t, speed, hparts, -⟩
    obtain ⟨-, -, hiso⟩ := TagStore.luminanceParts_eq_ok.1 hparts
    cases hiso
  obtain ⟨rows, h, -⟩ := TagStore.summary_total hconvertible hunderflow
  have htime : column rows .timeValue = some (.double 1) := column_of_summary h .timeValue
  have haperture : column rows .apertureValue = some (.double 2) := column_of_summary h .apertureValue
  have hiso : column rows .iso = none := column_of_summary h .iso
  obtain ⟨-, ⟨-, hexposure⟩, ⟨hspeed, -⟩, -⟩ := summary_columns h
  have hsum : (1 + 2 : Float) = 3 := by decide +kernel
  refine ⟨rows, h, htime, ?_, hspeed.2 (Or.inl hiso)⟩
  rw [hexposure 1 2 htime haperture, hsum]

end Exif
