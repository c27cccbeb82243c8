import Exif.Proofs.Double.Positive
import Exif.Proofs.Double.Rounding
import Exif.Proofs.Quantity.Fallback
import Exif.Proofs.Quantity.Tags

/-! What the derivation of a quantity comes to: a value of its kind, or one of a few failures. Every
step either reads a tag of the quantity or checks a number that was derived from them, so its
failures are known from the tags; `ReadingFault` is what all steps have in common, and `Fault` is what
remains when a composite quantity has reported absent tags in its own way. -/

namespace Exif

/-- A tag that the quantity reads as a double holds an integer that no double can represent. -/
def TagStore.Overflows (s : TagStore) (q : Quantity) : Prop :=
  ∃ tag ∈ q.doubleTags, ∃ n, s.tags.get? tag = some (.int n) ∧ Double.ofInt? n = none

/-- The quantity needs the length of the resolution unit, and the code that is recorded for the unit has
too many digits to be reported. -/
def TagStore.HasLongUnit (s : TagStore) (q : Quantity) : Prop :=
  q = .focalLength35mmEquivalent ∧
    ∃ n, s.tags.get? .focalPlaneResolutionUnit = some (.int n) ∧ Decimal.isWritable n = false

/-- A failure of a step in the derivation of a quantity. A tag is reported absent only if it does not
read as a value of the quantity's kind. -/
inductive ReadingFault (s : TagStore) (q : Quantity) : Failure → Prop
  | absent {tag : Tag} (h : tag ∈ q.tags) (hlack : s.lookup tag q.kind = .ok none) :
    ReadingFault s q (.unavailable (.absent tag))
  | illegal {tag : Tag} (h : tag ∈ q.tags) (why : Illegality) :
    ReadingFault s q (.unavailable (.illegal tag why))
  | tooLarge (h : s.Overflows q) : ReadingFault s q .integerTooLarge
  | tooLong (h : s.HasLongUnit q) : ReadingFault s q .unwritableInteger

/-- A failure of a quantity. Only composite quantities report insufficient data, and they report no
absent tag. A division by zero is left to the average luminance, where the exposure time and the ISO
speed are positive and their product rounds to zero. -/
inductive Fault (s : TagStore) (q : Quantity) : Failure → Prop
  | absent {tag : Tag} (hq : q.composite? = none) (h : tag ∈ q.tags)
    (hlack : s.lookup tag q.kind = .ok none) : Fault s q (.unavailable (.absent tag))
  | insufficient {c : Composite} {tag : Tag} (hq : q.composite? = some c) (h : tag ∈ q.tags)
    (hlack : s.lookup tag q.kind = .ok none) : Fault s q (.unavailable (.insufficient c tag))
  | illegal {tag : Tag} (h : tag ∈ q.tags) (why : Illegality) :
    Fault s q (.unavailable (.illegal tag why))
  | tooLarge (h : s.Overflows q) : Fault s q .integerTooLarge
  | tooLong (h : s.HasLongUnit q) : Fault s q .unwritableInteger
  | divisionByZero {f t speed : Float} (hq : q = .averageLuminance) (hf : s.fNumber = .ok f)
    (ht : s.exposureTime = .ok t) (hspeed : s.iso = .ok speed) (htime : 0 < t) (hiso : 0 < speed)
    (hzero : (t * speed == 0) = true) : Fault s q .divisionByZero

def Outcome (s : TagStore) (q : Quantity) : Except Failure TagValue → Prop
  | .ok v => v.kind = q.kind
  | .error e => Fault s q e

theorem ReadingFault.fault {s : TagStore} {q : Quantity} {e : Failure} (h : ReadingFault s q e)
    (hq : q.composite? = none) : Fault s q e := by
  cases h with
  | absent h hlack => exact .absent hq h hlack
  | illegal h why => exact .illegal h why
  | tooLarge h => exact .tooLarge h
  | tooLong h => exact .tooLong h

theorem ReadingFault.of_overflow {s : TagStore} {q : Quantity} {e : Failure}
    (h : e = .integerTooLarge ∧ s.Overflows q) : ReadingFault s q e := by
  obtain ⟨rfl, hover⟩ := h
  exact .tooLarge hover

theorem Fault.of_overflow {s : TagStore} {q : Quantity} {e : Failure}
    (h : e = .integerTooLarge ∧ s.Overflows q) : Fault s q e := by
  obtain ⟨rfl, hover⟩ := h
  exact .tooLarge hover

namespace TagStore

variable {s : TagStore} {q : Quantity}

/-! ## Steps -/

/-- Reading a double fails only over an integer that is too large. -/
theorem double?_fails {tag : Tag} (h : tag ∈ q.doubleTags) :
    FailsOnly (fun e => e = .integerTooLarge ∧ s.Overflows q) (s.double? tag) := by
  intro e he
  unfold double? at he
  split at he
  · exact nomatch he
  · next n hn =>
    split at he
    · exact nomatch he
    · next hbig => exact ⟨(Except.error.inj he).symm, tag, h, n, hn, hbig⟩
  · exact nomatch he

theorem double?_faults {tag : Tag} (h : tag ∈ q.doubleTags) :
    FailsOnly (ReadingFault s q) (s.double? tag) :=
  (double?_fails h).mono fun _ => .of_overflow

theorem require_faults {α : Type} {tag : Tag} (h : tag ∈ q.tags) {v : Option α}
    (hlack : v = none → s.lookup tag q.kind = .ok none) :
    FailsOnly (ReadingFault s q) (require tag v) := by
  cases v with
  | none => exact .error (.absent h (hlack rfl))
  | some x => exact .ok x

theorem double_faults {tag : Tag} (h : tag ∈ q.doubleTags) :
    FailsOnly (ReadingFault s q) (s.double tag) := by
  refine (double?_faults h).bind fun v hv => ?_
  refine require_faults (Quantity.mem_tags_of_doubleTags h) fun hnone => ?_
  rw [Quantity.kind_of_doubleTags h, lookup, hv, hnone]
  rfl

theorem text_faults {tag : Tag} (h : tag ∈ q.tags) (hq : q.kind = .text) :
    FailsOnly (ReadingFault s q) (s.text tag) := by
  refine require_faults h fun hnone => ?_
  rw [hq, lookup, hnone]
  rfl

theorem int_faults {tag : Tag} (h : tag ∈ q.tags) (hq : q.kind = .int) :
    FailsOnly (ReadingFault s q) (s.int tag) := by
  refine require_faults h fun hnone => ?_
  rw [hq, lookup, hnone]
  rfl

theorem powerOfTwo_faults {tag : Tag} (h : tag ∈ q.tags) (x : Float) :
    FailsOnly (ReadingFault s q) (powerOfTwo tag x) := by
  unfold powerOfTwo
  split
  · exact .ok _
  · exact .error (.illegal h _)

theorem logarithm_faults {tag : Tag} (h : tag ∈ q.tags) (x : Float) :
    FailsOnly (ReadingFault s q) (logarithm tag x) := by
  unfold logarithm
  split
  · exact .error (.illegal h _)
  · exact .ok _

theorem firstAvailable_faults {own other : Tag} {convert : Float → Except Failure Float}
    (hown : own ∈ q.doubleTags) (hother : other ∈ q.doubleTags)
    (h : ∀ x, FailsOnly (ReadingFault s q) (convert x)) :
    FailsOnly (ReadingFault s q) (s.firstAvailable own other convert) := by
  rw [firstAvailable_eq]
  exact (double?_faults hown).foundOr ((double_faults hother).bind fun x _ => h x)

/-! ## Exposure -/

section

variable (h : Quantity.apertureTags ⊆ q.doubleTags)
include h

theorem fNumber_faults : FailsOnly (ReadingFault s q) s.fNumber := by
  have hav : Tag.apertureValue ∈ q.doubleTags := h (by decide)
  exact firstAvailable_faults (h (by decide)) hav fun x =>
    powerOfTwo_faults (Quantity.mem_tags_of_doubleTags hav) _

theorem apertureValue_faults : FailsOnly (ReadingFault s q) s.apertureValue := by
  have hf : Tag.fNumber ∈ q.doubleTags := h (by decide)
  exact firstAvailable_faults (h (by decide)) hf fun x =>
    (logarithm_faults (Quantity.mem_tags_of_doubleTags hf) x).bind fun _ _ => .ok _

end

section

variable (h : Quantity.timeTags ⊆ q.doubleTags)
include h

theorem exposureTime_faults : FailsOnly (ReadingFault s q) s.exposureTime := by
  have htv : Tag.shutterSpeedValue ∈ q.doubleTags := h (by decide)
  exact firstAvailable_faults (h (by decide)) htv fun x =>
    powerOfTwo_faults (Quantity.mem_tags_of_doubleTags htv) _

theorem timeValue_faults : FailsOnly (ReadingFault s q) s.timeValue := by
  have ht : Tag.exposureTime ∈ q.doubleTags := h (by decide)
  exact firstAvailable_faults (h (by decide)) ht fun x =>
    (logarithm_faults (Quantity.mem_tags_of_doubleTags ht) x).bind fun _ _ => .ok _

end

theorem isoTag_mem {tag : Tag} (h : s.isoTag = .ok tag) : tag ∈ Quantity.speedTags := by
  obtain ⟨v, -, htag⟩ := bind_eq_ok.1 h
  rw [← Except.ok.inj htag]
  cases v with
  | none => exact List.mem_cons_of_mem _ (List.mem_cons_self ..)
  | some x => exact List.mem_cons_self ..

section

variable (h : Quantity.speedTags ⊆ q.doubleTags)
include h

theorem iso_faults : FailsOnly (ReadingFault s q) s.iso :=
  firstAvailable_faults (h (by decide)) (h (by decide)) fun x => .ok x

theorem isoTag_fails : FailsOnly (fun e => e = .integerTooLarge ∧ s.Overflows q) s.isoTag :=
  (double?_fails (h (by decide))).bind fun _ _ => .ok _

theorem filmSpeedValue_faults : FailsOnly (ReadingFault s q) s.filmSpeedValue := by
  refine (iso_faults h).bind fun speed _ => ?_
  refine FailsOnly.bind ((isoTag_fails h).mono fun _ => .of_overflow) fun tag htag => ?_
  exact logarithm_faults (Quantity.mem_tags_of_doubleTags (h (isoTag_mem htag))) _

end

theorem exposureValue_faults (haperture : Quantity.apertureTags ⊆ q.doubleTags)
    (htime : Quantity.timeTags ⊆ q.doubleTags) : FailsOnly (ReadingFault s q) s.exposureValue := by
  refine (timeValue_faults htime).bind fun tv _ => ?_
  exact (apertureValue_faults haperture).bind fun av _ => .ok _

/-! ## Luminance -/

/-- A part of a composite quantity: absence has become lack of data. -/
theorem asPartOf_faults {α : Type} {c : Composite} {r : Except Failure α}
    (hq : q.composite? = some c) (hr : FailsOnly (ReadingFault s q) r) :
    FailsOnly (Fault s q) (asPartOf c r) := by
  cases r with
  | ok x => exact .ok x
  | error e =>
    cases hr e rfl with
    | absent h hlack => exact .error (.insufficient hq h hlack)
    | illegal h why => exact .error (.illegal h why)
    | tooLarge h => exact .error (.tooLarge h)
    | tooLong h => exact .error (.tooLong h)

theorem luminanceValue_faults : FailsOnly (Fault s .luminanceValue) s.luminanceValue := by
  have hrecorded : FailsOnly (Fault s .luminanceValue) (s.double? .brightnessValue) :=
    (double?_fails (by decide)).mono fun _ => .of_overflow
  have hparts : FailsOnly (ReadingFault s .luminanceValue) s.brightnessParts := by
    refine (apertureValue_faults (by decide)).bind fun av _ => ?_
    refine (timeValue_faults (by decide)).bind fun tv _ => ?_
    exact (filmSpeedValue_faults (by decide)).bind fun sv _ => .ok _
  rw [luminanceValue_eq]
  exact hrecorded.foundOr ((asPartOf_faults rfl hparts).map _)

theorem luminanceParts_eq_ok {f t speed : Float} :
    s.luminanceParts = .ok (f, t, speed) ↔
      s.fNumber = .ok f ∧ s.exposureTime = .ok t ∧ s.iso = .ok speed := by
  constructor
  · intro h
    obtain ⟨f', hf, h⟩ := bind_eq_ok.1 h
    obtain ⟨t', ht, h⟩ := bind_eq_ok.1 h
    obtain ⟨speed', hspeed, h⟩ := bind_eq_ok.1 h
    cases h
    exact ⟨hf, ht, hspeed⟩
  · rintro ⟨hf, ht, hspeed⟩
    rw [luminanceParts, hf, ht, hspeed]
    rfl

theorem averageLuminance_of_parts {f t speed : Float} (h : s.luminanceParts = .ok (f, t, speed)) :
    s.averageLuminance = if t ≤ 0 then .error (illegal .exposureTime (.notPositive t))
      else if speed ≤ 0 then s.isoTag >>= fun tag => .error (illegal tag (.notPositive speed))
      else divide (f * f * reflectedLightConstant) (t * speed) := by
  unfold averageLuminance
  rw [h]
  rfl

theorem averageLuminance_faults : FailsOnly (Fault s .averageLuminance) s.averageLuminance := by
  cases hparts : s.luminanceParts with
  | error e =>
    have hfaults : FailsOnly (ReadingFault s .averageLuminance) s.luminanceParts := by
      refine (fNumber_faults (by decide)).bind fun f _ => ?_
      refine (exposureTime_faults (by decide)).bind fun t _ => ?_
      exact (iso_faults (by decide)).bind fun speed _ => .ok _
    exact (asPartOf_faults rfl hfaults).bind fun p hp => by
      rw [hparts] at hp
      cases hfaults e hparts <;> exact nomatch hp
  | ok p =>
    obtain ⟨f, t, speed⟩ := p
    obtain ⟨hf, htime, hiso⟩ := luminanceParts_eq_ok.1 hparts
    rw [averageLuminance_of_parts hparts]
    split
    · exact .error (.illegal (by decide) _)
    · next ht =>
      split
      · have hsub : Quantity.speedTags ⊆ Quantity.averageLuminance.doubleTags := by decide
        refine FailsOnly.bind ((isoTag_fails hsub).mono fun _ => .of_overflow) fun tag htag => ?_
        exact .error (.illegal (Quantity.mem_tags_of_doubleTags (hsub (isoTag_mem htag))) _)
      · next hspeed =>
        unfold divide
        split
        · next hzero =>
          -- no number is ruled out by the zero product, so both guards say positive
          obtain ⟨hpos, hpos'⟩ := Double.not_le_zero_iff_of_product hzero
          exact .error (.divisionByZero rfl hf htime hiso (hpos.1 ht) (hpos'.1 hspeed) hzero)
        · exact .ok _

/-! ## The focal length on film -/

theorem resolution_faults {tag : Tag} (h : tag ∈ q.doubleTags) :
    FailsOnly (ReadingFault s q) (s.resolution tag) := by
  refine (double_faults h).bind fun x _ => ?_
  split
  · exact .error (.illegal (Quantity.mem_tags_of_doubleTags h) _)
  · exact .ok x

/-- Only a recorded integer can have too many digits: a double is no such integer, and without a record
the unit is the inch. -/
theorem hasLongUnit_of_code (h : Decimal.isWritable s.resolutionUnitCode = false) :
    s.HasLongUnit .focalLength35mmEquivalent := by
  have hinch : Decimal.isWritable ResolutionUnit.inch.code = true := by decide
  refine ⟨rfl, s.resolutionUnitCode, ?_, h⟩
  unfold resolutionUnitCode int? at h ⊢
  rcases hget : s.tags.get? .focalPlaneResolutionUnit with _ | n | x | t
  · rw [hget] at h
    exact nomatch hinch.symm.trans h
  · rfl
  · rw [hget] at h
    change Decimal.isWritable ((Double.toInt? x).getD _) = false at h
    rcases hx : Double.toInt? x with _ | n
    · rw [hx] at h
      exact nomatch hinch.symm.trans h
    · rw [hx] at h
      exact nomatch (Double.isWritable_of_toInt? hx).symm.trans h
  · rw [hget] at h
    exact nomatch hinch.symm.trans h

theorem resolutionUnitLength_faults :
    FailsOnly (ReadingFault s .focalLength35mmEquivalent) s.resolutionUnitLength := by
  unfold resolutionUnitLength unitFailure
  split
  · exact .ok _
  · split
    · exact .error (.illegal (by decide) _)
    · next hlong => exact .error (.tooLong (hasLongUnit_of_code (Bool.eq_false_iff.2 hlong)))

theorem computedEquivalent_faults :
    FailsOnly (ReadingFault s .focalLength35mmEquivalent) s.computedEquivalent := by
  refine (double_faults (by decide)).bind fun focalLength _ => ?_
  refine (double_faults (by decide)).bind fun xDimension _ => ?_
  refine (double_faults (by decide)).bind fun yDimension _ => ?_
  refine (resolution_faults (by decide)).bind fun xResolution _ => ?_
  refine (resolution_faults (by decide)).bind fun yResolution _ => ?_
  refine resolutionUnitLength_faults.bind fun unit _ => ?_
  dsimp only
  split
  · exact .error (.illegal (by decide) _)
  · exact .ok _

theorem focalLength35mmEquivalent_faults :
    FailsOnly (ReadingFault s .focalLength35mmEquivalent) s.focalLength35mmEquivalent := by
  have hrecorded : FailsOnly (ReadingFault s .focalLength35mmEquivalent) s.recordedEquivalent? :=
    (double?_faults (by decide)).bind fun _ _ => .ok _
  rw [focalLength35mmEquivalent_eq]
  exact hrecorded.foundOr computedEquivalent_faults

/-! ## All quantities -/

/-- The outcome of a quantity whose values all come from one reading. -/
theorem outcome_map {α : Type} {r : Except Failure α} {f : α → TagValue}
    (hr : FailsOnly (Fault s q) r) (hf : ∀ x, (f x).kind = q.kind) : Outcome s q (f <$> r) := by
  cases r with
  | ok x => exact hf x
  | error e => exact hr e rfl

theorem outcome_of_reading {α : Type} {r : Except Failure α} {f : α → TagValue}
    (hr : FailsOnly (ReadingFault s q) r) (hq : q.composite? = none)
    (hf : ∀ x, (f x).kind = q.kind) : Outcome s q (f <$> r) :=
  outcome_map (hr.mono fun _ h => h.fault hq) hf

theorem value_outcome (s : TagStore) (q : Quantity) : Outcome s q (s.value q) := by
  cases q with
  | make | model => exact outcome_of_reading (text_faults (by decide) rfl) rfl fun _ => rfl
  | fNumber => exact outcome_of_reading (fNumber_faults (by decide)) rfl fun _ => rfl
  | exposureTime => exact outcome_of_reading (exposureTime_faults (by decide)) rfl fun _ => rfl
  | iso => exact outcome_of_reading (iso_faults (by decide)) rfl fun _ => rfl
  | apertureValue => exact outcome_of_reading (apertureValue_faults (by decide)) rfl fun _ => rfl
  | timeValue => exact outcome_of_reading (timeValue_faults (by decide)) rfl fun _ => rfl
  | exposureValue =>
    exact outcome_of_reading (exposureValue_faults (by decide) (by decide)) rfl fun _ => rfl
  | filmSpeedValue => exact outcome_of_reading (filmSpeedValue_faults (by decide)) rfl fun _ => rfl
  | luminanceValue => exact outcome_map luminanceValue_faults fun _ => rfl
  | averageLuminance => exact outcome_map averageLuminance_faults fun _ => rfl
  | focalLength35mmEquivalent =>
    exact outcome_of_reading focalLength35mmEquivalent_faults rfl fun _ => rfl
  | thumbnailLocation =>
    have hlocation : FailsOnly (ReadingFault s .thumbnailLocation) s.thumbnailLocation :=
      (int_faults (by decide) rfl).bind fun _ _ => .ok _
    exact outcome_of_reading hlocation rfl fun _ => rfl

end TagStore

end Exif
