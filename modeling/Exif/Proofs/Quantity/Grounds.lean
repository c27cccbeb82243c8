import Exif.Proofs.Failures
import Exif.Proofs.TagStore

/-! What there is in a store that justifies a failure. A tag is reported absent only if it cannot be read,
nor the tag that would have been preferred to it. A tag is blamed for an illegal value only if the value
was read from it, with one exception: the average luminance blames the exposure time also where the
time was computed from its logarithm and vanished. -/

namespace Exif

def Tag.kind : Tag → Kind
  | .make | .model => .text
  | .thumbnailOffset | .focalPlaneResolutionUnit => .int
  | _ => .double

def Tag.preferred? : Tag → Option Tag
  | .apertureValue => some .fNumber
  | .fNumber => some .apertureValue
  | .shutterSpeedValue => some .exposureTime
  | .exposureTime => some .shutterSpeedValue
  | .exposureIndex => some .isoSpeedRatings
  | _ => none

def Quantity.named : Quantity → List Tag
  | make => [.make]
  | model => [.model]
  | fNumber => [.apertureValue]
  | exposureTime => [.shutterSpeedValue]
  | iso | filmSpeedValue => [.exposureIndex]
  | apertureValue => [.fNumber]
  | timeValue => [.exposureTime]
  | exposureValue => [.exposureTime, .fNumber]
  | luminanceValue => [.fNumber, .exposureTime, .exposureIndex]
  | averageLuminance => [.apertureValue, .shutterSpeedValue, .exposureIndex]
  | focalLength35mmEquivalent => .focalLength :: sensorTags
  | thumbnailLocation => [.thumbnailOffset]

namespace TagStore

def Legible (s : TagStore) (tag : Tag) : Prop := ∃ v, s.lookup tag tag.kind = .ok (some v)

/-- A tag cannot be read in its kind, nor can the one that is preferred to it. -/
structure Lacks (s : TagStore) (tag : Tag) : Prop where
  unread : s.lookup tag tag.kind = .ok none
  preferred : ∀ own, tag.preferred? = some own → s.lookup own .double = .ok none

/-- The one of two tags that is read: the second only if the first cannot be. -/
def readFrom (s : TagStore) (own other : Tag) : Tag :=
  match s.double? own with
  | .ok (some _) => own
  | _ => other

/-- There is an average luminance to compute, but the exposure time, of which only the logarithm can be
read, is too short for a positive double. -/
def TimeVanishes (s : TagStore) : Prop :=
  s.double? .exposureTime = .ok none ∧ ∃ f tv t speed, s.fNumber = .ok f ∧
    s.double? .shutterSpeedValue = .ok (some tv) ∧ Double.exp2? (-tv) = some t ∧ t ≤ 0 ∧
    s.iso = .ok speed

inductive Grounds (s : TagStore) (named : List Tag) : Failure → Prop
  | absent {tag : Tag} (h : tag ∈ named) (hlacks : s.Lacks tag) : Grounds s named (absent tag)
  | insufficient {tag : Tag} (c : Composite) (h : tag ∈ named) (hlacks : s.Lacks tag) :
    Grounds s named (.unavailable (.insufficient c tag))
  | illegal {tag : Tag} (why : Illegality) (h : s.Legible tag) : Grounds s named (illegal tag why)
  | tooLarge : Grounds s named .integerTooLarge
  | tooLong : Grounds s named .unwritableInteger
  | divisionByZero : Grounds s named .divisionByZero

theorem Grounds.mono {s : TagStore} {named named' : List Tag} {e : Failure} (h : Grounds s named e)
    (hsub : named ⊆ named') : Grounds s named' e := by
  cases h with
  | absent h hlacks => exact .absent (hsub h) hlacks
  | insufficient c h hlacks => exact .insufficient c (hsub h) hlacks
  | illegal why h => exact .illegal why h
  | tooLarge => exact .tooLarge
  | tooLong => exact .tooLong
  | divisionByZero => exact .divisionByZero

/-- A step that reports fewer tags, in a derivation that may report more. -/
theorem grounds_of_subset {α : Type} {s : TagStore} {named named' : List Tag} {r : Except Failure α}
    (h : FailsOnly (Grounds s named) r) (hsub : named ⊆ named') : FailsOnly (Grounds s named') r :=
  h.mono fun _ he => he.mono hsub

variable {s : TagStore} {named : List Tag}

theorem legible_of_double? {tag : Tag} {x : Float} (hkind : tag.kind = .double)
    (h : s.double? tag = .ok (some x)) : s.Legible tag :=
  ⟨.double x, hkind ▸ lookup_double_eq_some h⟩

/-! ## Steps -/

theorem double?_grounds (s : TagStore) (tag : Tag) : FailsOnly (Grounds s named) (s.double? tag) := by
  intro e he
  unfold double? at he
  split at he
  · exact nomatch he
  · split at he
    · exact nomatch he
    · obtain rfl := Except.error.inj he
      exact .tooLarge
  · exact nomatch he

theorem require_grounds {α : Type} {tag : Tag} {v : Option α} (h : tag ∈ named)
    (hlacks : v = none → s.Lacks tag) : FailsOnly (Grounds s named) (require tag v) := by
  rcases v with _ | x
  · exact .error (.absent h (hlacks rfl))
  · exact .ok x

theorem double_grounds {tag : Tag} (h : tag ∈ named) (hkind : tag.kind = .double)
    (hpreferred : ∀ own, tag.preferred? = some own → s.double? own = .ok none) :
    FailsOnly (Grounds s named) (s.double tag) := by
  apply FailsOnly.bind (double?_grounds s tag)
  intro v hv
  apply require_grounds h
  rintro rfl
  refine ⟨?_, fun own hown => lookup_double_eq_none.2 (hpreferred own hown)⟩
  rw [hkind]
  exact lookup_double_eq_none.2 hv

theorem powerOfTwo_grounds {tag : Tag} (h : s.Legible tag) (x : Float) :
    FailsOnly (Grounds s named) (powerOfTwo tag x) := by
  unfold powerOfTwo
  split
  · exact .ok _
  · exact .error (.illegal _ h)

theorem logarithm_grounds {tag : Tag} (h : s.Legible tag) (x : Float) :
    FailsOnly (Grounds s named) (logarithm tag x) := by
  unfold logarithm
  split
  · exact .error (.illegal _ h)
  · exact .ok _

/-- The second tag is reported absent only if the first cannot be read, and blamed only if it has been
read itself. -/
theorem firstAvailable_grounds {own other : Tag} {convert : Float → Except Failure Float}
    (hown : other.preferred? = some own) (hother : other ∈ named) (hkind : other.kind = .double)
    (h : ∀ x, s.Legible other → FailsOnly (Grounds s named) (convert x)) :
    FailsOnly (Grounds s named) (s.firstAvailable own other convert) := by
  have hsearch : FailsOnly (Grounds s named) (s.double? own) := double?_grounds s own
  rw [firstAvailable_eq]
  rcases hfound : s.double? own with e | _ | x
  · exact .error (hsearch e hfound)
  · refine FailsOnly.bind (double_grounds hother hkind ?_) ?_
    · intro own' hown'
      obtain rfl := Option.some.inj (hown.symm.trans hown')
      exact hfound
    · intro x hx
      exact h x (legible_of_double? hkind (double_eq_ok.1 hx))
  · exact .ok x

/-! ## Exposure -/

theorem fNumber_grounds (s : TagStore) : FailsOnly (Grounds s [.apertureValue]) s.fNumber :=
  firstAvailable_grounds rfl (by decide) rfl fun _ h => powerOfTwo_grounds h _

theorem exposureTime_grounds (s : TagStore) :
    FailsOnly (Grounds s [.shutterSpeedValue]) s.exposureTime :=
  firstAvailable_grounds rfl (by decide) rfl fun _ h => powerOfTwo_grounds h _

theorem iso_grounds (s : TagStore) : FailsOnly (Grounds s [.exposureIndex]) s.iso :=
  firstAvailable_grounds rfl (by decide) rfl fun x _ => .ok x

theorem apertureValue_grounds (s : TagStore) : FailsOnly (Grounds s [.fNumber]) s.apertureValue :=
  firstAvailable_grounds rfl (by decide) rfl fun x h => (logarithm_grounds h x).bind fun _ _ => .ok _

theorem timeValue_grounds (s : TagStore) : FailsOnly (Grounds s [.exposureTime]) s.timeValue :=
  firstAvailable_grounds rfl (by decide) rfl fun x h => (logarithm_grounds h x).bind fun _ _ => .ok _

theorem exposureValue_grounds (s : TagStore) :
    FailsOnly (Grounds s [.exposureTime, .fNumber]) s.exposureValue := by
  apply FailsOnly.bind (grounds_of_subset (timeValue_grounds s) (by decide))
  intro tv _
  apply FailsOnly.bind (grounds_of_subset (apertureValue_grounds s) (by decide))
  intro av _
  exact .ok _

/-- The tag that is looked up for a speed is the one from which the speed was read. -/
theorem isoTag_of_iso_eq_ok {speed : Float} (h : s.iso = .ok speed) :
    s.isoTag = .ok (s.readFrom .isoSpeedRatings .exposureIndex) ∧
      s.double? (s.readFrom .isoSpeedRatings .exposureIndex) = .ok (some speed) := by
  rw [iso, firstAvailable_eq] at h
  unfold isoTag readFrom
  rcases hown : s.double? .isoSpeedRatings with e | _ | x
  · rw [hown] at h
    exact nomatch h
  · rw [hown] at h
    obtain ⟨x, hx, hconvert⟩ := bind_eq_ok.1 h
    obtain rfl := Except.ok.inj hconvert
    exact ⟨rfl, double_eq_ok.1 hx⟩
  · rw [hown] at h
    obtain rfl := Except.ok.inj h
    exact ⟨rfl, hown⟩

theorem legible_of_isoTag {speed : Float} {tag : Tag} (h : s.iso = .ok speed)
    (htag : s.isoTag = .ok tag) : s.Legible tag := by
  have hkind : ∀ tag ∈ Quantity.speedTags, tag.kind = .double := by decide
  obtain ⟨hsource, hread⟩ := isoTag_of_iso_eq_ok h
  obtain rfl := Except.ok.inj (hsource.symm.trans htag)
  exact legible_of_double? (hkind _ (isoTag_mem htag)) hread

theorem isoTag_grounds (s : TagStore) : FailsOnly (Grounds s named) s.isoTag :=
  (double?_grounds s .isoSpeedRatings).bind fun _ _ => .ok _

theorem filmSpeedValue_grounds (s : TagStore) :
    FailsOnly (Grounds s [.exposureIndex]) s.filmSpeedValue := by
  apply FailsOnly.bind (iso_grounds s)
  intro speed hspeed
  apply FailsOnly.bind (isoTag_grounds s)
  intro tag htag
  exact logarithm_grounds (legible_of_isoTag hspeed htag) _

/-! ## Luminance -/

/-- What a part of a composite quantity lacks, the quantity lacks. -/
theorem asPartOf_grounds {α : Type} {c : Composite} {r : Except Failure α}
    (hr : FailsOnly (Grounds s named) r) : FailsOnly (Grounds s named) (asPartOf c r) := by
  rcases r with e | x
  · cases hr e rfl with
    | absent h hlacks => exact .error (.insufficient c h hlacks)
    | insufficient c' h hlacks => exact .error (.insufficient c' h hlacks)
    | illegal why h => exact .error (.illegal why h)
    | tooLarge => exact .error .tooLarge
    | tooLong => exact .error .tooLong
    | divisionByZero => exact .error .divisionByZero
  · exact .ok x

theorem ok_of_asPartOf {α : Type} {c : Composite} {r : Except Failure α} {x : α}
    (h : asPartOf c r = .ok x) : r = .ok x := by
  unfold asPartOf at h
  split at h
  · exact nomatch h
  · exact h

theorem luminanceValue_grounds (s : TagStore) :
    FailsOnly (Grounds s Quantity.luminanceValue.named) s.luminanceValue := by
  have hparts : FailsOnly (Grounds s Quantity.luminanceValue.named) s.brightnessParts := by
    apply FailsOnly.bind (grounds_of_subset (apertureValue_grounds s) (by decide))
    intro av _
    apply FailsOnly.bind (grounds_of_subset (timeValue_grounds s) (by decide))
    intro tv _
    apply FailsOnly.bind (grounds_of_subset (filmSpeedValue_grounds s) (by decide))
    intro sv _
    exact .ok _
  rw [luminanceValue_eq]
  exact (double?_grounds s .brightnessValue).foundOr ((asPartOf_grounds hparts).map _)

/-- The exposure time is read from its own tag, or computed from its logarithm. -/
theorem exposureTime_eq_ok {t : Float} (h : s.exposureTime = .ok t) :
    s.double? .exposureTime = .ok (some t) ∨ s.double? .exposureTime = .ok none ∧
      ∃ tv, s.double? .shutterSpeedValue = .ok (some tv) ∧ Double.exp2? (-tv) = some t := by
  rw [exposureTime, firstAvailable_eq] at h
  rcases hown : s.double? .exposureTime with e | _ | x
  · rw [hown] at h
    exact nomatch h
  · rw [hown] at h
    obtain ⟨tv, htv, hpower⟩ := bind_eq_ok.1 h
    unfold powerOfTwo at hpower
    split at hpower
    · next t' ht' =>
      obtain rfl := Except.ok.inj hpower
      exact Or.inr ⟨rfl, tv, double_eq_ok.1 htv, ht'⟩
    · exact nomatch hpower
  · rw [hown] at h
    obtain rfl := Except.ok.inj h
    exact Or.inl rfl

theorem exposureTime_of_logarithm {tv t : Float} (hown : s.double? .exposureTime = .ok none)
    (htv : s.double? .shutterSpeedValue = .ok (some tv)) (ht : Double.exp2? (-tv) = some t) :
    s.exposureTime = .ok t := by
  rw [exposureTime, firstAvailable_eq, hown, foundOr, double_eq_ok.2 htv]
  simp [bind, Except.bind, powerOfTwo, ht]

/-- An exposure time of zero or less has its own tag to blame, unless it vanished. -/
theorem legible_or_timeVanishes {f t speed : Float} (h : s.luminanceParts = .ok (f, t, speed))
    (ht : t ≤ 0) : s.Legible .exposureTime ∨ s.TimeVanishes := by
  obtain ⟨hf, htime, hiso⟩ := luminanceParts_eq_ok.1 h
  rcases exposureTime_eq_ok htime with hown | ⟨hown, tv, htv, hpower⟩
  · exact Or.inl (legible_of_double? rfl hown)
  · exact Or.inr ⟨hown, f, tv, t, speed, hf, htv, hpower, ht, hiso⟩

theorem averageLuminance_of_timeVanishes (h : s.TimeVanishes) :
    ∃ t, s.averageLuminance = .error (Exif.illegal .exposureTime (.notPositive t)) := by
  obtain ⟨hown, f, tv, t, speed, hf, htv, hpower, ht, hiso⟩ := h
  have hparts := luminanceParts_eq_ok.2 ⟨hf, exposureTime_of_logarithm hown htv hpower, hiso⟩
  exact ⟨t, by rw [averageLuminance_of_parts hparts, if_pos ht]⟩

theorem averageLuminance_grounds (h : ¬ s.TimeVanishes) :
    FailsOnly (Grounds s Quantity.averageLuminance.named) s.averageLuminance := by
  have hparts : FailsOnly (Grounds s Quantity.averageLuminance.named) s.luminanceParts := by
    apply FailsOnly.bind (grounds_of_subset (fNumber_grounds s) (by decide))
    intro f _
    apply FailsOnly.bind (grounds_of_subset (exposureTime_grounds s) (by decide))
    intro t _
    apply FailsOnly.bind (grounds_of_subset (iso_grounds s) (by decide))
    intro speed _
    exact .ok _
  apply FailsOnly.bind (asPartOf_grounds hparts)
  rintro ⟨f, t, speed⟩ hpart
  dsimp only
  split
  · next ht =>
    rcases legible_or_timeVanishes (ok_of_asPartOf hpart) ht with hlegible | hvanishes
    · exact .error (.illegal _ hlegible)
    · exact absurd hvanishes h
  · split
    · obtain ⟨-, -, hiso⟩ := luminanceParts_eq_ok.1 (ok_of_asPartOf hpart)
      apply FailsOnly.bind (isoTag_grounds s)
      intro tag htag
      exact .error (.illegal _ (legible_of_isoTag hiso htag))
    · unfold divide
      split
      · exact .error .divisionByZero
      · exact .ok _

/-! ## The focal length on film -/

theorem resolution_grounds {tag : Tag} (h : tag ∈ named) (hkind : tag.kind = .double)
    (hpreferred : tag.preferred? = none) : FailsOnly (Grounds s named) (s.resolution tag) := by
  apply FailsOnly.bind (double_grounds h hkind fun own hown => nomatch hpreferred.symm.trans hown)
  intro x hx
  split
  · exact .error (.illegal _ (legible_of_double? hkind (double_eq_ok.1 hx)))
  · exact .ok x

/-- Where no unit is recorded the unit has a length, so that none is blamed. -/
theorem resolutionUnitLength_grounds (s : TagStore) :
    FailsOnly (Grounds s named) s.resolutionUnitLength := by
  unfold resolutionUnitLength
  rcases hunit : s.int? .focalPlaneResolutionUnit with _ | n
  · have hcode : s.resolutionUnitCode = ResolutionUnit.inch.code := by
      rw [resolutionUnitCode, hunit, Option.getD_none]
    rw [hcode]
    exact .ok _
  · unfold unitFailure
    split
    · exact .ok _
    · split
      · refine .error (.illegal _ ⟨.int n, ?_⟩)
        rw [Tag.kind, lookup, hunit]
        rfl
      · exact .error .tooLong

theorem computedEquivalent_grounds (s : TagStore) :
    FailsOnly (Grounds s Quantity.focalLength35mmEquivalent.named) s.computedEquivalent := by
  have hdouble : ∀ tag ∈ Quantity.focalLength35mmEquivalent.named,
      tag.kind = .double ∧ tag.preferred? = none := by decide
  have hread {tag : Tag} (h : tag ∈ Quantity.focalLength35mmEquivalent.named) :
      FailsOnly (Grounds s Quantity.focalLength35mmEquivalent.named) (s.double tag) := by
    obtain ⟨hkind, hpreferred⟩ := hdouble tag h
    exact double_grounds h hkind fun own hown => nomatch hpreferred.symm.trans hown
  apply FailsOnly.bind (hread (by decide))
  intro focalLength _
  apply FailsOnly.bind (hread (by decide))
  intro xDimension hxDimension
  apply FailsOnly.bind (hread (by decide))
  intro yDimension _
  apply FailsOnly.bind (resolution_grounds (by decide) rfl rfl)
  intro xResolution _
  apply FailsOnly.bind (resolution_grounds (by decide) rfl rfl)
  intro yResolution _
  apply FailsOnly.bind (resolutionUnitLength_grounds s)
  intro unit _
  dsimp only
  split
  · exact .error (.illegal _ (legible_of_double? rfl (double_eq_ok.1 hxDimension)))
  · exact .ok _

theorem focalLength35mmEquivalent_grounds (s : TagStore) :
    FailsOnly (Grounds s Quantity.focalLength35mmEquivalent.named) s.focalLength35mmEquivalent := by
  rw [focalLength35mmEquivalent_eq]
  refine FailsOnly.foundOr ?_ (computedEquivalent_grounds s)
  exact (double?_grounds s .focalLengthIn35mmFilm).bind fun _ _ => .ok _

/-! ## All quantities -/

theorem text_grounds {tag : Tag} (h : tag ∈ named) (hkind : tag.kind = .text)
    (hpreferred : tag.preferred? = none) : FailsOnly (Grounds s named) (s.text tag) := by
  apply require_grounds h
  intro hnone
  refine ⟨?_, fun own hown => nomatch hpreferred.symm.trans hown⟩
  rw [hkind, lookup, hnone]
  rfl

theorem thumbnailLocation_grounds (s : TagStore) :
    FailsOnly (Grounds s [.thumbnailOffset]) s.thumbnailLocation := by
  refine FailsOnly.bind (require_grounds (by decide) ?_) fun _ _ => .ok _
  intro hnone
  refine ⟨?_, fun own hown => nomatch hown⟩
  rw [Tag.kind, lookup, hnone]
  rfl

theorem value_grounds {q : Quantity} (h : q = .averageLuminance → ¬ s.TimeVanishes) :
    FailsOnly (Grounds s q.named) (s.value q) := by
  cases q with
  | make | model => exact (text_grounds (by decide) rfl rfl).map _
  | fNumber => exact (fNumber_grounds s).map _
  | exposureTime => exact (exposureTime_grounds s).map _
  | iso => exact (iso_grounds s).map _
  | apertureValue => exact (apertureValue_grounds s).map _
  | timeValue => exact (timeValue_grounds s).map _
  | exposureValue => exact (exposureValue_grounds s).map _
  | filmSpeedValue => exact (filmSpeedValue_grounds s).map _
  | luminanceValue => exact (luminanceValue_grounds s).map _
  | averageLuminance => exact (averageLuminance_grounds (h rfl)).map _
  | focalLength35mmEquivalent => exact (focalLength35mmEquivalent_grounds s).map _
  | thumbnailLocation => exact (thumbnailLocation_grounds s).map _

end TagStore

end Exif
