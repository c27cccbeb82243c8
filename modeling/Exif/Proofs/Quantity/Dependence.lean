import Exif.Proofs.Quantity.Fallback
import Exif.Proofs.Quantity.Tags

/-! A quantity depends on its own tags only. Of two tags that give the same quantity, the one of its
own unit hides the other whenever it can be read or fails to be read for another reason than absence.
Two stores that hold the same under the tags that are not hidden give the same outcome. -/

namespace Exif

/-- The tag that records a quantity as it is. The focal length on film is not among them: zero or less is
no record of it. -/
def Quantity.ownTag? : Quantity → Option Tag
  | fNumber => some .fNumber
  | exposureTime => some .exposureTime
  | iso => some .isoSpeedRatings
  | apertureValue => some .apertureValue
  | timeValue => some .shutterSpeedValue
  | luminanceValue => some .brightnessValue
  | make | model | exposureValue | filmSpeedValue | averageLuminance | focalLength35mmEquivalent |
    thumbnailLocation => none

namespace TagStore

def Agree (tags : List Tag) (s s' : TagStore) : Prop :=
  ∀ tag ∈ tags, s.tags.get? tag = s'.tags.get? tag

theorem Agree.mono {tags tags' : List Tag} {s s' : TagStore} (h : Agree tags' s s')
    (hsub : tags ⊆ tags') : Agree tags s s' := fun tag ht => h tag (hsub ht)

theorem Agree.of_append {tags tags' : List Tag} {s s' : TagStore} (h : Agree (tags ++ tags') s s') :
    Agree tags s s' ∧ Agree tags' s s' :=
  ⟨h.mono (List.subset_append_left _ _), h.mono (List.subset_append_right _ _)⟩

/-! ## Hidden tags -/

/-- The tags that are looked at when a first one is searched: the others only if nothing is found. -/
def searched (own : Tag) (found : Except Failure (Option Float)) (others : List Tag) : List Tag :=
  match found with
  | .ok none => own :: others
  | _ => [own]

def visible (s : TagStore) (own other : Tag) : List Tag := searched own (s.double? own) [other]

/-- The tags that decide about a quantity. A recorded value hides all tags from which it could be
computed. -/
def visibleTags (s : TagStore) : Quantity → List Tag
  | .fNumber => s.visible .fNumber .apertureValue
  | .exposureTime => s.visible .exposureTime .shutterSpeedValue
  | .iso | .filmSpeedValue => s.visible .isoSpeedRatings .exposureIndex
  | .apertureValue => s.visible .apertureValue .fNumber
  | .timeValue => s.visible .shutterSpeedValue .exposureTime
  | .exposureValue =>
    s.visible .apertureValue .fNumber ++ s.visible .shutterSpeedValue .exposureTime
  | .averageLuminance =>
    s.visible .fNumber .apertureValue ++ s.visible .exposureTime .shutterSpeedValue ++
      s.visible .isoSpeedRatings .exposureIndex
  | .luminanceValue =>
    searched .brightnessValue (s.double? .brightnessValue)
      (s.visible .apertureValue .fNumber ++ s.visible .shutterSpeedValue .exposureTime ++
        s.visible .isoSpeedRatings .exposureIndex)
  | .focalLength35mmEquivalent =>
    searched .focalLengthIn35mmFilm s.recordedEquivalent?
      (.focalLength :: .focalPlaneResolutionUnit :: Quantity.sensorTags)
  | .make => [.make]
  | .model => [.model]
  | .thumbnailLocation => [.thumbnailOffset]

theorem own_mem_searched (own : Tag) (found : Except Failure (Option Float)) (others : List Tag) :
    own ∈ searched own found others := by
  unfold searched
  split <;> exact List.mem_cons_self ..

theorem searched_subset {own : Tag} {found : Except Failure (Option Float)} {others tags : List Tag}
    (hown : own ∈ tags) (hothers : others ⊆ tags) : searched own found others ⊆ tags := by
  unfold searched
  split
  · exact List.cons_subset.2 ⟨hown, hothers⟩
  · exact List.cons_subset.2 ⟨hown, List.nil_subset _⟩

/-- What decides about a quantity is among its tags. -/
theorem visibleTags_subset (s : TagStore) (q : Quantity) : s.visibleTags q ⊆ q.tags := by
  cases q with
  | make | model | thumbnailLocation => exact List.Subset.refl _
  | fNumber | exposureTime | iso | apertureValue | timeValue | filmSpeedValue =>
    exact searched_subset (by decide) (by decide)
  | exposureValue =>
    refine List.append_subset.2 ⟨?_, ?_⟩ <;> exact searched_subset (by decide) (by decide)
  | averageLuminance =>
    refine List.append_subset.2 ⟨List.append_subset.2 ⟨?_, ?_⟩, ?_⟩ <;>
      exact searched_subset (by decide) (by decide)
  | luminanceValue =>
    refine searched_subset (by decide) ?_
    refine List.append_subset.2 ⟨List.append_subset.2 ⟨?_, ?_⟩, ?_⟩ <;>
      exact searched_subset (by decide) (by decide)
  | focalLength35mmEquivalent => exact searched_subset (by decide) (by decide)

/-! ## Readings -/

section

variable {s s' : TagStore} {tag : Tag} (h : s.tags.get? tag = s'.tags.get? tag)
include h

theorem double?_congr : s.double? tag = s'.double? tag := by
  unfold double?
  rw [h]

theorem double_congr : s.double tag = s'.double tag := by
  unfold double
  rw [double?_congr h]

theorem int?_congr : s.int? tag = s'.int? tag := by
  unfold int?
  rw [h]

theorem text_congr : s.text tag = s'.text tag := by
  unfold text text?
  rw [h]

end

variable {s s' : TagStore}

/-- Only if nothing is found have the stores to agree on what is computed. -/
theorem foundOr_congr {own : Tag} {others : List Tag} {found found' : Except Failure (Option Float)}
    {computed computed' : Except Failure Float} (h : Agree (searched own found others) s s')
    (hfound : s.tags.get? own = s'.tags.get? own → found = found')
    (hcomputed : Agree others s s' → computed = computed') :
    foundOr found computed = foundOr found' computed' := by
  obtain rfl := hfound (h own (own_mem_searched own found others))
  match found, h with
  | .error e, _ => rfl
  | .ok (some x), _ => rfl
  | .ok none, h => exact hcomputed (h.mono (List.subset_cons_self _ _))

/-! ## Exposure -/

theorem firstAvailable_congr {own other : Tag} (h : Agree (s.visible own other) s s')
    (convert : Float → Except Failure Float) :
    s.firstAvailable own other convert = s'.firstAvailable own other convert := by
  rw [firstAvailable_eq, firstAvailable_eq]
  refine foundOr_congr h double?_congr fun hother => ?_
  rw [double_congr (hother other (List.mem_singleton_self _))]

theorem isoTag_congr (h : Agree (s.visible .isoSpeedRatings .exposureIndex) s s') :
    s.isoTag = s'.isoTag := by
  unfold isoTag
  rw [double?_congr (h _ (own_mem_searched _ _ _))]

theorem filmSpeedValue_congr (h : Agree (s.visible .isoSpeedRatings .exposureIndex) s s') :
    s.filmSpeedValue = s'.filmSpeedValue := by
  unfold filmSpeedValue
  rw [isoTag_congr h, iso, iso, firstAvailable_congr h]

theorem exposureValue_congr (h : Agree (s.visibleTags .exposureValue) s s') :
    s.exposureValue = s'.exposureValue := by
  obtain ⟨haperture, htime⟩ := h.of_append
  unfold exposureValue apertureValue timeValue
  rw [firstAvailable_congr haperture, firstAvailable_congr htime]

/-! ## Luminance -/

theorem averageLuminance_congr (h : Agree (s.visibleTags .averageLuminance) s s') :
    s.averageLuminance = s'.averageLuminance := by
  obtain ⟨h, hspeed⟩ := h.of_append
  obtain ⟨haperture, htime⟩ := h.of_append
  unfold averageLuminance luminanceParts fNumber exposureTime iso
  rw [firstAvailable_congr haperture, firstAvailable_congr htime, firstAvailable_congr hspeed,
    isoTag_congr hspeed]

theorem luminanceValue_congr (h : Agree (s.visibleTags .luminanceValue) s s') :
    s.luminanceValue = s'.luminanceValue := by
  rw [luminanceValue_eq, luminanceValue_eq]
  refine foundOr_congr h double?_congr fun hparts => ?_
  obtain ⟨hparts, hspeed⟩ := hparts.of_append
  obtain ⟨haperture, htime⟩ := hparts.of_append
  unfold brightnessParts apertureValue timeValue
  rw [firstAvailable_congr haperture, firstAvailable_congr htime, filmSpeedValue_congr hspeed]

/-! ## The focal length on film -/

theorem computedEquivalent_congr
    (h : Agree (.focalLength :: .focalPlaneResolutionUnit :: Quantity.sensorTags) s s') :
    s.computedEquivalent = s'.computedEquivalent := by
  have hlength := double_congr (h .focalLength (by decide))
  have hwidth := double_congr (h .pixelXDimension (by decide))
  have hheight := double_congr (h .pixelYDimension (by decide))
  have hx := double_congr (h .focalPlaneXResolution (by decide))
  have hy := double_congr (h .focalPlaneYResolution (by decide))
  have hunit := int?_congr (h .focalPlaneResolutionUnit (by decide))
  unfold computedEquivalent resolution resolutionUnitLength resolutionUnitCode
  rw [hlength, hwidth, hheight, hx, hy, hunit]

theorem focalLength35mmEquivalent_congr
    (h : Agree (s.visibleTags .focalLength35mmEquivalent) s s') :
    s.focalLength35mmEquivalent = s'.focalLength35mmEquivalent := by
  rw [focalLength35mmEquivalent_eq, focalLength35mmEquivalent_eq]
  refine foundOr_congr h (fun hrecorded => ?_) computedEquivalent_congr
  unfold recordedEquivalent?
  rw [double?_congr hrecorded]

/-! ## All quantities -/

/-- Stores that agree on the tags that decide about a quantity give it alike. The location of a
thumbnail counts from the TIFF header, whose position they have to share too. -/
theorem value_congr {q : Quantity} (h : Agree (s.visibleTags q) s s')
    (hoffset : q = .thumbnailLocation → s.exifOffset = s'.exifOffset) : s.value q = s'.value q := by
  cases q with
  | make | model => exact congrArg (TagValue.text <$> ·) (text_congr (h _ (List.mem_singleton_self _)))
  | fNumber | exposureTime | iso | apertureValue | timeValue =>
    exact congrArg (TagValue.double <$> ·) (firstAvailable_congr h _)
  | exposureValue => exact congrArg (TagValue.double <$> ·) (exposureValue_congr h)
  | filmSpeedValue => exact congrArg (TagValue.double <$> ·) (filmSpeedValue_congr h)
  | luminanceValue => exact congrArg (TagValue.double <$> ·) (luminanceValue_congr h)
  | averageLuminance => exact congrArg (TagValue.double <$> ·) (averageLuminance_congr h)
  | focalLength35mmEquivalent =>
    exact congrArg (TagValue.double <$> ·) (focalLength35mmEquivalent_congr h)
  | thumbnailLocation =>
    unfold value thumbnailLocation int
    rw [int?_congr (h _ (List.mem_singleton_self _)), hoffset rfl]

/-! ## Recorded values -/

/-- A quantity with a tag of its own is what that tag holds, or else what is computed. -/
theorem value_of_ownTag {q : Quantity} {own : Tag} (h : q.ownTag? = some own) (s : TagStore) :
    ∃ computed, s.value q = .double <$> foundOr (s.double? own) computed := by
  cases q with
  | fNumber | exposureTime | iso | apertureValue | timeValue =>
    obtain rfl := Option.some.inj h
    exact ⟨_, congrArg (TagValue.double <$> ·) (firstAvailable_eq s _ _ _)⟩
  | luminanceValue =>
    obtain rfl := Option.some.inj h
    exact ⟨_, congrArg (TagValue.double <$> ·) (luminanceValue_eq s)⟩
  | make | model | exposureValue | filmSpeedValue | averageLuminance | focalLength35mmEquivalent |
    thumbnailLocation => exact nomatch h

theorem visibleTags_of_found {q : Quantity} {own : Tag} (h : q.ownTag? = some own) {s : TagStore}
    {x : Float} (hx : s.double? own = .ok (some x)) : s.visibleTags q = [own] := by
  cases q with
  | fNumber | exposureTime | iso | apertureValue | timeValue | luminanceValue =>
    obtain rfl := Option.some.inj h
    simp only [visibleTags, visible, searched, hx]
  | make | model | exposureValue | filmSpeedValue | averageLuminance | focalLength35mmEquivalent |
    thumbnailLocation => exact nomatch h

theorem recordedEquivalent?_of_pos {s : TagStore} {x : Float}
    (hx : s.double? .focalLengthIn35mmFilm = .ok (some x)) (hpos : 0 < x) :
    s.recordedEquivalent? = .ok (some x) := by
  rw [recordedEquivalent?, hx]
  exact congrArg Except.ok (Option.filter_some_pos (decide_eq_true hpos))

/-- The speed that is checked is the one that is read, and so is the tag that is named. -/
theorem filmSpeedValue_of_isoSpeedRatings {s : TagStore} {x : Float}
    (hx : s.double? .isoSpeedRatings = .ok (some x)) :
    s.filmSpeedValue = logarithm .isoSpeedRatings (x * filmSpeedConstant) := by
  have hiso : s.iso = .ok x := by
    rw [iso, firstAvailable_eq, hx]
    rfl
  rw [filmSpeedValue, hiso, isoTag, hx]
  rfl

/-- Stores that agree on the tags of a quantity give it alike, and it is enough that they agree on
those which no recorded value hides. A recorded value is given as it is, whatever it is, and hides all
tags from which the quantity could be computed; one that cannot be read is not made good by them. -/
theorem value_depends_on_visibleTags (s : TagStore) (q : Quantity) :
    -- two stores
    (∀ s', Agree q.tags s s' → (q = .thumbnailLocation → s.exifOffset = s'.exifOffset) →
        s.value q = s'.value q) ∧
      (∀ s', Agree (s.visibleTags q) s s' →
        (q = .thumbnailLocation → s.exifOffset = s'.exifOffset) → s.value q = s'.value q) ∧
      -- a quantity with a tag of its own
      (∀ own, q.ownTag? = some own →
        (∀ x, s.double? own = .ok (some x) →
          s.visibleTags q = [own] ∧ s.value q = .ok (.double x)) ∧
        ∀ e, s.double? own = .error e → s.value q = .error e) ∧
      -- a recorded focal length on film counts only if it is positive
      (∀ x, s.double? .focalLengthIn35mmFilm = .ok (some x) → 0 < x →
        s.visibleTags .focalLength35mmEquivalent = [.focalLengthIn35mmFilm] ∧
          s.value .focalLength35mmEquivalent = .ok (.double x)) ∧
      -- the film speed value is that of the recorded speed, or fails over its tag
      ∀ x, s.double? .isoSpeedRatings = .ok (some x) →
        s.visibleTags .filmSpeedValue = [.isoSpeedRatings] ∧ s.value .filmSpeedValue =
          .double <$> logarithm .isoSpeedRatings (x * filmSpeedConstant) := by
  refine ⟨fun s' h => value_congr (h.mono (visibleTags_subset s q)), fun s' h => value_congr h,
    fun own hown => ?_, fun x hx hpos => ?_, fun x hx => ?_⟩
  · obtain ⟨computed, hvalue⟩ := value_of_ownTag hown s
    refine ⟨fun x hx => ⟨visibleTags_of_found hown hx, ?_⟩, fun e he => ?_⟩
    · rw [hvalue, hx]
      rfl
    · rw [hvalue, he]
      rfl
  · have hrecorded := recordedEquivalent?_of_pos hx hpos
    refine ⟨by simp only [visibleTags, searched, hrecorded], ?_⟩
    rw [value, focalLength35mmEquivalent_eq, hrecorded]
    rfl
  · refine ⟨by simp only [visibleTags, visible, searched, hx], ?_⟩
    exact congrArg (TagValue.double <$> ·) (filmSpeedValue_of_isoSpeedRatings hx)

def zeroSpeed : TagStore := ⟨⟨[(.isoSpeedRatings, .double 0)], by decide⟩, 0, none⟩

/-- A store that has a text where the other tag for the speed would hold a number. -/
def zeroSpeedAndText : TagStore :=
  ⟨⟨[(.exposureIndex, .text "high"), (.isoSpeedRatings, .double 0)], by decide⟩, 12, none⟩

theorem value_depends_on_visibleTags_zeroSpeed :
    zeroSpeed.value .iso = .ok (.double 0) ∧
      Agree (zeroSpeed.visibleTags .filmSpeedValue) zeroSpeed zeroSpeedAndText ∧
      zeroSpeed.value .filmSpeedValue = zeroSpeedAndText.value .filmSpeedValue := by
  obtain ⟨-, -, hown, -⟩ := value_depends_on_visibleTags zeroSpeed .iso
  obtain ⟨-, hcongr, -, -, hspeed⟩ := value_depends_on_visibleTags zeroSpeed .filmSpeedValue
  have hagree : Agree (zeroSpeed.visibleTags .filmSpeedValue) zeroSpeed zeroSpeedAndText := by
    intro tag htag
    rw [(hspeed 0 rfl).1, List.mem_singleton] at htag
    rw [htag]
    rfl
  exact ⟨((hown _ rfl).1 0 rfl).2, hagree, hcongr _ hagree (fun h => nomatch h)⟩

end TagStore

end Exif
