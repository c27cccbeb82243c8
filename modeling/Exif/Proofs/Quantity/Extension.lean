import Exif.Proofs.Quantity.Absence

/-! More tags never mean less information. What a quantity is derived from stays readable when tags are
added, and an added tag changes only where a value is looked for first; so no tag is reported absent
that was not missed before. A value may give way to that of a tag that is preferred, or to an illegal
one. -/

namespace Exif

/-- A result that, if it is a failure, reports no tag absent. -/
abbrev NothingMissing {α : Type} (r : Except Failure α) : Prop := FailsOnly (fun e => e.missing? = none) r

/-- Where the first derivation gives a value, the second reports no tag absent. -/
def Sustains {α : Type} (r r' : Except Failure α) : Prop := ∀ x, r = .ok x → NothingMissing r'

namespace Sustains

variable {α β : Type} {r r' : Except Failure α}

theorem of_nothingMissing (h : NothingMissing r') : Sustains r r' := fun _ _ => h

theorem bind {f f' : α → Except Failure β} (h : Sustains r r') (hf : ∀ x x', Sustains (f x) (f' x')) :
    Sustains (r >>= f) (r' >>= f') := by
  intro y hy
  obtain ⟨x, hx, hfx⟩ := bind_eq_ok.1 hy
  exact (h x hx).bind fun x' _ => hf x x' y hfx

theorem map (h : Sustains r r') (f : α → β) : Sustains (f <$> r) (f <$> r') := by
  intro y hy
  obtain ⟨x, hx⟩ : ∃ x, r = .ok x := by
    rcases r with e | x
    · exact nomatch hy
    · exact ⟨x, rfl⟩
  exact (h x hx).map f

/-- A search may find what was not there before, but loses nothing that it found. -/
theorem foundOr {found found' : Except Failure (Option Float)} {computed computed' : Except Failure Float}
    (hkept : ∀ x, found = .ok (some x) → found' = .ok (some x)) (hsearch : NothingMissing found')
    (h : Sustains computed computed') : Sustains (foundOr found computed) (foundOr found' computed') := by
  intro x hx
  rcases found with e | _ | y
  · exact nomatch hx
  · exact hsearch.foundOr (h x hx)
  · rw [hkept y rfl]
    exact .ok y

theorem asPartOf {c : Composite} (h : Sustains r r') : Sustains (asPartOf c r) (asPartOf c r') := by
  intro x hx
  have hnothing := h x (TagStore.ok_of_asPartOf hx)
  rcases r' with e | x'
  · have he := hnothing e rfl
    cases e with
    | unavailable why =>
      cases why with
      | absent tag => exact nomatch he
      | illegal tag why => exact .error rfl
      | insufficient c tag => exact nomatch he
    | integerTooLarge | divisionByZero | unwritableInteger | unsupportedKind kind =>
      exact .error rfl
  · exact .ok x'

end Sustains

namespace TagStore

def ExtendedBy (s s' : TagStore) : Prop :=
  ∀ tag v, s.tags.get? tag = some v → s'.tags.get? tag = some v

/-! ## Steps that read no tag, or none that must be there -/

theorem powerOfTwo_reports (tag : Tag) (x : Float) : NothingMissing (powerOfTwo tag x) := by
  unfold powerOfTwo
  split
  · exact .ok _
  · exact .error rfl

theorem logarithm_reports (tag : Tag) (x : Float) : NothingMissing (logarithm tag x) := by
  unfold logarithm
  split
  · exact .error rfl
  · exact .ok _

theorem isoTag_reports (s : TagStore) : NothingMissing s.isoTag :=
  (double?_reports s .isoSpeedRatings).bind fun _ _ => .ok _

theorem recordedEquivalent?_reports (s : TagStore) : NothingMissing s.recordedEquivalent? :=
  (double?_reports s .focalLengthIn35mmFilm).bind fun _ _ => .ok _

theorem resolutionUnitLength_reports (s : TagStore) : NothingMissing s.resolutionUnitLength := by
  unfold resolutionUnitLength unitFailure
  split
  · exact .ok _
  · split <;> exact .error rfl

theorem divide_reports (x y : Float) : NothingMissing (divide x y) := by
  unfold divide
  split
  · exact .error rfl
  · exact .ok _

/-- The checks of the numbers from which an average luminance is computed. -/
theorem luminanceChecks_report (s : TagStore) (f t speed : Float) :
    NothingMissing (if t ≤ 0 then .error (illegal .exposureTime (.notPositive t))
      else if speed ≤ 0 then s.isoTag >>= fun tag => .error (illegal tag (.notPositive speed))
      else divide (f * f * reflectedLightConstant) (t * speed)) := by
  split
  · exact .error rfl
  · split
    · exact (isoTag_reports s).bind fun tag _ => .error rfl
    · exact divide_reports _ _

/-! ## Readings -/

section

variable {s s' : TagStore} (h : s.ExtendedBy s')
include h

/-- What can be read is held, and so it is read again. -/
theorem double?_of_extension {tag : Tag} {x : Float} (hx : s.double? tag = .ok (some x)) :
    s'.double? tag = .ok (some x) := by
  rcases hget : s.tags.get? tag with _ | v
  · simp [double?, hget] at hx
  · rw [← double?_congr (hget.trans (h tag v hget).symm), hx]

theorem double_sustains (tag : Tag) : Sustains (s.double tag) (s'.double tag) := by
  intro x hx
  rw [double_eq_ok.2 (double?_of_extension h (double_eq_ok.1 hx))]
  exact .ok x

theorem int_sustains (tag : Tag) : Sustains (s.int tag) (s'.int tag) := by
  intro n hn
  rcases hget : s.tags.get? tag with _ | v
  · simp [int, int?, hget, require] at hn
  · rw [int, ← int?_congr (hget.trans (h tag v hget).symm)]
    rw [int] at hn
    rw [hn]
    exact .ok n

theorem text_sustains (tag : Tag) : Sustains (s.text tag) (s'.text tag) := by
  intro t ht
  rcases hget : s.tags.get? tag with _ | v
  · simp [text, text?, hget, require] at ht
  · rw [← text_congr (hget.trans (h tag v hget).symm), ht]
    exact .ok t

theorem firstAvailable_sustains (own other : Tag) {convert : Float → Except Failure Float}
    (hconvert : ∀ x, NothingMissing (convert x)) :
    Sustains (s.firstAvailable own other convert) (s'.firstAvailable own other convert) := by
  rw [firstAvailable_eq, firstAvailable_eq]
  refine Sustains.foundOr (fun x => double?_of_extension h) (double?_reports s' own) ?_
  exact (double_sustains h other).bind fun x x' => .of_nothingMissing (hconvert x')

/-! ## Exposure -/

theorem fNumber_sustains : Sustains s.fNumber s'.fNumber :=
  firstAvailable_sustains h _ _ fun _ => powerOfTwo_reports _ _

theorem exposureTime_sustains : Sustains s.exposureTime s'.exposureTime :=
  firstAvailable_sustains h _ _ fun _ => powerOfTwo_reports _ _

theorem iso_sustains : Sustains s.iso s'.iso := firstAvailable_sustains h _ _ fun x => .ok x

theorem apertureValue_sustains : Sustains s.apertureValue s'.apertureValue :=
  firstAvailable_sustains h _ _ fun x => (logarithm_reports _ x).bind fun _ _ => .ok _

theorem timeValue_sustains : Sustains s.timeValue s'.timeValue :=
  firstAvailable_sustains h _ _ fun x => (logarithm_reports _ x).bind fun _ _ => .ok _

theorem exposureValue_sustains : Sustains s.exposureValue s'.exposureValue := by
  refine (timeValue_sustains h).bind fun tv tv' => ?_
  exact (apertureValue_sustains h).bind fun av av' => .of_nothingMissing (.ok _)

theorem filmSpeedValue_sustains : Sustains s.filmSpeedValue s'.filmSpeedValue := by
  refine (iso_sustains h).bind fun speed speed' => .of_nothingMissing ?_
  exact (isoTag_reports s').bind fun tag _ => logarithm_reports tag _

/-! ## Luminance -/

theorem luminanceValue_sustains : Sustains s.luminanceValue s'.luminanceValue := by
  have hparts : Sustains s.brightnessParts s'.brightnessParts := by
    refine (apertureValue_sustains h).bind fun av av' => ?_
    refine (timeValue_sustains h).bind fun tv tv' => ?_
    exact (filmSpeedValue_sustains h).bind fun sv sv' => .of_nothingMissing (.ok _)
  rw [luminanceValue_eq, luminanceValue_eq]
  exact Sustains.foundOr (fun x => double?_of_extension h) (double?_reports s' _) (hparts.asPartOf.map _)

theorem averageLuminance_sustains : Sustains s.averageLuminance s'.averageLuminance := by
  have hparts : Sustains s.luminanceParts s'.luminanceParts := by
    refine (fNumber_sustains h).bind fun f f' => ?_
    refine (exposureTime_sustains h).bind fun t t' => ?_
    exact (iso_sustains h).bind fun speed speed' => .of_nothingMissing (.ok _)
  refine hparts.asPartOf.bind fun parts parts' => .of_nothingMissing ?_
  -- all that is left are checks of numbers
  exact luminanceChecks_report s' parts'.1 parts'.2.1 parts'.2.2

/-! ## The focal length on film -/

theorem recordedEquivalent?_of_extension {x : Float} (hx : s.recordedEquivalent? = .ok (some x)) :
    s'.recordedEquivalent? = .ok (some x) := by
  obtain ⟨v, hv, hfilter⟩ := bind_eq_ok.1 hx
  rcases v with _ | y
  · exact nomatch hfilter
  · rw [recordedEquivalent?, double?_of_extension h hv]
    exact hfilter

theorem resolution_sustains (tag : Tag) : Sustains (s.resolution tag) (s'.resolution tag) := by
  refine (double_sustains h tag).bind fun x x' => .of_nothingMissing ?_
  split
  · exact .error rfl
  · exact .ok x'

theorem computedEquivalent_sustains : Sustains s.computedEquivalent s'.computedEquivalent := by
  refine (double_sustains h .focalLength).bind fun focalLength focalLength' => ?_
  refine (double_sustains h .pixelXDimension).bind fun xDimension xDimension' => ?_
  refine (double_sustains h .pixelYDimension).bind fun yDimension yDimension' => ?_
  refine (resolution_sustains h .focalPlaneXResolution).bind fun xResolution xResolution' => ?_
  refine (resolution_sustains h .focalPlaneYResolution).bind fun yResolution yResolution' => ?_
  refine .of_nothingMissing ((resolutionUnitLength_reports s').bind fun unit _ => ?_)
  dsimp only
  split
  · exact .error rfl
  · exact .ok _

theorem focalLength35mmEquivalent_sustains :
    Sustains s.focalLength35mmEquivalent s'.focalLength35mmEquivalent := by
  rw [focalLength35mmEquivalent_eq, focalLength35mmEquivalent_eq]
  exact Sustains.foundOr (fun x => recordedEquivalent?_of_extension h) (recordedEquivalent?_reports s')
    (computedEquivalent_sustains h)

/-! ## All quantities -/

theorem value_sustains (q : Quantity) : Sustains (s.value q) (s'.value q) := by
  cases q with
  | make | model => exact (text_sustains h _).map _
  | fNumber => exact (fNumber_sustains h).map _
  | exposureTime => exact (exposureTime_sustains h).map _
  | iso => exact (iso_sustains h).map _
  | apertureValue => exact (apertureValue_sustains h).map _
  | timeValue => exact (timeValue_sustains h).map _
  | exposureValue => exact (exposureValue_sustains h).map _
  | filmSpeedValue => exact (filmSpeedValue_sustains h).map _
  | luminanceValue => exact (luminanceValue_sustains h).map _
  | averageLuminance => exact (averageLuminance_sustains h).map _
  | focalLength35mmEquivalent => exact (focalLength35mmEquivalent_sustains h).map _
  | thumbnailLocation =>
    have hlocation : Sustains s.thumbnailLocation s'.thumbnailLocation :=
      (int_sustains h .thumbnailOffset).bind fun n n' => .of_nothingMissing (.ok _)
    exact hlocation.map _

/-- Only a tag that is looked at and was not there can change what a quantity comes to. -/
theorem value_of_extension (q : Quantity)
    (hoffset : q = .thumbnailLocation → s.exifOffset = s'.exifOffset) :
    s'.value q = s.value q ∨
      ∃ tag ∈ s.visibleTags q, s.tags.get? tag = none ∧ ∃ v, s'.tags.get? tag = some v := by
  by_cases hagree : Agree (s.visibleTags q) s s'
  · exact Or.inl (value_congr hagree hoffset).symm
  · right
    simp only [Agree, not_forall] at hagree
    obtain ⟨tag, htag, hne⟩ := hagree
    refine ⟨tag, htag, ?_⟩
    rcases hget : s.tags.get? tag with _ | v
    · rw [hget] at hne
      exact ⟨rfl, Option.ne_none_iff_exists'.1 (Ne.symm hne)⟩
    · exact absurd (hget.trans (h tag v hget).symm) hne

end

/-- Information is not lost when tags are added: a quantity that was given is not reported to lack a tag.
It is still given, or a number that is now read is illegal, too large, too long or too small. What it comes to
changes only if a tag that was looked for has been added. -/
theorem extension_loses_nothing {s s' : TagStore} (h : s.ExtendedBy s') {q : Quantity} {v : TagValue}
    (hv : s.value q = .ok v) :
    -- nothing is reported absent
    (∀ tag, s'.value q ≠ .error (absent tag)) ∧
      (∀ c tag, s'.value q ≠ .error (.unavailable (.insufficient c tag))) ∧
      -- what else there may be
      ((∃ w, s'.value q = .ok w ∧ w.kind = q.kind) ∨
        (∃ tag ∈ q.tags, ∃ why, s'.value q = .error (illegal tag why)) ∨
        (s'.value q = .error .integerTooLarge ∧ s'.Overflows q) ∨
        (s'.value q = .error .unwritableInteger ∧ s'.HasLongUnit q) ∨
        s'.value q = .error .divisionByZero ∧ q = .averageLuminance ∧ s'.ExposureUnderflows) ∧
      ((q = .thumbnailLocation → s.exifOffset = s'.exifOffset) →
        s'.value q = .ok v ∨
          ∃ tag ∈ s.visibleTags q, s.tags.get? tag = none ∧ ∃ w, s'.tags.get? tag = some w) := by
  have hnothing : NothingMissing (s'.value q) := value_sustains h q v hv
  have houtcome := value_outcome s' q
  refine ⟨?_, ?_, ?_, ?_⟩
  · intro tag htag
    exact nomatch hnothing _ htag
  · intro c tag htag
    exact nomatch hnothing _ htag
  · rcases hvalue : s'.value q with e | w
    · rw [hvalue] at houtcome
      have hnone := hnothing e hvalue
      cases houtcome with
      | absent | insufficient => exact nomatch hnone
      | @illegal tag htag why => exact Or.inr (Or.inl ⟨tag, htag, why, rfl⟩)
      | tooLarge hover => exact Or.inr (Or.inr (Or.inl ⟨rfl, hover⟩))
      | tooLong hlong => exact Or.inr (Or.inr (Or.inr (Or.inl ⟨rfl, hlong⟩)))
      | @divisionByZero f t speed hq hf ht hspeed htime hiso hzero =>
        have hparts := luminanceParts_eq_ok.2 ⟨hf, ht, hspeed⟩
        exact Or.inr (Or.inr (Or.inr (Or.inr
          ⟨rfl, hq, f, t, speed, hparts, htime, hiso, hzero⟩)))
    · rw [hvalue] at houtcome
      exact Or.inl ⟨w, rfl, houtcome⟩
  · intro hoffset
    rw [← hv]
    exact value_of_extension h q hoffset

/-- A store from which the average luminance can be computed, the speed being recorded as an index. -/
def indexed : TagStore :=
  ⟨⟨[(.fNumber, .double 2), (.exposureTime, .double 0.5), (.exposureIndex, .double 100)], by decide⟩, 0,
    none⟩

/-- The same store with a speed of zero recorded under the tag that is preferred. -/
def indexedAndZero : TagStore := indexed.put .isoSpeedRatings (.int 0)

theorem extension_loses_nothing_indexedAndZero :
    indexed.ExtendedBy indexedAndZero ∧ indexed.value .averageLuminance = .ok (.double 1) ∧
      indexedAndZero.value .averageLuminance = .error (illegal .isoSpeedRatings (.notPositive 0)) ∧
      (∀ c tag, indexedAndZero.value .averageLuminance ≠ .error (.unavailable (.insufficient c tag))) ∧
      ∃ tag ∈ indexed.visibleTags .averageLuminance, indexed.tags.get? tag = none ∧
        ∃ w, indexedAndZero.tags.get? tag = some w := by
  have hextended : indexed.ExtendedBy indexedAndZero := by
    intro tag v hv
    rw [indexedAndZero, get?_put, if_neg, hv]
    rintro rfl
    exact nomatch hv
  have hvalue : indexed.value .averageLuminance = .ok (.double 1) := rfl
  have hzero : indexedAndZero.value .averageLuminance =
      .error (illegal .isoSpeedRatings (.notPositive 0)) := rfl
  obtain ⟨-, hinsufficient, -, hchange⟩ := extension_loses_nothing hextended hvalue
  refine ⟨hextended, hvalue, hzero, hinsufficient, ?_⟩
  rcases hchange (fun h => nomatch h) with hsame | hadded
  · exact nomatch hsame.symm.trans hzero
  · exact hadded

end TagStore

end Exif
