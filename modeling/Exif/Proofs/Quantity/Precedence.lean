import Exif.Proofs.Quantity.Extension

/-! Which failure of a composite quantity is reported. The quantities that it is computed from are derived
one after the other, and the first of them that fails decides: an absent tag becomes a lack of data, and
an illegal value stays what it is, even if tags for later ones are absent too. -/

namespace Exif

def Failure.within (c : Composite) : Failure → Failure
  | .unavailable (.absent tag) => .unavailable (.insufficient c tag)
  | e => e

theorem asPartOf_eq {α : Type} (c : Composite) (r : Except Failure α) :
    asPartOf c r = r.mapError (Failure.within c) := by
  rcases r with e | x
  · cases e with
    | unavailable why => cases why <;> rfl
    | integerTooLarge | divisionByZero | unwritableInteger | unsupportedKind kind => rfl
  · rfl

/-- A failure that becomes lack of data was an absent tag, unless it was lack of data before. -/
theorem Failure.within_eq_insufficient {c c' : Composite} {tag : Tag} {e : Failure}
    (h : e.within c = .unavailable (.insufficient c' tag)) :
    e = TagStore.absent tag ∧ c' = c ∨ e = .unavailable (.insufficient c' tag) := by
  match e, h with
  | .unavailable (.absent _), h =>
    cases h
    exact Or.inl ⟨rfl, rfl⟩
  | .unavailable (.insufficient _ _), h => exact Or.inr h

namespace TagStore

def firstFailure? (s : TagStore) : List Quantity → Option Failure
  | [] => none
  | q :: qs =>
    match s.value q with
    | .error e => some e
    | .ok _ => s.firstFailure? qs

/-- A composite quantity fails as the first of its parts that fails, and reports lack of data only over an
absent tag of that part. -/
structure FailsAsParts (s : TagStore) (q : Quantity) (c : Composite) (parts : List Quantity) : Prop where
  first : ∀ e, s.firstFailure? parts = some e → s.value q = .error (e.within c)
  insufficient : ∀ c' tag, s.value q = .error (.unavailable (.insufficient c' tag)) ↔
    c' = c ∧ s.firstFailure? parts = some (absent tag)

variable {s : TagStore} {q : Quantity} {qs parts : List Quantity} {c : Composite} {e : Failure}

/-! ## Chains of quantities -/

theorem value_of_firstFailure? (h : s.firstFailure? qs = some e) : ∃ q ∈ qs, s.value q = .error e := by
  induction qs with
  | nil => exact nomatch h
  | cons q qs ih =>
    rcases hvalue : s.value q with e' | v
    · rw [firstFailure?, hvalue] at h
      obtain rfl := Option.some.inj h
      exact ⟨q, List.mem_cons_self .., hvalue⟩
    · rw [firstFailure?, hvalue] at h
      obtain ⟨p, hp, hfails⟩ := ih h
      exact ⟨p, List.mem_cons_of_mem q hp, hfails⟩

theorem return_eq_error {α : Type} (x : α) : (return x : Except Failure α) = .error e ↔
    s.firstFailure? [] = some e := by
  simp [firstFailure?, pure, Except.pure]

/-- A chain that starts with a quantity fails as that quantity, or else as the rest of the chain. -/
theorem bind_eq_error_iff {α β : Type} {r : Except Failure α} {f : α → Except Failure β}
    {g : α → TagValue} (hq : s.value q = g <$> r)
    (hf : ∀ x, f x = .error e ↔ s.firstFailure? qs = some e) :
    (r >>= f) = .error e ↔ s.firstFailure? (q :: qs) = some e := by
  rw [firstFailure?, hq]
  rcases r with e' | x
  · simp [bind, Except.bind, Functor.map, Except.map]
  · exact hf x

theorem brightnessParts_eq_error : s.brightnessParts = .error e ↔
    s.firstFailure? [.apertureValue, .timeValue, .filmSpeedValue] = some e := by
  refine bind_eq_error_iff (q := .apertureValue) rfl fun av => ?_
  refine bind_eq_error_iff (q := .timeValue) rfl fun tv => ?_
  refine bind_eq_error_iff (q := .filmSpeedValue) rfl fun sv => ?_
  exact return_eq_error _

theorem luminanceParts_eq_error : s.luminanceParts = .error e ↔
    s.firstFailure? [.fNumber, .exposureTime, .iso] = some e := by
  refine bind_eq_error_iff (q := .fNumber) rfl fun f => ?_
  refine bind_eq_error_iff (q := .exposureTime) rfl fun t => ?_
  refine bind_eq_error_iff (q := .iso) rfl fun speed => ?_
  exact return_eq_error _

theorem exposureValue_eq_error : s.exposureValue = .error e ↔
    s.firstFailure? [.timeValue, .apertureValue] = some e := by
  refine bind_eq_error_iff (q := .timeValue) rfl fun tv => ?_
  refine bind_eq_error_iff (q := .apertureValue) rfl fun av => ?_
  exact return_eq_error _

/-! ## Composite quantities -/

/-- Parts are no composites, so what they lack is an absent tag. -/
theorem not_insufficient_of_firstFailure? (hparts : ∀ p ∈ parts, p.composite? = none) {c' : Composite}
    {tag : Tag} : s.firstFailure? parts ≠ some (.unavailable (.insufficient c' tag)) := by
  intro h
  obtain ⟨p, hp, hvalue⟩ := value_of_firstFailure? h
  have houtcome := value_outcome s p
  rw [hvalue] at houtcome
  cases houtcome with
  | insufficient hq => exact nomatch (hparts p hp).symm.trans hq

/-- A composite quantity whose parts are derived in a chain fails as they do, if what is left to do when
they are all given reports nothing absent. -/
theorem failsAsParts_of_chain {α : Type} {r : Except Failure α} {f : α → Except Failure Float}
    (hq : s.value q = .double <$> (asPartOf c r >>= f))
    (hr : ∀ e, r = .error e ↔ s.firstFailure? parts = some e)
    (hparts : ∀ p ∈ parts, p.composite? = none) (hf : ∀ x, r = .ok x → NothingMissing (f x)) :
    FailsAsParts s q c parts := by
  rw [asPartOf_eq] at hq
  rcases r with e' | x
  · have hfirst : s.firstFailure? parts = some e' := (hr e').1 rfl
    have hvalue : s.value q = .error (e'.within c) := hq
    refine ⟨?_, ?_⟩
    · intro e he
      obtain rfl := Option.some.inj (hfirst.symm.trans he)
      exact hvalue
    · intro c' tag
      rw [hvalue, hfirst]
      constructor
      · intro h
        rcases Failure.within_eq_insufficient (Except.error.inj h) with ⟨rfl, rfl⟩ | rfl
        · exact ⟨rfl, rfl⟩
        · exact absurd hfirst (not_insufficient_of_firstFailure? hparts)
      · rintro ⟨rfl, h⟩
        rw [Option.some.inj h]
        rfl
  · have hnone : s.firstFailure? parts = none := by
      rw [Option.eq_none_iff_forall_ne_some]
      intro e he
      exact nomatch (hr e).2 he
    have hnothing : NothingMissing (s.value q) := hq ▸ (hf x rfl).map _
    refine ⟨?_, ?_⟩
    · intro e he
      exact nomatch hnone.symm.trans he
    · intro c' tag
      refine iff_of_false (fun h => nomatch hnothing _ h) ?_
      rintro ⟨-, h⟩
      exact nomatch hnone.symm.trans h

theorem luminanceValue_failsAsParts (h : s.lookup .brightnessValue .double = .ok none) :
    FailsAsParts s .luminanceValue .brightness [.apertureValue, .timeValue, .filmSpeedValue] := by
  refine failsAsParts_of_chain (r := s.brightnessParts)
    (f := fun parts => return parts.1 + parts.2.1 - parts.2.2) ?_ (fun e => brightnessParts_eq_error)
    (by decide) fun parts _ => .ok _
  rw [value, luminanceValue, lookup_double_eq_none.1 h]
  rfl

theorem averageLuminance_failsAsParts (s : TagStore) :
    FailsAsParts s .averageLuminance .averageLuminance [.fNumber, .exposureTime, .iso] := by
  refine failsAsParts_of_chain (r := s.luminanceParts) rfl (fun e => luminanceParts_eq_error) (by decide) ?_
  intro parts _
  exact luminanceChecks_report s parts.1 parts.2.1 parts.2.2

/-- Where no part fails, a luminance value is computed. -/
theorem luminanceValue_of_no_failure (h : s.lookup .brightnessValue .double = .ok none)
    (hparts : s.firstFailure? [.apertureValue, .timeValue, .filmSpeedValue] = none) :
    ∃ v, s.value .luminanceValue = .ok v := by
  rcases hchain : s.brightnessParts with e | ⟨av, tv, sv⟩
  · exact nomatch hparts.symm.trans (brightnessParts_eq_error.1 hchain)
  · refine ⟨.double (av + tv - sv), ?_⟩
    rw [value, luminanceValue_eq, lookup_double_eq_none.1 h, hchain]
    rfl

theorem value_exposureValue_eq_error : s.value .exposureValue = .error e ↔
    s.firstFailure? [.timeValue, .apertureValue] = some e := by
  rw [← exposureValue_eq_error, value]
  rcases s.exposureValue with e' | x <;> simp [Functor.map, Except.map]

/-! ## Convertible stores -/

theorem Convertible.lookup_double (hs : s.Convertible) (tag : Tag) :
    s.lookup tag .double = .ok none ∨ ∃ x, s.lookup tag .double = .ok (some (.double x)) := by
  obtain ⟨_ | x, hv⟩ := hs.double?_total tag
  · exact Or.inl (lookup_double_eq_none.2 hv)
  · exact Or.inr ⟨x, lookup_double_eq_some hv⟩

/-- Precedence. A composite quantity whose parts are derived one after the other fails as the first of them
that fails, whatever the later ones lack: an absent tag is reported as lack of data for the composite, with
that tag, and an illegal value is reported as it is. Where no part fails no lack of data is reported. The
exposure value passes the failures of its parts on as they are. -/
theorem composites_fail_as_first_part (s : TagStore) :
    -- the luminance value, where no brightness can be read
    (s.lookup .brightnessValue .double = .ok none →
      FailsAsParts s .luminanceValue .brightness [.apertureValue, .timeValue, .filmSpeedValue] ∧
        (s.firstFailure? [.apertureValue, .timeValue, .filmSpeedValue] = none →
          ∃ v, s.value .luminanceValue = .ok v)) ∧
      -- the average luminance, which checks what its parts give
      FailsAsParts s .averageLuminance .averageLuminance [.fNumber, .exposureTime, .iso] ∧
      -- the exposure value
      (∀ e, s.value .exposureValue = .error e ↔
        s.firstFailure? [.timeValue, .apertureValue] = some e) ∧
      -- how the failure of a part is reported
      (∀ c tag, (absent tag).within c = .unavailable (.insufficient c tag)) ∧
      (∀ c tag why, (illegal tag why).within c = illegal tag why) ∧
      Composite.brightness.name = "brightness value" ∧
      Composite.averageLuminance.name = "average scene luminance" ∧
      -- there are no other failures of parts if all integers turn into doubles
      (s.Convertible →
        (∀ tag, s.lookup tag .double = .ok none ∨ ∃ x, s.lookup tag .double = .ok (some (.double x))) ∧
          ∀ q e, q.composite? = none → s.value q = .error e →
            (∃ tag, e = absent tag) ∨ ∃ tag why, e = illegal tag why) := by
  refine ⟨fun h => ⟨luminanceValue_failsAsParts h, luminanceValue_of_no_failure h⟩,
    averageLuminance_failsAsParts s, fun e => value_exposureValue_eq_error, fun _ _ => rfl,
    fun _ _ _ => rfl, rfl, rfl, fun hs => ⟨hs.lookup_double, fun q e => hs.absent_or_illegal⟩⟩

def darkLens : TagStore := ⟨⟨[(.fNumber, .double 0)], by decide⟩, 0, none⟩

/-- The f-number has no logarithm, and this is what the luminance value reports although the exposure time
and the speed are absent. The average luminance reports the exposure time, the first that it lacks. -/
theorem composites_fail_as_first_part_darkLens :
    darkLens.lookup .brightnessValue .double = .ok none ∧ darkLens.Convertible ∧
      darkLens.value .luminanceValue = .error (illegal .fNumber (.notPositive 0)) ∧
      darkLens.value .averageLuminance =
        .error (.unavailable (.insufficient .averageLuminance .shutterSpeedValue)) ∧
      darkLens.value .timeValue = .error (absent .exposureTime) ∧
      ((∃ tag, absent .exposureTime = absent tag) ∨
        ∃ tag why, absent .exposureTime = illegal tag why) := by
  have hconvertible : darkLens.Convertible := convertible_of_entries (by simp [darkLens])
  obtain ⟨hluminance, haverage, -, -, -, -, -, hfits⟩ := composites_fail_as_first_part darkLens
  have hbrightness : darkLens.lookup .brightnessValue .double = .ok none := rfl
  have htime : darkLens.value .timeValue = .error (absent .exposureTime) := rfl
  exact ⟨hbrightness, hconvertible, (hluminance hbrightness).1.first _ rfl, haverage.first _ rfl, htime,
    (hfits hconvertible).2 .timeValue _ rfl htime⟩

end TagStore

end Exif
