import Exif.Proofs.Quantity.Grounds

/-! Which tag is blamed for an illegal value. In all stores but those in which the exposure time vanishes
it is a tag that is there and can be read. A speed of zero or less is blamed on the tag from which it was
read; an exposure time of zero or less is always blamed on its own tag, also where the time was computed
from its logarithm. -/

namespace Exif.TagStore

variable {s : TagStore}

/-- The exposure time is blamed although it cannot be read. -/
theorem value_of_timeVanishes (h : s.TimeVanishes) :
    ¬ s.Legible .exposureTime ∧
      ∃ t, s.value .averageLuminance = .error (illegal .exposureTime (.notPositive t)) := by
  constructor
  · rintro ⟨v, hv⟩
    have hnone := lookup_double_eq_none.2 h.1
    exact nomatch hnone.symm.trans hv
  · obtain ⟨t, ht⟩ := averageLuminance_of_timeVanishes h
    refine ⟨t, ?_⟩
    rw [value, ht]
    rfl

theorem legible_of_illegal {q : Quantity} {tag : Tag} {why : Illegality}
    (h : s.value q = .error (illegal tag why)) :
    s.Legible tag ∨ q = .averageLuminance ∧ tag = .exposureTime ∧ s.TimeVanishes := by
  by_cases hvanishes : q = .averageLuminance ∧ s.TimeVanishes
  · obtain ⟨rfl, hvanishes⟩ := hvanishes
    obtain ⟨-, t, ht⟩ := value_of_timeVanishes hvanishes
    cases h.symm.trans ht
    exact Or.inr ⟨rfl, rfl, hvanishes⟩
  · left
    have hgrounds := value_grounds (s := s) (q := q) fun hq hv => hvanishes ⟨hq, hv⟩
    cases hgrounds _ h with
    | illegal why hlegible => exact hlegible

theorem filmSpeedValue_of_notPositive {speed : Float} (h : s.iso = .ok speed)
    (hle : speed * filmSpeedConstant ≤ 0) :
    s.value .filmSpeedValue = .error (illegal (s.readFrom .isoSpeedRatings .exposureIndex)
      (.notPositive (speed * filmSpeedConstant))) := by
  obtain ⟨htag, -⟩ := isoTag_of_iso_eq_ok h
  have hfilm : s.filmSpeedValue =
      s.isoTag >>= fun tag => logarithm tag (speed * filmSpeedConstant) := by
    rw [filmSpeedValue, h]
    rfl
  rw [value, hfilm, htag]
  simp [bind, Except.bind, logarithm, hle]

theorem averageLuminance_of_notPositive_speed {f t speed : Float}
    (h : s.luminanceParts = .ok (f, t, speed)) (ht : ¬ t ≤ 0) (hle : speed ≤ 0) :
    s.value .averageLuminance =
      .error (illegal (s.readFrom .isoSpeedRatings .exposureIndex) (.notPositive speed)) := by
  obtain ⟨-, -, hiso⟩ := luminanceParts_eq_ok.1 h
  obtain ⟨htag, -⟩ := isoTag_of_iso_eq_ok hiso
  rw [value, averageLuminance_of_parts h, if_neg ht, if_pos hle, htag]
  rfl

/-- An exposure time of zero or less was read from its own tag, or else it vanished. -/
theorem readFrom_exposureTime {f t speed : Float} (h : s.luminanceParts = .ok (f, t, speed))
    (ht : t ≤ 0) :
    s.readFrom .exposureTime .shutterSpeedValue = .exposureTime ↔ ¬ s.TimeVanishes := by
  obtain ⟨hf, htime, hiso⟩ := luminanceParts_eq_ok.1 h
  unfold readFrom
  rcases exposureTime_eq_ok htime with hown | ⟨hown, tv, htv, hpower⟩
  · rw [hown]
    refine iff_of_true rfl ?_
    rintro ⟨hnone, -⟩
    exact nomatch hown.symm.trans hnone
  · rw [hown]
    refine iff_of_false (by decide) ?_
    exact not_not.2 ⟨hown, f, tv, t, speed, hf, htv, hpower, ht, hiso⟩

/-- Blame. Every tag that is blamed is there and can be read exactly if the exposure time does not vanish;
where it does, this is the one tag that is blamed without being there, and the average luminance the one
quantity that blames it. A speed of zero or less is blamed on the tag from which it was read. An
exposure time of zero or less is blamed on its own tag, from which it was read if it did not vanish. -/
theorem blames_legible_iff (s : TagStore) :
    ((∀ q tag why, s.value q = .error (illegal tag why) → s.contains tag = true ∧ s.Legible tag) ↔
        ¬ s.TimeVanishes) ∧
      (∀ q tag why, s.value q = .error (illegal tag why) →
        s.Legible tag ∨ q = .averageLuminance ∧ tag = .exposureTime ∧ s.TimeVanishes) ∧
      -- a speed of zero or less
      (∀ speed, s.iso = .ok speed →
        s.double? (s.readFrom .isoSpeedRatings .exposureIndex) = .ok (some speed) ∧
          (speed * filmSpeedConstant ≤ 0 → s.value .filmSpeedValue =
            .error (illegal (s.readFrom .isoSpeedRatings .exposureIndex)
              (.notPositive (speed * filmSpeedConstant))))) ∧
      (∀ f t speed, s.luminanceParts = .ok (f, t, speed) → ¬ t ≤ 0 → speed ≤ 0 →
        s.value .averageLuminance =
          .error (illegal (s.readFrom .isoSpeedRatings .exposureIndex) (.notPositive speed))) ∧
      -- an exposure time of zero or less
      ∀ f t speed, s.luminanceParts = .ok (f, t, speed) → t ≤ 0 →
        s.value .averageLuminance = .error (illegal .exposureTime (.notPositive t)) ∧
          (s.readFrom .exposureTime .shutterSpeedValue = .exposureTime ↔ ¬ s.TimeVanishes) := by
  refine ⟨⟨?_, ?_⟩, fun _ _ _ => legible_of_illegal, ?_, ?_, ?_⟩
  · intro hall hvanishes
    obtain ⟨hnot, t, ht⟩ := value_of_timeVanishes hvanishes
    exact hnot (hall _ _ _ ht).2
  · intro hnot q tag why h
    rcases legible_of_illegal h with ⟨v, hv⟩ | ⟨-, -, hvanishes⟩
    · exact ⟨contains_of_lookup hv, v, hv⟩
    · exact absurd hvanishes hnot
  · intro speed hspeed
    exact ⟨(isoTag_of_iso_eq_ok hspeed).2, filmSpeedValue_of_notPositive hspeed⟩
  · intro f t speed h ht hle
    exact averageLuminance_of_notPositive_speed h ht hle
  · intro f t speed h ht
    refine ⟨?_, readFrom_exposureTime h ht⟩
    rw [value, averageLuminance_of_parts h, if_pos ht]
    rfl

def zeroIndex : TagStore :=
  ⟨⟨[(.fNumber, .double 2), (.exposureTime, .double 0.5), (.exposureIndex, .double 0)], by decide⟩, 0,
    none⟩

theorem blames_legible_iff_zeroIndex :
    zeroIndex.luminanceParts = .ok (2, 0.5, 0) ∧
      zeroIndex.value .averageLuminance = .error (illegal .exposureIndex (.notPositive 0)) ∧
      zeroIndex.contains .exposureIndex = true ∧ zeroIndex.Legible .exposureIndex := by
  obtain ⟨hiff, -, -, hspeed, -⟩ := blames_legible_iff zeroIndex
  have hparts : zeroIndex.luminanceParts = .ok (2, 0.5, 0) := rfl
  have hvalue := hspeed 2 0.5 0 hparts (by decide) (by decide)
  have hnot : ¬ zeroIndex.TimeVanishes := fun h => nomatch h.1
  exact ⟨hparts, hvalue, hiff.2 hnot _ _ _ hvalue⟩

/-- A store that has only the logarithm of an exposure time, which is `2 ^ -2000` seconds. -/
def shortestExposure : TagStore :=
  ⟨⟨[(.fNumber, .double 2), (.shutterSpeedValue, .double 2000), (.isoSpeedRatings, .double 100)],
    by decide⟩, 0, none⟩

/-- The exposure time that is blamed is not in the store; it was the logarithm that was read. -/
theorem blames_absent_shortestExposure :
    shortestExposure.Convertible ∧
      shortestExposure.value .averageLuminance = .error (illegal .exposureTime (.notPositive 0)) ∧
      shortestExposure.contains .exposureTime = false ∧ ¬ shortestExposure.Legible .exposureTime ∧
      shortestExposure.readFrom .exposureTime .shutterSpeedValue = .shutterSpeedValue := by
  have hconvertible : shortestExposure.Convertible := by
    intro tag n hn
    have hmem : (tag, TagValue.int n) ∈ shortestExposure.tags.entries :=
      OrderedMap.get?_eq_some_iff.1 hn
    simp [shortestExposure] at hmem
  have habsent : shortestExposure.contains .exposureTime = false := rfl
  refine ⟨hconvertible, rfl, habsent, ?_, rfl⟩
  rintro ⟨v, hv⟩
  simp [contains_of_lookup hv] at habsent

end Exif.TagStore
