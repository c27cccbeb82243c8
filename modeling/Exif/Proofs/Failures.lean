import Exif.Proofs.OrderedMap
import Exif.Proofs.Quantity.Outcome

/-! How the quantities of a store fail, and what a summary makes of it. In a store whose integers turn
into doubles every quantity is given or unavailable, with one exception: the average luminance divides
by the product of two positive numbers, and the product may round to zero. -/

namespace Exif

/-- A result that, if it is a failure, is one for lack of data. -/
def OnlyUnavailable {α : Type} (r : Except Failure α) : Prop :=
  ∀ e, r = .error e → ∃ why, e = .unavailable why

theorem Quantity.mem_all (q : Quantity) : q ∈ all := by cases q <;> decide

namespace TagStore

/-! ## Summaries -/

theorem available_eq_ok {s : TagStore} {q : Quantity} {v : Option TagValue} :
    s.available q = .ok v ↔ OnlyUnavailable (s.value q) ∧ v = (s.value q).toOption := by
  unfold available OnlyUnavailable
  cases s.value q with
  | ok w => simp [Except.toOption, eq_comm]
  | error e => cases e <;> simp [Except.toOption, eq_comm]

theorem available_eq_error {s : TagStore} {q : Quantity} {e : Failure} :
    s.available q = .error e ↔ s.value q = .error e ∧ ¬ ∃ why, e = .unavailable why := by
  unfold available
  cases s.value q with
  | ok w => simp
  | error e' =>
    cases e' with
    | unavailable why =>
      refine iff_of_false (fun h => nomatch h) ?_
      rintro ⟨h, hne⟩
      exact hne ⟨why, (Except.error.inj h).symm⟩
    | integerTooLarge | divisionByZero | unwritableInteger | unsupportedKind kind =>
      simp only [Except.error.injEq]
      refine ⟨fun h => ⟨h, ?_⟩, And.left⟩
      rintro ⟨why, rfl⟩
      exact nomatch h

/-- A summary is given if every quantity is given or unavailable. It lists them all in order, each with
its value, if it has one. -/
theorem summary_eq_ok {s : TagStore} {rows : List (Quantity × Option TagValue)} :
    s.summary = .ok rows ↔ (∀ q, OnlyUnavailable (s.value q)) ∧
      rows = Quantity.all.map fun q => (q, (s.value q).toOption) := by
  have htotal (h : ∀ q, OnlyUnavailable (s.value q)) :
      s.summary = .ok (Quantity.all.map fun q => (q, (s.value q).toOption)) :=
    mapM_pairs fun q _ => available_eq_ok.2 ⟨h q, rfl⟩
  constructor
  · intro hrows
    have hall : ∀ q, OnlyUnavailable (s.value q) := by
      intro q
      obtain ⟨v, hv⟩ := ok_of_mapM_pairs hrows q q.mem_all
      exact (available_eq_ok.1 hv).1
    exact ⟨hall, Except.ok.inj (hrows.symm.trans (htotal hall))⟩
  · rintro ⟨hall, rfl⟩
    exact htotal hall

/-- A summary fails as the first quantity does that is neither given nor unavailable. -/
theorem summary_eq_error {s : TagStore} {e : Failure} :
    s.summary = .error e ↔ ∃ before q after, Quantity.all = before ++ q :: after ∧
      s.value q = .error e ∧ (¬ ∃ why, e = .unavailable why) ∧
      ∀ p ∈ before, OnlyUnavailable (s.value p) := by
  simp only [summary, mapM_pairs_eq_error, available_eq_error, available_eq_ok, exists_and_left,
    exists_eq, and_true, and_assoc]

/-! ## Convertible stores -/

def Convertible (s : TagStore) : Prop :=
  ∀ tag n, s.tags.get? tag = some (.int n) → ∃ x, Double.ofInt? n = some x

/-- It is enough to look at the integers that are listed. -/
theorem convertible_of_entries {s : TagStore}
    (h : ∀ tag n, (tag, .int n) ∈ s.tags.entries → ∃ x, Double.ofInt? n = some x) : s.Convertible :=
  fun tag n hn => h tag n (OrderedMap.get?_eq_some_iff.1 hn)

def ExposureUnderflows (s : TagStore) : Prop :=
  ∃ f t speed, s.luminanceParts = .ok (f, t, speed) ∧ 0 < t ∧ 0 < speed ∧ (t * speed == 0) = true

theorem Convertible.not_overflows {s : TagStore} (hs : s.Convertible) (q : Quantity) :
    ¬ s.Overflows q := by
  rintro ⟨tag, -, n, hn, hbig⟩
  obtain ⟨x, hx⟩ := hs tag n hn
  rw [hbig] at hx
  exact nomatch hx

theorem Convertible.not_hasLongUnit {s : TagStore} (hs : s.Convertible) (q : Quantity) :
    ¬ s.HasLongUnit q := by
  rintro ⟨-, n, hn, hlong⟩
  obtain ⟨x, hx⟩ := hs _ n hn
  exact nomatch hlong.symm.trans (Double.isWritable_of_ofInt? hx)

/-- Every tag reads as a double, or nothing is found. -/
theorem Convertible.double?_total {s : TagStore} (hs : s.Convertible) (tag : Tag) :
    ∃ v, s.double? tag = .ok v := by
  rcases hget : s.tags.get? tag with _ | n | x | t
  · exact ⟨none, by rw [double?, hget]⟩
  · obtain ⟨x, hx⟩ := hs tag n hget
    exact ⟨some x, by simp only [double?, hget, hx]⟩
  · exact ⟨some x, by rw [double?, hget]⟩
  · exact ⟨none, by rw [double?, hget]⟩

theorem averageLuminance_of_underflow {s : TagStore} (h : s.ExposureUnderflows) :
    s.averageLuminance = .error .divisionByZero := by
  obtain ⟨f, t, speed, hparts, ht, hspeed, hzero⟩ := h
  obtain ⟨htime, hiso⟩ := Double.not_le_zero_iff_of_product hzero
  rw [averageLuminance_of_parts hparts, if_neg (htime.2 ht), if_neg (hiso.2 hspeed), divide,
    if_pos hzero]

theorem value_fails {s : TagStore} (hs : s.Convertible) {q : Quantity}
    (h : q = .averageLuminance → ¬ s.ExposureUnderflows) : OnlyUnavailable (s.value q) := by
  intro e he
  have hout := value_outcome s q
  rw [he] at hout
  cases hout with
  | absent | insufficient | illegal => exact ⟨_, rfl⟩
  | tooLarge hover => exact absurd hover (hs.not_overflows q)
  | tooLong hlong => exact absurd hlong (hs.not_hasLongUnit q)
  | @divisionByZero f t speed hq hf ht hspeed htime hiso hzero =>
    have hparts := luminanceParts_eq_ok.2 ⟨hf, ht, hspeed⟩
    exact absurd ⟨f, t, speed, hparts, htime, hiso, hzero⟩ (h hq)

/-- A quantity that is no composite fails over an absent tag or over an illegal value. -/
theorem Convertible.absent_or_illegal {s : TagStore} (hs : s.Convertible) {q : Quantity} {e : Failure}
    (hq : q.composite? = none) (h : s.value q = .error e) :
    (∃ tag, e = absent tag) ∨ ∃ tag why, e = illegal tag why := by
  have hout := value_outcome s q
  rw [h] at hout
  cases hout with
  | @absent tag => exact Or.inl ⟨tag, rfl⟩
  | @illegal tag htag why => exact Or.inr ⟨tag, why, rfl⟩
  | insufficient hsome => exact nomatch hq.symm.trans hsome
  | tooLarge hover => exact absurd hover (hs.not_overflows q)
  | tooLong hlong => exact absurd hlong (hs.not_hasLongUnit q)
  | divisionByZero haverage =>
    obtain rfl := haverage
    exact nomatch hq

theorem value_of_underflow {s : TagStore} (h : s.ExposureUnderflows) :
    s.value .averageLuminance = .error .divisionByZero := by
  rw [value, averageLuminance_of_underflow h]
  rfl

/-- A summary lists every quantity in order. -/
theorem summary_total {s : TagStore} (hs : s.Convertible) (h : ¬ s.ExposureUnderflows) :
    ∃ rows, s.summary = .ok rows ∧ rows.map Prod.fst = Quantity.all :=
  ⟨_, summary_eq_ok.2 ⟨fun _ => value_fails hs fun _ => h, rfl⟩, rfl⟩

theorem summary_of_underflow {s : TagStore} (hs : s.Convertible) (h : s.ExposureUnderflows) :
    s.summary = .error .divisionByZero := by
  refine summary_eq_error.2 ⟨Quantity.all.take 10, .averageLuminance, Quantity.all.drop 11, rfl,
    value_of_underflow h, ?_, ?_⟩
  · rintro ⟨why, hwhy⟩
    exact nomatch hwhy
  · intro p hp
    -- the average luminance itself stands later in the list
    refine value_fails hs fun hq => absurd (hq ▸ hp) (by decide)

end TagStore

end Exif
