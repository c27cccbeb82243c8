import Exif.Proofs.TagStore.Readings

/-! How the readings of one tag belong together. A tag reads as a text or as a number. Its reading as a
double is the one nearest to its reading as an integer, if there is one at all, and is the stored double
where a double is stored. Queries are look-ups that must find something. -/

namespace Exif.TagStore

variable {s : TagStore} {tag : Tag}

def HoldsNumber (s : TagStore) (tag : Tag) : Prop := ∃ v, s.tags.get? tag = some v ∧ v.kind ≠ .text

/-- The reading as a double that goes with the reading `n` as an integer: the nearest double, which is the
stored one where a double is stored, or the failure for integers that round beyond the doubles. -/
def ReadsNearest (s : TagStore) (tag : Tag) (n : ℤ) : Prop :=
  (∃ x, s.lookup tag .double = .ok (some (.double x)) ∧ Double.IsNearest n x ∧
      (n ≠ 0 → ∀ y, Double.IsNearest n y → y = x) ∧
      ∀ y, s.tags.get? tag = some (.double y) → y = x ∧ Double.number? x = some (n : ℚ) ∧
        Double.toInt? x = some n ∧ (n ≠ 0 → Double.ofInt? n = some x)) ∨
    (s.lookup tag .double = .error .integerTooLarge ∧ Double.threshold ≤ |n|)

/-- What the readings of a tag have to do with each other. -/
structure Coherent (s : TagStore) (tag : Tag) : Prop where
  text : ∀ v, s.lookup tag .text = .ok (some v) →
    s.lookup tag .int = .ok none ∧ s.lookup tag .double = .ok none
  int : ∀ v, s.lookup tag .int = .ok (some v) → ∃ n, v = .int n ∧ s.ReadsNearest tag n
  double : ∀ v, s.lookup tag .double = .ok (some v) → ∃ x, v = .double x ∧
    ((∃ w, s.lookup tag .int = .ok (some w)) ↔
      (∃ n, s.tags.get? tag = some (.int n)) ∨ ∃ n : ℤ, Double.number? x = some (n : ℚ))
  query_absent : ∀ kind tag', s.query tag kind = .error (absent tag') ↔
    tag' = tag ∧ s.lookup tag kind = .ok none
  query_ok : ∀ kind v, s.query tag kind = .ok v ↔ s.lookup tag kind = .ok (some v)
  query_error : ∀ kind e, s.lookup tag kind = .error e → s.query tag kind = .error e
  unsupported : ∀ kind, kind ∉ Kind.readable →
    (s.lookup tag kind = .error (.unsupportedKind kind) ↔ s.HoldsNumber tag) ∧
      (¬ s.HoldsNumber tag → s.lookup tag kind = .ok none)

/-! ## Stored values -/

theorem lookup_double_of_double {x : Float} (h : s.tags.get? tag = some (.double x)) :
    s.lookup tag .double = .ok (some (.double x)) := by
  simp only [lookup, double?, h]
  rfl

theorem lookup_double_of_int {n : ℤ} (h : s.tags.get? tag = some (.int n)) :
    (∃ x, s.lookup tag .double = .ok (some (.double x)) ∧ Double.IsNearest n x) ∨
      (s.lookup tag .double = .error .integerTooLarge ∧ Double.threshold ≤ |n|) := by
  simp only [lookup, double?, h]
  rcases Double.ofInt?_outcome n with ⟨x, hx, hnear⟩ | ⟨hx, hbeyond⟩
  · rw [hx]
    exact Or.inl ⟨x, rfl, hnear⟩
  · rw [hx]
    exact Or.inr ⟨rfl, hbeyond⟩

/-- What is read as an integer is one, or a double that is one. -/
theorem lookup_int_eq_some_iff {v : TagValue} :
    s.lookup tag .int = .ok (some v) ↔ ∃ n, v = .int n ∧
      (s.tags.get? tag = some (.int n) ∨
        ∃ x, s.tags.get? tag = some (.double x) ∧ Double.number? x = some (n : ℚ)) := by
  rw [lookup_eq_ok_iff (by decide)]
  constructor
  · rintro ⟨⟨hkind, u, hu, hv⟩, -⟩
    cases hv with
    | same =>
      cases v with
      | int n => exact ⟨n, rfl, Or.inl hu⟩
      | double x | text t => exact nomatch hkind
    | rounded => exact nomatch hkind
    | exact hx => exact ⟨_, rfl, Or.inr ⟨_, hu, hx⟩⟩
  · rintro ⟨n, rfl, hn | ⟨x, hx, hnumber⟩⟩
    · exact ⟨⟨rfl, _, hn, .same _⟩, fun h => nomatch h.1⟩
    · exact ⟨⟨rfl, _, hx, .exact hnumber⟩, fun h => nomatch h.1⟩

theorem get?_of_lookup_text {v : TagValue} (h : s.lookup tag .text = .ok (some v)) :
    ∃ t, s.tags.get? tag = some (.text t) := by
  obtain ⟨⟨hkind, u, hu, hv⟩, -⟩ := (lookup_eq_ok_iff (by decide)).1 h
  cases hv with
  | same =>
    cases v with
    | text t => exact ⟨t, hu⟩
    | int n | double x => exact nomatch hkind
  | rounded | exact => exact nomatch hkind

/-- What is read as a double is one, or an integer. -/
theorem get?_of_lookup_double {v : TagValue} (h : s.lookup tag .double = .ok (some v)) :
    ∃ x, v = .double x ∧
      (s.tags.get? tag = some (.double x) ∨ ∃ n, s.tags.get? tag = some (.int n)) := by
  obtain ⟨⟨hkind, u, hu, hv⟩, -⟩ := (lookup_eq_ok_iff (by decide)).1 h
  cases hv with
  | same =>
    cases v with
    | double x => exact ⟨x, rfl, Or.inl hu⟩
    | int n | text t => exact nomatch hkind
  | rounded => exact ⟨_, rfl, Or.inr ⟨_, hu⟩⟩
  | exact => exact nomatch hkind

/-! ## Coherence -/

theorem readings_of_text {v : TagValue} (h : s.lookup tag .text = .ok (some v)) :
    s.lookup tag .int = .ok none ∧ s.lookup tag .double = .ok none := by
  obtain ⟨t, ht⟩ := get?_of_lookup_text h
  simp only [lookup, int?, double?, ht]
  exact ⟨rfl, rfl⟩

theorem readings_of_int {v : TagValue} (h : s.lookup tag .int = .ok (some v)) :
    ∃ n, v = .int n ∧ s.ReadsNearest tag n := by
  obtain ⟨n, rfl, hn | ⟨x, hx, hnumber⟩⟩ := lookup_int_eq_some_iff.1 h
  · refine ⟨n, rfl, (lookup_double_of_int hn).imp_left ?_⟩
    rintro ⟨x, hx, hnear⟩
    exact ⟨x, hx, hnear, fun hzero y hy => hy.unique hnear hzero, fun y hy => nomatch hn.symm.trans hy⟩
  · have hnear := Double.isNearest_of_number? hnumber
    have hunique (hzero : n ≠ 0) (y : Float) (hy : Double.IsNearest n y) : y = x := hy.unique hnear hzero
    refine ⟨n, rfl, Or.inl ⟨x, lookup_double_of_double hx, hnear, hunique, ?_⟩⟩
    intro y hy
    obtain rfl := TagValue.double.inj (Option.some.inj (hx.symm.trans hy))
    exact ⟨rfl, hnumber, Double.toInt?_eq_some_iff.2 hnumber, hnear.ofInt?_eq⟩

theorem readings_of_double {v : TagValue} (h : s.lookup tag .double = .ok (some v)) :
    ∃ x, v = .double x ∧ ((∃ w, s.lookup tag .int = .ok (some w)) ↔
      (∃ n, s.tags.get? tag = some (.int n)) ∨ ∃ n : ℤ, Double.number? x = some (n : ℚ)) := by
  obtain ⟨x, rfl, hx | ⟨n, hn⟩⟩ := get?_of_lookup_double h
  · refine ⟨x, rfl, ?_⟩
    constructor
    · rintro ⟨w, hw⟩
      obtain ⟨n, rfl, hn | ⟨y, hy, hnumber⟩⟩ := lookup_int_eq_some_iff.1 hw
      · exact Or.inl ⟨n, hn⟩
      · obtain rfl := TagValue.double.inj (Option.some.inj (hx.symm.trans hy))
        exact Or.inr ⟨n, hnumber⟩
    · rintro (⟨n, hn⟩ | ⟨n, hnumber⟩)
      · exact nomatch hx.symm.trans hn
      · exact ⟨_, lookup_int_eq_some_iff.2 ⟨n, rfl, Or.inr ⟨x, hx, hnumber⟩⟩⟩
  · exact ⟨x, rfl, iff_of_true ⟨_, lookup_int_eq_some_iff.2 ⟨n, rfl, Or.inl hn⟩⟩ (Or.inl ⟨n, hn⟩)⟩

theorem query_eq_error_iff {kind : Kind} {e : Failure} : s.query tag kind = .error e ↔
    s.lookup tag kind = .error e ∨ (e = absent tag ∧ s.lookup tag kind = .ok none) := by
  unfold query
  rcases s.lookup tag kind with e' | _ | v <;> simp [bind, Except.bind, require, eq_comm]

theorem query_eq_ok_iff {kind : Kind} {v : TagValue} :
    s.query tag kind = .ok v ↔ s.lookup tag kind = .ok (some v) := by
  unfold query
  rcases s.lookup tag kind with e' | _ | w <;> simp [bind, Except.bind, require]

theorem refuse_outcome (s : TagStore) (tag : Tag) (kind : Kind) :
    (s.refuse tag kind = .error (.unsupportedKind kind) ∧ s.HoldsNumber tag) ∨
      (s.refuse tag kind = .ok none ∧ ¬ s.HoldsNumber tag) := by
  unfold refuse HoldsNumber
  rcases s.tags.get? tag with _ | n | x | t
  · exact Or.inr ⟨rfl, fun ⟨_, h, _⟩ => nomatch h⟩
  · exact Or.inl ⟨rfl, _, rfl, (nomatch ·)⟩
  · exact Or.inl ⟨rfl, _, rfl, (nomatch ·)⟩
  · refine Or.inr ⟨rfl, ?_⟩
    rintro ⟨v, hv, hkind⟩
    obtain rfl := Option.some.inj hv
    exact hkind rfl

theorem lookup_of_unreadable {kind : Kind} (h : kind ∉ Kind.readable) :
    s.lookup tag kind = s.refuse tag kind := by
  cases kind with
  | double | int | text => exact absurd (by decide) h
  | bytes | bool | other name => rfl

/-- A look-up blames no absent tag. -/
theorem lookup_ne_absent {kind : Kind} {tag' : Tag} : s.lookup tag kind ≠ .error (absent tag') := by
  by_cases hkind : kind ∈ Kind.readable
  · by_cases hbeyond : kind = .double ∧ s.RoundsBeyond tag
    · obtain ⟨rfl, hbeyond⟩ := hbeyond
      rw [(lookup_of_roundsBeyond hbeyond).1]
      exact (nomatch ·)
    · obtain ⟨r, hr, -⟩ := isReading_of_lookup hkind hbeyond
      rw [hr]
      exact (nomatch ·)
  · rw [lookup_of_unreadable hkind]
    rcases s.refuse_outcome tag kind with ⟨herror, -⟩ | ⟨hok, -⟩
    · rw [herror]
      exact (nomatch ·)
    · rw [hok]
      exact (nomatch ·)

/-- The readings of a tag, and the queries for them, belong together. -/
theorem readings_coherent (s : TagStore) (tag : Tag) : s.Coherent tag where
  text _ := readings_of_text
  int _ := readings_of_int
  double _ := readings_of_double
  query_absent kind tag' := by
    rw [query_eq_error_iff, or_iff_right lookup_ne_absent]
    simp [absent]
  query_ok _ _ := query_eq_ok_iff
  query_error _ _ h := query_eq_error_iff.2 (Or.inl h)
  unsupported kind hkind := by
    rw [lookup_of_unreadable hkind]
    rcases s.refuse_outcome tag kind with ⟨herror, hnumber⟩ | ⟨hok, hnot⟩
    · exact ⟨iff_of_true herror hnumber, fun hnot => absurd hnumber hnot⟩
    · rw [hok]
      exact ⟨iff_of_false (nomatch ·) hnot, fun _ => rfl⟩

end Exif.TagStore
