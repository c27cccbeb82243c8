import Exif.Proofs.Double.Rounding
import Exif.Proofs.Quantity.Tags
import Exif.Proofs.TagStore

/-! What a tag reads as. A value converts to the double nearest to it, or to the integer that it is, and
has at most one reading of each kind. Look-ups give this reading, or nothing where there is none; they fail
for integers that round beyond the doubles. -/

namespace Exif

/-- What a value is in a kind that need not be its own. An integer is rounded to the nearest double, and
a double is no other integer than the one that it is. -/
inductive TagValue.ConvertsTo : TagValue → TagValue → Prop
  | same (v : TagValue) : ConvertsTo v v
  | rounded {n : ℤ} {x : Float} (h : Double.IsNearest n x) (hzero : n = 0 → x = 0) :
      ConvertsTo (.int n) (.double x)
  | exact {x : Float} {n : ℤ} (h : Double.number? x = some (n : ℚ)) : ConvertsTo (.double x) (.int n)

def Kind.readable : List Kind := [.double, .int, .text]

/-- What a tag that holds `stored`, if anything, reads as. -/
def IsReading (stored : Option TagValue) (kind : Kind) : Option TagValue → Prop
  | some w => w.kind = kind ∧ ∃ v, stored = some v ∧ v.ConvertsTo w
  | none => ∀ v w, stored = some v → v.ConvertsTo w → w.kind ≠ kind

namespace TagValue

/-- Zero as an integer is rounded to positive zero alone, so a value has one reading of a kind. -/
theorem ConvertsTo.unique {v w w' : TagValue} (h : v.ConvertsTo w) (h' : v.ConvertsTo w')
    (hkind : w.kind = w'.kind) : w = w' := by
  cases h with
  | same =>
    cases h' with
    | same => rfl
    | rounded | exact => exact nomatch hkind
  | @rounded n x hnear hzero =>
    cases h' with
    | same => exact nomatch hkind
    | @rounded _ y hnear' hzero' =>
      by_cases hn : n = 0
      · rw [hzero hn, hzero' hn]
      · rw [hnear.unique hnear' hn]
  | exact hx =>
    cases h' with
    | same => exact nomatch hkind
    | exact hx' => rw [Int.cast_injective (Option.some.inj (hx.symm.trans hx'))]

end TagValue

theorem isReading_absent (kind : Kind) : IsReading none kind none := fun _ _ h => nomatch h

theorem IsReading.unique {stored : Option TagValue} {kind : Kind} {r r' : Option TagValue}
    (h : IsReading stored kind r) (h' : IsReading stored kind r') : r = r' := by
  match r, r', h, h' with
  | none, none, _, _ => rfl
  | some w, none, ⟨hkind, v, hv, hw⟩, h' => exact absurd hkind (h' v w hv hw)
  | none, some w, h, ⟨hkind, v, hv, hw⟩ => exact absurd hkind (h v w hv hw)
  | some w, some w', ⟨hkind, v, hv, hw⟩, ⟨hkind', v', hv', hw'⟩ =>
    obtain rfl : v = v' := Option.some.inj (hv.symm.trans hv')
    rw [hw.unique hw' (hkind.trans hkind'.symm)]

/-- Texts and numbers do not convert into each other. -/
theorem isReading_none_of_text {v : TagValue} {kind : Kind} (hne : v.kind ≠ kind)
    (htext : v.kind = .text ∨ kind = .text) : IsReading (some v) kind none := by
  rintro v' w hv hw rfl
  obtain rfl := Option.some.inj hv
  cases hw with
  | same => exact hne rfl
  | rounded | exact => exact htext.elim (nomatch ·) (nomatch ·)

/-- A double has no reading as an integer if it is none. -/
theorem isReading_int_of_double {x : Float} (h : Double.toInt? x = none) :
    IsReading (some (.double x)) .int none := by
  rintro v w hv hw hkind
  obtain rfl := Option.some.inj hv
  cases hw with
  | same => exact nomatch hkind
  | exact hx => exact nomatch h.symm.trans (Double.toInt?_eq_some_iff.2 hx)

/-- An integer has no reading as a double if it rounds beyond the doubles. -/
theorem isReading_double_of_int {n : ℤ} (h : Double.threshold ≤ |n|) :
    IsReading (some (.int n)) .double none := by
  rintro v w hv hw hkind
  obtain rfl := Option.some.inj hv
  cases hw with
  | same => exact nomatch hkind
  | rounded hnear => exact absurd h (not_le.2 hnear.abs_lt_threshold)

namespace TagStore

variable {s : TagStore} {tag : Tag}

/-- A tag holds an integer that rounds beyond the doubles. -/
def RoundsBeyond (s : TagStore) (tag : Tag) : Prop :=
  ∃ n, s.tags.get? tag = some (.int n) ∧ Double.threshold ≤ |n|

theorem isReading_text? : IsReading (s.tags.get? tag) .text ((s.text? tag).map .text) := by
  unfold text?
  rcases s.tags.get? tag with _ | n | x | t
  · exact isReading_absent _
  · exact isReading_none_of_text (nomatch ·) (Or.inr rfl)
  · exact isReading_none_of_text (nomatch ·) (Or.inr rfl)
  · exact ⟨rfl, _, rfl, .same _⟩

theorem isReading_int? : IsReading (s.tags.get? tag) .int ((s.int? tag).map .int) := by
  unfold int?
  rcases s.tags.get? tag with _ | n | x | t
  · exact isReading_absent _
  · exact ⟨rfl, _, rfl, .same _⟩
  · dsimp only
    cases hx : Double.toInt? x with
    | none => exact isReading_int_of_double hx
    | some n => exact ⟨rfl, _, rfl, .exact (Double.toInt?_eq_some_iff.1 hx)⟩
  · exact isReading_none_of_text (nomatch ·) (Or.inl rfl)

/-- A tag is read as a double unless it holds an integer that rounds beyond the doubles. -/
theorem double?_outcome (s : TagStore) (tag : Tag) :
    (∃ r, s.double? tag = .ok r ∧ IsReading (s.tags.get? tag) .double (r.map .double) ∧
        ¬ s.RoundsBeyond tag) ∨
      (s.double? tag = .error .integerTooLarge ∧ s.RoundsBeyond tag) := by
  unfold double? RoundsBeyond
  rcases s.tags.get? tag with _ | n | x | t
  · exact Or.inl ⟨none, rfl, isReading_absent _, fun ⟨_, h, _⟩ => nomatch h⟩
  · dsimp only
    rcases Double.ofInt?_outcome n with ⟨x, hx, hnear⟩ | ⟨hx, hbeyond⟩
    · rw [hx]
      refine Or.inl ⟨some x, rfl, ⟨rfl, _, rfl, .rounded hnear ?_⟩, ?_⟩
      · rintro rfl
        exact (Option.some.inj hx).symm
      · rintro ⟨m, hm, hbeyond⟩
        obtain rfl : n = m := TagValue.int.inj (Option.some.inj hm)
        exact absurd hbeyond (not_le.2 hnear.abs_lt_threshold)
    · rw [hx]
      exact Or.inr ⟨rfl, n, rfl, hbeyond⟩
  · exact Or.inl ⟨some x, rfl, ⟨rfl, _, rfl, .same _⟩, fun ⟨_, h, _⟩ => nomatch h⟩
  · have hreading : IsReading (some (.text t)) .double none :=
      isReading_none_of_text (nomatch ·) (Or.inl rfl)
    exact Or.inl ⟨none, rfl, hreading, fun ⟨_, h, _⟩ => nomatch h⟩

theorem isReading_of_lookup {kind : Kind} (hkind : kind ∈ Kind.readable)
    (h : ¬ (kind = .double ∧ s.RoundsBeyond tag)) :
    ∃ r, s.lookup tag kind = .ok r ∧ IsReading (s.tags.get? tag) kind r := by
  simp only [Kind.readable, List.mem_cons, List.not_mem_nil, or_false] at hkind
  rcases hkind with rfl | rfl | rfl
  · rcases s.double?_outcome tag with ⟨r, hr, hreading, -⟩ | ⟨-, hbeyond⟩
    · exact ⟨_, by rw [lookup, hr]; rfl, hreading⟩
    · exact absurd ⟨rfl, hbeyond⟩ h
  · exact ⟨_, rfl, isReading_int?⟩
  · exact ⟨_, rfl, isReading_text?⟩

theorem lookup_of_roundsBeyond (h : s.RoundsBeyond tag) :
    s.lookup tag .double = .error .integerTooLarge ∧ IsReading (s.tags.get? tag) .double none := by
  rcases s.double?_outcome tag with ⟨-, -, -, hnot⟩ | ⟨herror, n, hn, hbeyond⟩
  · exact absurd h hnot
  · rw [lookup, herror, hn]
    exact ⟨rfl, isReading_double_of_int hbeyond⟩

/-- A look-up that succeeds gives the reading. -/
theorem lookup_eq_ok_iff {kind : Kind} (hkind : kind ∈ Kind.readable) {r : Option TagValue} :
    s.lookup tag kind = .ok r ↔
      IsReading (s.tags.get? tag) kind r ∧ ¬ (kind = .double ∧ s.RoundsBeyond tag) := by
  by_cases hbeyond : kind = .double ∧ s.RoundsBeyond tag
  · refine iff_of_false ?_ fun h => h.2 hbeyond
    obtain ⟨rfl, hbeyond⟩ := hbeyond
    rw [(lookup_of_roundsBeyond hbeyond).1]
    exact (nomatch ·)
  · obtain ⟨r', hr', hreading⟩ := isReading_of_lookup hkind hbeyond
    rw [hr']
    constructor
    · intro h
      obtain rfl := Except.ok.inj h
      exact ⟨hreading, hbeyond⟩
    · rintro ⟨h, -⟩
      rw [hreading.unique h]

theorem lookup_int_of_not_finite {x : Float} (hx : s.tags.get? tag = some (.double x))
    (hfinite : x.isFinite = false) : s.lookup tag .int = .ok none := by
  have hnone : Double.toInt? x = none := by
    rw [Option.eq_none_iff_forall_ne_some]
    intro n hn
    exact nomatch (Double.number?_eq_none_iff.2 hfinite).symm.trans (Double.toInt?_eq_some_iff.1 hn)
  simp only [lookup, int?, hx, hnone]
  rfl

/-- Reading a tag as a double, an integer or a text gives its one reading of the kind, or nothing where
there is none, exactly if no integer that rounds beyond the doubles is read as a double. Such an integer
has no reading as a double either, but reading it is a failure. Infinities and NaN are no integers. -/
theorem lookup_gives_reading_iff (s : TagStore) (tag : Tag) {kind : Kind} (hkind : kind ∈ Kind.readable) :
    ((∃ r, s.lookup tag kind = .ok r ∧ ∀ r', IsReading (s.tags.get? tag) kind r' ↔ r' = r) ↔
        ¬ (kind = .double ∧ s.RoundsBeyond tag)) ∧
      (kind = .double ∧ s.RoundsBeyond tag →
        s.lookup tag kind = .error .integerTooLarge ∧
          ∀ r', IsReading (s.tags.get? tag) kind r' ↔ r' = none) ∧
      ∀ x, s.tags.get? tag = some (.double x) → x.isFinite = false → s.lookup tag .int = .ok none := by
  have hunique {r : Option TagValue} (hr : IsReading (s.tags.get? tag) kind r) (r' : Option TagValue) :
      IsReading (s.tags.get? tag) kind r' ↔ r' = r :=
    ⟨fun hr' => hr'.unique hr, fun heq => heq ▸ hr⟩
  refine ⟨⟨?_, ?_⟩, ?_, fun x => lookup_int_of_not_finite⟩
  · rintro ⟨r, hr, -⟩ ⟨rfl, hbeyond⟩
    exact nomatch hr.symm.trans (lookup_of_roundsBeyond hbeyond).1
  · intro h
    obtain ⟨r, hr, hreading⟩ := isReading_of_lookup hkind h
    exact ⟨r, hr, hunique hreading⟩
  · rintro ⟨rfl, hbeyond⟩
    obtain ⟨herror, hreading⟩ := lookup_of_roundsBeyond hbeyond
    exact ⟨herror, hunique hreading⟩

def oddWidth : TagStore := ⟨⟨[(.pixelXDimension, .int (2 ^ 53 + 1))], by decide⟩, 0, none⟩

/-- It lies halfway between two doubles and reads as the one with the even significand. -/
theorem lookup_gives_reading_oddWidth :
    oddWidth.lookup .pixelXDimension .double = .ok (some (.double 9007199254740992)) ∧
      ∀ r, IsReading (some (.int (2 ^ 53 + 1))) .double r ↔ r = some (.double 9007199254740992) := by
  have hlookup : oddWidth.lookup .pixelXDimension .double = .ok (some (.double 9007199254740992)) := rfl
  obtain ⟨hiff, hbeyond, -⟩ :=
    lookup_gives_reading_iff oddWidth .pixelXDimension (show Kind.double ∈ Kind.readable by decide)
  obtain ⟨r, hr, hreading⟩ := hiff.2 fun h => nomatch hlookup.symm.trans (hbeyond h).1
  obtain rfl := Except.ok.inj (hlookup.symm.trans hr)
  exact ⟨hlookup, hreading⟩

def boundless : TagStore := ⟨⟨[(.fNumber, .int (2 ^ 1024 - 2 ^ 970))], by decide⟩, 0, none⟩

/-- The integer is no double, but instead of nothing a failure is what comes of reading it as one. -/
theorem lookup_fails_boundless :
    Kind.double ∈ Kind.readable ∧ (∀ x, ¬ Double.IsNearest (2 ^ 1024 - 2 ^ 970) x) ∧
      IsReading (boundless.tags.get? .fNumber) .double none ∧
      boundless.lookup .fNumber .double = .error .integerTooLarge ∧
      ¬ ∃ r, boundless.lookup .fNumber .double = .ok r := by
  have hbeyond : Double.threshold ≤ |2 ^ 1024 - 2 ^ 970| := le_abs_self _
  have hholds : boundless.RoundsBeyond .fNumber := ⟨_, rfl, hbeyond⟩
  obtain ⟨herror, hreading⟩ := lookup_of_roundsBeyond hholds
  refine ⟨by decide, fun x hx => absurd hbeyond (not_le.2 hx.abs_lt_threshold), hreading, herror, ?_⟩
  rintro ⟨r, hr⟩
  exact nomatch herror.symm.trans hr

end TagStore

end Exif
