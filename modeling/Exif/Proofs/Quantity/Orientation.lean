import Exif.Proofs.Quantity.FilmEquivalent

/-! The focal length on film does not depend on how the picture is turned. The axes of the sensor are read,
checked and blamed one after the other, but whether all checks pass and what the diagonal is does not
change when they are exchanged. -/

namespace Exif

namespace Double

theorem longSide_comm (a b : Nat) : longSide a b = longSide b a := by
  simp only [longSide, Nat.max_comm a b, Int.min_comm a b, Nat.add_comm (a * a) (b * b)]

theorem hypot_comm (x y : Float) : hypot x y = hypot y x := by
  unfold hypot
  rw [Bool.or_comm x.isInf, Bool.or_comm x.isNaN, longSide_comm]

end Double

/-- The tag that records of the other axis what a tag records of one. A tag of no axis is its own. -/
def Tag.transposed : Tag → Tag
  | .pixelXDimension => .pixelYDimension
  | .pixelYDimension => .pixelXDimension
  | .focalPlaneXResolution => .focalPlaneYResolution
  | .focalPlaneYResolution => .focalPlaneXResolution
  | tag => tag

theorem Tag.transposed_transposed (tag : Tag) : tag.transposed.transposed = tag := by
  cases tag <;> rfl

theorem Tag.transposed_injective : Function.Injective Tag.transposed :=
  Function.LeftInverse.injective transposed_transposed

namespace TagStore

/-- The second store holds of each axis what the first holds of the other, and all else alike. -/
def Transposes (s s' : TagStore) : Prop := ∀ tag, s'.tags.get? tag = s.tags.get? tag.transposed

def transposed (s : TagStore) : TagStore :=
  { s with tags := s.tags.mapKeys Tag.transposed Tag.transposed_injective }

theorem transposes_transposed (s : TagStore) : s.Transposes s.transposed := by
  intro tag
  have hget := OrderedMap.get?_mapKeys Tag.transposed_injective s.tags tag.transposed
  rw [Tag.transposed_transposed] at hget
  exact hget

/-! ## Checks of both axes -/

namespace Transposes

variable {s s' : TagStore} (h : s.Transposes s')
include h

theorem double? (tag : Tag) : s'.double? tag = s.double? tag.transposed := by
  unfold TagStore.double?
  rw [h]

theorem int? (tag : Tag) : s'.int? tag = s.int? tag.transposed := by
  unfold TagStore.int?
  rw [h]

theorem reading (tag : Tag) : s'.reading tag = s.reading tag.transposed := by
  unfold TagStore.reading
  rw [h.double?]

theorem unreadable_eq_nil (tag : Tag) : s'.unreadable tag = [] ↔ s.unreadable tag.transposed = [] := by
  unfold unreadable
  rw [h.double?]
  rcases s.double? tag.transposed with e | _ | x <;> simp

theorem notPositive_eq_nil (tag : Tag) : s'.notPositive tag = [] ↔ s.notPositive tag.transposed = [] := by
  unfold notPositive
  rw [h.reading]
  split <;> simp

theorem unsupportedUnit : s'.unsupportedUnit = s.unsupportedUnit := by
  unfold TagStore.unsupportedUnit
  rw [h.int?]
  rfl

theorem sensorDiagonal : s'.sensorDiagonal = s.sensorDiagonal := by
  unfold TagStore.sensorDiagonal unitLength
  simp only [h.reading, h.int?]
  exact Double.hypot_comm _ _

theorem zeroDiagonal : s'.zeroDiagonal = s.zeroDiagonal := by
  unfold TagStore.zeroDiagonal
  rw [h.sensorDiagonal]

theorem equivalentFaults_eq_nil : s'.equivalentFaults = [] ↔ s.equivalentFaults = [] := by
  simp only [equivalentFaults, List.append_eq_nil_iff, h.unreadable_eq_nil, h.notPositive_eq_nil,
    h.unsupportedUnit, h.zeroDiagonal, Tag.transposed]
  tauto

theorem recordedEquivalent? : s'.recordedEquivalent? = s.recordedEquivalent? := by
  unfold TagStore.recordedEquivalent?
  rw [h.double?]
  rfl

theorem computedEquivalent_eq_ok {x : Float} :
    s'.computedEquivalent = .ok x ↔ s.computedEquivalent = .ok x := by
  simp only [computedEquivalent_eq_firstError, firstError_eq_ok, h.equivalentFaults_eq_nil,
    h.sensorDiagonal, h.reading, Tag.transposed]

/-- Both stores have a value or neither has one. Which tag is blamed if there is none may differ. -/
theorem value_eq_ok {v : TagValue} :
    s'.value .focalLength35mmEquivalent = .ok v ↔ s.value .focalLength35mmEquivalent = .ok v := by
  simp only [value, focalLength35mmEquivalent_eq, h.recordedEquivalent?]
  rcases s.recordedEquivalent? with e | _ | x
  · rfl
  · change s'.computedEquivalent.map _ = _ ↔ s.computedEquivalent.map _ = _
    simp only [map_eq_ok, h.computedEquivalent_eq_ok]
  · rfl

end Transposes

/-- The focal length on film does not depend on how the picture is turned: with the axes of a store
exchanged, and in every store that holds of each axis what the first one holds of the other, there is the
same value as in the store, or there is none in either. -/
theorem equivalent_of_transposed (s : TagStore) :
    s.Transposes s.transposed ∧ ∀ s', s.Transposes s' → ∀ v,
      s'.value .focalLength35mmEquivalent = .ok v ↔ s.value .focalLength35mmEquivalent = .ok v :=
  ⟨transposes_transposed s, fun _ h _ => h.value_eq_ok⟩

/-- The store of a picture that was taken on a sensor of the size of the film, with pixels that are not
square. -/
def landscape : TagStore :=
  ⟨⟨[(.focalLength, .double 50), (.focalPlaneResolutionUnit, .int 3), (.focalPlaneXResolution, .double 10),
    (.pixelXDimension, .int 36), (.focalPlaneYResolution, .double 5), (.pixelYDimension, .int 12)],
    by decide⟩, 0, none⟩

def portrait : TagStore :=
  ⟨⟨[(.pixelXDimension, .int 12), (.pixelYDimension, .int 36), (.focalLength, .double 50),
    (.focalPlaneResolutionUnit, .int 3), (.focalPlaneXResolution, .double 5),
    (.focalPlaneYResolution, .double 10)], by decide⟩, 0, none⟩

theorem equivalent_of_transposed_landscape :
    landscape.Transposes portrait ∧ landscape.value .focalLength35mmEquivalent = .ok (.double 50) ∧
      portrait.value .focalLength35mmEquivalent = .ok (.double 50) := by
  have htransposes : landscape.Transposes portrait := by
    intro tag
    cases tag <;> rfl
  have hfaults : landscape.equivalentFaults = [] := by
    have hx : landscape.notPositive .focalPlaneXResolution = [] := if_neg (by decide +kernel)
    have hy : landscape.notPositive .focalPlaneYResolution = [] := if_neg (by decide +kernel)
    have hdiagonal : landscape.zeroDiagonal = [] := if_neg (by decide +kernel)
    rw [equivalentFaults, hx, hy, hdiagonal]
    rfl
  have hvalue : landscape.value .focalLength35mmEquivalent = .ok (.double 50) := by
    have hscaled : landscape.reading .focalLength * filmDiagonal / landscape.sensorDiagonal = 50 := by
      decide +kernel
    rw [value_of_unrecorded rfl, hfaults, hscaled]
    rfl
  exact ⟨htransposes, hvalue, ((equivalent_of_transposed landscape).2 portrait htransposes _).2 hvalue⟩

end TagStore

end Exif
