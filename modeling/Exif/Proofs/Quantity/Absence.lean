import Exif.Proofs.Quantity.Dependence
import Exif.Proofs.Quantity.Grounds

/-! Which tag is reported absent, and how to make it good. Neither the tag nor what is preferred to it can
be read. Once the tag can be read it is not reported again, since nothing that could be read before is lost;
so no more tags have to be supplied than a quantity can name. -/

namespace Exif

def Failure.missing? : Failure → Option Tag
  | .unavailable (.absent tag) => some tag
  | .unavailable (.insufficient _ tag) => some tag
  | _ => none

theorem Quantity.kind_of_named {q : Quantity} {tag : Tag} (h : tag ∈ q.named) : tag.kind = q.kind := by
  have hall : ∀ tag ∈ q.named, tag.kind = q.kind := by cases q <;> decide
  exact hall tag h

theorem Quantity.length_named (q : Quantity) : q.named.length ≤ 5 := by
  cases q <;> decide

namespace TagStore

def missing? (s : TagStore) (q : Quantity) : Option Tag :=
  match s.value q with
  | .ok _ => none
  | .error e => e.missing?

def put (s : TagStore) (tag : Tag) (v : TagValue) : TagStore := { s with tags := s.tags.insert tag v }

/-- A store to which tags have been supplied, the last one first: each of them was reported absent, and
can be read once it is there. -/
inductive Supplied (q : Quantity) (s : TagStore) : List Tag → TagStore → Prop
  | start : Supplied q s [] s
  | supply {tags : List Tag} {s' : TagStore} {tag : Tag} {v w : TagValue} (h : Supplied q s tags s')
    (hmissing : s'.missing? q = some tag) (hread : (s'.put tag v).lookup tag q.kind = .ok (some w)) :
    Supplied q s (tag :: tags) (s'.put tag v)

variable {s s' : TagStore} {q : Quantity} {tag tag' : Tag} {v w : TagValue} {kind : Kind}

/-! ## Writing a tag -/

theorem get?_put (s : TagStore) (tag tag' : Tag) (v : TagValue) :
    (s.put tag v).tags.get? tag' = if tag = tag' then some v else s.tags.get? tag' :=
  OrderedMap.get?_insert _ _ _ _

theorem lookup_congr (h : s.tags.get? tag = s'.tags.get? tag) (kind : Kind) :
    s.lookup tag kind = s'.lookup tag kind := by
  cases kind <;> simp only [lookup, refuse, double?_congr h, int?_congr h, text?, h]

theorem lookup_put_of_ne (h : tag ≠ tag') (v : TagValue) (kind : Kind) :
    (s.put tag v).lookup tag' kind = s.lookup tag' kind := by
  apply lookup_congr
  rw [get?_put, if_neg h]

/-- A value can be read in its own kind. -/
theorem lookup_put_self (s : TagStore) (tag : Tag) (v : TagValue) :
    (s.put tag v).lookup tag v.kind = .ok (some v) := by
  have hget : (s.put tag v).tags.get? tag = some v := by rw [get?_put, if_pos rfl]
  cases v <;> simp [TagValue.kind, lookup, double?, int?, text?, hget, Except.map]

theorem exists_kind_eq (q : Quantity) : ∃ v : TagValue, v.kind = q.kind := by
  cases q with
  | make | model => exact ⟨.text "", rfl⟩
  | thumbnailLocation => exact ⟨.int 0, rfl⟩
  | fNumber | exposureTime | iso | apertureValue | timeValue | exposureValue | filmSpeedValue |
    luminanceValue | averageLuminance | focalLength35mmEquivalent => exact ⟨.double 0, rfl⟩

/-! ## Reports -/

theorem missing?_eq_some : s.missing? q = some tag ↔
    ∃ e, s.value q = .error e ∧ e.missing? = some tag := by
  unfold missing?
  rcases s.value q with e | v <;> simp

/-- Only a tag that a derivation names and that is lacking is reported by it. -/
theorem Grounds.of_missing? {named : List Tag} {e : Failure} (h : Grounds s named e)
    (hmissing : e.missing? = some tag) : tag ∈ named ∧ s.Lacks tag := by
  cases h with
  | absent h hlacks | insufficient _ h hlacks =>
    obtain rfl := Option.some.inj hmissing
    exact ⟨h, hlacks⟩
  | illegal | tooLarge | tooLong | divisionByZero => exact nomatch hmissing

/-- Where the exposure time vanishes, the average luminance reports nothing absent. -/
theorem not_timeVanishes_of_missing? (h : s.missing? .averageLuminance = some tag) :
    ¬ s.TimeVanishes := by
  intro hvanishes
  obtain ⟨t, ht⟩ := averageLuminance_of_timeVanishes hvanishes
  have hnone : s.missing? .averageLuminance = none := by
    rw [missing?, value, ht]
    rfl
  exact Option.some_ne_none tag (h.symm.trans hnone)

theorem lacks_of_missing? (h : s.missing? q = some tag) : tag ∈ q.named ∧ s.Lacks tag := by
  have hnot : q = .averageLuminance → ¬ s.TimeVanishes := by
    rintro rfl
    exact not_timeVanishes_of_missing? h
  obtain ⟨e, he, hmissing⟩ := missing?_eq_some.1 h
  exact (value_grounds hnot e he).of_missing? hmissing

theorem double?_reports (s : TagStore) (tag : Tag) :
    FailsOnly (fun e => e.missing? = none) (s.double? tag) := by
  have hgrounds : FailsOnly (Grounds s []) (s.double? tag) := double?_grounds s tag
  intro e he
  cases hgrounds e he with
  | absent h | insufficient _ h => exact absurd h List.not_mem_nil
  | illegal | tooLarge | tooLong | divisionByZero => rfl

/-- What is looked for first has not been found if something is reported absent. -/
theorem found_eq_none {found : Except Failure (Option Float)} {computed : Except Failure Float}
    (hsearch : FailsOnly (fun e => e.missing? = none) found)
    (hvalue : s.value q = .double <$> foundOr found computed) (h : s.missing? q = some tag) :
    found = .ok none := by
  rw [missing?, hvalue] at h
  rcases found with e | _ | x
  · exact nomatch (hsearch e rfl).symm.trans h
  · rfl
  · exact nomatch h

theorem ownTag_of_missing? {own : Tag} (h : s.missing? q = some tag) (hown : q.ownTag? = some own) :
    s.lookup own .double = .ok none := by
  obtain ⟨computed, hvalue⟩ := value_of_ownTag hown s
  exact lookup_double_eq_none.2 (found_eq_none (double?_reports s own) hvalue h)

theorem recordedEquivalent?_of_missing? (h : s.missing? .focalLength35mmEquivalent = some tag) :
    s.recordedEquivalent? = .ok none := by
  have hvalue : s.value .focalLength35mmEquivalent =
      .double <$> foundOr s.recordedEquivalent? s.computedEquivalent :=
    congrArg (TagValue.double <$> ·) (focalLength35mmEquivalent_eq s)
  refine found_eq_none ?_ hvalue h
  exact (double?_reports s .focalLengthIn35mmFilm).bind fun _ _ => .ok _

theorem unread_of_missing? (h : s.missing? q = some tag) : s.lookup tag q.kind = .ok none := by
  obtain ⟨hmem, hlacks⟩ := lacks_of_missing? h
  rw [← Quantity.kind_of_named hmem]
  exact hlacks.unread

/-! ## Supplying tags -/

/-- What is supplied is named by the quantity, no tag twice, and stays readable. -/
theorem Supplied.legible {tags : List Tag} (h : Supplied q s tags s') :
    tags.Nodup ∧ tags ⊆ q.named ∧ ∀ tag ∈ tags, ∃ w, s'.lookup tag q.kind = .ok (some w) := by
  induction h with
  | start => exact ⟨List.nodup_nil, List.nil_subset _, fun tag htag => nomatch htag⟩
  | @supply tags s' tag v w h hmissing hread ih =>
    obtain ⟨hnodup, hsub, hlegible⟩ := ih
    obtain ⟨hmem, -⟩ := lacks_of_missing? hmissing
    have hnew : tag ∉ tags := by
      intro htag
      obtain ⟨w', hw'⟩ := hlegible tag htag
      exact nomatch (unread_of_missing? hmissing).symm.trans hw'
    refine ⟨List.nodup_cons.2 ⟨hnew, hnodup⟩, List.cons_subset.2 ⟨hmem, hsub⟩, ?_⟩
    intro tag' htag'
    rcases List.mem_cons.1 htag' with rfl | htag'
    · exact ⟨w, hread⟩
    · have hne : tag ≠ tag' := by
        rintro rfl
        exact hnew htag'
      rw [lookup_put_of_ne hne]
      exact hlegible tag' htag'

/-- Whatever has been supplied before, what is still reported absent can be supplied. -/
theorem Supplied.continues {tags : List Tag} (h : Supplied q s tags s') :
    s'.missing? q = none ∨ ∃ tag v, Supplied q s (tag :: tags) (s'.put tag v) := by
  rcases hmissing : s'.missing? q with _ | tag
  · exact Or.inl rfl
  · obtain ⟨v, hkind⟩ := exists_kind_eq q
    exact Or.inr ⟨tag, v, h.supply hmissing (hkind ▸ lookup_put_self s' tag v)⟩

/-! ## Queries -/

theorem refuse_reports (s : TagStore) (tag : Tag) (kind : Kind) :
    FailsOnly (fun e => e.missing? = none) (s.refuse tag kind) := by
  unfold refuse
  split
  · exact .error rfl
  · exact .error rfl
  · exact .ok none

/-- A look-up reports nothing absent, whatever the kind. -/
theorem lookup_reports (s : TagStore) (tag : Tag) (kind : Kind) :
    FailsOnly (fun e => e.missing? = none) (s.lookup tag kind) := by
  cases kind with
  | double => exact (double?_reports s tag).map _
  | int | text => exact .ok _
  | _ => exact refuse_reports s tag _

/-- Only the tag that is asked for is reported. -/
theorem query_reports {e : Failure} (h : s.query tag kind = .error e) (hmissing : e.missing? = some tag') :
    tag' = tag ∧ s.lookup tag kind = .ok none := by
  unfold query at h
  rcases hlookup : s.lookup tag kind with e' | _ | w
  · rw [hlookup] at h
    obtain rfl := Except.error.inj h
    exact nomatch (lookup_reports s tag kind e' hlookup).symm.trans hmissing
  · rw [hlookup] at h
    obtain rfl := Except.error.inj h
    exact ⟨(Option.some.inj hmissing).symm, rfl⟩
  · rw [hlookup] at h
    exact nomatch h

theorem query_eq_ok (h : s.lookup tag kind = .ok (some w)) : s.query tag kind = .ok w := by
  rw [query, h]
  rfl

/-- Absence. A tag that is reported absent cannot be read in the kind of the quantity, and nothing that
would have been read instead of it can be read either. Whatever value is put there that can be read, the
tag is not reported again. Supplying one reported tag after the other comes to an end after five tags at
the latest, and only where none is reported. A query reports the tag that is asked for. -/
theorem absences_repairable (s : TagStore) :
    (∀ q tag, s.missing? q = some tag →
      s.lookup tag q.kind = .ok none ∧
        (∀ own, tag.preferred? = some own → s.lookup own .double = .ok none) ∧
        (∀ own, q.ownTag? = some own → s.lookup own .double = .ok none) ∧
        (q = .focalLength35mmEquivalent → s.recordedEquivalent? = .ok none) ∧
        ∀ v w, (s.put tag v).lookup tag q.kind = .ok (some w) → (s.put tag v).missing? q ≠ some tag) ∧
      (∀ q tags s', Supplied q s tags s' → tags.length ≤ 5 ∧ tags.Nodup ∧
        (s'.missing? q = none ∨ ∃ tag v, Supplied q s (tag :: tags) (s'.put tag v))) ∧
      ∀ tag kind e tag', s.query tag kind = .error e → e.missing? = some tag' →
        tag' = tag ∧ s.lookup tag kind = .ok none ∧
          ∀ v w, (s.put tag v).lookup tag kind = .ok (some w) → (s.put tag v).query tag kind = .ok w := by
  refine ⟨?_, ?_, ?_⟩
  · intro q tag h
    obtain ⟨-, hlacks⟩ := lacks_of_missing? h
    refine ⟨unread_of_missing? h, hlacks.preferred, fun own => ownTag_of_missing? h, ?_, ?_⟩
    · rintro rfl
      exact recordedEquivalent?_of_missing? h
    · intro v w hread hagain
      exact nomatch (unread_of_missing? hagain).symm.trans hread
  · intro q tags s' h
    obtain ⟨hnodup, hsub, -⟩ := h.legible
    have hlength := hnodup.length_le_of_subset hsub
    exact ⟨Nat.le_trans hlength q.length_named, hnodup, h.continues⟩
  · intro tag kind e tag' h hmissing
    obtain ⟨htag, hunread⟩ := query_reports h hmissing
    exact ⟨htag, hunread, fun v w => query_eq_ok⟩

def blank : TagStore := ⟨.empty, 0, none⟩

/-- The store after all that the focal length on film needs has been supplied, in the order in which it
was reported absent. -/
def measured : TagStore :=
  ((((blank.put .focalLength (.double 50)).put .pixelXDimension (.double 3600)).put .pixelYDimension
    (.double 2400)).put .focalPlaneXResolution (.double 2540)).put .focalPlaneYResolution (.double 2540)

theorem absences_repairable_measured :
    blank.missing? .focalLength35mmEquivalent = some .focalLength ∧
      (blank.put .focalLength (.double 50)).missing? .focalLength35mmEquivalent ≠ some .focalLength ∧
      Supplied .focalLength35mmEquivalent blank
        [.focalPlaneYResolution, .focalPlaneXResolution, .pixelYDimension, .pixelXDimension,
          .focalLength] measured ∧
      measured.missing? .focalLength35mmEquivalent = none := by
  obtain ⟨hreport, hsupply, -⟩ := absences_repairable blank
  have hfirst : blank.missing? .focalLength35mmEquivalent = some .focalLength := rfl
  have hsupplied : Supplied .focalLength35mmEquivalent blank
      [.focalPlaneYResolution, .focalPlaneXResolution, .pixelYDimension, .pixelXDimension,
        .focalLength] measured := by
    have hlength := Supplied.start.supply hfirst (lookup_put_self blank .focalLength (.double 50))
    have hwidth := hlength.supply rfl (lookup_put_self _ .pixelXDimension (.double 3600))
    have hheight := hwidth.supply rfl (lookup_put_self _ .pixelYDimension (.double 2400))
    have hx := hheight.supply rfl (lookup_put_self _ .focalPlaneXResolution (.double 2540))
    exact hx.supply rfl (lookup_put_self _ .focalPlaneYResolution (.double 2540))
  refine ⟨hfirst, (hreport _ _ hfirst).2.2.2.2 _ _ rfl, hsupplied, ?_⟩
  -- a sixth tag would be one too many
  rcases (hsupply _ _ _ hsupplied).2.2 with hnone | ⟨tag, v, hmore⟩
  · exact hnone
  · have hlength := (hsupply _ _ _ hmore).1
    simp at hlength

end TagStore

end Exif
