import Exif.Proofs.TiffHeader.Segments

/-! The TIFF header of a JPEG file is located exactly where the grammar of segments puts it: behind
the start of the file, a list of well-formed segments, an APP1 header and the identifier. -/

namespace Exif.TiffHeader

/-- The bytes from which the identifier of a located TIFF header is read. -/
def announcement (high low : UInt8) (rest : List UInt8) : List UInt8 :=
  header app1 high low ++ identifier ++ rest

/-- No APP1 header of these segments, which stand from position `p` of `d` on, is followed by the
identifier. -/
def Silent (d : List UInt8) (p : Nat) (segments : List Segment) : Prop :=
  ∀ before s after, segments = before ++ s :: after → s.marker = app1 →
    ¬ identifier <+: d.drop (p + (joined before).length + headerSize)

/-- Segments are laid end to end from position 2 of `d` up to position `n - 10`, where an APP1 header
and the identifier stand. The identifier follows no APP1 header before. -/
def LocatedAt (d : List UInt8) (n : Nat) : Prop :=
  ∃ (segments : List Segment) (high low : UInt8) (rest : List UInt8),
    d = jpegStart ++ joined segments ++ announcement high low rest ∧
    n = 2 + (joined segments).length + 10 ∧ Silent d 2 segments

theorem silent_nil (d : List UInt8) (p : Nat) : Silent d p [] := by
  intro before s after h
  simp at h

theorem drop_joined_cons (s : Segment) (ss : List Segment) (d : List UInt8) (k : Nat) :
    (s.bytes ++ d).drop (0 + (joined (s :: ss)).length + k) = d.drop (0 + (joined ss).length + k) := by
  rw [joined_cons, List.length_append, Nat.zero_add, Nat.zero_add, Nat.add_assoc,
    List.drop_append, List.drop_eq_nil_of_le (Nat.le_add_right _ _), Nat.add_sub_cancel_left,
    List.nil_append]

theorem silent_cons_iff (s : Segment) (ss : List Segment) (d : List UInt8) :
    Silent (s.bytes ++ d) 0 (s :: ss) ↔
      (s.marker = app1 → ¬ identifier <+: s.payload ++ d) ∧ Silent d 0 ss := by
  have hfirst : (s.bytes ++ d).drop (0 + (joined []).length + headerSize) = s.payload ++ d := rfl
  constructor
  · intro h
    refine ⟨fun hm => ?_, fun before t after hss hm => ?_⟩
    · rw [← hfirst]
      exact h [] s ss rfl hm
    · rw [← drop_joined_cons s before d]
      exact h (s :: before) t after (by rw [hss]; rfl) hm
  · rintro ⟨hs, hss⟩ before t after h hm
    cases before with
    | nil =>
      obtain ⟨rfl, -⟩ := List.cons.inj h
      rw [hfirst]
      exact hs hm
    | cons b before =>
      obtain ⟨rfl, htail⟩ := List.cons.inj h
      rw [drop_joined_cons]
      exact hss before t after htail hm

theorem silent_drop (d d' : List UInt8) (p : Nat) (ss : List Segment) (h : d.drop p = d') :
    Silent d p ss ↔ Silent d' 0 ss := by
  simp only [Silent, ← h, List.drop_drop, Nat.zero_add, Nat.add_assoc]

theorem finds_iff {p n : Nat} {d : List UInt8} :
    Finds p d n ↔ ∃ (segments : List Segment) (high low : UInt8) (rest : List UInt8),
      d = joined segments ++ announcement high low rest ∧
      n = p + (joined segments).length + 10 ∧ Silent d 0 segments := by
  constructor
  · intro h
    induction h with
    | here p high low rest => exact ⟨[], high, low, rest, rfl, rfl, silent_nil _ _⟩
    | skip s hs _ ih =>
      obtain ⟨ss, high, low, rest, hd, hn, hss⟩ := ih
      refine ⟨s :: ss, high, low, rest, ?_, ?_, (silent_cons_iff s ss _).2 ⟨hs, hss⟩⟩
      · rw [hd, joined_cons, List.append_assoc]
      · rw [hn, joined_cons, List.length_append, ← Nat.add_assoc]
  · rintro ⟨ss, high, low, rest, hd, hn, hss⟩
    induction ss generalizing p d with
    | nil =>
      subst hd hn
      exact Finds.here p high low rest
    | cons s ss ih =>
      rw [joined_cons, List.append_assoc] at hd
      subst hd
      obtain ⟨hs, hss⟩ := (silent_cons_iff s ss _).1 hss
      refine Finds.skip s hs (ih rfl ?_ hss)
      rw [hn, joined_cons, List.length_append, ← Nat.add_assoc]

theorem locatedAt_iff {d : List UInt8} {n : Nat} :
    LocatedAt d n ↔ jpegStart <+: d ∧ Finds 2 (d.drop 2) n := by
  constructor
  · rintro ⟨ss, high, low, rest, hd, hn, hss⟩
    have hdrop : d.drop 2 = joined ss ++ announcement high low rest := by
      rw [hd, List.append_assoc]
      rfl
    exact ⟨⟨_, by rw [hd, List.append_assoc]⟩,
      finds_iff.2 ⟨ss, high, low, rest, hdrop, hn, (silent_drop _ _ _ _ rfl).1 hss⟩⟩
  · rintro ⟨⟨tail, rfl⟩, hf⟩
    obtain ⟨ss, high, low, rest, hd, hn, hss⟩ := finds_iff.1 hf
    refine ⟨ss, high, low, rest, ?_, hn, (silent_drop _ _ _ _ rfl).2 hss⟩
    rw [List.append_assoc, ← hd]
    rfl

theorem take_of_jpegStart {d : List UInt8} (h : jpegStart <+: d) : d.take 4 ∉ tiffStarts := by
  obtain ⟨tail, rfl⟩ := h
  simp [tiffStarts, jpegStart]

theorem locate_of_jpegStart {d : List UInt8} (h : jpegStart <+: d) :
    locate d = walk 2 (d.drop 2) := by
  rw [locate, if_neg (take_of_jpegStart h), if_pos (List.isPrefixOf_iff_prefix.2 h)]

theorem locate_eq_zero {d : List UInt8} (h : ¬ jpegStart <+: d) : locate d = 0 := by
  rw [locate]
  split
  · rfl
  · rw [if_neg (fun hp => h (List.isPrefixOf_iff_prefix.1 hp))]

theorem locate_eq_iff {d : List UInt8} {n : Nat} : locate d = n ∧ n ≠ 0 ↔ LocatedAt d n := by
  rw [locatedAt_iff]
  by_cases h : jpegStart <+: d
  · rw [locate_of_jpegStart h, walk_eq_iff]
    exact (and_iff_right h).symm
  · rw [locate_eq_zero h]
    exact ⟨fun hn => absurd hn.1.symm hn.2, fun hn => absurd hn.1 h⟩

/-- Whatever was read of the file before, the header is located at a position other than zero
exactly if segments lead up to it, and at zero where they lead to none. -/
theorem locateIn_accepts_grammar (f : OpenFile) :
    (∀ n, locateIn f = n ∧ n ≠ 0 ↔ LocatedAt f.bytes n) ∧
      ((¬ ∃ n, LocatedAt f.bytes n) → locateIn f = 0) := by
  rw [locateIn_eq]
  refine ⟨fun n => locate_eq_iff, fun h => ?_⟩
  by_contra hn
  exact h ⟨_, locate_eq_iff.1 ⟨rfl, hn⟩⟩

end Exif.TiffHeader
