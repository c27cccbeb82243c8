import Exif.Proofs.TiffHeader.Prefix

/-! How many headers the search for the TIFF header reads. Each of its turns reads one, and either ends the
search or leads to a later position. A turn moves by a whole header at least, unless the segment declares
less than the two bytes of its length; then the next turn is the last. -/

namespace Exif.TiffHeader

/-- What a turn of the search comes to: the position of the next header, or the answer. -/
inductive Turn
  | goesOn (position : Nat)
  | ends (answer : Nat)

def turn (f : OpenFile) (position : Nat) : Turn :=
  match (f.seek position).read headerSize with
  | ([start, marker, high, low], behind) =>
    if start ≠ markerStart ∨ marker ∈ endMarkers then .ends 0
    else if marker = app1 ∧ (behind.read identifier.length).1 = identifier then
      .ends (position + headerSize + identifier.length)
    else .goesOn (position + 2 + declaredLength high low)
  | _ => .ends 0

/-- A search that reads headers at these positions, one turn after the other, ends with an answer. -/
inductive Reads (f : OpenFile) : List Nat → Nat → Prop
  | last {p n : Nat} : turn f p = .ends n → Reads f [p] n
  | next {p q n : Nat} {ps : List Nat} :
      turn f p = .goesOn q → Reads f (q :: ps) n → Reads f (p :: q :: ps) n

variable {f : OpenFile} {p q n : Nat} {ps : List Nat}

/-! ## One turn -/

theorem turn_of_read {start marker high low : UInt8} {behind : OpenFile}
    (h : (f.seek p).read headerSize = ([start, marker, high, low], behind)) :
    turn f p =
      if start ≠ markerStart ∨ marker ∈ endMarkers then .ends 0
      else if marker = app1 ∧ (behind.read identifier.length).1 = identifier then
        .ends (p + headerSize + identifier.length)
      else .goesOn (p + 2 + declaredLength high low) := by
  rw [turn, h]

/-- The search takes one turn after the other. -/
theorem search_eq_turn (f : OpenFile) (p : Nat) :
    search f p =
      match turn f p with
      | .goesOn next => search f next
      | .ends answer => answer := by
  fun_cases search f p with
  | case1 start marker high low behind hread hend => rw [turn_of_read hread, if_pos hend]
  | case2 start marker high low behind hread hend hid =>
    rw [turn_of_read hread, if_neg hend, if_pos hid]
  | case3 start marker high low behind hread hend hid =>
    rw [turn_of_read hread, if_neg hend, if_neg hid]
  | case4 hcut =>
    have hturn : turn f p = .ends 0 := by
      unfold turn
      split
      · next start marker high low behind hread =>
        exact (hcut start marker high low behind hread).elim
      · rfl
    rw [hturn]

/-- A turn that goes on has read the header of a segment. -/
theorem turn_eq_goesOn (h : turn f p = .goesOn q) :
    ∃ (marker high low : UInt8) (rest : List UInt8),
      f.bytes.drop p = header marker high low ++ rest ∧ q = p + 2 + declaredLength high low := by
  unfold turn at h
  split at h
  · next start marker high low behind hread =>
    split at h
    · exact nomatch h
    · next hend =>
      split at h
      · exact nomatch h
      · have hstart : start = markerStart := not_not.1 (not_or.1 hend).1
        refine ⟨marker, high, low, f.bytes.drop (p + headerSize), ?_, (Turn.goesOn.inj h).symm⟩
        rw [(header_of_read hread).1, hstart]
        rfl
  · exact nomatch h

theorem turn_of_header {marker high low : UInt8} {rest : List UInt8}
    (h : f.bytes.drop p = header marker high low ++ rest) :
    turn f p =
      if marker ∈ endMarkers then .ends 0
      else if marker = app1 ∧ identifier <+: rest then .ends (p + headerSize + identifier.length)
      else .goesOn (p + 2 + declaredLength high low) := by
  have htake : (f.bytes.drop p).take headerSize = [markerStart, marker, high, low] := by
    rw [h]
    rfl
  have hread : (f.seek p).read headerSize =
      ([markerStart, marker, high, low], f.seek (p + headerSize)) := by
    refine Prod.ext htake ?_
    rw [OpenFile.read_seek_snd, htake]
    rfl
  have hrest : f.bytes.drop (p + headerSize) = rest := by
    rw [← List.drop_drop, h]
    rfl
  rw [turn_of_read hread, OpenFile.read_seek_fst, hrest]
  simp only [ne_eq, not_true_eq_false, false_or, take_eq_iff_prefix]

/-- Where no marker starts, the search ends. -/
theorem turn_of_no_marker (h : (f.bytes.drop p).head? ≠ some markerStart) : turn f p = .ends 0 := by
  unfold turn
  split
  · next start marker high low behind hread =>
    rw [(header_of_read hread).1] at h
    have hstart : start ≠ markerStart := fun hstart => h (congrArg some hstart)
    rw [if_pos (Or.inl hstart)]
  · rfl

theorem header_within_of_drop {marker high low : UInt8} {rest : List UInt8}
    (h : f.bytes.drop p = header marker high low ++ rest) : p + headerSize ≤ f.bytes.length := by
  have hlength := congrArg List.length h
  rw [List.length_drop, List.length_append, header_length] at hlength
  simp only [headerSize] at hlength ⊢
  omega

/-- The next position is later, by two bytes at least. -/
theorem turn_advances (h : turn f p = .goesOn q) : p + 2 ≤ q ∧ p + headerSize ≤ f.bytes.length := by
  obtain ⟨marker, high, low, rest, hdrop, rfl⟩ := turn_eq_goesOn h
  exact ⟨Nat.le_add_right _ _, header_within_of_drop hdrop⟩

/-- A length of 0 or 1 leads the search into the length itself, where it ends. -/
theorem turn_of_short {marker high low : UInt8} {rest : List UInt8}
    (h : f.bytes.drop p = header marker high low ++ rest) (hshort : declaredLength high low < 2) :
    turn f (p + 2 + declaredLength high low) = .ends 0 := by
  refine turn_of_no_marker ?_
  have hdrop : f.bytes.drop (p + 2 + declaredLength high low) =
      (high :: low :: rest).drop (declaredLength high low) := by
    rw [← List.drop_drop, ← List.drop_drop, h]
    rfl
  rw [hdrop]
  exact head_of_short hshort

/-- Two turns that both go on are a whole header apart. -/
theorem turn_advances_header {r : Nat} (h : turn f p = .goesOn q) (hnext : turn f q = .goesOn r) :
    p + headerSize ≤ q := by
  obtain ⟨marker, high, low, rest, hdrop, rfl⟩ := turn_eq_goesOn h
  have hlength : ¬ declaredLength high low < 2 := by
    intro hshort
    exact nomatch (turn_of_short hdrop hshort).symm.trans hnext
  simp only [headerSize]
  omega

/-! ## A whole search -/

theorem exists_reads (f : OpenFile) (p : Nat) : ∃ ps, Reads f (p :: ps) (search f p) := by
  rw [search_eq_turn]
  rcases hturn : turn f p with q | n
  · have hadvances := turn_advances hturn
    obtain ⟨ps, hps⟩ := exists_reads f q
    exact ⟨q :: ps, .next hturn hps⟩
  · exact ⟨[], .last hturn⟩
termination_by f.bytes.length - p
decreasing_by simp only [headerSize] at hadvances; omega

namespace Reads

variable {qs : List Nat} {m : Nat}

theorem unique (h : Reads f (p :: ps) n) (h' : Reads f (p :: qs) m) : ps = qs ∧ n = m := by
  induction ps generalizing p qs with
  | nil =>
    cases h with
    | last hn =>
      cases h' with
      | last hm => exact ⟨rfl, Turn.ends.inj (hn.symm.trans hm)⟩
      | next hm => exact nomatch hn.symm.trans hm
  | cons q ps ih =>
    cases h with
    | next hq h =>
      cases h' with
      | last hm => exact nomatch hq.symm.trans hm
      | next hq' h' =>
        obtain rfl := Turn.goesOn.inj (hq.symm.trans hq')
        obtain ⟨rfl, rfl⟩ := ih h h'
        exact ⟨rfl, rfl⟩

theorem increasing (h : Reads f ps n) : ps.Pairwise (· < ·) := by
  induction h with
  | last => exact List.pairwise_singleton _ _
  | next hq _ ih =>
    have hlater := (List.pairwise_cons.1 ih).1
    have hadvances := turn_advances hq
    refine List.pairwise_cons.2 ⟨List.forall_mem_cons.2 ⟨by omega, fun r hr => ?_⟩, ih⟩
    have hr := hlater r hr
    omega

/-- All headers but the last two are a whole header apart, and the one before the last lies within the
file. -/
theorem length_le (h : Reads f (p :: ps) n) : ps.length ≤ (f.bytes.length - p) / 4 := by
  induction ps generalizing p with
  | nil => exact Nat.zero_le _
  | cons q ps ih =>
    cases h with
    | next hq h =>
      have hwithin := (turn_advances hq).2
      have hrest := ih h
      simp only [headerSize, List.length_cons] at hwithin ⊢
      cases h with
      | last => simp only [List.length_nil]; omega
      | next hr _ =>
        have happart := turn_advances_header hq hr
        simp only [headerSize] at happart
        omega

/-- From any of its headers on, a search reads what it reads behind it. -/
theorem suffix {before : List Nat} (h : Reads f (before ++ p :: ps) n) : Reads f (p :: ps) n := by
  induction before with
  | nil => exact h
  | cons r before ih =>
    cases before with
    | nil =>
      cases h with
      | next _ h => exact ih h
    | cons s before =>
      cases h with
      | next _ h => exact ih h

/-- What a search comes to from a segment on that declares a length of 0 or 1. -/
theorem of_short {marker high low : UInt8} {rest : List UInt8} (h : Reads f (p :: ps) n)
    (hdrop : f.bytes.drop p = header marker high low ++ rest) (hshort : declaredLength high low < 2) :
    (marker = app1 ∧ identifier <+: rest ∧ ps = [] ∧ n = p + 10) ∨
      (ps = if marker ∈ endMarkers then [] else [p + 2 + declaredLength high low]) ∧ n = 0 := by
  have hturn := turn_of_header hdrop
  by_cases hend : marker ∈ endMarkers
  · rw [if_pos hend] at hturn
    obtain ⟨rfl, rfl⟩ := h.unique (.last hturn)
    exact Or.inr ⟨(if_pos hend).symm, rfl⟩
  · rw [if_neg hend] at hturn
    by_cases hid : marker = app1 ∧ identifier <+: rest
    · rw [if_pos hid] at hturn
      obtain ⟨rfl, rfl⟩ := h.unique (.last hturn)
      exact Or.inl ⟨hid.1, hid.2, rfl, rfl⟩
    · rw [if_neg hid] at hturn
      obtain ⟨rfl, rfl⟩ := h.unique (.next hturn (.last (turn_of_short hdrop hshort)))
      exact Or.inr ⟨(if_neg hend).symm, rfl⟩

end Reads

/-- To locate the header of a JPEG file, headers of segments are read at later and later positions, and one
at most for every four bytes of the file. A segment that declares a length of 0 or 1 is the last one that is
read, or the last but one; no header is located then, unless it is in this segment. -/
theorem headers_read_are_few {f : OpenFile} (h : jpegStart <+: f.bytes) :
    ∃ ps, (∀ qs n, Reads f (2 :: qs) n ↔ qs = ps ∧ n = locateIn f) ∧
      (2 :: ps).Pairwise (· < ·) ∧ (2 :: ps).length ≤ (f.bytes.length - 2) / 4 + 1 ∧
      ∀ before p after marker high low rest, 2 :: ps = before ++ p :: after →
        f.bytes.drop p = header marker high low ++ rest → declaredLength high low < 2 →
        (marker = app1 ∧ identifier <+: rest ∧ after = [] ∧ locateIn f = p + 10) ∨
          (after = if marker ∈ endMarkers then [] else [p + 2 + declaredLength high low]) ∧
            locateIn f = 0 := by
  obtain ⟨ps, hps⟩ := exists_reads f 2
  have hsearch : search f 2 = locateIn f := by
    rw [locateIn_eq, locate_of_jpegStart h, search_eq_walk]
  rw [hsearch] at hps
  refine ⟨ps, fun qs n => ⟨fun hqs => hqs.unique hps, ?_⟩, hps.increasing, ?_, ?_⟩
  · rintro ⟨rfl, rfl⟩
    exact hps
  · exact Nat.succ_le_succ hps.length_le
  · intro before p after marker high low rest hsplit hdrop hshort
    rw [hsplit] at hps
    exact hps.suffix.of_short hdrop hshort

/-- A file with a segment of length 1 in front of the one that holds the TIFF block. -/
def stuckFile : List UInt8 :=
  jpegStart ++ jfifSegment.bytes ++ header 0xE2 0x00 0x01 ++ announcement 0x00 0x0C bareBlock

theorem headers_read_are_few_stuck : jpegStart <+: stuckFile ∧ Reads ⟨stuckFile, 0⟩ [2, 8, 11] 0 ∧
    [2, 8, 11].length ≤ (stuckFile.length - 2) / 4 + 1 ∧ locateIn ⟨stuckFile, 0⟩ = 0 := by
  have hstart : jpegStart <+: stuckFile := by decide
  have hreads : Reads ⟨stuckFile, 0⟩ [2, 8, 11] 0 := .next rfl (.next rfl (.last rfl))
  obtain ⟨ps, hrun, -, hlength, hshort⟩ := headers_read_are_few (f := ⟨stuckFile, 0⟩) hstart
  obtain ⟨rfl, -⟩ := (hrun _ _).1 hreads
  have hdrop : stuckFile.drop 8 = header 0xE2 0x00 0x01 ++ announcement 0x00 0x0C bareBlock := rfl
  rcases hshort [2] 8 [11] _ _ _ _ rfl hdrop (by decide) with ⟨hmarker, -⟩ | ⟨-, hzero⟩
  · exact absurd hmarker (by decide)
  · exact ⟨hstart, hreads, hlength, hzero⟩

end Exif.TiffHeader
