import Exif.Proofs.TiffHeader.Prefix

/-! Fill bytes in front of markers. Any number of them may stand there, but the walk takes the first for the
start of a marker and the second for the marker, and two of the next bytes for a length. From there it goes
on wherever that length leads. A TIFF block that is not far behind is missed. -/

namespace Exif.TiffHeader

structure FilledSegment where
  fill : Nat
  segment : Segment

namespace FilledSegment

def bytes (s : FilledSegment) : List UInt8 := List.replicate s.fill markerStart ++ s.segment.bytes

/-- The length that the walk reads where the segment starts. -/
def misread (s : FilledSegment) : Nat :=
  match s.fill with
  | 0 => declaredLength s.segment.high s.segment.low
  | 1 => declaredLength s.segment.marker s.segment.high
  | 2 => declaredLength markerStart s.segment.marker
  | _ + 3 => declaredLength markerStart markerStart

/-- Where the walk goes on after a filled segment that starts at `p`. -/
def resumption (p : Nat) (s : FilledSegment) : Nat := p + (2 + s.misread)

variable {s : FilledSegment}

/-- Behind two bytes that look like a marker stand those that are read as a length. -/
theorem exists_bytes_eq (h : s.fill ≠ 0) : ∃ high low tail,
    s.bytes = header markerStart high low ++ tail ∧ declaredLength high low = s.misread := by
  obtain ⟨fill, segment⟩ := s
  match fill, h with
  | 1, _ => exact ⟨segment.marker, segment.high, segment.low :: segment.payload, rfl, rfl⟩
  | 2, _ => exact ⟨markerStart, segment.marker, segment.high :: segment.low :: segment.payload, rfl, rfl⟩
  | k + 3, _ =>
    have hnext : List.replicate k markerStart ++ segment.bytes =
        markerStart :: (List.replicate k markerStart ++ segment.bytes.tail) := by
      rw [Segment.bytes, header, List.cons_append, List.append_cons, ← List.replicate_succ']
      rfl
    refine ⟨markerStart, markerStart, List.replicate k markerStart ++ segment.bytes.tail, ?_, rfl⟩
    exact congrArg (fun d => markerStart :: markerStart :: markerStart :: d) hnext

theorem misread_of_three_le (h : 3 ≤ s.fill) : s.misread = 65535 := by
  obtain ⟨fill, segment⟩ := s
  match fill, h with
  | _ + 3, _ => rfl

/-- No step ends within the fill bytes that it starts with, but one over 65537 of them. -/
theorem fill_lt_of_lt (h : s.fill ≠ 0) (hlt : s.fill < 65537) : s.fill < 2 + s.misread := by
  obtain ⟨fill, segment⟩ := s
  match fill, h, hlt with
  | 1, _, _ =>
    simp only [misread]
    omega
  | 2, _, _ =>
    have hstart : markerStart.toNat = 255 := rfl
    simp only [misread, declaredLength]
    omega
  | k + 3, _, hlt =>
    rw [misread_of_three_le (Nat.le_add_left 3 k)]
    exact hlt

theorem le_misread (h : s.fill ≠ 0) (hm : 2 ≤ s.segment.marker.toNat) : 512 ≤ s.misread := by
  have hstart : markerStart.toNat = 255 := rfl
  obtain ⟨fill, segment⟩ := s
  match fill, h with
  | 1, _ | 2, _ | _ + 3, _ =>
    simp only [misread, declaredLength] at hm ⊢
    omega

/-! ## The walk over filled segments -/

theorem walk_filled (h : s.fill ≠ 0) (p : Nat) (d : List UInt8) :
    walk p (s.bytes ++ d) = walk (s.resumption p) ((s.bytes ++ d).drop (2 + s.misread)) := by
  obtain ⟨high, low, tail, hbytes, hlength⟩ := exists_bytes_eq h
  rw [hbytes, resumption, ← hlength, ← List.drop_drop, ← Nat.add_assoc]
  simp only [header, List.cons_append, List.nil_append]
  rw [walk, if_neg (by decide), if_neg (fun hid => absurd hid.1 (by decide))]
  rfl

/-- Over 65537 fill bytes the walk goes with one step. -/
theorem walk_stride (k p : Nat) (segment : Segment) (d : List UInt8) :
    walk p (bytes ⟨k + 65537, segment⟩ ++ d) = walk (p + 65537) (bytes ⟨k, segment⟩ ++ d) := by
  have hmisread : misread ⟨k + 65537, segment⟩ = 65535 := misread_of_three_le (Nat.le_add_left 3 _)
  have hbytes : bytes ⟨k + 65537, segment⟩ ++ d =
      List.replicate 65537 markerStart ++ (bytes ⟨k, segment⟩ ++ d) := by
    simp only [bytes, Nat.add_comm k, ← List.replicate_append_replicate, List.append_assoc]
  rw [walk_filled (Nat.succ_ne_zero _), resumption, hmisread, hbytes,
    List.drop_left' (List.length_replicate ..)]

/-- Fill bytes or not, a segment starts with one. -/
theorem head_bytes (s : FilledSegment) (d : List UInt8) : (s.bytes ++ d).head? = some markerStart := by
  obtain ⟨fill, segment⟩ := s
  cases fill with
  | zero => rfl
  | succ k => rfl

end FilledSegment

def filledBytes (segments : List FilledSegment) : List UInt8 := segments.flatMap FilledSegment.bytes

theorem filledBytes_append (ss ts : List FilledSegment) :
    filledBytes (ss ++ ts) = filledBytes ss ++ filledBytes ts :=
  List.flatMap_append

theorem filledBytes_of_unfilled {segments : List FilledSegment} (h : ∀ s ∈ segments, s.fill = 0) :
    filledBytes segments = joined (segments.map FilledSegment.segment) := by
  induction segments with
  | nil => rfl
  | cons s ss ih =>
    obtain ⟨hs, hss⟩ := List.forall_mem_cons.1 h
    have hbytes : s.bytes = s.segment.bytes := by
      rw [FilledSegment.bytes, hs]
      rfl
    rw [List.map_cons, joined_cons, ← ih hss, ← hbytes]
    rfl

theorem walk_unfilled {before : List FilledSegment} (hbefore : ∀ s ∈ before, s.fill = 0)
    (hquiet : ∀ s ∈ before, s.segment.marker = app1 → ¬ identifier <+: s.segment.payload)
    (s : FilledSegment) (p : Nat) (d : List UInt8) :
    walk p (filledBytes before ++ (s.bytes ++ d)) = walk (p + (filledBytes before).length) (s.bytes ++ d) := by
  rw [filledBytes_of_unfilled hbefore]
  refine walk_joined (fun t ht => ?_) (s.head_bytes d) p
  obtain ⟨u, hu, rfl⟩ := List.mem_map.1 ht
  exact hquiet u hu

/-- Behind fill bytes of its own only, a TIFF block is located if the walk goes over them in whole steps. -/
theorem walk_exif_eq_iff {block : List UInt8} (hb : block.length ≤ 65527) (rest : List UInt8)
    (fill p : Nat) : walk p (FilledSegment.bytes ⟨fill, .exif block hb⟩ ++ rest) = p + fill + 10 ↔
      65537 ∣ fill := by
  induction fill using Nat.strongRecOn generalizing p with
  | ind fill ih =>
    by_cases hlarge : 65537 ≤ fill
    · obtain ⟨k, rfl⟩ := Nat.exists_eq_add_of_le' hlarge
      have hsum : p + (k + 65537) + 10 = p + 65537 + k + 10 := by omega
      rw [FilledSegment.walk_stride, hsum, ih k (by omega), Nat.dvd_add_left (Nat.dvd_refl _)]
    · by_cases hfill : fill = 0
      · subst hfill
        obtain ⟨high, low, hbytes⟩ := exif_bytes block hb
        have hannounced : FilledSegment.bytes ⟨0, .exif block hb⟩ ++ rest =
            announcement high low (block ++ rest) := by
          rw [FilledSegment.bytes, List.replicate_zero, List.nil_append, hbytes, announcement,
            List.append_assoc]
          rfl
        rw [hannounced]
        exact iff_of_true (walk_here p high low _) (Nat.dvd_zero _)
      · refine iff_of_false (fun h => ?_) fun hdvd => ?_
        · have hlt := FilledSegment.fill_lt_of_lt (s := ⟨fill, .exif block hb⟩) hfill
            (Nat.lt_of_not_le hlarge)
          rw [FilledSegment.walk_filled hfill] at h
          have hge := (walk_eq_iff.1 ⟨h, Nat.succ_ne_zero _⟩).ge
          simp only [FilledSegment.resumption, headerSize, identifier, List.length_cons,
            List.length_nil] at hge hlt
          omega
        · exact hlarge (Nat.le_of_dvd (Nat.pos_of_ne_zero hfill) hdvd)

/-! ## Files with filled segments -/

/-- Bytes that start no segment as markers: the fill byte, and those of markers that stand alone or stand
for data. -/
def bareMarkers : List UInt8 :=
  [0xFF, 0x00, 0x01, 0xD0, 0xD1, 0xD2, 0xD3, 0xD4, 0xD5, 0xD6, 0xD7, 0xD8, 0xD9, 0xDA]

theorem two_le_of_not_bare {marker : UInt8} (h : marker ∉ bareMarkers) : 2 ≤ marker.toNat := by
  by_contra hlt
  refine h ?_
  have hcases : marker.toNat = (0x00 : UInt8).toNat ∨ marker.toNat = (0x01 : UInt8).toNat := by
    change marker.toNat = 0 ∨ marker.toNat = 1
    omega
  rcases hcases with hzero | hone
  · rw [UInt8.toNat_inj.1 hzero]
    decide
  · rw [UInt8.toNat_inj.1 hone]
    decide

/-- A JPEG file of filled segments, the last of which holds a TIFF block, then any bytes. -/
def filledJpegWith (leading : List FilledSegment) (fill : Nat) (block : List UInt8)
    (h : block.length ≤ 65527) (rest : List UInt8) : List UInt8 :=
  jpegStart ++ filledBytes (leading ++ [⟨fill, .exif block h⟩]) ++ rest

theorem filledJpegWith_split (leading : List FilledSegment) (fill : Nat) {block : List UInt8}
    (hb : block.length ≤ 65527) (rest : List UInt8) :
    ∃ front, filledJpegWith leading fill block hb rest = front ++ block ++ rest ∧
      front.length = 2 + (filledBytes leading).length + fill + 10 := by
  obtain ⟨high, low, hbytes⟩ := exif_bytes block hb
  refine ⟨jpegStart ++ filledBytes leading ++ List.replicate fill markerStart ++
    (header app1 high low ++ identifier), ?_, ?_⟩
  · have hlast : filledBytes [⟨fill, .exif block hb⟩] =
        List.replicate fill markerStart ++ announcement high low block := by
      rw [← hbytes]
      exact List.append_nil _
    rw [filledJpegWith, filledBytes_append, hlast]
    simp only [announcement, List.append_assoc]
  · simp only [List.length_append, List.length_replicate]
    rfl

theorem locateIn_of_jpegStart {f : OpenFile} {d : List UInt8} (hf : f.bytes = jpegStart ++ d) :
    locateIn f = walk 2 d := by
  rw [locateIn_eq, hf, locate_of_jpegStart (List.prefix_append _ _)]
  rfl

/-- Up to the first fill bytes the walk goes from segment to segment. -/
theorem locateIn_first_filled {before : List FilledSegment} (hbefore : ∀ t ∈ before, t.fill = 0)
    (hquiet : ∀ t ∈ before, t.segment.marker = app1 → ¬ identifier <+: t.segment.payload)
    {s : FilledSegment} (hfill : s.fill ≠ 0) {f : OpenFile} {d : List UInt8}
    (hf : f.bytes = jpegStart ++ (filledBytes before ++ (s.bytes ++ d))) :
    locateIn f = walk (s.resumption (2 + (filledBytes before).length))
      (f.bytes.drop (s.resumption (2 + (filledBytes before).length))) := by
  have hdrop : f.bytes.drop (2 + (filledBytes before).length) = s.bytes ++ d := by
    rw [hf, ← List.drop_drop]
    exact List.drop_left
  rw [locateIn_of_jpegStart hf, walk_unfilled hbefore hquiet, FilledSegment.walk_filled hfill, ← hdrop,
    List.drop_drop]
  rfl

theorem mem_of_parts {α : Type} {leading before after : List α} {last x : α}
    (h : leading ++ [last] = before ++ x :: after) : before ⊆ leading ∧ (x ∈ leading ∨ x = last) := by
  constructor
  · have hinit := congrArg List.dropLast h
    rw [List.dropLast_concat, List.dropLast_append_of_ne_nil (List.cons_ne_nil _ _)] at hinit
    rw [hinit]
    exact List.subset_append_left _ _
  · have hx : x ∈ leading ++ [last] := h ▸ List.mem_append_right _ (List.mem_cons_self ..)
    exact (List.mem_append.1 hx).imp_right List.mem_singleton.1

/-- Where markers may have fill bytes in front of them, the TIFF block is located if only its own segment
has them and the walk goes over them in whole steps, as it does if there are none. Behind the first marker
that has them the walk goes on where the length leads that it misreads there. The block is located exactly if
the header is found from there on, and it is not if it starts close behind. -/
theorem locateIn_behind_fill_iff {leading : List FilledSegment}
    (hmarkers : ∀ s ∈ leading, s.segment.marker ∉ bareMarkers)
    (hquiet : ∀ s ∈ leading, s.segment.marker = app1 → ¬ identifier <+: s.segment.payload)
    (fill : Nat) {block : List UInt8} (hb : block.length ≤ 65527) (rest : List UInt8) (f : OpenFile)
    (hf : f.bytes = filledJpegWith leading fill block hb rest) :
    ∃ front, f.bytes = front ++ block ++ rest ∧
      ((∀ s ∈ leading, s.fill = 0) → (locateIn f = front.length ↔ 65537 ∣ fill)) ∧
      ∀ before s after, leading ++ [⟨fill, .exif block hb⟩] = before ++ s :: after →
        (∀ t ∈ before, t.fill = 0) → s.fill ≠ 0 →
        (locateIn f = front.length ↔
          Finds (s.resumption (2 + (filledBytes before).length))
            (f.bytes.drop (s.resumption (2 + (filledBytes before).length))) front.length) ∧
        (front.length < 2 + (filledBytes before).length + 524 → locateIn f ≠ front.length) := by
  obtain ⟨front, hsplit, hlength⟩ := filledJpegWith_split leading fill hb rest
  refine ⟨front, hf.trans hsplit, fun hleading => ?_, fun before s after hparts hbefore hfill => ?_⟩
  · have hlast : filledBytes [⟨fill, .exif block hb⟩] = FilledSegment.bytes ⟨fill, .exif block hb⟩ :=
      List.append_nil _
    rw [filledJpegWith, List.append_assoc, filledBytes_append, List.append_assoc, hlast] at hf
    rw [locateIn_of_jpegStart hf, walk_unfilled hleading hquiet, hlength]
    exact walk_exif_eq_iff hb rest fill _
  · have hbytes : f.bytes = jpegStart ++ (filledBytes before ++ (s.bytes ++ (filledBytes after ++ rest))) := by
      rw [hf, filledJpegWith, hparts, filledBytes_append, List.append_assoc, List.append_assoc]
      simp only [filledBytes, List.flatMap_cons, List.append_assoc]
    obtain ⟨hmem, hs⟩ := mem_of_parts hparts
    have hmarker : 2 ≤ s.segment.marker.toNat := by
      rcases hs with hs | rfl
      · exact two_le_of_not_bare (hmarkers s hs)
      · exact two_le_of_not_bare (by decide : app1 ∉ bareMarkers)
    have hfound : locateIn f = front.length ↔
        Finds (s.resumption (2 + (filledBytes before).length))
          (f.bytes.drop (s.resumption (2 + (filledBytes before).length))) front.length := by
      rw [locateIn_first_filled hbefore (fun t ht => hquiet t (hmem ht)) hfill hbytes, ← walk_eq_iff, hlength]
      exact (and_iff_left (Nat.succ_ne_zero _)).symm
    refine ⟨hfound, fun hclose h => ?_⟩
    have hge := (hfound.1 h).ge
    have hlong := FilledSegment.le_misread hfill hmarker
    simp only [FilledSegment.resumption, headerSize, identifier, List.length_cons, List.length_nil] at hge
    omega

def filledJfif (fill : Nat) : List FilledSegment := [⟨fill, jfifSegment⟩]

def filledJfifFile (fill : Nat) : OpenFile :=
  ⟨filledJpegWith (filledJfif fill) 0 bareBlock bareBlock_fits [0xFF, 0xD9], 0⟩

theorem length_before_bareBlock {d front : List UInt8} (h : d = front ++ bareBlock ++ [0xFF, 0xD9]) :
    front.length = d.length - 6 := by
  rw [h, List.append_assoc, List.length_append]
  rfl

theorem locateIn_behind_fill_iff_jfif :
    locateIn (filledJfifFile 0) = 18 ∧ locateIn (filledJfifFile 1) ≠ 19 := by
  have hmarkers : ∀ k, ∀ s ∈ filledJfif k, s.segment.marker ∉ bareMarkers := by
    intro k s hs
    rw [List.mem_singleton.1 hs]
    exact (by decide : jfifSegment.marker ∉ bareMarkers)
  have hquiet : ∀ k, ∀ s ∈ filledJfif k,
      s.segment.marker = app1 → ¬ identifier <+: s.segment.payload := by
    intro k s hs
    rw [List.mem_singleton.1 hs]
    exact (by decide : jfifSegment.marker = app1 → ¬ identifier <+: jfifSegment.payload)
  constructor
  · obtain ⟨front, hsplit, hlocated, -⟩ := locateIn_behind_fill_iff (hmarkers 0) (hquiet 0) 0 bareBlock_fits
      [0xFF, 0xD9] (filledJfifFile 0) rfl
    have hfront : front.length = 18 := length_before_bareBlock hsplit
    exact ((hlocated (by decide)).2 (Nat.dvd_zero _)).trans hfront
  · obtain ⟨front, hsplit, -, hmissed⟩ := locateIn_behind_fill_iff (hmarkers 1) (hquiet 1) 0 bareBlock_fits
      [0xFF, 0xD9] (filledJfifFile 1) rfl
    have hfront : front.length = 19 := length_before_bareBlock hsplit
    have hclose : front.length < 2 + (filledBytes []).length + 524 := by
      rw [hfront]
      decide
    rw [← hfront]
    exact (hmissed [] ⟨1, jfifSegment⟩ _ rfl (List.forall_mem_nil _) Nat.one_ne_zero).2 hclose

/-- A file whose only segment holds a TIFF block and has a fill byte in front of its marker. -/
def filledFile : List UInt8 := filledJpegWith [] 1 bareBlock bareBlock_fits []

/-- A fill byte hides the segment behind it: the TIFF block stands at 13, and no header is located. -/
theorem not_located_behind_fill : locateIn ⟨filledFile, 0⟩ = 0 ∧
    filledFile = jpegStart ++ [markerStart] ++ announcement 0x00 0x0C bareBlock ∧
    filledFile.drop 13 = bareBlock := by
  refine ⟨?_, rfl, rfl⟩
  have hfill : FilledSegment.fill ⟨1, .exif bareBlock bareBlock_fits⟩ ≠ 0 := Nat.one_ne_zero
  have hbytes : filledFile = jpegStart ++ (filledBytes [] ++
      (FilledSegment.bytes ⟨1, .exif bareBlock bareBlock_fits⟩ ++ [])) := rfl
  have hlong := FilledSegment.le_misread hfill (by decide : 2 ≤ app1.toNat)
  have hlength : filledFile.length = 17 := rfl
  -- what is read as a length leads beyond the end of the file
  have hbeyond : filledFile.length ≤ FilledSegment.resumption (2 + (filledBytes []).length)
      ⟨1, .exif bareBlock bareBlock_fits⟩ := by
    rw [hlength, FilledSegment.resumption]
    omega
  rw [locateIn_first_filled (List.forall_mem_nil _) (List.forall_mem_nil _) hfill hbytes,
    List.drop_eq_nil_of_le hbeyond]
  exact walk_eq_zero_of_length_lt (by decide)

end Exif.TiffHeader
