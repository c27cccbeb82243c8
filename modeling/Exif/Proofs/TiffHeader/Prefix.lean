import Exif.Proofs.TiffHeader.Layout

/-! The beginning of a file that ends with the identifier decides where the header is located. Other
bytes may follow it, and without its last byte no header is located at all. -/

namespace Exif.TiffHeader

theorem Finds.le {p n : Nat} {d : List UInt8} (h : Finds p d n) : n ≤ p + d.length := by
  induction h with
  | here p high low rest =>
    simp only [List.length_append, header_length]
    omega
  | skip s _ _ ih =>
    rw [List.length_append]
    omega

/-- What stands behind the identifier may be anything. -/
theorem Finds.take_append {p n : Nat} {d : List UInt8} (h : Finds p d n) (rest : List UInt8) :
    Finds p (d.take (n - p) ++ rest) n := by
  induction h with
  | here p high low tail =>
    have hlength : p + headerSize + identifier.length - p = (header app1 high low ++ identifier).length := by
      rw [List.length_append, header_length]
      omega
    rw [hlength, List.take_left]
    exact Finds.here p high low rest
  | @skip s p n d hs hf ih =>
    have hge := hf.ge
    have hle := hf.le
    have htake : (s.bytes ++ d).take (n - p) = s.bytes ++ d.take (n - (p + s.bytes.length)) := by
      rw [List.take_append, List.take_of_length_le (by omega), Nat.sub_sub]
    rw [htake, List.append_assoc]
    refine Finds.skip s (fun hm hid => hs hm ?_) ih
    -- the identifier is shorter than what is kept behind the segment
    have hkept : identifier.length ≤ (s.payload ++ d.take (n - (p + s.bytes.length))).length := by
      rw [List.length_append, List.length_take]
      omega
    rw [← List.append_assoc] at hid
    have hwithin := List.prefix_of_prefix_length_le hid (List.prefix_append _ _) hkept
    exact hwithin.trans ((List.prefix_append_right_inj _).2 (List.take_prefix _ _))

theorem LocatedAt.bounds {d : List UInt8} {n : Nat} (h : LocatedAt d n) : 12 ≤ n ∧ n ≤ d.length := by
  obtain ⟨⟨tail, rfl⟩, hf⟩ := locatedAt_iff.1 h
  have hge := hf.ge
  have hle := hf.le
  rw [List.length_drop] at hle
  have hstart : (jpegStart ++ tail).length = tail.length + 2 := rfl
  simp only [headerSize, identifier, List.length_cons, List.length_nil] at hge
  omega

/-- In front of the position where the header is located stands the announcement of it. -/
theorem LocatedAt.announced {d : List UInt8} {n : Nat} (h : LocatedAt d n) :
    ∃ front high low rest, d = front ++ announcement high low rest ∧ n = front.length + 10 := by
  obtain ⟨segments, high, low, rest, hd, hn, -⟩ := h
  exact ⟨jpegStart ++ joined segments, high, low, rest, hd, by rw [hn, List.length_append]; rfl⟩

theorem LocatedAt.identified {d : List UInt8} {n : Nat} (h : LocatedAt d n) :
    (d.drop (n - 6)).take 6 = identifier := by
  obtain ⟨front, high, low, rest, rfl, rfl⟩ := h.announced
  have hdrop : front.length + 10 - 6 = front.length + 4 := rfl
  rw [hdrop, ← List.drop_drop, List.drop_left]
  rfl

theorem LocatedAt.of_take_eq {d e : List UInt8} {n : Nat} (h : LocatedAt d n)
    (he : e.take n = d.take n) : LocatedAt e n := by
  obtain ⟨hlow, -⟩ := h.bounds
  obtain ⟨⟨tail, rfl⟩, hf⟩ := locatedAt_iff.1 h
  obtain ⟨k, rfl⟩ := Nat.exists_eq_add_of_le' (Nat.le_trans (by decide : 2 ≤ 12) hlow)
  have htake : (jpegStart ++ tail).take (k + 2) = jpegStart ++ tail.take k := rfl
  have hsplit : e = jpegStart ++ (tail.take k ++ e.drop (k + 2)) := by
    rw [← List.append_assoc, ← htake, ← he, List.take_append_drop]
  rw [hsplit]
  exact locatedAt_iff.2 ⟨List.prefix_append _ _, hf.take_append _⟩

theorem LocatedAt.unique {d : List UInt8} {m n : Nat} (hm : LocatedAt d m) (hn : LocatedAt d n) : m = n :=
  (locate_eq_iff.2 hm).1.symm.trans (locate_eq_iff.2 hn).1

theorem locatedAt_of_locateIn {f : OpenFile} {n : Nat} (h : locateIn f = n) (hn : n ≠ 0) :
    LocatedAt f.bytes n :=
  locate_eq_iff.1 ⟨(locateIn_eq f).symm.trans h, hn⟩

theorem locateIn_of_locatedAt {f : OpenFile} {n : Nat} (h : LocatedAt f.bytes n) : locateIn f = n :=
  (locateIn_eq f).trans (locate_eq_iff.2 h).1

/-- A file that is cut off before the end of the identifier has no located header. What would be located
in it would be located in the whole file as well, since the same bytes decide it. -/
theorem locateIn_of_cut {f g : OpenFile} {n : Nat} (h : LocatedAt f.bytes n)
    (hg : g.bytes <+: f.bytes) (hlt : g.bytes.length < n) : locateIn g = 0 := by
  by_contra hne
  have hcut := locatedAt_of_locateIn rfl hne
  have hle := hcut.bounds.2
  have htake : f.bytes.take (locateIn g) = g.bytes.take (locateIn g) := by
    obtain ⟨rest, hrest⟩ := hg
    rw [← hrest, List.take_append_of_le_length hle]
  have hsame := (hcut.of_take_eq htake).unique h
  omega

/-- A located header stands right behind an identifier in the file. The bytes up to there decide where it
is located: other bytes may follow or none, and where one of those is missing no header is located. -/
theorem locateIn_decided_by_beginning {f : OpenFile} {n : Nat} (h : locateIn f = n) (hn : n ≠ 0) :
    12 ≤ n ∧ n ≤ f.bytes.length ∧ (f.bytes.drop (n - 6)).take 6 = identifier ∧
      (∀ g : OpenFile, g.bytes.take n = f.bytes.take n → locateIn g = n) ∧
      ∀ g : OpenFile, g.bytes <+: f.bytes → locateIn g = if g.bytes.length < n then 0 else n := by
  have hlocated := locatedAt_of_locateIn h hn
  obtain ⟨hlow, hhigh⟩ := hlocated.bounds
  have hagree : ∀ g : OpenFile, g.bytes.take n = f.bytes.take n → locateIn g = n :=
    fun g hg => locateIn_of_locatedAt (hlocated.of_take_eq hg)
  refine ⟨hlow, hhigh, hlocated.identified, hagree, fun g hg => ?_⟩
  split
  next hlt => exact locateIn_of_cut hlocated hg hlt
  next hge =>
    refine hagree g ?_
    obtain ⟨rest, hrest⟩ := hg
    rw [← hrest, List.take_append_of_le_length (Nat.le_of_not_lt hge)]

def app0 : UInt8 := 0xE0

theorem app0_goesOn : app0 ∉ endMarkers := by decide

def jfifSegment : Segment :=
  .ofPayload app0 [0x4A, 0x46] app0_goesOn (Nat.le_add_left 2 65531)

def bareBlock : List UInt8 := [0x49, 0x49, 0x2A, 0x00]

theorem bareBlock_fits : bareBlock.length ≤ 65527 := Nat.le_add_left 4 65523

def jfifFile : List UInt8 := jpegWith [jfifSegment] bareBlock bareBlock_fits [0xFF, 0xD9]

theorem locateIn_jfifFile (position : Nat) : locateIn ⟨jfifFile, position⟩ = 18 := by
  have hquiet : ∀ s ∈ [jfifSegment], s.marker = app1 → ¬ identifier <+: s.payload := by decide
  obtain ⟨before, -, hlength, hlocate⟩ := locate_jpegWith bareBlock_fits hquiet [0xFF, 0xD9]
  exact (locateIn_eq _).trans (hlocate.trans hlength)

theorem locateIn_decided_by_beginning_jfif : locateIn ⟨jfifFile, 5⟩ = 18 ∧
    locateIn ⟨jfifFile.take 18, 0⟩ = 18 ∧ locateIn ⟨jfifFile.take 17, 0⟩ = 0 := by
  have hwhole := locateIn_jfifFile 5
  obtain ⟨-, -, -, hagree, hcut⟩ := locateIn_decided_by_beginning hwhole (by decide)
  exact ⟨hwhole, hagree ⟨jfifFile.take 18, 0⟩ rfl,
    hcut ⟨jfifFile.take 17, 0⟩ (List.take_prefix _ _)⟩

end Exif.TiffHeader
