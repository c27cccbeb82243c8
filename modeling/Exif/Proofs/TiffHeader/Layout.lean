import Exif.Proofs.TiffHeader.Grammar

/-! JPEG files made of given segments with a TIFF block in one of them. The header is located right
before the block. -/

namespace Exif.TiffHeader

theorem declaredLength_computed {n : Nat} (h : n ≤ 65533) :
    declaredLength (.ofNat ((n + 2) / 256)) (.ofNat ((n + 2) % 256)) = n + 2 := by
  simp only [declaredLength, UInt8.toNat_ofNat']
  omega

theorem app1_goesOn : app1 ∉ endMarkers := by decide

theorem identified_length {block : List UInt8} (h : block.length ≤ 65527) :
    (identifier ++ block).length ≤ 65533 := by
  rw [List.length_append]
  exact Nat.add_le_add_left h 6

def Segment.ofPayload (marker : UInt8) (payload : List UInt8) (goesOn : marker ∉ endMarkers)
    (h : payload.length ≤ 65533) : Segment where
  marker := marker
  high := .ofNat ((payload.length + 2) / 256)
  low := .ofNat ((payload.length + 2) % 256)
  payload := payload
  goesOn := goesOn
  declared := declaredLength_computed h

def Segment.exif (block : List UInt8) (h : block.length ≤ 65527) : Segment :=
  .ofPayload app1 (identifier ++ block) app1_goesOn (identified_length h)

def jpegWith (segments : List Segment) (block : List UInt8) (h : block.length ≤ 65527)
    (rest : List UInt8) : List UInt8 :=
  jpegStart ++ joined segments ++ (Segment.exif block h).bytes ++ rest

/-- The identifier does not run from the end of a payload into the next marker. -/
theorem not_identifier_prefix {payload rest : List UInt8} (h : ¬ identifier <+: payload)
    (hrest : rest.head? = some markerStart) : ¬ identifier <+: payload ++ rest := by
  rintro ⟨tail, ht⟩
  rcases List.append_eq_append_iff.1 ht with ⟨more, hp, -⟩ | ⟨more, hid, hr⟩
  · exact h ⟨more, hp.symm⟩
  · cases more with
    | nil => exact h ⟨[], by simpa using hid⟩
    | cons b more =>
      obtain rfl : b = markerStart := by simpa [hr] using hrest
      have hmem : markerStart ∈ identifier := by rw [hid]; simp
      exact absurd hmem (by decide)

theorem head_joined (segments : List Segment) (rest : List UInt8)
    (h : rest.head? = some markerStart) : (joined segments ++ rest).head? = some markerStart := by
  cases segments with
  | nil => exact h
  | cons s ss => rfl

theorem walk_joined {segments : List Segment}
    (h : ∀ s ∈ segments, s.marker = app1 → ¬ identifier <+: s.payload) {rest : List UInt8}
    (hrest : rest.head? = some markerStart) (p : Nat) :
    walk p (joined segments ++ rest) = walk (p + (joined segments).length) rest := by
  induction segments generalizing p with
  | nil => rfl
  | cons s ss ih =>
    -- behind the payload a marker starts, of the next segment or of what follows them
    have hhead := head_joined ss rest hrest
    have hstep := walk_segment s p (joined ss ++ rest) fun hm =>
      not_identifier_prefix (h s (List.mem_cons_self ..) hm) hhead
    rw [joined_cons, List.append_assoc, hstep, ih fun t ht => h t (List.mem_cons_of_mem s ht),
      List.length_append, Nat.add_assoc]

theorem finds_block {segments : List Segment}
    (h : ∀ s ∈ segments, s.marker = app1 → ¬ identifier <+: s.payload) (p : Nat) (high low : UInt8)
    (rest : List UInt8) :
    Finds p (joined segments ++ announcement high low rest) (p + (joined segments).length + 10) := by
  refine walk_eq_iff.1 ⟨?_, Nat.succ_ne_zero _⟩
  rw [walk_joined h rfl]
  exact walk_here _ high low rest

theorem exif_bytes (block : List UInt8) (h : block.length ≤ 65527) :
    ∃ high low, (Segment.exif block h).bytes = announcement high low block :=
  ⟨(Segment.exif block h).high, (Segment.exif block h).low, (List.append_assoc ..).symm⟩

/-- The header is located right before the TIFF block. -/
theorem locate_jpegWith {segments : List Segment} {block : List UInt8} (hb : block.length ≤ 65527)
    (h : ∀ s ∈ segments, s.marker = app1 → ¬ identifier <+: s.payload) (rest : List UInt8) :
    ∃ before, jpegWith segments block hb rest = before ++ block ++ rest ∧
      before.length = 2 + (joined segments).length + 10 ∧
      locate (jpegWith segments block hb rest) = before.length := by
  obtain ⟨high, low, hbytes⟩ := exif_bytes block hb
  have hfile : jpegWith segments block hb rest =
      jpegStart ++ (joined segments ++ announcement high low (block ++ rest)) := by
    rw [jpegWith, hbytes]
    simp [announcement]
  have hlen : (jpegStart ++ joined segments ++ header app1 high low ++ identifier).length =
      2 + (joined segments).length + 10 := by
    simp only [List.length_append, header_length]
    rfl
  refine ⟨jpegStart ++ joined segments ++ header app1 high low ++ identifier, ?_, hlen, ?_⟩
  · rw [hfile]
    simp [announcement]
  · rw [hfile, locate_of_jpegStart (List.prefix_append _ _), hlen]
    exact walk_of_finds (finds_block h 2 high low (block ++ rest))

end Exif.TiffHeader
