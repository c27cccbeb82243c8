import Exif.Proofs.TiffHeader.Layout
import Exif.Proofs.TiffHeader.Prefix

/-! Whether the identifier in front of a located header lies in the segment that announces it. It is read
right behind the header of the segment, whatever length that declares. It lies in the segment exactly if
some segment of the file has an identifier in its payload, and always where the segment ends at a marker. -/

namespace Exif.TiffHeader

def Quiet (segments : List Segment) : Prop :=
  ∀ s ∈ segments, s.marker = app1 → ¬ identifier <+: s.payload

theorem Silent.quiet {segments : List Segment} {d : List UInt8}
    (h : Silent (joined segments ++ d) 0 segments) : Quiet segments := by
  induction segments with
  | nil => exact List.forall_mem_nil _
  | cons s ss ih =>
    rw [joined_cons, List.append_assoc] at h
    obtain ⟨hs, hss⟩ := (silent_cons_iff s ss _).1 h
    refine List.forall_mem_cons.2 ⟨fun hm hid => hs hm ?_, ih hss⟩
    exact hid.trans (List.prefix_append _ _)

/-- Behind a payload a marker starts, so the identifier is looked for in payloads only. -/
theorem locatedAt_iff_quiet {d : List UInt8} {n : Nat} :
    LocatedAt d n ↔ ∃ (segments : List Segment) (high low : UInt8) (rest : List UInt8),
      d = jpegStart ++ joined segments ++ announcement high low rest ∧
      n = 2 + (joined segments).length + 10 ∧ Quiet segments := by
  constructor
  · rintro ⟨segments, high, low, rest, hd, hn, hsilent⟩
    have hdrop : d.drop 2 = joined segments ++ announcement high low rest := by
      rw [hd, List.append_assoc]
      rfl
    exact ⟨segments, high, low, rest, hd, hn, ((silent_drop _ _ _ _ hdrop).1 hsilent).quiet⟩
  · rintro ⟨segments, high, low, rest, rfl, rfl, hquiet⟩
    rw [List.append_assoc]
    exact locatedAt_iff.2 ⟨List.prefix_append _ _, finds_block hquiet 2 high low rest⟩

/-- The first identifier in the payload of an APP1 segment ends at `n`. As in `LocatedAt`, segments lead
up to it, but here the length that the last header declares reaches over the identifier. -/
def CarriedAt (d : List UInt8) (n : Nat) : Prop :=
  ∃ (segments : List Segment) (high low : UInt8) (rest : List UInt8),
    d = jpegStart ++ joined segments ++ announcement high low rest ∧
    n = 2 + (joined segments).length + 10 ∧ Quiet segments ∧ 8 ≤ declaredLength high low

theorem CarriedAt.locatedAt {d : List UInt8} {n : Nat} (h : CarriedAt d n) : LocatedAt d n := by
  obtain ⟨segments, high, low, rest, hd, hn, hquiet, -⟩ := h
  exact locatedAt_iff_quiet.2 ⟨segments, high, low, rest, hd, hn, hquiet⟩

theorem drop_announced (segments : List Segment) (high low : UInt8) (rest : List UInt8) :
    (jpegStart ++ joined segments ++ announcement high low rest).drop (2 + (joined segments).length) =
      announcement high low rest := by
  have hlength : 2 + (joined segments).length = (jpegStart ++ joined segments).length := by
    rw [List.length_append]
    rfl
  rw [hlength, List.drop_left]

theorem announcement_inj {high low high' low' : UInt8} {rest rest' : List UInt8}
    (h : announcement high low rest = announcement high' low' rest') : high = high' ∧ low = low' := by
  simp only [announcement, header, List.cons_append, List.cons.injEq] at h
  exact ⟨h.2.2.1, h.2.2.2.1⟩

theorem replace_length (front : List UInt8) (high low high' low' : UInt8) (rest : List UInt8) :
    (front ++ announcement high low rest).take (front.length + 2) ++ [high', low'] ++
      (front ++ announcement high low rest).drop (front.length + 4) =
    front ++ announcement high' low' rest := by
  rw [List.take_length_add_append, List.drop_length_add_append, List.append_assoc, List.append_assoc]
  rfl

/-- No marker starts inside the identifier, nor in the length in front of it. -/
theorem declared_of_marker_behind {high low : UInt8} {rest : List UInt8}
    (h : ((announcement high low rest).drop (2 + declaredLength high low)).head? = some markerStart) :
    8 ≤ declaredLength high low := by
  by_contra hshort
  have hdrop : (announcement high low rest).drop (2 + declaredLength high low) =
      (high :: low :: (identifier ++ rest)).drop (declaredLength high low) := by
    rw [← List.drop_drop]
    rfl
  rw [hdrop] at h
  by_cases hlen : 2 ≤ declaredLength high low
  · have hin : declaredLength high low - 2 < identifier.length := by
      simp only [identifier, List.length_cons, List.length_nil]
      omega
    rw [drop_declared hlen, List.drop_append_of_le_length (Nat.le_of_lt hin),
      List.drop_eq_getElem_cons hin, List.cons_append, List.head?_cons, Option.some.injEq] at h
    have hmem : markerStart ∈ identifier := h ▸ List.getElem_mem hin
    exact absurd hmem (by decide)
  · exact head_of_short (Nat.lt_of_not_le hlen) h

theorem identifier_within_iff (k : Nat) (rest : List UInt8) :
    identifier <+: (identifier ++ rest).take (k - 2) ↔ 8 ≤ k := by
  rw [List.prefix_take_iff, and_iff_right (List.prefix_append _ _)]
  simp only [identifier, List.length_cons, List.length_nil]
  omega

theorem LocatedAt.exists_carriedAt_iff {d : List UInt8} {n : Nat} (h : LocatedAt d n) {high low : UInt8}
    {rest : List UInt8} (hdrop : d.drop (n - 10) = announcement high low rest) :
    (∃ m, CarriedAt d m) ↔ 8 ≤ declaredLength high low := by
  constructor
  · rintro ⟨m, hm⟩
    obtain rfl := hm.locatedAt.unique h
    obtain ⟨segments, high', low', rest', rfl, rfl, -, hlength⟩ := hm
    rw [Nat.add_sub_cancel, drop_announced] at hdrop
    obtain ⟨rfl, rfl⟩ := announcement_inj hdrop
    exact hlength
  · intro hlength
    obtain ⟨segments, high', low', rest', rfl, rfl, hquiet⟩ := locatedAt_iff_quiet.1 h
    rw [Nat.add_sub_cancel, drop_announced] at hdrop
    obtain ⟨rfl, rfl⟩ := announcement_inj hdrop
    exact ⟨_, segments, high', low', rest', rfl, rfl, hquiet, hlength⟩

/-- The segment in which a header is located holds the identifier exactly if it declares at least eight
bytes, and exactly if a segment of the file carries one. It does wherever a marker starts behind it. The
two bytes of the length can be any others, and the header is located in the same place. -/
theorem identifier_in_segment_iff {f : OpenFile} {n : Nat} (h : locateIn f = n) (hn : n ≠ 0) :
    ∃ (high low : UInt8) (rest : List UInt8), f.bytes.drop (n - 10) = announcement high low rest ∧
      (identifier <+: (identifier ++ rest).take (declaredLength high low - 2) ↔
        8 ≤ declaredLength high low) ∧
      ((∃ m, CarriedAt f.bytes m) ↔ 8 ≤ declaredLength high low) ∧
      ((f.bytes.drop (n - 8 + declaredLength high low)).head? = some markerStart →
        8 ≤ declaredLength high low) ∧
      ∀ (g : OpenFile) (high' low' : UInt8),
        g.bytes = f.bytes.take (n - 8) ++ [high', low'] ++ f.bytes.drop (n - 6) → locateIn g = n := by
  have hlocated := locatedAt_of_locateIn h hn
  obtain ⟨segments, high, low, rest, hd, hend, hquiet⟩ := locatedAt_iff_quiet.1 hlocated
  have hdrop : f.bytes.drop (n - 10) = announcement high low rest := by
    rw [hd, hend, Nat.add_sub_cancel, drop_announced]
  refine ⟨high, low, rest, hdrop, identifier_within_iff _ _, hlocated.exists_carriedAt_iff hdrop, ?_, ?_⟩
  · intro hmarker
    have hbehind : (announcement high low rest).drop (2 + declaredLength high low) =
        f.bytes.drop (n - 8 + declaredLength high low) := by
      rw [← hdrop, List.drop_drop]
      congr 1
      omega
    rw [← hbehind] at hmarker
    exact declared_of_marker_behind hmarker
  · intro g high' low' hg
    refine locateIn_of_locatedAt (locatedAt_iff_quiet.2 ⟨segments, high', low', rest, ?_, hend, hquiet⟩)
    rw [hg, hd, ← replace_length _ high low high' low' rest, List.length_append, hend]
    rfl

theorem identifier_in_segment_iff_jfif : locateIn ⟨jfifFile, 0⟩ = 18 ∧ (∃ m, CarriedAt jfifFile m) ∧
    locateIn ⟨jfifFile.take 10 ++ [0x00, 0x00] ++ jfifFile.drop 12, 0⟩ = 18 := by
  have hjfif := locateIn_jfifFile 0
  have hdrop : jfifFile.drop (18 - 10) = announcement 0x00 0x0C (bareBlock ++ [0xFF, 0xD9]) := rfl
  obtain ⟨high, low, rest, hannounced, -, hcarried, -, hany⟩ :=
    identifier_in_segment_iff hjfif (by decide)
  obtain ⟨rfl, rfl⟩ := announcement_inj (hannounced.symm.trans hdrop)
  exact ⟨hjfif, hcarried.2 (by decide), hany _ 0x00 0x00 rfl⟩

/-- A file whose only segment declares no payload, with an identifier behind it. -/
def cutShortFile : List UInt8 := jpegStart ++ announcement 0x00 0x02 []

/-- The identifier of a located header may lie behind the segment that announces it. -/
theorem identifier_behind_segment : locateIn ⟨cutShortFile, 0⟩ = 12 ∧
    cutShortFile.drop (12 - 10) = announcement 0x00 0x02 [] ∧ declaredLength 0x00 0x02 = 2 ∧
    ¬ ∃ m, CarriedAt cutShortFile m := by
  have hlocated : LocatedAt cutShortFile 12 := ⟨[], 0x00, 0x02, [], rfl, rfl, silent_nil _ _⟩
  refine ⟨locateIn_of_locatedAt hlocated, rfl, rfl, fun hcarried => ?_⟩
  have hlength := (hlocated.exists_carriedAt_iff rfl).1 hcarried
  exact absurd hlength (by decide)

end Exif.TiffHeader
