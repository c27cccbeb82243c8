import Exif.TiffHeader
import Mathlib.Tactic.Common

/-! The walk over the segments of a JPEG file finds a position exactly if well-formed segments lead
up to it. `Finds` derives a position segment by segment; `finds_iff` is its closed form, a list of
segments laid end to end. -/

namespace Exif.TiffHeader

/-- A segment after which metadata may follow, with as many bytes as it declares. -/
structure Segment where
  marker : UInt8
  high : UInt8
  low : UInt8
  payload : List UInt8
  goesOn : marker ∉ endMarkers
  declared : declaredLength high low = payload.length + 2

def header (marker high low : UInt8) : List UInt8 := [markerStart, marker, high, low]

def Segment.bytes (s : Segment) : List UInt8 := header s.marker s.high s.low ++ s.payload

def joined (segments : List Segment) : List UInt8 := segments.flatMap Segment.bytes

@[simp] theorem joined_nil : joined [] = [] := rfl

@[simp] theorem joined_cons (s : Segment) (ss : List Segment) :
    joined (s :: ss) = s.bytes ++ joined ss := rfl

@[simp] theorem header_length (m h l : UInt8) : (header m h l).length = headerSize := rfl

theorem Segment.bytes_length (s : Segment) : s.bytes.length = headerSize + s.payload.length := by
  simp [Segment.bytes]

/-- From position `p` on, where the bytes `d` stand, the walk goes over segments that announce
nothing, up to an APP1 header that the identifier follows; `n` is the position after it. -/
inductive Finds : Nat → List UInt8 → Nat → Prop
  | here (p : Nat) (high low : UInt8) (rest : List UInt8) :
      Finds p (header app1 high low ++ identifier ++ rest) (p + headerSize + identifier.length)
  | skip (s : Segment) {p n : Nat} {d : List UInt8} :
      (s.marker = app1 → ¬ identifier <+: s.payload ++ d) →
      Finds (p + s.bytes.length) d n → Finds p (s.bytes ++ d) n

theorem Finds.head {p n : Nat} {d : List UInt8} (h : Finds p d n) : d.head? = some markerStart := by
  cases h <;> rfl

theorem Finds.ge {p n : Nat} {d : List UInt8} (h : Finds p d n) :
    p + headerSize + identifier.length ≤ n := by
  induction h with
  | here => exact Nat.le_refl _
  | skip s _ _ ih => omega

/-! ## The walk -/

theorem walk_here (p : Nat) (high low : UInt8) (rest : List UInt8) :
    walk p (header app1 high low ++ identifier ++ rest) = p + headerSize + identifier.length := by
  have hp : identifier.isPrefixOf (identifier ++ rest) = true :=
    List.isPrefixOf_iff_prefix.2 (List.prefix_append _ _)
  simp only [header, List.cons_append, List.nil_append]
  rw [walk, if_neg (by decide), if_pos ⟨rfl, hp⟩]
  rfl

theorem walk_segment (s : Segment) (p : Nat) (d : List UInt8)
    (h : s.marker = app1 → ¬ identifier <+: s.payload ++ d) :
    walk p (s.bytes ++ d) = walk (p + s.bytes.length) d := by
  have hgo := s.goesOn
  have hd := s.declared
  have hdrop : (s.high :: s.low :: (s.payload ++ d)).drop (s.payload.length + 2) = d := by simp
  rw [Segment.bytes_length]
  simp only [Segment.bytes, header, List.cons_append, List.nil_append]
  rw [walk, if_neg (by simp [hgo]), if_neg (by simpa using h), hd, hdrop]
  congr 1
  simp only [headerSize]
  omega

theorem walk_of_finds {p n : Nat} {d : List UInt8} (h : Finds p d n) : walk p d = n := by
  induction h with
  | here p high low rest => exact walk_here p high low rest
  | skip s hs _ ih => rw [walk_segment s _ _ hs, ih]

/-- A length of 0 or 1 leads the walk back into the length itself, where no marker starts. -/
theorem head_of_short {high low : UInt8} {rest : List UInt8} (h : declaredLength high low < 2) :
    ((high :: low :: rest).drop (declaredLength high low)).head? ≠ some markerStart := by
  have hh : high.toNat = 0 := by simp only [declaredLength] at h; omega
  have hl : low.toNat < 2 := by simp only [declaredLength] at h; omega
  have hd : declaredLength high low = low.toNat := by simp [declaredLength, hh]
  have hm : markerStart.toNat = 255 := rfl
  rw [hd]
  rcases Nat.lt_succ_iff_lt_or_eq.1 hl with h0 | h1
  · rw [Nat.lt_one_iff.1 h0]
    simp only [List.drop_zero, List.head?_cons, ne_eq, Option.some.injEq]
    rintro rfl
    omega
  · rw [h1]
    simp only [List.drop_succ_cons, List.drop_zero, List.head?_cons, ne_eq, Option.some.injEq]
    rintro rfl
    omega

def Segment.ofHeader (marker high low : UInt8) (rest : List UInt8) (goesOn : marker ∉ endMarkers)
    (hlen : 2 ≤ declaredLength high low) (hrest : declaredLength high low - 2 ≤ rest.length) :
    Segment where
  marker := marker
  high := high
  low := low
  payload := rest.take (declaredLength high low - 2)
  goesOn := goesOn
  declared := by rw [List.length_take_of_le hrest]; omega

theorem drop_declared {high low : UInt8} {rest : List UInt8} (hlen : 2 ≤ declaredLength high low) :
    (high :: low :: rest).drop (declaredLength high low) = rest.drop (declaredLength high low - 2) := by
  obtain ⟨k, hk⟩ := Nat.exists_eq_add_of_le' hlen
  rw [hk, Nat.add_sub_cancel, List.drop_succ_cons, List.drop_succ_cons]

theorem finds_of_walk {p n : Nat} {d : List UInt8} (hn : n ≠ 0) (h : walk p d = n) : Finds p d n := by
  fun_induction walk p d with
  | case1 => exact absurd h.symm hn
  | case2 p start marker high low rest hgo hid =>
    obtain ⟨rfl, hid⟩ := hid
    obtain ⟨tail, rfl⟩ := List.isPrefixOf_iff_prefix.1 hid
    obtain rfl : start = markerStart := by simpa using fun hs => hgo (Or.inl hs)
    subst h
    exact Finds.here p high low tail
  | case3 p start marker high low rest hgo hid ih =>
    obtain rfl : start = markerStart := by simpa using fun hs => hgo (Or.inl hs)
    have hf := ih h
    -- a marker starts where the walk goes on, so the length is neither short nor beyond the end
    have hlen : 2 ≤ declaredLength high low := by
      by_contra hlt
      exact head_of_short (by omega) hf.head
    rw [drop_declared hlen] at hf
    have hrest : declaredLength high low - 2 ≤ rest.length := by
      by_contra hgt
      have := hf.head
      rw [List.drop_eq_nil_of_le (by omega)] at this
      exact absurd this (by simp)
    let s := Segment.ofHeader marker high low rest (fun hm => hgo (Or.inr hm)) hlen hrest
    have hlength : p + 2 + declaredLength high low = p + s.bytes.length := by
      simp only [Segment.bytes_length, s, Segment.ofHeader, headerSize, List.length_take_of_le hrest]
      omega
    have hsplit : s.payload ++ rest.drop (declaredLength high low - 2) = rest :=
      List.take_append_drop _ _
    have hbytes : s.bytes ++ rest.drop (declaredLength high low - 2) =
        markerStart :: marker :: high :: low :: rest := by
      rw [Segment.bytes, List.append_assoc, hsplit]
      rfl
    rw [hlength] at hf
    rw [← hbytes]
    refine Finds.skip s (fun hm hpre => hid ⟨hm, ?_⟩) hf
    rw [hsplit] at hpre
    exact List.isPrefixOf_iff_prefix.2 hpre
  | case4 => exact absurd h.symm hn

theorem walk_eq_iff {p n : Nat} {d : List UInt8} : walk p d = n ∧ n ≠ 0 ↔ Finds p d n :=
  ⟨fun h => finds_of_walk h.2 h.1, fun h => ⟨walk_of_finds h, by
    have := h.ge
    simp only [headerSize] at this
    omega⟩⟩

/-! ## The search in an open file -/

theorem take_eq_iff_prefix {xs ys : List UInt8} : ys.take xs.length = xs ↔ xs <+: ys :=
  ⟨fun h => by rw [← h]; exact List.take_prefix _ _, fun h => (List.prefix_iff_eq_take.1 h).symm⟩

theorem header_of_read {f behind : OpenFile} {p : Nat} {a b c d : UInt8}
    (h : (f.seek p).read headerSize = ([a, b, c, d], behind)) :
    f.bytes.drop p = a :: b :: c :: d :: f.bytes.drop (p + headerSize) ∧
      behind = f.seek (p + headerSize) := by
  have h1 : (f.bytes.drop p).take headerSize = [a, b, c, d] := congrArg Prod.fst h
  have h2 : f.seek (p + ((f.bytes.drop p).take headerSize).length) = behind := congrArg Prod.snd h
  rw [h1] at h2
  refine ⟨?_, h2.symm⟩
  rw [← List.take_append_drop headerSize (f.bytes.drop p), h1, List.drop_drop]
  rfl

theorem exists_four_of_le {d : List UInt8} (h : headerSize ≤ d.length) :
    ∃ start marker high low rest, d = start :: marker :: high :: low :: rest := by
  match d, h with
  | start :: marker :: high :: low :: rest, _ => exact ⟨start, marker, high, low, rest, rfl⟩

theorem walk_eq_zero_of_length_lt {p : Nat} {d : List UInt8} (h : d.length < headerSize) :
    walk p d = 0 := by
  match d, h with
  | [], _ | [_], _ | [_, _], _ | [_, _, _], _ => simp [walk]

theorem search_eq_walk (f : OpenFile) (p : Nat) : search f p = walk p (f.bytes.drop p) := by
  fun_induction search f p with
  | case1 p start marker high low behind h hend =>
    rw [(header_of_read h).1, walk, if_pos hend]
  | case2 p start marker high low behind h hend hid =>
    obtain ⟨hd, rfl⟩ := header_of_read h
    rw [OpenFile.read, OpenFile.seek, take_eq_iff_prefix] at hid
    rw [hd, walk, if_neg hend, if_pos (by simpa using hid)]
    rfl
  | case3 p start marker high low behind h hend hid ih =>
    obtain ⟨hd, rfl⟩ := header_of_read h
    rw [OpenFile.read, OpenFile.seek, take_eq_iff_prefix] at hid
    have hdrop : f.bytes.drop (p + 2) = high :: low :: f.bytes.drop (p + headerSize) := by
      rw [← List.drop_drop, hd]
      rfl
    rw [hd, walk, if_neg hend, if_neg (by simpa using hid), ih, ← hdrop, List.drop_drop]
  | case4 p h =>
    refine (walk_eq_zero_of_length_lt ?_).symm
    by_contra hlen
    obtain ⟨a, b, c, d, rest, hd⟩ := exists_four_of_le (Nat.le_of_not_lt hlen)
    refine h a b c d (f.seek (p + headerSize)) ?_
    have htake : (f.bytes.drop p).take headerSize = [a, b, c, d] := by rw [hd]; rfl
    exact Prod.ext htake (by rw [OpenFile.read_seek_snd, htake]; rfl)

/-- Reading through an open file finds what the walk over its bytes finds. -/
theorem locateIn_eq (f : OpenFile) : locateIn f = locate f.bytes := by
  have hstart : ((f.bytes.take headerSize).take jpegStart.length = jpegStart) =
      (jpegStart.isPrefixOf f.bytes = true) := by
    rw [List.take_take, List.isPrefixOf_iff_prefix, ← take_eq_iff_prefix]
    rfl
  simp only [locateIn, locate, OpenFile.read_seek_fst, List.drop_zero, hstart, search_eq_walk]
  rfl

end Exif.TiffHeader
