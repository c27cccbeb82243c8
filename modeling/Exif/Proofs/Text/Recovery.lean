import Exif.Proofs.Text.Padding

/-! Cleaning takes nothing off a text but its padding, and gives every clean text back that was padded.
Nothing is left exactly of the texts that are all padding. -/

namespace Exif.Text

variable {cs : List Char} {s t : String}

/-- What fills up the end of a text: blanks, then NULs, then blanks. -/
def IsFilling (cs : List Char) : Prop :=
  ∃ blanks nuls rest, cs = blanks ++ nuls ++ rest ∧ (∀ c ∈ blanks, isBlank c = true) ∧
    (∀ c ∈ nuls, isNul c = true) ∧ ∀ c ∈ rest, isBlank c = true

/-- Blanks in front of `t` and a filling behind it make up `s`. -/
def InPadding (s t : String) : Prop :=
  ∃ lead fill, s.toList = lead ++ t.toList ++ fill ∧ (∀ c ∈ lead, isBlank c = true) ∧ IsFilling fill

theorem inPadding_iff : InPadding s t ↔ Nonempty (Padding s.toList t.toList) := by
  constructor
  · rintro ⟨lead, _, hs, hlead, blanks, nuls, rest, rfl, hblanks, hnuls, hrest⟩
    exact ⟨lead, blanks, nuls, rest, by simpa only [List.append_assoc] using hs,
      hlead, hblanks, hnuls, hrest⟩
  · rintro ⟨lead, blanks, nuls, rest, hs, hlead, hblanks, hnuls, hrest⟩
    exact ⟨lead, blanks ++ nuls ++ rest, by simpa only [List.append_assoc] using hs, hlead,
      blanks, nuls, rest, rfl, hblanks, hnuls, hrest⟩

theorem IsFilling.inPadding_empty (h : IsFilling s.toList) : InPadding s "" :=
  ⟨[], s.toList, rfl, List.forall_mem_nil _, h⟩

/-- NULs have no blank at their ends. -/
theorem trimmed_of_isNul (h : ∀ c ∈ cs, isNul c = true) : Trimmed isBlank cs where
  head c hc := isBlank_of_isNul (h c (List.mem_of_head? hc))
  last c hc := isBlank_of_isNul (h c (List.mem_of_getLast? hc))

theorem cleanChars_eq_nil_iff : cleanChars cs = [] ↔ IsFilling cs := by
  constructor
  · intro h
    obtain ⟨xs, hxs⟩ : ∃ xs, trim isBlank cs = xs := ⟨_, rfl⟩
    obtain ⟨ys, hys⟩ : ∃ ys, trimEnd isNul xs = ys := ⟨_, rfl⟩
    rw [cleanChars, hxs, hys] at h
    obtain ⟨lead, rest, rfl, hlead, hrest, -⟩ := trim_eq_iff.1 hxs
    obtain ⟨nuls, rfl, hnuls, -⟩ := trimEnd_eq_iff.1 hys
    -- the last pass leaves nothing, so all that it came to was blank
    obtain ⟨lead', tail, rfl, hlead', htail, -⟩ := trim_eq_iff.1 h
    rw [List.append_nil]
    exact ⟨lead ++ (lead' ++ tail), nuls, rest, by simp only [List.append_assoc],
      List.forall_mem_append.2 ⟨hlead, List.forall_mem_append.2 ⟨hlead', htail⟩⟩, hnuls, hrest⟩
  · rintro ⟨blanks, nuls, rest, rfl, hblanks, hnuls, hrest⟩
    have hfirst : trim isBlank (blanks ++ nuls ++ rest) = nuls :=
      trim_eq_iff.2 ⟨blanks, rest, rfl, hblanks, hrest, trimmed_of_isNul hnuls⟩
    have hsecond : trimEnd isNul nuls = [] :=
      trimEnd_eq_iff.2 ⟨nuls, rfl, hnuls, not_endsInNul.1 fun hends => hends.ne_nil rfl⟩
    rw [cleanChars, hfirst, hsecond]
    rfl

theorem clean_eq_none_iff : clean s = none ↔ IsFilling s.toList := by
  rw [← cleanChars_eq_nil_iff, clean]
  cases cleanChars s.toList with
  | nil => exact iff_of_true rfl rfl
  | cons c cs => exact iff_of_false (Option.some_ne_none _) (List.cons_ne_nil c cs)

/-- A text stands in padding around what cleaning leaves of it. -/
theorem inPadding_clean (s : String) :
    InPadding s ((clean s).getD "") ∧ Trimmed isBlank ((clean s).getD "").toList := by
  cases h : clean s with
  | none =>
    exact ⟨(clean_eq_none_iff.1 h).inPadding_empty, trimmed_of_isNul (List.forall_mem_nil _)⟩
  | some t =>
    obtain ⟨-, htrimmed, pad, -⟩ := clean_eq_some_iff.1 h
    exact ⟨inPadding_iff.2 ⟨pad⟩, htrimmed⟩

theorem clean_of_inPadding (ht : IsClean t) (h : InPadding s t) : clean s = some t := by
  obtain ⟨pad⟩ := inPadding_iff.1 h
  exact clean_eq_some_iff.2 ⟨ht.ne_empty, ht.trimmed, pad, fun hends => absurd hends ht.not_endsInNul⟩

/-- Cleaning takes off padding only, and all blanks at the ends. It leaves nothing exactly of a text
that is a filling, and it leaves a given clean text, whatever stands inside it, exactly of the texts
in which that one is padded. -/
theorem clean_takes_off_padding (s : String) :
    InPadding s ((clean s).getD "") ∧ Trimmed isBlank ((clean s).getD "").toList ∧
      (clean s = none ↔ IsFilling s.toList) ∧
      ∀ t, IsClean t → (clean s = some t ↔ InPadding s t) := by
  obtain ⟨hpadding, htrimmed⟩ := inPadding_clean s
  refine ⟨hpadding, htrimmed, clean_eq_none_iff, fun t ht => ⟨fun h => ?_, clean_of_inPadding ht⟩⟩
  rw [h] at hpadding
  exact hpadding

/-- A serial number that starts with a NUL and has a NUL and a blank inside. -/
def serialNumber : String := String.ofList [Char.ofNat 0, '4', Char.ofNat 0, ' ', '2']

/-- The number behind a blank, filled up with a blank, two NULs and a blank. -/
def paddedSerialNumber : String :=
  " " ++ serialNumber ++ String.ofList [' ', Char.ofNat 0, Char.ofNat 0, ' ']

theorem isClean_serialNumber : IsClean serialNumber := by
  have hchars : serialNumber.toList = [Char.ofNat 0, '4', Char.ofNat 0, ' ', '2'] := String.toList_ofList
  refine ⟨mt String.ofList_eq_empty_iff.1 (List.cons_ne_nil _ _), ⟨fun c hc => ?_, fun c hc => ?_⟩,
    not_endsInNul.2 fun c hc => ?_⟩ <;> rw [hchars] at hc <;> obtain rfl := Option.some.inj hc
  · rfl
  · rfl
  · rfl

theorem clean_takes_off_padding_serialNumber : IsClean serialNumber ∧
    InPadding paddedSerialNumber serialNumber ∧ clean paddedSerialNumber = some serialNumber := by
  have hblank : ∀ c ∈ [' '], isBlank c = true := List.all_eq_true.1 rfl
  have hnuls : ∀ c ∈ [Char.ofNat 0, Char.ofNat 0], isNul c = true := List.all_eq_true.1 rfl
  have hpadding : InPadding paddedSerialNumber serialNumber :=
    ⟨[' '], [' ', Char.ofNat 0, Char.ofNat 0, ' '], by decide +kernel, hblank,
      [' '], [Char.ofNat 0, Char.ofNat 0], [' '], rfl, hblank, hnuls, hblank⟩
  exact ⟨isClean_serialNumber, hpadding, ((clean_takes_off_padding paddedSerialNumber).2.2.2
    serialNumber isClean_serialNumber).2 hpadding⟩

end Exif.Text
