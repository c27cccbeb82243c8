import Exif.Text.LowerCase
import Mathlib

/-! The lower case of a text is an ASCII word only if the text is that word itself, in capital or small
ASCII letters: other characters become characters beyond ASCII. The one exception is the Kelvin sign. It
becomes a `k`, so words with a `k` are left out. -/

namespace Exif.Text

/-- ASCII, and not the letter that a character beyond ASCII becomes. -/
def isPlainAscii (c : Char) : Bool := c.toNat < 128 && c != 'k'

theorem isPlainAscii_eq_false {c : Char} (h : 128 ≤ c.toNat) : isPlainAscii c = false := by
  rw [isPlainAscii, decide_eq_false (Nat.not_lt.2 h), Bool.false_and]

/-! ## The table -/

theorem mem_of_lookup {α β : Type} [BEq α] [LawfulBEq α] {l : List (α × β)} {k : α} {v : β}
    (h : l.lookup k = some v) : (k, v) ∈ l := by
  obtain ⟨before, after, rfl, -⟩ := List.lookup_eq_some_iff.1 h
  simp

theorem CaseRun.covers_iff {r : CaseRun} {n : Nat} :
    r.covers n = true ↔ r.first ≤ n ∧ n ≤ r.last ∧ (n - r.first) % r.step = 0 := by
  simp [covers, and_assoc]

def CaseRun.StaysBeyond (r : CaseRun) : Prop :=
  128 ≤ r.first + r.shift ∧
    (r.last + r.shift < 0xD800 ∨ 0xDFFF < r.first + r.shift ∧ r.last + r.shift < 0x110000)

instance (r : CaseRun) : Decidable r.StaysBeyond := inferInstanceAs (Decidable (_ ∧ _))

/-- A run beyond ASCII leads to characters beyond ASCII, or to a `k` alone. -/
theorem lowerRuns_beyond : ∀ r ∈ lowerRuns,
    r.last < 128 ∨ r.StaysBeyond ∨ r.first = r.last ∧ r.first + r.shift = 'k'.toNat := by
  decide +kernel

theorem lower_upTo_ascii : ∀ n < 128, lowerTable.char (Char.ofNat n) = [(Char.ofNat n).toLower] := by
  decide +kernel

theorem lower_of_ascii {c : Char} (h : c.toNat < 128) : lowerTable.char c = [c.toLower] := by
  have hc := lower_upTo_ascii c.toNat h
  rw [Char.ofNat_toNat] at hc
  exact hc

theorem CaseRun.StaysBeyond.not_plain {r : CaseRun} (h : r.StaysBeyond) {n : Nat} (hn : r.covers n = true) :
    isPlainAscii (Char.ofNat (n + r.shift).toNat) = false := by
  obtain ⟨hfirst, hlast, -⟩ := covers_iff.1 hn
  obtain ⟨hbeyond, hvalid⟩ := h
  apply isPlainAscii_eq_false
  have hchar : (n + r.shift).toNat.isValidChar := by
    unfold Nat.isValidChar
    omega
  rw [Char.toNat_ofNat, if_pos hchar]
  omega

/-- The lower case of a character beyond ASCII is not plain ASCII. -/
theorem lower_of_beyond {c : Char} (h : 128 ≤ c.toNat) :
    ∃ d ∈ lowerTable.char c, isPlainAscii d = false := by
  unfold CaseTable.char
  split
  · next codes hcodes =>
    have hmem : (c.toNat, codes) ∈ lowerExpansions := mem_of_lookup hcodes
    obtain ⟨-, rfl⟩ := Prod.mk.inj (List.mem_singleton.1 hmem)
    exact ⟨Char.ofNat 0x307, by simp, by decide⟩
  · split
    · next r hr =>
      have hcovers : r.covers c.toNat = true := List.find?_some (p := fun r : CaseRun => r.covers c.toNat) hr
      obtain ⟨hfirst, hlast, -⟩ := CaseRun.covers_iff.1 hcovers
      refine ⟨_, List.mem_singleton_self _, ?_⟩
      rcases lowerRuns_beyond r (List.mem_of_find?_eq_some hr) with hascii | hbeyond | ⟨hone, hk⟩
      · omega
      · exact hbeyond.not_plain hcovers
      · have hshift : (c.toNat + r.shift).toNat = 'k'.toNat := by omega
        rw [hshift, Char.ofNat_toNat]
        decide
    · exact ⟨c, List.mem_singleton_self c, isPlainAscii_eq_false h⟩

/-! ## Words -/

theorem ascii_of_toLower {c : Char} (h : c.toLower.toNat < 128) : c.toNat < 128 := by
  unfold Char.toLower at h
  split at h
  · next hupper => exact Nat.lt_of_le_of_lt hupper.2 (by decide)
  · exact h

theorem lower_eq_map {cs : List Char} (h : ∀ c ∈ cs, c.toNat < 128) :
    lowerTable.chars cs = cs.map Char.toLower := by
  rw [CaseTable.chars, List.map_eq_flatMap]
  exact List.flatMap_congr fun c hc => lower_of_ascii (h c hc)

/-- Only a word itself, but for the case of ASCII letters, becomes the word. -/
theorem lower_eq_iff {cs w : List Char} (hw : ∀ d ∈ w, isPlainAscii d = true) :
    lowerTable.chars cs = w ↔ cs.map Char.toLower = w := by
  have hascii : ∀ d ∈ w, d.toNat < 128 := by
    intro d hd
    have hplain := hw d hd
    simp only [isPlainAscii, Bool.and_eq_true, decide_eq_true_eq] at hplain
    exact hplain.1
  constructor
  · rintro rfl
    refine (lower_eq_map fun c hc => ?_).symm
    by_contra hbeyond
    obtain ⟨d, hd, hnot⟩ := lower_of_beyond (Nat.not_lt.1 hbeyond)
    have hplain := hw d (List.mem_flatMap.2 ⟨c, hc, hd⟩)
    rw [hnot] at hplain
    exact nomatch hplain
  · rintro rfl
    exact lower_eq_map fun c hc => ascii_of_toLower (hascii _ (List.mem_map_of_mem hc))

end Exif.Text
