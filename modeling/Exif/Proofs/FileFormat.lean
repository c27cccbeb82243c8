import Exif.FileFormat
import Exif.Proofs.Text.LowerCase
import Exif.Proofs.Text.Pieces

/-! The format of a file by its name: what follows the last dot is one of the words of the format, in
capital or small letters, and something stands before the dot. -/

namespace Exif

theorem Path.extension_eq_nil_or_cons (name : List Char) :
    extension name = [] ∨ ∃ ext, extension name = '.' :: ext := by
  unfold extension
  dsimp only
  split
  · exact Or.inr ⟨_, rfl⟩
  · exact Or.inl rfl

/-- What follows the last dot of a name, which is neither its first nor its last character. -/
theorem Path.extension_eq_cons_iff {name ext : List Char} :
    extension name = '.' :: ext ↔
      ∃ stem, name = stem ++ '.' :: ext ∧ stem ≠ [] ∧ '.' ∉ ext ∧ ext ≠ [] := by
  unfold extension
  constructor
  · intro h
    dsimp only at h
    split at h
    · next hcond =>
      obtain ⟨-, hext⟩ := List.cons.inj h
      rw [hext] at hcond
      have hdot : '.' ∉ ext := by
        rw [← hext, List.mem_reverse]
        exact Text.not_mem_takeWhile_ne '.' _
      rcases (Text.lastPiece_eq_iff hdot).1 hext with rfl | ⟨stem, rfl⟩
      · omega
      · refine ⟨stem, rfl, ?_, hdot, hcond.2⟩
        rintro rfl
        simp at hcond
    · exact nomatch h
  · rintro ⟨stem, rfl, hstem, hdot, hne⟩
    have htail := (Text.lastPiece_eq_iff hdot).2 (Or.inr ⟨stem, rfl⟩)
    have hlen : 0 < stem.length := List.length_pos_iff.2 hstem
    simp only [htail]
    rw [if_pos ⟨by simp; omega, hne⟩]

namespace FileFormat

theorem words_plain : ∀ e ∈ words,
    e.1.toList ≠ [] ∧ '.' ∉ e.1.toList ∧ e.1.toList.all Text.isPlainAscii = true := by
  decide +kernel

theorem lookup_words : ∀ e ∈ words, words.lookup e.1 = some e.2 := by decide

theorem dot_of_toLower {c : Char} (h : c.toLower = '.') : c = '.' := by
  have hall : ∀ n < 128, (Char.ofNat n).toLower = '.' → Char.ofNat n = '.' := by decide +kernel
  have hc := hall c.toNat (Text.ascii_of_toLower (by rw [h]; decide))
  rw [Char.ofNat_toNat] at hc
  exact hc h

theorem dot_not_mem_map_toLower {cs : List Char} (h : '.' ∉ cs) : '.' ∉ cs.map Char.toLower := by
  intro hmem
  obtain ⟨c, hc, hdot⟩ := List.mem_map.1 hmem
  rw [dot_of_toLower hdot] at hc
  exact h hc

theorem dropWhile_dot {cs : List Char} (h : '.' ∉ cs) : ('.' :: cs).dropWhile (· == '.') = cs := by
  cases cs with
  | nil => rfl
  | cons c cs =>
    have hc : c ≠ '.' := fun hc => h (by simp [hc])
    simp [hc]

/-- Dots and what is left without them are all that a list consists of. -/
theorem all_of_dropWhile_dot {p : Char → Bool} {cs : List Char} (hdot : p '.' = true)
    (h : (cs.dropWhile (· == '.')).all p = true) : ∀ c ∈ cs, p c = true := by
  intro c hc
  rw [← List.takeWhile_append_dropWhile (p := (· == '.')) (l := cs), List.mem_append] at hc
  rcases hc with hc | hc
  · have heq : c = '.' := by simpa using List.mem_takeWhile_imp hc
    rw [heq]
    exact hdot
  · exact List.all_eq_true.1 h c hc

/-- An extension tells a word of plain ASCII letters if it is this word, in capital or small letters. -/
theorem extensionWord_eq_iff {ext word : List Char} (hext : '.' ∉ ext)
    (hword : word.all Text.isPlainAscii = true) :
    extensionWord ('.' :: ext) = word ↔ ext.map Char.toLower = word := by
  have hdots := dropWhile_dot (dot_not_mem_map_toLower hext)
  constructor
  · intro h
    rw [← h] at hword
    have hmap := (Text.lower_eq_iff (all_of_dropWhile_dot (by decide) hword)).1 rfl
    rw [extensionWord, ← hmap, List.map_cons] at h
    exact hdots.symm.trans h
  · rintro rfl
    have hmap : Text.lowerTable.chars ('.' :: ext) = '.' :: ext.map Char.toLower := by
      refine (Text.lower_eq_iff fun d hd => ?_).2 rfl
      rcases List.mem_cons.1 hd with rfl | hd
      · decide
      · exact List.all_eq_true.1 hword d hd
    rw [extensionWord, hmap, hdots]

/-- A name tells a format if it ends in a dot and one of the words of the format, in capital or small
letters, and has something before the dot. -/
theorem ofName_eq_iff {name : String} {f : FileFormat} (hf : f ≠ unknown) :
    ofName name = f ↔ ∃ stem ext word, name = stem ++ "." ++ ext ∧ stem ≠ "" ∧ (word, f) ∈ words ∧
      ext.toList.map Char.toLower = word.toList := by
  unfold ofName ofExtension
  constructor
  · intro h
    rcases hlookup : words.lookup (String.ofList (extensionWord (Path.extension name.toList))) with _ | g
    · rw [hlookup] at h
      exact absurd h.symm hf
    · rw [hlookup, Option.getD_some] at h
      subst h
      have hmem := Text.mem_of_lookup hlookup
      rcases Path.extension_eq_nil_or_cons name.toList with hnil | ⟨ext, hext⟩
      · have hnone : words.lookup (String.ofList (extensionWord [])) = none := by decide
        rw [hnil, hnone] at hlookup
        exact nomatch hlookup
      · obtain ⟨stem, hname, hstem, hdot, -⟩ := Path.extension_eq_cons_iff.1 hext
        obtain ⟨-, -, hplain⟩ := words_plain _ hmem
        rw [hext] at hmem hplain
        refine ⟨String.ofList stem, String.ofList ext, _, ?_, by simpa using hstem, hmem, ?_⟩
        · apply String.toList_inj.1
          simp [hname]
        · rw [String.toList_ofList]
          exact (extensionWord_eq_iff hdot hplain).1 String.toList_ofList.symm
  · rintro ⟨stem, ext, word, rfl, hstem, hmem, hmap⟩
    obtain ⟨hword, hundotted, hplain⟩ := words_plain _ hmem
    have hdot : '.' ∉ ext.toList := by
      intro hdot
      apply hundotted
      rw [← hmap]
      exact List.mem_map.2 ⟨'.', hdot, by decide⟩
    have hne : ext.toList ≠ [] := by
      intro hnil
      rw [hnil] at hmap
      exact hword hmap.symm
    have hname : (stem ++ "." ++ ext).toList = stem.toList ++ '.' :: ext.toList := by simp
    rw [Path.extension_eq_cons_iff.2 ⟨stem.toList, hname, by simpa using hstem, hdot, hne⟩,
      (extensionWord_eq_iff hdot hplain).2 hmap, String.ofList_toList, lookup_words _ hmem,
      Option.getD_some]

end FileFormat

end Exif
