import Exif.Proofs.FileFormat
import Exif.Proofs.Path.Name

/-! The language of extensions and of file names that tell a format: a word of the format in capital or
small ASCII letters, behind any number of dots, or behind the last dot of a name that does not begin with
it. -/

namespace Exif.FileFormat

/-- A word that names a format: the value of the format, or the longer word for JPEG and the shorter one
for TIFF. -/
def IsNamed (f : FileFormat) (word : String) : Prop :=
  f ≠ unknown ∧ (word = f.value ∨ (f = jpeg ∧ word = "jpeg") ∨ (f = tiff ∧ word = "tif"))

instance (f : FileFormat) (word : String) : Decidable (f.IsNamed word) :=
  inferInstanceAs (Decidable (_ ∧ _))

def Tells (ext : List Char) (f : FileFormat) : Prop :=
  ∃ word, f.IsNamed word ∧ ext.map Char.toLower = word.toList

/-! ## Words -/

theorem mem_words_iff {word : String} {f : FileFormat} : (word, f) ∈ words ↔ f.IsNamed word := by
  constructor
  · have hall : ∀ e ∈ words, e.2.IsNamed e.1 := by decide
    exact hall (word, f)
  · rintro ⟨hf, rfl | ⟨rfl, rfl⟩ | ⟨rfl, rfl⟩⟩
    · cases f <;> first | decide | exact absurd rfl hf
    · decide
    · decide

theorem Tells.ne_unknown {ext : List Char} {f : FileFormat} (h : Tells ext f) : f ≠ unknown := by
  obtain ⟨word, hword, -⟩ := h
  exact hword.1

theorem Tells.plain {ext : List Char} {f : FileFormat} (h : Tells ext f) :
    ext ≠ [] ∧ '.' ∉ ext ∧ ∀ c ∈ ext, c.toNat < 128 := by
  obtain ⟨word, hword, hmap⟩ := h
  obtain ⟨hne, hdot, hplain⟩ := words_plain _ (mem_words_iff.2 hword)
  rw [← hmap] at hne hdot hplain
  refine ⟨fun hnil => hne (by rw [hnil]; rfl), fun hmem => hdot (List.mem_map.2 ⟨'.', hmem, by decide⟩), ?_⟩
  intro c hc
  have hlower := List.all_eq_true.1 hplain _ (List.mem_map_of_mem hc)
  simp only [Text.isPlainAscii, Bool.and_eq_true, decide_eq_true_eq] at hlower
  exact Text.ascii_of_toLower hlower.1

theorem Tells.ne_empty {ext : String} {f : FileFormat} (h : Tells ext.toList f) : ext ≠ "" := by
  rintro rfl
  exact h.plain.1 rfl

/-! ## Extensions -/

/-- The word of an extension that has any number of dots in front. -/
theorem extensionWord_eq_iff_dots {cs word : List Char} (hdot : '.' ∉ word)
    (hword : word.all Text.isPlainAscii = true) :
    extensionWord cs = word ↔
      ∃ k ext, cs = List.replicate k '.' ++ ext ∧ ext.map Char.toLower = word := by
  have hundotted : word.dropWhile (· == '.') = word := by
    have := dropWhile_dot hdot
    rwa [List.dropWhile_cons_of_pos (by rfl)] at this
  constructor
  · intro h
    rw [← h] at hword
    have hmap := (Text.lower_eq_iff (all_of_dropWhile_dot (by decide) hword)).1 rfl
    have hsame : (fun c : Char => c == '.') ∘ Char.toLower = (· == '.') := by
      funext c
      rw [Function.comp, Bool.eq_iff_iff, beq_iff_eq, beq_iff_eq]
      exact ⟨dot_of_toLower, fun hc => by rw [hc]; decide⟩
    rw [extensionWord, ← hmap, List.dropWhile_map, hsame] at h
    refine ⟨(cs.takeWhile (· == '.')).length, cs.dropWhile (· == '.'), ?_, h⟩
    have hdots : cs.takeWhile (· == '.') = List.replicate (cs.takeWhile (· == '.')).length '.' :=
      List.eq_replicate_of_mem fun c hc => by simpa using List.mem_takeWhile_imp hc
    rw [← hdots, List.takeWhile_append_dropWhile]
  · rintro ⟨k, ext, rfl, rfl⟩
    have hmap : Text.lowerTable.chars (List.replicate k '.' ++ ext) =
        List.replicate k '.' ++ ext.map Char.toLower := by
      refine (Text.lower_eq_iff ?_).2 ?_
      · intro c hc
        rcases List.mem_append.1 hc with hc | hc
        · rw [List.eq_of_mem_replicate hc]
          decide
        · exact List.all_eq_true.1 hword c hc
      · rw [List.map_append, List.map_replicate]
        rfl
    rw [extensionWord, hmap, List.dropWhile_append_of_pos, hundotted]
    intro c hc
    rw [List.eq_of_mem_replicate hc]
    rfl

theorem ofExtension_eq_iff {cs : List Char} {f : FileFormat} (hf : f ≠ unknown) :
    ofExtension cs = f ↔ ∃ k ext, cs = List.replicate k '.' ++ ext ∧ Tells ext f := by
  unfold ofExtension
  constructor
  · intro h
    rcases hlookup : words.lookup (String.ofList (extensionWord cs)) with _ | g
    · rw [hlookup] at h
      exact absurd h.symm hf
    · rw [hlookup, Option.getD_some] at h
      subst h
      have hmem := Text.mem_of_lookup hlookup
      obtain ⟨-, hdot, hplain⟩ := words_plain _ hmem
      obtain ⟨k, ext, hcs, hext⟩ :=
        (extensionWord_eq_iff_dots hdot hplain).1 String.toList_ofList.symm
      exact ⟨k, ext, hcs, _, mem_words_iff.1 hmem, hext⟩
  · rintro ⟨k, ext, hcs, word, hword, hext⟩
    have hmem := mem_words_iff.2 hword
    obtain ⟨-, hdot, hplain⟩ := words_plain _ hmem
    rw [(extensionWord_eq_iff_dots hdot hplain).2 ⟨k, ext, hcs, hext⟩, String.ofList_toList,
      lookup_words _ hmem, Option.getD_some]

/-- Other letters than those of ASCII are never taken for those of a word. -/
theorem ascii_of_ofExtension {cs : List Char} (h : ofExtension cs ≠ unknown) : ∀ c ∈ cs, c.toNat < 128 := by
  obtain ⟨k, ext, rfl, htells⟩ := (ofExtension_eq_iff h).1 rfl
  intro c hc
  rcases List.mem_append.1 hc with hc | hc
  · rw [List.eq_of_mem_replicate hc]
    decide
  · exact htells.plain.2.2 c hc

/-! ## File names -/

theorem ofName_eq_iff_tells {name : String} {f : FileFormat} (hf : f ≠ unknown) :
    ofName name = f ↔ ∃ stem ext, name = stem ++ "." ++ ext ∧ stem ≠ "" ∧ ext ≠ "" ∧ '.' ∉ ext.toList ∧
      Tells ext.toList f := by
  rw [ofName_eq_iff hf]
  constructor
  · rintro ⟨stem, ext, word, hname, hstem, hmem, hext⟩
    have htells : Tells ext.toList f := ⟨word, mem_words_iff.1 hmem, hext⟩
    exact ⟨stem, ext, hname, hstem, htells.ne_empty, htells.plain.2.1, htells⟩
  · rintro ⟨stem, ext, hname, hstem, -, -, word, hword, hext⟩
    exact ⟨stem, ext, word, hname, hstem, mem_words_iff.2 hword, hext⟩

/-- The name of a picture. -/
theorem isImage_ofName_iff {name : String} : (ofName name).isImage = true ↔
    ∃ stem ext f, name = stem ++ "." ++ ext ∧ stem ≠ "" ∧ Tells ext.toList f := by
  have himage {f : FileFormat} : f.isImage = true ↔ f ≠ unknown := by cases f <;> decide
  rw [himage]
  constructor
  · intro hf
    obtain ⟨stem, ext, hname, hstem, -, -, htells⟩ := (ofName_eq_iff_tells hf).1 rfl
    exact ⟨stem, ext, _, hname, hstem, htells⟩
  · rintro ⟨stem, ext, f, hname, hstem, htells⟩
    have hformat : ofName name = f := (ofName_eq_iff_tells htells.ne_unknown).2
      ⟨stem, ext, hname, hstem, htells.ne_empty, htells.plain.2.1, htells⟩
    rw [hformat]
    exact htells.ne_unknown

/-- What is recognised. An extension tells a format exactly if it is one of its words behind any number of
dots, and then it is ASCII throughout. A path tells what its final component alone tells, whichever
directory stands before it and however many slashes behind it, and this tells a format exactly if one of
its words follows the last dot and something stands before the dot. -/
theorem recognises_exactly :
    (∀ cs f, (f ≠ unknown ∧ ofExtension cs = f) ↔ ∃ k ext, cs = List.replicate k '.' ++ ext ∧ Tells ext f) ∧
      (∀ cs, ofExtension cs ≠ unknown → ∀ c ∈ cs, c.toNat < 128) ∧
      (∀ s, ofPath (.ofString s) = ofPath (.ofString (Path.ofString s).name)) ∧
      (∀ dir name k, Path.IsName name →
        ofPath (.ofString (name ++ Path.slashes k)) = ofPath (.ofString name) ∧
          ofPath (.ofString (dir ++ "/" ++ name ++ Path.slashes k)) = ofPath (.ofString name)) ∧
      ∀ s f, (f ≠ unknown ∧ ofPath (.ofString s) = f) ↔
        ∃ stem ext, (Path.ofString s).name = stem ++ "." ++ ext ∧ stem ≠ "" ∧ ext ≠ "" ∧
          '.' ∉ ext.toList ∧ Tells ext.toList f := by
  refine ⟨fun cs f => ⟨?_, ?_⟩, fun cs => ascii_of_ofExtension, fun s => ?_, fun dir name k h => ⟨?_, ?_⟩,
    fun s f => ⟨?_, ?_⟩⟩
  · rintro ⟨hf, h⟩
    exact (ofExtension_eq_iff hf).1 h
  · rintro ⟨k, ext, hcs, htells⟩
    exact ⟨htells.ne_unknown, (ofExtension_eq_iff htells.ne_unknown).2 ⟨k, ext, hcs, htells⟩⟩
  · rw [ofPath, ofPath, Path.name_ofString_name]
  · rw [ofPath, ofPath, Path.name_append_slashes h, Path.name_ofString_of_isName h]
  · rw [ofPath, ofPath, Path.name_below h, Path.name_ofString_of_isName h]
  · rintro ⟨hf, h⟩
    exact (ofName_eq_iff_tells hf).1 h
  · rintro ⟨stem, ext, hname, hstem, hne, hdot, htells⟩
    exact ⟨htells.ne_unknown,
      (ofName_eq_iff_tells htells.ne_unknown).2 ⟨stem, ext, hname, hstem, hne, hdot, htells⟩⟩

/-- A raw picture below a directory, with slashes behind its name. -/
theorem recognises_exactly_rawPicture :
    ofPath (.ofString "/photos/2025/01/IMG_1234.NEF//") = nef ∧ Tells "NEF".toList nef := by
  obtain ⟨-, -, -, -, hnames⟩ := recognises_exactly
  have htells : Tells "NEF".toList nef := ⟨"nef", by decide, by decide⟩
  have hname : (Path.ofString "/photos/2025/01/IMG_1234.NEF//").name = "IMG_1234" ++ "." ++ "NEF" := by
    decide +kernel
  exact ⟨((hnames _ nef).2 ⟨_, _, hname, by decide, by decide, by decide, htells⟩).2, htells⟩

end Exif.FileFormat
