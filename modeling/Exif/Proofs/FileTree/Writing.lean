import Exif.FileTree.Writing
import Exif.Proofs.OrderedMap
import Exif.Proofs.Results

/-! Writing to a tree of files. Making directories and opening a file keep the content of every file;
writing at the end of a file adds to that file and to no other. A file is opened at the place that its
path denotes. -/

namespace Exif.FileTree

variable {α : Type}

/-! ## What is kept -/

/-- Every file of a tree stands in another, with the same content. -/
def Keeps (t t' : FileTree α) : Prop :=
  ∀ place content, t.at? place = some (.file content) → t'.at? place = some (.file content)

/-- Every file of a tree stands in another, with something added at the end of its content. -/
def Grows (t t' : FileTree String) : Prop :=
  ∀ place content, t.at? place = some (.file content) →
    ∃ added, t'.at? place = some (.file (content ++ added))

theorem Keeps.refl (t : FileTree α) : t.Keeps t := fun _ _ h => h

theorem Keeps.trans {a b c : FileTree α} (h : a.Keeps b) (h' : b.Keeps c) : a.Keeps c :=
  fun place content hp => h' place content (h place content hp)

theorem Keeps.grows {t t' : FileTree String} (h : t.Keeps t') : t.Grows t' := by
  intro place content hp
  exact ⟨"", by rw [h place content hp, String.append_empty]⟩

theorem Grows.refl (t : FileTree String) : t.Grows t := (Keeps.refl t).grows

theorem Grows.trans {a b c : FileTree String} (h : a.Grows b) (h' : b.Grows c) : a.Grows c := by
  intro place content hp
  obtain ⟨first, hfirst⟩ := h place content hp
  obtain ⟨second, hsecond⟩ := h' place _ hfirst
  exact ⟨first ++ second, by rw [hsecond, String.append_assoc]⟩

/-! ## One place -/

theorem at?_insert_ne (t : FileTree α) {place other : List String} (node : Node α)
    (h : place ≠ other) :
    (FileTree.mk (t.nodes.insert place node)).at? other = t.at? other := by
  rw [at?, at?, OrderedMap.get?_insert, if_neg h]

theorem at?_insert_self (t : FileTree α) {place : List String} (node : Node α)
    (h : t.at? place ≠ some .directory) :
    (FileTree.mk (t.nodes.insert place node)).at? place = some node := by
  have hplace : ¬ (place = root ∨ place.all (· = above)) := fun hp => h (if_pos hp)
  rw [at?, if_neg hplace, OrderedMap.get?_insert, if_pos rfl]

/-- What is new stands in the way of no file. -/
theorem keeps_insert {t : FileTree α} {place : List String} (node : Node α)
    (h : t.at? place = none) : t.Keeps ⟨t.nodes.insert place node⟩ := by
  intro other content hother
  have hne : place ≠ other := by
    rintro rfl
    rw [h] at hother
    exact nomatch hother
  rw [at?_insert_ne t node hne, hother]

/-! ## Directories -/

theorem keeps_addDirectory (t : FileTree α) (place : List String) :
    t.Keeps (t.addDirectory place) := by
  unfold addDirectory
  split
  · next h => exact keeps_insert .directory h
  · exact Keeps.refl t

theorem keeps_ensureDirectory (t : FileTree α) (p : Path) : t.Keeps (t.ensureDirectory p).1 := by
  unfold ensureDirectory
  split
  · next t' h =>
    obtain ⟨place, -, h⟩ := bind_eq_ok.1 h
    split at h
    · exact nomatch h
    · rw [← Except.ok.inj h]
      exact keeps_addDirectory t place
  · exact Keeps.refl t

theorem keeps_ensureDirectories (t : FileTree α) (r : Path.Root) (components : List String) :
    t.Keeps (t.ensureDirectories r components).1 := by
  induction components generalizing t with
  | nil => exact Keeps.refl t
  | cons component holder ih =>
    unfold ensureDirectories
    dsimp only
    split
    · have hholder := ih t
      split
      · next t' e h =>
        rw [h] at hholder
        exact hholder
      · next t' h =>
        rw [h] at hholder
        exact hholder.trans (keeps_ensureDirectory t' _)
    · exact keeps_ensureDirectory t _

/-! ## Places of paths -/

theorem enter_of_step {t : FileTree α} {place next : List String} {component : String}
    (h : t.step place component = .ok next) : next = enter place component := by
  unfold step at h
  split at h
  · exact nomatch h
  · exact nomatch h
  · split at h
    · exact nomatch h
    · exact (Except.ok.inj h).symm

theorem foldl_enter_of_foldlM {t : FileTree α} {components : List String} {place next : List String}
    (h : components.foldlM t.step place = .ok next) : next = components.foldl enter place := by
  induction components generalizing place with
  | nil => exact (Except.ok.inj h).symm
  | cons component components ih =>
    rw [List.foldlM_cons] at h
    obtain ⟨entered, hentered, h⟩ := bind_eq_ok.1 h
    rw [List.foldl_cons, ← enter_of_step hentered]
    exact ih h

/-- A path leads to the place that it denotes, if it leads anywhere. -/
theorem lexicalPlace_of_reach {t : FileTree α} {p : Path} {place : List String}
    (h : t.reach p = .ok place) : place = lexicalPlace p := by
  unfold reach at h
  split at h
  · exact nomatch h
  · split at h
    · exact nomatch h
    · exact foldl_enter_of_foldlM (mapError_eq_ok.1 h)

/-- Components that each lead further from a place: none takes back the one before it. -/
def Onward : List String → List String → Prop
  | _, [] => True
  | place, c :: cs => (c ≠ above ∨ place.all (· = above)) ∧ Onward (place ++ [c]) cs

theorem foldl_enter_of_onward {place components : List String} (h : Onward place components) :
    components.foldl enter place = place ++ components := by
  induction components generalizing place with
  | nil => exact (List.append_nil place).symm
  | cons c cs ih =>
    rw [List.foldl_cons, enter, if_pos h.1, ih h.2, List.append_assoc]
    rfl

theorem onward_concat {place components : List String} {c : String} :
    Onward place (components ++ [c]) ↔
      Onward place components ∧ (c ≠ above ∨ (place ++ components).all (· = above)) := by
  induction components generalizing place with
  | nil => simp [Onward]
  | cons d ds ih =>
    rw [List.cons_append, Onward, Onward, ih, List.append_assoc, and_assoc]
    rfl

theorem Onward.dropLast {place components : List String} (h : Onward place components) :
    Onward place components.dropLast := by
  rcases List.eq_nil_or_concat components with rfl | ⟨cs, c, rfl⟩
  · exact h
  · rw [List.concat_eq_append] at h ⊢
    rw [List.dropLast_concat]
    exact (onward_concat.1 h).1

/-- Entering a component from an onward place leads to an onward place. -/
theorem enter_onward {r : Path.Root} {components : List String} (h : Onward (start r) components)
    (c : String) : ∃ next, enter (start r ++ components) c = start r ++ next ∧ Onward (start r) next := by
  unfold enter
  split
  · next hc =>
    exact ⟨components ++ [c], List.append_assoc .., onward_concat.2 ⟨h, hc⟩⟩
  · next hc =>
    split
    · next hroot => exact ⟨components, hroot.symm, h⟩
    · next hroot =>
      refine ⟨components.dropLast, List.dropLast_append_of_ne_nil ?_, h.dropLast⟩
      rintro rfl
      -- from where paths start, nothing is taken back
      cases r with
      | none => exact hc (Or.inr rfl)
      | slash | twoSlashes => exact hroot rfl

theorem foldl_enter_onward {r : Path.Root} (cs : List String) {components : List String}
    (h : Onward (start r) components) :
    ∃ next, cs.foldl enter (start r ++ components) = start r ++ next ∧ Onward (start r) next := by
  induction cs generalizing components with
  | nil => exact ⟨components, rfl, h⟩
  | cons c cs ih =>
    obtain ⟨entered, hentered, honward⟩ := enter_onward h c
    rw [List.foldl_cons, hentered]
    exact ih honward

/-- Taking back components leaves the place that a path denotes. -/
theorem lexicalPlace_lexical (p : Path) : lexicalPlace (lexical p) = lexicalPlace p := by
  have hstart : Onward (start p.root) [] := trivial
  obtain ⟨next, hnext, honward⟩ := foldl_enter_onward p.components hstart
  rw [List.append_nil] at hnext
  change ((lexicalPlace p).drop (start p.root).length).foldl enter (start p.root) = lexicalPlace p
  rw [lexicalPlace, hnext, List.drop_left, foldl_enter_of_onward honward]

/-! ## Files -/

theorem keeps_openToAppend (t : FileTree String) (p : Path) : t.Keeps (t.openToAppend p).1 := by
  unfold openToAppend
  split
  · exact Keeps.refl t
  · split
    · exact Keeps.refl t
    · exact Keeps.refl t
    · next h => exact keeps_insert (.file "") h

/-- An opened file stands at the place that its path denotes. -/
theorem openToAppend_eq_ok {t t' : FileTree String} {p : Path} {place : List String}
    (h : t.openToAppend p = (t', .ok place)) :
    place = lexicalPlace p ∧ ∃ content, t'.at? place = some (.file content) := by
  unfold openToAppend at h
  split at h
  · exact nomatch (Prod.mk.inj h).2
  · next place' hreach =>
    have hplace := lexicalPlace_of_reach hreach
    split at h
    · exact nomatch (Prod.mk.inj h).2
    · next content hat =>
      obtain ⟨rfl, hok⟩ := Prod.mk.inj h
      obtain rfl := Except.ok.inj hok
      exact ⟨hplace, content, hat⟩
    · next hat =>
      obtain ⟨rfl, hok⟩ := Prod.mk.inj h
      obtain rfl := Except.ok.inj hok
      refine ⟨hplace, "", at?_insert_self t (.file "") ?_⟩
      rw [hat]
      exact fun h => nomatch h

theorem at?_append_self {t : FileTree String} {place : List String} {content : String}
    (h : t.at? place = some (.file content)) (text : String) :
    (t.append place text).at? place = some (.file (content ++ text)) := by
  rw [append, h]
  refine at?_insert_self t _ ?_
  rw [h]
  exact fun h => nomatch h

theorem at?_append_ne (t : FileTree String) {place other : List String} (h : place ≠ other)
    (text : String) : (t.append place text).at? other = t.at? other := by
  unfold append
  split
  · exact at?_insert_ne t _ h
  · rfl

theorem grows_append (t : FileTree String) (place : List String) (text : String) :
    t.Grows (t.append place text) := by
  intro other content hother
  by_cases hplace : place = other
  · subst hplace
    exact ⟨text, at?_append_self hother text⟩
  · exact ⟨"", by rw [at?_append_ne t hplace, hother, String.append_empty]⟩

end Exif.FileTree
