import Exif.Proofs.FileTree.Writing

/-! Making directories and opening a file once more. As long as no directory goes away, every path leads
where it led before: the directories are found in their places, and so is the file. -/

namespace Exif.FileTree

variable {α : Type}

/-! ## Directories stay -/

def KeepsDirectories (t t' : FileTree α) : Prop :=
  ∀ place, t.at? place = some .directory → t'.at? place = some .directory

theorem KeepsDirectories.refl (t : FileTree α) : t.KeepsDirectories t := fun _ h => h

theorem KeepsDirectories.trans {a b c : FileTree α} (h : a.KeepsDirectories b)
    (h' : b.KeepsDirectories c) : a.KeepsDirectories c := fun place hp => h' place (h place hp)

/-- What is put where no directory stands takes none away. -/
theorem keepsDirectories_insert {t : FileTree α} {place : List String} (node : Node α)
    (h : t.at? place ≠ some .directory) : t.KeepsDirectories ⟨t.nodes.insert place node⟩ := by
  intro other hother
  have hne : place ≠ other := by
    rintro rfl
    exact h hother
  rw [at?_insert_ne t node hne, hother]

theorem keepsDirectories_append (t : FileTree String) (place : List String) (text : String) :
    t.KeepsDirectories (t.append place text) := by
  unfold append
  split
  · next content hat =>
    apply keepsDirectories_insert
    rw [hat]
    exact fun h => nomatch h
  · exact .refl t

theorem keepsDirectories_openToAppend (t : FileTree String) (p : Path) :
    t.KeepsDirectories (t.openToAppend p).1 := by
  unfold openToAppend
  split
  · exact .refl t
  · split
    · exact .refl t
    · exact .refl t
    · next hat =>
      apply keepsDirectories_insert
      rw [hat]
      exact fun h => nomatch h

/-! ## Paths lead on -/

theorem step_of_keepsDirectories {t t' : FileTree α} (h : t.KeepsDirectories t')
    {place next : List String} {component : String} (hstep : t.step place component = .ok next) :
    t'.step place component = .ok next := by
  unfold step at hstep ⊢
  split at hstep
  · exact nomatch hstep
  · exact nomatch hstep
  · next hat => rwa [h place hat]

theorem foldlM_step_of_keepsDirectories {t t' : FileTree α} (h : t.KeepsDirectories t')
    {components : List String} {place last : List String}
    (hfollow : components.foldlM t.step place = .ok last) :
    components.foldlM t'.step place = .ok last := by
  induction components generalizing place with
  | nil => exact hfollow
  | cons component components ih =>
    rw [List.foldlM_cons] at hfollow ⊢
    obtain ⟨next, hnext, hrest⟩ := bind_eq_ok.1 hfollow
    rw [step_of_keepsDirectories h hnext]
    exact ih hrest

theorem reach_of_keepsDirectories {t t' : FileTree α} (h : t.KeepsDirectories t') {p : Path}
    {place : List String} (hreach : t.reach p = .ok place) : t'.reach p = .ok place := by
  unfold reach at hreach ⊢
  split at hreach
  · exact nomatch hreach
  · next hnul =>
    split at hreach
    · exact nomatch hreach
    · next hlong =>
      rw [if_neg hnul, if_neg hlong]
      apply mapError_eq_ok.2
      exact foldlM_step_of_keepsDirectories h (mapError_eq_ok.1 hreach)

/-! ## Making directories again -/

theorem isDirectory_iff {t : FileTree α} {p : Path} :
    t.isDirectory p = true ↔ ∃ place, t.reach p = .ok place ∧ t.at? place = some .directory := by
  unfold isDirectory state
  rcases hreach : t.reach p with e | place
  · rcases e with ⟨what, q⟩ | _
    · cases what <;> simp [Except.map]
    · simp [Except.map]
  · rcases hat : t.at? place with _ | content | _ <;> simp [Except.map, hat]

theorem isDirectory_of_keepsDirectories {t t' : FileTree α} (h : t.KeepsDirectories t') {p : Path}
    (hp : t.isDirectory p = true) : t'.isDirectory p = true := by
  obtain ⟨place, hreach, hat⟩ := isDirectory_iff.1 hp
  exact isDirectory_iff.2 ⟨place, reach_of_keepsDirectories h hreach, h place hat⟩

/-- A directory that is made without complaint is there. -/
theorem isDirectory_of_ensureDirectory {t t' : FileTree α} {p : Path}
    (h : t.ensureDirectory p = (t', none)) : t'.isDirectory p = true := by
  unfold ensureDirectory at h
  split at h
  · next made hmade =>
    obtain ⟨rfl, -⟩ := Prod.mk.inj h
    obtain ⟨place, hreach, hmade⟩ := bind_eq_ok.1 hmade
    split at hmade
    · exact nomatch hmade
    · next hat =>
      obtain rfl := Except.ok.inj hmade
      have hnew : t.at? place ≠ some .directory := by simp [hat]
      have hadd : t.addDirectory place = ⟨t.nodes.insert place .directory⟩ := by
        simp only [addDirectory, hat]
      rw [hadd]
      refine isDirectory_iff.2 ⟨place, ?_, at?_insert_self t .directory hnew⟩
      exact reach_of_keepsDirectories (keepsDirectories_insert .directory hnew) hreach
  · obtain ⟨rfl, hnone⟩ := Prod.mk.inj h
    split at hnone
    · assumption
    · exact nomatch hnone

theorem ensureDirectory_of_isDirectory {t : FileTree α} {p : Path} (h : t.isDirectory p = true) :
    t.ensureDirectory p = (t, none) := by
  obtain ⟨place, hreach, hat⟩ := isDirectory_iff.1 h
  have hmake : t.makeDirectory p = .error (.fault .alreadyExists p) := by
    rw [makeDirectory, hreach]
    simp [bind, Except.bind, hat]
  simp [ensureDirectory, hmake, h]

theorem isDirectory_of_ensureDirectories {t t' : FileTree α} {r : Path.Root} {component : String}
    {holder : List String} (h : t.ensureDirectories r (component :: holder) = (t', none)) :
    t'.isDirectory (pathOf r (component :: holder)) = true := by
  rw [ensureDirectories] at h
  split at h
  · split at h
    · cases (Prod.mk.inj h).2
    · exact isDirectory_of_ensureDirectory h
  · exact isDirectory_of_ensureDirectory h

/-- Directories that were made are not made again. -/
theorem ensureDirectories_again {t t' later : FileTree α} {r : Path.Root} {components : List String}
    (h : t.ensureDirectories r components = (t', none)) (hkeeps : t'.KeepsDirectories later) :
    later.ensureDirectories r components = (later, none) := by
  rcases components with _ | ⟨component, holder⟩
  · rfl
  · have hlater : later.isDirectory (pathOf r (component :: holder)) = true :=
      isDirectory_of_keepsDirectories hkeeps (isDirectory_of_ensureDirectories h)
    obtain ⟨place, hreach, -⟩ := isDirectory_iff.1 hlater
    simp only [ensureDirectories, hreach]
    exact ensureDirectory_of_isDirectory hlater

/-! ## Opening again -/

theorem reach_of_openToAppend {t t' : FileTree String} {p : Path} {place : List String}
    (h : t.openToAppend p = (t', .ok place)) : t.reach p = .ok place := by
  unfold openToAppend at h
  split at h
  · exact nomatch (Prod.mk.inj h).2
  · next reached hreach =>
    have hplace : reached = place := by
      split at h
      · exact nomatch (Prod.mk.inj h).2
      · exact Except.ok.inj (Prod.mk.inj h).2
      · exact Except.ok.inj (Prod.mk.inj h).2
    rw [hreach, hplace]

/-- A file that was opened, and that is still there, is opened as it is. -/
theorem openToAppend_again {t t' later : FileTree String} {p : Path} {place : List String}
    {content : String} (h : t.openToAppend p = (t', .ok place))
    (hkeeps : t'.KeepsDirectories later) (hat : later.at? place = some (.file content)) :
    later.openToAppend p = (later, .ok place) := by
  have hopened := keepsDirectories_openToAppend t p
  rw [h] at hopened
  have hreach := reach_of_keepsDirectories (hopened.trans hkeeps) (reach_of_openToAppend h)
  simp only [openToAppend, hreach, hat]

end Exif.FileTree
