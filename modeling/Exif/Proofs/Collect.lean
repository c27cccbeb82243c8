import Exif.Collect
import Exif.Proofs.FileTree.Writing
import Exif.Proofs.Path
import Mathlib.Data.List.Nodup

/-! Collecting the wanted files of a directory: what is collected are the wanted files that stand in the
tree below the directory, listed in the order of their paths, none twice. So the list depends on what
stands at each place only, and one file more or less leaves the others as they are. A path that leads to
a directory fails only over something that ends the walk through it. -/

namespace Exif.FileTree

variable {α : Type}

/-! ## What is met -/

theorem isBelow_iff {place p : List String} :
    isBelow place p = true ↔ ∃ rest, p = place ++ rest ∧ rest ≠ [] ∧ rest.all isEntry = true := by
  rw [isBelow, Bool.and_eq_true, Bool.and_eq_true, decide_eq_true_eq, List.isPrefixOf_iff_prefix]
  constructor
  · rintro ⟨⟨⟨rest, rfl⟩, hlength⟩, hentries⟩
    rw [List.drop_left] at hentries
    refine ⟨rest, rfl, ?_, hentries⟩
    rintro rfl
    simp at hlength
  · rintro ⟨rest, rfl, hne, hentries⟩
    have hlength := List.length_pos_iff.2 hne
    exact ⟨⟨List.prefix_append _ _, by simpa using hlength⟩, by rwa [List.drop_left]⟩

theorem eq_append_of_below {place p q : List String} {node node' : Node α}
    (h : (if isBelow place p then some (p.drop place.length, node) else none) = some (q, node')) :
    p = place ++ q ∧ q ≠ [] ∧ q.all isEntry = true ∧ node = node' := by
  split at h
  · next hbelow =>
    obtain ⟨rest, rfl, hne, hentries⟩ := isBelow_iff.1 hbelow
    rw [List.drop_left] at h
    obtain ⟨rfl, rfl⟩ := Prod.mk.inj (Option.some.inj h)
    exact ⟨rfl, hne, hentries, rfl⟩
  · exact nomatch h

theorem mem_nodesBelow_iff {t : FileTree α} {place : List String} {e : List String × Node α} :
    e ∈ t.nodesBelow place ↔
      e.1 ≠ [] ∧ e.1.all isEntry = true ∧ t.nodes.get? (place ++ e.1) = some e.2 := by
  rw [nodesBelow, List.mem_filterMap, OrderedMap.get?_eq_some_iff]
  constructor
  · rintro ⟨⟨p, node⟩, hmem, h⟩
    obtain ⟨rfl, hne, hentries, rfl⟩ := eq_append_of_below h
    exact ⟨hne, hentries, hmem⟩
  · rintro ⟨hne, hentries, hmem⟩
    refine ⟨_, hmem, ?_⟩
    dsimp only
    rw [if_pos (isBelow_iff.2 ⟨e.1, rfl, hne, hentries⟩), List.drop_left]

theorem nodup_nodesBelow (t : FileTree α) (place : List String) :
    ((t.nodesBelow place).map Prod.fst).Nodup := by
  refine OrderedMap.nodup_filterMap t.nodes.nodup fun e f e' f' hf hf' heq => ?_
  rw [(eq_append_of_below hf).1, (eq_append_of_below hf').1, heq]

theorem nodup_met (t : FileTree α) (place : List String) (sel : Selection) :
    ((t.met place sel).map Prod.fst).Nodup :=
  ((List.filter_sublist ..).map Prod.fst).nodup (nodup_nodesBelow t place)

/-! ## Order -/

theorem pairwise_sortByPath {files : List (List String × α)} (h : (files.map Prod.fst).Nodup) :
    (sortByPath files).Pairwise fun f g => f.1 < g.1 := by
  have hsorted : (sortByPath files).Pairwise fun f g => f.1 ≤ g.1 := by
    refine (List.pairwise_mergeSort ?_ ?_ _).imp fun h => Path.not_precedes_iff_le.1 h
    · intro f g k hfg hgk
      rw [Path.not_precedes_iff_le] at hfg hgk ⊢
      exact le_trans hfg hgk
    · intro f g
      rw [Bool.or_eq_true, Path.not_precedes_iff_le, Path.not_precedes_iff_le]
      exact le_total f.1 g.1
  have hdistinct : ((sortByPath files).map Prod.fst).Nodup := by
    rwa [sortByPath, ((List.mergeSort_perm _ _).map Prod.fst).nodup_iff]
  exact (hsorted.and (List.pairwise_map.1 hdistinct)).imp fun h => lt_of_le_of_ne h.1 h.2

/-- Lists in the order of paths are the same if they have the same files. -/
theorem eq_of_pairwise_lt {fs gs : List (List String × α)} (hfs : fs.Pairwise fun f g => f.1 < g.1)
    (hgs : gs.Pairwise fun f g => f.1 < g.1) (h : ∀ f, f ∈ fs ↔ f ∈ gs) : fs = gs := by
  have hnodup {fs : List (List String × α)} (hfs : fs.Pairwise fun f g => f.1 < g.1) : fs.Nodup := by
    apply hfs.imp
    rintro f g hlt rfl
    exact lt_irrefl _ hlt
  refine List.Perm.eq_of_pairwise ?_ hfs hgs ((List.perm_ext_iff_of_nodup (hnodup hfs) (hnodup hgs)).2 h)
  intro f g _ _ hfg hgf
  exact absurd hgf (lt_asymm hfg)

/-! ## Gathering -/

section

variable {sel : Selection} {place path : List String} {content : α} {entries : List (List String × Node α)}

theorem wantedFile?_eq_some_iff {e : List String × Node α} : wantedFile? sel e = some (path, content) ↔
    e = (path, .file content) ∧ sel.accepts (path.getLast?.getD "") = true := by
  constructor
  · intro h
    obtain ⟨p, node⟩ := e
    cases node with
    | directory => exact nomatch h
    | file c =>
      rw [wantedFile?] at h
      split at h
      · next haccepts =>
        obtain ⟨rfl, rfl⟩ := Prod.mk.inj (Option.some.inj h)
        exact ⟨rfl, haccepts⟩
      · exact nomatch h
  · rintro ⟨rfl, haccepts⟩
    exact if_pos haccepts

theorem mem_gather : (path, content) ∈ gather sel entries ↔
    (path, .file content) ∈ entries ∧ sel.accepts (path.getLast?.getD "") = true := by
  rw [gather, sortByPath, (List.mergeSort_perm _ _).mem_iff, List.mem_filterMap]
  simp only [wantedFile?_eq_some_iff]
  constructor
  · rintro ⟨e, hmem, rfl, haccepts⟩
    exact ⟨hmem, haccepts⟩
  · rintro ⟨hmem, haccepts⟩
    exact ⟨_, hmem, rfl, haccepts⟩

theorem pairwise_gather (sel : Selection) (h : (entries.map Prod.fst).Nodup) :
    (gather sel entries).Pairwise fun f g => f.1 < g.1 := by
  refine pairwise_sortByPath (OrderedMap.nodup_filterMap h ?_)
  rintro e ⟨p, c⟩ e' ⟨q, d⟩ hf hg heq
  rw [(wantedFile?_eq_some_iff.1 hf).1, (wantedFile?_eq_some_iff.1 hg).1]
  exact heq

theorem pairwise_collect (t : FileTree α) (place : List String) (sel : Selection) :
    (t.collect place sel).Pairwise fun f g => f.1 < g.1 :=
  pairwise_gather sel (nodup_met t place sel)

theorem mem_collect {t : FileTree α} : (path, content) ∈ t.collect place sel ↔
    (sel.meets path = true ∧ sel.accepts (path.getLast?.getD "") = true) ∧ path ≠ [] ∧
      path.all isEntry = true ∧ t.nodes.get? (place ++ path) = some (.file content) := by
  rw [collect, mem_gather, met, List.mem_filter, mem_nodesBelow_iff]
  tauto

end

/-! ## Directories -/

theorem reach_of_directory {t : FileTree α} {dir : Path} (h : t.state dir = .directory) :
    t.reach dir = .ok (lexicalPlace dir) := by
  cases hr : t.reach dir with
  | error e =>
    unfold state at h
    rw [hr] at h
    cases e with
    | fault what q => cases what <;> exact nomatch h
    | embeddedNul => exact nomatch h
  | ok place => rw [lexicalPlace_of_reach hr]

/-- Nothing ends a walk through a directory: no path that is met is refused, and no directory lies too deep
to be entered. -/
def Passable (t : FileTree α) (nesting : Nat) (dir : Path) (sel : Selection) : Prop :=
  ∀ path node, (path, node) ∈ t.met (lexicalPlace dir) sel →
    (∀ e, t.state (dir.below path) ≠ .refused e) ∧
      (sel.recursive = true → node = .directory → path.length ≤ nesting)

section

variable {t : FileTree α} {nesting : Nat} {dir : Path} {sel : Selection} {path : List String}
  {node : Node α} {found : List (Path × α)} {e : WalkError}

theorem obstacle?_eq_none : t.obstacle? nesting dir sel (path, node) = none ↔
    (∀ e, t.state (dir.below path) ≠ .refused e) ∧
      (sel.recursive = true → node = .directory → path.length ≤ nesting) := by
  cases hstate : t.state (dir.below path) <;> cases node <;> simp [obstacle?, hstate]

theorem obstacle?_eq_some : t.obstacle? nesting dir sel (path, node) = some e ↔
    (∃ cause, t.state (dir.below path) = .refused cause ∧ .path cause = e) ∨
      (∀ cause, t.state (dir.below path) ≠ .refused cause) ∧ sel.recursive = true ∧
        node = .directory ∧ nesting < path.length ∧ .tooDeep = e := by
  cases hstate : t.state (dir.below path) <;> cases node <;>
    simp [obstacle?, hstate, and_assoc]

theorem collectIn_of_directory (h : t.state dir = .directory) (nesting : Nat) (sel : Selection) :
    t.collectIn nesting dir sel =
      match (t.met (lexicalPlace dir) sel).findSome? (t.obstacle? nesting dir sel) with
      | some e => .error e
      | none => .ok ((t.collect (lexicalPlace dir) sel).map fun f => (dir.below f.1, f.2)) := by
  unfold collectIn
  split
  · next place hplace _ =>
    obtain rfl := Except.ok.inj ((reach_of_directory h).symm.trans hplace)
    rfl
  · next hrefused => exact nomatch h.symm.trans hrefused
  · next hother => exact absurd h (hother _ (reach_of_directory h))

theorem passable_iff_findSome? : t.Passable nesting dir sel ↔
    (t.met (lexicalPlace dir) sel).findSome? (t.obstacle? nesting dir sel) = none := by
  simp only [Passable, List.findSome?_eq_none_iff, Prod.forall, obstacle?_eq_none]

theorem collectIn_eq_ok (h : t.state dir = .directory) : t.collectIn nesting dir sel = .ok found ↔
    t.Passable nesting dir sel ∧
      found = (t.collect (lexicalPlace dir) sel).map fun f => (dir.below f.1, f.2) := by
  rw [collectIn_of_directory h, passable_iff_findSome?]
  cases (t.met (lexicalPlace dir) sel).findSome? (t.obstacle? nesting dir sel) <;> simp [eq_comm]

/-- An error is that of something that was met. -/
theorem exists_obstacle (h : t.state dir = .directory) (he : t.collectIn nesting dir sel = .error e) :
    ∃ entry ∈ t.met (lexicalPlace dir) sel, t.obstacle? nesting dir sel entry = some e := by
  rw [collectIn_of_directory h] at he
  split at he
  · next hfind =>
    obtain rfl := Except.error.inj he
    exact List.exists_of_findSome?_eq_some hfind
  · exact nomatch he

theorem collectIn_of_obstacle {entry : List String × Node α} {rest : List (List String × Node α)}
    (h : t.state dir = .directory) (hmet : t.met (lexicalPlace dir) sel = entry :: rest)
    (hentry : t.obstacle? nesting dir sel entry = some e) : t.collectIn nesting dir sel = .error e := by
  rw [collectIn_of_directory h, hmet, List.findSome?_cons, hentry]

theorem passable_iff (h : t.state dir = .directory) :
    t.Passable nesting dir sel ↔ ∃ found, t.collectIn nesting dir sel = .ok found := by
  simp only [collectIn_eq_ok h, exists_and_left, exists_eq, and_true]

/-- The files collected in a directory stand in the tree. -/
theorem mem_entries_of_collectIn (h : t.state dir = .directory)
    (hfound : t.collectIn nesting dir sel = .ok found) {file : Path × α} (hfile : file ∈ found) :
    ∃ place, (place, .file file.2) ∈ t.nodes.entries := by
  obtain ⟨-, rfl⟩ := (collectIn_eq_ok h).1 hfound
  obtain ⟨f, hf, rfl⟩ := List.mem_map.1 hfile
  obtain ⟨-, -, -, hget⟩ := mem_collect.1 hf
  exact ⟨_, OrderedMap.get?_eq_some_iff.1 hget⟩

/-- No two of the files collected have one path. -/
theorem nodup_collectIn (h : t.collectIn nesting dir sel = .ok found) : (found.map Prod.fst).Nodup := by
  unfold collectIn at h
  split at h
  · next place _ _ =>
    split at h
    · exact nomatch h
    · obtain rfl := Except.ok.inj h
      have hbelow : Function.Injective dir.below := fun _ _ heq =>
        List.append_cancel_left (congrArg Path.components heq)
      have hnodup : ((t.collect place sel).map Prod.fst).Nodup :=
        List.pairwise_map.2 ((pairwise_collect t place sel).imp ne_of_lt)
      simpa only [List.map_map, Function.comp_def] using hnodup.map hbelow
  · exact nomatch h
  · split at h
    · obtain rfl := Except.ok.inj h
      exact List.nodup_nil
    · exact nomatch h

end

end Exif.FileTree
