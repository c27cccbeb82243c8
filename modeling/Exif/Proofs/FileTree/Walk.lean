import Exif.Proofs.Collect
import Mathlib.Data.List.Induction
import Mathlib.Logic.Relation

/-! Walks through a directory. A walk keeps the directories that it still has to read. A step reads one of
them, whichever it is, and sees its entries in any order; the directories among them are still to be read
then. What a walk has seen, with all that lies below the directories it still has to read, is the same
after every step. So a walk that has read everything has seen what lies below the directory where it
started, each once and whatever its order was. -/

namespace Exif.FileTree

variable {α : Type}

/-- All that a tree has stands in a directory. -/
def IsTree (t : FileTree α) : Prop :=
  ∀ place name node, t.nodes.get? (place ++ [name]) = some node → t.at? place = some .directory

/-- What lies below a place, by its components from there on: the entries of the directory there, and what
lies below those that are directories. -/
inductive LiesBelow (t : FileTree α) : List String → List String → Node α → Prop
  | entry {place : List String} {name : String} {node : Node α} (hname : isEntry name = true)
      (h : t.nodes.get? (place ++ [name]) = some node) : LiesBelow t place [name] node
  | inside {place rest : List String} {name : String} {node : Node α} (hname : isEntry name = true)
      (h : t.nodes.get? (place ++ [name]) = some .directory)
      (hrest : LiesBelow t (place ++ [name]) rest node) : LiesBelow t place (name :: rest) node

/-! ## Below a place -/

theorem isEntry_iff {name : String} : isEntry name = true ↔ name ≠ above ∧ [name] ≠ root := by
  rw [isEntry, Bool.and_eq_true, bne_iff_ne, bne_iff_ne]

/-- Neither the root nor a directory above the working directory is an entry. -/
theorem at?_of_entry (t : FileTree α) (place rest : List String) {name : String}
    (hname : isEntry name = true) : t.at? (place ++ name :: rest) = t.nodes.get? (place ++ name :: rest) := by
  obtain ⟨habove, hroot⟩ := isEntry_iff.1 hname
  rw [at?, if_neg]
  rintro (h | h)
  · cases place with
    | nil =>
      obtain ⟨rfl, -⟩ := List.cons.inj h
      exact hroot rfl
    | cons first place => simp [root] at h
  · have hmem := List.all_eq_true.1 h name (by simp)
    exact habove (of_decide_eq_true hmem)

theorem isTree_of_entries {t : FileTree α}
    (h : ∀ e ∈ t.nodes.entries, t.at? e.1.dropLast = some .directory) : t.IsTree := by
  intro place name node hget
  have hdirectory := h _ (OrderedMap.get?_eq_some_iff.1 hget)
  rwa [List.dropLast_concat] at hdirectory

/-- What stands farther below an entry makes the entry a directory. -/
theorem IsTree.directory {t : FileTree α} (ht : t.IsTree) {place rest : List String} {name : String}
    {node : Node α} (hne : rest ≠ []) (hentries : (name :: rest).all isEntry = true)
    (h : t.nodes.get? (place ++ name :: rest) = some node) :
    t.nodes.get? (place ++ [name]) = some .directory := by
  rw [List.all_cons, Bool.and_eq_true] at hentries
  induction rest using List.reverseRecOn generalizing node with
  | nil => exact absurd rfl hne
  | append_singleton rest last ih =>
    have hdirectory : t.at? (place ++ name :: rest) = some .directory :=
      ht _ last node (by rwa [List.append_assoc, List.cons_append])
    rw [at?_of_entry t place rest hentries.1] at hdirectory
    by_cases hnil : rest = []
    · rwa [hnil] at hdirectory
    · rw [List.all_append, Bool.and_eq_true] at hentries
      exact ih hnil ⟨hentries.1, hentries.2.1⟩ hdirectory

theorem liesBelow_iff {t : FileTree α} (ht : t.IsTree) {place rest : List String} {node : Node α} :
    t.LiesBelow place rest node ↔
      rest ≠ [] ∧ rest.all isEntry = true ∧ t.nodes.get? (place ++ rest) = some node := by
  constructor
  · intro h
    induction h with
    | @entry place name node hname h => exact ⟨List.cons_ne_nil _ _, by simp [hname], h⟩
    | @inside place rest name node hname h hrest ih =>
      obtain ⟨-, hentries, hget⟩ := ih
      refine ⟨List.cons_ne_nil _ _, by simp [hname, hentries], ?_⟩
      rwa [List.append_assoc] at hget
  · rintro ⟨hne, hentries, hget⟩
    induction rest generalizing place with
    | nil => exact absurd rfl hne
    | cons name rest ih =>
      rw [List.all_cons, Bool.and_eq_true] at hentries
      obtain ⟨hname, hrest⟩ := hentries
      by_cases hnil : rest = []
      · subst hnil
        exact .entry hname hget
      · have hdirectory := ht.directory hnil (by simp [hname, hrest]) hget
        refine .inside hname hdirectory (ih hnil hrest ?_)
        rwa [List.append_assoc]

theorem mem_nodesBelow {t : FileTree α} (ht : t.IsTree) {place rest : List String} {node : Node α} :
    (rest, node) ∈ t.nodesBelow place ↔ t.LiesBelow place rest node := by
  rw [mem_nodesBelow_iff, liesBelow_iff ht]

/-! ## Steps -/

structure Lists (t : FileTree α) (place : List String) (entries : List (String × Node α)) : Prop where
  nodup : (entries.map Prod.fst).Nodup
  mem : ∀ name node, (name, node) ∈ entries ↔
    isEntry name = true ∧ t.nodes.get? (place ++ [name]) = some node

def child? : List String × Node α → Option (String × Node α)
  | ([name], node) => some (name, node)
  | _ => none

/-- A walk on its way: the directories that it still has to read, and what it has seen, both by their
components from the directory where it started. -/
structure Walk (α : Type) where
  pending : List (List String)
  seen : List (List String × Node α)

def seenIn (rel : List String) (entries : List (String × Node α)) : List (List String × Node α) :=
  entries.map (Prod.map (fun name => rel ++ [name]) id)

def directoriesIn (rel : List String) (entries : List (String × Node α)) : List (List String) :=
  entries.filterMap fun e =>
    match e.2 with
    | .directory => some (rel ++ [e.1])
    | .file _ => none

/-- A step of a walk that started at a place: any of the directories it has to read may be the next, and
its entries come in any order. -/
inductive Step (t : FileTree α) (base : List String) : Walk α → Walk α → Prop
  | read (before after : List (List String)) {rel : List String} {entries : List (String × Node α)}
      (seen : List (List String × Node α)) (h : t.Lists (base ++ rel) entries) :
      Step t base ⟨before ++ rel :: after, seen⟩
        ⟨before ++ directoriesIn rel entries ++ after, seen ++ seenIn rel entries⟩

def nodesFrom (t : FileTree α) (base rel : List String) : List (List String × Node α) :=
  (t.nodesBelow (base ++ rel)).map (Prod.map (rel ++ ·) id)

def held (t : FileTree α) (base : List String) (w : Walk α) : List (List String × Node α) :=
  w.seen ++ w.pending.flatMap (t.nodesFrom base)

section

variable {t : FileTree α} {base rel path : List String} {node : Node α} {entries : List (String × Node α)}

theorem mem_nodesFrom (ht : t.IsTree) :
    (path, node) ∈ t.nodesFrom base rel ↔
      ∃ rest, path = rel ++ rest ∧ t.LiesBelow (base ++ rel) rest node := by
  rw [nodesFrom, List.mem_map]
  constructor
  · rintro ⟨⟨rest, node'⟩, hmem, heq⟩
    obtain ⟨rfl, rfl⟩ := Prod.mk.inj heq
    exact ⟨rest, rfl, (mem_nodesBelow ht).1 hmem⟩
  · rintro ⟨rest, rfl, h⟩
    exact ⟨(rest, node), (mem_nodesBelow ht).2 h, rfl⟩

theorem nodup_nodesFrom (t : FileTree α) (base rel : List String) : (t.nodesFrom base rel).Nodup :=
  (List.Nodup.of_map _ (nodup_nodesBelow t (base ++ rel))).map
    ((List.append_right_injective rel).prodMap Function.injective_id)

theorem mem_seenIn (h : t.Lists (base ++ rel) entries) :
    (path, node) ∈ seenIn rel entries ↔ ∃ name, path = rel ++ [name] ∧ isEntry name = true ∧
      t.nodes.get? (base ++ rel ++ [name]) = some node := by
  rw [seenIn, List.mem_map]
  constructor
  · rintro ⟨⟨name, node'⟩, hmem, heq⟩
    obtain ⟨rfl, rfl⟩ := Prod.mk.inj heq
    exact ⟨name, rfl, (h.mem _ _).1 hmem⟩
  · rintro ⟨name, rfl, hentry⟩
    exact ⟨(name, node), (h.mem _ _).2 hentry, rfl⟩

theorem mem_directoriesIn (h : t.Lists (base ++ rel) entries) :
    path ∈ directoriesIn rel entries ↔ ∃ name, path = rel ++ [name] ∧ isEntry name = true ∧
      t.nodes.get? (base ++ rel ++ [name]) = some .directory := by
  rw [directoriesIn, List.mem_filterMap]
  constructor
  · rintro ⟨⟨name, node⟩, hmem, heq⟩
    cases node with
    | file content => exact nomatch heq
    | directory => exact ⟨name, (Option.some.inj heq).symm, (h.mem _ _).1 hmem⟩
  · rintro ⟨name, rfl, hentry⟩
    exact ⟨(name, .directory), (h.mem _ _).2 hentry, rfl⟩

theorem nodup_seenIn (h : t.Lists (base ++ rel) entries) : (seenIn rel entries).Nodup :=
  (List.Nodup.of_map _ h.nodup).map
    (((List.append_right_injective rel).comp List.singleton_injective).prodMap Function.injective_id)

theorem nodup_directoriesIn (h : t.Lists (base ++ rel) entries) : (directoriesIn rel entries).Nodup := by
  rw [← List.map_id (directoriesIn rel entries)]
  refine OrderedMap.nodup_filterMap h.nodup ?_
  rintro ⟨name, node⟩ p ⟨name', node'⟩ p' hp hp' heq
  cases node with
  | file content => exact nomatch hp
  | directory =>
    cases node' with
    | file content => exact nomatch hp'
    | directory =>
      obtain rfl := Option.some.inj hp
      obtain rfl := Option.some.inj hp'
      exact (List.cons.inj (List.append_cancel_left heq)).1

theorem LiesBelow.ne_nil {place rest : List String} (h : t.LiesBelow place rest node) : rest ≠ [] := by
  cases h <;> exact List.cons_ne_nil _ _

/-- What a step sees, and what lies below the directories that it adds, are all different. -/
theorem nodup_read (ht : t.IsTree) (h : t.Lists (base ++ rel) entries) :
    (seenIn rel entries ++ (directoriesIn rel entries).flatMap (t.nodesFrom base)).Nodup := by
  refine List.Nodup.append (nodup_seenIn h) (List.nodup_flatMap.2 ⟨?_, ?_⟩) ?_
  · intro directory _
    exact nodup_nodesFrom t base directory
  · refine (nodup_directoriesIn h).pairwise_of_forall_ne ?_
    rintro p hp q hq hne ⟨path, node⟩ hmem hmem'
    obtain ⟨name, rfl, -, -⟩ := (mem_directoriesIn h).1 hp
    obtain ⟨name', rfl, -, -⟩ := (mem_directoriesIn h).1 hq
    obtain ⟨rest, rfl, -⟩ := (mem_nodesFrom ht).1 hmem
    obtain ⟨rest', heq, -⟩ := (mem_nodesFrom ht).1 hmem'
    rw [List.append_assoc, List.append_assoc, List.append_cancel_left_eq] at heq
    obtain ⟨rfl, -⟩ := List.cons.inj heq
    exact hne rfl
  · rintro ⟨path, node⟩ hmem hmem'
    obtain ⟨name, rfl, -, -⟩ := (mem_seenIn h).1 hmem
    obtain ⟨directory, hdirectory, hmem'⟩ := List.mem_flatMap.1 hmem'
    obtain ⟨name', rfl, -, -⟩ := (mem_directoriesIn h).1 hdirectory
    obtain ⟨rest, heq, hbelow⟩ := (mem_nodesFrom ht).1 hmem'
    rw [List.append_assoc, List.append_cancel_left_eq] at heq
    exact hbelow.ne_nil (List.cons.inj heq).2.symm

/-- What lies below a directory are its entries, and what lies below those that are directories. -/
theorem nodesFrom_perm (ht : t.IsTree) (h : t.Lists (base ++ rel) entries) :
    (t.nodesFrom base rel).Perm
      (seenIn rel entries ++ (directoriesIn rel entries).flatMap (t.nodesFrom base)) := by
  rw [List.perm_ext_iff_of_nodup (nodup_nodesFrom t base rel) (nodup_read ht h)]
  rintro ⟨path, node⟩
  rw [List.mem_append, mem_nodesFrom ht, mem_seenIn h, List.mem_flatMap]
  constructor
  · rintro ⟨rest, rfl, hbelow⟩
    cases hbelow with
    | entry hname hget => exact Or.inl ⟨_, rfl, hname, hget⟩
    | @inside _ rest name _ hname hget hrest =>
      refine Or.inr ⟨rel ++ [name], (mem_directoriesIn h).2 ⟨name, rfl, hname, hget⟩, ?_⟩
      refine (mem_nodesFrom ht).2 ⟨rest, by simp, ?_⟩
      rwa [← List.append_assoc]
  · rintro (⟨name, rfl, hname, hget⟩ | ⟨directory, hdirectory, hmem⟩)
    · exact ⟨[name], rfl, .entry hname hget⟩
    · obtain ⟨name, rfl, hname, hget⟩ := (mem_directoriesIn h).1 hdirectory
      obtain ⟨rest, rfl, hbelow⟩ := (mem_nodesFrom ht).1 hmem
      rw [← List.append_assoc] at hbelow
      exact ⟨name :: rest, by simp, .inside hname hget hbelow⟩

/-! ## Runs -/

/-- A step keeps what is held: entries that were to come are seen, and what lies below the directories
among them is still to come. -/
theorem Step.perm (ht : t.IsTree) {w w' : Walk α} (h : Step t base w w') :
    (t.held base w).Perm (t.held base w') := by
  cases h with
  | read before after seen h =>
    simp only [held, List.flatMap_append, List.flatMap_cons, List.append_assoc]
    refine List.Perm.append_left seen ?_
    have hread := (nodesFrom_perm ht h).append_right (after.flatMap (t.nodesFrom base))
    rw [List.append_assoc] at hread
    exact (hread.append_left _).trans (List.perm_append_comm_assoc _ _ _)

theorem held_perm (ht : t.IsTree) {w w' : Walk α} (h : Relation.ReflTransGen (Step t base) w w') :
    (t.held base w).Perm (t.held base w') := by
  induction h with
  | refl => exact List.Perm.refl _
  | tail _ hstep ih => exact ih.trans (hstep.perm ht)

/-- A walk through a directory that has read all it had to read. -/
def Sees (t : FileTree α) (base : List String) (seen : List (List String × Node α)) : Prop :=
  Relation.ReflTransGen (Step t base) ⟨[[]], []⟩ ⟨[], seen⟩

theorem Sees.perm (ht : t.IsTree) {seen : List (List String × Node α)} (h : t.Sees base seen) :
    seen.Perm (t.nodesBelow base) := by
  have hheld := held_perm ht h
  simpa [held, nodesFrom, Prod.map, ← Function.id_def] using hheld.symm

/-! ## Every directory can be walked through -/

theorem child?_eq_some_iff {e : List String × Node α} {name : String} :
    child? e = some (name, node) ↔ e = ([name], node) := by
  obtain ⟨p, x⟩ := e
  rcases p with _ | ⟨first, _ | ⟨second, rest⟩⟩ <;> simp [child?]

theorem exists_lists (ht : t.IsTree) (place : List String) : ∃ entries, t.Lists place entries := by
  refine ⟨(t.nodesBelow place).filterMap child?, ?_, ?_⟩
  · refine OrderedMap.nodup_filterMap (nodup_nodesBelow t place) ?_
    rintro e ⟨name, x⟩ e' ⟨name', x'⟩ he he' heq
    rw [child?_eq_some_iff.1 he, child?_eq_some_iff.1 he', show name = name' from heq]
  · intro name node
    simp only [List.mem_filterMap, child?_eq_some_iff, exists_eq_right, mem_nodesBelow ht,
      liesBelow_iff ht]
    simp

/-- Every step takes one directory away, and what it adds was below that directory. -/
theorem exists_run (ht : t.IsTree) (bound : Nat) (w : Walk α)
    (h : 2 * (w.pending.flatMap (t.nodesFrom base)).length + w.pending.length ≤ bound) :
    ∃ seen, Relation.ReflTransGen (Step t base) w ⟨[], seen⟩ := by
  induction bound generalizing w with
  | zero =>
    obtain ⟨pending, seen⟩ := w
    obtain rfl : pending = [] := List.length_eq_zero_iff.1 (by simp only at h; omega)
    exact ⟨seen, .refl⟩
  | succ bound ih =>
    obtain ⟨pending, seen⟩ := w
    cases pending with
    | nil => exact ⟨seen, .refl⟩
    | cons rel after =>
      obtain ⟨entries, hlists⟩ := exists_lists ht (base ++ rel)
      have hsame := (nodesFrom_perm ht hlists).length_eq
      have hfewer : (directoriesIn rel entries).length ≤ (seenIn rel entries).length := by
        rw [seenIn, List.length_map]
        exact List.length_filterMap_le _ _
      simp only [List.flatMap_cons, List.length_append, List.length_cons] at h hsame
      have hless : 2 * ((directoriesIn rel entries ++ after).flatMap (t.nodesFrom base)).length +
          (directoriesIn rel entries ++ after).length ≤ bound := by
        simp only [List.flatMap_append, List.length_append]
        omega
      obtain ⟨final, hrun⟩ := ih ⟨_, seen ++ seenIn rel entries⟩ hless
      exact ⟨final, .head (.read [] after seen hlists) hrun⟩

theorem exists_sees (ht : t.IsTree) (base : List String) : ∃ seen, t.Sees base seen :=
  exists_run ht _ _ le_rfl

end

end Exif.FileTree
