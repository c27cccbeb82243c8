import Exif.Proofs.FileFormat.Language
import Exif.Proofs.FileTree.Length

/-! What is collected of a directory. Something met on the way may be in the way; otherwise it is what one
gathers from the entries of the directory or, with subdirectories, from any walk through it, whatever their
order: the wanted files in the order of their paths, each once. -/

namespace Exif

/-- The name of a picture that is not hidden, or need not be. -/
theorem Selection.accepts_iff {sel : Selection} {name : String} : sel.accepts name = true ↔
    (sel.includeHidden = true ∨ name.toList.head? ≠ some '.') ∧
      ∃ stem ext f, name = stem ++ "." ++ ext ∧ stem ≠ "" ∧ FileFormat.Tells ext.toList f := by
  rw [accepts, Bool.and_eq_true, FileFormat.isImage_ofName_iff, Bool.or_eq_true, isHidden, Bool.not_eq_true',
    decide_eq_false_iff_not]

namespace FileTree

variable {α : Type}

/-- What is met below a place: with subdirectories all that lies below it, else its entries. -/
def Meets (t : FileTree α) (place : List String) (sel : Selection) (path : List String) (node : Node α) :
    Prop :=
  t.LiesBelow place path node ∧ (sel.recursive = true ∨ path.length = 1)

/-- What may be seen below a place: the entries of the directory or, with subdirectories, what a walk
sees, in any order. -/
inductive Enumerates (t : FileTree α) (place : List String) : Bool → List (List String × Node α) → Prop
  | entries {entries : List (String × Node α)} (h : t.Lists place entries) :
      Enumerates t place false (seenIn [] entries)
  | walk {seen seen' : List (List String × Node α)} (h : t.Sees place seen) (horder : seen.Perm seen') :
      Enumerates t place true seen'

variable {t : FileTree α} {place path : List String} {recursive : Bool} {sel : Selection}
  {node : Node α} {content : α} {seen : List (List String × Node α)}

theorem exists_enumerates (ht : t.IsTree) (place : List String) (recursive : Bool) :
    ∃ seen, t.Enumerates place recursive seen := by
  cases recursive with
  | false =>
    obtain ⟨entries, h⟩ := exists_lists ht place
    exact ⟨_, .entries h⟩
  | true =>
    obtain ⟨seen, h⟩ := exists_sees ht place
    exact ⟨seen, .walk h (List.Perm.refl _)⟩

theorem mem_of_enumerates (ht : t.IsTree) (h : t.Enumerates place recursive seen) :
    (path, node) ∈ seen ↔ t.LiesBelow place path node ∧ (recursive = true ∨ path.length = 1) := by
  cases h with
  | @entries entries h =>
    have hbase : t.Lists (place ++ []) entries := by rwa [List.append_nil]
    rw [mem_seenIn hbase, List.append_nil]
    constructor
    · rintro ⟨name, rfl, hname, hget⟩
      exact ⟨.entry hname hget, Or.inr rfl⟩
    · rintro ⟨hbelow, hlength⟩
      obtain ⟨name, rfl⟩ := List.length_eq_one_iff.1 (hlength.resolve_left Bool.false_ne_true)
      obtain ⟨-, hname, hget⟩ := (liesBelow_iff ht).1 hbelow
      exact ⟨name, rfl, by simpa using hname, hget⟩
  | walk h horder =>
    rw [← horder.mem_iff, (h.perm ht).mem_iff, mem_nodesBelow ht]
    exact (and_iff_left (Or.inl rfl)).symm

theorem nodup_of_enumerates (ht : t.IsTree) (h : t.Enumerates place recursive seen) :
    (seen.map Prod.fst).Nodup := by
  cases h with
  | entries h =>
    have hpaths := h.nodup.map List.singleton_injective
    rw [List.map_map] at hpaths
    rwa [seenIn, List.map_map]
  | walk h horder =>
    rw [((horder.symm.trans (h.perm ht)).map Prod.fst).nodup_iff]
    exact nodup_nodesBelow t place

/-! ## Collecting -/

theorem mem_met (ht : t.IsTree) : (path, node) ∈ t.met place sel ↔ t.Meets place sel path node := by
  rw [met, List.mem_filter, mem_nodesBelow ht, Meets, Selection.meets, Bool.or_eq_true, decide_eq_true_eq]

theorem mem_collect_iff (ht : t.IsTree) : (path, content) ∈ t.collect place sel ↔
    t.Meets place sel path (.file content) ∧ sel.accepts (path.getLast?.getD "") = true := by
  rw [collect, mem_gather, mem_met ht]

theorem mem_seen_iff_mem_met (ht : t.IsTree) (h : t.Enumerates place sel.recursive seen) :
    (path, node) ∈ seen ↔ (path, node) ∈ t.met place sel := by
  rw [mem_of_enumerates ht h, mem_met ht, Meets]

/-- Whatever the order, the same is gathered. -/
theorem gather_eq_collect (ht : t.IsTree) (h : t.Enumerates place sel.recursive seen) :
    gather sel seen = t.collect place sel := by
  refine eq_of_pairwise_lt (pairwise_gather sel (nodup_of_enumerates ht h))
    (pairwise_collect t place sel) ?_
  rintro ⟨path, content⟩
  rw [collect, mem_gather, mem_gather, mem_seen_iff_mem_met ht h]

/-- Whatever the order, the same is in the way. -/
theorem passable_iff_of_enumerates (ht : t.IsTree) {nesting : Nat} {dir : Path}
    (h : t.Enumerates (lexicalPlace dir) sel.recursive seen) :
    t.Passable nesting dir sel ↔ ∀ e ∈ seen, t.obstacle? nesting dir sel e = none := by
  simp only [Passable, Prod.forall, obstacle?_eq_none, mem_seen_iff_mem_met ht h]

theorem below_mem_iff (ht : t.IsTree) {dir p : Path} :
    (p, content) ∈ (t.collect place sel).map (fun f => (dir.below f.1, f.2)) ↔
      ∃ front name, p = dir.below (front ++ [name]) ∧
        t.LiesBelow place (front ++ [name]) (.file content) ∧ (sel.recursive = true ∨ front = []) ∧
        (sel.includeHidden = true ∨ name.toList.head? ≠ some '.') ∧
        ∃ stem ext f, name = stem ++ "." ++ ext ∧ stem ≠ "" ∧ FileFormat.Tells ext.toList f := by
  rw [List.mem_map]
  constructor
  · rintro ⟨⟨path, c⟩, hmem, heq⟩
    obtain ⟨rfl, rfl⟩ := Prod.mk.inj heq
    obtain ⟨⟨hbelow, hdepth⟩, haccepts⟩ := (mem_collect_iff ht).1 hmem
    obtain ⟨front, name, rfl⟩ := (List.eq_nil_or_concat' path).resolve_left hbelow.ne_nil
    rw [List.getLast?_concat, Option.getD_some, Selection.accepts_iff] at haccepts
    exact ⟨front, name, rfl, hbelow, by simpa using hdepth, haccepts⟩
  · rintro ⟨front, name, rfl, hbelow, hdepth, haccepts⟩
    refine ⟨(front ++ [name], content), (mem_collect_iff ht).2 ⟨⟨hbelow, by simpa using hdepth⟩, ?_⟩, rfl⟩
    rw [List.getLast?_concat, Option.getD_some, Selection.accepts_iff]
    exact haccepts

/-- What is collected of a directory. There is a list unless something that is met is in the way: a path that
is refused or, with subdirectories, a directory below which the walk cannot go. The list is in the order of
the components of the paths, none twice. It has every file that lies in the directory or, with
subdirectories, anywhere below it, if its own name is not hidden, or hidden ones are included, and is the
name of a picture. There is an order in which one may see what lies there, and in whatever order it is seen,
the same is in the way and gathering the wanted files gives the same list. -/
theorem collects_exactly (ht : t.IsTree) {dir : Path} (hdir : t.state dir = .directory) (nesting : Nat)
    (sel : Selection) :
    ∃ place, t.reach dir = .ok place ∧
      -- whether there is a list
      ((∃ found, t.collectIn nesting dir sel = .ok found) ↔
        ∀ path node, t.Meets place sel path node →
          (∀ cause, t.state (dir.below path) ≠ .refused cause) ∧
            (sel.recursive = true → node = .directory → path.length ≤ nesting)) ∧
      (∀ e, t.collectIn nesting dir sel = .error e → ∃ path node, t.Meets place sel path node ∧
        ((∃ cause, t.state (dir.below path) = .refused cause ∧ .path cause = e) ∨
          sel.recursive = true ∧ node = .directory ∧ nesting < path.length ∧ .tooDeep = e)) ∧
      -- what the list is
      (∀ found, t.collectIn nesting dir sel = .ok found →
        (found.Pairwise fun f g => f.1.components < g.1.components) ∧ (found.map Prod.fst).Nodup ∧
          ∀ p content, (p, content) ∈ found ↔ ∃ front name, p = dir.below (front ++ [name]) ∧
            t.LiesBelow place (front ++ [name]) (.file content) ∧ (sel.recursive = true ∨ front = []) ∧
            (sel.includeHidden = true ∨ name.toList.head? ≠ some '.') ∧
            ∃ stem ext f, name = stem ++ "." ++ ext ∧ stem ≠ "" ∧ FileFormat.Tells ext.toList f) ∧
      -- in whatever order the directory is seen
      (∃ seen, t.Enumerates place sel.recursive seen) ∧
      ∀ seen, t.Enumerates place sel.recursive seen →
        ((∃ found, t.collectIn nesting dir sel = .ok found) ↔
          ∀ e ∈ seen, t.obstacle? nesting dir sel e = none) ∧
        ∀ found, t.collectIn nesting dir sel = .ok found →
          (gather sel seen).map (fun f => (dir.below f.1, f.2)) = found := by
  refine ⟨_, reach_of_directory hdir, ?_, ?_, ?_, exists_enumerates ht _ _, ?_⟩
  · rw [← passable_iff hdir, Passable]
    simp only [mem_met ht]
  · intro e he
    obtain ⟨⟨path, node⟩, hmet, hobstacle⟩ := exists_obstacle hdir he
    refine ⟨path, node, (mem_met ht).1 hmet, ?_⟩
    exact (obstacle?_eq_some.1 hobstacle).imp_right And.right
  · intro found hfound
    refine ⟨?_, nodup_collectIn hfound, ?_⟩
    · obtain ⟨-, rfl⟩ := (collectIn_eq_ok hdir).1 hfound
      rw [List.pairwise_map]
      exact (pairwise_collect t _ sel).imp List.append_left_lt
    · obtain ⟨-, rfl⟩ := (collectIn_eq_ok hdir).1 hfound
      exact fun p content => below_mem_iff ht
  · intro seen h
    rw [← passable_iff hdir, passable_iff_of_enumerates ht h]
    refine ⟨Iff.rfl, fun found hfound => ?_⟩
    obtain ⟨-, rfl⟩ := (collectIn_eq_ok hdir).1 hfound
    rw [gather_eq_collect ht h]

/-- The order of components is not the order of the texts of paths. -/
example : ["a", "b.jpg"] < ["a.jpg"] ∧ "a.jpg" < "a/b.jpg" := by decide

/-- Pictures beside and below a directory, below a hidden directory and below one with the name of a
picture; a hidden picture and a text. -/
def album : FileTree Nat :=
  ⟨⟨[(["d"], .directory), (["d", "a.jpg"], .file 1), (["d", "a"], .directory),
      (["d", "a", "b.jpg"], .file 2), (["d", ".h"], .directory), (["d", ".h", "c.NEF"], .file 3),
      (["d", "p.png"], .directory), (["d", "p.png", "e.tif"], .file 4), (["d", ".z.jpg"], .file 5),
      (["d", "n.txt"], .file 6)], by decide⟩⟩

theorem collects_exactly_album :
    ∃ found, album.collectIn 1 ⟨.none, ["d"]⟩ ⟨true, false⟩ = .ok found ∧
      (⟨.none, ["d", ".h", "c.NEF"]⟩, 3) ∈ found ∧ (⟨.none, ["d", "p.png", "e.tif"]⟩, 4) ∈ found ∧
      ∀ content, (⟨.none, ["d", ".z.jpg"]⟩, content) ∉ found := by
  have htree : album.IsTree := by
    refine isTree_of_entries fun e he => ?_
    fin_cases he <;> rfl
  have hdir : album.state ⟨.none, ["d"]⟩ = .directory := rfl
  obtain ⟨place, hreach, -, -, hlist, -⟩ := collects_exactly htree hdir 1 ⟨true, false⟩
  obtain rfl : ["d"] = place := Except.ok.inj hreach
  have hpassable : album.Passable 1 ⟨.none, ["d"]⟩ ⟨true, false⟩ := passable_iff_findSome?.2 rfl
  obtain ⟨found, hfound⟩ := (passable_iff hdir).1 hpassable
  obtain ⟨-, -, hmem⟩ := hlist found hfound
  refine ⟨found, hfound, (hmem _ _).2 ⟨[".h"], "c.NEF", rfl, ?_, Or.inl rfl, Or.inr (by decide), ?_⟩,
    (hmem _ _).2 ⟨["p.png"], "e.tif", rfl, ?_, Or.inl rfl, Or.inr (by decide), ?_⟩, fun content h => ?_⟩
  · exact .inside (by decide) rfl (.entry (by decide) rfl)
  · exact ⟨"c", "NEF", .nef, by decide, by decide, "nef", by decide, by decide⟩
  · exact .inside (by decide) rfl (.entry (by decide) rfl)
  · exact ⟨"e", "tif", .tiff, by decide, by decide, "tif", by decide, by decide⟩
  · obtain ⟨front, name, hpath, -, -, hhidden, -⟩ := (hmem _ _).1 h
    have hcomponents : [".z.jpg"] = front ++ [name] := (List.cons.inj (congrArg Path.components hpath)).2
    have hname : ".z.jpg" = name := by simpa using congrArg List.getLast? hcomponents
    subst hname
    exact absurd hhidden (by decide)

/-! ## A long way to a directory -/

def farName : String := String.ofList (List.replicate 252 'd')

def farAlbum : FileTree Nat :=
  ⟨⟨[([farName], .directory), ([farName, "a.jpg"], .file 1)], by simp⟩⟩

/-- A path to the directory that enters and leaves it many times before. -/
def farWay : Path := ⟨.none, roundTrips farName [farName] 15⟩

theorem utf8ByteSize_farName : farName.utf8ByteSize = 252 := utf8ByteSize_replicate 'd' 252

theorem zero_not_mem_farName : Char.ofNat 0 ∉ farName.toList := not_mem_replicate (by decide) 252

theorem isEntry_farName : isEntry farName = true := by decide +kernel

theorem get?_farName : farAlbum.nodes.get? [farName] = some .directory := by
  simp [farAlbum, OrderedMap.get?]

theorem at?_farName : farAlbum.at? [farName] = some .directory :=
  (at?_of_entry farAlbum [] [] isEntry_farName).trans get?_farName

theorem follow_farWay : farAlbum.follow farWay = .ok [farName] := by
  have hshort : farName.utf8ByteSize ≤ maxComponent := utf8ByteSize_farName.trans_le (by decide)
  have hstart : farAlbum.at? [] = some .directory := rfl
  rw [follow, farWay]
  change (roundTrips farName [farName] 15).foldlM farAlbum.step [] = _
  rw [foldlM_step_roundTrips hstart isEntry_farName get?_farName hshort, List.foldlM_cons,
    step_of_entry hstart isEntry_farName, if_neg (Nat.not_lt.2 hshort)]
  rfl

theorem reach_farWay : farAlbum.reach farWay = .ok [farName] := by
  have hnul : farWay.text.toList.contains (Char.ofNat 0) = false := by
    rw [farWay, text_roundTrips (List.cons_ne_nil _ _), List.contains_eq_mem, decide_eq_false_iff_not]
    refine not_mem_roundTrips (List.cons_ne_nil _ _) zero_not_mem_farName ?_ (by decide) (by decide) 15
    rw [String.intercalate_singleton]
    exact zero_not_mem_farName
  have hpath : ¬ maxPath < farWay.text.utf8ByteSize := by
    rw [farWay, text_roundTrips (List.cons_ne_nil _ _), utf8ByteSize_roundTrips (List.cons_ne_nil _ _),
      String.intercalate_singleton, utf8ByteSize_farName]
    decide
  rw [reach, hnul, if_neg Bool.false_ne_true, if_neg hpath, follow_farWay]
  rfl

theorem state_farWay : farAlbum.state farWay = .directory := state_of_reach reach_farWay at?_farName

theorem lexicalPlace_farWay : lexicalPlace farWay = [farName] := (lexicalPlace_of_reach reach_farWay).symm

theorem liesBelow_farName : farAlbum.LiesBelow [farName] ["a.jpg"] (.file 1) :=
  .entry (by decide) (by simp [farAlbum, OrderedMap.get?])

/-- With the name of the picture the path is longer than paths may be. -/
theorem state_below_farWay : farAlbum.state (farWay.below ["a.jpg"]) =
    .refused (.fault .nameTooLong (farWay.below ["a.jpg"])) := by
  have hbelow : farAlbum.LiesBelow (lexicalPlace farWay) ["a.jpg"] (.file 1) := by
    rw [lexicalPlace_farWay]
    exact liesBelow_farName
  have htext : (farWay.below ["a.jpg"]).text =
      "/".intercalate (roundTrips farName [farName, "a.jpg"] 15) :=
    text_below_roundTrips (List.cons_ne_nil _ _) ["a.jpg"] 15
  refine (state_below_eq_refused state_farWay hbelow ?_).2 ⟨rfl, Or.inl ?_⟩
  · rw [htext]
    refine not_mem_roundTrips (List.cons_ne_nil _ _) zero_not_mem_farName ?_ (by decide) (by decide) 15
    rw [String.intercalate_cons_cons, String.intercalate_singleton, String.toList_append,
      String.toList_append, List.mem_append, List.mem_append]
    rintro ((hname | hslash) | hlast)
    · exact zero_not_mem_farName hname
    · exact absurd hslash (by decide)
    · exact absurd hlast (by decide)
  · rw [htext, utf8ByteSize_roundTrips (List.cons_ne_nil _ _), String.intercalate_cons_cons,
      String.intercalate_singleton, String.utf8ByteSize_append, String.utf8ByteSize_append,
      utf8ByteSize_farName]
    decide

/-- A directory may be found by a path on which its pictures are not: nothing is collected then. -/
theorem not_collected_farWay :
    farAlbum.IsTree ∧ farAlbum.state farWay = .directory ∧ farAlbum.reach farWay = .ok [farName] ∧
      -- the picture is wanted
      farAlbum.LiesBelow [farName] ["a.jpg"] (.file 1) ∧
      (Selection.mk false false).accepts "a.jpg" = true ∧
      ∀ nesting recursive, farAlbum.collectIn nesting farWay ⟨recursive, false⟩ =
        .error (.path (.fault .nameTooLong (farWay.below ["a.jpg"]))) := by
  refine ⟨?_, state_farWay, reach_farWay, liesBelow_farName, by decide, fun nesting recursive => ?_⟩
  · refine isTree_of_entries fun e he => ?_
    simp only [farAlbum, List.mem_cons, List.not_mem_nil, or_false] at he
    obtain rfl | rfl := he
    · rfl
    · exact at?_farName
  · have hmet : farAlbum.met (lexicalPlace farWay) ⟨recursive, false⟩ = [(["a.jpg"], .file 1)] := by
      have hself : isBelow [farName] [farName] = false := by simp [isBelow]
      have hfile : isBelow [farName] [farName, "a.jpg"] = true :=
        isBelow_iff.2 ⟨["a.jpg"], rfl, by decide, by decide⟩
      rw [lexicalPlace_farWay]
      simp [met, nodesBelow, farAlbum, hself, hfile, Selection.meets]
    exact collectIn_of_obstacle state_farWay hmet (obstacle?_eq_some.2 (Or.inl ⟨_, state_below_farWay, rfl⟩))

end FileTree

end Exif
