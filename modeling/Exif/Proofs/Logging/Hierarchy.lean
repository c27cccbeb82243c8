import Exif.Logging.Setup
import Mathlib.Data.List.TakeWhile

/-! The hierarchy of loggers, and the level that a logger takes from it once the decoders' loggers are
quietened. The name of a logger goes on, after a dot, from that of each logger above it. A logger in use
is above all whose names go on from its own, unless two dots follow there. -/

namespace Exif.Logging

def GoesOn (above name : String) : Prop := ∃ rest, name = above ++ "." ++ rest

/-- A name goes on from that of another logger after two dots, and perhaps more. -/
def SkipsOn (above name : String) : Prop := ∃ rest, name = above ++ ".." ++ rest

/-! ## Lineages -/

theorem suffix_of_cut {reversed more : List Char}
    (h : reversed.dropWhile (· != '.') = '.' :: more) : '.' :: more <:+ reversed :=
  h ▸ List.dropWhile_suffix (· != '.')

/-- Before the name of a logger above stands, read from the end, a dot. -/
theorem suffix_of_mem_lineage {inUse : List String} {above : String} {reversed : List Char}
    (h : above ∈ lineage inUse reversed) : '.' :: above.toList.reverse <:+ reversed := by
  fun_induction lineage inUse reversed with
  | case1 => exact nomatch h
  | case2 reversed more hcut _ name _ ih =>
    obtain rfl | h := List.mem_cons.1 h
    · rw [String.toList_ofList, List.reverse_reverse]
      exact suffix_of_cut hcut
    · exact ((ih h).trans (List.suffix_cons '.' more)).trans (suffix_of_cut hcut)
  | case3 reversed more hcut _ name _ ih =>
    have hmore := (ih h).trans (List.drop_suffix 1 more)
    exact (hmore.trans (List.suffix_cons '.' more)).trans (suffix_of_cut hcut)
  | case4 => exact nomatch h

/-- A text with a dot in it is cut at that dot or at one in front of it. -/
theorem cut_append {front tail reversed more : List Char} (h : front ++ '.' :: tail = reversed)
    (hcut : reversed.dropWhile (· != '.') = '.' :: more) :
    more = tail ∨ ∃ first rest, front = first ++ '.' :: rest ∧ more = rest ++ '.' :: tail := by
  induction front generalizing reversed with
  | nil =>
    subst h
    exact .inl (List.cons.inj hcut).2.symm
  | cons c front ih =>
    subst h
    by_cases hc : c = '.'
    · subst hc
      exact .inr ⟨[], front, rfl, (List.cons.inj hcut).2.symm⟩
    · rw [List.cons_append, List.dropWhile_cons_of_pos (by simpa using hc)] at hcut
      obtain hmore | ⟨first, rest, rfl, hmore⟩ := ih rfl hcut
      · exact .inl hmore
      · exact .inr ⟨c :: first, rest, rfl, hmore⟩

/-- A logger in use is found above a name that goes on from its own after a single dot. -/
theorem mem_lineage_of_append {inUse : List String} {above : String} (hinUse : above ∈ inUse)
    (hne : above ≠ "") (reversed : List Char) : ∀ front, ¬ ['.'] <:+ front →
      front ++ '.' :: above.toList.reverse = reversed → above ∈ lineage inUse reversed := by
  fun_induction lineage inUse reversed with
  | case1 reversed hcut =>
    intro front _ h
    obtain hnil | ⟨first, rest, -, hnil⟩ := cut_append h hcut
    · exact absurd (String.toList_eq_nil_iff.1 (List.reverse_eq_nil_iff.1 hnil.symm)) hne
    · exact absurd hnil (by simp)
  | case2 reversed more hcut _ name _ ih =>
    intro front hfront h
    obtain rfl | ⟨first, rest, rfl, rfl⟩ := cut_append h hcut
    · have hname : name = above := by simp [name]
      exact hname ▸ List.mem_cons_self ..
    · have hrest : rest <:+ first ++ '.' :: rest :=
        (List.suffix_cons '.' rest).trans (List.suffix_append first _)
      exact List.mem_cons_of_mem name (ih rest (fun hdot => hfront (hdot.trans hrest)) rfl)
  | case3 reversed more hcut _ name hname ih =>
    intro front hfront h
    obtain rfl | ⟨first, rest, rfl, rfl⟩ := cut_append h hcut
    · have habove : name = above := by simp [name]
      exact absurd (habove ▸ hinUse) hname
    · -- the character before the dot is passed over, and is no dot itself
      cases rest with
      | nil => exact absurd (List.suffix_append first ['.']) hfront
      | cons c rest =>
        have hrest : rest <:+ first ++ '.' :: c :: rest :=
          ((List.suffix_cons c rest).trans (List.suffix_cons '.' _)).trans (List.suffix_append first _)
        exact ih rest (fun hdot => hfront (hdot.trans hrest)) rfl
  | case4 reversed hnone =>
    intro front _ h
    have hdot : reversed.dropWhile (· != '.') ≠ [] := by
      intro hnil
      have := List.dropWhile_eq_nil_iff.1 hnil '.' (by simp [← h])
      exact absurd this (by simp)
    obtain ⟨c, more, hcut⟩ := List.exists_cons_of_ne_nil hdot
    have hc := List.head_dropWhile_not (· != '.') hdot
    simp only [hcut, List.head_cons, bne_eq_false_iff_eq] at hc
    exact (hnone more (hc ▸ hcut)).elim

/-! ## Names -/

/-- A logger above another has a name that the other's goes on from. -/
theorem goesOn_of_mem_lineage {inUse : List String} {above name : String}
    (h : above ∈ lineage inUse name.toList.reverse) : GoesOn above name := by
  obtain ⟨front, hfront⟩ := suffix_of_mem_lineage h
  refine ⟨String.ofList front.reverse, String.toList_inj.1 ?_⟩
  have := congrArg List.reverse hfront
  simpa using this.symm

theorem mem_lineage_of_goesOn {inUse : List String} {above name : String} (hinUse : above ∈ inUse)
    (hne : above ≠ "") (h : GoesOn above name) (hskips : ¬ SkipsOn above name) :
    above ∈ lineage inUse name.toList.reverse := by
  obtain ⟨rest, rfl⟩ := h
  refine mem_lineage_of_append hinUse hne _ rest.toList.reverse ?_ (by simp)
  rintro ⟨front, hfront⟩
  refine hskips ⟨String.ofList front.reverse, String.toList_inj.1 ?_⟩
  have := congrArg List.reverse hfront
  simp only [List.reverse_append, List.reverse_reverse] at this
  simp [← this]

/-! ## Levels -/

def IsQuiet (inUse : List String) (logger : String) : Prop :=
  ∃ quiet ∈ quietLoggers, quiet = logger ∨ quiet ∈ lineage inUse logger.toList.reverse

instance (inUse : List String) (logger : String) : Decidable (IsQuiet inUse logger) :=
  inferInstanceAs (Decidable (∃ quiet ∈ quietLoggers, _ ∨ _))

theorem isQuiet_of_goesOn {inUse : List String} {quiet logger : String} (hinUse : quietLoggers ⊆ inUse)
    (hquiet : quiet ∈ quietLoggers) (h : GoesOn quiet logger) (hskips : ¬ SkipsOn quiet logger) :
    IsQuiet inUse logger := by
  have hne : ∀ q ∈ quietLoggers, q ≠ "" := by decide
  exact ⟨quiet, hquiet, .inr (mem_lineage_of_goesOn (hinUse hquiet) (hne quiet hquiet) h hskips)⟩

theorem goesOn_of_isQuiet {inUse : List String} {logger : String} (h : IsQuiet inUse logger) :
    ∃ quiet ∈ quietLoggers, quiet = logger ∨ GoesOn quiet logger := by
  obtain ⟨quiet, hquiet, h⟩ := h
  exact ⟨quiet, hquiet, h.imp_right goesOn_of_mem_lineage⟩

theorem not_isQuiet_of_isRoot {inUse : List String} {logger : String} (h : isRoot logger = true) :
    ¬ IsQuiet inUse logger := by
  intro hquiet
  obtain ⟨quiet, hmem, rfl | hgoes⟩ := goesOn_of_isQuiet hquiet
  · have hnames : ∀ quiet ∈ quietLoggers, isRoot quiet = false := by decide
    exact absurd h (by simp [hnames quiet hmem])
  · have hdot : '.' ∈ logger.toList := by
      obtain ⟨rest, rfl⟩ := hgoes
      simp
    obtain rfl | rfl : logger = "" ∨ logger = rootName := by simpa [isRoot] using h
    · exact absurd hdot (by decide)
    · exact absurd hdot (by decide)

theorem isQuiet_iff {inUse : List String} {logger : String} : IsQuiet inUse logger ↔
    ∃ name ∈ logger :: lineage inUse logger.toList.reverse, name ∈ quietLoggers := by
  constructor
  · rintro ⟨quiet, hquiet, rfl | h⟩
    · exact ⟨quiet, List.mem_cons_self .., hquiet⟩
    · exact ⟨quiet, List.mem_cons_of_mem logger h, hquiet⟩
  · rintro ⟨name, h, hquiet⟩
    exact ⟨name, hquiet, List.mem_cons.1 h⟩

namespace State

/-- The first level in a lineage is that of the decoders' loggers. -/
theorem find?_ownLevel {s : State} (hquiet : s.quietLevel = warningLevel) (names : List String) :
    (names.map s.ownLevel).find? (· ≠ 0) =
      if ∃ name ∈ names, name ∈ quietLoggers then some warningLevel else none := by
  induction names with
  | nil => simp
  | cons name names ih =>
    rw [List.map_cons, List.find?_cons, ih, ownLevel, hquiet]
    by_cases hname : name ∈ quietLoggers <;> simp [hname, warningLevel]

/-- Once the decoders' loggers are quietened, those and all below them let warnings through, and every
other logger what the root does. -/
theorem effectiveLevel_eq {s : State} (hquiet : s.quietLevel = warningLevel) (logger : String) :
    s.effectiveLevel logger =
      if IsQuiet s.inUse logger then warningLevel else s.rootLevel.value := by
  unfold effectiveLevel
  split
  · next hroot => rw [if_neg (not_isQuiet_of_isRoot hroot)]
  · dsimp only
    rw [find?_ownLevel hquiet]
    simp only [isQuiet_iff]
    split <;> rfl

end State

end Exif.Logging
