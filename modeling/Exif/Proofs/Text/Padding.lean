import Exif.Proofs.Text.Clean
import Mathlib.Data.List.Chain

/-! What cleaning leaves of a padded text. Blanks, NULs and blanks again are cut off its end, in three
passes. A text whose end is padded with NULs in one place only becomes clean. Where NULs stand in two
places, with blanks between them, the first ones are left. -/

namespace Exif.Text

variable {p : Char → Bool} {cs ts xs ys : List Char} {s t : String}

/-! ## Cutting -/

/-- What is left by cutting at the front is the rest behind characters of the class. -/
theorem dropWhile_eq_iff : cs.dropWhile p = xs ↔
    ∃ lead, cs = lead ++ xs ∧ (∀ c ∈ lead, p c = true) ∧ ∀ c, xs.head? = some c → p c = false := by
  constructor
  · rintro rfl
    exact ⟨cs.takeWhile p, List.takeWhile_append_dropWhile.symm, fun _ => List.mem_takeWhile_imp,
      fun _ => head_dropWhile⟩
  · rintro ⟨lead, rfl, hlead, hhead⟩
    rw [List.dropWhile_append_of_pos hlead]
    cases xs with
    | nil => rfl
    | cons x xs => exact List.dropWhile_cons_of_neg (Bool.eq_false_iff.1 (hhead x rfl))

theorem trimEnd_eq_iff : trimEnd p cs = xs ↔
    ∃ tail, cs = xs ++ tail ∧ (∀ c ∈ tail, p c = true) ∧ ∀ c, xs.getLast? = some c → p c = false := by
  constructor
  · rintro rfl
    exact ⟨cs.rtakeWhile p, List.rdropWhile_append_rtakeWhile.symm,
      fun _ => List.mem_rtakeWhile_imp, fun _ => last_trimEnd⟩
  · rintro ⟨tail, rfl, htail, hlast⟩
    rw [trimEnd, List.reverse_eq_iff, dropWhile_eq_iff]
    refine ⟨tail.reverse, List.reverse_append, fun c hc => htail c (List.mem_reverse.1 hc), fun c hc => ?_⟩
    rw [List.head?_reverse] at hc
    exact hlast c hc

theorem trim_eq_iff : trim p cs = xs ↔ ∃ lead tail, cs = lead ++ xs ++ tail ∧ (∀ c ∈ lead, p c = true) ∧
    (∀ c ∈ tail, p c = true) ∧ Trimmed p xs := by
  constructor
  · rintro rfl
    obtain ⟨lead, hcs, hlead, -⟩ := dropWhile_eq_iff.1 (rfl : cs.dropWhile p = _)
    obtain ⟨tail, hrest, htail, -⟩ := trimEnd_eq_iff.1 (rfl : trim p cs = _)
    rw [hrest, ← List.append_assoc] at hcs
    exact ⟨lead, tail, hcs, hlead, htail, trimmed_trim p cs⟩
  · rintro ⟨lead, tail, rfl, hlead, htail, hxs⟩
    rw [trim, List.append_assoc, List.dropWhile_append_of_pos hlead]
    cases xs with
    | nil =>
      have hgone : tail.dropWhile p = [] := List.dropWhile_eq_nil_iff.2 htail
      rw [List.nil_append, hgone]
      rfl
    | cons x xs =>
      have hkept : ((x :: xs) ++ tail).dropWhile p = (x :: xs) ++ tail :=
        List.dropWhile_cons_of_neg (Bool.eq_false_iff.1 (hxs.head x rfl))
      rw [hkept, trimEnd_eq_iff]
      exact ⟨tail, rfl, htail, hxs.last⟩

theorem trim_eq_self (h : Trimmed p xs) : trim p xs = xs :=
  trim_eq_iff.2 ⟨[], [], (List.append_nil xs).symm, List.forall_mem_nil _, List.forall_mem_nil _, h⟩

/-! ## Padding -/

theorem isBlank_of_isNul {c : Char} (h : isNul c = true) : isBlank c = false := by
  obtain rfl : c = Char.ofNat 0 := beq_iff_eq.1 h
  rfl

theorem isNul_of_isBlank {c : Char} (h : isBlank c = true) : isNul c = false := by
  cases hnul : isNul c with
  | false => rfl
  | true => exact absurd h (Bool.eq_false_iff.1 (isBlank_of_isNul hnul))

def EndsInNul (cs : List Char) : Prop := ∃ c, cs.getLast? = some c ∧ isNul c = true

theorem EndsInNul.ne_nil (h : EndsInNul cs) : cs ≠ [] := by
  rintro rfl
  obtain ⟨c, hc, -⟩ := h
  exact nomatch hc

theorem EndsInNul.not_blank (h : EndsInNul cs) : ∀ c, cs.getLast? = some c → isBlank c = false := by
  obtain ⟨c, hc, hnul⟩ := h
  intro d hd
  obtain rfl := Option.some.inj (hc.symm.trans hd)
  exact isBlank_of_isNul hnul

theorem not_endsInNul : ¬ EndsInNul cs ↔ ∀ c, cs.getLast? = some c → isNul c = false := by
  simp [EndsInNul]

/-- The padding in which a text stands: blanks in front of it, and blanks, NULs and blanks behind it. -/
structure Padding (cs ts : List Char) where
  lead : List Char
  blanks : List Char
  nuls : List Char
  rest : List Char
  eq : cs = lead ++ (ts ++ blanks ++ nuls) ++ rest
  lead_blank : ∀ c ∈ lead, isBlank c = true
  blanks_blank : ∀ c ∈ blanks, isBlank c = true
  nuls_nul : ∀ c ∈ nuls, isNul c = true
  rest_blank : ∀ c ∈ rest, isBlank c = true

def Padding.none (ts : List Char) : Padding ts ts where
  lead := []
  blanks := []
  nuls := []
  rest := []
  eq := by simp only [List.nil_append, List.append_nil]
  lead_blank _ h := nomatch h
  blanks_blank _ h := nomatch h
  nuls_nul _ h := nomatch h
  rest_blank _ h := nomatch h

theorem last_append (hys : ∀ c ∈ ys, p c = false)
    (hxs : ys = [] → ∀ c, xs.getLast? = some c → p c = false) :
    ∀ c, (xs ++ ys).getLast? = some c → p c = false := by
  intro c hc
  by_cases hnil : ys = []
  · rw [hnil, List.append_nil] at hc
    exact hxs hnil c hc
  · rw [List.getLast?_append_of_ne_nil _ hnil] at hc
    exact hys c (List.mem_of_getLast? hc)

/-- The passes take a text out of its padding. They leave one that ends in a NUL only where blanks, and
NULs behind them, are cut off it: the second pass cuts all the NULs that it comes to. -/
theorem padding_of_cleanChars (hne : ts ≠ []) (h : cleanChars cs = ts) : Trimmed isBlank ts ∧
    ∃ pad : Padding cs ts, EndsInNul ts → pad.blanks ≠ [] ∧ pad.nuls ≠ [] := by
  obtain ⟨xs, hxs⟩ : ∃ xs, trim isBlank cs = xs := ⟨_, rfl⟩
  obtain ⟨ys, hys⟩ : ∃ ys, trimEnd isNul xs = ys := ⟨_, rfl⟩
  rw [cleanChars, hxs, hys] at h
  obtain ⟨lead, rest, rfl, hlead, hrest, hblank⟩ := trim_eq_iff.1 hxs
  obtain ⟨nuls, rfl, hnuls, hnul⟩ := trimEnd_eq_iff.1 hys
  obtain ⟨lead', blanks, rfl, hlead', hblanks, htrimmed⟩ := trim_eq_iff.1 h
  refine ⟨htrimmed, ⟨lead ++ lead', blanks, nuls, rest, by simp only [List.append_assoc],
    List.forall_mem_append.2 ⟨hlead, hlead'⟩, hblanks, hnuls, hrest⟩, ?_⟩
  rintro ⟨c, hc, hcnul⟩
  have hbetween : blanks ≠ [] := by
    rintro rfl
    rw [List.append_nil, List.getLast?_append_of_ne_nil _ hne] at hnul
    exact absurd hcnul (Bool.eq_false_iff.1 (hnul c hc))
  refine ⟨hbetween, ?_⟩
  rintro rfl
  -- without NULs behind them, the first pass would have cut the blanks
  have hlast := hblank.last (blanks.getLast hbetween)
  rw [List.append_nil, List.getLast?_append_of_ne_nil _ hbetween] at hlast
  exact absurd (hblanks _ (List.getLast_mem hbetween))
    (Bool.eq_false_iff.1 (hlast (List.getLast?_eq_some_getLast hbetween)))

theorem cleanChars_of_padding (hne : ts ≠ []) (htrimmed : Trimmed isBlank ts) (pad : Padding cs ts)
    (hends : EndsInNul ts → pad.blanks ≠ [] ∧ pad.nuls ≠ []) : cleanChars cs = ts := by
  obtain ⟨lead, blanks, nuls, rest, rfl, hlead, hblanks, hnuls, hrest⟩ := pad
  by_cases hnil : nuls = []
  · have hfirst : trim isBlank (lead ++ (ts ++ blanks ++ nuls) ++ rest) = ts := by
      refine trim_eq_iff.2 ⟨lead, blanks ++ rest, ?_, hlead, ?_, htrimmed⟩
      · rw [hnil]
        simp only [List.append_assoc, List.nil_append]
      · exact List.forall_mem_append.2 ⟨hblanks, hrest⟩
    have hlast : ¬ EndsInNul ts := fun h => (hends h).2 hnil
    have hsecond : trimEnd isNul ts = ts :=
      trimEnd_eq_iff.2 ⟨[], (List.append_nil ts).symm, List.forall_mem_nil _, not_endsInNul.1 hlast⟩
    rw [cleanChars, hfirst, hsecond, trim_eq_self htrimmed]
  · have hfirst : trim isBlank (lead ++ (ts ++ blanks ++ nuls) ++ rest) = ts ++ blanks ++ nuls := by
      refine trim_eq_iff.2 ⟨lead, rest, rfl, hlead, hrest, ?_, ?_⟩
      · rw [List.append_assoc, List.head?_append_of_ne_nil _ hne]
        exact htrimmed.head
      · exact last_append (fun c hc => isBlank_of_isNul (hnuls c hc)) fun h => absurd h hnil
    have hsecond : trimEnd isNul (ts ++ blanks ++ nuls) = ts ++ blanks := by
      refine trimEnd_eq_iff.2 ⟨nuls, rfl, hnuls, ?_⟩
      exact last_append (fun c hc => isNul_of_isBlank (hblanks c hc)) fun h =>
        not_endsInNul.1 fun hts => (hends hts).1 h
    have hthird : trim isBlank (ts ++ blanks) = ts :=
      trim_eq_iff.2 ⟨[], blanks, rfl, List.forall_mem_nil _, hblanks, htrimmed⟩
    rw [cleanChars, hfirst, hsecond, hthird]

/-- What cleaning comes to, for every text. -/
theorem clean_eq_some_iff : clean s = some t ↔ t ≠ "" ∧ Trimmed isBlank t.toList ∧
    ∃ pad : Padding s.toList t.toList, EndsInNul t.toList → pad.blanks ≠ [] ∧ pad.nuls ≠ [] := by
  constructor
  · intro h
    obtain ⟨ht, hne⟩ := clean_eq_some.1 h
    exact ⟨hne, padding_of_cleanChars (mt String.toList_eq_nil_iff.1 hne) ht.symm⟩
  · rintro ⟨hne, htrimmed, pad, hends⟩
    have ht := cleanChars_of_padding (mt String.toList_eq_nil_iff.1 hne) htrimmed pad hends
    exact clean_eq_some.2 ⟨ht.symm, hne⟩

/-! ## Clean texts -/

/-- A text with something in it, without a blank at either end and without a NUL at its end. -/
structure IsClean (t : String) : Prop where
  ne_empty : t ≠ ""
  trimmed : Trimmed isBlank t.toList
  not_endsInNul : ¬ EndsInNul t.toList

/-- There is nothing but an empty padding between a text and itself. -/
theorem Padding.nuls_eq_nil (pad : Padding ts ts) : pad.nuls = [] := by
  have hlength := congrArg List.length pad.eq
  simp only [List.length_append] at hlength
  exact List.eq_nil_of_length_eq_zero (by omega)

/-- Clean texts are those that cleaning leaves as they are. -/
theorem clean_eq_self_iff : clean t = some t ↔ IsClean t := by
  rw [clean_eq_some_iff]
  constructor
  · rintro ⟨hne, htrimmed, pad, hends⟩
    exact ⟨hne, htrimmed, fun h => (hends h).2 pad.nuls_eq_nil⟩
  · rintro ⟨hne, htrimmed, hlast⟩
    exact ⟨hne, htrimmed, .none _, fun h => absurd h hlast⟩

/-- A text with NULs in two places of its padding, and blanks between them. -/
def NulsApart (cs : List Char) : Prop :=
  ∃ front, EndsInNul front ∧ ∃ pad : Padding cs front, pad.blanks ≠ [] ∧ pad.nuls ≠ []

/-- Texts in which no NUL stands right behind a blank have their NULs in one place. -/
theorem not_nulsApart_of_isChain (h : cs.IsChain fun b c => isBlank b = true → isNul c = false) :
    ¬ NulsApart cs := by
  rintro ⟨front, -, ⟨lead, blanks, nuls, rest, rfl, _, hblanks, hnuls, _⟩, hbetween, hbehind⟩
  have hmiddle := (List.isChain_append.1 h.left_of_append.right_of_append).2.2
  rw [List.getLast?_append_of_ne_nil _ hbetween] at hmiddle
  have hnot := hmiddle _ (List.getLast?_eq_some_getLast hbetween) _ (List.head?_eq_some_head hbehind)
    (hblanks _ (List.getLast_mem hbetween))
  exact absurd (hnuls _ (List.head_mem hbehind)) (Bool.eq_false_iff.1 hnot)

/-- What ends in a NUL still does when the blanks at its front are cut off. -/
theorem EndsInNul.dropWhile (h : EndsInNul cs) : EndsInNul (cs.dropWhile isBlank) := by
  obtain ⟨c, hc, hnul⟩ := h
  have hne : cs.dropWhile isBlank ≠ [] := by
    intro hnil
    have hblank := List.dropWhile_eq_nil_iff.1 hnil c (List.mem_of_getLast? hc)
    exact absurd hblank (Bool.eq_false_iff.1 (isBlank_of_isNul hnul))
  rw [← List.takeWhile_append_dropWhile (p := isBlank) (l := cs),
    List.getLast?_append_of_ne_nil _ hne] at hc
  exact ⟨c, hc, hnul⟩

/-- Blanks at the front of a padded text belong to its padding as well. -/
def Padding.dropLead {lead : List Char} (pad : Padding cs (lead ++ ts))
    (h : ∀ c ∈ lead, isBlank c = true) : Padding cs ts :=
  { pad with
    lead := pad.lead ++ lead
    eq := pad.eq.trans (by simp only [List.append_assoc])
    lead_blank := List.forall_mem_append.2 ⟨pad.lead_blank, h⟩ }

/-- Of such a text, something is left that ends in a NUL. -/
theorem nulsApart_iff : NulsApart s.toList ↔ ∃ t, clean s = some t ∧ EndsInNul t.toList := by
  constructor
  · rintro ⟨front, hfront, pad, hparts⟩
    obtain ⟨xs, hxs⟩ : ∃ xs, front.dropWhile isBlank = xs := ⟨_, rfl⟩
    have hends : EndsInNul xs := by
      rw [← hxs]
      exact hfront.dropWhile
    obtain ⟨lead, rfl, hlead, hhead⟩ := dropWhile_eq_iff.1 hxs
    have hne : String.ofList xs ≠ "" := mt String.ofList_eq_empty_iff.1 hends.ne_nil
    refine ⟨String.ofList xs, clean_eq_some_iff.2 ⟨hne, ?_, ?_⟩, ?_⟩ <;> rw [String.toList_ofList]
    · exact ⟨hhead, hends.not_blank⟩
    · exact ⟨pad.dropLead hlead, fun _ => hparts⟩
    · exact hends
  · rintro ⟨t, ht, hends⟩
    obtain ⟨-, -, pad, hparts⟩ := clean_eq_some_iff.1 ht
    exact ⟨t.toList, hends, pad, hparts hends⟩

/-- Cleaning reaches a clean text, or leaves none, exactly where the NULs of the padding are in one place.
There it has nothing more to do when it is applied again. Elsewhere it leaves a text that ends in a NUL, and
that cleaning changes. Blanks at the ends are gone in any case. -/
theorem clean_reaches_clean_iff (s : String) :
    (∀ t, clean s = some t → t ≠ "" ∧ Trimmed isBlank t.toList) ∧
      ((∀ t, clean s = some t → IsClean t ∧ clean t = some t) ↔ ¬ NulsApart s.toList) ∧
      (NulsApart s.toList → ∃ t, clean s = some t ∧ EndsInNul t.toList ∧ clean t ≠ some t) := by
  refine ⟨fun t => trimmed_clean, ?_, ?_⟩
  · constructor
    · rintro h hapart
      obtain ⟨t, ht, hends⟩ := nulsApart_iff.1 hapart
      exact (h t ht).1.not_endsInNul hends
    · intro h t ht
      obtain ⟨hne, htrimmed⟩ := trimmed_clean ht
      have hclean : IsClean t := ⟨hne, htrimmed, fun hends => h (nulsApart_iff.2 ⟨t, ht, hends⟩)⟩
      exact ⟨hclean, clean_eq_self_iff.2 hclean⟩
  · intro h
    obtain ⟨t, ht, hends⟩ := nulsApart_iff.1 h
    exact ⟨t, ht, hends, fun hself => (clean_eq_self_iff.1 hself).not_endsInNul hends⟩

/-- A name in a field that is filled up with NULs and then with blanks. -/
def paddedName : String := "EOS R5" ++ String.ofList [Char.ofNat 0, Char.ofNat 0] ++ "  "

def interleavedName : String := "a" ++ String.ofList [Char.ofNat 0, ' ', Char.ofNat 0]

theorem clean_reaches_clean_paddedName : ¬ NulsApart paddedName.toList ∧
    clean paddedName = some "EOS R5" ∧ IsClean "EOS R5" ∧ clean "EOS R5" = some "EOS R5" := by
  have hone : ¬ NulsApart paddedName.toList := not_nulsApart_of_isChain (by decide +kernel)
  have hname : clean paddedName = some "EOS R5" := by decide +kernel
  exact ⟨hone, hname, (clean_reaches_clean_iff paddedName).2.1.2 hone _ hname⟩

theorem clean_leaves_nul_interleavedName : ∃ t, clean interleavedName = some t ∧
    EndsInNul t.toList ∧ clean t = some "a" ∧ clean t ≠ some t := by
  have hleft : clean interleavedName = some ("a" ++ String.ofList [Char.ofNat 0]) := by decide +kernel
  have hends : EndsInNul ("a" ++ String.ofList [Char.ofNat 0]).toList :=
    ⟨Char.ofNat 0, by decide +kernel, rfl⟩
  have hagain : clean ("a" ++ String.ofList [Char.ofNat 0]) = some "a" := by decide +kernel
  refine ⟨_, hleft, hends, hagain, ?_⟩
  rw [hagain]
  decide +kernel

end Exif.Text
