import Exif.Logging.Setup

/-! Templates that suit every record. A directive that writes a field as text, or the integer of a number,
cannot fail, and the templates that stand in where none is asked for have no others. -/

namespace Exif.Logging

/-- The keys of the fields that a record has where its time is asked for. -/
def fieldKeys : List String :=
  ["name", "msg", "args", "levelname", "levelno", "pathname", "filename", "module", "exc_info",
    "exc_text", "stack_info", "lineno", "funcName", "created", "msecs", "relativeCreated", "thread",
    "threadName", "processName", "process", "message", "asctime"]

def numberKeys : List String :=
  ["levelno", "lineno", "created", "msecs", "relativeCreated", "thread", "process"]

theorem Record.exists_field (r : Record) {key : String} (h : key ∈ fieldKeys) :
    ∃ v, (r.fields true).lookup key = some v := by
  have hkeys : (r.fields true).map Prod.fst = fieldKeys := rfl
  obtain ⟨f, hf, rfl⟩ := List.mem_map.1 (hkeys ▸ h)
  refine Option.isSome_iff_exists.1 ?_
  rw [List.lookup_isSome_iff]
  exact ⟨f, hf, beq_self_eq_true f.1⟩

theorem Record.exists_integer (r : Record) {key : String} (h : key ∈ numberKeys) :
    ∃ v n, (r.fields true).lookup key = some v ∧ v.integer? 'd' = some n := by
  simp only [numberKeys, List.mem_cons, List.not_mem_nil, or_false] at h
  obtain rfl | rfl | rfl | rfl | rfl | rfl | rfl := h
  · exact ⟨_, _, rfl, rfl⟩
  · exact ⟨_, _, rfl, rfl⟩
  · exact ⟨_, _, rfl, if_pos r.origin.created.2⟩
  · exact ⟨_, _, rfl, if_pos r.origin.milliseconds.2⟩
  · exact ⟨_, _, rfl, if_pos r.origin.sinceStart.2⟩
  · exact ⟨_, _, rfl, rfl⟩
  · exact ⟨_, _, rfl, rfl⟩

namespace Directive

variable {d : Directive} (hwidth : d.width ≤ maxFilling)
include hwidth

theorem render?_text (v : Operand) : d.render? 's' v = some (d.text v.display) := by
  unfold render?
  rw [if_neg (Nat.not_lt.2 hwidth)]
  rfl

theorem render?_integer (hprecision : d.precision.getD 0 ≤ maxFilling) {v : FieldValue} {n : Int}
    (h : v.integer? 'd' = some n) :
    d.render? 'd' (.field v) = some (d.number (decide (n < 0)) [] (d.digits 10 n.natAbs)) := by
  have hnumber : d.number? 'd' v = some (d.number (decide (n < 0)) [] (d.digits 10 n.natAbs)) := by
    rw [number?, if_neg fun hzeros => Nat.not_lt.2 hprecision hzeros.1, h]
    rfl
  unfold render?
  rw [if_neg (Nat.not_lt.2 hwidth)]
  cases v with
  | text s => exact nomatch h
  | int => exact hnumber
  | double => exact hnumber
  | fixed => exact hnumber

end Directive

/-- A piece stands for itself, or writes a field as text or the integer of a number. -/
def Piece.isPlain : Piece → Bool
  | char _ => true
  | directive d letter =>
    decide (d.width ≤ maxFilling) && d.key.any fun key =>
      letter == 's' && decide (String.ofList key ∈ fieldKeys) ||
        letter == 'd' && decide (String.ofList key ∈ numberKeys) &&
          decide (d.precision.getD 0 ≤ maxFilling)

theorem Piece.isPlain_directive {d : Directive} {letter : Char} :
    (directive d letter).isPlain = true ↔ d.width ≤ maxFilling ∧ ∃ key, d.key = some key ∧
      ((letter = 's' ∧ String.ofList key ∈ fieldKeys) ∨
        (letter = 'd' ∧ String.ofList key ∈ numberKeys) ∧ d.precision.getD 0 ≤ maxFilling) := by
  simp [isPlain, Option.any_eq_true]

theorem Piece.render?_directive {d : Directive} {key : List Char} {r : Record} {v : FieldValue}
    (hkey : d.key = some key) (hv : (r.fields true).lookup (String.ofList key) = some v)
    (letter : Char) (timed : Bool) :
    (directive d letter).render? timed r = d.render? letter (.field v) := by
  have hoperand : d.operand? timed r = some (.field v) := by
    rw [Directive.operand?, hkey]
    exact congrArg (Option.map Operand.field) hv
  rw [render?, hoperand]
  rfl

theorem Piece.render?_of_isPlain {p : Piece} (h : p.isPlain = true) (timed : Bool) (r : Record) :
    ∃ cs, p.render? timed r = some cs := by
  cases p with
  | char c => exact ⟨[c], rfl⟩
  | directive d letter =>
    obtain ⟨hwidth, key, hkey, ⟨rfl, hmem⟩ | ⟨⟨rfl, hmem⟩, hprecision⟩⟩ := isPlain_directive.1 h
    · obtain ⟨v, hv⟩ := r.exists_field hmem
      rw [render?_directive hkey hv]
      exact ⟨_, Directive.render?_text hwidth (.field v)⟩
    · obtain ⟨v, n, hv, hn⟩ := r.exists_integer hmem
      rw [render?_directive hkey hv]
      exact ⟨_, Directive.render?_integer hwidth hprecision hn⟩

theorem mapM_render?_of_isPlain {pieces : List Piece} (h : pieces.all Piece.isPlain = true)
    (timed : Bool) (r : Record) : ∃ parts, pieces.mapM (Piece.render? timed r) = some parts := by
  induction pieces with
  | nil => exact ⟨[], rfl⟩
  | cons p pieces ih =>
    rw [List.all_cons, Bool.and_eq_true] at h
    obtain ⟨cs, hcs⟩ := Piece.render?_of_isPlain h.1 timed r
    obtain ⟨parts, hparts⟩ := ih h.2
    exact ⟨cs :: parts, by rw [List.mapM_cons, hcs, hparts]; rfl⟩

theorem keysFollow_of_isPlain {pieces : List Piece} (h : pieces.all Piece.isPlain = true) :
    keysFollow pieces = true := by
  refine List.all_eq_true.2 fun d hd => ?_
  obtain ⟨p, hp, hd⟩ := List.mem_filterMap.1 (List.mem_of_mem_drop hd)
  have hplain := List.all_eq_true.1 h p hp
  cases p with
  | char c => exact nomatch hd
  | directive d' letter =>
    obtain rfl := Option.some.inj hd
    obtain ⟨-, key, hkey, -⟩ := Piece.isPlain_directive.1 hplain
    rw [hkey]
    rfl

/-- A template of plain pieces suits every record. -/
theorem render?_of_isPlain {template : String}
    (h : (pieces? template).any (·.all Piece.isPlain) = true) (r : Record) :
    ∃ text, render? template r = some text := by
  obtain ⟨pieces, hpieces, hplain⟩ := (Option.any_eq_true _ _).1 h
  obtain ⟨parts, hparts⟩ := mapM_render?_of_isPlain hplain (usesTime template.toList) r
  refine ⟨String.ofList parts.flatten, ?_⟩
  rw [render?, hpieces, Option.bind_eq_bind, Option.bind_some, if_pos (keysFollow_of_isPlain hplain),
    hparts]
  rfl

/-! ## Templates of requests -/

theorem Request.template?_of_not_truthy {r : Request} {template : String}
    (hfalse : r.template.truthy = false) (h : r.template? = .ok template) :
    template = r.defaultTemplate ∨ template = messageTemplate := by
  have haccepted : ∀ t : String,
      (if accepts t then Except.ok t else .error (SetupError.invalidTemplate t)) = .ok template →
        template = t := by
    intro t ht
    split at ht
    · exact (Except.ok.inj ht).symm
    · exact nomatch ht
  unfold template? at h
  split at h
  · exact .inl (haccepted r.defaultTemplate h)
  · simp only [hfalse, Bool.false_eq_true, if_false] at h
    exact .inr (haccepted messageTemplate h)

theorem Request.isPlain_defaultTemplate (r : Request) :
    (pieces? r.defaultTemplate).any (·.all Piece.isPlain) = true := by
  unfold defaultTemplate
  split <;> decide +kernel

theorem isPlain_messageTemplate : (pieces? messageTemplate).any (·.all Piece.isPlain) = true := by
  decide +kernel

/-- A request without a template of its own gets one that suits every record. -/
theorem Request.render?_of_not_truthy {r : Request} {template : String}
    (hfalse : r.template.truthy = false) (h : r.template? = .ok template) (record : Record) :
    ∃ text, render? template record = some text := by
  obtain rfl | rfl := template?_of_not_truthy hfalse h
  · exact render?_of_isPlain r.isPlain_defaultTemplate record
  · exact render?_of_isPlain isPlain_messageTemplate record

end Exif.Logging
