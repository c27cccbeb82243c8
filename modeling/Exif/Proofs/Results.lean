import Mathlib.Tactic.Common

/-! Results that may be errors: taking a chain of steps apart at its successful end, what all errors of
a chain have in common, the first of several errors, and lists whose items are each paired with a
result. -/

namespace Exif

variable {α β ε ε' : Type}

theorem bind_eq_ok {r : Except ε α} {f : α → Except ε β} {y : β} :
    (r >>= f) = .ok y ↔ ∃ x, r = .ok x ∧ f x = .ok y := by
  cases r with
  | error e => simp [bind, Except.bind]
  | ok x => simp [bind, Except.bind]

/-- A second step counts only for what the first one gives. -/
theorem bind_congr_of_ok {r : Except ε α} {f g : α → Except ε β} (h : ∀ x, r = .ok x → f x = g x) :
    (r >>= f) = (r >>= g) := by
  cases r with
  | error e => rfl
  | ok x => exact h x rfl

theorem map_eq_ok {r : Except ε α} {f : α → β} {y : β} : r.map f = .ok y ↔ ∃ x, r = .ok x ∧ f x = y := by
  cases r <;> simp [Except.map]

theorem map_eq_error {r : Except ε α} {f : α → β} {e : ε} : f <$> r = .error e ↔ r = .error e := by
  cases r <;> simp [Functor.map, Except.map]

theorem mapError_eq_ok {r : Except ε α} {f : ε → ε'} {x : α} : r.mapError f = .ok x ↔ r = .ok x := by
  cases r <;> simp [Except.mapError]

theorem mapError_eq_error {r : Except ε α} {f : ε → ε'} {e' : ε'} :
    r.mapError f = .error e' ↔ ∃ e, r = .error e ∧ f e = e' := by
  cases r <;> simp [Except.mapError]

/-! ## Values of a chain -/

theorem toOption_map (f : α → β) (r : Except ε α) : (f <$> r).toOption = r.toOption.map f := by
  cases r <;> rfl

theorem toOption_bind (r : Except ε α) (f : α → Except ε β) :
    (r >>= f).toOption = r.toOption.bind fun x => (f x).toOption := by
  cases r <;> rfl

theorem toOption_pure (x : α) : (pure x : Except ε α).toOption = some x := rfl

/-! ## The errors of a chain -/

/-- Every error of a result has a property. -/
def FailsOnly (P : ε → Prop) (r : Except ε α) : Prop := ∀ e, r = .error e → P e

namespace FailsOnly

variable {P Q : ε → Prop}

theorem ok (x : α) : FailsOnly P (.ok x : Except ε α) := by
  intro e h
  exact nomatch h

theorem error {e : ε} (h : P e) : FailsOnly P (.error e : Except ε α) := by
  intro e' he
  rw [← Except.error.inj he]
  exact h

theorem mono {r : Except ε α} (hr : FailsOnly P r) (h : ∀ e, P e → Q e) : FailsOnly Q r :=
  fun e he => h e (hr e he)

/-- An error that the first step cannot have comes from the second. -/
theorem error_of_bind {r : Except ε α} {f : α → Except ε β} {e : ε} (hr : FailsOnly (· ≠ e) r)
    (h : (r >>= f) = .error e) : ∃ x, r = .ok x ∧ f x = .error e := by
  cases r with
  | error e' => exact absurd (Except.error.inj h) (hr e' rfl)
  | ok x => exact ⟨x, rfl, h⟩

/-- The second step counts only for what the first one gives. -/
theorem bind {r : Except ε α} {f : α → Except ε β} (hr : FailsOnly P r)
    (hf : ∀ x, r = .ok x → FailsOnly P (f x)) : FailsOnly P (r >>= f) := by
  cases r with
  | error e => exact error (hr e rfl)
  | ok x => exact hf x rfl

theorem map {r : Except ε α} (hr : FailsOnly P r) (f : α → β) : FailsOnly P (f <$> r) := by
  cases r with
  | error e => exact error (hr e rfl)
  | ok x => exact ok (f x)

end FailsOnly

/-! ## The first error -/

def errors : Except ε α → List ε
  | .error e => [e]
  | .ok _ => []

theorem errors_map (f : α → β) (r : Except ε α) : errors (r.map f) = errors r := by
  cases r <;> rfl

theorem errors_mapError (f : ε → ε') (r : Except ε α) : errors (r.mapError f) = (errors r).map f := by
  cases r <;> rfl

def firstError (es : List ε) (x : α) : Except ε α :=
  match es with
  | [] => .ok x
  | e :: _ => .error e

theorem firstError_eq_ok {es : List ε} {x y : α} : firstError es x = .ok y ↔ es = [] ∧ x = y := by
  cases es <;> simp [firstError]

theorem firstError_eq_error {es : List ε} {x : α} {e : ε} :
    firstError es x = .error e ↔ es.head? = some e := by
  cases es <;> simp [firstError]

theorem firstError_toList_eq_error {error? : Option ε} {x : α} {e : ε} :
    firstError error?.toList x = .error e ↔ error? = some e := by
  cases error? <;> simp [firstError]

theorem firstError_toList_ok_iff {error? : Option ε} {x : α} :
    (∃ y, firstError error?.toList x = .ok y) ↔ error? = none := by
  cases error? <;> simp [firstError]

theorem head?_errors_eq_some {r : Except ε α} {e : ε} : (errors r).head? = some e ↔ r = .error e := by
  cases r <;> simp [errors]

theorem head?_errors_eq_none {r : Except ε α} : (errors r).head? = none ↔ ∃ x, r = .ok x := by
  cases r <;> simp [errors]

/-- The first of all errors is that of the first item that has one. -/
theorem head?_flatMap_errors {xs : List β} {f : β → Except ε α} {e : ε} :
    (xs.flatMap fun x => errors (f x)).head? = some e ↔
      ∃ before x after, xs = before ++ x :: after ∧ f x = .error e ∧ ∀ z ∈ before, ∃ y, f z = .ok y := by
  rw [List.head?_flatMap, List.findSome?_eq_some_iff]
  simp only [head?_errors_eq_some, head?_errors_eq_none]

/-- A second step has its say where the first has no error. -/
theorem firstError_bind {es es' : List ε} {x : α} {f : α → Except ε β} {y : β}
    (h : f x = firstError es' y) : (firstError es x >>= f) = firstError (es ++ es') y := by
  cases es with
  | nil => exact h
  | cons e es => rfl

theorem map_firstError (f : α → β) (es : List ε) (x : α) :
    f <$> firstError es x = firstError es (f x) := by
  cases es <;> rfl

theorem mapError_firstError (f : ε → ε') (es : List ε) (x : α) :
    (firstError es x).mapError f = firstError (es.map f) x := by
  cases es <;> rfl

/-- The error of a first step goes before those of a second. -/
theorem bind_eq_firstError {r : Except ε α} {f : α → Except ε β} {es : List ε} {y : β}
    (h : ∀ x, r = .ok x → f x = firstError es y) : (r >>= f) = firstError (errors r ++ es) y := by
  cases r with
  | error e => rfl
  | ok x => exact h x rfl

/-! ## Lists paired with results -/

/-- What is paired with each item of a list: every item keeps its place. -/
theorem mapM_pairs {f : α → Except ε β} {g : α → β} {xs : List α} (h : ∀ x ∈ xs, f x = .ok (g x)) :
    (xs.mapM fun x => return (x, ← f x)) = .ok (xs.map fun x => (x, g x)) := by
  induction xs with
  | nil => rfl
  | cons x xs ih =>
    rw [List.mapM_cons, h x (List.mem_cons_self ..), ih fun z hz => h z (List.mem_cons_of_mem x hz)]
    rfl

theorem ok_of_mapM_pairs {f : α → Except ε β} {xs : List α} {ys : List (α × β)}
    (h : (xs.mapM fun x => return (x, ← f x)) = .ok ys) : ∀ x ∈ xs, ∃ y, f x = .ok y := by
  induction xs generalizing ys with
  | nil => simp
  | cons x xs ih =>
    rw [List.mapM_cons] at h
    obtain ⟨p, hp, h⟩ := bind_eq_ok.1 h
    obtain ⟨y, hy, -⟩ := bind_eq_ok.1 hp
    obtain ⟨rest, hrest, -⟩ := bind_eq_ok.1 h
    exact List.forall_mem_cons.2 ⟨⟨y, hy⟩, ih hrest⟩

theorem mapM_pairs_cons_eq_error {f : α → Except ε β} {x : α} {xs : List α} {e : ε} :
    ((x :: xs).mapM fun x => return (x, ← f x)) = .error e ↔
      f x = .error e ∨
        (∃ y, f x = .ok y) ∧ (xs.mapM fun x => return (x, ← f x)) = .error e := by
  rw [List.mapM_cons]
  cases f x with
  | error e' => simp [bind, Except.bind]
  | ok y => cases xs.mapM fun x => return (x, ← f x) <;> simp [bind, Except.bind, pure, Except.pure]

/-- A list fails as the first of its items that fails. -/
theorem mapM_pairs_eq_error {f : α → Except ε β} {xs : List α} {e : ε} :
    (xs.mapM fun x => return (x, ← f x)) = .error e ↔
      ∃ before x after, xs = before ++ x :: after ∧ f x = .error e ∧
        ∀ z ∈ before, ∃ y, f z = .ok y := by
  induction xs with
  | nil => simp [pure, Except.pure]
  | cons x xs ih =>
    rw [mapM_pairs_cons_eq_error, ih]
    constructor
    · rintro (he | ⟨hok, before, z, after, rfl, hz, hbefore⟩)
      · exact ⟨[], x, xs, rfl, he, by simp⟩
      · exact ⟨x :: before, z, after, rfl, hz, List.forall_mem_cons.2 ⟨hok, hbefore⟩⟩
    · rintro ⟨before, z, after, hxs, hz, hbefore⟩
      cases before with
      | nil =>
        obtain ⟨rfl, -⟩ := List.cons.inj hxs
        exact Or.inl hz
      | cons w before =>
        obtain ⟨rfl, rfl⟩ := List.cons.inj hxs
        obtain ⟨hok, hbefore⟩ := List.forall_mem_cons.1 hbefore
        exact Or.inr ⟨hok, before, z, after, rfl, hz, hbefore⟩

end Exif
