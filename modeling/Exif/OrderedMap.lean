/-!
Finite maps that list their keys in the order in which they were first written. Writing a key
again keeps its place and replaces its value.
-/

namespace Exif

/-- A finite map whose entries stand in the order in which their keys were first written. -/
structure OrderedMap (κ ν : Type) where
  entries : List (κ × ν)
  nodup : (entries.map Prod.fst).Nodup

namespace OrderedMap

variable {κ ν μ : Type}

def empty : OrderedMap κ ν := ⟨[], List.nodup_nil⟩

instance : Inhabited (OrderedMap κ ν) := ⟨empty⟩

def keys (m : OrderedMap κ ν) : List κ := m.entries.map Prod.fst

def size (m : OrderedMap κ ν) : Nat := m.entries.length

def mapValues (f : ν → μ) (m : OrderedMap κ ν) : OrderedMap κ μ where
  entries := m.entries.map fun p => (p.1, f p.2)
  nodup := by simpa [List.map_map, Function.comp_def] using m.nodup

variable [DecidableEq κ]

def get? (m : OrderedMap κ ν) (k : κ) : Option ν :=
  (m.entries.find? fun p => p.1 = k).map Prod.snd

def contains (m : OrderedMap κ ν) (k : κ) : Bool := m.entries.any fun p => p.1 = k

def write (k : κ) (v : ν) : List (κ × ν) → List (κ × ν)
  | [] => [(k, v)]
  | p :: ps => if p.1 = k then (k, v) :: ps else p :: write k v ps

theorem keys_write (k : κ) (v : ν) (ps : List (κ × ν)) :
    (write k v ps).map Prod.fst =
      if k ∈ ps.map Prod.fst then ps.map Prod.fst else ps.map Prod.fst ++ [k] := by
  induction ps with
  | nil => simp [write]
  | cons p ps ih =>
    by_cases h : p.1 = k
    · simp [write, h]
    · have h' : ¬ k = p.1 := fun e => h e.symm
      simp only [write, h, if_false, List.map_cons, ih, List.mem_cons, h', false_or]
      split <;> simp

theorem nodup_write (k : κ) (v : ν) {ps : List (κ × ν)} (h : (ps.map Prod.fst).Nodup) :
    ((write k v ps).map Prod.fst).Nodup := by
  rw [keys_write]
  split
  · exact h
  · next hk =>
    rw [List.nodup_append]
    exact ⟨h, by simp, by simp only [List.mem_singleton]; rintro a ha _ rfl rfl; exact hk ha⟩

/-- The map with `v` at `k`: a new key comes last, a known one keeps its place. -/
def insert (m : OrderedMap κ ν) (k : κ) (v : ν) : OrderedMap κ ν :=
  ⟨write k v m.entries, nodup_write k v m.nodup⟩

def ofList (ps : List (κ × ν)) : OrderedMap κ ν :=
  ps.foldl (fun m p => m.insert p.1 p.2) empty

end OrderedMap

end Exif
