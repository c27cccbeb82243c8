/-!
Tables of letters in another case, upper or lower. One character may become several.
-/

namespace Exif.Text

/-- Every `step`-th character from `first` to `last` lies `shift` code points away from the character
that it becomes. -/
structure CaseRun where
  first : Nat
  last : Nat
  step : Nat
  shift : Int

def CaseRun.covers (r : CaseRun) (n : Nat) : Bool :=
  r.first ≤ n && n ≤ r.last && (n - r.first) % r.step == 0

/-- The characters that become one other character, and those that become several. -/
structure CaseTable where
  runs : List CaseRun
  expansions : List (Nat × List Nat)

namespace CaseTable

def char (t : CaseTable) (c : Char) : List Char :=
  match t.expansions.lookup c.toNat with
  | some codes => codes.map Char.ofNat
  | none =>
    match t.runs.find? fun r => r.covers c.toNat with
    | some r => [Char.ofNat (c.toNat + r.shift).toNat]
    | none => [c]

def chars (t : CaseTable) (cs : List Char) : List Char := cs.flatMap t.char

end CaseTable

end Exif.Text
