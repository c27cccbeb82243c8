import Exif.Decimal.Digits

/-!
Levels of log records. A level is an integer, and some have names.
-/

namespace Exif.Logging

def levelNames : List (String × Int) :=
  [("CRITICAL", 50), ("FATAL", 50), ("ERROR", 40), ("WARN", 30), ("WARNING", 30), ("INFO", 20),
    ("DEBUG", 10), ("NOTSET", 0)]

def infoLevel : Int := 20

def warningLevel : Int := 30

def levelOfName? (name : String) : Option Int := levelNames.lookup name

/-- The name under which a level is written. A level without one is written in decimal, if it can. -/
def levelName? (level : Int) : Option String :=
  if level = 50 then some "CRITICAL"
  else if level = 40 then some "ERROR"
  else if level = 30 then some "WARNING"
  else if level = 20 then some "INFO"
  else if level = 10 then some "DEBUG"
  else if level = 0 then some "NOTSET"
  else if Decimal.isWritable level then some ("Level " ++ Decimal.integer level)
  else none

theorem isWritable_of_levelName? {level : Int} {name : String} (h : levelName? level = some name) :
    Decimal.isWritable level = true := by
  by_cases hsmall : level.natAbs ≤ 50
  · exact Decimal.isWritable_iff.2 (Nat.lt_of_le_of_lt hsmall (by decide +kernel))
  · have hnamed : ∀ n : Int, n.natAbs ≤ 50 → level ≠ n := fun n hn heq => hsmall (heq ▸ hn)
    have hrest : Decimal.isWritable level = true ∧ "Level " ++ Decimal.integer level = name := by
      simpa [levelName?, hnamed] using h
    exact hrest.1

end Exif.Logging
