import Exif.Proofs.Logging.Hierarchy
import Exif.Proofs.Logging.History

/-! What loggers decide. A logger decides about a level at the first message of that level, by the loggers
in use then, and keeps to it until logging is set up again, whatever loggers come into use. -/

namespace Exif.Logging

def Message.key (m : Message) : String × Int := (title m.logger, m.level)

theorem title_eq_iff {logger logger' : String} : title logger = title logger' ↔
    logger = logger' ∨ isRoot logger = true ∧ isRoot logger' = true := by
  have hroot : isRoot rootName = true := rfl
  unfold title
  split <;> split <;> grind

namespace State

variable {s : State}

/-! ## One message -/

theorem verdicts_use (s : State) (logger : String) : (s.use logger).verdicts = s.verdicts := by
  unfold use
  split <;> rfl

theorem verdicts_after_log (s : State) (m : Message) :
    (s.after (.log m)).verdicts = (s.noted m).verdicts := by
  refine after_log_of_emit (R := fun s s' => s'.verdicts = s.verdicts) (fun _ => rfl)
    (fun h h' => h'.trans h) (fun s sink line => ?_) s m
  cases sink <;> rfl

theorem get?_verdicts_after_log (s : State) (m : Message) (k : String × Int) :
    (s.after (.log m)).verdicts.get? k =
      if m.key = k then some ((s.use m.logger).isEnabled m.logger m.level)
      else s.verdicts.get? k := by
  rw [verdicts_after_log, noted, decided, OrderedMap.get?_insert, verdicts_use]
  rfl

/-- Loggers of one title decide alike. -/
theorem isEnabled_of_key_eq {m c : Message} (h : m.key = c.key) :
    (s.use m.logger).isEnabled m.logger m.level = (s.use c.logger).isEnabled c.logger c.level := by
  obtain ⟨htitle, hlevel⟩ := Prod.mk.inj h
  rw [hlevel]
  obtain hlogger | ⟨hm, hc⟩ := title_eq_iff.1 htitle
  · rw [hlogger]
  · rw [isEnabled, isEnabled, htitle, use, use, effectiveLevel, effectiveLevel]
    simp only [hm, hc, Bool.true_or, if_true]

theorem isEnabled_of_verdict {c : Message} {v : Bool} (h : s.verdicts.get? c.key = some v) :
    (s.use c.logger).isEnabled c.logger c.level = v := by
  rw [Message.key, ← verdicts_use s c.logger] at h
  rw [isEnabled, h, Option.getD_some]

/-- Without a decision it is the level of the logger that counts. -/
theorem isEnabled_iff {c : Message} (hquiet : s.quietLevel = warningLevel)
    (hnone : s.verdicts.get? c.key = none) (hlevel : 1 ≤ c.level) :
    (s.use c.logger).isEnabled c.logger c.level = true ↔
      if IsQuiet (s.use c.logger).inUse c.logger then warningLevel ≤ c.level
      else s.rootLevel.value ≤ c.level := by
  obtain ⟨hroot, -, hquiet'⟩ := Configuration.mk.inj (s.logs_use c.logger).configuration
  rw [Message.key, ← verdicts_use s c.logger] at hnone
  rw [isEnabled, hnone, Option.getD_none, effectiveLevel_eq (hquiet'.trans hquiet), hroot]
  split <;> simp <;> omega

/-! ## Messages since a set-up -/

/-- A decision stands while messages are logged. -/
theorem verdict_stands {k : String × Int} {v : Bool} (h : s.verdicts.get? k = some v)
    (since : List Message) : ((since.map Event.log).foldl after s).verdicts.get? k = some v := by
  induction since generalizing s with
  | nil => exact h
  | cons m since ih =>
    refine ih ?_
    rw [get?_verdicts_after_log]
    split
    · next hkey =>
      subst hkey
      rw [isEnabled_of_verdict h]
    · exact h

/-- What a logger decides about a level is what it would have decided before the first message of that
level. -/
theorem decision_since {c : Message} (h : s.verdicts.get? c.key = none) (since : List Message) :
    let before := ((since.takeWhile (·.key ≠ c.key)).map Event.log).foldl after s
    before.verdicts.get? c.key = none ∧
      (((since.map Event.log).foldl after s).use c.logger).isEnabled c.logger c.level =
        (before.use c.logger).isEnabled c.logger c.level := by
  induction since generalizing s with
  | nil => exact ⟨h, rfl⟩
  | cons m since ih =>
    by_cases hkey : m.key = c.key
    · -- this is the first message, and its decision stands
      rw [List.takeWhile_cons_of_neg (by simpa using hkey)]
      have hverdict : (s.after (.log m)).verdicts.get? c.key =
          some ((s.use c.logger).isEnabled c.logger c.level) := by
        rw [get?_verdicts_after_log, if_pos hkey, isEnabled_of_key_eq hkey]
      exact ⟨h, isEnabled_of_verdict (verdict_stands hverdict since)⟩
    · rw [List.takeWhile_cons_of_pos (by simpa using hkey)]
      have hnone : (s.after (.log m)).verdicts.get? c.key = none := by
        rw [get?_verdicts_after_log, if_neg hkey, h]
      exact ih hnone

end State

end Exif.Logging
