import Exif.Proofs.Logging.Decisions
import Exif.Proofs.Logging.Template

/-! Where messages go after logging has been set up, whatever happened before. A message that gets past
the level asked for, and past the level of the decoders' loggers if its logger was below them when it
decided about the level, is written once to the console and once to the log file, if there is one. Nothing
else is written. -/

namespace Exif.Logging

/-- The level of a message is one that was asked for, and from below the decoders' loggers it is a
warning at least. -/
def Passes (level : Threshold) (inUse : List String) (m : Message) : Prop :=
  level.value ≤ m.level ∧ (IsQuiet inUse m.logger → warningLevel ≤ m.level)

/-- Only levels of too many digits have no name. -/
theorem levelName?_eq_none_iff {level : Int} :
    levelName? level = none ↔ Decimal.isWritable level = false := by
  constructor
  · intro h
    unfold levelName? at h
    split_ifs at h with _ _ _ _ _ _ hwritable
    exact Bool.eq_false_iff.2 hwritable
  · intro h
    refine Option.eq_none_iff_forall_ne_some.2 fun name hname => ?_
    exact absurd (isWritable_of_levelName? hname) (by simp [h])

theorem Message.record?_eq_none_iff {m : Message} :
    m.record? = none ↔ Decimal.isWritable m.level = false := by
  rw [← levelName?_eq_none_iff]
  unfold record?
  split <;> simp [*]

theorem Message.level_of_record? {m : Message} {record : Record} (h : m.record? = some record) :
    record.level = m.level := by
  unfold record? at h
  split at h
  · rw [← Option.some.inj h]
  · exact nomatch h

namespace State

/-- A line is written at the end of the console and of the log file, if there is one, and nowhere
else. -/
structure Writes (path : Option Path) (line : String) (s s' : State) : Prop where
  console : s'.console = s.console ++ line
  file : ∀ p, path = some p → ∃ content,
    s.files.at? (FileTree.lexicalPlace p) = some (.file content) ∧
      s'.files.at? (FileTree.lexicalPlace p) = some (.file (content ++ line))
  others : ∀ place, (∀ p, path = some p → place ≠ FileTree.lexicalPlace p) →
    s'.files.at? place = s.files.at? place

/-! ## One record -/

theorem handle_of_le {s : State} {record : Record} {h : Handler} {text : String}
    (hlevel : h.level.value ≤ record.level) (htext : render? h.template record = some text) :
    s.handle record h = s.emit h.sink (text ++ "\n") := by
  rw [handle, if_pos hlevel, htext]

theorem handle_of_lt {s : State} {record : Record} {h : Handler}
    (hlevel : record.level < h.level.value) : s.handle record h = s := by
  rw [handle, if_neg (Int.not_le.2 hlevel)]

/-- Handlers that are alike but for where they write, and a record of their level. -/
theorem foldl_handle_of_le {s : State} {record : Record} {level : Threshold} {template text : String}
    (sinks : List Sink) (hlevel : level.value ≤ record.level)
    (htext : render? template record = some text) :
    (sinks.map (Handler.mk · level template)).foldl (handle record) s =
      sinks.foldl (emit · · (text ++ "\n")) s := by
  rw [List.foldl_map]
  congr
  funext s sink
  exact handle_of_le hlevel htext

theorem foldl_handle_of_lt {s : State} {record : Record} {level : Threshold} {template : String}
    (sinks : List Sink) (hlevel : record.level < level.value) :
    (sinks.map (Handler.mk · level template)).foldl (handle record) s = s := by
  induction sinks with
  | nil => rfl
  | cons sink sinks ih =>
    rw [List.map_cons, List.foldl_cons, handle_of_lt hlevel]
    exact ih

section

variable {s : State} {m : Message} {level : Threshold} {template : String} {sinks : List Sink}
  {inUse : List String} (hconfiguration :
    s.configuration = ⟨level, sinks.map (Handler.mk · level template), warningLevel⟩)
  (hdecision : (s.use m.logger).isEnabled m.logger m.level = true ↔
    if IsQuiet inUse m.logger then warningLevel ≤ m.level else level.value ≤ m.level)
include hdecision

theorem isEnabled_of_passes (hpasses : Passes level inUse m) :
    (s.use m.logger).isEnabled m.logger m.level = true := by
  rw [hdecision]
  split
  · next hquiet => exact hpasses.2 hquiet
  · exact hpasses.1

theorem log_of_unnamed (hpasses : Passes level inUse m) (hrecord : m.record? = none) :
    s.log m = (s.noted m, some .unwritableInteger) :=
  log_of_no_record (isEnabled_of_passes hdecision hpasses) hrecord

include hconfiguration

theorem log_of_passes {record : Record} {text : String} (hrecord : m.record? = some record)
    (htext : render? template record = some text) (hpasses : Passes level inUse m) :
    s.after (.log m) = sinks.foldl (emit · · (text ++ "\n")) (s.noted m) := by
  obtain ⟨-, hhandlers, -⟩ :=
    Configuration.mk.inj ((s.logs_noted m).configuration.trans hconfiguration)
  rw [after, log_of_record (isEnabled_of_passes hdecision hpasses) hrecord, hhandlers]
  exact foldl_handle_of_le sinks ((Message.level_of_record? hrecord).symm ▸ hpasses.1) htext

theorem log_of_not_passes (hpasses : ¬ Passes level inUse m) :
    s.after (.log m) = s.noted m := by
  obtain ⟨-, hhandlers, -⟩ :=
    Configuration.mk.inj ((s.logs_noted m).configuration.trans hconfiguration)
  rw [after]
  cases henabled : (s.use m.logger).isEnabled m.logger m.level with
  | false => rw [log_of_not_enabled henabled]
  | true =>
    cases hrecord : m.record? with
    | none => rw [log_of_no_record henabled hrecord]
    | some record =>
      -- the logger lets the message through, so the handlers do not
      have hlow : m.level < level.value := by
        rw [hdecision] at henabled
        refine Int.not_le.1 fun hle => hpasses ⟨hle, fun hquiet => ?_⟩
        rwa [if_pos hquiet] at henabled
      rw [log_of_record henabled hrecord, hhandlers]
      exact foldl_handle_of_lt sinks ((Message.level_of_record? hrecord).symm ▸ hlow)

end

theorem console_noted (s : State) (m : Message) : (s.noted m).console = s.console := by
  rw [noted, decided, use]
  split <;> rfl

theorem files_noted (s : State) (m : Message) : (s.noted m).files = s.files := by
  rw [noted, decided, use]
  split <;> rfl

theorem writes_foldl_emit {s : State} {path : Option Path} (m : Message) (line : String)
    (hfile : ∀ p, path = some p → ∃ content,
      s.files.at? (FileTree.lexicalPlace p) = some (.file content)) :
    Writes path line s ((sinks path).foldl (emit · · line) (s.noted m)) := by
  cases path with
  | none =>
    refine ⟨?_, fun p => (nomatch ·), fun place _ => ?_⟩
    · exact congrArg (· ++ line) (s.console_noted m)
    · exact congrArg (·.at? place) (s.files_noted m)
  | some p =>
    have hfiles : ((sinks (some p)).foldl (emit · · line) (s.noted m)).files =
        s.files.append (FileTree.lexicalPlace p) line :=
      congrArg (·.append (FileTree.lexicalPlace p) line) (s.files_noted m)
    refine ⟨congrArg (· ++ line) (s.console_noted m), ?_, ?_⟩
    · rintro q ⟨⟩
      obtain ⟨content, hcontent⟩ := hfile p rfl
      exact ⟨content, hcontent, hfiles ▸ FileTree.at?_append_self hcontent line⟩
    · intro place hplace
      rw [hfiles]
      exact FileTree.at?_append_ne s.files (hplace p rfl).symm line

/-! ## Messages after a set-up -/

/-- What is configured after a set-up that succeeds stays so while messages are logged, and the log file
stays in its place. -/
theorem configuration_since {s : State} {r : Request} (h : (s.setup r).2 = none)
    (since : List Message) :
    ∃ level template path, r.level? = .ok level ∧ r.template? = .ok template ∧
      r.logPath? = .ok path ∧
      ((since.map Event.log).foldl after (s.setup r).1).configuration =
        ⟨level, (sinks path).map (Handler.mk · level template), warningLevel⟩ ∧
      ∀ p, path = some p → ∃ content,
        ((since.map Event.log).foldl after (s.setup r).1).files.at? (FileTree.lexicalPlace p) =
          some (.file content) := by
  have houtcome := setup_outcome s r
  rw [h] at houtcome
  have hlogs := logs_foldl (s.setup r).1 since
  generalize (s.setup r).1 = s' at houtcome hlogs
  cases houtcome with
  | done hlevel htemplate hpath hconfiguration _ hfile =>
    refine ⟨_, _, _, hlevel, htemplate, hpath, hlogs.configuration.trans hconfiguration, ?_⟩
    intro p hp
    obtain ⟨content, hcontent⟩ := hfile p hp
    obtain ⟨added, hadded⟩ := hlogs.files _ content hcontent
    exact ⟨content ++ added, hadded⟩

theorem verdicts_of_setup {s : State} {r : Request} (h : (s.setup r).2 = none) :
    (s.setup r).1.verdicts = .empty := by
  have houtcome := setup_outcome s r
  rw [h] at houtcome
  generalize (s.setup r).1 = s' at houtcome
  cases houtcome with
  | done _ _ _ _ _ _ hforgets => exact hforgets

/-- The decision about a message after a set-up that succeeds, by the loggers in use when it was made. -/
theorem decision_of_setup {s : State} {r : Request} (h : (s.setup r).2 = none) {level : Threshold}
    (hl : r.level? = .ok level) (since : List Message) {c : Message} (hlevel : 1 ≤ c.level) :
    let now := (since.map Event.log).foldl after (s.setup r).1
    let before := ((since.takeWhile (·.key ≠ c.key)).map Event.log).foldl after (s.setup r).1
    (now.use c.logger).isEnabled c.logger c.level = true ↔
      if IsQuiet (before.use c.logger).inUse c.logger then warningLevel ≤ c.level
      else level.value ≤ c.level := by
  intro now before
  have hnone : (s.setup r).1.verdicts.get? c.key = none := by
    rw [verdicts_of_setup h]
    rfl
  obtain ⟨hfirst, hdecision⟩ := decision_since hnone since
  obtain ⟨level', _, _, hl', -, -, hconfiguration, -⟩ :=
    configuration_since h (since.takeWhile (·.key ≠ c.key))
  obtain rfl := Except.ok.inj (hl.symm.trans hl')
  obtain ⟨hroot, -, hquiet⟩ := Configuration.mk.inj hconfiguration
  rw [hdecision, isEnabled_iff hquiet hfirst hlevel, hroot]

/-- Exactly-once delivery. After a set-up that succeeds, with a template that suits every record or
none of its own, a message is written to the console and to the log file, once and nowhere else, if it
passes; else nothing is written. Whether its logger is below those of the decoders is as it was at the
first message of that level for it. A message that passes with a level that cannot be written is an error,
and written nowhere. Until then and from then on, what is written only grows at its end, and a set-up
writes nothing. -/
theorem delivers_exactly_once (history : List Event) :
    (∀ later, Grows (run history) (run (history ++ later))) ∧
    (∀ r, WritesNothing (run history) (run (history ++ [.setup r]))) ∧
    ∀ (r : Request) (since : List Message) (c : Message), ((run history).setup r).2 = none →
      (r.template.truthy = true → ∀ template, r.template? = .ok template →
        ∀ record, ∃ text, render? template record = some text) →
      1 ≤ c.level →
      let events := history ++ .setup r :: since.map .log
      -- up to the first message of the level for the logger
      let first := history ++ .setup r :: (since.takeWhile (·.key ≠ c.key)).map .log
      let inUse := ((run first).use c.logger).inUse
      ∃ level template path, r.level? = .ok level ∧ r.template? = .ok template ∧
        r.logPath? = .ok path ∧
        (∀ record, c.record? = some record → ∃ text, render? template record = some text ∧
          (Passes level inUse c →
            Writes path (text ++ "\n") (run events) (run (events ++ [.log c])))) ∧
        (¬ Passes level inUse c ∨ c.record? = none →
          (run (events ++ [.log c])).console = (run events).console ∧
          (run (events ++ [.log c])).files = (run events).files) ∧
        -- which messages cannot be written
        (c.record? = none ↔ Decimal.isWritable c.level = false) ∧
        (Passes level inUse c → c.record? = none →
          ((run events).log c).2 = some .unwritableInteger) ∧
        -- which loggers are below those of the decoders
        (∀ quiet ∈ quietLoggers, quiet = c.logger ∨
          (GoesOn quiet c.logger ∧ ¬ SkipsOn quiet c.logger) → IsQuiet inUse c.logger) ∧
        (IsQuiet inUse c.logger → ∃ quiet ∈ quietLoggers, quiet = c.logger ∨ GoesOn quiet c.logger) := by
  refine ⟨grows_run history, fun r => ?_, fun r since c hsetup hrenders hlevel => ?_⟩
  · rw [run_concat]
    exact (setup_outcome (run history) r).writesNothing
  · intro events first inUse
    have hrun : run events = (since.map Event.log).foldl after ((run history).setup r).1 :=
      run_append history (.setup r :: since.map .log)
    have hfirst : run first = ((since.takeWhile (·.key ≠ c.key)).map Event.log).foldl after
        ((run history).setup r).1 := run_append history (.setup r :: _)
    obtain ⟨level, template, path, hl, ht, hp, hconfiguration, hfile⟩ :=
      configuration_since hsetup since
    have hdecision := decision_of_setup hsetup hl since hlevel
    rw [← hrun] at hconfiguration hfile
    rw [← hrun, ← hfirst] at hdecision
    refine ⟨level, template, path, hl, ht, hp, fun record hrecord => ?_, fun hnothing => ?_,
      Message.record?_eq_none_iff, fun hpasses hrecord => ?_, ?_, goesOn_of_isQuiet⟩
    · have htext : ∃ text, render? template record = some text := by
        cases htruthy : r.template.truthy with
        | true => exact hrenders htruthy template ht record
        | false => exact Request.render?_of_not_truthy htruthy ht record
      obtain ⟨text, htext⟩ := htext
      refine ⟨text, htext, fun hpasses => ?_⟩
      rw [run_concat, log_of_passes hconfiguration hdecision hrecord htext hpasses]
      exact writes_foldl_emit c _ hfile
    · have hnoted : (run events).after (.log c) = (run events).noted c := by
        by_cases hpasses : Passes level inUse c
        · rw [after, log_of_unnamed hdecision hpasses (hnothing.resolve_left (not_not_intro hpasses))]
        · exact log_of_not_passes hconfiguration hdecision hpasses
      rw [run_concat, hnoted]
      exact ⟨console_noted .., files_noted ..⟩
    · rw [log_of_unnamed hdecision hpasses hrecord]
    · have hquiet : quietLoggers ⊆ inUse :=
        List.Subset.trans (quietLoggers_subset_run first) (logs_use (run first) c.logger).inUse
      rintro quiet hmem (rfl | ⟨hgoes, hskips⟩)
      · exact ⟨_, hmem, .inl rfl⟩
      · exact isQuiet_of_goesOn hquiet hmem hgoes hskips

def reconfigured : List Event :=
  [.setup { logFile := .text "old.log" }, .setup { template := .text "plain" }]

def messagesOnly : Request :=
  { level := .int 10, logFile := .text "new.log", template := .text messageTemplate }

def mainFunction : Origin where
  pathname := "main.py"
  filename := "main.py"
  moduleName := "main"
  function := "main"
  line := 1
  created := ⟨0, rfl⟩
  milliseconds := ⟨0, rfl⟩
  sinceStart := ⟨0, rfl⟩
  thread := 1
  threadName := "MainThread"
  processName := "MainProcess"
  process := 1
  time := "1970-01-01 00:00:00,000"

def chatter : Message := ⟨"PIL.Image", 20, "chatter", mainFunction⟩

def broken : Message := ⟨"PIL.Image", 40, "broken", mainFunction⟩

set_option maxRecDepth 2000 in
/-- Below a decoder's logger, an error is written to the console and to the new log file, and what is
no warning is written nowhere. -/
theorem delivers_exactly_once_decoder :
    let events := reconfigured ++ [.setup messagesOnly, .log chatter]
    ((run reconfigured).setup messagesOnly).2 = none ∧ messagesOnly.template.truthy = true ∧
      Writes (some (.ofString "new.log")) "broken\n" (run events) (run (events ++ [.log broken])) ∧
      (run (events ++ [.log chatter])).console = (run events).console ∧
      (run (events ++ [.log chatter])).files = (run events).files := by
  intro events
  have hsetup : ((run reconfigured).setup messagesOnly).2 = none := rfl
  have htemplate : messagesOnly.template? = .ok messageTemplate := rfl
  have hrenders : ∀ template, messagesOnly.template? = .ok template →
      ∀ record, ∃ text, render? template record = some text := by
    intro template h
    obtain rfl := Except.ok.inj (htemplate.symm.trans h)
    exact render?_of_isPlain isPlain_messageTemplate
  obtain ⟨-, -, hdelivers⟩ := delivers_exactly_once reconfigured
  obtain ⟨level, template, path, hlevel, ht, hpath, hwrites, -⟩ :=
    hdelivers messagesOnly [chatter] broken hsetup (fun _ => hrenders) (by decide)
  obtain rfl : Threshold.number 10 = level := Except.ok.inj hlevel
  obtain rfl := Except.ok.inj (htemplate.symm.trans ht)
  obtain rfl : some (Path.ofString "new.log") = path := Except.ok.inj hpath
  obtain ⟨text, htext, hwrites⟩ := hwrites _ rfl
  obtain rfl : "broken" = text := Option.some.inj htext
  obtain ⟨level', -, -, -, -, -, -, hsilent, -, -, hbelow, -⟩ :=
    hdelivers messagesOnly [chatter] chatter hsetup (fun _ => hrenders) (by decide)
  refine ⟨hsetup, rfl, hwrites ⟨by decide, fun _ => by decide⟩,
    hsilent (.inl fun hpasses => ?_)⟩
  have hskips : ¬ SkipsOn "PIL" "PIL.Image" := by
    rintro ⟨rest, h⟩
    have := congrArg String.toList h
    simp at this
  have hquiet := hbelow "PIL" (by decide) (.inr ⟨⟨"Image", rfl⟩, hskips⟩)
  exact absurd (hpasses.2 hquiet) (by decide)

def everything : Request := { level := .int 10, timestamps := false }

def belowTwoDots : Message := ⟨"PIL..x", 20, "m", mainFunction⟩

def belowOneDot : Message := ⟨"PIL.", 20, "m", mainFunction⟩

set_option maxRecDepth 2000 in
/-- A name that goes on from that of a decoder's logger after two dots need not be below it: the search
for a logger above passes over the dot in front of the one that it has tried. It is below once the logger
with one of the dots is in use, but then it may have decided already. -/
theorem delivers_below_decoder_doubleDot :
    GoesOn "PIL" "PIL..x" ∧ (fresh.setup everything).2 = none ∧
      (run [.setup everything]).console = "" ∧
      (run [.setup everything, .log belowTwoDots]).console = "PIL..x - INFO - m\n" ∧
      (run [.setup everything, .log belowOneDot, .log belowTwoDots]).console = "" ∧
      (run [.setup everything, .log belowTwoDots, .log belowOneDot, .log belowTwoDots]).console =
        "PIL..x - INFO - m\nPIL..x - INFO - m\n" := by
  refine ⟨⟨".x", rfl⟩, rfl, rfl, ?_, ?_, ?_⟩ <;> decide +kernel

end State

end Exif.Logging
