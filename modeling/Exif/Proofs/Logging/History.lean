import Exif.Proofs.Logging.Setup

/-! Runs of logging, from before any set-up. Whatever happens, loggers in use stay in use, and what is
written stays written, with more after it. Only set-ups change what is configured. -/

namespace Exif.Logging

inductive Event
  | setup (r : Request)
  | log (m : Message)

namespace State

def after (s : State) : Event → State
  | .setup r => (s.setup r).1
  | .log m => (s.log m).1

def run (events : List Event) : State := events.foldl after fresh

theorem run_append (events later : List Event) : run (events ++ later) = later.foldl after (run events) :=
  List.foldl_append ..

theorem run_concat (events : List Event) (e : Event) : run (events ++ [e]) = (run events).after e :=
  run_append events [e]

/-! ## What only grows -/

/-- From one state to another logging may have gone on: nothing that was there is gone. -/
structure Grows (s s' : State) : Prop where
  inUse : s.inUse ⊆ s'.inUse
  console : ∃ added, s'.console = s.console ++ added
  files : s.files.Grows s'.files

theorem Grows.of_console_eq {s s' : State} (hinUse : s.inUse ⊆ s'.inUse)
    (hconsole : s'.console = s.console) (hfiles : s.files.Grows s'.files) : Grows s s' :=
  ⟨hinUse, ⟨"", by rw [hconsole, String.append_empty]⟩, hfiles⟩

theorem Grows.refl (s : State) : Grows s s := .of_console_eq (List.Subset.refl _) rfl (.refl s.files)

theorem Grows.trans {a b c : State} (h : Grows a b) (h' : Grows b c) : Grows a c := by
  obtain ⟨first, hfirst⟩ := h.console
  obtain ⟨second, hsecond⟩ := h'.console
  refine ⟨List.Subset.trans h.inUse h'.inUse, ⟨first ++ second, ?_⟩, h.files.trans h'.files⟩
  rw [hsecond, hfirst, String.append_assoc]

theorem WritesNothing.grows {s s' : State} (h : WritesNothing s s') : Grows s s' :=
  .of_console_eq (h.inUse ▸ List.Subset.refl _) h.console h.files.grows

/-- From one state to another records may have been logged, but logging has not been set up. -/
structure Logs (s s' : State) : Prop extends Grows s s' where
  configuration : s'.configuration = s.configuration

theorem Logs.refl (s : State) : Logs s s := ⟨.refl s, rfl⟩

theorem Logs.trans {a b c : State} (h : Logs a b) (h' : Logs b c) : Logs a c :=
  ⟨h.toGrows.trans h'.toGrows, h'.configuration.trans h.configuration⟩

theorem logs_emit (s : State) (sink : Sink) (line : String) : Logs s (s.emit sink line) := by
  cases sink with
  | console => exact ⟨⟨List.Subset.refl _, ⟨line, rfl⟩, .refl s.files⟩, rfl⟩
  | file place =>
    exact ⟨.of_console_eq (List.Subset.refl _) rfl (s.files.grows_append place line), rfl⟩

theorem logs_use (s : State) (logger : String) : Logs s (s.use logger) := by
  unfold use
  split
  · exact .refl s
  · exact ⟨.of_console_eq (List.subset_append_left ..) rfl (.refl s.files), rfl⟩

/-! ## Messages -/

/-- The state in which the logger of a message is in use and has decided about its level. -/
def noted (s : State) (m : Message) : State := (s.use m.logger).decided m.logger m.level

theorem logs_noted (s : State) (m : Message) : Logs s (s.noted m) :=
  (s.logs_use m.logger).trans ⟨.of_console_eq (List.Subset.refl _) rfl (.refl _), rfl⟩

theorem isEnabled_decided (s : State) (logger : String) (level : Int) :
    (s.decided logger level).isEnabled logger level = s.isEnabled logger level := by
  have hverdict : (s.decided logger level).verdicts.get? (title logger, level) =
      some (s.isEnabled logger level) := by
    rw [decided, OrderedMap.get?_insert, if_pos rfl]
  rw [isEnabled, hverdict, Option.getD_some]

section

variable {s : State} {m : Message}

theorem log_of_not_enabled (h : (s.use m.logger).isEnabled m.logger m.level = false) :
    s.log m = (s.noted m, none) := by
  simp only [log, isEnabled_decided, h, Bool.false_eq_true, if_false, noted]

theorem log_of_record {record : Record} (h : (s.use m.logger).isEnabled m.logger m.level = true)
    (hrecord : m.record? = some record) :
    s.log m = ((s.noted m).handlers.foldl (handle record) (s.noted m), none) := by
  simp only [log, isEnabled_decided, h, if_true, hrecord, noted]

theorem log_of_no_record (h : (s.use m.logger).isEnabled m.logger m.level = true)
    (hrecord : m.record? = none) : s.log m = (s.noted m, some .unwritableInteger) := by
  simp only [log, isEnabled_decided, h, if_true, hrecord, noted]

end

section

variable {R : State → State → Prop} (hrefl : ∀ s, R s s)
  (htrans : ∀ {a b c}, R a b → R b c → R a c)
  (hemit : ∀ (s : State) (sink : Sink) (line : String), R s (s.emit sink line))
include hrefl htrans hemit

theorem foldl_handle_of_emit (record : Record) (s : State) (handlers : List Handler) :
    R s (handlers.foldl (handle record) s) := by
  induction handlers generalizing s with
  | nil => exact hrefl s
  | cons h handlers ih =>
    refine htrans ?_ (ih (s.handle record h))
    unfold handle
    split
    · split
      · exact hemit s h.sink _
      · exact hrefl s
    · exact hrefl s

/-- Once its logger has decided, all that a message does is to have lines written. -/
theorem after_log_of_emit (s : State) (m : Message) : R (s.noted m) (s.after (.log m)) := by
  rw [after]
  cases henabled : (s.use m.logger).isEnabled m.logger m.level with
  | false =>
    rw [log_of_not_enabled henabled]
    exact hrefl _
  | true =>
    cases hrecord : m.record? with
    | none =>
      rw [log_of_no_record henabled hrecord]
      exact hrefl _
    | some record =>
      rw [log_of_record henabled hrecord]
      exact foldl_handle_of_emit hrefl htrans hemit record _ _

end

theorem logs_log (s : State) (m : Message) : Logs s (s.after (.log m)) :=
  (s.logs_noted m).trans (after_log_of_emit Logs.refl Logs.trans logs_emit s m)

theorem grows_after (s : State) (e : Event) : Grows s (s.after e) := by
  cases e with
  | setup r => exact (setup_outcome s r).writesNothing.grows
  | log m => exact (s.logs_log m).toGrows

/-! ## Runs -/

theorem grows_foldl (s : State) (events : List Event) : Grows s (events.foldl after s) := by
  induction events generalizing s with
  | nil => exact .refl s
  | cons e events ih => exact (s.grows_after e).trans (ih (s.after e))

/-- Whatever happens later, nothing is gone of what is there now. -/
theorem grows_run (events later : List Event) : Grows (run events) (run (events ++ later)) :=
  run_append events later ▸ grows_foldl (run events) later

/-- The decoders' loggers are in use from the start. -/
theorem quietLoggers_subset_run (events : List Event) : quietLoggers ⊆ (run events).inUse :=
  (grows_run [] events).inUse

theorem logs_foldl (s : State) (messages : List Message) :
    Logs s ((messages.map Event.log).foldl after s) := by
  induction messages generalizing s with
  | nil => exact .refl s
  | cons m messages ih => exact (s.logs_log m).trans (ih (s.after (.log m)))

end State

end Exif.Logging
