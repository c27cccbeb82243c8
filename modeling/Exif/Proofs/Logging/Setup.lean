import Exif.Logging.Setup
import Exif.Proofs.FileTree.Writing

/-! What a set-up of logging does: it succeeds, or one of its parts is refused, and each outcome says
what is configured then. Nothing is undone by a failure. Only the refusal of a level, which comes
first, leaves the configuration as it was. -/

namespace Exif.Logging

/-- What set-ups decide: the level and the handlers of the root, and the level of the decoders'
loggers. -/
structure Configuration where
  rootLevel : Threshold
  handlers : List Handler
  quietLevel : Int
deriving DecidableEq, Repr

/-- Where records are to be written: to the console, and to the log file if there is one, at the place
that its path denotes. -/
def sinks (path : Option Path) : List Sink :=
  .console :: (path.map fun p => .file (FileTree.lexicalPlace p)).toList

namespace State

def configuration (s : State) : Configuration := ⟨s.rootLevel, s.handlers, s.quietLevel⟩

/-- From one state to another nothing has been written, though files may have been made. -/
structure WritesNothing (s s' : State) : Prop where
  inUse : s'.inUse = s.inUse
  console : s'.console = s.console
  files : s.files.Keeps s'.files

/-! ## The log file -/

/-- A log file that cannot be opened leaves the configuration as it was. One that is opened gets a
handler of its own, and is there from then on. -/
theorem addFile_outcome (s : State) (level : Threshold) (template : String) (p : Path) :
    WritesNothing s (s.addFile level template p).1 ∧
      ((∃ cause, (s.addFile level template p).2 = some (.path cause) ∧
          (s.addFile level template p).1.configuration = s.configuration) ∨
        (s.addFile level template p).2 = none ∧
          (s.addFile level template p).1.configuration = ⟨s.rootLevel,
            s.handlers ++ [⟨.file (FileTree.lexicalPlace p), level, template⟩], s.quietLevel⟩ ∧
          ∃ content, (s.addFile level template p).1.files.at? (FileTree.lexicalPlace p) =
            some (.file content)) := by
  unfold addFile
  have hdirectories := s.files.keeps_ensureDirectories p.root p.components.dropLast.reverse
  split
  · next files cause heq =>
    rw [heq] at hdirectories
    exact ⟨⟨rfl, rfl, hdirectories⟩, .inl ⟨cause, rfl, rfl⟩⟩
  · next files heq =>
    rw [heq] at hdirectories
    have hopened := files.keeps_openToAppend (FileTree.lexical p)
    split
    · next files' cause hopen =>
      rw [hopen] at hopened
      exact ⟨⟨rfl, rfl, hdirectories.trans hopened⟩, .inl ⟨cause, rfl, rfl⟩⟩
    · next files' place hopen =>
      rw [hopen] at hopened
      obtain ⟨hplace, hfile⟩ := FileTree.openToAppend_eq_ok hopen
      rw [FileTree.lexicalPlace_lexical] at hplace
      subst hplace
      exact ⟨⟨rfl, rfl, hdirectories.trans hopened⟩, .inr ⟨rfl, rfl, hfile⟩⟩

/-! ## Outcomes -/

/-- All that a set-up can do, with the state and the error that it leaves. -/
inductive Outcome (s : State) (r : Request) : State → Option SetupError → Prop
  | levelRefused {e : SetupError} (hlevel : r.level? = .error e) : Outcome s r s (some e)
  | templateRefused {level : Threshold} {e : SetupError} (hlevel : r.level? = .ok level)
      (htemplate : r.template? = .error e) : Outcome s r (s.reset level) (some e)
  | fileRefused {s' : State} {level : Threshold} {template : String} {e : SetupError}
      (hlevel : r.level? = .ok level) (htemplate : r.template? = .ok template)
      (hfile : r.logPath? = .error e ∨ ∃ p cause, r.logPath? = .ok (some p) ∧ e = .path cause)
      (hconfiguration : s'.configuration = ⟨level, [⟨.console, level, template⟩], s.quietLevel⟩)
      (hsilent : WritesNothing s s') : Outcome s r s' (some e)
  | done {s' : State} {level : Threshold} {template : String} {path : Option Path}
      (hlevel : r.level? = .ok level) (htemplate : r.template? = .ok template)
      (hpath : r.logPath? = .ok path)
      (hconfiguration : s'.configuration =
        ⟨level, (sinks path).map (Handler.mk · level template), warningLevel⟩)
      (hsilent : WritesNothing s s')
      (hfile : ∀ p, path = some p →
        ∃ content, s'.files.at? (FileTree.lexicalPlace p) = some (.file content))
      (hforgets : s'.verdicts = .empty) : Outcome s r s' none

theorem setup_outcome (s : State) (r : Request) : Outcome s r (s.setup r).1 (s.setup r).2 := by
  unfold setup
  cases hlevel : r.level? with
  | error e => exact .levelRefused hlevel
  | ok level =>
    cases htemplate : r.template? with
    | error e => exact .templateRefused hlevel htemplate
    | ok template =>
      dsimp only
      cases hpath : r.logPath? with
      | error e => exact .fileRefused hlevel htemplate (.inl hpath) rfl ⟨rfl, rfl, .refl s.files⟩
      | ok path =>
        cases path with
        | none =>
          exact .done hlevel htemplate hpath rfl ⟨rfl, rfl, .refl s.files⟩ (fun p hp => nomatch hp) rfl
        | some p =>
          obtain ⟨⟨hinUse, hconsole, hfiles⟩, hadded⟩ := addFile_outcome
            ((s.reset level).addHandler ⟨.console, level, template⟩) level template p
          dsimp only
          split
          · next s' e hadd =>
            rw [hadd] at hinUse hconsole hfiles hadded
            obtain ⟨cause, he, hconfiguration⟩ | ⟨he, -⟩ := hadded
            · obtain rfl := Option.some.inj he
              exact .fileRefused hlevel htemplate (.inr ⟨p, cause, hpath, rfl⟩) hconfiguration
                ⟨hinUse, hconsole, hfiles⟩
            · exact nomatch he
          · next s' hadd =>
            rw [hadd] at hinUse hconsole hfiles hadded
            obtain ⟨cause, he, -⟩ | ⟨-, hconfiguration, hfile⟩ := hadded
            · exact nomatch he
            · refine .done hlevel htemplate hpath ?_ ⟨hinUse, hconsole, hfiles⟩ ?_ rfl
              · exact congrArg (fun c => { c with quietLevel := warningLevel }) hconfiguration
              · rintro q ⟨⟩
                exact hfile

theorem Outcome.writesNothing {s s' : State} {r : Request} {e : Option SetupError}
    (h : Outcome s r s' e) : WritesNothing s s' := by
  cases h with
  | levelRefused => exact ⟨rfl, rfl, .refl s.files⟩
  | templateRefused => exact ⟨rfl, rfl, .refl s.files⟩
  | fileRefused _ _ _ _ hsilent => exact hsilent
  | done _ _ _ _ hsilent => exact hsilent

/-! ## Failures -/

/-- A set-up that fails leaves the level of the decoders' loggers and writes nothing. It changes nothing
at all if the level is refused. Otherwise the root has the level asked for, and of the handlers asked
for it has those that come before what was refused. -/
theorem configuration_of_failed_setup (s : State) (r : Request) (e : SetupError)
    (h : (s.setup r).2 = some e) :
    (s.setup r).1.quietLevel = s.quietLevel ∧ WritesNothing s (s.setup r).1 ∧
      ((r.level? = .error e ∧ (s.setup r).1 = s) ∨
        ∃ level, r.level? = .ok level ∧ (s.setup r).1.rootLevel = level ∧
          ((r.template? = .error e ∧ (s.setup r).1.handlers = []) ∨
            ∃ template, r.template? = .ok template ∧
              (r.logPath? = .error e ∨ ∃ p cause, r.logPath? = .ok (some p) ∧ e = .path cause) ∧
              (s.setup r).1.handlers = [⟨.console, level, template⟩])) := by
  have houtcome := setup_outcome s r
  rw [h] at houtcome
  have hsilent := houtcome.writesNothing
  generalize (s.setup r).1 = s' at houtcome hsilent ⊢
  cases houtcome with
  | levelRefused hlevel => exact ⟨rfl, hsilent, .inl ⟨hlevel, rfl⟩⟩
  | templateRefused hlevel htemplate =>
    exact ⟨rfl, hsilent, .inr ⟨_, hlevel, rfl, .inl ⟨htemplate, rfl⟩⟩⟩
  | fileRefused hlevel htemplate hfile hconfiguration =>
    obtain ⟨hroot, hhandlers, hquiet⟩ := Configuration.mk.inj hconfiguration
    exact ⟨hquiet, hsilent, .inr ⟨_, hlevel, hroot, .inr ⟨_, htemplate, hfile, hhandlers⟩⟩⟩

def withLogFile : State := (fresh.setup { level := .int 10, logFile := .text "a.log" }).1

def ontoDirectory : Request := { level := .int 40, logFile := .text "/" }

def withoutDirective : Request := { level := .int 40, template := .text "plain" }

set_option maxRecDepth 2000 in
/-- Asked to write to a directory, logging keeps the console and no log file. -/
theorem configuration_of_failed_setup_ontoDirectory :
    (withLogFile.setup ontoDirectory).2 = some (.path (.fault .isADirectory (.ofString "/"))) ∧
      (withLogFile.setup ontoDirectory).1.quietLevel = withLogFile.quietLevel ∧
      WritesNothing withLogFile (withLogFile.setup ontoDirectory).1 ∧
      (withLogFile.setup ontoDirectory).1.rootLevel = .number 40 ∧
      (withLogFile.setup ontoDirectory).1.handlers =
        [⟨.console, .number 40, Request.defaultTemplate {}⟩] := by
  have hfails : (withLogFile.setup ontoDirectory).2 =
    some (.path (.fault .isADirectory (.ofString "/"))) := rfl
  obtain ⟨hquiet, hsilent, ⟨hrefused, -⟩ | ⟨level, hlevel, hroot, hrest⟩⟩ :=
    configuration_of_failed_setup withLogFile ontoDirectory _ hfails
  · exact nomatch hrefused
  obtain rfl : Threshold.number 40 = level := Except.ok.inj hlevel
  obtain ⟨hrefused, -⟩ | ⟨template, htemplate, -, hhandlers⟩ := hrest
  · exact nomatch hrefused
  obtain rfl : Request.defaultTemplate {} = template := Except.ok.inj htemplate
  exact ⟨hfails, hquiet, hsilent, hroot, hhandlers⟩

set_option maxRecDepth 2000 in
/-- What was done before a failure is not undone. A template without a directive leaves the root with no
handler; a log file that is a directory, with neither the level nor the log file that it had. -/
theorem failed_setup_changes_configuration :
    withLogFile.configuration = ⟨.number 10, [⟨.console, .number 10, Request.defaultTemplate {}⟩,
        ⟨.file ["a.log"], .number 10, Request.defaultTemplate {}⟩], 30⟩ ∧
      -- a template without a directive
      (withLogFile.setup withoutDirective).2 = some (.invalidTemplate "plain") ∧
      (withLogFile.setup withoutDirective).1.configuration = ⟨.number 40, [], 30⟩ ∧
      (withLogFile.setup withoutDirective).1.configuration ≠ withLogFile.configuration ∧
      -- a directory as log file
      (withLogFile.setup ontoDirectory).2 = some (.path (.fault .isADirectory (.ofString "/"))) ∧
      (withLogFile.setup ontoDirectory).1.configuration =
        ⟨.number 40, [⟨.console, .number 40, Request.defaultTemplate {}⟩], 30⟩ ∧
      (withLogFile.setup ontoDirectory).1.configuration ≠ withLogFile.configuration := by
  have hbefore : withLogFile.configuration = ⟨.number 10,
    [⟨.console, .number 10, Request.defaultTemplate {}⟩,
      ⟨.file ["a.log"], .number 10, Request.defaultTemplate {}⟩], 30⟩ := rfl
  have hnone : (withLogFile.setup withoutDirective).1.configuration = ⟨.number 40, [], 30⟩ := rfl
  have hconsole : (withLogFile.setup ontoDirectory).1.configuration =
    ⟨.number 40, [⟨.console, .number 40, Request.defaultTemplate {}⟩], 30⟩ := rfl
  refine ⟨hbefore, rfl, hnone, ?_, rfl, hconsole, ?_⟩
  · rw [hnone, hbefore]
    exact fun h => nomatch (Configuration.mk.inj h).2.1
  · rw [hconsole, hbefore]
    exact fun h => nomatch (Threshold.number.inj (Configuration.mk.inj h).1)

end State

end Exif.Logging
