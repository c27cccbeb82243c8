import Exif.Proofs.FileTree.Reopening
import Exif.Proofs.Logging.Delivery

/-! A set-up of logging that succeeds leaves nothing of what was configured before it. It is the request
that decides what is configured, and of the state only the files have a say in whether it succeeds.
Until logging is set up in another way, the same request only makes loggers forget what they decided. -/

namespace Exif.Logging

/-- A log file is opened, if there is one: the directory that is to hold it is made, and the file too if
it is not there. -/
def Opens (files : FileTree String) : Option Path → FileTree String → Prop
  | none, opened => opened = files
  | some p, opened => ∃ made,
    files.ensureDirectories p.root p.components.dropLast.reverse = (made, none) ∧
      made.openToAppend (FileTree.lexical p) = (opened, .ok (FileTree.lexicalPlace p))

theorem isSome_of_logPath? {r : Request} {path : Option Path} (h : r.logPath? = .ok path) :
    path.isSome = r.logFile.truthy := by
  unfold Request.logPath? at h
  split at h
  · next htruthy =>
    split at h
    · obtain rfl := Except.ok.inj h
      exact htruthy.symm
    · exact nomatch h
  · next hfalsy =>
    obtain rfl := Except.ok.inj h
    simpa using hfalsy

namespace State

def configured (s : State) (level : Threshold) (template : String) (path : Option Path)
    (files : FileTree String) : State where
  rootLevel := level
  handlers := (sinks path).map (Handler.mk · level template)
  quietLevel := warningLevel
  inUse := s.inUse
  verdicts := .empty
  console := s.console
  files := files

/-! ## Removing handlers -/

def removeHandler (s : State) (h : Handler) : State := { s with handlers := s.handlers.erase h }

/-- Taking out the handlers one by one, along a copy of their list, leaves none. -/
theorem foldl_removeHandler (s : State) :
    s.handlers.foldl removeHandler s = { s with handlers := [] } := by
  obtain ⟨rootLevel, handlers, quietLevel, inUse, verdicts, console, files⟩ := s
  induction handlers with
  | nil => rfl
  | cons h handlers ih => rwa [List.foldl_cons, removeHandler, List.erase_cons_head]

/-! ## Success -/

theorem addFile_eq_none {s s' : State} {level : Threshold} {template : String} {p : Path} :
    s.addFile level template p = (s', none) ↔ ∃ files, Opens s.files (some p) files ∧
      s' = { s with files := files }.addHandler ⟨.file (FileTree.lexicalPlace p), level, template⟩ := by
  unfold addFile Opens
  split
  · next made cause hmade => simp [hmade]
  · next made hmade =>
    split
    · next opened cause hopened => simp [hmade, hopened]
    · next opened place hopened =>
      obtain ⟨hplace, -⟩ := FileTree.openToAppend_eq_ok hopened
      rw [FileTree.lexicalPlace_lexical] at hplace
      subst hplace
      simp [hmade, hopened, eq_comm]

/-- A request is carried out if it names a level, a template and a log file or none, and if the log file
can be opened. -/
theorem setup_of_opens {s : State} {r : Request} {level : Threshold} {template : String}
    {path : Option Path} {files : FileTree String} (hlevel : r.level? = .ok level)
    (htemplate : r.template? = .ok template) (hpath : r.logPath? = .ok path)
    (hopens : Opens s.files path files) :
    s.setup r = (s.configured level template path files, none) := by
  rcases path with _ | p
  · rw [Opens] at hopens
    subst hopens
    simp only [setup, hlevel, htemplate, hpath]
    rfl
  · have hadd : ((s.reset level).addHandler ⟨.console, level, template⟩).addFile level template p =
        (_, none) := addFile_eq_none.2 ⟨files, hopens, rfl⟩
    simp only [setup, hlevel, htemplate, hpath, hadd]
    rfl

/-- Nothing else is carried out. -/
theorem opens_of_setup {s s' : State} {r : Request} (h : s.setup r = (s', none)) :
    ∃ level template path files, r.level? = .ok level ∧ r.template? = .ok template ∧
      r.logPath? = .ok path ∧ Opens s.files path files ∧
      s' = s.configured level template path files := by
  have houtcome := setup_outcome s r
  rw [h] at houtcome
  rcases houtcome with _ | _ | _ | @⟨_, level, template, path, hlevel, htemplate, hpath⟩
  rcases path with _ | p
  · have hdone : s.setup r = (s.configured level template none s.files, none) :=
      setup_of_opens hlevel htemplate hpath rfl
    exact ⟨level, template, none, s.files, hlevel, htemplate, hpath, rfl,
      (Prod.mk.inj (h.symm.trans hdone)).1⟩
  · simp only [setup, hlevel, htemplate, hpath] at h
    split at h
    · exact nomatch (Prod.mk.inj h).2
    · next added hadd =>
      obtain ⟨files, hopens, rfl⟩ := addFile_eq_none.1 hadd
      exact ⟨level, template, some p, files, hlevel, htemplate, hpath, hopens,
        (Prod.mk.inj h).1.symm⟩

/-! ## Repetition -/

theorem keepsDirectories_log (s : State) (m : Message) :
    s.files.KeepsDirectories (s.after (.log m)).files := by
  rw [← s.files_noted m]
  refine after_log_of_emit (R := fun s s' => s.files.KeepsDirectories s'.files) (fun s => .refl s.files)
    (fun h h' => h.trans h') (fun s sink line => ?_) s m
  rcases sink with _ | place
  · exact .refl s.files
  · exact s.files.keepsDirectories_append place line

theorem keepsDirectories_foldl_log (s : State) (messages : List Message) :
    s.files.KeepsDirectories ((messages.map Event.log).foldl after s).files := by
  induction messages generalizing s with
  | nil => exact .refl s.files
  | cons m messages ih => exact (s.keepsDirectories_log m).trans (ih (s.after (.log m)))

/-- A log file that was opened, and is still there, is opened as it is. -/
theorem opens_again {files opened later : FileTree String} {path : Option Path}
    (h : Opens files path opened) (hkeeps : opened.KeepsDirectories later)
    (hfile : ∀ p, path = some p →
      ∃ content, later.at? (FileTree.lexicalPlace p) = some (.file content)) :
    Opens later path later := by
  rcases path with _ | p
  · rfl
  · obtain ⟨made, hmade, hopened⟩ := h
    obtain ⟨content, hcontent⟩ := hfile p rfl
    have hdirectories : made.KeepsDirectories opened := by
      have := made.keepsDirectories_openToAppend (FileTree.lexical p)
      rwa [hopened] at this
    exact ⟨later, FileTree.ensureDirectories_again hmade (hdirectories.trans hkeeps),
      FileTree.openToAppend_again hopened hkeeps hcontent⟩

/-- What a request has set up is not changed by the same request, but loggers forget. -/
theorem setup_again {s : State} {r : Request} (h : (s.setup r).2 = none) (since : List Message) :
    ((since.map Event.log).foldl after (s.setup r).1).setup r =
      (((since.map Event.log).foldl after (s.setup r).1).forget, none) := by
  have hkeeps := (s.setup r).1.keepsDirectories_foldl_log since
  obtain ⟨level, template, path, hlevel, htemplate, hpath, hconfiguration, hfile⟩ :=
    configuration_since h since
  obtain ⟨_, _, path', opened, -, -, hpath', hopens, hs'⟩ :=
    opens_of_setup (Prod.ext rfl h : s.setup r = ((s.setup r).1, none))
  obtain rfl : path = path' := Except.ok.inj (hpath.symm.trans hpath')
  generalize (since.map Event.log).foldl after (s.setup r).1 = now at hkeeps hconfiguration hfile ⊢
  rw [hs'] at hkeeps
  rw [setup_of_opens hlevel htemplate hpath (opens_again hopens hkeeps hfile)]
  obtain ⟨hroot, hhandlers, hquiet⟩ := Configuration.mk.inj hconfiguration
  rw [configured, ← hhandlers, ← hroot, ← hquiet]
  rfl

/-- A set-up that succeeds erases history. What is configured then follows from the request alone: a
console handler, one for the log file exactly if there is one, both at the level asked for, and
warnings from the decoders' loggers. A root that was never set up would have got the same, on the same
files without fail. Until logging is set up in another way, the request changes nothing any more but what
loggers have decided, which they forget. -/
theorem setup_erases_history (s : State) (r : Request) (h : (s.setup r).2 = none) :
    (∃ level template path, r.level? = .ok level ∧ r.template? = .ok template ∧
      r.logPath? = .ok path ∧ path.isSome = r.logFile.truthy ∧
      (s.setup r).1.rootLevel = level ∧
      (s.setup r).1.handlers = ⟨.console, level, template⟩ ::
        (path.map fun p => ⟨.file (FileTree.lexicalPlace p), level, template⟩).toList ∧
      (s.setup r).1.quietLevel = warningLevel) ∧
      -- from any other state
      (∀ s' : State, (s'.setup r).2 = none →
        (s'.setup r).1.configuration = (s.setup r).1.configuration) ∧
      -- from before any set-up, on the same files
      (({ fresh with files := s.files }.setup r).2 = none ∧
        ({ fresh with files := s.files }.setup r).1.configuration = (s.setup r).1.configuration) ∧
      -- once more, with messages logged since then
      (∀ since : List Message,
        ((since.map Event.log).foldl after (s.setup r).1).setup r =
            (((since.map Event.log).foldl after (s.setup r).1).forget, none) ∧
          ((since.map Event.log).foldl after (s.setup r).1).configuration =
            (s.setup r).1.configuration) ∧
      -- handlers are taken out one by one, along a copy of their list
      ∀ level, s.handlers.foldl removeHandler { s.forget with rootLevel := level } = s.reset level := by
  obtain ⟨level, template, path, opened, hlevel, htemplate, hpath, hopens, hs'⟩ :=
    opens_of_setup (Prod.ext rfl h : s.setup r = ((s.setup r).1, none))
  refine ⟨⟨level, template, path, hlevel, htemplate, hpath, isSome_of_logPath? hpath, ?_⟩, ?_, ?_, ?_,
    fun level => foldl_removeHandler { s.forget with rootLevel := level }⟩
  · rw [hs']
    refine ⟨rfl, ?_, rfl⟩
    rcases path with _ | p <;> rfl
  · intro other hother
    obtain ⟨level', template', path', files, hlevel', htemplate', hpath', -, hother'⟩ :=
      opens_of_setup (Prod.ext rfl hother : other.setup r = ((other.setup r).1, none))
    obtain rfl := Except.ok.inj (hlevel.symm.trans hlevel')
    obtain rfl := Except.ok.inj (htemplate.symm.trans htemplate')
    obtain rfl := Except.ok.inj (hpath.symm.trans hpath')
    rw [hother', hs']
    rfl
  · have hfresh := setup_of_opens (s := { fresh with files := s.files }) hlevel htemplate hpath hopens
    rw [hfresh, hs']
    exact ⟨rfl, rfl⟩
  · intro since
    exact ⟨setup_again h since, (logs_foldl (s.setup r).1 since).configuration⟩

/-- A set-up with a log file in a directory of its own. -/
def intoDirectory : Request := { level := .int 10, logFile := .text "logs/new.log" }

set_option maxRecDepth 2000 in
/-- A set-up that failed has left the root without handlers and with the level it asked for. Nothing of
that remains, nor of the log file before it, and no second set-up is needed after some messages. -/
theorem setup_erases_history_afterFailure :
    (run reconfigured).configuration = ⟨.number infoLevel, [], 30⟩ ∧
      ((run reconfigured).setup intoDirectory).2 = none ∧
      ((run reconfigured).setup intoDirectory).1.handlers =
        [⟨.console, .number 10, Request.defaultTemplate {}⟩,
          ⟨.file ["logs", "new.log"], .number 10, Request.defaultTemplate {}⟩] ∧
      (fresh.setup intoDirectory).1.configuration =
        ((run reconfigured).setup intoDirectory).1.configuration ∧
      (run (reconfigured ++ [.setup intoDirectory, .log broken])).setup intoDirectory =
        ((run (reconfigured ++ [.setup intoDirectory, .log broken])).forget, none) := by
  have hsetup : ((run reconfigured).setup intoDirectory).2 = none := rfl
  obtain ⟨⟨level, template, path, hlevel, htemplate, hpath, -, -, hhandlers, -⟩, hother, -, hagain, -⟩ :=
    setup_erases_history (run reconfigured) intoDirectory hsetup
  obtain rfl : Threshold.number 10 = level := Except.ok.inj hlevel
  obtain rfl : Request.defaultTemplate {} = template := Except.ok.inj htemplate
  obtain rfl : some (Path.ofString "logs/new.log") = path := Except.ok.inj hpath
  exact ⟨rfl, hsetup, hhandlers, hother fresh rfl, (hagain [broken]).1⟩

end State

end Exif.Logging
