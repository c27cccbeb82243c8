import Exif.Datum.Literal
import Exif.FileTree.Writing
import Exif.Logging.Template
import Exif.Text.UpperCase

/-!
Logging: setting it up, and what happens to a message. Loggers have dotted names; a logger without a
level of its own takes that of the nearest logger above it, and remembers what it has let through
until a level is set. All records go to the handlers of the root, each of which writes those of its
level and above.
-/

namespace Exif.Logging

inductive Sink
  | console
  | file (place : List String)
deriving DecidableEq, Repr

/-- A level as it was set: a number, or a truth value. -/
inductive Threshold
  | number (n : Int)
  | flag (b : Bool)
deriving DecidableEq, Repr

/-- The number that a level counts as: a truth value is one or zero. -/
def Threshold.value : Threshold → Int
  | number n => n
  | flag b => if b then 1 else 0

structure Handler where
  sink : Sink
  level : Threshold
  template : String
deriving DecidableEq, Repr

def quietLoggers : List String := ["PIL", "exifread"]

/-- The state of logging: levels and handlers, the loggers that are in use, what loggers have decided
about levels, and what has been written. -/
structure State where
  rootLevel : Threshold
  handlers : List Handler
  quietLevel : Int
  inUse : List String
  verdicts : OrderedMap (String × Int) Bool
  console : String
  files : FileTree String

namespace State

/-- Logging before any set-up: warnings are let through, and there are no handlers. -/
def fresh : State where
  rootLevel := .number warningLevel
  handlers := []
  quietLevel := 0
  inUse := quietLoggers
  verdicts := .empty
  console := ""
  files := .empty

end State

/-! ## Setting up -/

/-- What a set-up asks for. Nothing as template stands for a template of its own, and a log file
that does not count as true for none. -/
structure Request where
  level : Datum := .int infoLevel
  logFile : Datum := .none
  template : Datum := .none
  timestamps : Bool := true

/-- Why a set-up failed. A level, a template or a path may be no such thing at all. -/
inductive SetupError
  | unknownLevelName (name : String)
  | unknownLevel (given : String)
  | notALevel (given : Except LiteralFault String)
  | invalidTemplate (template : String)
  | notATemplate (given : Datum)
  | notAPath (given : Datum)
  | path (e : PathError)

def SetupError.message : SetupError → String
  | unknownLevelName name => "module 'logging' has no attribute '" ++ name ++ "'"
  | unknownLevel given => "Unknown level: " ++ Text.quoted given
  | notALevel (.ok literal) => "Level not an integer or a valid string: " ++ literal
  | notALevel (.error fault) => fault.message
  | invalidTemplate template => "Invalid format '" ++ template ++ "' for '%' style"
  | notATemplate (.bytes _) => "cannot use a string pattern on a bytes-like object"
  | notATemplate given => "expected string or bytes-like object, got '" ++ given.typeName ++ "'"
  | notAPath (.bytes _) =>
    "argument should be a str object or an os.PathLike object returning str, not <class 'bytes'>"
  | notAPath given => "expected str, bytes or os.PathLike object, not " ++ given.typeName
  | path e => e.message

/-- The name that stands, among those of levels, for a template. -/
def templateName : String := "BASIC_FORMAT"

def namedTemplate : String := "%(levelname)s:%(name)s:%(message)s"

/-- The name that stands, among those of levels, for the styles of templates. -/
def stylesName : String := "_STYLES"

/-- The literal of the styles of templates: their marks, each with its class and its template. -/
def stylesLiteral : String :=
  "\x7b'%': (<class 'logging.PercentStyle'>, '" ++ namedTemplate ++ "'), " ++
    "'\x7b': (<class 'logging.StrFormatStyle'>, " ++
    "'\x7blevelname\x7d:\x7bname\x7d:\x7bmessage\x7d'), " ++
    "'$': (<class 'logging.StringTemplateStyle'>, " ++
    "'$\x7blevelname\x7d:$\x7bname\x7d:$\x7bmessage\x7d')\x7d"

def namedLevel? (name : String) : Except SetupError Threshold :=
  match levelOfName? name with
  | some n => .ok (.number n)
  | none =>
    if name = templateName then .error (.unknownLevel namedTemplate)
    else if name = stylesName then .error (.notALevel (.ok stylesLiteral))
    else .error (.unknownLevelName name)

namespace Request

def level? (r : Request) : Except SetupError Threshold :=
  match r.level with
  | .int n => .ok (.number n)
  | .bool b => .ok (.flag b)
  | .text s => namedLevel? (Text.upper s)
  | d => .error (.notALevel d.literal)

def defaultTemplate (r : Request) : String :=
  if r.timestamps then "%(asctime)s - %(name)s - %(levelname)s - %(message)s"
  else "%(name)s - %(levelname)s - %(message)s"

/-- The template asked for. One that does not count as true stands for the message alone. -/
def template? (r : Request) : Except SetupError String :=
  let accepted (t : String) : Except SetupError String :=
    if accepts t then .ok t else .error (.invalidTemplate t)
  match r.template with
  | .none => accepted r.defaultTemplate
  | d =>
    if d.truthy then
      match d with
      | .text t => accepted t
      | d => .error (.notATemplate d)
    else accepted messageTemplate

def logPath? (r : Request) : Except SetupError (Option Path) :=
  if r.logFile.truthy then
    match r.logFile with
    | .text p => .ok (some (.ofString p))
    | d => .error (.notAPath d)
  else .ok none

end Request

namespace State

def forget (s : State) : State := { s with verdicts := .empty }

/-- Sets the level of the root, which makes loggers forget, and drops all handlers. -/
def reset (s : State) (level : Threshold) : State :=
  { s.forget with rootLevel := level, handlers := [] }

def addHandler (s : State) (h : Handler) : State := { s with handlers := s.handlers ++ [h] }

def addFile (s : State) (level : Threshold) (template : String) (p : Path) :
    State × Option SetupError :=
  match s.files.ensureDirectories p.root p.components.dropLast.reverse with
  | (files, some e) => ({ s with files := files }, some (.path e))
  | (files, none) =>
    match files.openToAppend (FileTree.lexical p) with
    | (files, .error e) => ({ s with files := files }, some (.path e))
    | (files, .ok place) =>
      let s := { s with files := files }
      (s.addHandler ⟨.file place, level, template⟩, none)

/-- Sets the level of the decoders' loggers, which makes loggers forget. -/
def quieten (s : State) : State := { s.forget with quietLevel := warningLevel }

/-- Sets up logging: level, then template, then console, then file, then the decoders' loggers. A
failure leaves what was done before it. -/
def setup (s : State) (r : Request) : State × Option SetupError :=
  match r.level? with
  | .error e => (s, some e)
  | .ok level =>
    let s := s.reset level
    match r.template? with
    | .error e => (s, some e)
    | .ok template =>
      let s := s.addHandler ⟨.console, level, template⟩
      match r.logPath? with
      | .error e => (s, some e)
      | .ok none => (s.quieten, none)
      | .ok (some p) =>
        match s.addFile level template p with
        | (s, some e) => (s, some e)
        | (s, none) => (s.quieten, none)

end State

/-! ## Messages -/

def rootName : String := "root"

def isRoot (logger : String) : Bool := logger = "" || logger = rootName

def title (logger : String) : String := if isRoot logger then rootName else logger

structure Message where
  logger : String
  level : Int
  text : String
  origin : Origin

def Message.record? (m : Message) : Option Record :=
  match h : levelName? m.level with
  | some name => some ⟨title m.logger, m.level, name, m.text, m.origin, h⟩
  | none => none

/-- The loggers in use above a name, nearest first. The name is given last character first. It is
cut at its last dot; where that gives no logger in use, at the last dot before the character in
front. -/
def lineage (inUse : List String) (reversed : List Char) : List String :=
  match _h : reversed.dropWhile (· != '.') with
  | '.' :: more =>
    if more = [] then []
    else
      let name := String.ofList more.reverse
      if name ∈ inUse then name :: lineage inUse more else lineage inUse (more.drop 1)
  | _ => []
termination_by reversed.length
decreasing_by
  all_goals
    have hlen : ('.' :: more).length ≤ reversed.length :=
      _h ▸ (List.dropWhile_sublist (· != '.')).length_le
    simp only [List.length_cons, List.length_drop] at hlen ⊢
    omega

namespace State

def ownLevel (s : State) (logger : String) : Int :=
  if logger ∈ quietLoggers then s.quietLevel else 0

/-- The level that a logger takes: its own, or that of the nearest logger above it that has one. -/
def effectiveLevel (s : State) (logger : String) : Int :=
  if isRoot logger then s.rootLevel.value
  else
    let chain := logger :: lineage s.inUse logger.toList.reverse
    ((chain.map s.ownLevel).find? (· ≠ 0)).getD s.rootLevel.value

/-- Whether a logger lets a level through: as it has decided before, or else by the level that it
takes. Levels of zero and below never are. -/
def isEnabled (s : State) (logger : String) (level : Int) : Bool :=
  (s.verdicts.get? (title logger, level)).getD (0 < level && s.effectiveLevel logger ≤ level)

def decided (s : State) (logger : String) (level : Int) : State :=
  { s with verdicts := s.verdicts.insert (title logger, level) (s.isEnabled logger level) }

def emit (s : State) (sink : Sink) (line : String) : State :=
  match sink with
  | .console => { s with console := s.console ++ line }
  | .file place => { s with files := s.files.append place line }

/-- The state after a handler has got a record. What does not suit the template is not written. -/
def handle (r : Record) (s : State) (h : Handler) : State :=
  if h.level.value ≤ r.level then
    match render? h.template r with
    | some text => s.emit h.sink (text ++ "\n")
    | none => s
  else s

def use (s : State) (logger : String) : State :=
  if isRoot logger || s.inUse.contains logger then s else { s with inUse := s.inUse ++ [logger] }

/-- Logs a message. One of a level that cannot be written, where it would get through, is an error. -/
def log (s : State) (m : Message) : State × Option LiteralFault :=
  let s := (s.use m.logger).decided m.logger m.level
  if s.isEnabled m.logger m.level then
    match m.record? with
    | some record => (s.handlers.foldl (handle record) s, none)
    | none => (s, some .unwritableInteger)
  else (s, none)

end State

end Exif.Logging
