import SquarePool.Settings.Environment
import SquarePool.Text.Alphanumeric

/-!
# Logging

Which lines of a log are kept, and in which form they are written. Directives give a level to every
target that starts as they say; of several that fit, the longest counts. A level is named by its own
variable, or a full list of directives by another; a name that is no level is reported.
-/

namespace SquarePool

/-- How much a line matters, from the most on. -/
inductive LogLevel where
  | error
  | warn
  | info
  | debug
  | trace
  deriving DecidableEq, Repr, Inhabited

namespace LogLevel

/-- Every level, the one that matters most first. -/
def all : List LogLevel := [error, warn, info, debug, trace]

/-- The name of a level. -/
protected def key : LogLevel → String
  | error => "error"
  | warn => "warn"
  | info => "info"
  | debug => "debug"
  | trace => "trace"

instance : Keyed LogLevel := ⟨all, LogLevel.key⟩

instance : LawfulKeyed LogLevel where
  mem_members a := by cases a <;> decide
  key_injective a b := by cases a <;> cases b <;> decide

/-- The place of a level among all. -/
def rank (level : LogLevel) : Nat := all.idxOf level

end LogLevel

/-- The levels of the targets whose name starts with `target`; without a level, nothing is kept. -/
structure Directive where
  target : String
  level : Option LogLevel
  deriving DecidableEq, Repr

/-- A filter: its directives, in the order in which they were given. -/
abbrev LogFilter : Type := List Directive

/-- The target of the program itself. -/
def programTarget : String := "sqmgr_sports_sync"

namespace LogFilter

/-- One level for the program and its library, and nothing from anywhere else. -/
def ofLevel (level : LogLevel) : LogFilter :=
  [⟨"sqmgr_sports", some level⟩, ⟨programTarget, some level⟩]

/-- The directive with the longest target that fits; of two equal ones the later. -/
def directiveFor? (filter : LogFilter) (target : String) : Option Directive :=
  (filter.filter fun d => target.startsWith d.target).foldl (fun best d =>
    match best with
    | some b => if b.target.utf8ByteSize ≤ d.target.utf8ByteSize then some d else some b
    | none => some d) none

/-- The line is kept. -/
def keeps (filter : LogFilter) (target : String) (level : LogLevel) : Bool :=
  match (filter.directiveFor? target).bind (·.level) with
  | some limit => level.rank ≤ limit.rank
  | none => false

/-- Lowers the ASCII letters of a text. -/
def lowerAscii (s : String) : String := String.ofList (s.toList.map Char.toLower)

/-- Reads a level: its name in any case, its number from one to five, or nothing at all. -/
def level? (text : String) : Option (Option LogLevel) :=
  let name := lowerAscii text
  if name = "off" ∨ name = "0" then some none
  else
    match ofKey? name with
    | some level => some (some level)
    | none => (LogLevel.all.find? fun l => toString (l.rank + 1) = name).map some

/-- A character of a target. -/
def isTargetChar (c : Char) : Bool := Text.isAlphanumeric c || c == '_' || c == ':' || c == '-'

/-- Reads a target. -/
def target? (text : String) : Option String :=
  if text ≠ "" ∧ text.toList.all isTargetChar then some text else none

/-- Reads a directive: a level for all targets, a target with a level, or a target whose level is
left out, of which everything is kept. -/
def directive? (text : String) : Option Directive :=
  match text.splitOn "=" with
  | [one] =>
    match level? one with
    | some level => some ⟨"", level⟩
    | none => (target? one).map fun target => ⟨target, some .trace⟩
  | [target, ""] => (target? target).map fun target => ⟨target, some .trace⟩
  | [target, level] => do some ⟨← target? target, ← level? level⟩
  | _ => none

/-- Reads directives separated by commas. Without any, errors are kept. -/
def ofText? (text : String) : Option LogFilter :=
  match (text.splitOn ",").filter (· ≠ "") with
  | [] => some [⟨"", some .error⟩]
  | parts => parts.mapM directive?

end LogFilter

/-- How a run is logged. -/
structure LogSetup where
  filter : LogFilter
  json : Bool
  /-- A name that was given for a level and is none. -/
  rejected : Option String := none
  deriving DecidableEq, Repr

namespace LogSetup

/-- The filter that an environment asks for, and a name that it wrongly gives for a level. -/
def filterOf (env : Environment) : LogFilter × Option String :=
  match ((env "LOG_LEVEL").map Text.trim).filter (· ≠ "") with
  | some name =>
    match ofKey? (Text.lower name) with
    | some level => (.ofLevel level, none)
    | none => (.ofLevel .info, some name)
  | none =>
    match env.value? "RUST_LOG" with
    | some directives => ((LogFilter.ofText? directives).getD (.ofLevel .info), none)
    | none => (.ofLevel .info, none)

/-- The environment asks for a log of documents. -/
def asksJson (env : Environment) : Bool :=
  match env "SQMGR_LOG_JSON" with
  | some value => value == "1" || LogFilter.lowerAscii value == "true"
  | none => false

/-- How a run is logged in an environment; `json` is what the settings say. -/
def ofEnvironment (env : Environment) (json : Bool) : LogSetup :=
  let (filter, rejected) := filterOf env
  { filter, json := json || asksJson env, rejected }

end LogSetup

end SquarePool
