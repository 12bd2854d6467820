import SquarePool.Record
import SquarePool.Settings.Basic

/-!
# The command line

What a run can be told when it is started. A switch takes no value and may be given once; an option
takes one, after an equals sign or as the next argument, and may be given once. The first mistake
from the left is the one that is reported, but the value of an option is looked at only when the
next switch or option is met. Main statement: without a mode there is no run.
-/

namespace SquarePool

/-- An argument that takes no value. -/
inductive Switch where
  | mode (mode : SyncMode)
  | dryRun
  deriving DecidableEq, Repr

/-- An argument that takes a value. -/
inductive ValueOption where
  | league
  | config
  deriving DecidableEq, Repr

/-- An argument that starts with dashes. -/
inductive Argument where
  | switch (switch : Switch)
  | option (o : ValueOption)
  | help
  | version
  deriving DecidableEq, Repr

namespace Argument

/-- Every argument, in the order in which help lists them. -/
def all : List Argument :=
  SyncMode.all.map (fun mode => switch (.mode mode))
    ++ [switch .dryRun, option .league, option .config, help, version]

/-- The long name, without its dashes. -/
def name : Argument → String
  | switch (.mode mode) => "sync-" ++ key mode
  | switch .dryRun => "dry-run"
  | option .league => "league"
  | option .config => "config"
  | help => "help"
  | version => "version"

/-- The short name, if there is one. -/
def letter? : Argument → Option Char
  | help => some 'h'
  | version => some 'V'
  | _ => none

/-- What stands for the value. -/
def placeholder? : Argument → Option String
  | option .league => some "LEAGUE"
  | option .config => some "PATH"
  | _ => none

/-- What the argument is for. -/
def purpose : Argument → String
  | switch (.mode .teams) => "Sync teams for each league"
  | switch (.mode .schedule) => "Sync the season schedule for each league"
  | switch (.mode .scores) => "Update scores for live and recent events"
  | switch .dryRun => "Log intended writes without performing them"
  | option .league => "Restrict to one league (" ++ ", ".intercalate (League.all.map key) ++ ")"
  | option .config => "Path to a TOML config file"
  | help => "Print help"
  | version => "Print version"

/-- The argument as it is written, with its placeholder. -/
def shown (a : Argument) : String :=
  match a.placeholder? with
  | some placeholder => "--" ++ a.name ++ " <" ++ placeholder ++ ">"
  | none => "--" ++ a.name

end Argument

/-- What is wrong with a command line. -/
inductive UsageError where
  | unexpected (text : String)
  /-- A switch was given a value. -/
  | unexpectedValue (argument : Argument) (value : String)
  | repeated (argument : Argument)
  | missingValue (o : ValueOption)
  | badLeague (text : String)
  /-- Nothing was asked for. -/
  | noMode
  deriving DecidableEq, Repr

/-- What is said about a wrong command line. -/
def UsageError.message : UsageError → String
  | unexpected text => "error: unexpected argument '" ++ text ++ "' found"
  | unexpectedValue argument value =>
    "error: unexpected value '" ++ value ++ "' for '" ++ argument.shown
      ++ "' found; no more were expected"
  | repeated argument =>
    "error: the argument '" ++ argument.shown ++ "' cannot be used multiple times"
  | missingValue o =>
    "error: a value is required for '" ++ (Argument.option o).shown ++ "' but none was supplied"
  | badLeague text =>
    "error: invalid value '" ++ text ++ "' for '" ++ (Argument.option .league).shown ++ "': "
      ++ (Invalid.league text).message
  | noMode =>
    "error: no sync mode selected; pass --sync-teams, --sync-schedule or --sync-scores"

/-- Why a command line starts no run. -/
inductive NoRun where
  | help
  | version
  | wrong (e : UsageError)
  deriving DecidableEq, Repr

/-- What a run is told. -/
structure Choices where
  switches : List Switch := []
  league : Option League := none
  config : Option String := none
  deriving DecidableEq, Repr

/-- The modes that are asked for, in the order in which they run. -/
def Choices.modes (choices : Choices) : List SyncMode :=
  SyncMode.all.filter fun mode => choices.switches.contains (.mode mode)

/-- Nothing is to be written. -/
def Choices.dryRun (choices : Choices) : Bool := choices.switches.contains .dryRun

namespace CommandLine

/-- A command line that is read as far as some argument. -/
structure Draft where
  choices : Choices := {}
  /-- The option that was met last, with its value if that was met too. -/
  pending : Option (ValueOption × Option String) := none
  /-- Two dashes were met alone; after them no argument has a name. -/
  namesEnded : Bool := false
  deriving DecidableEq, Repr

namespace Draft

/-- Gives an option its value. -/
def assign (d : Draft) (o : ValueOption) (value : Option String) : Except NoRun Draft :=
  match value with
  | none => .error (.wrong (.missingValue o))
  | some text =>
    match o with
    | .league =>
      if d.choices.league.isSome then .error (.wrong (.repeated (.option o)))
      else
        match League.ofName? text with
        | some league => .ok { d with choices := { d.choices with league := some league } }
        | none => .error (.wrong (.badLeague text))
    | .config =>
      if d.choices.config.isSome then .error (.wrong (.repeated (.option o)))
      else if text = "" then .error (.wrong (.missingValue o))
      else .ok { d with choices := { d.choices with config := some text } }

/-- Gives the option that was met last its value. -/
def settle (d : Draft) : Except NoRun Draft :=
  match d.pending with
  | none => .ok d
  | some (o, value) => { d with pending := none }.assign o value

/-- Turns on a switch. -/
def turnOn (d : Draft) (w : Switch) : Except NoRun Draft :=
  if w ∈ d.choices.switches then .error (.wrong (.repeated (.switch w)))
  else .ok { d with choices := { d.choices with switches := w :: d.choices.switches } }

/-- Takes an argument by its name. -/
def take (d : Draft) (argument : Argument) (value : Option String) : Except NoRun Draft :=
  match argument, value with
  | .option o, some text => do
    let d ← d.settle
    d.assign o (some text)
  | .option o, none => do
    let d ← d.settle
    .ok { d with pending := some (o, none) }
  | argument, some text => .error (.wrong (.unexpectedValue argument text))
  | .switch w, none => do
    let d ← d.settle
    d.turnOn w
  | .help, none => do
    let _ ← d.settle
    .error .help
  | .version, none => do
    let _ ← d.settle
    .error .version

/-- Takes a text that is no name: the value of the option before it. -/
def takeText (d : Draft) (text : String) : Except NoRun Draft :=
  match d.pending with
  | some (o, none) => .ok { d with pending := some (o, some text) }
  | _ => .error (.wrong (.unexpected text))

/-- Takes an argument that starts with two dashes; `rest` follows them. -/
def takeLong (d : Draft) (rest : List Char) : Except NoRun Draft :=
  let name := String.ofList (rest.takeWhile (· != '='))
  let value := match rest.dropWhile (· != '=') with
    | [] => none
    | _ :: text => some (String.ofList text)
  match Argument.all.find? (·.name == name) with
  | some argument => d.take argument value
  | none => .error (.wrong (.unexpected ("--" ++ name)))

/-- Takes an argument that starts with one dash; `letter` follows it. -/
def takeShort (d : Draft) (letter : Char) : Except NoRun Draft :=
  match Argument.all.find? (·.letter? == some letter) with
  | some argument => d.take argument none
  | none => .error (.wrong (.unexpected (String.ofList ['-', letter])))

/-- Takes the next argument. -/
def step (d : Draft) (argument : String) : Except NoRun Draft :=
  if d.namesEnded then .error (.wrong (.unexpected argument))
  else
    match argument.toList with
    | ['-', '-'] => .ok { d with namesEnded := true }
    | '-' :: '-' :: rest => d.takeLong rest
    | '-' :: letter :: _ => d.takeShort letter
    | _ => d.takeText argument

end Draft

/-- Reads a command line. -/
def read (arguments : List String) : Except NoRun Choices := do
  let d ← arguments.foldlM Draft.step {}
  let d ← d.settle
  if d.choices.modes = [] then .error (.wrong .noMode) else .ok d.choices

/-- The name of the program. -/
def programName : String := "sqmgr-sports-sync"

/-- A text with blanks after it, up to a width. -/
def padRight (width : Nat) (text : String) : String :=
  text ++ String.ofList (List.replicate (width - text.length) ' ')

/-- The line of help about an argument. -/
def helpLine (argument : Argument) : String :=
  let width := ((Argument.all.map fun a => a.shown.length).max?).getD 0
  let letter := match argument.letter? with
    | some c => String.ofList ['-', c] ++ ", "
    | none => "    "
  "  " ++ letter ++ padRight width argument.shown ++ "  " ++ argument.purpose

/-- Help, line by line. -/
def helpLines : List String :=
  ["Sync teams, schedules and live scores from ESPN", "",
    "Usage: " ++ programName ++ " [OPTIONS]", "", "Options:"] ++ Argument.all.map helpLine

/-- The line that names the program and its version. -/
def versionLine : String := programName ++ " " ++ programVersion

theorem modes_of_read {arguments : List String} {choices : Choices}
    (h : read arguments = .ok choices) : choices.modes ≠ [] := by
  unfold read at h
  rcases hd : arguments.foldlM Draft.step {} with e | d
  · simp [hd, bind, Except.bind] at h
  · rcases hs : d.settle with e | d'
    · simp [hd, hs, bind, Except.bind] at h
    · by_cases hm : d'.choices.modes = []
      · simp [hd, hs, hm, bind, Except.bind] at h
      · simp only [hd, hs, hm, bind, Except.bind, if_false, Except.ok.injEq] at h
        exact h ▸ hm

end CommandLine

end SquarePool
