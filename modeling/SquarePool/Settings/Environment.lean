import SquarePool.Settings.Basic

/-!
# Settings from the environment

Variables of the environment win over the settings of a file. A variable that holds nothing but
blanks counts as not set.
-/

namespace SquarePool

/-- The variables of an environment. -/
abbrev Environment : Type := String → Option String

/-- Why settings are refused. -/
inductive SettingsError where
  /-- A variable should hold a number. -/
  | badNumber (name value : String)
  /-- The file cannot be read. -/
  | unreadable (path : String)
  /-- The file holds no settings. -/
  | malformed (path : String)
  deriving DecidableEq, Repr

/-- What is said about refused settings. -/
def SettingsError.message : SettingsError → String
  | badNumber name value => "Invalid value for " ++ name ++ ": " ++ value
  | unreadable path => "Failed to read config file: " ++ path
  | malformed path => "Failed to parse config file: " ++ path

/-- The value of a variable that is set. -/
def Environment.value? (env : Environment) (name : String) : Option String :=
  (env name).filter fun v => !Text.isAllBlank v

/-- The number in a variable that is set, or else `current`. -/
def Environment.number (env : Environment) (name : String) (most current : Nat) :
    Except SettingsError Nat :=
  match env.value? name with
  | none => .ok current
  | some v =>
    match Text.readUnsigned? most (Text.trimChars v.toList) with
    | some n => .ok n
    | none => .error (.badNumber name v)

/-- Overrides settings by an environment. -/
def Settings.override (settings : Settings) (env : Environment) : Except SettingsError Settings := do
  let rate ← env.number "ESPN_REQUESTS_PER_SECOND" Settings.maxNat32
    settings.feed.requestsPerSecond
  let timeout ← env.number "ESPN_TIMEOUT_SECS" Settings.maxNat64 settings.feed.timeoutSeconds
  let url := (env.value? "SQMGR_CONF_DSN").or (env.value? "DATABASE_URL")
  .ok { settings with
    database := { settings.database with url := url.getD settings.database.url }
    feed := { settings.feed with
      baseUrl := (env.value? "ESPN_BASE_URL").getD settings.feed.baseUrl
      requestsPerSecond := rate
      timeoutSeconds := timeout } }

/-- The files of a directory: the text of the file at a path, if there is one. -/
abbrev Files : Type := String → Option String

namespace Settings

/-- The file that is read unless another is named. -/
def defaultPath : String := "config.toml"

/-- The variable that may name another file. -/
def pathVariable : String := "SQMGR_SPORTS_CONFIG"

/-- Reads settings from a file. -/
def ofFile (files : Files) (path : String) : Except SettingsError Settings :=
  match files path with
  | none => .error (.unreadable path)
  | some source =>
    match ofText? source with
    | some settings => .ok settings
    | none => .error (.malformed path)

/-- Reads settings from the file that is named, from the one that the environment names, or from the
usual one if it is there, and overrides them by the environment. -/
def load (files : Files) (env : Environment) (path : Option String) :
    Except SettingsError Settings := do
  let settings ← match path.or (env pathVariable) with
    | some path => ofFile files path
    | none => if (files defaultPath).isSome then ofFile files defaultPath else .ok {}
  settings.override env

end Settings

/-- The parts of a path, without those that stay where they are. -/
def pathParts (path : String) : List String :=
  (path.splitOn "/").filter fun part => part ≠ "" ∧ part ≠ "."

/-- The files of a directory from their names and texts. Paths that leave the directory lead
nowhere. -/
def Files.ofList (files : List (String × String)) : Files := fun path =>
  if path.startsWith "/" ∨ path.endsWith "/" then none
  else (files.find? fun file => pathParts file.1 = pathParts path).map (·.2)

end SquarePool
