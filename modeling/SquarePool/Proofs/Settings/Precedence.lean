import Mathlib.Data.List.TakeWhile
import SquarePool.Proofs.Text.Decimal
import SquarePool.Settings.Environment

/-!
# Which setting counts

What an environment does to the settings of a file, said of its variables one by one: each is set or
not, and one that is set wins. Main statement: the environment is refused for the first number that
is none, and else each setting is the one of the variable that is set, or the one of the file.
-/

namespace SquarePool

namespace Text

theorem trim_eq_empty_iff {s : String} : trim s = "" ↔ isAllBlank s = true := by
  have hleft : ∀ cs : List Char, trimLeft cs = [] ↔ ∀ c ∈ cs, isBlank c = true := fun cs =>
    List.dropWhile_eq_nil_iff
  rw [trim, ← String.toList_inj, String.toList_ofList, String.toList_empty, trimChars,
    List.reverse_eq_nil_iff, hleft, isAllBlank, List.all_eq_true, ← hleft s.toList]
  simp only [List.mem_reverse]
  constructor
  · intro h
    by_contra hne
    -- trimming leaves something else than a blank at the front
    have hhead := List.head_dropWhile_not isBlank hne
    exact absurd (h _ (List.head_mem hne)) (by simp [trimLeft, hhead])
  · intro h
    simp [h]

end Text

namespace Environment

/-- A variable is set: there is more to its value than blanks. -/
def Sets (env : Environment) (name value : String) : Prop :=
  env name = some value ∧ Text.trim value ≠ ""

/-- A variable that is set should say a natural number up to `most`, and says none. -/
def Spoils (env : Environment) (name : String) (most : Nat) (value : String) : Prop :=
  env.Sets name value ∧ ∀ n, ¬Text.IsUnsigned most (Text.trim value).toList n

/-- The number of a variable, or the current one if that is not set. -/
def GivesNumber (env : Environment) (name : String) (most current n : Nat) : Prop :=
  (∃ value, env.Sets name value ∧ Text.IsUnsigned most (Text.trim value).toList n) ∨
    (∀ value, ¬env.Sets name value) ∧ n = current

/-- The untrimmed value of the first variable that is set, or the current one if none is. -/
def GivesText (env : Environment) : List String → String → String → Prop
  | [], current, text => text = current
  | name :: rest, current, text =>
    env.Sets name text ∨ (∀ value, ¬env.Sets name value) ∧ env.GivesText rest current text

variable {env : Environment} {name value current text : String} {names : List String}
  {most n m : Nat} {error : SettingsError}

theorem value?_eq_some_iff : env.value? name = some value ↔ env.Sets name value := by
  rw [value?, Option.filter_eq_some_iff, Sets, ne_eq, Text.trim_eq_empty_iff]
  simp

theorem value?_eq_none_iff : env.value? name = none ↔ ∀ value, ¬env.Sets name value := by
  simp only [← value?_eq_some_iff, Option.eq_none_iff_forall_ne_some, ne_eq]

theorem toList_trim (s : String) : (Text.trim s).toList = Text.trimChars s.toList :=
  String.toList_ofList

/-- A variable gives its number, or the current one. -/
theorem number_eq_ok_iff :
    env.number name most m = .ok n ↔ env.GivesNumber name most m n := by
  rw [GivesNumber, ← value?_eq_none_iff]
  simp only [← value?_eq_some_iff, toList_trim, ← Text.readUnsigned?_eq_some_iff]
  rw [number]
  cases env.value? name with
  | none => simp [eq_comm]
  | some value =>
    cases h : Text.readUnsigned? most (Text.trimChars value.toList) <;> simp [h]

/-- A variable is refused when it should say a number and says none. -/
theorem number_eq_error_iff :
    env.number name most m = .error error ↔
      ∃ value, env.Spoils name most value ∧ error = .badNumber name value := by
  simp only [Spoils, ← value?_eq_some_iff, toList_trim, ← Text.readUnsigned?_eq_some_iff,
    ← Option.eq_none_iff_forall_ne_some]
  rw [number]
  cases env.value? name with
  | none => simp
  | some value =>
    cases h : Text.readUnsigned? most (Text.trimChars value.toList) <;> simp [h, eq_comm]

theorem exists_number_eq_ok_iff :
    (∃ n, env.number name most m = .ok n) ↔ ∀ value, ¬env.Spoils name most value := by
  have herror := @number_eq_error_iff env name most m
  cases h : env.number name most m with
  | error e =>
    obtain ⟨value, spoils, -⟩ := herror.1 h
    simpa using ⟨value, spoils⟩
  | ok n =>
    refine ⟨fun _ value spoils => ?_, fun _ => ⟨n, rfl⟩⟩
    exact absurd (h.symm.trans (herror.2 ⟨value, spoils, rfl⟩)) nofun

theorem getD_findSome?_eq_iff :
    (names.findSome? env.value?).getD current = text ↔ env.GivesText names current text := by
  induction names with
  | nil => exact eq_comm
  | cons name rest ih =>
    rw [GivesText, ← value?_eq_some_iff, ← value?_eq_none_iff, ← ih, List.findSome?_cons]
    cases env.value? name <;> simp

/-- What was chosen is chosen again where it is the current one. -/
theorem GivesNumber.again (h : env.GivesNumber name most m n) : env.GivesNumber name most n n :=
  h.imp_right fun unset => ⟨unset.1, rfl⟩

theorem GivesText.again (h : env.GivesText names current text) : env.GivesText names text text := by
  induction names with
  | nil => rfl
  | cons name rest ih => exact h.imp_right fun unset => ⟨unset.1, ih unset.2⟩

end Environment

namespace Settings

/-- The variable with the most requests in a second. -/
def rateVariable : String := "ESPN_REQUESTS_PER_SECOND"

/-- The variable with the seconds after which a request is given up. -/
def timeoutVariable : String := "ESPN_TIMEOUT_SECS"

/-- The variables with the address of the database, the first of which wins. -/
def databaseVariables : List String := ["SQMGR_CONF_DSN", "DATABASE_URL"]

/-- The variables with the address of the feed. -/
def feedVariables : List String := ["ESPN_BASE_URL"]

/-- Every variable that is looked at. -/
def allVariables : List String :=
  rateVariable :: timeoutVariable :: databaseVariables ++ feedVariables

/-- Settings with other addresses and other numbers for the feed. -/
def replace (settings : Settings) (databaseUrl feedUrl : String) (rate timeout : Nat) : Settings :=
  { settings with
    database := { settings.database with url := databaseUrl }
    feed := { settings.feed with
      baseUrl := feedUrl, requestsPerSecond := rate, timeoutSeconds := timeout } }

/-- Settings as an environment leaves them. -/
structure Follows (env : Environment) (settings result : Settings) : Prop where
  rate : env.GivesNumber rateVariable maxNat32 settings.feed.requestsPerSecond
    result.feed.requestsPerSecond
  timeout : env.GivesNumber timeoutVariable maxNat64 settings.feed.timeoutSeconds
    result.feed.timeoutSeconds
  database : env.GivesText databaseVariables settings.database.url result.database.url
  feed : env.GivesText feedVariables settings.feed.baseUrl result.feed.baseUrl
  /-- No other setting is touched. -/
  others : result = settings.replace result.database.url result.feed.baseUrl
    result.feed.requestsPerSecond result.feed.timeoutSeconds

variable {env env' : Environment} {settings result : Settings} {error : SettingsError}

/-- An environment is refused for the one number or for the other, or it leaves the settings with
what its variables give. -/
theorem override_cases (env : Environment) (settings : Settings) :
    (∃ e, env.number rateVariable maxNat32 settings.feed.requestsPerSecond = .error e ∧
      settings.override env = .error e) ∨
    ∃ rate, env.number rateVariable maxNat32 settings.feed.requestsPerSecond = .ok rate ∧
      ((∃ e, env.number timeoutVariable maxNat64 settings.feed.timeoutSeconds = .error e ∧
        settings.override env = .error e) ∨
      ∃ timeout, env.number timeoutVariable maxNat64 settings.feed.timeoutSeconds = .ok timeout ∧
        settings.override env = .ok (settings.replace
          ((databaseVariables.findSome? env.value?).getD settings.database.url)
          ((feedVariables.findSome? env.value?).getD settings.feed.baseUrl) rate timeout)) := by
  have hdatabase : databaseVariables.findSome? env.value? =
      (env.value? "SQMGR_CONF_DSN").or (env.value? "DATABASE_URL") := by
    simp only [databaseVariables, List.findSome?_cons, List.findSome?_nil]
    cases env.value? "SQMGR_CONF_DSN" <;> cases env.value? "DATABASE_URL" <;> rfl
  have hfeed : feedVariables.findSome? env.value? = env.value? "ESPN_BASE_URL" := by
    simp only [feedVariables, List.findSome?_cons, List.findSome?_nil]
    cases env.value? "ESPN_BASE_URL" <;> rfl
  rw [hdatabase, hfeed, override]
  cases hrate : env.number rateVariable maxNat32 settings.feed.requestsPerSecond with
  | error e =>
    rw [rateVariable] at hrate
    exact .inl ⟨e, rfl, by rw [hrate]; rfl⟩
  | ok rate =>
    rw [rateVariable] at hrate
    refine .inr ⟨rate, rfl, ?_⟩
    cases htimeout : env.number timeoutVariable maxNat64 settings.feed.timeoutSeconds with
    | error e =>
      rw [timeoutVariable] at htimeout
      exact .inl ⟨e, rfl, by rw [hrate, htimeout]; rfl⟩
    | ok timeout =>
      rw [timeoutVariable] at htimeout
      exact .inr ⟨timeout, rfl, by rw [hrate, htimeout]; rfl⟩

/-- Settings are accepted when both numbers are. -/
theorem override_eq_ok_iff : settings.override env = .ok result ↔ Follows env settings result := by
  constructor
  · intro h
    obtain ⟨e, -, he⟩ | ⟨rate, hrate, ⟨e, -, he⟩ | ⟨timeout, htimeout, hok⟩⟩ :=
      override_cases env settings
    · exact absurd (h.symm.trans he) nofun
    · exact absurd (h.symm.trans he) nofun
    · obtain rfl := Except.ok.inj (h.symm.trans hok)
      exact ⟨Environment.number_eq_ok_iff.1 hrate, Environment.number_eq_ok_iff.1 htimeout,
        Environment.getD_findSome?_eq_iff.1 rfl, Environment.getD_findSome?_eq_iff.1 rfl, rfl⟩
  · intro h
    have hrate := Environment.number_eq_ok_iff.2 h.rate
    have htimeout := Environment.number_eq_ok_iff.2 h.timeout
    obtain ⟨e, he, -⟩ | ⟨rate, hrate', ⟨e, he, -⟩ | ⟨timeout, htimeout', hok⟩⟩ :=
      override_cases env settings
    · exact absurd (hrate.symm.trans he) nofun
    · exact absurd (htimeout.symm.trans he) nofun
    · obtain rfl := Except.ok.inj (hrate.symm.trans hrate')
      obtain rfl := Except.ok.inj (htimeout.symm.trans htimeout')
      rw [hok, Environment.getD_findSome?_eq_iff.2 h.database,
        Environment.getD_findSome?_eq_iff.2 h.feed, ← h.others]

/-- Settings are refused for the first number that is none. -/
theorem override_eq_error_iff :
    settings.override env = .error error ↔
      (∃ value, env.Spoils rateVariable maxNat32 value ∧ error = .badNumber rateVariable value) ∨
      (∀ value, ¬env.Spoils rateVariable maxNat32 value) ∧ ∃ value,
        env.Spoils timeoutVariable maxNat64 value ∧ error = .badNumber timeoutVariable value := by
  have hrate :
      env.number rateVariable maxNat32 settings.feed.requestsPerSecond = .error error ↔ _ :=
    Environment.number_eq_error_iff
  have htimeout : env.number timeoutVariable maxNat64 settings.feed.timeoutSeconds =
      .error error ↔ _ := Environment.number_eq_error_iff
  have hgood : (∃ n, env.number rateVariable maxNat32 settings.feed.requestsPerSecond = .ok n) ↔
      _ := Environment.exists_number_eq_ok_iff
  rw [← hrate, ← htimeout, ← hgood]
  obtain ⟨e, he, hresult⟩ | ⟨rate, hok, ⟨e, he, hresult⟩ | ⟨timeout, hok', hresult⟩⟩ :=
    override_cases env settings
  · simp [he, hresult]
  · simp [hok, he, hresult]
  · simp [hok, hok', hresult]

/-- What an environment gave it gives again. -/
theorem Follows.again (h : Follows env settings result) : Follows env result result :=
  ⟨h.rate.again, h.timeout.again, h.database.again, h.feed.again, rfl⟩

/-- Only the variables that are looked at matter. -/
theorem override_congr (h : ∀ name ∈ allVariables, env' name = env name) (settings : Settings) :
    settings.override env' = settings.override env := by
  have hvalue : ∀ name ∈ allVariables, env'.value? name = env.value? name := fun name hname => by
    rw [Environment.value?, Environment.value?, h name hname]
  have hnumber : ∀ name ∈ allVariables, ∀ most current,
      env'.number name most current = env.number name most current := fun name hname _ _ => by
    rw [Environment.number, Environment.number, hvalue name hname]
  rw [override, override, hnumber _ (by decide), hnumber _ (by decide), hvalue _ (by decide),
    hvalue _ (by decide), hvalue _ (by decide)]

/-- **Variables win over the file.** An environment is refused for the number of requests when that
variable is set and says no number of 32 bits, and else for the seconds of a request when that
variable is set and says none of 64 bits. Otherwise the two numbers and the two addresses are those
of the variables that are set, for the database of the first one, and all else is left as it is. So
a second time changes nothing, and no other variable matters. -/
theorem variables_win_over_the_file (settings : Settings) (env : Environment) :
    (∀ error, settings.override env = .error error ↔
      (∃ value, env.Spoils "ESPN_REQUESTS_PER_SECOND" (2 ^ 32 - 1) value ∧
        error = .badNumber "ESPN_REQUESTS_PER_SECOND" value) ∨
      (∀ value, ¬env.Spoils "ESPN_REQUESTS_PER_SECOND" (2 ^ 32 - 1) value) ∧
        ∃ value, env.Spoils "ESPN_TIMEOUT_SECS" (2 ^ 64 - 1) value ∧
          error = .badNumber "ESPN_TIMEOUT_SECS" value) ∧
    (∀ result, settings.override env = .ok result ↔ Follows env settings result) ∧
    (∀ result, settings.override env = .ok result → result.override env = .ok result) ∧
    ∀ env' : Environment, (∀ name ∈ allVariables, env' name = env name) →
      settings.override env' = settings.override env := by
  refine ⟨fun error => override_eq_error_iff, fun result => override_eq_ok_iff, ?_, ?_⟩
  · intro result h
    exact override_eq_ok_iff.2 (override_eq_ok_iff.1 h).again
  · intro env' h
    exact override_congr h settings

/-- A padded number with a sign, and a blank address before one that is not. -/
theorem padded_rate_and_second_address_win :
    let env : Environment := fun name => [("SQMGR_CONF_DSN", " "),
      ("DATABASE_URL", "postgres://env/db"), ("ESPN_REQUESTS_PER_SECOND", " +4 ")].lookup name
    let result : Settings :=
      { database := { url := "postgres://env/db" }, feed := { requestsPerSecond := 4 } }
    ({} : Settings).override env = .ok result ∧ result.override env = .ok result ∧
      ({} : Settings).override (fun name => if name = "HOME" then some "/root" else env name) =
        .ok result := by
  intro env result
  obtain ⟨-, -, twice, others⟩ := variables_win_over_the_file {} env
  have h : ({} : Settings).override env = .ok result := by decide +kernel
  refine ⟨h, twice result h, (others _ ?_).trans h⟩
  decide +kernel

end Settings

end SquarePool
