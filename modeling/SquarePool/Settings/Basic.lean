import SquarePool.Invalid
import SquarePool.Toml.Reader

/-!
# Settings

What a sync run can be told by a file: where the database is, how the feed is asked, and how the
run is logged. Every section and every entry has a default. A section is a table, whose unknown
entries are skipped, or a list of its entries in their usual order, where more than the section has
are skipped too. A moment is a table with parts of its own, all of them unknown to a section.
-/

namespace SquarePool

/-- Where the database is and how much of it may be used. -/
structure DatabaseSettings where
  url : String := "postgres://postgres@localhost:5432/postgres?sslmode=disable"
  maxConnections : Nat := 30
  deriving DecidableEq, Repr

/-- The address of the feed that is used unless another is given. -/
def defaultFeedUrl : String := "https://site.api.espn.com/apis/site/v2/sports"

/-- The version of the program. -/
def programVersion : String := "0.1.0"

/-- What the program calls itself when it asks the feed. -/
def defaultUserAgent : String := "sqmgr-sports/" ++ programVersion

/-- How the feed is asked. -/
structure FeedSettings where
  baseUrl : String := defaultFeedUrl
  requestsPerSecond : Nat := 10
  timeoutSeconds : Nat := 30
  maxRetries : Nat := 3
  retryBaseMillis : Nat := 1000
  userAgent : Option String := none
  deriving DecidableEq, Repr

/-- Everything that a file can set. -/
structure Settings where
  database : DatabaseSettings := {}
  feed : FeedSettings := {}
  /-- The log is written as documents rather than lines. -/
  logJson : Bool := false
  deriving DecidableEq, Repr

/-- The settings of a client of the feed, nothing left open. -/
structure ClientSettings where
  baseUrl : String
  timeoutMillis : Nat
  requestsPerSecond : Nat
  maxRetries : Nat
  retryBaseMillis : Nat
  userAgent : String
  deriving DecidableEq, Repr

/-- The settings of a client. -/
def FeedSettings.client (feed : FeedSettings) : ClientSettings where
  baseUrl := feed.baseUrl
  timeoutMillis := feed.timeoutSeconds * 1000
  requestsPerSecond := feed.requestsPerSecond
  maxRetries := feed.maxRetries
  retryBaseMillis := feed.retryBaseMillis
  userAgent := feed.userAgent.getD defaultUserAgent

namespace Settings

/-- The greatest number of 32 bits. -/
def maxNat32 : Nat := 4294967295

/-- The greatest number of 64 bits. -/
def maxNat64 : Nat := 18446744073709551615

/-- Reads a text. -/
def text? : Toml → Option String
  | .string s => some s
  | _ => none

/-- Reads a truth value. -/
def bool? : Toml → Option Bool
  | .boolean b => some b
  | _ => none

/-- Reads a natural number up to `most`. -/
def nat? (most : Nat) : Toml → Option Nat
  | .integer i => if 0 ≤ i ∧ i ≤ most then some i.toNat else none
  | _ => none

/-- The entries of a section, by name. -/
def entries? (names : List String) : Toml → Option Toml.Members
  | .table _ members => some members
  | .array items => some (names.zip items)
  | .tables items => some (names.zip (items.reverse.map (Toml.table .header)))
  | .moment => some []
  | .string _ | .integer _ | .float | .boolean _ => none

/-- Reads an entry, which has a default. -/
def entry {α : Type} (members : Toml.Members) (name : String) (read : Toml → Option α)
    (default : α) : Option α :=
  match members.lookup name with
  | none => some default
  | some value => read value

/-- Reads the section on the database. -/
def database? (value : Toml) : Option DatabaseSettings := do
  let standard : DatabaseSettings := {}
  let s ← entries? ["url", "max_connections"] value
  some {
    url := ← entry s "url" text? standard.url
    maxConnections := ← entry s "max_connections" (nat? maxNat32) standard.maxConnections }

/-- Reads the section on the feed. -/
def feed? (value : Toml) : Option FeedSettings := do
  let standard : FeedSettings := {}
  let s ← entries? ["base_url", "requests_per_second", "timeout_secs", "max_retries",
    "retry_base_ms", "user_agent"] value
  some {
    baseUrl := ← entry s "base_url" text? standard.baseUrl
    requestsPerSecond := ←
      entry s "requests_per_second" (nat? maxNat32) standard.requestsPerSecond
    timeoutSeconds := ← entry s "timeout_secs" (nat? maxNat64) standard.timeoutSeconds
    maxRetries := ← entry s "max_retries" (nat? maxNat64) standard.maxRetries
    retryBaseMillis := ← entry s "retry_base_ms" (nat? maxNat64) standard.retryBaseMillis
    userAgent := ← entry s "user_agent" (fun v => (text? v).map some) none }

/-- Reads the section on logging, of which only the form of the log is kept. -/
def logJson? (value : Toml) : Option Bool := do
  let s ← entries? ["json"] value
  entry s "json" bool? false

/-- Settings from the sections of a document. -/
def ofMembers? (members : Toml.Members) : Option Settings := do
  some {
    database := ← entry members "database" database? {}
    feed := ← entry members "espn" feed? {}
    logJson := ← entry members "logging" logJson? false }

/-- Reads settings from the text of a file. -/
def ofText? (source : String) : Option Settings := (Toml.parse? source).bind ofMembers?

end Settings

end SquarePool
