import SquarePool.Text.Percent

/-!
# Requests and responses

What a client sends to a server and what comes back, and the part of an address that is sent: the
path and the query, with the characters escaped that an address cannot hold.
-/

namespace SquarePool.Http

/-- A request for a document. -/
structure Request where
  /-- The address as it was built. -/
  url : String
  accept : String := "application/json"
  userAgent : String
  deriving DecidableEq, Repr

/-- A response with its status and its text. -/
structure Response where
  status : Nat
  body : String
  deriving DecidableEq, Repr

/-- The status stands for success. -/
def Response.isSuccess (r : Response) : Bool := 200 ≤ r.status && r.status < 300

/-- The server asks to slow down. -/
def Response.isTooMany (r : Response) : Bool := r.status == 429

/-- A text can be sent as the value of a header: it holds no control characters but tabs. -/
def isHeaderValue (s : String) : Bool :=
  s.toList.all fun c => c == '\t' || (32 ≤ c.toNat && c.toNat != 127)

/-- A byte that a path keeps as it is. -/
def isPathByte (b : UInt8) : Bool :=
  0x20 < b && b < 0x7F && !"\"#<>?`\x7b\x7d".toList.contains (Char.ofNat b.toNat)

/-- A byte that a query keeps as it is. -/
def isQueryByte (b : UInt8) : Bool :=
  0x20 < b && b < 0x7F && !"\"#<>'".toList.contains (Char.ofNat b.toNat)

/-- Splits a text at the first of a character; the character is dropped. -/
def cutAt (c : Char) (cs : List Char) : List Char × Option (List Char) :=
  match cs.span (· != c) with
  | (before, _ :: after) => (before, some after)
  | (before, []) => (before, none)

/-- Resolves the steps `.` and `..` of a path; `done` holds the segments before, nearest first. A
step at the end leaves an empty segment. -/
def resolveSteps (done : List (List Char)) : List (List Char) → List (List Char)
  | [] => done.reverse
  | segment :: rest =>
    if segment = ['.'] then
      if rest.isEmpty then ([] :: done).reverse else resolveSteps done rest
    else if segment = ['.', '.'] then
      if rest.isEmpty then ([] :: done.drop 1).reverse else resolveSteps (done.drop 1) rest
    else
      resolveSteps (segment :: done) rest

/-- Splits a path at its slashes. -/
def segments : List Char → List (List Char)
  | [] => [[]]
  | c :: rest =>
    match segments rest with
    | [] => []
    | first :: others =>
      if c = '/' ∨ c = '\\' then [] :: first :: others else (c :: first) :: others

/-- Escapes the bytes of some characters. -/
def escapeChars (keep : UInt8 → Bool) (cs : List Char) : List Char :=
  Text.Percent.encodeBytes keep (Text.Percent.bytesOf (String.ofList cs))

/-- What is sent of an address after its host: the path, and the query if there is one. What
follows a number sign is not sent, and blanks within the address that end a line are dropped. -/
def targetOf (afterHost : String) : String :=
  let cs := afterHost.toList.filter fun c => c != '\n' && c != '\r' && c != '\t'
  let (cs, _) := cutAt '#' cs
  let (path, query) := cutAt '?' cs
  let parts := match segments path with
    | [] :: rest => rest
    | parts => parts
  let path := (resolveSteps [] parts).flatMap fun s => '/' :: escapeChars isPathByte s
  let query := match query with
    | some q => '?' :: escapeChars isQueryByte q
    | none => []
  String.ofList ((if path.isEmpty then ['/'] else path) ++ query)

/-- What follows the host in an address of the web. -/
def afterHost? (url : String) : Option String :=
  let after? := "http://".toList.isPrefixOf? url.toList <|>
    "https://".toList.isPrefixOf? url.toList
  after?.map fun cs =>
    String.ofList (cs.dropWhile fun c => c != '/' && c != '\\' && c != '?' && c != '#')

/-- What is sent of the address of a request, if that is one of the web. -/
def Request.target? (request : Request) : Option String :=
  (afterHost? request.url).map targetOf

end SquarePool.Http
