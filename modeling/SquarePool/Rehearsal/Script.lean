import SquarePool.Rehearsal.World

/-!
# Scripts

A feed that answers from a script. Each question has a key; the script is searched for the whole
key, and then for its first two words. A question that the script does not answer gets an empty
list, or fails where there is no such answer.
-/

namespace SquarePool

/-- What the feed is asked about: the first word of a key. -/
def Question.topic : Question → String
  | .teams _ => "teams"
  | .scoreboard .. => "scoreboard"
  | .dateRange .. => "range"
  | .schedule .. => "schedule"
  | .summary .. => "summary"
  | .season _ => "season"

/-- The league that a question is about. -/
def Question.league : Question → League
  | .teams l | .scoreboard l _ | .dateRange l .. | .schedule l _ | .summary l _ | .season l => l

/-- The parts of a scoreboard query that are asked, as words of a key. -/
def ScoreboardQuery.words (query : ScoreboardQuery) : List String :=
  (query.date.map ("date=" ++ ·)).toList
    ++ (query.week.map fun n => "week=" ++ Text.showInt n).toList
    ++ (query.season.map fun n => "season=" ++ Text.showInt n).toList
    ++ (query.seasonType.map fun part => "type=" ++ Text.showInt part.code).toList

/-- The words of a key after the first two. -/
def Question.details : Question → List String
  | .teams _ | .season _ => []
  | .scoreboard _ query => query.words
  | .dateRange _ first last => [first.toText, last.toText]
  | .schedule _ id | .summary _ id => [id]

/-- The first two words of a key. -/
def Question.shortKey (q : Question) : String := q.topic ++ " " ++ key q.league

/-- The key of a question. -/
def Question.key (q : Question) : String := " ".intercalate (q.shortKey :: q.details)

/-- A value that the feed can give. -/
inductive Given where
  | teams (teams : List Team)
  | games (games : List Game)
  | game (game : Game)
  | season (season : SeasonWindow)
  deriving Repr

/-- What is answered where the script gives no value. -/
def Question.unscripted : (q : Question) → Except FeedError q.Answer
  | .teams _ => .ok ([] : List Team)
  | .scoreboard .. | .dateRange .. | .schedule .. => .ok ([] : List Game)
  | .summary league id => .error (.gameNotFound league id)
  | .season _ => .error (.missing .leagueInfo)

/-- A value as the answer to a question, if it is of the right kind. -/
def Given.answer? : (q : Question) → Given → Option q.Answer
  | .teams _, .teams ts => some ts
  | .scoreboard .., .games gs => some gs
  | .dateRange .., .games gs => some gs
  | .schedule .., .games gs => some gs
  | .summary .., .game g => some g
  | .season _, .season s => some s
  | _, _ => none

/-- A script: replies by key. -/
abbrev Script : Type := List (String × Reply (Option Given))

/-- What the script says to a question. -/
def Script.line? (script : Script) (q : Question) : Option (Reply (Option Given)) :=
  (script.lookup q.key).or (script.lookup q.shortKey)

/-- The feed that follows a script. -/
def Script.feed (script : Script) : Feed := fun _ q =>
  match script.line? q with
  | none => { answer := q.unscripted }
  | some line =>
    let answer := match line.answer with
      | .error e => .error e
      | .ok given =>
        match given.bind (Given.answer? q) with
        | some answer => .ok answer
        | none => q.unscripted
    { stops := line.stops, failing := line.failing, mute := line.mute, now := line.now, answer }

end SquarePool
