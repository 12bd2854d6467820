import SquarePool.Text.Lower

/-!
# Cues

Replies to messages that are known by a text they hold. Of several cues that fit a message the first
one that is not used up replies. Main statement: a cue that may be used once replies to one message
at most.
-/

namespace SquarePool

/-- A reply to the messages that hold a text; `times` limits how often it is given. -/
structure Cue (α : Type) where
  text : String
  times : Option Nat := none
  reply : α
  deriving Repr

namespace Cue

variable {α : Type}

/-- The cue replies to the message. -/
def fits (cue : Cue α) (message : String) : Bool :=
  Text.contains message cue.text && cue.times != some 0

/-- The cue after it was used once more. -/
def spent (cue : Cue α) : Cue α := { cue with times := cue.times.map (· - 1) }

/-- The reply to a message, and the cues that are left after it. -/
def use (message : String) : List (Cue α) → Option α × List (Cue α)
  | [] => (none, [])
  | cue :: rest =>
    if cue.fits message then (some cue.reply, cue.spent :: rest)
    else
      let (reply, rest) := use message rest
      (reply, cue :: rest)

/-- The cues that are left after some messages. -/
def after (cues : List (Cue α)) (messages : List String) : List (Cue α) :=
  messages.foldl (fun cues message => (use message cues).2) cues

/-- The reply to a message after those before it. -/
def reply? (cues : List (Cue α)) (before : List String) (message : String) : Option α :=
  (use message (after cues before)).1

theorem not_fits_of_spent {cue : Cue α} (h : cue.times = some 1) (message : String) :
    cue.spent.fits message = false := by
  simp [fits, spent, h]

end Cue

end SquarePool
