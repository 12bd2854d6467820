import SquarePool.Record

/-!
# Pools and grids

The rows that belong to the owner of a pool, as far as games reach into them: a grid shows the names
of the teams of its game, and its settings hold their colours. Names follow the game; a colour is
filled in once and then left alone.
-/

namespace SquarePool

/-- A pool: the layout and the payout that its grids share. -/
structure Pool where
  id : Int
  token : String := ""
  board : Board := .std100
  payout : Payout := .standard
  deriving DecidableEq, Repr

/-- A grid of a pool. -/
structure Grid where
  id : Int
  poolId : Int
  active : Bool := true
  homeTeamName : Option String := none
  awayTeamName : Option String := none
  homeNumbers : Option (List Int) := none
  awayNumbers : Option (List Int) := none
  /-- The number of the game that the grid is linked to. -/
  gameId : Option Int := none
  /-- The payout of this grid, where it is not that of the pool. -/
  payout : Option Payout := none
  deriving DecidableEq, Repr

/-- The colours of a grid, written with a number sign. -/
structure GridColours where
  gridId : Int
  home1 : Option String := none
  home2 : Option String := none
  away1 : Option String := none
  away2 : Option String := none
  deriving DecidableEq, Repr

/-- The grid is in use and linked to the game. -/
def Grid.follows (grid : Grid) (gameId : Int) : Bool :=
  grid.active && grid.gameId == some gameId

/-- The grid with the names of two teams. -/
def Grid.withNames (grid : Grid) (home away : TeamRow) : Grid :=
  { grid with homeTeamName := some home.fullName, awayTeamName := some away.fullName }

/-- A colour that is not set takes that of the team, with a number sign. -/
def fillColour (slot teamColour : Option String) : Option String :=
  slot.or (teamColour.map fun c => "#" ++ c)

/-- The colours with those that are not set taken from two teams. -/
def GridColours.fill (colours : GridColours) (home away : TeamRow) : GridColours :=
  { colours with
    home1 := fillColour colours.home1 home.color
    home2 := fillColour colours.home2 home.alternateColor
    away1 := fillColour colours.away1 away.color
    away2 := fillColour colours.away2 away.alternateColor }

theorem GridColours.fill_fill (colours : GridColours) (home away : TeamRow) :
    (colours.fill home away).fill home away = colours.fill home away := by
  simp [fill, fillColour, Option.or_assoc, Option.or_self]

theorem Grid.withNames_withNames (grid : Grid) (home away : TeamRow) :
    (grid.withNames home away).withNames home away = grid.withNames home away := rfl

end SquarePool
