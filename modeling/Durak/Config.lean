import Durak.Deal
import Durak.Number.Reading
import Durak.Text.Blank
import Durak.Text.Quoted

/-!
# Configuration

Two variables configure the program: the turn timeout in seconds, and the ids of the players with
commas between them.  A variable that is not set leaves the default; one that is set has to be
text, and the timeout has to be a number that is allowed.  The timeout is judged first.
-/

set_option autoImplicit false

namespace Durak

/-- What the program is told before it starts. -/
structure Config where
  turnTimeoutSeconds : Double
  players : List String
  deriving DecidableEq

namespace Config

/-- The variable that holds the turn timeout. -/
def timeoutVariable : String := "GAME_TURN_TIMEOUT_SECS"

/-- The variable that holds the players. -/
def playersVariable : String := "GAME_PLAYERS"

/-- What applies if nothing is said: half a minute, and no players. -/
def standard : Config := ⟨Double.ofInt 30, []⟩

/-- The settings of games. -/
def settings (config : Config) : Settings := ⟨config.turnTimeoutSeconds⟩

/-- The players to deal a game to. -/
def entrants (config : Config) : List Entrant := config.players.map (⟨·, ""⟩)

/-- The text of a variable, which has to be Unicode. -/
def variableText (bytes : List UInt8) : Except Failure String :=
  match decodeText? bytes with
  | some text => .ok text
  | none =>
    .error <| .configuration <|
      "env var error: environment variable was not valid unicode: " ++ quotedBytes bytes

/-- Reads a turn timeout. -/
def readTimeout (text : String) : Except Failure Double :=
  match Double.ofText? (trim text) with
  | none =>
    .error <| .configuration <|
      timeoutVariable ++ " must be a number of seconds, got '" ++ text ++ "'"
  | some timeout =>
    if timeout.isWithin longestTimeout then .ok timeout
    else .error <| .configuration <| timeoutVariable ++ " " ++ timeoutComplaint timeout

/-- Reads a list of players, leaving out what is blank. -/
def readPlayers (text : String) : List String :=
  ((text.splitOn ",").map trim).filter (· ≠ "")

/-- The configuration given by the two variables, as far as they are set. -/
def ofVariables (timeout players : Option (List UInt8)) : Except Failure Config := do
  let turnTimeoutSeconds ←
    match timeout with
    | some bytes => readTimeout (← variableText bytes)
    | none => .ok standard.turnTimeoutSeconds
  let players ←
    match players with
    | some bytes => do .ok (readPlayers (← variableText bytes))
    | none => .ok standard.players
  .ok { turnTimeoutSeconds, players }

end Config

end Durak
