/-!
# Failures

A rule violation is an ordinary outcome; a failure is everything else that can go wrong: a command
nobody can read, a game nobody knows, a setting out of range, a stored game that does not decode.
`Failure` is what the engine answers with, a code and a detail in one of five categories.
`DomainFault` is what the rules themselves complain about before anybody asked for a command, and
`DomainFault.toFailure` says which failure it becomes.
-/

set_option autoImplicit false

namespace Durak

/-! ## Codes -/

/-- The code of a failure. -/
inductive FailureCode where
  | badRequest
  | invalidGameId
  | parseCard
  | invalidSetup
  | gameNotFound
  | playerNotFound
  | storeError
  | dataCorruption
  | internal
  | configError
  deriving DecidableEq, Repr

namespace FailureCode

/-- Every code. -/
def all : List FailureCode :=
  [badRequest, invalidGameId, parseCard, invalidSetup, gameNotFound, playerNotFound, storeError,
    dataCorruption, internal, configError]

/-- The code's name. -/
def name : FailureCode → String
  | badRequest => "BAD_REQUEST"
  | invalidGameId => "INVALID_GAME_ID"
  | parseCard => "PARSE_CARD"
  | invalidSetup => "INVALID_SETUP"
  | gameNotFound => "GAME_NOT_FOUND"
  | playerNotFound => "PLAYER_NOT_FOUND"
  | storeError => "STORE_ERROR"
  | dataCorruption => "DATA_CORRUPTION"
  | internal => "INTERNAL"
  | configError => "CONFIG_ERROR"

theorem mem_all (code : FailureCode) : code ∈ all := by cases code <;> decide

end FailureCode

/-! ## Failures -/

/-- Why there is no ordinary answer. -/
inductive Failure where
  | badRequest (code : FailureCode) (detail : String)
  | notFound (code : FailureCode) (detail : String)
  | configuration (detail : String)
  | store (code : FailureCode) (detail : String)
  | internal (detail : String)
  deriving DecidableEq, Repr

namespace Failure

/-- The code of a failure. -/
def code : Failure → FailureCode
  | badRequest code _ => code
  | notFound code _ => code
  | configuration _ => .configError
  | store code _ => code
  | internal _ => .internal

/-- The detail of a failure. -/
def detail : Failure → String
  | badRequest _ detail => detail
  | notFound _ detail => detail
  | configuration detail => detail
  | store _ detail => detail
  | internal detail => detail

/-- The failure as a message: its category and its detail. -/
def message : Failure → String
  | badRequest _ detail => "Bad request: " ++ detail
  | notFound _ detail => "Not found: " ++ detail
  | configuration detail => "Configuration error: " ++ detail
  | store _ detail => "Store error: " ++ detail
  | internal detail => "Internal error: " ++ detail

/-- A command that could not be read. -/
def malformedCommand (problem : String) : Failure :=
  badRequest .badRequest ("malformed command: " ++ problem)

/-- A command for one game that was sent to another. -/
def wrongGame (commandGame game : String) : Failure :=
  badRequest .invalidGameId ("command for game " ++ commandGame ++ " sent to game " ++ game)

/-- A command of somebody who is not at the table. -/
def notSeated (user game : String) : Failure :=
  notFound .playerNotFound ("user " ++ user ++ " is not seated in game " ++ game)

/-- A game that nobody has stored. -/
def unknownGame (game : String) : Failure :=
  notFound .gameNotFound ("game " ++ game ++ " not found")

/-- A stored game that does not decode. -/
def corruptGame (game problem : String) : Failure :=
  store .dataCorruption ("game " ++ game ++ ": " ++ problem)

/-- A game that cannot be written for the store. -/
def unstorableGame (game problem : String) : Failure :=
  store .storeError ("encode game " ++ game ++ ": " ++ problem)

/-- A pack that cannot be written. -/
def unwritablePack (problem : String) : Failure :=
  internal ("encode pack: " ++ problem)

end Failure

/-! ## What the rules complain about -/

/-- What kind of value was not acceptable. -/
inductive InvalidKind where
  | parseCard
  | playerCount
  | duplicatePlayer
  | invalidSettings
  deriving DecidableEq, Repr

namespace InvalidKind

/-- Every kind. -/
def all : List InvalidKind := [parseCard, playerCount, duplicatePlayer, invalidSettings]

/-- The kind's name. -/
def name : InvalidKind → String
  | parseCard => "ParseCard"
  | playerCount => "PlayerCount"
  | duplicatePlayer => "DuplicatePlayer"
  | invalidSettings => "InvalidSettings"

end InvalidKind

/-- A value that is not acceptable, or a game in a state it cannot be in. -/
inductive DomainFault where
  | invalid (kind : InvalidKind) (detail : String)
  | invariant (detail : String)
  deriving DecidableEq, Repr

namespace DomainFault

/-- The name of a kind of complaint. -/
def kindName : DomainFault → String
  | invalid kind _ => kind.name
  | invariant _ => "Invariant"

/-- The complaint as a message. -/
def message : DomainFault → String
  | invalid kind detail => "validation error " ++ kind.name ++ ": " ++ detail
  | invariant detail => "invariant violated: " ++ detail

/-- The failure a complaint becomes when a command runs into it. -/
def toFailure : DomainFault → Failure
  | invalid .parseCard detail => .badRequest .parseCard detail
  | invalid _ detail => .badRequest .invalidSetup detail
  | invariant detail => .internal detail

/-- The complaint about a text that shows no card. -/
def notACard (token : String) : DomainFault := invalid .parseCard ("Parse card: " ++ token)

end DomainFault

end Durak
