import Durak.Codec.Game
import Durak.Failure
import Durak.Log

/-!
# The store

Games are kept as texts under their ids, so every load decodes a game anew and every save encodes
it.  A text that does not decode is reported as corrupt; a game that cannot be encoded is not
saved.
-/

set_option autoImplicit false

namespace Durak

/-- Stored games: their texts by id. -/
structure Store where
  texts : Keyed String
  deriving DecidableEq

namespace Store

/-- A store without games. -/
def empty : Store := ⟨[]⟩

/-- Number of stored games. -/
def size (store : Store) : Nat := store.texts.length

/-- The record of a stored game that does not decode. -/
def corruptRecord (id problem : String) : LogRecord :=
  ⟨.error, .store, "Stored game failed to decode",
    [("game_id", .text id), ("error", .text problem)]⟩

/-- Loads a game, if one is stored under the id. -/
def load? (store : Store) (id : String) : Except Failure (Option Game) :=
  match store.texts.lookup id with
  | none => .ok none
  | some text =>
    match Game.ofStoredText text with
    | .ok game => .ok (some game)
    | .error fault => .error (.corruptGame id fault.message)

/-- What loading a game leaves in the log. -/
def loadLog (store : Store) (id : String) : Log :=
  match (store.texts.lookup id).map Game.ofStoredText with
  | some (.error fault) => [corruptRecord id fault.message]
  | _ => []

/-- Loads a game that has to be there. -/
def load (store : Store) (id : String) : Except Failure Game :=
  match store.load? id with
  | .ok (some game) => .ok game
  | .ok none => .error (.unknownGame id)
  | .error failure => .error failure

/-- Saves a game under its id. -/
def save (store : Store) (game : Game) : Except Failure Store :=
  match game.storedText? with
  | some text => .ok ⟨insertKeyed game.id text store.texts⟩
  | none => .error (.unstorableGame game.id Instant.unwritable)

end Store

end Durak
