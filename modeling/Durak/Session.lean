import Durak.Config
import Durak.Service

/-!
# A session at one table

The program deals one game and then reads commands, one a line.  Each line is answered with a line
for every pack, or with one line that tells the failure; blank lines are passed over.  A line that
is no Unicode text ends the program.
-/

set_option autoImplicit false

namespace Durak

/-- A failure as it is written. -/
def Failure.toJson (failure : Failure) : Json :=
  .object [("code", .string failure.code.name), ("detail", .string failure.detail)]

/-- A service, and the game that was dealt at the start. -/
structure Session where
  service : Service
  gameId : String

/-- What a line was answered with: the session after it, the lines of the answer, and the records
of what happened. -/
structure Reply where
  session : Session
  lines : List Json
  log : Log

namespace Session

/-! ## Starting -/

/-- What is said when the configuration does not allow a start. -/
def misconfigured (failure : Failure) : String := "❌ " ++ failure.message

/-- What is said when no game can be dealt. -/
def notDealt (failure : Failure) : String := "❌ Failed to create game: " ++ failure.message

/-- What is said when the game is ready. -/
def ready (game : Game) : String :=
  "🃏 Game " ++ game.id ++ " ready for " ++ decimal game.players.length ++ " players"

/-- Deals the game of a session: the session, what is said about it, and the records of what
happened; or what is said instead. -/
def start (timeout players : Option (List UInt8)) (id : String) (seed : UInt64) :
    Except String (Session × String × Log) :=
  match Config.ofVariables timeout players with
  | .error failure => .error (misconfigured failure)
  | .ok config =>
    match (Service.ofSettings config.settings).create id seed config.entrants with
    | .error failure => .error (notDealt failure)
    | .ok (service, game, log) => .ok (⟨service, game.id⟩, ready game, log)

/-! ## Answering -/

/-- The line that holds a pack. -/
def packLine (recipient : String) (pack : Json) : Json :=
  .object [("pack", pack.sorted), ("recipient", .string recipient)]

/-- The line that tells a failure. -/
def failureLine (failure : Failure) : Json := .object [("error", failure.toJson)]

/-- The record of a command that was not carried out. -/
def droppedRecord (failure : Failure) : LogRecord :=
  ⟨.warn, .program, "Command dropped",
    [("code", .text failure.code.name), ("error", .text failure.message)]⟩

/-- The record of a session that has come to its end. -/
def closedRecord (session : Session) : LogRecord :=
  ⟨.info, .program, "Input closed, shutting down", [("game_id", .text session.gameId)]⟩

/-- Answers a command. -/
def answer (session : Session) (command : String) (now : Instant) : Reply :=
  let served := session.service.handle (encodeText command) now
  let session := { session with service := served.service }
  match served.answer with
  | .ok packs => ⟨session, packs.map fun pack => packLine pack.1 pack.2, served.log⟩
  | .error failure =>
    ⟨session, [failureLine failure], served.log ++ [droppedRecord failure]⟩

/-- The lines of some input: what stands before the first line feed, and after each of them. -/
def linesOf (input : List UInt8) : List (List UInt8) :=
  let (first, later) := input.foldr (fun byte (line, lines) =>
    if byte = 10 then ([], line :: lines) else (byte :: line, lines)) ([], [])
  first :: later

/-- What is said when a line is no text. -/
def notText : String := "Error: stream did not contain valid UTF-8"

/-- Reads a line and answers it, unless it is no text. -/
def read (session : Session) (line : List UInt8) (now : Instant) : Except String Reply :=
  match decodeText? line with
  | none => .error notText
  | some text =>
    let command := trim text
    if command = "" then .ok ⟨session, [], []⟩ else .ok (session.answer command now)

end Session

end Durak
