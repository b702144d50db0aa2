import Durak.Codec.Log
import Durak.Session
import Std.Time.DateTime

/-!
# The program

Deals a game to the players named by the environment, reads commands from standard input, one a
line, and writes the answers to standard output.  What is said to people and the log go to standard
error.  Everything is decided by `Durak.Session`; here are only the clock, chance and the streams.
-/

set_option autoImplicit false

namespace Durak

-- powers of natural numbers are those of the core library
attribute [local instance (high)] instPowNat

namespace Program

/-- The variable that holds the log filter. -/
def logVariable : String := "RUST_LOG"

/-- The clock. -/
def now : IO Instant := do
  let timestamp ← Std.Time.Timestamp.now
  return ⟨timestamp.toNanosecondsSinceUnixEpoch.val, Offset.zero⟩

/-- A number made of bytes, the first one counting most. -/
def numberOf (bytes : ByteArray) : Nat :=
  bytes.toList.foldl (fun number byte => number * 256 + byte.toNat) 0

/-- So many hexadecimal digits of a number, the last ones. -/
def hexText (width number : Nat) : String :=
  String.ofList <| (List.range width).reverse.map fun place =>
    Json.hexCharacter (number / 16 ^ place % 16)

/-- A random identifier of version 4, from a number of 128 bits. -/
def identifierOf (number : Nat) : String :=
  "-".intercalate [
    hexText 8 (number / 2 ^ (96 : Nat)),
    hexText 4 (number / 2 ^ (80 : Nat)),
    "4" ++ hexText 3 (number / 2 ^ (64 : Nat)),
    hexText 4 (number / 2 ^ (48 : Nat) % 2 ^ (14 : Nat) + 2 ^ (15 : Nat)),
    hexText 12 number]

/-- A text of a variable as bytes. -/
def environmentBytes (name : String) : IO (Option (List UInt8)) := do
  return (← IO.getEnv name).map encodeText

/-- The log filter in force. -/
def logFilter : IO LogFilter := do
  return ((← IO.getEnv logVariable).bind LogFilter.ofText?).getD LogFilter.standard

/-- Writes the records of a log that a filter shows. -/
def writeLog (filter : LogFilter) (log : Log) : IO Unit := do
  let instant ← now
  let stamp := Json.orNull (instant.toJson?)
  for record in log.filter filter.shows do
    IO.eprintln (Json.object (("timestamp", stamp) ::
      [("level", .string record.level.name), ("fields", .object record.members)])).text

/-- Reads the next line, of which some bytes have been read before: the line and the bytes after
it, or nothing at the end of the input. -/
partial def nextLine (input : IO.FS.Stream) (before : ByteArray) :
    IO (Option (List UInt8 × ByteArray)) := do
  match before.toList.findIdx? (· == 10) with
  | some place =>
    return some ((before.extract 0 place).toList, before.extract (place + 1) before.size)
  | none =>
    let more ← input.read 4096
    if more.isEmpty then
      return if before.isEmpty then none else some (before.toList, ByteArray.empty)
    else nextLine input (before ++ more)

/-- Answers lines until the input ends, or a line is no text.  The result is the exit code. -/
partial def answerLines (filter : LogFilter) (input output : IO.FS.Stream) (before : ByteArray)
    (session : Session) : IO UInt32 := do
  match ← nextLine input before with
  | none =>
    writeLog filter [session.closedRecord]
    return 0
  | some (line, rest) =>
    match session.read line (← now) with
    | .error complaint =>
      IO.eprintln complaint
      return 1
    | .ok reply =>
      writeLog filter reply.log
      for answer in reply.lines do
        output.putStr (answer.text ++ "\n")
      output.flush
      answerLines filter input output rest reply.session

/-- Runs the program. -/
def run : IO UInt32 := do
  let filter ← logFilter
  let timeout ← environmentBytes Config.timeoutVariable
  let players ← environmentBytes Config.playersVariable
  let id := identifierOf (numberOf (← IO.getRandomBytes 16))
  let seed := UInt64.ofNat (numberOf (← IO.getRandomBytes 8))
  match Session.start timeout players id seed with
  | .error banner =>
    IO.eprintln banner
    return 1
  | .ok (session, banner, log) =>
    writeLog filter log
    IO.eprintln banner
    answerLines filter (← IO.getStdin) (← IO.getStdout) ByteArray.empty session

end Program

end Durak

/-- Runs the program and ends with its exit code. -/
def main : IO UInt32 := Durak.Program.run
