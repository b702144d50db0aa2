import Durak.Number.Numeral

/-!
# Log records

What the engine does is told as it happens in records: how serious they are, which part of the
engine speaks, a message, and named values.  Records are data, produced beside the results; who
writes them decides with a `LogFilter` which ones are shown.

A filter is a list of rules.  The rule with the longest target that the speaking part starts with
decides; a rule without a target applies to every part.
-/

set_option autoImplicit false

namespace Durak

/-- How serious a record is, or how much a filter shows. -/
inductive LogLevel where
  | error
  | warn
  | info
  | debug
  deriving DecidableEq, Repr

namespace LogLevel

/-- The level's name in a record. -/
def name : LogLevel → String
  | error => "ERROR"
  | warn => "WARN"
  | info => "INFO"
  | debug => "DEBUG"

/-- More verbose levels have higher numbers. -/
def verbosity : LogLevel → Nat
  | error => 1
  | warn => 2
  | info => 3
  | debug => 4

end LogLevel

/-- A part of the engine that writes records. -/
inductive LogSource where
  | program
  | service
  | store
  | transaction
  | rules
  | round
  deriving DecidableEq, Repr

/-- The target that filters know a part by. -/
def LogSource.target : LogSource → String
  | program => "game_engine"
  | service => "game_engine::services::games"
  | store => "game_engine::adapters::games_memory"
  | transaction => "game_engine::engine"
  | rules => "game_engine::domain::handlers"
  | round => "game_engine::domain::round"

/-- A named value in a record. -/
inductive LogValue where
  | text (value : String)
  | count (value : Nat)
  | flag (value : Bool)
  deriving DecidableEq

/-- A log record. -/
structure LogRecord where
  level : LogLevel
  source : LogSource
  message : String
  fields : List (String × LogValue)
  deriving DecidableEq

/-- The records of something that happened, in order. -/
abbrev Log := List LogRecord

/-! ## Filters -/

/-- A rule of a filter: the parts it applies to and how verbose they may be. -/
structure LogRule where
  target : String
  verbosity : Nat
  deriving DecidableEq, Repr

/-- A filter shows the records its rules allow. -/
abbrev LogFilter := List LogRule

namespace LogFilter

/-- The verbosity a level word allows, in any mixture of cases. -/
def verbosity? (word : String) : Option Nat :=
  let word := word.toLower
  if word = "off" ∨ word = "0" then some 0
  else if word = "error" ∨ word = "1" then some 1
  else if word = "warn" ∨ word = "2" then some 2
  else if word = "info" ∨ word = "3" then some 3
  else if word = "debug" ∨ word = "4" then some 4
  else if word = "trace" ∨ word = "5" then some 5
  else none

/-- Reads one rule: a level, a target, or both with an equals sign between them. -/
def rule? (text : String) : Option LogRule :=
  match text.splitOn "=" with
  | [word] =>
    match verbosity? word with
    | some verbosity => some ⟨"", verbosity⟩
    | none => some ⟨word, 5⟩
  | [target, word] => (verbosity? word).map fun verbosity => ⟨target, verbosity⟩
  | _ => none

/-- The filter in force when none is given: everything up to `INFO`. -/
def standard : LogFilter := [⟨"", 3⟩]

/-- Reads rules with commas between them.  A text that names none shows errors only, and one with a
rule that cannot be read is no filter. -/
def ofText? (text : String) : Option LogFilter := do
  let rules ← ((text.splitOn ",").filter (· ≠ "")).mapM rule?
  some (if rules.isEmpty then [⟨"", 1⟩] else rules)

/-- The rule that decides about a target: the last one among those with the longest match. -/
def deciding? (filter : LogFilter) (target : String) : Option LogRule :=
  (filter.filter fun rule => rule.target.toList.isPrefixOf target.toList).foldl (fun best rule =>
    match best with
    | none => some rule
    | some other => if other.target.length ≤ rule.target.length then some rule else some other) none

/-- Whether a filter shows a record. -/
def shows (filter : LogFilter) (record : LogRecord) : Bool :=
  match filter.deciding? record.source.target with
  | some rule => record.level.verbosity ≤ rule.verbosity
  | none => false

end LogFilter

end Durak
