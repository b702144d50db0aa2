import Durak.Calendar.Timestamp
import Durak.Card
import Durak.Codec.Record
import Durak.Json.Reader
import Durak.Json.Value

/-!
# Simple values

The decoders of texts, truth values, numbers, lists, timestamps and variants, out of which those of
the game's own types are made.
-/

set_option autoImplicit false

namespace Durak

-- powers of natural numbers are those of the core library
attribute [local instance (high)] instPowNat

namespace Document

/-- A text. -/
def asString (document : Document) : Decoded String :=
  match document with
  | .string (some content) => .ok content
  | other => .error (.wanted "a string" other)

/-- A truth value. -/
def asBool (document : Document) : Decoded Bool :=
  match document with
  | .boolean value => .ok value
  | other => .error (.wanted "a boolean" other)

/-- A natural number below a bound. -/
def asNat (bound : Nat) (description : String) (document : Document) : Decoded Nat :=
  match document with
  | .number numeral =>
    match numeral.number? with
    | some (.integer value) =>
      if 0 ≤ value ∧ value < bound then .ok value.toNat
      else .error (.outOfRange value description)
    | _ => .error (.wanted description document)
  | other => .error (.wanted description other)

/-- A number of eight bits. -/
def asByte (document : Document) : Decoded UInt8 := do
  .ok (UInt8.ofNat (← document.asNat 256 "u8"))

/-- A count. -/
def asCount (document : Document) : Decoded Nat := document.asNat (2 ^ (64 : Nat)) "usize"

/-- A double. -/
def asDouble (document : Document) : Decoded Double :=
  match document with
  | .number numeral =>
    match numeral.number? with
    | some (.integer value) => .ok (Double.ofInt value)
    | some (.real value) => .ok value
    | none => .error .unreadable
  | other => .error (.wanted "f64" other)

/-- A list. -/
def asList {α : Type} (decode : Document → Decoded α) (document : Document) : Decoded (List α) :=
  match document with
  | .array items => items.mapM decode
  | other => .error (.wanted "a sequence" other)

/-- A value, or nothing for `null`. -/
def asOption {α : Type} (decode : Document → Decoded α) (document : Document) :
    Decoded (Option α) :=
  match document with
  | .null => .ok none
  | other => do .ok (some (← decode other))

/-- An instant given by its timestamp. -/
def asInstant (document : Document) : Decoded Instant :=
  match document with
  | .string (some content) =>
    match Instant.ofTimestamp? content with
    | some instant => .ok instant
    | none => .error .invalidTimestamp
  | other => .error (.wanted "an RFC3339-formatted `OffsetDateTime`" other)

/-- The variant a name stands for. -/
def variantNamed {α : Type} (name : α → String) (all : List α) (text : String) : Decoded α :=
  match all.find? fun variant => name variant == text with
  | some variant => .ok variant
  | none => .error (.unknownVariant text (all.map name))

/-- The content that may follow the name of a variant without content. -/
def asNoContent (origin : Origin) (document : Document) : Decoded Unit :=
  match origin, document with
  | _, .null => .ok ()
  | .event, .object [] => .ok ()
  | _, other => .error (.wanted "unit" other)

/-- A variant without content: its name, or an object whose only member has that name. -/
def asVariant {α : Type} (name : α → String) (all : List α) (origin : Origin)
    (document : Document) : Decoded α :=
  match document with
  | .string (some text) => variantNamed name all text
  | .string none => .error .unreadable
  | .object ((some text, content) :: rest) =>
    if origin = .event ∧ rest ≠ [] then .error .notOneKey
    else do
      let variant ← variantNamed name all text
      content.asNoContent origin
      if rest = [] then .ok variant else .error .noVariant
  | .object ((none, _) :: _) => .error .unreadable
  | .object [] => if origin = .text then .error .noVariant else .error .notOneKey
  | other => if origin = .text then .error .noVariant else .error (.wanted "string or map" other)

/-- Decodes a document.  A text that is no valid JSON is reported as that, whatever else is wrong
with it; a valid part of it that is all a decoder asks for is enough to succeed. -/
def decodeWith {α : Type} (decode : Document → Decoded α) (document : Document) : Decoded α :=
  match decode document with
  | .ok value => .ok value
  | .error fault => .error (if document.isStrict then fault else .unreadable)

/-- Decodes a text given as bytes. -/
def decodeBytes {α : Type} (decode : Document → Decoded α) (bytes : List UInt8) : Decoded α :=
  match ofBytes? bytes with
  | some document => document.decodeWith decode
  | none => .error .unreadable

/-- Decodes a text. -/
def decodeText {α : Type} (decode : Document → Decoded α) (text : String) : Decoded α :=
  match ofText? text with
  | some document => document.decodeWith decode
  | none => .error .unreadable

end Document

/-- An instant to be written, unless it has no timestamp. -/
def Instant.toJson? (instant : Instant) : Option Json := instant.timestamp?.map .string

/-- An instant that may be missing. -/
def Json.instantOrNull? : Option Instant → Option Json
  | some instant => instant.toJson?
  | none => some .null

end Durak
