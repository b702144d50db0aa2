import Durak.Codec.Fault

/-!
# Records

A record is an object whose members are known by name, or an array of the same values in the order
in which the record lists its fields.  Members are judged in the order of the text, and the first
one that is wrong is reported: a repeated name, an unknown name where those are refused, or a value
that does not decode.  Fields that are missing come after that, in the order of the record.

`Record.decode` treats both spellings alike: the elements of an array are members that take their
names from the record.
-/

set_option autoImplicit false

namespace Durak

/-- Where a document comes from.  It decides how elements beyond the last field of a record, and
values that are no variant, are reported. -/
inductive Origin where
  /-- The text itself, as it is read. -/
  | text
  /-- An event, which is collected before its kind is known. -/
  | event
  /-- A document whose names have been sorted. -/
  | sorted
  deriving DecidableEq

/-- A field of a record: its name, how its value is decoded, and what stands in for it when it is
missing from an object or from an array. -/
structure Field (α : Type) where
  name : String
  decode : Document → Decoded α
  absent : Option α
  absentElement : Option α

namespace Field

/-- A field that has to be there. -/
def required {α : Type} (name : String) (decode : Document → Decoded α) : Field α :=
  ⟨name, decode, none, none⟩

/-- A field with a default. -/
def withDefault {α : Type} (name : String) (decode : Document → Decoded α) (default : α) :
    Field α :=
  ⟨name, decode, some default, some default⟩

/-- A field that an object may leave out. -/
def optional {α : Type} (name : String) (decode : Document → Decoded (Option α)) :
    Field (Option α) :=
  ⟨name, decode, some none, none⟩

/-- The fault in a value of this field, if there is one. -/
def fault? {α : Type} (field : Field α) (document : Document) : Option Fault :=
  match field.decode document with
  | .ok _ => none
  | .error fault => some fault

/-- The name of this field and the check it makes of a value. -/
def check {α : Type} (field : Field α) : String × (Document → Option Fault) :=
  (field.name, field.fault?)

end Field

/-- A record: what it is called in messages, its fields with the check each makes of a value, and
whether other names are refused. -/
structure Record where
  title : String
  checks : List (String × (Document → Option Fault))
  refusesUnknown : Bool

/-- The members of a record that is being decoded, and whether they were given as an array. -/
structure Members where
  title : String
  names : List String
  values : List (String × Document)
  positional : Bool

namespace Members

/-- The description of a record with a number of elements. -/
def lengthWanted (members : Members) : String :=
  let count := members.names.length
  members.title ++ " with " ++ decimal count ++ (if count = 1 then " element" else " elements")

/-- The value of a field. -/
def get {α : Type} (members : Members) (field : Field α) : Decoded α :=
  match members.values.lookup field.name with
  | some document => field.decode document
  | none =>
    let default := if members.positional then field.absentElement else field.absent
    match default with
    | some value => .ok value
    | none =>
      if members.positional then
        .error (.wrongLength (members.names.idxOf field.name) members.lengthWanted)
      else .error (.missingField field.name)

end Members

namespace Record

/-- The names of the fields. -/
def names (record : Record) : List String := record.checks.map (·.1)

/-- The first fault among members, in their order; `seen` are the names met before. -/
def firstFault? (record : Record) :
    List String → List (Option String × Document) → Option Fault
  | _, [] => none
  | _, (none, _) :: _ => some .unreadable
  | seen, (some name, value) :: rest =>
    match record.checks.lookup name with
    | none =>
      if record.refusesUnknown then some (.unknownField name record.names)
      else record.firstFault? seen rest
    | some check =>
      if name ∈ seen then some (.duplicateField name)
      else (check value).or (record.firstFault? (name :: seen) rest)

/-- Decodes the members of a record, once none of them is at fault. -/
def decodeMembers {α : Type} (record : Record) (build : Members → Decoded α)
    (members : List (Option String × Document)) (positional : Bool) : Decoded α :=
  match record.firstFault? [] members with
  | some fault => .error fault
  | none =>
    build ⟨record.title, record.names, Document.namedMembers members, positional⟩

/-- The fault of having more elements than fields. -/
def surplusFault (record : Record) (origin : Origin) (length : Nat) : Fault :=
  match origin with
  | .text => .surplusElements
  | .sorted => .wrongLength length "fewer elements in array"
  | .event =>
    let count := record.names.length
    .wrongLength length (decimal count ++ (if count = 1 then " element" else " elements") ++
      " in sequence")

/-- Decodes the elements of a record given as an array. -/
def decodeElements {α : Type} (record : Record) (origin : Origin) (build : Members → Decoded α)
    (items : List Document) : Decoded α := do
  let value ← record.decodeMembers build ((record.names.map some).zip items) true
  if record.names.length < items.length then
    .error (record.surplusFault origin items.length)
  else .ok value

/-- Decodes a record. -/
def decode {α : Type} (record : Record) (origin : Origin) (build : Members → Decoded α)
    (document : Document) : Decoded α :=
  match document with
  | .object members => record.decodeMembers build members false
  | .array items => record.decodeElements origin build items
  | other => .error (.wanted record.title other)

end Record

end Durak
