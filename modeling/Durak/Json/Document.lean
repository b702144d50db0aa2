import Durak.Keyed
import Durak.Number.Reading

/-!
# JSON documents

A document is a JSON text after reading and before it is given a meaning.  Members of an object
keep the order of the text and may repeat a name, numbers keep their digits, and a string whose
content is no Unicode text (a stray byte, half of a surrogate pair) is kept without content.  Such
damage and numbers out of range do not make a text unreadable: a part that nobody asks for is
skipped without being judged.

`Document.isStrict` is the stricter notion of a valid JSON text, in which every string has a
content, every number a value, and arrays and objects are nested at most 127 deep.
`Document.sorted` is the document as a mapping would hold it: the names of every object sorted, and
the last of repeated ones kept.
-/

set_option autoImplicit false

namespace Durak

/-- A JSON text after reading. -/
inductive Document where
  | null
  | boolean (value : Bool)
  | number (numeral : Numeral)
  | string (content : Option String)
  | array (items : List Document)
  | object (members : List (Option String × Document))
  deriving Inhabited

namespace Document

/-- How deep arrays and objects of a valid JSON text may be nested. -/
def deepestNesting : Nat := 127

/-- Whether a document is valid with at most so many levels of nesting. -/
def isStrictWithin : Nat → Document → Bool
  | _, null => true
  | _, boolean _ => true
  | _, number numeral => numeral.number?.isSome
  | _, string content => content.isSome
  | 0, array _ => false
  | 0, object _ => false
  | levels + 1, array items => items.all (isStrictWithin levels)
  | levels + 1, object members =>
    members.all fun member => member.1.isSome && isStrictWithin levels member.2

/-- Whether a document is a valid JSON text. -/
def isStrict (document : Document) : Bool := document.isStrictWithin deepestNesting

/-- The members that have a name, and their names. -/
def namedMembers (members : List (Option String × Document)) : Keyed Document :=
  members.filterMap fun member => member.1.map (·, member.2)

/-- Sorts the members of every object down to so many levels. -/
def sortedWithin : Nat → Document → Document
  | 0, document => document
  | levels + 1, array items => array (items.map (sortedWithin levels))
  | levels + 1, object members =>
    object <| (sortKeyed (namedMembers members)).map fun member =>
      (some member.1, sortedWithin levels member.2)
  | _ + 1, document => document

/-- The document with the names of every object sorted and the last of repeated ones kept. -/
def sorted (document : Document) : Document := document.sortedWithin deepestNesting

end Document

end Durak
