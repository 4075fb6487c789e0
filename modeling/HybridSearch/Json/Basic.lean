import HybridSearch.Json.Entries
import HybridSearch.Json.Number

/-!
# JSON documents

A structure with named members is given as an object, or as an array of its members in order. A
choice among names is given as the name, or as an object with that name alone and `null`.

## Main definitions

* `Json` — a document; the members of an object are sorted by key.
* `Json.object` — an object from members in any order.
* `Json.str?`, `Json.bool?`, `Json.obj?`, `Json.arr?`, `Json.nat?` — documents of one kind.
* `Json.shape?` — the members of a structure, each found by name.
* `Shape.required?`, `Shape.optional?` — a member that must be there, or has a default.
* `Json.choice?` — a chosen name.
-/

namespace HybridSearch

inductive Json where
  | null
  | bool (value : Bool)
  | num (value : Number)
  | str (value : String)
  | arr (items : List Json)
  | obj (members : List (String × Json))
  deriving Inhabited

namespace Json

/-- The members of an object. -/
abbrev Members := Entries Json

def object (members : List (String × Json)) : Json := .obj (Entries.ofList members)

def nat (value : Nat) : Json := .num (Number.ofNat value)

def strings (texts : List String) : Json := .arr (texts.map .str)

def str? : Json → Option String
  | str value => some value
  | _ => none

def bool? : Json → Option Bool
  | bool value => some value
  | _ => none

def arr? : Json → Option (List Json)
  | arr items => some items
  | _ => none

def obj? : Json → Option Members
  | obj members => some members
  | _ => none

/-- A count: an integer that is not negative and was written as an integer. -/
def nat? : Json → Option Nat
  | num value => value.toNat?
  | _ => none

/-- The member of an object with the given key. -/
def member? (json : Json) (key : String) : Option Json := json.obj?.bind (Entries.get? · key)

end Json

/-! ### Documents of a given shape -/

/-- The members that a document gives for a structure. -/
abbrev Shape := String → Option Json

/-- Unknown members of an object do not matter, an array must not have more items than there are
members. -/
def Json.shape? (members : List String) : Json → Option Shape
  | .obj given => some (Entries.get? given)
  | .arr items =>
    if items.length ≤ members.length then some (List.lookup · (members.zip items)) else none
  | _ => none

namespace Shape

variable {α : Type}

def required? (shape : Shape) (member : String) (read : Json → Option α) : Option α :=
  (shape member).bind read

def optional? (shape : Shape) (member : String) (standard : α) (read : Json → Option α) :
    Option α :=
  match shape member with
  | some json => read json
  | none => some standard

end Shape

namespace Json

/-- A name, alone or as the only key of an object with the value `null`. -/
def choice? : Json → Option String
  | str name => some name
  | obj [(name, null)] => some name
  | _ => none

/-- An array of texts. -/
def texts? (json : Json) : Option (List String) := json.arr?.bind fun items => items.mapM str?

end Json

end HybridSearch
