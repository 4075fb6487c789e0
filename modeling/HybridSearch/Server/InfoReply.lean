import HybridSearch.Schema.Field
import HybridSearch.Server.Reply

/-!
# Replies that describe an index

Among the pairs of the reply is the list of attributes. An attribute is described by keys with
values and by flags, which stand alone, in any order.

## Main definitions

* `AttributeNote`, `AttributeNote.read` — what a description says.
* `Reply.attribute?` — the field of a description.
* `Reply.attributes` — the fields that a reply describes.
-/

namespace HybridSearch

/-- The words of a description that have no value. -/
def attributeFlags : List String :=
  ["SORTABLE", "UNF", "NOSTEM", "NOINDEX", "CASESENSITIVE", "WITHSUFFIXTRIE", "INDEXEMPTY",
   "INDEXMISSING", "PHONETIC"]

structure AttributeNote where
  identifier : Option String
  name : Option String
  declared : String
  sortable : Bool
  deriving DecidableEq, Repr

namespace AttributeNote

def blank : AttributeNote := ⟨none, none, "", false⟩

def isFlag (word : String) : Bool := attributeFlags.any (Text.sameWord word)

/-- The note after a key with its value. -/
def record (note : AttributeNote) (key : String) (value : Option String) : AttributeNote :=
  let key := Text.lowerAscii key
  if key = "identifier" then { note with identifier := value }
  else if key = "attribute" then { note with name := value }
  else if key = "type" then { note with declared := value.getD "" }
  else note

/-- The note after a flag. -/
def raise (note : AttributeNote) (flag : String) : AttributeNote :=
  { note with sortable := note.sortable || Text.sameWord flag "SORTABLE" }

/-- Reads a description from a word that is a key or a flag. -/
def read (note : AttributeNote) : List Reply → AttributeNote
  | [] => note
  | [word] =>
    let word := word.text?.getD ""
    if isFlag word then note.raise word else note.record word none
  | word :: value :: rest =>
    let word := word.text?.getD ""
    if isFlag word then (note.raise word).read (value :: rest)
    else (note.record word value.text?).read rest

/-- The field has the name of the attribute, or else its identifier. -/
def field? (note : AttributeNote) : Option Field :=
  (note.name.or note.identifier).map fun name =>
    ⟨name, .ofDeclared note.declared, note.sortable⟩

end AttributeNote

namespace Reply

def attribute? : Reply → Option Field
  | array words => (AttributeNote.blank.read words).field?
  | _ => none

def attributes (reply : Reply) : FieldSet :=
  match reply.pairs.find? fun pair => pair.1.text? = some "attributes" with
  | some (_, array descriptions) => descriptions.filterMap attribute?
  | _ => []

end Reply

end HybridSearch
