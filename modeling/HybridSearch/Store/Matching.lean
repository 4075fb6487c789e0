import HybridSearch.Query.Basic
import HybridSearch.Schema.Index
import HybridSearch.Search.Hit
import HybridSearch.Text.Lowercase

/-!
# What a query means for a record

## Main definitions

* `Text.tokens` — the words of a text.
* `Predicate.holds` — whether a record satisfies a predicate.
* `IndexDefinition.mentions` — whether the texts of a record hold all words of a text.
* `Combinator.combine` — several answers as one.
-/

namespace HybridSearch

namespace StoredHash

def get? (hash : StoredHash) (name : String) : Option Bytes := hash.lookup name

def text? (hash : StoredHash) (name : String) : Option String :=
  (hash.lookup name).map Text.decodeLossy

end StoredHash

/-- The runs of letters and numbers, in lowercase. -/
def Text.tokens (text : String) : List (List Char) :=
  let runs := pieces (fun c => !isAlphanumeric c) text.toList
  (runs.filter fun run => !run.isEmpty).map (lowerFrom [])

/-- Whether there are words in a text and all of them are among the given ones. -/
def Text.allAmong (words : List (List Char)) (text : String) : Bool :=
  let wanted := tokens text
  !wanted.isEmpty && wanted.all words.contains

/-- A tag as it is compared: without blanks around it and in lowercase. -/
def Text.tagForm (tag : String) : String := lowercase (trim tag)

/-- Whether the stored text of its attribute satisfies the predicate. -/
def Predicate.accepts (stored : String) : Predicate → Bool
  | range _ low high =>
    (Decimal.parse? (Text.trim stored)).any fun value => low ≤ value && value ≤ high
  | tags _ values =>
    (Text.split ',' stored).any fun member =>
      values.any fun value => Text.tagForm value == Text.tagForm member
  | tokens _ text => Text.allAmong (Text.tokens stored) text

def Predicate.holds (hash : StoredHash) (predicate : Predicate) : Bool :=
  (StoredHash.text? hash predicate.field).any predicate.accepts

def IndexDefinition.mentions (definition : IndexDefinition) (hash : StoredHash) (text : String) :
    Bool :=
  let texts := definition.attributes.filter fun a => a.kind == .text
  Text.allAmong ((texts.filterMap fun a => StoredHash.text? hash a.name).flatMap Text.tokens) text

def Combinator.combine : Combinator → List Bool → Bool
  | and, answers => answers.all id
  | or, answers => answers.any id

end HybridSearch
