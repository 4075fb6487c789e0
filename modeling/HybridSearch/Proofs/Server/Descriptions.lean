import HybridSearch.Proofs.Server.Pairs
import HybridSearch.Proofs.Text.Utf8
import HybridSearch.Schema.Index
import HybridSearch.Server.InfoReply
import Mathlib.Data.List.Forall2

/-!
# Descriptions of attributes

A server describes an attribute by flags and by keys with values, in any order. A word is a flag or a
key by the place where it stands, so a value may be spelled as a flag or as a key.

## Main definitions

* `DescriptionPart` — a flag, or a key with its value.
* `AttributeDescription`, `AttributeDescription.field` — a description, and the field it is of.
* `AttributeDescription.Describes` — what a description says of an attribute of an index.
* `InfoReply` — the pairs of a reply around the list of descriptions.

## Main results

* `AttributeNote.read_parts` — the parts of a description are read one by one.
* `AttributeNote.note_parts` — of several values for one key the last is noted.
* `AttributeDescription.attribute?_reply` — a description is read as its field.
* `InfoReply.attributes_descriptions` — a reply is read as the fields of its descriptions.
-/

namespace HybridSearch

/-- A reply that has a text. -/
structure WordReply where
  reply : Reply
  text : String
  text?_reply : reply.text? = some text

def WordReply.ofText (text : String) : WordReply where
  reply := .bulk (Text.encode text)
  text := text
  text?_reply := by rw [Reply.text?, Reply.bytes?, Option.map_some, Text.decodeLossy_encode]

theorem FieldType.ofDeclared_name (type : FieldType) : ofDeclared type.name = type := by
  cases type <;> decide +kernel

/-- A part of a description: a flag, or a key with its value. -/
inductive DescriptionPart where
  | flag (word : WordReply) (isFlag_word : AttributeNote.isFlag word.text = true)
  | pair (key value : WordReply) (isFlag_key : AttributeNote.isFlag key.text = false)

namespace DescriptionPart

def elements : DescriptionPart → List Reply
  | flag word _ => [word.reply]
  | pair key value _ => [key.reply, value.reply]

/-- The value under a name, in any letter case. -/
def value? (name : String) : DescriptionPart → Option String
  | flag _ _ => none
  | pair key value _ => if Text.lowerAscii key.text = name then some value.text else none

/-- The flag of a sortable attribute, in any letter case. -/
def isSortable : DescriptionPart → Bool
  | flag word _ => Text.sameWord word.text "SORTABLE"
  | pair _ _ _ => false

def values (name : String) (parts : List DescriptionPart) : List String :=
  parts.filterMap (value? name)

end DescriptionPart

/-! ### Reading parts -/

namespace AttributeNote

open DescriptionPart

/-- The note after a part of a description. -/
def add (note : AttributeNote) : DescriptionPart → AttributeNote
  | .flag word _ => note.raise word.text
  | .pair key value _ => note.record key.text (some value.text)

theorem read_flag (note : AttributeNote) {word : WordReply} (h : isFlag word.text = true)
    (rest : List Reply) : note.read (word.reply :: rest) = (note.raise word.text).read rest := by
  cases rest with
  | nil => simp only [read, word.text?_reply, Option.getD_some, h, if_true]
  | cons value rest => simp only [read, word.text?_reply, Option.getD_some, h, if_true]

theorem read_pair (note : AttributeNote) {key : WordReply} (h : isFlag key.text = false)
    (value : WordReply) (rest : List Reply) :
    note.read (key.reply :: value.reply :: rest) =
      (note.record key.text (some value.text)).read rest := by
  simp only [read, key.text?_reply, value.text?_reply, Option.getD_some, h, Bool.false_eq_true,
    if_false]

/-- **The parts are read one by one,** whatever their values are. -/
theorem read_parts (note : AttributeNote) (parts : List DescriptionPart) :
    note.read (parts.flatMap elements) = parts.foldl add note := by
  induction parts generalizing note with
  | nil => rfl
  | cons part parts ih =>
    rw [List.flatMap_cons, List.foldl_cons, ← ih]
    cases part with
    | flag word hflag => exact read_flag note hflag _
    | pair key value hkey => exact read_pair note hkey value _

theorem values_cons (name : String) (part : DescriptionPart) (parts : List DescriptionPart) :
    values name (part :: parts) = (part.value? name).toList ++ values name parts := by
  rw [values, List.filterMap_cons]
  cases part.value? name <;> rfl

/-- A value that comes later takes the place of one that came before. -/
theorem getLast?_values_cons (name : String) (part : DescriptionPart)
    (parts : List DescriptionPart) :
    (values name (part :: parts)).getLast? = (values name parts).getLast?.or (part.value? name) := by
  rw [values_cons, List.getLast?_append]
  cases part.value? name <;> rfl

theorem add_eq (note : AttributeNote) (part : DescriptionPart) :
    note.add part =
      { identifier := (part.value? "identifier").or note.identifier
        name := (part.value? "attribute").or note.name
        declared := (part.value? "type").getD note.declared
        sortable := note.sortable || part.isSortable } := by
  cases part with
  | flag word hflag => rfl
  | pair key value hkey =>
    simp only [add, record, value?, isSortable, Bool.or_false]
    by_cases hidentifier : Text.lowerAscii key.text = "identifier"
    · simp [hidentifier]
    by_cases hattribute : Text.lowerAscii key.text = "attribute"
    · simp [hattribute]
    by_cases htype : Text.lowerAscii key.text = "type"
    · simp [htype]
    simp [hidentifier, hattribute, htype]

/-- **Of several values for one key the last is noted,** and a flag is noted wherever it stands. -/
theorem note_parts (note : AttributeNote) (parts : List DescriptionPart) :
    parts.foldl add note =
      { identifier := (values "identifier" parts).getLast?.or note.identifier
        name := (values "attribute" parts).getLast?.or note.name
        declared := (values "type" parts).getLast?.getD note.declared
        sortable := note.sortable || parts.any isSortable } := by
  induction parts generalizing note with
  | nil => simp [values]
  | cons part parts ih =>
    rw [List.foldl_cons, ih, add_eq]
    simp only [getLast?_values_cons, Option.or_assoc, Option.getD_or, List.any_cons, Bool.or_assoc]

end AttributeNote

/-! ### Descriptions -/

/-- The description of an attribute, with at most one value for a key that is noted, and a name. -/
structure AttributeDescription where
  parts : List DescriptionPart
  length_values : ∀ key ∈ ["identifier", "attribute", "type"],
    (DescriptionPart.values key parts).length ≤ 1
  hasName : DescriptionPart.values "attribute" parts ++ DescriptionPart.values "identifier" parts ≠ []

namespace AttributeDescription

open DescriptionPart

variable (description : AttributeDescription)

def reply : Reply := .array (description.parts.flatMap elements)

/-- The value of the attribute, or else the identifier. -/
def name : String :=
  (values "attribute" description.parts ++ values "identifier" description.parts).head
    description.hasName

/-- The type that is given, or text. -/
def type : FieldType :=
  match values "type" description.parts with
  | declared :: _ => .ofDeclared declared
  | [] => .text

def field : Field := ⟨description.name, description.type, description.parts.any isSortable⟩

theorem getLast?_values (key : String) (hkey : key ∈ ["identifier", "attribute", "type"]) :
    (values key description.parts).getLast? = (values key description.parts).head? := by
  have hlength := description.length_values key hkey
  match values key description.parts, hlength with
  | [], _ => rfl
  | [_], _ => rfl

/-- **A description is read as its field,** whatever the order of its parts and the spelling of its
values. -/
theorem attribute?_reply : description.reply.attribute? = some description.field := by
  have hname : ((values "attribute" description.parts).head?.or
      (values "identifier" description.parts).head?) = some description.name := by
    rw [← List.head?_append, List.head?_eq_some_head description.hasName, name]
  have htype : FieldType.ofDeclared ((values "type" description.parts).head?.getD "") =
      description.type := by
    rw [type]
    cases values "type" description.parts with
    | nil => decide +kernel
    | cons declared rest => rfl
  rw [reply, Reply.attribute?, AttributeNote.read_parts, AttributeNote.note_parts,
    AttributeNote.field?]
  simp only [AttributeNote.blank, Option.or_none, Bool.false_or,
    description.getLast?_values "identifier" (by simp),
    description.getLast?_values "attribute" (by simp),
    description.getLast?_values "type" (by simp)]
  rw [hname, htype]
  rfl

/-- The parts that name an attribute and its type. -/
private def naming (a : Attribute) : List DescriptionPart :=
  [.pair (.ofText "identifier") (.ofText a.name) (by decide +kernel),
    .pair (.ofText "attribute") (.ofText a.name) (by decide +kernel),
    .pair (.ofText "type") (.ofText a.kind.type.name) (by decide +kernel)]

private def flags (a : Attribute) : List DescriptionPart :=
  if a.sortable then [.flag (.ofText "SORTABLE") (by decide +kernel)] else []

private theorem values_parts (a : Attribute) :
    values "identifier" (naming a ++ flags a) = [a.name] ∧
      values "attribute" (naming a ++ flags a) = [a.name] ∧
      values "type" (naming a ++ flags a) = [a.kind.type.name] := by
  have hidentifier : Text.lowerAscii "identifier" = "identifier" := by decide +kernel
  have hattribute : Text.lowerAscii "attribute" = "attribute" := by decide +kernel
  have htype : Text.lowerAscii "type" = "type" := by decide +kernel
  have hflags (key : String) : values key (flags a) = [] := by
    rw [flags]
    cases a.sortable <;> rfl
  simp only [values, List.filterMap_append] at hflags ⊢
  simp [hflags, naming, value?, WordReply.ofText, hidentifier, hattribute, htype]

/-- The description names the attribute and its type, and has the flag of a sortable one just if the
attribute is sortable. -/
structure Describes (a : Attribute) : Prop where
  name_eq : description.name = a.name
  values_type : values "type" description.parts = [a.kind.type.name]
  any_isSortable : description.parts.any isSortable = a.sortable

variable {description}

theorem Describes.field_eq {a : Attribute} (h : description.Describes a) :
    description.field = a.field := by
  have htype : description.type = a.kind.type := by
    rw [type, h.values_type]
    exact a.kind.type.ofDeclared_name
  rw [field, h.name_eq, htype, h.any_isSortable]
  rfl

theorem map_field_of_describes {descriptions : List AttributeDescription}
    {attributes : List Attribute} (h : List.Forall₂ Describes descriptions attributes) :
    descriptions.map field = attributes.map Attribute.field := by
  induction h with
  | nil => rfl
  | cons hfirst _ ih => rw [List.map_cons, List.map_cons, hfirst.field_eq, ih]

/-- A description of an attribute that says nothing else. -/
def ofAttribute (a : Attribute) : AttributeDescription where
  parts := naming a ++ flags a
  length_values := by simp [values_parts]
  hasName := by simp [values_parts]

theorem describes_ofAttribute (a : Attribute) : (ofAttribute a).Describes a where
  name_eq := by simp [name, ofAttribute, values_parts]
  values_type := by simp [ofAttribute, values_parts]
  any_isSortable := by
    have hword : Text.sameWord "SORTABLE" "SORTABLE" = true := beq_self_eq_true _
    cases hsortable : a.sortable <;>
      simp [ofAttribute, naming, flags, hsortable, isSortable, WordReply.ofText, hword]

end AttributeDescription

/-! ### Replies -/

/-- The pairs of a reply around the first whose key is `attributes`. -/
structure InfoReply where
  before : List (Reply × Reply)
  key : Reply
  after : List (Reply × Reply)
  text?_key : key.text? = some "attributes"
  text?_ne : ∀ pair ∈ before, pair.1.text? ≠ some "attributes"

namespace InfoReply

/-- The reply with a list of descriptions. -/
def reply (info : InfoReply) (layout : PairLayout) (descriptions : List Reply) : Reply :=
  .ofPairs layout (info.before ++ (info.key, .array descriptions) :: info.after)

theorem attributes_reply (info : InfoReply) (layout : PairLayout) (descriptions : List Reply) :
    (info.reply layout descriptions).attributes = descriptions.filterMap Reply.attribute? := by
  have hbefore : info.before.find? (fun pair => pair.1.text? = some "attributes") = none :=
    List.find?_eq_none.mpr fun pair hpair => by simpa using info.text?_ne pair hpair
  rw [Reply.attributes, reply, Reply.pairs_ofPairs, List.find?_append, hbefore, Option.none_or,
    List.find?_cons_of_pos (by simpa using info.text?_key)]

theorem attributes_map_reply (info : InfoReply) (layout : PairLayout)
    (descriptions : List AttributeDescription) :
    (info.reply layout (descriptions.map AttributeDescription.reply)).attributes =
      descriptions.map AttributeDescription.field := by
  rw [attributes_reply, List.filterMap_map, ← List.filterMap_eq_map]
  exact congrArg (List.filterMap · descriptions)
    (funext fun description => description.attribute?_reply)

/-- **A reply is read as the fields of its descriptions,** in their order. Every attribute of an index
has a description, and the attributes are read as the fields of the index however they are described.
-/
theorem attributes_descriptions (info : InfoReply) (layout : PairLayout) :
    (∀ descriptions : List AttributeDescription,
      (info.reply layout (descriptions.map AttributeDescription.reply)).attributes =
        descriptions.map AttributeDescription.field) ∧
      ∀ definition : IndexDefinition,
        List.Forall₂ AttributeDescription.Describes
            (definition.attributes.map AttributeDescription.ofAttribute) definition.attributes ∧
          ∀ descriptions : List AttributeDescription,
            List.Forall₂ AttributeDescription.Describes descriptions definition.attributes →
            (info.reply layout (descriptions.map AttributeDescription.reply)).attributes =
              definition.fieldSet := by
  refine ⟨info.attributes_map_reply layout, fun definition => ⟨?_, fun descriptions h => ?_⟩⟩
  · rw [List.forall₂_map_left_iff, List.forall₂_same]
    exact fun a _ => AttributeDescription.describes_ofAttribute a
  · rw [info.attributes_map_reply layout, AttributeDescription.map_field_of_describes h]
    rfl

/-- The attributes `sortable`, a tag, and `type`, a number that is sortable. -/
private def wordyDefinition : IndexDefinition :=
  ⟨"i", Key.space "i", [⟨"sortable", .tag, false⟩, ⟨"type", .numeric, true⟩]⟩

private def wordyDescriptions : List AttributeDescription :=
  [{ parts :=
      [.pair (.ofText "type") (.ofText "TAG") (by decide +kernel),
        .flag (.ofText "nostem") (by decide +kernel),
        .pair (.ofText "SEPARATOR") (.ofText "SORTABLE") (by decide +kernel),
        .pair (.ofText "Attribute") (.ofText "sortable") (by decide +kernel)]
     length_values := by decide +kernel
     hasName := by decide +kernel },
   { parts :=
      [.flag (.ofText "Sortable") (by decide +kernel),
        .pair (.ofText "identifier") (.ofText "type") (by decide +kernel),
        .pair (.ofText "type") (.ofText "NUMERIC") (by decide +kernel)]
     length_values := by decide +kernel
     hasName := by decide +kernel }]

private def wordyReply : InfoReply where
  before := [(.bulk (Text.encode "index_name"), .bulk (Text.encode "attributes"))]
  key := .simple "attributes"
  after := []
  text?_key := by decide +kernel
  text?_ne := by decide +kernel

/-- Names and values that are spelled as flags and as keys. -/
theorem attributes_descriptions_of_words :
    List.Forall₂ AttributeDescription.Describes wordyDescriptions wordyDefinition.attributes ∧
      (wordyReply.reply .row (wordyDescriptions.map AttributeDescription.reply)).attributes =
        wordyDefinition.fieldSet := by
  have hdescribes : List.Forall₂ AttributeDescription.Describes wordyDescriptions
      wordyDefinition.attributes :=
    .cons ⟨by decide +kernel, by decide +kernel, by decide +kernel⟩
      (.cons ⟨by decide +kernel, by decide +kernel, by decide +kernel⟩ .nil)
  exact ⟨hdescribes, ((attributes_descriptions wordyReply .row).2 _).2 _ hdescribes⟩

end InfoReply

end HybridSearch
