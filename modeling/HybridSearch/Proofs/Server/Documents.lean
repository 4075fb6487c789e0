import HybridSearch.Proofs.Server.Pairs
import HybridSearch.Server.SearchReply

/-!
# The documents of a reply

A reply to a search has an entry for each document: its key, and after it the block of its fields
where there is one. The reader looks at one element and the next, so a key that cannot be read, or a
block that is missing, could shift the fields of one document to another. It does not.

## Main definitions

* `FieldBlock`, `FieldBlock.fields` — what stands after a key, and the fields that it holds.
* `DocumentEntry`, `DocumentEntry.document?` — an entry, and the document that it describes.

## Main results

* `Reply.documents_cons` — an element is a document of its own, with the fields of the next element.
* `Reply.documents_entry_append` — an entry is read on its own, whatever entries follow.
* `Reply.searchResult_entries` — a reply is read entry by entry.
-/

namespace HybridSearch

/-- The block of the fields of a document. -/
inductive FieldBlock where
  | present (layout : PairLayout) (pairs : List (Reply × Reply))
  | nil
  | absent

namespace FieldBlock

def elements : FieldBlock → List Reply
  | present layout pairs => [.ofPairs layout pairs]
  | nil => [.nil]
  | absent => []

/-- The field of a name and a value that both have bytes. -/
def field? : Reply × Reply → Option (String × Bytes)
  | (name, value) =>
    match name.bytes?, value.bytes? with
    | some name, some value => some (Text.decodeLossy name, value)
    | _, _ => none

def fields : FieldBlock → StoredHash
  | present _ pairs => pairs.filterMap field?
  | nil => []
  | absent => []

theorem fields_eq (layout : PairLayout) (pairs : List (Reply × Reply)) :
    (Reply.ofPairs layout pairs).fields = pairs.filterMap field? := by
  rw [Reply.fields, Reply.pairs_ofPairs]
  refine congrArg (List.filterMap · pairs) (funext fun pair => ?_)
  obtain ⟨name, value⟩ := pair
  simp only [field?, Reply.text?]
  cases name.bytes? with
  | none => rfl
  | some name => cases value.bytes? <;> rfl

end FieldBlock

/-- A key with the block of its fields. Only a block is an array or a map. -/
structure DocumentEntry where
  key : Reply
  block : FieldBlock
  isBlock_key : key.isBlock = false

namespace DocumentEntry

def elements (entry : DocumentEntry) : List Reply := entry.key :: entry.block.elements

/-- The document of a key that has bytes, with the fields of its own block. -/
def document? (entry : DocumentEntry) : Option StoredDocument :=
  entry.key.bytes?.map fun key => ⟨Text.decodeLossy key, entry.block.fields⟩

end DocumentEntry

namespace Reply

theorem text?_eq_none_of_isBlock {reply : Reply} (h : reply.isBlock = true) : reply.text? = none := by
  cases reply with
  | array items => rfl
  | map entries => rfl
  | _ => cases h

theorem fields_eq_nil_of_isBlock {reply : Reply} (h : reply.isBlock = false) : reply.fields = [] := by
  cases reply with
  | array items => cases h
  | map entries => cases h
  | _ => rfl

/-- The fields of the block that the elements begin with. -/
def leadingFields (elements : List Reply) : StoredHash := (elements.head?.map fields).getD []

/-- **Each element is read on its own.** One that has a text is the key of a document with the fields
of the next element; any other is passed over. -/
theorem documents_cons (key : Reply) (rest : List Reply) :
    documents (key :: rest) =
      (key.text?.map fun key => ⟨key, leadingFields rest⟩).toList ++ documents rest := by
  cases rest with
  | nil => exact (List.append_nil _).symm
  | cons block rest =>
    rw [documents]
    cases key.text? with
    | none => rfl
    | some key =>
      cases hblock : block.isBlock with
      | false =>
        have hnone : leadingFields (block :: rest) = [] := fields_eq_nil_of_isBlock hblock
        rw [hnone]
        rfl
      | true =>
        -- a block that was taken would have been passed over as an element of its own
        have hpassed : documents (block :: rest) = documents rest := by
          have htext := text?_eq_none_of_isBlock hblock
          cases rest with
          | nil => simp only [documents, htext, Option.map_none, Option.toList_none]
          | cons next rest => simp only [documents, htext]
        rw [hpassed]
        rfl

theorem documents_cons_of_text? {element : Reply} (h : element.text? = none) (rest : List Reply) :
    documents (element :: rest) = documents rest := by
  rw [documents_cons, h]
  rfl

/-- An entry begins with a key, which holds no fields. -/
theorem leadingFields_entries (entries : List DocumentEntry) :
    leadingFields (entries.flatMap DocumentEntry.elements) = [] := by
  cases entries with
  | nil => rfl
  | cons entry entries => exact fields_eq_nil_of_isBlock entry.isBlock_key

/-- An entry is read on its own, whatever entries follow. -/
theorem documents_entry_append (entry : DocumentEntry) (entries : List DocumentEntry) :
    documents (entry.elements ++ entries.flatMap DocumentEntry.elements) =
      entry.document?.toList ++ documents (entries.flatMap DocumentEntry.elements) := by
  have hfields : leadingFields (entry.block.elements ++ entries.flatMap DocumentEntry.elements) =
      entry.block.fields := by
    cases entry.block with
    | present layout pairs => exact FieldBlock.fields_eq layout pairs
    | nil => rfl
    | absent => exact leadingFields_entries entries
  have hblock : documents (entry.block.elements ++ entries.flatMap DocumentEntry.elements) =
      documents (entries.flatMap DocumentEntry.elements) := by
    cases entry.block with
    | present layout pairs => exact documents_cons_of_text? (text?_ofPairs layout pairs) _
    | nil => exact documents_cons_of_text? rfl _
    | absent => rfl
  rw [DocumentEntry.elements, List.cons_append, documents_cons, hfields, hblock, text?,
    DocumentEntry.document?, Option.map_map]
  rfl

/-- **A reply to a search is read entry by entry.** Each entry whose key has bytes is one document, in
the order of the entries, with the fields of its own block: the pairs whose name and value both have
bytes, in either layout, and none where the block is `nil` or missing. -/
theorem searchResult_entries (total : Reply) (entries : List DocumentEntry) :
    (array (total :: entries.flatMap DocumentEntry.elements)).searchResult =
      .ok (entries.filterMap DocumentEntry.document?) := by
  have hdocuments : documents (entries.flatMap DocumentEntry.elements) =
      entries.filterMap DocumentEntry.document? := by
    induction entries with
    | nil => rfl
    | cons entry entries ih =>
      rw [List.flatMap_cons, documents_entry_append, ih, List.filterMap_cons]
      cases entry.document? <;> rfl
  exact congrArg Except.ok hdocuments

/-- A key that cannot be read takes its own fields with it. -/
example :
    documents [nil, array [bulk [97], bulk [49]], bulk [107], map [(bulk [98], int 7)]] =
      [⟨"k", [("b", [55])]⟩] := by
  decide +kernel

end Reply

end HybridSearch
