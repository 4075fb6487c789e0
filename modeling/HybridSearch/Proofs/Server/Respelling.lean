import HybridSearch.Proofs.Server.Descriptions
import HybridSearch.Proofs.Server.Documents

/-!
# Rows and maps

A server of the newer protocol sends a map where one of the older protocol sends a row of pairs. What
is read of a search, and of the pairs around the attributes of an index, is the same. The description
of an attribute is read from a row only: sent as a map, the attribute is lost.

## Main definitions

* `Respelling` — a reply that stays, or pairs that a row or a map holds.

## Main results

* `Respelling.searchResult_map` — the documents of a search are the same.
* `Respelling.attributes_map` — of the attributes those are left whose descriptions stay.
* `Respelling.decodes_alike_iff` — when the two protocols are read alike.
* `Respelling.not_decodes_alike` — an attribute that is described by a map is lost.
-/

namespace HybridSearch

inductive Respelling where
  | kept (reply : Reply)
  | respelled (pairs : List (Reply × Reply))

namespace Respelling

def reply (layout : PairLayout) : Respelling → Reply
  | kept reply => reply
  | respelled pairs => .ofPairs layout pairs

def isKept : Respelling → Bool
  | kept _ => true
  | respelled _ => false

/-! ### Searches -/

theorem text?_reply (layout layout' : PairLayout) (item : Respelling) :
    (item.reply layout).text? = (item.reply layout').text? := by
  cases item with
  | kept reply => rfl
  | respelled pairs => rw [reply, reply, Reply.text?_ofPairs, Reply.text?_ofPairs]

theorem fields_reply (layout layout' : PairLayout) (item : Respelling) :
    (item.reply layout).fields = (item.reply layout').fields := by
  cases item with
  | kept reply => rfl
  | respelled pairs => exact Reply.fields_ofPairs layout layout' pairs

theorem documents_map (layout layout' : PairLayout) (items : List Respelling) :
    Reply.documents (items.map (reply layout)) = Reply.documents (items.map (reply layout')) := by
  induction items with
  | nil => rfl
  | cons item items ih =>
    have hfields : Reply.leadingFields (items.map (reply layout)) =
        Reply.leadingFields (items.map (reply layout')) := by
      cases items with
      | nil => rfl
      | cons next items => exact fields_reply layout layout' next
    rw [List.map_cons, List.map_cons, Reply.documents_cons, Reply.documents_cons, ih, hfields,
      text?_reply layout layout']

/-- The documents of a search are the same, whatever pairs a map holds in the place of a row. -/
theorem searchResult_map (layout layout' : PairLayout) (items : List Respelling) :
    (Reply.array (items.map (reply layout))).searchResult =
      (Reply.array (items.map (reply layout'))).searchResult := by
  rw [Reply.searchResult, Reply.searchResult, ← List.map_drop, ← List.map_drop,
    documents_map layout layout']

/-! ### Attributes -/

theorem attributes_ofPairs (layout layout' : PairLayout) (pairs : List (Reply × Reply)) :
    (Reply.ofPairs layout pairs).attributes = (Reply.ofPairs layout' pairs).attributes := by
  simp only [Reply.attributes, Reply.pairs_ofPairs]

/-- Of the descriptions those are read that stay. -/
theorem filterMap_attribute? (descriptions : List Respelling) :
    (descriptions.map (reply .map)).filterMap Reply.attribute? =
      ((descriptions.filter isKept).map (reply .row)).filterMap Reply.attribute? := by
  induction descriptions with
  | nil => rfl
  | cons description descriptions ih =>
    cases description with
    | kept reply =>
      rw [List.filter_cons_of_pos rfl, List.map_cons, List.map_cons, List.filterMap_cons, ih,
        List.filterMap_cons]
      rfl
    | respelled pairs => exact ih

theorem filterMap_filter_sublist (descriptions : List Respelling) :
    (((descriptions.filter isKept).map (reply .row)).filterMap Reply.attribute?).Sublist
      ((descriptions.map (reply .row)).filterMap Reply.attribute?) :=
  (List.filter_sublist.map _).filterMap _

/-- Leaving out descriptions changes nothing just if they describe nothing. -/
theorem filterMap_filter_eq_iff (descriptions : List Respelling) :
    ((descriptions.filter isKept).map (reply .row)).filterMap Reply.attribute? =
        (descriptions.map (reply .row)).filterMap Reply.attribute? ↔
      ∀ pairs, respelled pairs ∈ descriptions → (Reply.ofPairs .row pairs).attribute? = none := by
  induction descriptions with
  | nil => exact iff_of_true rfl nofun
  | cons description descriptions ih =>
    cases description with
    | kept reply =>
      have hmem (pairs : List (Reply × Reply)) :
          respelled pairs ∈ kept reply :: descriptions ↔ respelled pairs ∈ descriptions := by simp
      simp only [hmem, ← ih]
      rw [List.filter_cons_of_pos rfl, List.map_cons, List.map_cons, List.filterMap_cons,
        List.filterMap_cons]
      cases (Respelling.reply .row (kept reply)).attribute? with
      | none => exact Iff.rfl
      | some field => exact List.cons_inj_right field
    | respelled pairs =>
      have hmem (other : List (Reply × Reply)) : respelled other ∈ respelled pairs :: descriptions ↔
          other = pairs ∨ respelled other ∈ descriptions := by simp
      simp only [hmem, forall_eq_or_imp, ← ih]
      rw [List.filter_cons_of_neg Bool.false_ne_true, List.map_cons, List.filterMap_cons, reply]
      cases (Reply.ofPairs .row pairs).attribute? with
      | none => exact (and_iff_right rfl).symm
      | some field =>
        refine iff_of_false (fun h => ?_) fun h => nomatch h.1
        have hlength := (filterMap_filter_sublist descriptions).length_le
        rw [h, List.length_cons] at hlength
        exact absurd hlength (Nat.not_succ_le_self _)

/-- **Rows and maps are read alike,** wherever a search holds them and around the attributes of an
index. Of the attributes those are read whose descriptions stay rows, so nothing is lost if and only
if the others describe no attribute. -/
theorem decodes_alike_iff (info : InfoReply) (layout : PairLayout) (items : List Respelling)
    (pairs : List (Reply × Reply)) (descriptions : List Respelling) :
    (Reply.array (items.map (reply .map))).searchResult =
        (Reply.array (items.map (reply .row))).searchResult ∧
      (Reply.ofPairs .map pairs).attributes = (Reply.ofPairs .row pairs).attributes ∧
      (info.reply layout (descriptions.map (reply .map))).attributes =
        (info.reply .row ((descriptions.filter isKept).map (reply .row))).attributes ∧
      ((info.reply layout (descriptions.map (reply .map))).attributes =
          (info.reply .row (descriptions.map (reply .row))).attributes ↔
        ∀ pairs, respelled pairs ∈ descriptions → (Reply.ofPairs .row pairs).attribute? = none) := by
  have hkept : (info.reply layout (descriptions.map (reply .map))).attributes =
      (info.reply .row ((descriptions.filter isKept).map (reply .row))).attributes := by
    rw [InfoReply.attributes_reply, InfoReply.attributes_reply, filterMap_attribute?]
  refine ⟨searchResult_map .map .row items, attributes_ofPairs .map .row pairs, hkept, ?_⟩
  rw [hkept, InfoReply.attributes_reply, InfoReply.attributes_reply]
  exact filterMap_filter_eq_iff descriptions

/-- The pairs that describe an attribute named `price`. -/
private def pricePairs : List (Reply × Reply) :=
  [(.bulk (Text.encode "identifier"), .bulk (Text.encode "price")),
    (.bulk (Text.encode "attribute"), .bulk (Text.encode "price")),
    (.bulk (Text.encode "type"), .bulk (Text.encode "NUMERIC"))]

private def priceReply : InfoReply where
  before := []
  key := .bulk (Text.encode "attributes")
  after := []
  text?_key := by decide +kernel
  text?_ne := nofun

/-- A number is lost when a map describes it, though none of the words is a flag. -/
theorem not_decodes_alike :
    ¬∀ (info : InfoReply) (pairs : List (Reply × Reply)),
      (∀ pair ∈ pairs, AttributeNote.isFlag (pair.1.text?.getD "") = false) →
      (info.reply .row [.ofPairs .map pairs]).attributes =
        (info.reply .row [.ofPairs .row pairs]).attributes := by
  intro hall
  have hlost := hall priceReply pricePairs (by decide +kernel)
  revert hlost
  decide +kernel

end Respelling

end HybridSearch
