import HybridSearch.Proofs.Json.Opening
import HybridSearch.Proofs.Store.Lookup
import HybridSearch.Search.Hit

/-!
# The distance of a document

The distance of a hit comes from the bytes that the store returned, through a text and a document.
What is no number in the bytes is a text in the document, and what is a number other than a finite
one is a text too, which is read once more.

## Main definitions

* `StoredDocument.distance?` — the double that the bytes denote.
* `StoredDocument.ReadsNaN` — the bytes spell the double that is no number.
* `StoredDocument.score`, `Hit.score` — the distance, where what is no number counts as zero.

## Main results

* `Hit.effectiveDistance_ofDocument` — the hit is ranked by what the bytes denote.
* `Hit.score_ofDocument` — the score of a hit is that of its document.
-/

namespace HybridSearch

namespace StoredDocument

variable (fields : FieldSet) (document : StoredDocument)

/-- The bytes of the distance, unless the index declares it a vector. -/
def distanceBytes? : Option Bytes :=
  if Hit.isVector (some fields) Query.distanceField then none
  else document.fields.reverse.lookup Query.distanceField

/-- The double that the bytes of the distance denote, if they denote one. -/
def distance? : Option Float :=
  (document.distanceBytes? fields).bind fun bytes =>
    Decimal.parse? (Text.trim (Text.decodeLossy bytes))

/-- The bytes of the distance spell the double that is no number. -/
def ReadsNaN : Prop := ∃ x, document.distance? fields = some x ∧ x.isNaN = true

end StoredDocument

/-- A double, with zero in the place of the one that is no number. -/
def orZero (x : Float) : Float := if x.isNaN then 0.0 else x

/-- The distance of a document; a missing one and one that is no number count as zero. -/
def StoredDocument.score (fields : FieldSet) (document : StoredDocument) : Float :=
  orZero ((document.distance? fields).getD 0.0)

namespace Hit

def score (hit : Hit) : Float := orZero hit.effectiveDistance

theorem get?_readFields (fields : Option FieldSet) (raw : StoredHash) (name : String) :
    Entries.get? (readFields fields raw) name =
      if isVector fields name then none
      else (raw.reverse.lookup name).map fun bytes =>
        readValue (Text.decodeLossy bytes) (isNumeric fields name) := by
  have hmap := lookup_map_value
    (fun name bytes => readValue (Text.decodeLossy bytes) (isNumeric fields name))
    (raw.filter fun pair => !isVector fields pair.1).reverse name
  rw [readFields, Entries.get?_ofList, ← List.map_reverse]
  refine hmap.trans ?_
  rw [← List.filter_reverse, lookup_filter_name fun name => !isVector fields name]
  cases isVector fields name with
  | false => rfl
  | true => rfl

/-- A document that a text holds is an object or an array, and the text denotes no number. -/
theorem readDocument?_eq_some {text : String} {json : Json} (h : readDocument? text = some json) :
    json.IsNested ∧ Decimal.parse? (Text.trim text) = none := by
  rw [readDocument?] at h
  split at h
  · rename_i rest htext
    exact ⟨Json.isNested_of_parse? (Or.inl rfl) htext h,
      Decimal.parse?_trim_of_opens (Or.inl rfl) htext⟩
  · rename_i rest htext
    exact ⟨Json.isNested_of_parse? (Or.inr rfl) htext h,
      Decimal.parse?_trim_of_opens (Or.inr rfl) htext⟩
  · cases h

/-- The distance that a readable value stands for. -/
def ofValue : Json → Float
  | .num value => value.toFloat
  | .str text => (Decimal.parse? (Text.trim text)).getD 0.0
  | _ => 0.0

theorem effectiveDistance_eq (hit : Hit) :
    hit.effectiveDistance = ((hit.get? Query.distanceField).map ofValue).getD 0.0 :=
  rfl

/-- Reading a number as a document and as a double again gives the number that was meant. -/
theorem ofValue_readValue (text : String) :
    ofValue (readValue text true) = (Decimal.parse? (Text.trim text)).getD 0.0 := by
  rw [readValue, if_pos rfl]
  cases hnumber : readNumber? text with
  | some json =>
    obtain ⟨number, hbind, rfl⟩ := Option.map_eq_some_iff.mp hnumber
    obtain ⟨x, hparse, hfinite⟩ := Option.bind_eq_some_iff.mp hbind
    rw [Number.ofFloat?, Option.dite_none_right_eq_some] at hfinite
    obtain ⟨_, hfloat⟩ := hfinite
    obtain rfl := Option.some.inj hfloat
    rw [hparse]
    rfl
  | none =>
    cases hdocument : readDocument? text with
    | none => rfl
    | some json =>
      obtain ⟨hnested, hparse⟩ := readDocument?_eq_some hdocument
      rw [hparse]
      rcases hnested with ⟨items, rfl⟩ | ⟨members, rfl⟩ <;> rfl

/-- **A hit is ranked by what the bytes of its distance denote.** -/
theorem effectiveDistance_ofDocument (space : String) (fields : FieldSet)
    (document : StoredDocument) :
    (ofDocument space fields document).effectiveDistance =
      (document.distance? fields).getD 0.0 := by
  have hnumeric : isNumeric (some fields) Query.distanceField = true := by
    rw [isNumeric, beq_self_eq_true, Bool.true_or]
  rw [effectiveDistance_eq, get?, ofDocument, get?_readFields, hnumeric,
    StoredDocument.distance?, StoredDocument.distanceBytes?]
  split
  · rfl
  · cases document.fields.reverse.lookup Query.distanceField with
    | none => rfl
    | some bytes =>
      rw [Option.map_some, Option.map_some, Option.bind_some, Option.getD_some]
      exact ofValue_readValue _

theorem score_ofDocument (space : String) (fields : FieldSet) (document : StoredDocument) :
    (ofDocument space fields document).score = document.score fields := by
  rw [score, effectiveDistance_ofDocument, StoredDocument.score]

end Hit

end HybridSearch
