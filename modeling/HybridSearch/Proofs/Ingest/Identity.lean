import HybridSearch.Proofs.Ingest.Writes
import HybridSearch.Proofs.Store.Lookup
import HybridSearch.Proofs.Text.Affix

/-!
# The id that a row carries

Several keys of a row may hold an id. The first of them in the order of the keys is taken before it
is looked at: when its value is blank the row counts as one without an id, whatever the other keys
hold, and when it is not blank the other keys are of no account, `id` itself among them.

## Main definitions

* `Source.HoldsId` — the keys that hold an id.
* `Source.IsBlank` — a value without a text other than white space.
* `Record.Identified` — a record under the id of its row, or else under a new one.

## Main results

* `Source.explicitId?_eq_some_iff` — the id of a row.
* `Ingest.identified_of_record` — a row with an id takes none from the supply.
* `Ingest.takes_first_id` — which ids of a row are used.
-/

namespace HybridSearch

namespace Source

def HoldsId (key : String) : Prop := key = "id" ∨ ∃ label, key = label ++ ".id"

theorem isIdKey_iff (key : String) : isIdKey key = true ↔ HoldsId key := by
  rw [isIdKey, Bool.or_eq_true, beq_iff_eq, Text.isSome_endsWith?, HoldsId]

def IsBlank (value : Json) : Prop := Text.trim value.text = ""

instance (value : Json) : Decidable (IsBlank value) :=
  inferInstanceAs (Decidable (Text.trim value.text = ""))

variable {source : Json.Members} {first entry : String × Json}

theorem explicitId?_of_isFirst (hsorted : Entries.Sorted source)
    (hfirst : Entries.IsFirst HoldsId source first) :
    (IsBlank first.2 ∧ explicitId? source = none) ∨
      (¬IsBlank first.2 ∧ explicitId? source = some (Text.trim first.2.text)) := by
  have hfind : source.find? (fun entry => isIdKey entry.1) = some first :=
    (Entries.find?_eq_some_iff isIdKey_iff hsorted).mpr hfirst
  rw [explicitId?, hfind]
  by_cases hblank : IsBlank first.2
  · exact Or.inl ⟨hblank, if_pos (String.isEmpty_iff.mpr hblank)⟩
  · exact Or.inr ⟨hblank, if_neg fun h => hblank (String.isEmpty_iff.mp h)⟩

/-- **The id of a row** is the text of the first value under a key that holds an id, if that value
is not blank. -/
theorem explicitId?_eq_some_iff (hsorted : Entries.Sorted source) {id : String} :
    explicitId? source = some id ↔
      ∃ first, Entries.IsFirst HoldsId source first ∧ ¬IsBlank first.2 ∧
        id = Text.trim first.2.text := by
  constructor
  · intro h
    cases hfind : source.find? fun entry => isIdKey entry.1 with
    | none =>
      rw [explicitId?, hfind] at h
      cases h
    | some first =>
      have hfirst := (Entries.find?_eq_some_iff isIdKey_iff hsorted).mp hfind
      rcases explicitId?_of_isFirst hsorted hfirst with ⟨-, hnone⟩ | ⟨hblank, hsome⟩
      · rw [hnone] at h
        cases h
      · exact ⟨first, hfirst, hblank, Option.some.inj (h.symm.trans hsome)⟩
  · rintro ⟨first, hfirst, hblank, rfl⟩
    exact ((explicitId?_of_isFirst hsorted hfirst).resolve_left fun h => hblank h.1).2

/-- A row with a key that holds an id has one if the first such value is not blank. -/
theorem isSome_explicitId?_iff (hsorted : Entries.Sorted source) (hmem : entry ∈ source)
    (hholds : HoldsId entry.1) :
    (explicitId? source).isSome ↔
      ∀ first, Entries.IsFirst HoldsId source first → ¬IsBlank first.2 := by
  obtain ⟨first, hfirst⟩ := Entries.exists_isFirst isIdKey_iff hsorted hmem hholds
  constructor
  · intro h other hother hblank
    obtain rfl := Entries.IsFirst.unique isIdKey_iff hsorted hfirst hother
    rcases explicitId?_of_isFirst hsorted hfirst with ⟨-, hnone⟩ | ⟨hnot, -⟩
    · simp [hnone] at h
    · exact hnot hblank
  · intro h
    have hsome := (explicitId?_of_isFirst hsorted hfirst).resolve_left fun hb => h first hfirst hb.1
    simp [hsome.2]

/-- A value that is not blank is the id of its row if the first value under a key that holds an id
has the same text. -/
theorem explicitId?_eq_trim_iff (hsorted : Entries.Sorted source) (hmem : entry ∈ source)
    (hholds : HoldsId entry.1) (hblank : ¬IsBlank entry.2) :
    explicitId? source = some (Text.trim entry.2.text) ↔
      ∀ first, Entries.IsFirst HoldsId source first →
        Text.trim first.2.text = Text.trim entry.2.text := by
  rw [explicitId?_eq_some_iff hsorted]
  constructor
  · rintro ⟨first, hfirst, -, htext⟩ other hother
    rw [← Entries.IsFirst.unique isIdKey_iff hsorted hfirst hother, htext]
  · intro h
    obtain ⟨first, hfirst⟩ := Entries.exists_isFirst isIdKey_iff hsorted hmem hholds
    have htext := h first hfirst
    exact ⟨first, hfirst, fun hfirstBlank => hblank (htext.symm.trans hfirstBlank), htext.symm⟩

end Source

/-- The record stands under the id of its row, or else under the next one of the supply. -/
structure Record.Identified (index : String) (source : Json.Members) (before after : IdSupply)
    (record : Record) : Prop where
  key : record.key = Key.record index record.id
  own : ∀ id, Source.explicitId? source = some id → record.id = id ∧ after = before
  fresh : Source.explicitId? source = none →
    record.id = before.name before.used ∧ after = { before with used := before.used + 1 }

theorem Record.identified_of_ofSource {options : CoercionOptions} {index : String}
    {fields : FieldSet} {source : Json.Members} {intake after : Intake} {record : Record}
    (h : (ofSource options index fields source).runFrom intake = (.ok record, after)) :
    record.Identified index source intake.ids after.ids := by
  obtain ⟨values, _, hvalues, h⟩ := Attempt.runFrom_bind_eq_ok.mp h
  obtain ⟨gateway, -, rfl⟩ := Attempt.runFrom_within_eq_iff.mp hvalues
  cases hid : Source.explicitId? source with
  | some id =>
    rw [hid] at h
    cases h
    exact ⟨rfl, fun other hother => ⟨Option.some.inj (hid.symm.trans hother), rfl⟩,
      fun hnone => absurd (hid.symm.trans hnone) nofun⟩
  | none =>
    rw [hid] at h
    cases h
    exact ⟨rfl, fun other hother => absurd (hid.symm.trans hother) nofun, fun _ => ⟨rfl, rfl⟩⟩

namespace Ingest

variable {σ : Type} [Store σ]

theorem identified_of_record {options : CoercionOptions} {index : String} {fields : FieldSet}
    {source : Json.Members} {workspace after : Workspace σ} {result : Record}
    (h : (record options index fields source).runFrom workspace = (.ok result, after)) :
    result.Identified index source workspace.intake.ids after.intake.ids :=
  Record.identified_of_ofSource (runFrom_record_eq_ok options index fields h).1

/-- **The first id of a row is the one that counts.** A row in which some id is not blank has an id
if the first of its ids is not blank, and has that one if the first is the same; this is the id that
its record is written under, and without one the record takes a new id. -/
theorem takes_first_id (options : CoercionOptions) (index : String) (fields : FieldSet)
    {source : Json.Members} (hsorted : Entries.Sorted source) :
    (∀ entry ∈ source, Source.HoldsId entry.1 → ¬Source.IsBlank entry.2 →
      ((Source.explicitId? source).isSome ↔
        ∀ first, Entries.IsFirst Source.HoldsId source first → ¬Source.IsBlank first.2) ∧
      (Source.explicitId? source = some (Text.trim entry.2.text) ↔
        ∀ first, Entries.IsFirst Source.HoldsId source first →
          Text.trim first.2.text = Text.trim entry.2.text)) ∧
    (∀ id, Source.explicitId? source = some id ↔
      ∃ first, Entries.IsFirst Source.HoldsId source first ∧ ¬Source.IsBlank first.2 ∧
        id = Text.trim first.2.text) ∧
    ∀ (workspace after : Workspace σ) (result : Record),
      (record options index fields source).runFrom workspace = (.ok result, after) →
        result.Identified index source workspace.intake.ids after.intake.ids := by
  refine ⟨fun entry hmem hholds hblank => ⟨?_, ?_⟩, fun id => ?_,
    fun workspace after result h => ?_⟩
  · exact Source.isSome_explicitId?_iff hsorted hmem hholds
  · exact Source.explicitId?_eq_trim_iff hsorted hmem hholds hblank
  · exact Source.explicitId?_eq_some_iff hsorted
  · exact identified_of_record h

theorem takes_first_id_of_label :
    Source.explicitId? [("Book.id", .str " 7 "), ("id", .str "x")] = some "7" := by
  have hsorted : Entries.Sorted [("Book.id", Json.str " 7 "), ("id", .str "x")] := by decide
  have h := (takes_first_id (σ := MemoryStore) .standard "i" [] hsorted).2.1 "7"
  refine h.mpr ⟨("Book.id", .str " 7 "), ⟨?_, ?_, ?_⟩, ?_, ?_⟩
  · exact List.mem_cons_self
  · exact Or.inr ⟨"Book", rfl⟩
  · simp
  · decide
  · decide

/-- A blank id before another one hides it, also where the other stands under `id` itself. -/
theorem not_takes_id :
    ¬∀ source : Json.Members, Entries.Sorted source →
      ∀ entry ∈ source, Source.HoldsId entry.1 → ¬Source.IsBlank entry.2 →
        (Source.explicitId? source).isSome ∧
          (entry.1 = "id" → Source.explicitId? source = some (Text.trim entry.2.text)) := by
  intro h
  have hsorted : Entries.Sorted [("a.id", Json.str ""), ("id", .str "x")] := by decide
  obtain ⟨hsome, -⟩ := h _ hsorted ("id", .str "x") (by simp) (Or.inl rfl) (by decide)
  exact absurd hsome (by decide)

end Ingest

end HybridSearch
