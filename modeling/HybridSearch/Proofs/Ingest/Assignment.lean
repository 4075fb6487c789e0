import HybridSearch.Proofs.Ingest.Values
import HybridSearch.Proofs.Text.Affix

/-!
# From a row to the fields of its record

Every attribute but that of the id takes the first value of the row, in the order of the keys, that
stands under its name, points of a key being read as two underscores; a vector attribute takes the
value under its name without the ending. The values are made in the order of the attributes, each
from what the ones before it left of the gateway, and the first that cannot be made is what the row
is refused for.

## Main definitions

* `Field.LooksUp` — the name that an attribute takes its value from.
* `Source.Takes` — an attribute takes a value of the row.
* `Source.Assigns` — the attributes that the row has values for, with these.
* `Source.endings` — how the values of attributes end, each after those before it.

## Main results

* `Source.find?_eq_some_iff` — what is found under the name of an attribute is what it takes.
* `Source.exists_assigns` — the values of a row are made from what its attributes take.
* `Record.ofSource_assigns` — the fields of a record, and what a row is refused for.
-/

namespace HybridSearch

/-! ### Names -/

/-- The name that an attribute takes its value from. -/
inductive Field.LooksUp (field : Field) : String → Prop
  | own (htype : field.type ≠ .vector) : LooksUp field field.name
  | embedded {name : String} (htype : field.type = .vector)
      (hname : field.name = Key.vectorAttribute name) : LooksUp field name
  | bare (htype : field.type = .vector) (hname : ∀ name, field.name ≠ Key.vectorAttribute name) :
      LooksUp field field.name

namespace Source

variable {options : CoercionOptions} {source : Json.Members} {fields : FieldSet} {field : Field}

theorem looksUp_iff {name : String} : field.LooksUp name ↔ wanted field = name := by
  have hnone (h : ∀ name, field.name ≠ Key.vectorAttribute name) :
      Text.endsWith? Key.vectorEnding field.name = none :=
    Option.eq_none_iff_forall_ne_some.mpr fun name hname => h name (Text.endsWith?_eq_some.mp hname)
  constructor
  · intro h
    cases h with
    | own htype => exact wanted_of_ne_vector htype
    | embedded htype hname =>
      rw [wanted, htype, Text.endsWith?_eq_some.mpr hname]
      rfl
    | bare htype hname =>
      rw [wanted, htype, hnone hname]
      rfl
  · rintro rfl
    by_cases htype : field.type = .vector
    · by_cases hname : ∃ name, field.name = Key.vectorAttribute name
      · obtain ⟨name, hname⟩ := hname
        rw [wanted, htype, Text.endsWith?_eq_some.mpr hname]
        exact .embedded htype hname
      · rw [wanted, htype, hnone (not_exists.mp hname)]
        exact .bare htype (not_exists.mp hname)
    · rw [wanted_of_ne_vector htype]
      exact .own htype

instance (field : Field) (name : String) : Decidable (field.LooksUp name) :=
  decidable_of_iff _ looksUp_iff.symm

/-! ### What attributes take -/

/-- An attribute takes the first value that stands under its name. -/
def Takes (source : Json.Members) (field : Field) (raw : Json) : Prop :=
  ∃ key, Entries.IsFirst (fun key => field.LooksUp (Key.ofSource key)) source (key, raw)

/-- The row has a value for an attribute other than that of the id. -/
def IsGiven (source : Json.Members) (field : Field) : Prop :=
  field.name ≠ Key.idAttribute ∧ ∃ key ∈ Entries.keys source, field.LooksUp (Key.ofSource key)

instance (source : Json.Members) (field : Field) : Decidable (IsGiven source field) :=
  inferInstanceAs (Decidable (_ ∧ _))

theorem find?_eq_some_iff (hsorted : Entries.Sorted source) {raw : Json} :
    find? source (wanted field) = some raw ↔ Takes source field raw := by
  have hkey (key : String) :
      (Key.ofSource key == wanted field) = true ↔ field.LooksUp (Key.ofSource key) :=
    beq_iff_eq.trans (eq_comm.trans looksUp_iff.symm)
  rw [find?, Option.map_eq_some_iff]
  constructor
  · rintro ⟨⟨key, _⟩, hfind, rfl⟩
    exact ⟨key, (Entries.find?_eq_some_iff hkey hsorted).mp hfind⟩
  · rintro ⟨key, hfirst⟩
    exact ⟨(key, raw), (Entries.find?_eq_some_iff hkey hsorted).mpr hfirst, rfl⟩

theorem find?_eq_none_iff :
    find? source (wanted field) = none ↔
      ¬∃ key ∈ Entries.keys source, field.LooksUp (Key.ofSource key) := by
  rw [find?, Option.map_eq_none_iff, List.find?_eq_none]
  constructor
  · rintro h ⟨_, hmem, hlooksUp⟩
    obtain ⟨entry, hentry, rfl⟩ := List.mem_map.mp hmem
    exact h entry hentry (beq_iff_eq.mpr (looksUp_iff.mp hlooksUp).symm)
  · intro h entry hentry heq
    exact h ⟨entry.1, List.mem_map_of_mem hentry, looksUp_iff.mpr (beq_iff_eq.mp heq).symm⟩

/-- The attributes that the row has values for, in their order, with the values they take. -/
structure Assigns (source : Json.Members) (fields : FieldSet) (taken : List (Field × Json)) :
    Prop where
  attributes : taken.map Prod.fst = fields.filter fun field => IsGiven source field
  takes : ∀ pair ∈ taken, Takes source pair.1 pair.2

theorem assigns_nil {taken : List (Field × Json)} : Assigns source [] taken ↔ taken = [] := by
  constructor
  · intro h
    exact List.map_eq_nil_iff.mp h.attributes
  · rintro rfl
    exact ⟨rfl, nofun⟩

theorem assigns_cons_of_not_isGiven {taken : List (Field × Json)} (h : ¬IsGiven source field) :
    Assigns source (field :: fields) taken ↔ Assigns source fields taken := by
  have hfilter : ((field :: fields).filter fun field => IsGiven source field) =
      fields.filter fun field => IsGiven source field :=
    List.filter_cons_of_neg (by simpa using h)
  constructor
  · intro hassigns
    exact ⟨hassigns.attributes.trans hfilter, hassigns.takes⟩
  · intro hassigns
    exact ⟨hassigns.attributes.trans hfilter.symm, hassigns.takes⟩

theorem assigns_cons_of_isGiven {taken : List (Field × Json)} (h : IsGiven source field) :
    Assigns source (field :: fields) taken ↔
      ∃ raw rest, taken = (field, raw) :: rest ∧ Takes source field raw ∧
        Assigns source fields rest := by
  have hfilter : ((field :: fields).filter fun field => IsGiven source field) =
      field :: fields.filter fun field => IsGiven source field :=
    List.filter_cons_of_pos (by simpa using h)
  constructor
  · rintro ⟨hattributes, htakes⟩
    rw [hfilter, List.map_eq_cons_iff] at hattributes
    obtain ⟨⟨_, raw⟩, rest, rfl, rfl, hrest⟩ := hattributes
    obtain ⟨hhead, htail⟩ := List.forall_mem_cons.mp htakes
    exact ⟨raw, rest, rfl, hhead, hrest, htail⟩
  · rintro ⟨raw, rest, rfl, hhead, hrest⟩
    refine ⟨?_, List.forall_mem_cons.mpr ⟨hhead, hrest.takes⟩⟩
    rw [hfilter, List.map_cons, hrest.attributes]

/-! ### How values end -/

/-- How the value of an attribute ends, and what is left of the gateway. -/
def ending (options : CoercionOptions) (gateway : Gateway) (field : Field) (raw : Json) :
    Except IngestError FieldValue × Gateway :=
  match field.type with
  | .vector =>
    let (result, after) := (Gateway.embed (.ofJson raw)).runFrom gateway
    ((result.mapError IngestError.search).map FieldValue.vector, after)
  | type => (Coercion.coerce options field.name type raw, gateway)

theorem runFrom_value (field : Field) (raw : Json) (gateway : Gateway) :
    (value options field raw).runFrom gateway = ending options gateway field raw := by
  by_cases htype : field.type = .vector
  · rw [value, ending, htype]
    exact Attempt.runFrom_map _ _ _
  · rw [value_of_ne_vector htype, ending]
    split
    · rename_i hvector
      exact absurd hvector htype
    · rfl

/-- How the values of attributes end, each after those before it. -/
def endings (options : CoercionOptions) :
    Gateway → List (Field × Json) → List (Except IngestError (String × FieldValue))
  | _, [] => []
  | gateway, (field, raw) :: rest =>
    let (result, after) := ending options gateway field raw
    result.map (field.name, ·) :: endings options after rest

theorem endings_cons (gateway : Gateway) (field : Field) (raw : Json) (rest : List (Field × Json)) :
    endings options gateway ((field, raw) :: rest) =
      (ending options gateway field raw).1.map (field.name, ·) ::
        endings options (ending options gateway field raw).2 rest :=
  rfl

/-- **The values of a row** are made from what its attributes take. -/
theorem exists_assigns (options : CoercionOptions) (fields : FieldSet)
    (hsorted : Entries.Sorted source) :
    ∃ taken, (∀ other, Assigns source fields other ↔ other = taken) ∧
      ∀ gateway, ((values options source fields).runFrom gateway).1 =
        (endings options gateway taken).mapM id := by
  induction fields with
  | nil => exact ⟨[], fun other => assigns_nil, fun gateway => rfl⟩
  | cons field fields ih =>
    obtain ⟨taken, hunique, hvalues⟩ := ih
    by_cases hgiven : IsGiven source field
    · obtain ⟨hid, hkey⟩ := hgiven
      cases hfind : find? source (wanted field) with
      | none => exact absurd hkey (find?_eq_none_iff.mp hfind)
      | some raw =>
        have htakes {other : Json} : Takes source field other ↔ other = raw := by
          rw [← find?_eq_some_iff hsorted, hfind, Option.some_inj, eq_comm]
        refine ⟨(field, raw) :: taken, fun other => ?_, fun gateway => ?_⟩
        · rw [assigns_cons_of_isGiven ⟨hid, hkey⟩]
          simp only [htakes, hunique]
          constructor
          · rintro ⟨_, _, rfl, rfl, rfl⟩
            rfl
          · rintro rfl
            exact ⟨raw, taken, rfl, rfl, rfl⟩
        · rw [values, if_neg hid, hfind, endings_cons, List.mapM_cons, Attempt.runFrom_bind,
            runFrom_value]
          rcases ending options gateway field raw with ⟨cause | result, after⟩
          · rfl
          · dsimp only
            rw [Attempt.runFrom_bind, ← hvalues after]
            rcases (values options source fields).runFrom after with ⟨_ | _, _⟩ <;> rfl
    · refine ⟨taken, fun other => (assigns_cons_of_not_isGiven hgiven).trans (hunique other),
        fun gateway => ?_⟩
      rw [← hvalues gateway, values]
      split
      · rfl
      · rename_i hid
        rw [find?_eq_none_iff.mpr fun hkey => hgiven ⟨hid, hkey⟩]

end Source

namespace Record

/-- A row is refused for what its values are refused for. -/
theorem fst_runFrom_ofSource_eq_error {options : CoercionOptions} {index : String}
    {fields : FieldSet} {source : Json.Members} {intake : Intake} {cause : IngestError} :
    ((ofSource options index fields source).runFrom intake).1 = .error cause ↔
      ((Source.values options source fields).runFrom intake.gateway).1 = .error cause := by
  rw [ofSource, Attempt.runFrom_bind, Attempt.runFrom_within]
  rcases (Source.values options source fields).runFrom intake.gateway with ⟨_ | values, after⟩
  · constructor <;> rintro ⟨⟩ <;> rfl
  · cases Source.explicitId? source <;> exact iff_of_false nofun nofun

/-- **A record is the declared mapping of its row.** Its fields are those of the attributes that the
row has values for, in their order and made from what these take, and the id as the last. The row is
refused for the first value that cannot be made. -/
theorem ofSource_assigns (options : CoercionOptions) (index : String) (fields : FieldSet)
    {source : Json.Members} (hsorted : Entries.Sorted source) (intake : Intake) :
    ∃ taken, (∀ other, Source.Assigns source fields other ↔ other = taken) ∧
      (∀ record after,
        (ofSource options index fields source).runFrom intake = (.ok record, after) →
          record.key = Key.record index record.id ∧
            ∃ made, Source.endings options intake.gateway taken = made.map .ok ∧
              record.fields = made ++ [(Key.idAttribute, .text record.id)]) ∧
      ∀ cause,
        ((ofSource options index fields source).runFrom intake).1 = .error cause ↔
          ∃ (made : List (String × FieldValue))
            (rest : List (Except IngestError (String × FieldValue))),
            Source.endings options intake.gateway taken = made.map .ok ++ .error cause :: rest := by
  obtain ⟨taken, hunique, hvalues⟩ := Source.exists_assigns options fields hsorted
  refine ⟨taken, hunique, fun record after h => ?_, fun cause => ?_⟩
  · obtain ⟨made, between, hmade, hrecord⟩ := of_ofSource h
    have hended := (hvalues intake.gateway).symm.trans (congrArg Prod.fst hmade)
    refine ⟨by rw [hrecord]; rfl, made, Attempt.mapM_id_eq_ok.mp hended, ?_⟩
    rw [hrecord]
    rfl
  · rw [← Attempt.mapM_id_eq_error, ← hvalues]
    exact fst_runFrom_ofSource_eq_error

/-- Of two keys that are read as one name the first counts. -/
theorem ofSource_assigns_of_two_keys :
    Source.Assigns [("a.b", .str "1"), ("a__b", .str "2")] [⟨"a__b", .text, false⟩]
        [(⟨"a__b", .text, false⟩, .str "1")] ∧
      ¬Source.Assigns [("a.b", .str "1"), ("a__b", .str "2")] [⟨"a__b", .text, false⟩]
        [(⟨"a__b", .text, false⟩, .str "2")] := by
  have hsorted : Entries.Sorted [("a.b", Json.str "1"), ("a__b", .str "2")] := by decide
  obtain ⟨taken, hunique, -, -⟩ :=
    ofSource_assigns .standard "i" [⟨"a__b", .text, false⟩] hsorted
      ⟨.ofLoader (fun _ => .ok (.trigram 1)) 1, ⟨toString, 0⟩⟩
  have hfirst : Source.Assigns [("a.b", .str "1"), ("a__b", .str "2")] [⟨"a__b", .text, false⟩]
      [(⟨"a__b", .text, false⟩, .str "1")] := by
    refine ⟨by decide, ?_⟩
    simp only [List.forall_mem_singleton]
    refine ⟨"a.b", List.mem_cons_self, by decide, ?_⟩
    simp
  refine ⟨hfirst, fun hsecond => ?_⟩
  have hsame := ((hunique _).mp hsecond).trans ((hunique _).mp hfirst).symm
  exact absurd hsame (by simp)

end Record

end HybridSearch
