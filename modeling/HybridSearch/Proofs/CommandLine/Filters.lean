import HybridSearch.CommandLine.Spec
import HybridSearch.Proofs.Attempt
import HybridSearch.Proofs.Search.Shape
import HybridSearch.Proofs.Store.Lookup
import HybridSearch.Proofs.Text.Split

/-!
# Filters on a command line

A filter is written as a name and a value with an equals sign between them. The value may hold
further equals signs and blanks; the blanks around the name do not count. A search takes one filter
for each name. Of several on one name it takes the last, and an earlier one has a say only if it
asks for the same.

## Main definitions

* `Filter.IsOn` — the texts that are filters on a key.
* `Filter.IsLast` — the value of the last filter on a key.
* `Filter.Asks` — what a filter on a declared field asks for.

## Main results

* `Predicate.mem_iff_of_ofFilters` — the predicates of filters.
* `Filter.get?_eq_some_iff` — the filters that are taken from a command line.
* `Filter.constrains_iff` — the filters that a query obeys.
* `Filter.not_constrains` — a filter that it does not obey.
-/

namespace HybridSearch

/-! ### Predicates of filters -/

namespace Predicate

variable {fields : FieldSet} {filters : Json.Members} {predicates : List Predicate}

theorem mem_iff_of_ofFilters (h : ofFilters fields filters = .ok predicates) {p : Predicate} :
    p ∈ predicates ↔ ∃ filter ∈ filters, ∃ field, fields.get? filter.1 = some field ∧
      ofFilter filter.1 field.type filter.2 = .ok p := by
  induction filters generalizing predicates with
  | nil =>
    cases h
    simp
  | cons filter filters ih =>
    rw [ofFilters_cons] at h
    rw [List.exists_mem_cons_iff]
    split at h
    · rename_i field hfield
      obtain ⟨first, hfirst, hfilters⟩ := Attempt.except_bind_eq_ok.mp h
      obtain ⟨rest, hrest, rfl⟩ := Attempt.except_map_eq_ok.mp hfilters
      simp [ih hrest, hfield, hfirst, eq_comm (a := p)]
    · rename_i hfield
      simp [ih h, hfield]

/-- Where filters become predicates together, each on a declared field becomes one. -/
theorem exists_of_ofFilters (h : ofFilters fields filters = .ok predicates) {key : String}
    {value : Json} {field : Field} (hmem : (key, value) ∈ filters)
    (hfield : fields.get? key = some field) :
    ∃ p ∈ predicates, ofFilter key field.type value = .ok p := by
  rcases ofFilters_cases fields filters with ⟨-, details, hbad⟩ | ⟨hgood, -⟩
  · cases hbad.symm.trans h
  rcases ofFilter_cases key field.type value with ⟨hbad, -⟩ | ⟨-, p, hp, -⟩
  · exact absurd ⟨(key, value), hmem, field, hfield, hbad⟩ hgood
  · exact ⟨p, (mem_iff_of_ofFilters h).mpr ⟨(key, value), hmem, field, hfield, hp⟩, hp⟩

theorem field_eq_of_ofFilter {key : String} {type : FieldType} {value : Json} {p : Predicate}
    (h : ofFilter key type value = .ok p) : p.field = key := by
  rcases ofFilter_cases key type value with ⟨-, details, hbad⟩ | ⟨-, other, hother, hfield⟩
  · cases hbad.symm.trans h
  · cases hother.symm.trans h
    exact hfield

theorem nodup_map_field_of_ofFilters (h : ofFilters fields filters = .ok predicates)
    (hsorted : Entries.Sorted filters) : (predicates.map field).Nodup := by
  rcases ofFilters_cases fields filters with ⟨-, details, hbad⟩ | ⟨-, others, hothers, hkeys⟩
  · cases hbad.symm.trans h
  · cases hothers.symm.trans h
    rw [hkeys]
    exact (List.pairwise_map.mpr (hsorted.imp fun hlt => Std.ne_of_lt hlt)).filter _

end Predicate

/-! ### Filters as they are written -/

namespace Filter

/-- The name ends at the first equals sign; without the blanks around it, it is the key. -/
def IsOn (spec key value : String) : Prop :=
  ∃ name, spec = name ++ "=" ++ value ∧ '=' ∉ name.toList ∧ Text.trim name = key

def IsLast (specs : List String) (key value : String) : Prop :=
  ∃ before spec after, specs = before ++ spec :: after ∧ IsOn spec key value ∧
    ∀ later ∈ after, ∀ other, ¬IsOn later key other

/-- The predicate of a filter with this value on a declared field. -/
def Asks (fields : FieldSet) (key value : String) (p : Predicate) : Prop :=
  ∃ field, fields.get? key = some field ∧
    Predicate.ofFilter key field.type (.str value) = .ok p

variable {specs : List String} {spec key value : String} {json : Json} {filters : Json.Members}
  {fields : FieldSet} {predicates : List Predicate}

theorem ofSpec?_eq_ok_iff :
    ofSpec? spec = .ok (key, json) ↔ ∃ value, json = .str value ∧ IsOn spec key value := by
  have hspec {name value : String} :
      Text.cut '=' spec = some (name, value) ↔ spec = name ++ "=" ++ value ∧ '=' ∉ name.toList := by
    rw [Text.cut_eq_some_iff, ← String.toList_inj, String.toList_append, String.toList_append,
      List.append_assoc]
    rfl
  rw [ofSpec?]
  cases hcut : Text.cut '=' spec with
  | none =>
    refine iff_of_false nofun ?_
    rintro ⟨value, -, name, hname, hequals, -⟩
    rw [hspec.mpr ⟨hname, hequals⟩] at hcut
    cases hcut
  | some pair =>
    obtain ⟨name, value⟩ := pair
    simp only [Except.ok.injEq, Prod.mk.injEq]
    constructor
    · rintro ⟨rfl, rfl⟩
      obtain ⟨hname, hequals⟩ := hspec.mp hcut
      exact ⟨value, rfl, name, hname, hequals, rfl⟩
    · rintro ⟨other, rfl, otherName, hname, hequals, rfl⟩
      have hcut' := hspec.mpr ⟨hname, hequals⟩
      obtain ⟨rfl, rfl⟩ := Prod.mk.inj (Option.some.inj (hcut.symm.trans hcut'))
      exact ⟨rfl, rfl⟩

theorem IsOn.ofSpec?_eq_ok (h : IsOn spec key value) : ofSpec? spec = .ok (key, .str value) :=
  ofSpec?_eq_ok_iff.mpr ⟨value, rfl, h⟩

theorem ofSpecs?_eq_ok_iff :
    ofSpecs? specs = .ok filters ↔
      ∃ pairs, specs.map ofSpec? = pairs.map .ok ∧ filters = Entries.ofList pairs := by
  rw [ofSpecs?, Attempt.except_map_eq_ok]
  refine exists_congr fun pairs => and_congr ?_ eq_comm
  rw [← Attempt.mapM_id_eq_ok, List.mapM_map]
  rfl

/-- **Of the filters on a key the last is taken.** -/
theorem get?_eq_some_iff (hread : ofSpecs? specs = .ok filters) :
    Entries.get? filters key = some json ↔ ∃ value, json = .str value ∧ IsLast specs key value := by
  obtain ⟨pairs, hpairs, rfl⟩ := ofSpecs?_eq_ok_iff.mp hread
  rw [Entries.get?_ofList, List.lookup_eq_some_iff]
  constructor
  · rintro ⟨laterPairs, earlierPairs, hsplit, hlater⟩
    have hpairs : specs.map ofSpec? =
        earlierPairs.reverse.map .ok ++ .ok (key, json) :: laterPairs.reverse.map .ok := by
      rw [hpairs, ← pairs.reverse_reverse, hsplit]
      simp
    obtain ⟨before, rest, rfl, -, hrest⟩ := List.map_eq_append_iff.mp hpairs
    obtain ⟨spec, after, rfl, hspec, hafter⟩ := List.map_eq_cons_iff.mp hrest
    obtain ⟨value, rfl, hon⟩ := ofSpec?_eq_ok_iff.mp hspec
    refine ⟨value, rfl, before, spec, after, rfl, hon, fun later hmem other hother => ?_⟩
    have hpair : ofSpec? later ∈ laterPairs.reverse.map .ok := hafter ▸ List.mem_map_of_mem hmem
    rw [hother.ofSpec?_eq_ok] at hpair
    simpa using hlater (key, .str other) (by simpa using hpair)
  · rintro ⟨value, rfl, before, spec, after, rfl, hon, hlater⟩
    rw [List.map_append] at hpairs
    obtain ⟨earlierPairs, rest, rfl, -, hrest⟩ := List.map_eq_append_iff.mp hpairs.symm
    obtain ⟨pair, laterPairs, rfl, hpair, hafter⟩ := List.map_eq_cons_iff.mp hrest
    obtain rfl := Except.ok.inj (hpair.trans hon.ofSpec?_eq_ok)
    refine ⟨laterPairs.reverse, earlierPairs.reverse, by simp, fun other hother => ?_⟩
    have hspec : .ok other ∈ after.map ofSpec? :=
      hafter ▸ List.mem_map_of_mem (List.mem_reverse.mp hother)
    obtain ⟨later, hmem, hread⟩ := List.mem_map.mp hspec
    obtain ⟨value, -, hon⟩ := ofSpec?_eq_ok_iff.mp hread
    simpa using fun hkey : key = other.1 => hlater later hmem value (hkey ▸ hon)

theorem exists_isLast (hmem : spec ∈ specs) (hon : IsOn spec key value) :
    ∃ last, IsLast specs key last := by
  induction specs generalizing spec value with
  | nil => exact absurd hmem List.not_mem_nil
  | cons first rest ih =>
    by_cases hrest : ∃ later ∈ rest, ∃ other, IsOn later key other
    · obtain ⟨later, hlater, other, hother⟩ := hrest
      obtain ⟨last, before, spec, after, rfl, hlast⟩ := ih hlater hother
      exact ⟨last, first :: before, spec, after, rfl, hlast⟩
    · push Not at hrest
      rcases List.mem_cons.mp hmem with rfl | hmem
      · exact ⟨value, [], spec, rest, rfl, hon, hrest⟩
      · exact absurd hon (hrest spec hmem value)

theorem Asks.field_eq {p : Predicate} (h : Asks fields key value p) : p.field = key :=
  have ⟨_, _, hp⟩ := h
  Predicate.field_eq_of_ofFilter hp

/-- **On each declared field the last filter is obeyed, one predicate for each, and an earlier one
only if the predicate of the last is its own as well.** -/
theorem constrains_iff (hread : ofSpecs? specs = .ok filters)
    (hbuilt : Predicate.ofFilters fields filters = .ok predicates) :
    (∀ key last, IsLast specs key last → (fields.get? key).isSome →
      ∃ p ∈ predicates, Asks fields key last p) ∧
    (∀ p ∈ predicates, ∃ key last, IsLast specs key last ∧ Asks fields key last p) ∧
    (predicates.map Predicate.field).Nodup ∧
    ∀ spec ∈ specs, ∀ key value, IsOn spec key value → (fields.get? key).isSome →
      ∃ last p, IsLast specs key last ∧ p ∈ predicates ∧ Asks fields key last p ∧
        ((∃ q ∈ predicates, Asks fields key value q) ↔ Asks fields key value p) := by
  have hsorted : Entries.Sorted filters := by
    obtain ⟨pairs, -, rfl⟩ := ofSpecs?_eq_ok_iff.mp hread
    exact Entries.sorted_ofList pairs
  have hnodup := Predicate.nodup_map_field_of_ofFilters hbuilt hsorted
  have hlasts (key last : String) (hlast : IsLast specs key last)
      (hdeclared : (fields.get? key).isSome) : ∃ p ∈ predicates, Asks fields key last p := by
    obtain ⟨field, hfield⟩ := Option.isSome_iff_exists.mp hdeclared
    have hmem := Entries.mem_of_get? ((get?_eq_some_iff hread).mpr ⟨last, rfl, hlast⟩)
    obtain ⟨p, hp, hvalue⟩ := Predicate.exists_of_ofFilters hbuilt hmem hfield
    exact ⟨p, hp, field, hfield, hvalue⟩
  refine ⟨hlasts, fun p hp => ?_, hnodup, fun spec hspec key value hon hdeclared => ?_⟩
  · obtain ⟨⟨key, json⟩, hmem, field, hfield, hvalue⟩ :=
      (Predicate.mem_iff_of_ofFilters hbuilt).mp hp
    obtain ⟨last, rfl, hlast⟩ := (get?_eq_some_iff hread).mp (Entries.get?_of_mem hsorted hmem)
    exact ⟨key, last, hlast, field, hfield, hvalue⟩
  · obtain ⟨last, hlast⟩ := exists_isLast hspec hon
    obtain ⟨p, hp, hasks⟩ := hlasts key last hlast hdeclared
    refine ⟨last, p, hlast, hp, hasks, ?_, fun hown => ⟨p, hp, hown⟩⟩
    rintro ⟨q, hq, hown⟩
    have hsame : q.field = p.field := hown.field_eq.trans hasks.field_eq.symm
    exact List.inj_on_of_nodup_map hnodup hq hp hsame ▸ hown

/-- Of a filter on a declared field and a later one on the same, only the later is obeyed. -/
theorem constrains_repeated :
    ∃ filters predicates, ofSpecs? ["color=red", " color =blue=green"] = .ok filters ∧
      Predicate.ofFilters [⟨"color", .tag, false⟩] filters = .ok predicates ∧
      (predicates.map Predicate.field).Nodup ∧
      ∃ p ∈ predicates, Asks [⟨"color", .tag, false⟩] "color" "blue=green" p := by
  have hread : ofSpecs? ["color=red", " color =blue=green"] =
      .ok [("color", .str "blue=green")] := by rfl
  have hbuilt : Predicate.ofFilters [⟨"color", .tag, false⟩] [("color", .str "blue=green")] =
      .ok [.tags "color" ["blue=green"]] := by rfl
  obtain ⟨hlast, -, hnodup, -⟩ := constrains_iff hread hbuilt
  refine ⟨_, _, hread, hbuilt, hnodup, hlast "color" "blue=green" ?_ rfl⟩
  exact ⟨["color=red"], " color =blue=green", [], rfl, ⟨" color ", rfl, by decide, by decide⟩,
    by simp⟩

/-- Not every filter on a declared field is obeyed. -/
theorem not_constrains :
    ¬∀ (specs : List String) (fields : FieldSet) (filters : Json.Members)
      (predicates : List Predicate), ofSpecs? specs = .ok filters →
      Predicate.ofFilters fields filters = .ok predicates →
      ∀ spec ∈ specs, ∀ key value, IsOn spec key value → (fields.get? key).isSome →
        ∃ p ∈ predicates, Asks fields key value p := by
  intro h
  have hread : ofSpecs? ["t=1", "t=2"] = .ok [("t", .str "2")] := by rfl
  have hbuilt : Predicate.ofFilters [⟨"t", .tag, false⟩] [("t", .str "2")] =
      .ok [.tags "t" ["2"]] := by rfl
  have hon : IsOn "t=1" "t" "1" := ⟨"t", rfl, by decide, by decide⟩
  obtain ⟨p, hp, field, hfield, hasks⟩ :=
    h _ _ _ _ hread hbuilt "t=1" List.mem_cons_self "t" "1" hon rfl
  obtain rfl := List.mem_singleton.mp hp
  obtain rfl := Option.some.inj hfield
  have hone : Predicate.ofFilter "t" .tag (.str "1") = .ok (.tags "t" ["1"]) := by rfl
  simpa using hone.symm.trans hasks

end Filter

end HybridSearch
