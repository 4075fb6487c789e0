import HybridSearch.Proofs.Schema.Attributes
import HybridSearch.Proofs.Schema.Key
import HybridSearch.Proofs.Text.Utf8
import HybridSearch.Server.Command
import Mathlib.Data.List.Induction

/-!
# What commands tell

The attributes of an index stand in a command one after the other, with nothing between them, and an
attribute may be named like any word of the command. They are told apart from the right: the last
argument of an attribute is never its name. The parts of a search begin with words of their own and
say how many arguments they have, so they are told apart from the left.

## Main definitions

* `Attribute.IsTold` — an attribute of which a command leaves nothing out.
* `Command.counted` — arguments behind a word and their number.

## Main results

* `Command.append_attributeArguments_inj` — the arguments of an attribute behind any others.
* `Command.eq_of_flatMap_attributeArguments` — the arguments of many attributes.
* `Command.search_eq` — the parts of a search.
* `Command.loses_nothing` — definitions, attributes and queries are told by their commands.
-/

namespace HybridSearch

theorem Metric.name_injective : Function.Injective Metric.name := by
  intro metric metric' h
  cases metric <;> cases metric' <;> simp [Metric.name] at h ⊢

/-- Only what is no vector is sortable: that of a vector is not told. -/
def Attribute.IsTold (a : Attribute) : Prop :=
  Command.isVectorKind a.kind = true → a.sortable = false

theorem Attribute.Coherent.isTold {space : VectorSpace} {attributes : List Attribute}
    (h : Coherent space attributes) : ∀ a ∈ attributes, a.IsTold := by
  intro a ha hvector
  cases hkind : a.kind with
  | vector s => exact (h.isShadow a ha s hkind).2.1
  | text | tag | numeric =>
    rw [hkind] at hvector
    cases hvector

namespace Command

@[simp] theorem ofTexts_inj {left right : List String} :
    ofTexts left = ofTexts right ↔ left = right :=
  List.map_inj_right fun _ _ => Text.encode_inj.mp

/-- A number is told by its digits. -/
theorem toString_injective : Function.Injective (toString : Nat → String) := by
  intro m n h
  rw [Nat.toString_eq_ofList_toDigits, Nat.toString_eq_ofList_toDigits, String.ofList_inj] at h
  have hdigits := congrArg (fun digits => Nat.ofDigitChars 10 digits 0) h
  simpa using hdigits

/-! ### Attributes -/

/-- The last of the arguments that say what an attribute holds. -/
def lastArgument : AttributeKind → String
  | .text => "TEXT"
  | .tag => "TAG"
  | .numeric => "NUMERIC"
  | .vector space => space.metric.name

theorem getLast?_append_kindArguments (before : List String) (kind : AttributeKind) :
    (before ++ kindArguments kind).getLast? = some (lastArgument kind) := by
  rw [List.getLast?_append]
  cases kind <;> rfl

theorem lastArgument_ne (kind : AttributeKind) : lastArgument kind ≠ "SORTABLE" := by
  cases kind with
  | vector space => cases hmetric : space.metric <;> simp [lastArgument, hmetric, Metric.name]
  | text | tag | numeric => decide

/-- The last argument tells a vector from what is none, and so how many arguments there are. -/
theorem length_kindArguments {kind kind' : AttributeKind}
    (h : lastArgument kind = lastArgument kind') :
    (kindArguments kind).length = (kindArguments kind').length := by
  have hvector (space : VectorSpace) :
      lastArgument (.vector space) ∉ ["TEXT", "TAG", "NUMERIC"] := by
    cases hmetric : space.metric <;> simp [lastArgument, hmetric, Metric.name]
  cases kind with
  | vector space =>
    cases kind' with
    | vector space' => rfl
    | text | tag | numeric => exact absurd (h ▸ hvector space) (by simp [lastArgument])
  | text | tag | numeric =>
    cases kind' with
    | vector space' => exact absurd (h ▸ hvector space') (by simp [lastArgument])
    | text | tag | numeric => rfl

theorem kindArguments_injective : Function.Injective kindArguments := by
  intro kind kind' h
  cases kind with
  | vector space =>
    cases kind' with
    | vector space' =>
      simp only [kindArguments, List.cons.injEq, true_and, and_true] at h
      rw [AttributeKind.vector.injEq, VectorSpace.mk.injEq]
      exact ⟨toString_injective h.1, Metric.name_injective h.2⟩
    | text | tag | numeric => simp [kindArguments] at h
  | text | tag | numeric => cases kind' <;> simp [kindArguments] at h ⊢

theorem append_kindArguments_inj {before before' : List String} {kind kind' : AttributeKind}
    (h : before ++ kindArguments kind = before' ++ kindArguments kind') :
    before = before' ∧ kind = kind' := by
  have hlast := congrArg List.getLast? h
  rw [getLast?_append_kindArguments, getLast?_append_kindArguments, Option.some.injEq] at hlast
  obtain ⟨hbefore, hkind⟩ := List.append_inj' h (length_kindArguments hlast)
  exact ⟨hbefore, kindArguments_injective hkind⟩

/-- A name and a kind behind other arguments: read from the right, the kind ends where the name
stands. -/
theorem append_name_kindArguments_inj {before before' : List String} {name name' : String}
    {kind kind' : AttributeKind}
    (h : before ++ name :: kindArguments kind = before' ++ name' :: kindArguments kind') :
    before = before' ∧ name = name' ∧ kind = kind' := by
  rw [List.append_cons, List.append_cons before'] at h
  obtain ⟨hbefore, hkind⟩ := append_kindArguments_inj h
  obtain ⟨hbefore, hname⟩ := List.append_inj' hbefore rfl
  exact ⟨hbefore, List.singleton_injective hname, hkind⟩

theorem attributeArguments_of_isTold {a : Attribute} (h : a.IsTold) :
    attributeArguments a =
      a.name :: kindArguments a.kind ++ if a.sortable then ["SORTABLE"] else [] := by
  rw [attributeArguments]
  cases hvector : isVectorKind a.kind with
  | false => rw [Bool.not_false, Bool.and_true]
  | true => rw [h hvector, Bool.false_and]

theorem getLast?_append_flag (before : List String) (a : Attribute) (sortable : Bool) :
    (before ++ a.name :: kindArguments a.kind ++
        if sortable then ["SORTABLE"] else []).getLast? = some "SORTABLE" ↔ sortable = true := by
  cases sortable with
  | true => exact iff_of_true List.getLast?_concat rfl
  | false =>
    refine iff_of_false (fun h => ?_) Bool.false_ne_true
    rw [if_neg Bool.false_ne_true, List.append_nil, List.append_cons,
      getLast?_append_kindArguments] at h
    exact lastArgument_ne a.kind (Option.some.inj h)

/-- **The arguments of an attribute behind any others** tell the attribute and the others. The word
for a sortable attribute is the last argument of no other attribute, though it may be the name of
one. -/
theorem append_attributeArguments_inj {before before' : List String} {a b : Attribute}
    (ha : a.IsTold) (hb : b.IsTold)
    (h : before ++ attributeArguments a = before' ++ attributeArguments b) :
    before = before' ∧ a = b := by
  rw [attributeArguments_of_isTold ha, attributeArguments_of_isTold hb, ← List.append_assoc,
    ← List.append_assoc] at h
  have hsortable : a.sortable = b.sortable := by
    rw [Bool.eq_iff_iff, ← getLast?_append_flag before, h, getLast?_append_flag before']
  rw [hsortable] at h
  obtain ⟨hbefore, hname, hkind⟩ := append_name_kindArguments_inj (List.append_cancel_right h)
  obtain ⟨name, kind, sortable⟩ := a
  obtain ⟨name', kind', sortable'⟩ := b
  exact ⟨hbefore, by rw [Attribute.mk.injEq]; exact ⟨hname, hkind, hsortable⟩⟩

theorem attributeArguments_ne_nil (a : Attribute) : attributeArguments a ≠ [] :=
  List.cons_ne_nil _ _

/-- Attributes are told by their arguments, from the last to the first. -/
theorem eq_of_flatMap_attributeArguments {as bs : List Attribute} (has : ∀ a ∈ as, a.IsTold)
    (hbs : ∀ b ∈ bs, b.IsTold)
    (h : as.flatMap attributeArguments = bs.flatMap attributeArguments) : as = bs := by
  induction as using List.reverseRecOn generalizing bs with
  | nil =>
    cases bs with
    | nil => rfl
    | cons b bs =>
      rw [List.flatMap_nil, List.flatMap_cons] at h
      exact absurd h.symm (List.append_ne_nil_of_left_ne_nil (attributeArguments_ne_nil b) _)
  | append_singleton as a ih =>
    rcases List.eq_nil_or_concat' bs with rfl | ⟨bs, b, rfl⟩
    · rw [List.flatMap_append, List.flatMap_singleton, List.flatMap_nil] at h
      exact absurd h (List.append_ne_nil_of_right_ne_nil _ (attributeArguments_ne_nil a))
    · rw [List.flatMap_append, List.flatMap_append, List.flatMap_singleton,
        List.flatMap_singleton] at h
      obtain ⟨hbefore, rfl⟩ := append_attributeArguments_inj
        (has a (List.mem_append_right _ (List.mem_singleton_self a)))
        (hbs b (List.mem_append_right _ (List.mem_singleton_self b))) h
      rw [ih (fun a ha => has a (List.mem_append_left _ ha))
        (fun b hb => hbs b (List.mem_append_left _ hb)) hbefore]

theorem eq_of_createIndex_eq {definition definition' : IndexDefinition}
    (hdefinition : ∀ a ∈ definition.attributes, a.IsTold)
    (hdefinition' : ∀ a ∈ definition'.attributes, a.IsTold)
    (h : createIndex definition = createIndex definition') : definition = definition' := by
  obtain ⟨hhead, hattributes⟩ := List.append_inj (ofTexts_inj.mp h) rfl
  simp only [List.cons.injEq, true_and, and_true] at hhead
  obtain ⟨name, keySpace, attributes⟩ := definition
  obtain ⟨name', keySpace', attributes'⟩ := definition'
  rw [IndexDefinition.mk.injEq]
  exact ⟨Key.ofIndex_injective hhead.1, hhead.2,
    eq_of_flatMap_attributeArguments hdefinition hdefinition' hattributes⟩

theorem eq_of_alterIndex_eq {index index' : String} {attributes attributes' : List Attribute}
    (hattributes : ∀ a ∈ attributes, a.IsTold) (hattributes' : ∀ a ∈ attributes', a.IsTold)
    (h : alterIndex index attributes = alterIndex index' attributes') :
    index = index' ∧ attributes = attributes' := by
  obtain ⟨hhead, hflat⟩ := List.append_inj (ofTexts_inj.mp h) rfl
  simp only [List.cons.injEq, true_and, and_true] at hhead
  exact ⟨Key.ofIndex_injective hhead,
    eq_of_flatMap_attributeArguments hattributes hattributes' hflat⟩

/-! ### Searches -/

/-- Arguments behind a word and their number; nothing if there are no arguments. -/
def counted (word : String) (arguments : Command) : Command :=
  if arguments.isEmpty then []
  else Text.encode word :: Text.encode (toString arguments.length) :: arguments

/-- A name before each value. -/
def alternating (params : List (String × Bytes)) : Command :=
  params.flatMap fun param => [Text.encode param.1, param.2]

theorem length_alternating (params : List (String × Bytes)) :
    (alternating params).length = params.length * 2 := by
  induction params with
  | nil => rfl
  | cons param params ih =>
    have hlength : (param :: params).length = params.length + 1 := rfl
    rw [alternating, List.flatMap_cons, List.length_append, ← alternating, ih, hlength, Nat.succ_mul,
      Nat.add_comm]
    rfl

theorem alternating_injective : Function.Injective alternating := by
  intro params params' h
  induction params generalizing params' with
  | nil =>
    cases params' with
    | nil => rfl
    | cons param' params' => cases h
  | cons param params ih =>
    cases params' with
    | nil => cases h
    | cons param' params' =>
      obtain ⟨hname, hrest⟩ := List.cons.inj h
      obtain ⟨hvalue, hrest⟩ := List.cons.inj hrest
      rw [Prod.ext (Text.encode_inj.mp hname) hvalue, ih hrest]

theorem ofTexts_returnArguments (fields : List String) :
    ofTexts (returnArguments fields) = counted "RETURN" (ofTexts fields) := by
  cases fields with
  | nil => rfl
  | cons field fields =>
    rw [returnArguments, if_neg (by simp), counted, if_neg (by simp [ofTexts]), ofTexts,
      List.map_cons, List.map_cons, ofTexts, List.length_map]

theorem paramArguments_eq (params : List (String × Bytes)) :
    paramArguments params = counted "PARAMS" (alternating params) := by
  cases params with
  | nil => rfl
  | cons param params =>
    rw [paramArguments, if_neg (by simp), counted, if_neg (by simp [alternating]),
      length_alternating]
    rfl

/-- **The parts of a search.** The number behind `RETURN` and that behind `PARAMS` is the number of
arguments that belong to the word. -/
theorem search_eq (index : String) (query : Query) :
    search index query =
      ofTexts ["FT.SEARCH", Key.ofIndex index, query.text] ++
        (counted "RETURN" (ofTexts query.returnFields) ++ (ofTexts (sortArguments query.sortBy) ++
          (counted "PARAMS" (alternating query.params) ++
            ofTexts ["LIMIT", "0", toString query.limit, "DIALECT", toString Query.dialect]))) := by
  rw [← ofTexts_returnArguments, ← paramArguments_eq, search]
  simp only [ofTexts, List.map_append, List.append_assoc]

variable {word : String} {arguments arguments' rest rest' : Command}

/-- A part that may be missing is told from what follows if that does not begin with its word. -/
theorem counted_append_inj (hrest : rest.head? ≠ some (Text.encode word))
    (hrest' : rest'.head? ≠ some (Text.encode word))
    (h : counted word arguments ++ rest = counted word arguments' ++ rest') :
    arguments = arguments' ∧ rest = rest' := by
  cases arguments with
  | nil =>
    cases arguments' with
    | nil => exact ⟨rfl, h⟩
    | cons argument' arguments' => exact absurd (congrArg List.head? h) hrest
  | cons argument arguments =>
    cases arguments' with
    | nil => exact absurd (congrArg List.head? h.symm) hrest'
    | cons argument' arguments' =>
      obtain ⟨hcount, hrest⟩ := List.cons.inj (List.cons.inj h).2
      exact List.append_inj hrest (toString_injective (Text.encode_inj.mp hcount))

theorem sortArguments_append_inj {sort sort' : Option SortBy}
    (hrest : rest.head? ≠ some (Text.encode "SORTBY"))
    (hrest' : rest'.head? ≠ some (Text.encode "SORTBY"))
    (h : ofTexts (sortArguments sort) ++ rest = ofTexts (sortArguments sort') ++ rest') :
    sort = sort' ∧ rest = rest' := by
  cases sort with
  | none =>
    cases sort' with
    | none => exact ⟨rfl, h⟩
    | some sort' => exact absurd (congrArg List.head? h) hrest
  | some sort =>
    cases sort' with
    | none => exact absurd (congrArg List.head? h.symm) hrest'
    | some sort' =>
      obtain ⟨hsort, hrest⟩ := List.append_inj h rfl
      simp only [ofTexts_inj, sortArguments, List.cons.injEq, true_and, and_true] at hsort
      obtain ⟨field, ascending⟩ := sort
      obtain ⟨field', ascending'⟩ := sort'
      have hascending : ascending = ascending' := by
        cases ascending <;> cases ascending' <;> simp at hsort ⊢
      rw [show field = field' from hsort.1, hascending]
      exact ⟨rfl, hrest⟩

theorem head?_bound_ne (hparams : word ≠ "PARAMS") (hlimit : word ≠ "LIMIT") (more : List String) :
    (counted "PARAMS" arguments ++ ofTexts ("LIMIT" :: more)).head? ≠ some (Text.encode word) := by
  rw [counted]
  split
  · exact fun h => hlimit (Text.encode_inj.mp (Option.some.inj h)).symm
  · exact fun h => hparams (Text.encode_inj.mp (Option.some.inj h)).symm

theorem head?_sorted_ne (hsort : word ≠ "SORTBY") (hrest : rest.head? ≠ some (Text.encode word))
    (sort : Option SortBy) :
    (ofTexts (sortArguments sort) ++ rest).head? ≠ some (Text.encode word) := by
  cases sort with
  | none => exact hrest
  | some sort => exact fun h => hsort (Text.encode_inj.mp (Option.some.inj h)).symm

/-- A search is told by its command, from the first part to the last. -/
theorem search_inj {index index' : String} {query query' : Query} :
    search index query = search index' query' ↔
      index = index' ∧ query.text = query'.text ∧ query.returnFields = query'.returnFields ∧
        query.sortBy = query'.sortBy ∧ query.params = query'.params ∧
          query.limit = query'.limit := by
  constructor
  · intro h
    rw [search_eq, search_eq] at h
    obtain ⟨hhead, h⟩ := List.append_inj h rfl
    obtain ⟨hreturn, h⟩ := counted_append_inj
      (head?_sorted_ne (by decide) (head?_bound_ne (by decide) (by decide) _) _)
      (head?_sorted_ne (by decide) (head?_bound_ne (by decide) (by decide) _) _) h
    obtain ⟨hsort, h⟩ := sortArguments_append_inj (head?_bound_ne (by decide) (by decide) _)
      (head?_bound_ne (by decide) (by decide) _) h
    have hlimit (more : List String) :
        (ofTexts ("LIMIT" :: more)).head? ≠ some (Text.encode "PARAMS") :=
      fun h => absurd (Text.encode_inj.mp (Option.some.inj h)) (by decide)
    obtain ⟨hparams, h⟩ := counted_append_inj (hlimit _) (hlimit _) h
    simp only [ofTexts_inj, List.cons.injEq, true_and, and_true] at hhead h
    exact ⟨Key.ofIndex_injective hhead.1, hhead.2, ofTexts_inj.mp hreturn, hsort,
      alternating_injective hparams, toString_injective h⟩
  · rintro ⟨rfl, htext, hreturn, hsort, hparams, hlimit⟩
    rw [search_eq, search_eq, htext, hreturn, hsort, hparams, hlimit]

/-- **Commands lose nothing.** Equal commands that make an index are of equal definitions, equal
commands that add attributes are of equal attributes for one index, and equal searches are of one
index and agree in the text of the query, the projection, the order, the parameters and the limit.
In a search the number behind `RETURN` and that behind `PARAMS` count the arguments that belong to
the word. -/
theorem loses_nothing :
    (∀ (index index' : String) (space space' : VectorSpace) (fields fields' : List Field),
      createIndex (.compile index space fields) = createIndex (.compile index' space' fields') ↔
        IndexDefinition.compile index space fields = .compile index' space' fields') ∧
    (∀ (index index' : String) (space space' : VectorSpace) (fields fields' : List Field),
      alterIndex index (Attribute.compile space fields) =
          alterIndex index' (Attribute.compile space' fields') ↔
        index = index' ∧ Attribute.compile space fields = Attribute.compile space' fields') ∧
    (∀ (index index' : String) (query query' : Query),
      search index query = search index' query' ↔
        index = index' ∧ query.text = query'.text ∧ query.returnFields = query'.returnFields ∧
          query.sortBy = query'.sortBy ∧ query.params = query'.params ∧
            query.limit = query'.limit) ∧
    ∀ (index : String) (query : Query),
      search index query =
        ofTexts ["FT.SEARCH", Key.ofIndex index, query.text] ++
          (counted "RETURN" (ofTexts query.returnFields) ++
            (ofTexts (sortArguments query.sortBy) ++
              (counted "PARAMS" (alternating query.params) ++
                ofTexts ["LIMIT", "0", toString query.limit, "DIALECT",
                  toString Query.dialect]))) := by
  refine ⟨fun index index' space space' fields fields' => ?_,
    fun index index' space space' fields fields' => ?_, fun _ _ _ _ => search_inj, search_eq⟩
  · have hcreated (index : String) (space : VectorSpace) (fields : List Field) :=
      (IndexDefinition.wellFormed_compile index space fields).coherent.isTold
    exact ⟨eq_of_createIndex_eq (hcreated index space fields) (hcreated index' space' fields'),
      congrArg createIndex⟩
  · have hadded (space : VectorSpace) (fields : List Field) :=
      (Attribute.coherent_compile space fields).isTold
    refine ⟨eq_of_alterIndex_eq (hadded space fields) (hadded space' fields'), ?_⟩
    rintro ⟨rfl, hattributes⟩
    rw [hattributes]

end Command

end HybridSearch
