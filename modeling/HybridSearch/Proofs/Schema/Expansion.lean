import HybridSearch.Proofs.Schema.Attributes

/-!
# What declared fields are stored as

A field is stored as an attribute of its own name, and a vector as the text under its name and the
vector beside it. Fields of different names may clash all the same, where one has the name under
which the vector of another is stored; then the field that is declared first has its attribute.

## Main definitions

* `Field.own`, `Field.vector` — the attribute under the name of a field, and that for its vector.
* `Attribute.IsSole` — the attribute is the only one of its name.
* `Field.IsExpanded` — a field has the attributes that its type calls for.

## Main results

* `Attribute.mem_names_compile_iff` — the names of attributes are those of fields and their vectors.
* `Attribute.filter_compile` — of the attributes of one name the first stays.
* `Attribute.compile_expands` — what is left of each field, and when all of them are expanded.
* `Attribute.not_compile_expands` — two fields that clash.
-/

namespace HybridSearch

/-- The kind of the attribute under the name of a field; that of a vector is for its source. -/
def FieldType.kind : FieldType → AttributeKind
  | text => .text
  | tag => .tag
  | numeric => .numeric
  | vector => .text

theorem FieldType.kind_ne_vector (type : FieldType) (space : VectorSpace) :
    type.kind ≠ .vector space := by
  cases type <;> simp [kind]

theorem Key.vectorAttribute_injective : Function.Injective vectorAttribute :=
  fun _ _ h => String.append_left_inj _ |>.mp h

theorem Key.vectorAttribute_ne (name : String) : vectorAttribute name ≠ name := by
  intro h
  simpa [vectorAttribute, vectorEnding] using congrArg String.length h

/-! ### The attributes of one field -/

namespace Field

variable {space : VectorSpace} {field : Field} {a : Attribute}

def own (field : Field) : Attribute := ⟨field.name, field.type.kind, field.sortable⟩

def vector (space : VectorSpace) (field : Field) : Attribute :=
  ⟨Key.vectorAttribute field.name, .vector space, false⟩

@[simp] theorem name_own (field : Field) : field.own.name = field.name := rfl

@[simp] theorem name_vector (space : VectorSpace) (field : Field) :
    (field.vector space).name = Key.vectorAttribute field.name :=
  rfl

theorem attributes_eq (space : VectorSpace) (field : Field) :
    field.attributes space =
      field.own :: if field.type = .vector then [field.vector space] else [] := by
  obtain ⟨name, type, sortable⟩ := field
  cases type <;> rfl

theorem mem_attributes_iff :
    a ∈ field.attributes space ↔ a = field.own ∨ field.type = .vector ∧ a = field.vector space := by
  rw [attributes_eq]
  by_cases hvector : field.type = .vector <;> simp [hvector]

/-- The attributes of one field never clash. -/
theorem find?_attributes (h : a ∈ field.attributes space) :
    (field.attributes space).find? (fun b => b.name = a.name) = some a := by
  rw [attributes_eq]
  rcases mem_attributes_iff.mp h with rfl | ⟨hvector, rfl⟩
  · simp
  · simp [hvector, (Key.vectorAttribute_ne field.name).symm]

end Field

/-! ### The first of a name -/

namespace Attribute

variable {attributes : List Attribute} {a b : Attribute}

/-- The attribute is there, and no other of its name. -/
def IsSole (attributes : List Attribute) (a : Attribute) : Prop :=
  attributes.filter (fun b => b.name = a.name) = [a]

theorem IsSole.unique (ha : IsSole attributes a) (hb : IsSole attributes b)
    (hname : a.name = b.name) : a = b := by
  rw [IsSole, hname, hb] at ha
  exact (List.cons.inj ha).1.symm

theorem filter_eq_find?_toList (h : (attributes.map name).Nodup) (n : String) :
    attributes.filter (fun a => a.name = n) =
      (attributes.find? fun a => a.name = n).toList := by
  induction attributes with
  | nil => rfl
  | cons a attributes ih =>
    obtain ⟨hnew, hrest⟩ := List.nodup_cons.mp h
    by_cases ha : a.name = n
    · have hnone : attributes.filter (fun b => b.name = n) = [] := by
        rw [List.filter_eq_nil_iff]
        rintro b hb hname
        exact hnew (List.mem_map.mpr ⟨b, hb, (of_decide_eq_true hname).trans ha.symm⟩)
      simp [ha, hnone]
    · simp [ha, ih hrest]

/-- An attribute that is not added is not the first of its name. -/
theorem find?_addNew_append (attributes : List Attribute) (new : Attribute)
    (rest : List Attribute) (n : String) :
    (addNew attributes new ++ rest).find? (fun a => a.name = n) =
      (attributes ++ new :: rest).find? fun a => a.name = n := by
  rw [addNew]
  split
  · rename_i hold
    by_cases hnew : new.name = n
    · have hsome : (attributes.find? fun a => a.name = n).isSome := by
        simpa [hnew] using hold
      rw [List.find?_append, List.find?_append, Option.or_of_isSome hsome,
        Option.or_of_isSome hsome]
    · simp [List.find?_append, hnew]
  · simp

theorem filter_foldl_addNew (h : (attributes.map name).Nodup) (new : List Attribute)
    (n : String) :
    (new.foldl addNew attributes).filter (fun a => a.name = n) =
      ((attributes ++ new).find? fun a => a.name = n).toList := by
  induction new generalizing attributes with
  | nil => simpa using filter_eq_find?_toList h n
  | cons a new ih => rw [List.foldl_cons, ih (nodup_addNew h a), find?_addNew_append]

/-- **The first attribute of a name stays**, and no other of that name. -/
theorem filter_compile (space : VectorSpace) (fields : List Field) (n : String) :
    (compile space fields).filter (fun a => a.name = n) =
      ((fields.flatMap (Field.attributes space)).find? fun a => a.name = n).toList := by
  have hnil : (([] : List Attribute).map name).Nodup := List.nodup_nil
  exact filter_foldl_addNew hnil _ n

/-- The names of the attributes are those of the fields and of their vectors. -/
theorem mem_names_compile_iff (space : VectorSpace) (fields : List Field) (n : String) :
    n ∈ (compile space fields).map name ↔
      ∃ field ∈ fields,
        n = field.name ∨ field.type = .vector ∧ n = Key.vectorAttribute field.name := by
  have hfilter : n ∈ (compile space fields).map name ↔
      (compile space fields).filter (fun a => a.name = n) ≠ [] := by
    simp [List.filter_eq_nil_iff]
  have hfind : ((fields.flatMap (Field.attributes space)).find? fun a => a.name = n).toList ≠ [] ↔
      ∃ a ∈ fields.flatMap (Field.attributes space), a.name = n := by
    rw [ne_eq, Option.toList_eq_nil_iff, ← ne_eq, Option.ne_none_iff_isSome, List.find?_isSome]
    simp
  rw [hfilter, filter_compile, hfind]
  simp only [List.mem_flatMap, Field.mem_attributes_iff]
  constructor
  · rintro ⟨_, ⟨field, hfield, rfl | ⟨hvector, rfl⟩⟩, rfl⟩
    · exact ⟨field, hfield, Or.inl rfl⟩
    · exact ⟨field, hfield, Or.inr ⟨hvector, rfl⟩⟩
  · rintro ⟨field, hfield, rfl | ⟨hvector, rfl⟩⟩
    · exact ⟨field.own, ⟨field, hfield, Or.inl rfl⟩, rfl⟩
    · exact ⟨field.vector space, ⟨field, hfield, Or.inr ⟨hvector, rfl⟩⟩, rfl⟩

/-! ### Fields of different names -/

variable {space : VectorSpace} {before after : List Field} {field other : Field}

/-- An attribute stays if none of that name is declared before. -/
theorem isSole_compile (ha : a ∈ field.attributes space)
    (hbefore : ∀ earlier ∈ before, ∀ b ∈ earlier.attributes space, b.name ≠ a.name) :
    IsSole (compile space (before ++ field :: after)) a := by
  have hnone : (before.flatMap (Field.attributes space)).find? (fun b => b.name = a.name) = none := by
    simpa [List.find?_eq_none] using hbefore
  rw [IsSole, filter_compile, List.flatMap_append, List.flatMap_cons, List.find?_append, hnone,
    Option.none_or, List.find?_append, Field.find?_attributes ha, Option.some_or, Option.toList_some]

theorem isSole_own (hnames : ∀ earlier ∈ before, earlier.name ≠ field.name)
    (hvectors : ∀ earlier ∈ before, earlier.type = .vector →
      Key.vectorAttribute earlier.name ≠ field.name) :
    IsSole (compile space (before ++ field :: after)) field.own := by
  refine isSole_compile (Field.mem_attributes_iff.mpr (Or.inl rfl)) fun earlier hearlier b hb => ?_
  rcases Field.mem_attributes_iff.mp hb with rfl | ⟨hvector, rfl⟩
  · exact hnames earlier hearlier
  · exact hvectors earlier hearlier hvector

theorem isSole_vector (hfield : field.type = .vector)
    (hnames : ∀ earlier ∈ before, earlier.name ≠ field.name)
    (hvectors : ∀ earlier ∈ before, earlier.name ≠ Key.vectorAttribute field.name) :
    IsSole (compile space (before ++ field :: after)) (field.vector space) := by
  refine isSole_compile (Field.mem_attributes_iff.mpr (Or.inr ⟨hfield, rfl⟩))
    fun earlier hearlier b hb => ?_
  rcases Field.mem_attributes_iff.mp hb with rfl | ⟨-, rfl⟩
  · exact hvectors earlier hearlier
  · exact fun hname => hnames earlier hearlier (Key.vectorAttribute_injective hname)

/-- Where the declared names are different, those before a field are not its own. -/
theorem name_ne_of_nodup (hnodup : ((before ++ field :: after).map Field.name).Nodup) :
    ∀ earlier ∈ before, earlier.name ≠ field.name := by
  rw [List.map_append, List.nodup_append] at hnodup
  exact fun earlier hearlier =>
    hnodup.2.2 _ (List.mem_map_of_mem hearlier) _ (List.mem_map_of_mem List.mem_cons_self)

end Attribute

/-! ### Expanded fields -/

/-- There is one attribute of the name of the field and it is of its kind, and for a vector there is
one more, which holds the vector. -/
def Field.IsExpanded (space : VectorSpace) (attributes : List Attribute) (field : Field) : Prop :=
  (∃ a, Attribute.IsSole attributes a ∧ a.name = field.name ∧ a.kind = field.type.kind) ∧
    (field.type = .vector → ∃ a, Attribute.IsSole attributes a ∧
      a.name = Key.vectorAttribute field.name ∧ a.kind = .vector space)

namespace Attribute

variable {space : VectorSpace} {fields before after : List Field} {field other : Field}

/-- A field under whose name a vector is stored is not expanded together with that vector. -/
theorem not_isExpanded_of_clash {attributes : List Attribute} (hvector : field.type = .vector)
    (hname : Key.vectorAttribute field.name = other.name)
    (hfield : field.IsExpanded space attributes) : ¬other.IsExpanded space attributes := by
  rintro ⟨⟨a, ha, haname, hakind⟩, -⟩
  obtain ⟨b, hb, hbname, hbkind⟩ := hfield.2 hvector
  obtain rfl := ha.unique hb (haname.trans (hname.symm.trans hbname.symm))
  exact other.type.kind_ne_vector space (hakind.symm.trans hbkind)

/-- The vector of a field that is declared before has the name of a later field. -/
theorem isSole_vector_of_clash (hnodup : ((before ++ field :: after).map Field.name).Nodup)
    (hother : other ∈ before) (hvector : other.type = .vector)
    (hname : Key.vectorAttribute other.name = field.name) :
    IsSole (compile space (before ++ field :: after)) (other.vector space) := by
  have hnames := name_ne_of_nodup hnodup
  obtain ⟨first, between, rfl⟩ := List.append_of_mem hother
  rw [List.append_assoc, List.cons_append] at hnodup ⊢
  refine isSole_vector hvector (name_ne_of_nodup hnodup) fun earlier hearlier => ?_
  rw [hname]
  exact hnames earlier (List.mem_append_left _ hearlier)

/-- A field that is declared before has the name of the vector of a later field. -/
theorem isSole_own_of_clash (hnodup : ((before ++ field :: after).map Field.name).Nodup)
    (hother : other ∈ before) (hname : other.name = Key.vectorAttribute field.name) :
    IsSole (compile space (before ++ field :: after)) other.own := by
  have hnames := name_ne_of_nodup hnodup
  obtain ⟨first, between, rfl⟩ := List.append_of_mem hother
  rw [List.append_assoc, List.cons_append] at hnodup ⊢
  refine isSole_own (name_ne_of_nodup hnodup) fun earlier hearlier _ hclash => ?_
  have hsame : earlier.name = field.name := Key.vectorAttribute_injective (hclash.trans hname)
  exact hnames earlier (List.mem_append_left _ hearlier) hsame

/-- **What declared fields are stored as.** Fields of different names have one attribute under each
name, and vectors one more each. The attribute under the name of a field is its own, unless a vector
declared before it is stored under that name; the attribute for the vector of a field holds it,
unless a field declared before it has that name. So all fields are expanded if and only if none has
the name under which the vector of one is stored. -/
theorem compile_expands (space : VectorSpace) (hnodup : (fields.map Field.name).Nodup) :
    (∀ before field after, fields = before ++ field :: after →
      ((∀ other ∈ before, other.type = .vector → Key.vectorAttribute other.name ≠ field.name) →
          IsSole (compile space fields) field.own) ∧
        (∀ other ∈ before, other.type = .vector → Key.vectorAttribute other.name = field.name →
          IsSole (compile space fields) (other.vector space)) ∧
        (field.type = .vector →
          ((∀ other ∈ before, other.name ≠ Key.vectorAttribute field.name) →
              IsSole (compile space fields) (field.vector space)) ∧
            ∀ other ∈ before, other.name = Key.vectorAttribute field.name →
              IsSole (compile space fields) other.own)) ∧
      ((∀ field ∈ fields, field.IsExpanded space (compile space fields)) ↔
        ∀ field ∈ fields, field.type = .vector →
          Key.vectorAttribute field.name ∉ fields.map Field.name) := by
  refine ⟨?_, ?_, ?_⟩
  · rintro before field after rfl
    have hnames := name_ne_of_nodup hnodup
    refine ⟨isSole_own hnames, fun other => isSole_vector_of_clash hnodup, fun hvector => ?_⟩
    exact ⟨isSole_vector hvector hnames, fun other => isSole_own_of_clash hnodup⟩
  · intro hexpanded field hfield hvector hclash
    obtain ⟨other, hother, hname⟩ := List.mem_map.mp hclash
    exact not_isExpanded_of_clash hvector hname.symm (hexpanded field hfield)
      (hexpanded other hother)
  · intro hapart field hfield
    obtain ⟨before, after, rfl⟩ := List.append_of_mem hfield
    have hnames := name_ne_of_nodup hnodup
    refine ⟨⟨field.own, isSole_own hnames fun other hother hvector hname => ?_, rfl, rfl⟩,
      fun hvector => ⟨field.vector space, isSole_vector hvector hnames fun other hother hname => ?_,
        rfl, rfl⟩⟩
    · refine hapart other (List.mem_append_left _ hother) hvector ?_
      rw [hname]
      exact List.mem_map_of_mem hfield
    · refine hapart field hfield hvector ?_
      rw [← hname]
      exact List.mem_map_of_mem (List.mem_append_left _ hother)

private def vectorField : Field := ⟨"e", .vector, false⟩

private def tagField : Field := ⟨"t", .tag, true⟩

private def clashingField : Field := ⟨"e_vec", .tag, false⟩

/-- A vector and a tag that do not clash. -/
theorem compile_expands_of_two :
    (([vectorField, tagField].map Field.name).Nodup ∧
      ∀ field ∈ [vectorField, tagField],
        field.IsExpanded ⟨2, .l2⟩ (compile ⟨2, .l2⟩ [vectorField, tagField])) ∧
      ([vectorField, clashingField].map Field.name).Nodup ∧
        IsSole (compile ⟨2, .l2⟩ [vectorField, clashingField]) (vectorField.vector ⟨2, .l2⟩) := by
  have hapart : ([vectorField, tagField].map Field.name).Nodup := by decide
  have hclash : ([vectorField, clashingField].map Field.name).Nodup := by decide
  refine ⟨⟨hapart, (compile_expands ⟨2, .l2⟩ hapart).2.mpr (by decide)⟩, hclash, ?_⟩
  exact ((compile_expands ⟨2, .l2⟩ hclash).1 [vectorField] clashingField [] rfl).2.1 vectorField
    (List.mem_singleton_self _) rfl rfl

/-- A field has the name under which the vector of another is stored, so one of them gives way. -/
theorem not_compile_expands :
    ¬∀ (space : VectorSpace) (fields : List Field), (fields.map Field.name).Nodup →
      ∀ field ∈ fields, field.IsExpanded space (compile space fields) := by
  intro hall
  have hexpanded := hall ⟨2, .l2⟩ [vectorField, clashingField] (by decide)
  exact not_isExpanded_of_clash rfl rfl (hexpanded vectorField (by simp))
    (hexpanded clashingField (by simp))

end Attribute

end HybridSearch
