import HybridSearch.CommandLine.Spec
import HybridSearch.Proofs.Attempt
import HybridSearch.Proofs.Text.Split
import HybridSearch.Proofs.Text.Trim

/-!
# How fields are written

A field is written as its name, its name and type, or its name and type with a flag, with colons
between them. The reader takes all texts of these forms and gives the fields they stand for. It also
takes a text that goes on after the flag, and reads it as if it ended there.

## Main definitions

* `Field.IsWritten` — the texts that stand for a field.

## Main results

* `Field.isRead_iff` — the texts that the reader takes.
* `Field.not_isRead_iff` — a text that is none of a field.
-/

namespace HybridSearch.Field

/-- A name in a specification. -/
structure IsName (name : String) : Prop where
  colon_notMem : ':' ∉ name.toList
  not_blank : ¬Text.IsBlankText name

/-- The text stands for the field. -/
inductive IsWritten : String → Field → Prop
  | named {name : String} (hname : IsName name) :
      IsWritten name ⟨Text.trim name, .text, false⟩
  | typed {name type : String} (hname : IsName name) (htype : ':' ∉ type.toList) :
      IsWritten (name ++ ":" ++ type) ⟨Text.trim name, .ofDeclared type, false⟩
  | flagged {name type flag : String} (hname : IsName name) (htype : ':' ∉ type.toList)
      (hflag : Text.lowerAscii flag = "sortable") :
      IsWritten (name ++ ":" ++ type ++ ":" ++ flag) ⟨Text.trim name, .ofDeclared type, true⟩

variable {spec name type flag : String} {rest : List String} {field : Field}

theorem isFlag_iff : Text.sameWord flag "sortable" = true ↔ Text.lowerAscii flag = "sortable" := by
  have hword : Text.lowerAscii "sortable" = "sortable" := by decide
  rw [Text.sameWord, beq_iff_eq, hword]

/-- A flag has no colon, as there is none in its lowercase. -/
theorem colon_notMem_flag (h : Text.lowerAscii flag = "sortable") : ':' ∉ flag.toList := by
  intro hmem
  have hlower : ':' ∈ (Text.lowerAscii flag).toList := by
    rw [Text.lowerAscii, String.toList_ofList]
    exact List.mem_map_of_mem hmem
  rw [h] at hlower
  exact absurd hlower (by decide)

theorem ofDeclared_default : FieldType.ofDeclared "TEXT" = .text := by decide

/-! ### The reader -/

theorem sortableOfFlag?_eq_ok_iff {flag? : Option String} {sortable : Bool} :
    sortableOfFlag? spec flag? = .ok sortable ↔
      (∀ flag ∈ flag?, Text.lowerAscii flag = "sortable") ∧ sortable = flag?.isSome := by
  cases flag? with
  | none => simp [sortableOfFlag?, eq_comm]
  | some flag =>
    rw [sortableOfFlag?]
    split
    · rename_i hflag
      simp [isFlag_iff.mp hflag, eq_comm]
    · rename_i hflag
      simp [mt isFlag_iff.mpr hflag]

/-- The reader looks at a name, a type and a flag. -/
theorem ofSpec?_of_split (hsplit : Text.split ':' spec = name :: rest) :
    ofSpec? spec =
      if (Text.trim name).isEmpty then .error ("field needs a name: " ++ spec)
      else (sortableOfFlag? spec rest[1]?).map fun sortable =>
        ⟨Text.trim name, .ofDeclared (rest[0]?.getD "TEXT"), sortable⟩ := by
  rw [ofSpec?, hsplit]
  by_cases hblank : (Text.trim name).isEmpty = true
  · rw [if_pos hblank]
    exact if_pos hblank
  · rw [if_neg hblank]
    refine (if_neg hblank).trans ?_
    cases hflag : sortableOfFlag? spec rest[1]? with
    | error message => exact congrArg (Except.bind · _) hflag
    | ok sortable => exact congrArg (Except.bind · _) hflag

/-- What is read of a text with given parts. -/
theorem ofSpec?_eq_ok_of_split (hsplit : Text.split ':' spec = name :: rest) :
    ofSpec? spec = .ok field ↔ ¬Text.IsBlankText name ∧
      (∀ flag ∈ rest[1]?, Text.lowerAscii flag = "sortable") ∧
        field = ⟨Text.trim name, .ofDeclared (rest[0]?.getD "TEXT"), rest[1]?.isSome⟩ := by
  rw [ofSpec?_of_split hsplit, ← Text.isEmpty_trim]
  split
  · rename_i hblank
    exact iff_of_false nofun fun h => h.1 hblank
  · rename_i hblank
    rw [Attempt.except_map_eq_ok, and_iff_right hblank]
    simp only [sortableOfFlag?_eq_ok_iff]
    constructor
    · rintro ⟨_, ⟨hflag, rfl⟩, rfl⟩
      exact ⟨hflag, rfl⟩
    · rintro ⟨hflag, rfl⟩
      exact ⟨_, ⟨hflag, rfl⟩, rfl⟩

/-! ### Forms -/

theorem split_colon (left right : String) :
    Text.split ':' (left ++ ":" ++ right) = Text.split ':' left ++ Text.split ':' right :=
  Text.split_append rfl left right

theorem split_typed (hname : IsName name) (htype : ':' ∉ type.toList) :
    Text.split ':' (name ++ ":" ++ type) = [name, type] := by
  rw [split_colon, Text.split_of_not_mem hname.colon_notMem, Text.split_of_not_mem htype]
  rfl

theorem split_flagged (hname : IsName name) (htype : ':' ∉ type.toList)
    (hflag : Text.lowerAscii flag = "sortable") :
    Text.split ':' (name ++ ":" ++ type ++ ":" ++ flag) = [name, type, flag] := by
  rw [split_colon, split_colon, Text.split_of_not_mem hname.colon_notMem,
    Text.split_of_not_mem htype, Text.split_of_not_mem (colon_notMem_flag hflag)]
  rfl

theorem IsWritten.length_split_le (h : IsWritten spec field) :
    (Text.split ':' spec).length ≤ 3 := by
  cases h with
  | named hname => simp [Text.split_of_not_mem hname.colon_notMem]
  | typed hname htype => simp [split_typed hname htype]
  | flagged hname htype hflag => simp [split_flagged hname htype hflag]

/-- A text with a flag is read, whatever comes after the flag. -/
theorem ofSpec?_of_flag (hname : IsName name) (hflag : Text.lowerAscii flag = "sortable")
    (hsplit : Text.split ':' spec = name :: type :: flag :: rest) :
    ofSpec? spec = .ok ⟨Text.trim name, .ofDeclared type, true⟩ := by
  refine (ofSpec?_eq_ok_of_split hsplit).mpr ⟨hname.not_blank, ?_, rfl⟩
  rintro _ ⟨⟩
  exact hflag

theorem IsWritten.ofSpec?_eq_ok (h : IsWritten spec field) : ofSpec? spec = .ok field := by
  cases h with
  | named hname =>
    have hsplit := Text.split_of_not_mem hname.colon_notMem
    refine (ofSpec?_eq_ok_of_split hsplit).mpr ⟨hname.not_blank, nofun, ?_⟩
    rw [← ofDeclared_default]
    rfl
  | typed hname htype =>
    exact (ofSpec?_eq_ok_of_split (split_typed hname htype)).mpr ⟨hname.not_blank, nofun, rfl⟩
  | flagged hname htype hflag => exact ofSpec?_of_flag hname hflag (split_flagged hname htype hflag)

theorem IsWritten.ofSpec?_append (h : IsWritten spec field) (hsortable : field.sortable = true)
    (more : String) : ofSpec? (spec ++ ":" ++ more) = .ok field := by
  cases h with
  | named => cases hsortable
  | typed => cases hsortable
  | @flagged name type flag hname htype hflag =>
    have hsplit : Text.split ':' (name ++ ":" ++ type ++ ":" ++ flag ++ ":" ++ more) =
        name :: type :: flag :: Text.split ':' more := by
      rw [split_colon, split_flagged hname htype hflag]
      rfl
    exact ofSpec?_of_flag hname hflag hsplit

/-- Parts that are accepted stand for a field, up to a flag. -/
theorem isWritten_of_parts (hname : IsName name) (hrest : ∀ part ∈ rest, ':' ∉ part.toList)
    (hflag : ∀ flag ∈ rest[1]?, Text.lowerAscii flag = "sortable") :
    IsWritten (Text.joined ":" (name :: rest.take 2))
      ⟨Text.trim name, .ofDeclared (rest[0]?.getD "TEXT"), rest[1]?.isSome⟩ := by
  match rest with
  | [] =>
    have hnamed := IsWritten.named hname
    rwa [← ofDeclared_default] at hnamed
  | [type] => exact .typed hname (hrest type (List.mem_singleton_self type))
  | type :: flag :: more =>
    have hflagged := IsWritten.flagged hname (hrest type List.mem_cons_self) (hflag flag rfl)
    have hjoined : name ++ ":" ++ type ++ ":" ++ flag = Text.joined ":" [name, type, flag] := by
      simp only [Text.joined, String.append_assoc]
    rw [hjoined] at hflagged
    exact hflagged

/-- **Which texts are read as fields:** those that are written as one, and those that go on after
the flag of one. -/
theorem isRead_iff (spec : String) (field : Field) :
    ofSpec? spec = .ok field ↔ IsWritten spec field ∨
      ∃ start more, spec = start ++ ":" ++ more ∧ IsWritten start field ∧
        field.sortable = true := by
  constructor
  · intro h
    obtain ⟨name, rest, hsplit⟩ := List.exists_cons_of_ne_nil (Text.split_ne_nil ':' spec)
    obtain ⟨hblank, hflag, rfl⟩ := (ofSpec?_eq_ok_of_split hsplit).mp h
    have hcolon : ":".toList = [':'] := rfl
    obtain ⟨-, hparts, rfl⟩ := (Text.split_eq_iff hcolon).mp hsplit
    obtain ⟨hname, hrest⟩ := List.forall_mem_cons.mp hparts
    have hwritten := isWritten_of_parts ⟨hname, hblank⟩ hrest hflag
    by_cases hmore : rest.drop 2 = []
    · rw [List.take_of_length_le (List.drop_eq_nil_iff.mp hmore)] at hwritten
      exact Or.inl hwritten
    · have hlength : 1 < rest.length :=
        Nat.lt_of_succ_lt (Nat.lt_of_not_le (mt List.drop_eq_nil_iff.mpr hmore))
      refine Or.inr ⟨_, Text.joined ":" (rest.drop 2), ?_, hwritten, ?_⟩
      · rw [← Text.joined_append _ (List.cons_ne_nil _ _) hmore, List.cons_append,
          List.take_append_drop]
      · rw [List.getElem?_eq_getElem hlength, Option.isSome_some]
  · rintro (h | ⟨start, more, rfl, h, hsortable⟩)
    · exact h.ofSpec?_eq_ok
    · exact h.ofSpec?_append hsortable more

/-- A text is read as a field that is not written as one. -/
theorem not_isRead_iff :
    ¬∀ (spec : String) (field : Field), ofSpec? spec = .ok field ↔ IsWritten spec field := by
  intro h
  have hread : ofSpec? "a:TAG:sortable:x" = .ok ⟨"a", .tag, true⟩ := by decide
  have hshort := ((h _ _).mp hread).length_split_le
  revert hshort
  decide

end HybridSearch.Field
