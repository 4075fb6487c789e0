import HybridSearch.Query.Escape

/-!
# Reading what is escaped

In a query a backslash takes from the character after it whatever meaning it has. What is left of a
text are its operators: the characters that are neither plain nor behind a backslash.

## Main definitions

* `Escape.IsLiteral` — a text of plain characters and of characters behind backslashes.
* `Escape.operators` — the characters of a text that mean something.

## Main results

* `Escape.isLiteral_text` — what is written for a text is literal.
* `Escape.IsLiteral.operators_eq_nil` — a literal text has no operators.
* `Escape.operators_append_cons` — a plain character parts the operators before it from those after.
-/

namespace HybridSearch.Escape

/-- A text of plain characters and of characters behind backslashes. -/
inductive IsLiteral (plain : Char → Bool) : List Char → Prop
  | nil : IsLiteral plain []
  | plain {c : Char} {rest : List Char} (hc : plain c = true) (hrest : IsLiteral plain rest) :
      IsLiteral plain (c :: rest)
  | escaped (c : Char) {rest : List Char} (hrest : IsLiteral plain rest) :
      IsLiteral plain ('\\' :: c :: rest)

/-- The characters that are neither plain nor behind a backslash. -/
def operators (plain : Char → Bool) : List Char → List Char
  | [] => []
  | '\\' :: _ :: rest => operators plain rest
  | c :: rest =>
    if plain c || c == '\\' then operators plain rest else c :: operators plain rest

variable {plain : Char → Bool}

theorem isLiteral_escapeChars (text : List Char) : IsLiteral plain (escapeChars plain text) := by
  induction text with
  | nil => exact .nil
  | cons c text ih =>
    rw [escapeChars, List.flatMap_cons]
    split
    · rename_i hc
      exact .plain hc ih
    · exact .escaped c ih

theorem isLiteral_tag (value : String) : IsLiteral isTagChar (tag value).toList := by
  rw [tag, String.toList_ofList]
  exact isLiteral_escapeChars _

/-- What is written for a text is literal. -/
theorem isLiteral_text (value : String) : IsLiteral isTextChar (text value).toList := by
  rw [text, String.toList_ofList]
  exact isLiteral_escapeChars _

theorem operators_escaped (c : Char) (rest : List Char) :
    operators plain ('\\' :: c :: rest) = operators plain rest := by
  rw [operators]

theorem operators_cons_of_ne {c : Char} (hc : c ≠ '\\') (rest : List Char) :
    operators plain (c :: rest) =
      if plain c then operators plain rest else c :: operators plain rest := by
  rw [operators]
  · simp [hc]
  · rintro _ _ rfl
    exact absurd rfl hc

theorem ne_backslash {c : Char} (hplain : plain '\\' = false) (hc : plain c = true) : c ≠ '\\' := by
  rintro rfl
  rw [hplain] at hc
  cases hc

/-- A literal text has no operators. -/
theorem IsLiteral.operators_eq_nil (hplain : plain '\\' = false) {text : List Char}
    (h : IsLiteral plain text) : operators plain text = [] := by
  induction h with
  | nil => rfl
  | @plain c rest hc hrest ih =>
    rw [operators_cons_of_ne (ne_backslash hplain hc), if_pos hc, ih]
  | escaped c hrest ih => rw [operators_escaped, ih]

/-- A plain character parts the operators before it from those after it, even behind a backslash. -/
theorem operators_append_cons {c : Char} (hplain : plain c = true) (hc : c ≠ '\\')
    (before after : List Char) :
    operators plain (before ++ c :: after) = operators plain before ++ operators plain after := by
  fun_induction operators plain before with
  | case1 => rw [List.nil_append, operators_cons_of_ne hc, if_pos hplain, List.nil_append]
  | case2 other rest ih => rw [List.cons_append, List.cons_append, operators_escaped, ih]
  | case3 other rest hpair hplain' ih =>
    by_cases hother : other = '\\'
    · -- the last character is a backslash, which takes the plain one with it
      have hrest : rest = [] := by
        cases rest with
        | nil => rfl
        | cons next rest => exact absurd rfl (hpair next rest hother)
      subst hother hrest
      rw [List.singleton_append, operators_escaped]
      rfl
    · rw [List.cons_append, operators_cons_of_ne hother, if_pos (by simpa [hother] using hplain'),
        ih]
  | case4 other rest hpair hplain' ih =>
    have hnot : ¬plain other = true ∧ other ≠ '\\' := by simpa using hplain'
    rw [List.cons_append, operators_cons_of_ne hnot.2, if_neg hnot.1, ih, List.cons_append]

end HybridSearch.Escape
