import HybridSearch.Proofs.Search.Escape
import HybridSearch.Proofs.Text.Affix
import HybridSearch.Proofs.Text.Trim
import HybridSearch.Query.Predicate

/-!
# Values in clauses

The values of a filter are escaped, put together with separators, and put between brackets. A query
that reads the clause from left to right finds the bracket that closes it where it was put, and the
values as they were.

## Main definitions

* `Escape.Mark`, `Escape.marks` — the characters of a text, each bare or behind a backslash.
* `Escape.unescape` — a text without these backslashes.
* `Escape.closing?` — the text before and after the first bracket that is not escaped.
* `Predicate.readClause?`, `Predicate.readMembers` — the inside of a clause, and the members that it
  lists.

## Main results

* `Escape.marks_escapeChars` — the characters that are escaped are those that are not plain.
* `Escape.IsLiteral.closing?_append` — a literal text ends at the bracket that closes it.
* `Predicate.readMembers_tags` — the members of a clause are read back.
* `Predicate.clause_keeps_values` — what a clause keeps of its values.
-/

namespace HybridSearch

namespace Escape

/-! ### Bare and escaped characters -/

/-- A character as a query reads it. -/
inductive Mark where
  | bare (c : Char)
  | escaped (c : Char)
  deriving DecidableEq

namespace Mark

def char : Mark → Char
  | bare c => c
  | escaped c => c

def spelling : Mark → List Char
  | bare c => [c]
  | escaped c => ['\\', c]

end Mark

/-- The characters of a text from left to right, each with the backslash before it. -/
def marks : List Char → List Mark
  | [] => []
  | '\\' :: c :: rest => .escaped c :: marks rest
  | c :: rest => .bare c :: marks rest

/-- The text without the backslash of each pair. -/
def unescape (text : String) : String := String.ofList ((marks text.toList).map Mark.char)

variable {plain : Char → Bool} {c : Char}

theorem marks_cons_of_ne (hc : c ≠ '\\') (rest : List Char) :
    marks (c :: rest) = .bare c :: marks rest := by
  rw [marks]
  rintro _ _ rfl
  exact absurd rfl hc

/-- The marks are a reading of the whole text. -/
theorem flatMap_spelling_marks (text : List Char) : (marks text).flatMap Mark.spelling = text := by
  fun_induction marks text with
  | case1 => rfl
  | case2 c rest ih => rw [List.flatMap_cons, ih]; rfl
  | case3 c rest hpair ih => rw [List.flatMap_cons, ih]; rfl

/-- The characters that are escaped are those that are not plain. -/
theorem marks_escapeChars (hplain : plain '\\' = false) (text : List Char) :
    marks (escapeChars plain text) =
      text.map fun c => if plain c then Mark.bare c else Mark.escaped c := by
  induction text with
  | nil => rfl
  | cons c text ih =>
    rw [escapeChars, List.flatMap_cons, ← escapeChars, List.map_cons, ← ih]
    split
    · rename_i hc
      exact marks_cons_of_ne (ne_backslash hplain hc) _
    · rfl

theorem map_char_marks_escapeChars (hplain : plain '\\' = false) (text : List Char) :
    (marks (escapeChars plain text)).map Mark.char = text := by
  rw [marks_escapeChars hplain, List.map_map]
  refine (List.map_congr_left fun c _ => ?_).trans (List.map_id text)
  rw [Function.comp_apply]
  split <;> rfl

/-! ### Literal texts -/

namespace IsLiteral

variable {text left right : List Char}

theorem append (hleft : IsLiteral plain left) (hright : IsLiteral plain right) :
    IsLiteral plain (left ++ right) := by
  induction hleft with
  | nil => exact hright
  | plain hc _ ih => exact .plain hc ih
  | escaped c _ ih => exact .escaped c ih

theorem mono {other : Char → Bool} (h : IsLiteral plain text)
    (hmono : ∀ c, plain c = true → other c = true) : IsLiteral other text := by
  induction h with
  | nil => exact .nil
  | plain hc _ ih => exact .plain (hmono _ hc) ih
  | escaped c _ ih => exact .escaped c ih

/-- No backslash at the end of a literal text takes a character of what follows. -/
theorem marks_append (hplain : plain '\\' = false) (h : IsLiteral plain text) (rest : List Char) :
    marks (text ++ rest) = marks text ++ marks rest := by
  induction h with
  | nil => rfl
  | @plain c text hc _ ih =>
    have hne := ne_backslash hplain hc
    rw [List.cons_append, marks_cons_of_ne hne, marks_cons_of_ne hne, ih, List.cons_append]
  | escaped c _ ih => exact congrArg (Mark.escaped c :: ·) ih

theorem plain_of_mem_marks (hplain : plain '\\' = false) (h : IsLiteral plain text)
    (hmem : Mark.bare c ∈ marks text) : plain c = true := by
  induction h with
  | nil => cases hmem
  | @plain other text hother _ ih =>
    rw [marks_cons_of_ne (ne_backslash hplain hother), List.mem_cons] at hmem
    rcases hmem with heq | hmem
    · cases heq
      exact hother
    · exact ih hmem
  | escaped other _ ih =>
    rcases List.mem_cons.mp hmem with heq | hmem
    · cases heq
    · exact ih hmem

end IsLiteral

/-! ### Closing brackets -/

/-- What stands before and after the first bracket that is not escaped. -/
def closing? (bracket : Char) (text : List Char) : Option (List Char × List Char) :=
  match (marks text).dropWhile (· != .bare bracket) with
  | [] => none
  | _ :: after =>
    some (((marks text).takeWhile (· != .bare bracket)).flatMap Mark.spelling,
      after.flatMap Mark.spelling)

/-- A literal text ends at the bracket that closes it, whatever follows. -/
theorem IsLiteral.closing?_append {bracket : Char} {text : List Char}
    (hplain : plain '\\' = false) (hbracket : plain bracket = false) (hne : bracket ≠ '\\')
    (h : IsLiteral plain text) (rest : List Char) :
    closing? bracket (text ++ bracket :: rest) = some (text, rest) := by
  have hmarks : marks (text ++ bracket :: rest) = marks text ++ .bare bracket :: marks rest := by
    rw [h.marks_append hplain, marks_cons_of_ne hne]
  have hinside : ∀ mark ∈ marks text, (mark != .bare bracket) = true := by
    intro mark hmem
    rw [bne_iff_ne]
    rintro rfl
    have hbare := h.plain_of_mem_marks hplain hmem
    rw [hbracket] at hbare
    cases hbare
  have hstop : (Mark.bare bracket != .bare bracket) = false := by simp
  rw [closing?, hmarks, List.dropWhile_append_of_pos hinside, List.takeWhile_append_of_pos hinside,
    List.dropWhile_cons, List.takeWhile_cons, hstop]
  simp only [Bool.false_eq_true, if_false, List.append_nil, flatMap_spelling_marks]

/-! ### Escaped values -/

theorem isTagChar_iff : isTagChar c = true ↔
    ('A' ≤ c ∧ c ≤ 'Z') ∨ ('a' ≤ c ∧ c ≤ 'z') ∨ ('0' ≤ c ∧ c ≤ '9') ∨ c = '_' := by
  have hupper : c.isUpper = true ↔ 'A' ≤ c ∧ c ≤ 'Z' := decide_eq_true_iff
  have hlower : c.isLower = (decide ('a' ≤ c) && decide (c ≤ 'z')) := rfl
  have hdigit : c.isDigit = (decide ('0' ≤ c) && decide (c ≤ '9')) := rfl
  have hclasses : isTagChar c = (((c.isUpper || c.isLower) || c.isDigit) || decide (c = '_')) := rfl
  rw [hclasses, hlower, hdigit]
  simp only [Bool.or_eq_true, Bool.and_eq_true, decide_eq_true_eq, hupper, or_assoc]

theorem unescape_tag (value : String) : unescape (tag value) = Text.trim value := by
  rw [unescape, tag, String.toList_ofList, map_char_marks_escapeChars (by decide), Text.trim]

theorem unescape_text (value : String) : unescape (text value) = Text.trim value := by
  rw [unescape, text, String.toList_ofList, map_char_marks_escapeChars (by decide +kernel), Text.trim]

end Escape

/-! ### Clauses -/

namespace Predicate

open Escape (Mark IsLiteral marks isTagChar isTextChar)

/-- The inside of a clause on a field, which a query begins with, and what follows the clause. -/
def readClause? (opening closing : Char) (field query : String) : Option (String × String) := do
  let rest ← Text.startsWith? ("@" ++ field ++ ":" ++ String.singleton opening) query
  let (inside, after) ← Escape.closing? closing rest.toList
  return (String.ofList inside, String.ofList after)

/-- What stands between the bars that are not escaped, without the blanks that are not escaped. -/
def pieces (inside : List Mark) : List (List Mark) :=
  (inside.splitOn (.bare '|')).map (List.filter (· != .bare ' '))

/-- The members that a clause lists. -/
def readMembers (inside : String) : List String :=
  ((pieces (marks inside.toList)).map fun piece => String.ofList (piece.map Mark.char)).filter
    fun member => !member.isEmpty

theorem pieces_append_bar (left right : List Mark) :
    pieces (left ++ .bare '|' :: right) = pieces left ++ pieces right := by
  rw [pieces, List.splitOn_eq_splitOnP, List.splitOnP_append_cons left right (by simp),
    List.map_append]
  rfl

theorem pieces_of_not_mem {inside : List Mark} (h : Mark.bare '|' ∉ inside) :
    pieces inside = [inside.filter (· != .bare ' ')] := by
  have hbar : ∀ mark ∈ inside, (mark == Mark.bare '|') = false := fun mark hmem =>
    beq_eq_false_iff_ne.mpr fun heq => h (heq ▸ hmem)
  rw [pieces, List.splitOn_eq_splitOnP, List.splitOnP_eq_singleton hbar, List.map_singleton]

theorem pieces_blank_cons (inside : List Mark) :
    pieces (.bare ' ' :: inside) = pieces inside := by
  have hblank : (Mark.bare ' ' == Mark.bare '|') = false := by decide
  rw [pieces, pieces, List.splitOn_eq_splitOnP, List.splitOn_eq_splitOnP,
    List.splitOnP_cons_eq_if_modifyHead, hblank]
  cases inside.splitOnP (· == Mark.bare '|') with
  | nil => rfl
  | cons piece more => rfl

theorem bare_not_mem_marks_tag {c : Char} (hc : isTagChar c = false) (value : String) :
    Mark.bare c ∉ marks (Escape.tag value).toList := by
  intro hmem
  have hplain := (Escape.isLiteral_tag value).plain_of_mem_marks (by decide) hmem
  rw [hc] at hplain
  cases hplain

/-- A member brings no bar and no blank that is not escaped. -/
theorem pieces_tag (value : String) (blanks : List Mark)
    (hblanks : ∀ mark ∈ blanks, mark = .bare ' ') :
    pieces (marks (Escape.tag value).toList ++ blanks) = [marks (Escape.tag value).toList] := by
  have hbar : Mark.bare '|' ∉ marks (Escape.tag value).toList ++ blanks := by
    rw [List.mem_append]
    rintro (hmem | hmem)
    · exact bare_not_mem_marks_tag (by decide) value hmem
    · cases hblanks _ hmem
  have hkeep : (marks (Escape.tag value).toList).filter (· != .bare ' ') =
      marks (Escape.tag value).toList := by
    refine List.filter_eq_self.mpr fun mark hmem => bne_iff_ne.mpr ?_
    rintro rfl
    exact bare_not_mem_marks_tag (by decide) value hmem
  have hdrop : blanks.filter (· != .bare ' ') = [] :=
    List.filter_eq_nil_iff.mpr fun mark hmem => by simp [hblanks mark hmem]
  rw [pieces_of_not_mem hbar, List.filter_append, hkeep, hdrop, List.append_nil]

/-- The text between the brackets of a clause on tags. -/
def tagsText (values : List String) : String := Text.joined " | " (values.map Escape.tag)

theorem toList_tagsText_cons (value next : String) (values : List String) :
    (tagsText (value :: next :: values)).toList =
      (Escape.tag value).toList ++ ' ' :: '|' :: ' ' :: (tagsText (next :: values)).toList := by
  simp [tagsText, Text.joined]

theorem pieces_tagsText (value : String) (values : List String) :
    pieces (marks (tagsText (value :: values)).toList) =
      (value :: values).map fun value => marks (Escape.tag value).toList := by
  induction values generalizing value with
  | nil =>
    have hpieces := pieces_tag value [] nofun
    rwa [List.append_nil] at hpieces
  | cons next values ih =>
    have hmarks : marks (tagsText (value :: next :: values)).toList =
        (marks (Escape.tag value).toList ++ [.bare ' ']) ++
          .bare '|' :: .bare ' ' :: marks (tagsText (next :: values)).toList := by
      rw [toList_tagsText_cons, (Escape.isLiteral_tag value).marks_append (by decide),
        List.append_assoc]
      rfl
    rw [hmarks, pieces_append_bar, pieces_tag value _ (by simp), pieces_blank_cons, ih next]
    rfl

/-- **The members of a clause are read back,** trimmed. -/
theorem readMembers_tagsText {values : List String} (h : ∀ value ∈ values, Text.trim value ≠ "") :
    readMembers (tagsText values) = values.map Text.trim := by
  have hkeep : (values.map Text.trim).filter (fun member => !member.isEmpty) =
      values.map Text.trim := by
    refine List.filter_eq_self.mpr (List.forall_mem_map.mpr fun value hvalue => ?_)
    simpa using h value hvalue
  cases values with
  | nil => decide +kernel
  | cons value values =>
    rw [readMembers, pieces_tagsText, List.map_map, ← hkeep]
    refine congrArg (List.filter _) (List.map_congr_left fun value _ => ?_)
    exact Escape.unescape_tag value

/-- Inside a clause on tags nothing is bare but letters, digits, underscores, blanks and bars. -/
def isTagsChar (c : Char) : Bool := isTagChar c || c == ' ' || c == '|'

theorem isLiteral_tagsText (values : List String) :
    IsLiteral isTagsChar (tagsText values).toList := by
  have htag (value : String) : IsLiteral isTagsChar (Escape.tag value).toList :=
    (Escape.isLiteral_tag value).mono fun c hc => by simp [isTagsChar, hc]
  match values with
  | [] => exact .nil
  | [value] => exact htag value
  | value :: next :: values =>
    rw [toList_tagsText_cons]
    exact (htag value).append (.plain (by decide) (.plain (by decide) (.plain (by decide)
      (isLiteral_tagsText (next :: values)))))

/-- A clause ends where its own bracket closes it, whatever follows in the query. -/
theorem readClause?_append {plain : Char → Bool} (opening closing : Char) (field : String)
    {inside : String} (hplain : plain '\\' = false) (hclosing : plain closing = false)
    (hne : closing ≠ '\\') (h : IsLiteral plain inside.toList) (rest : String) :
    readClause? opening closing field
        ("@" ++ field ++ ":" ++ String.singleton opening ++
          (inside ++ String.singleton closing ++ rest)) =
      some (inside, rest) := by
  have hrest : (inside ++ String.singleton closing ++ rest).toList =
      inside.toList ++ closing :: rest.toList := by simp
  rw [readClause?, Text.startsWith?_eq_some.mpr rfl, Option.bind_eq_bind, Option.bind_some, hrest,
    h.closing?_append hplain hclosing hne]
  simp

theorem readClause?_tags (field : String) (values : List String) (rest : String) :
    readClause? '\x7b' '\x7d' field ((tags field values).render ++ rest) =
      some (tagsText values, rest) := by
  have hread := readClause?_append '\x7b' '\x7d' field (by decide) (by decide) (by decide)
    (isLiteral_tagsText values) rest
  simpa [render, tagsText, String.append_assoc] using hread

theorem readClause?_tokens (field text rest : String) :
    readClause? '(' ')' field ((tokens field text).render ++ rest) =
      some (Escape.text text, rest) := by
  have hread := readClause?_append '(' ')' field (by decide +kernel) (by decide +kernel) (by decide)
    (Escape.isLiteral_text text) rest
  simpa [render, String.append_assoc] using hread

/-- **Values stay in their clause, and stay as they are.** Without the backslashes an escaped value is
the trimmed one, and behind backslashes stands every character that is no letter, digit or
underscore, and in a text every one that is neither a word character nor blank. Whatever follows a
clause in a query, the clause ends at its own last character, and the members of a clause on tags
are read back from it. -/
theorem clause_keeps_values :
    (∀ value : String,
      Escape.unescape (Escape.tag value) = Text.trim value ∧
        Escape.unescape (Escape.text value) = Text.trim value ∧
        (∀ c, .bare c ∈ marks (Escape.tag value).toList →
          ('A' ≤ c ∧ c ≤ 'Z') ∨ ('a' ≤ c ∧ c ≤ 'z') ∨ ('0' ≤ c ∧ c ≤ '9') ∨ c = '_') ∧
        ∀ c, .bare c ∈ marks (Escape.text value).toList →
          Text.isWord c = true ∨ Text.isBlank c = true) ∧
      (∀ (field : String) (values : List String) (rest : String), ∃ inside,
        readClause? '\x7b' '\x7d' field ((tags field values).render ++ rest) = some (inside, rest) ∧
          ((∀ value ∈ values, Text.trim value ≠ "") →
            readMembers inside = values.map Text.trim) ∧
          ((∀ value ∈ values, value ≠ "" ∧ Text.trim value = value) →
            readMembers inside = values)) ∧
      ∀ field text rest : String,
        readClause? '(' ')' field ((tokens field text).render ++ rest) =
          some (Escape.text text, rest) := by
  refine ⟨fun value => ⟨Escape.unescape_tag value, Escape.unescape_text value, fun c hc => ?_,
    fun c hc => ?_⟩, fun field values rest => ⟨_, readClause?_tags field values rest,
    readMembers_tagsText, fun h => ?_⟩, readClause?_tokens⟩
  · exact Escape.isTagChar_iff.mp
      ((Escape.isLiteral_tag value).plain_of_mem_marks (by decide) hc)
  · exact Bool.or_eq_true _ _ |>.mp
      ((Escape.isLiteral_text value).plain_of_mem_marks (by decide +kernel) hc)
  · have htrim : values.map Text.trim = values :=
      (List.map_congr_left fun value hvalue => (h value hvalue).2).trans (List.map_id values)
    have hne (value : String) (hvalue : value ∈ values) : Text.trim value ≠ "" := by
      rw [(h value hvalue).2]
      exact (h value hvalue).1
    rw [readMembers_tagsText hne, htrim]

/-- Members made of the characters that clauses are made of. -/
theorem clause_keeps_values_of_brackets :
    (∀ value ∈ ["a|b \\", "\x7d", "@t:\x7bx\x7d | y"], value ≠ "" ∧ Text.trim value = value) ∧
      ∃ inside,
        readClause? '\x7b' '\x7d' "t"
            ((tags "t" ["a|b \\", "\x7d", "@t:\x7bx\x7d | y"]).render ++ " @p:[1 1]") =
          some (inside, " @p:[1 1]") ∧
        readMembers inside = ["a|b \\", "\x7d", "@t:\x7bx\x7d | y"] := by
  have hvalues : ∀ value ∈ ["a|b \\", "\x7d", "@t:\x7bx\x7d | y"],
      value ≠ "" ∧ Text.trim value = value := by decide +kernel
  obtain ⟨inside, hread, -, hmembers⟩ := clause_keeps_values.2.1 "t" _ " @p:[1 1]"
  exact ⟨hvalues, inside, hread, hmembers hvalues⟩

end Predicate

end HybridSearch
