import HybridSearch.Error
import HybridSearch.Proofs.Store.Lookup
import HybridSearch.Proofs.Text.Affix
import HybridSearch.Proofs.Text.Lowercase
import HybridSearch.Proofs.Text.Split

/-!
# What an error line is taken for

An error line is known by a phrase in it. The phrase is looked for in the code word, the rest and
the message of the line, one after the other with blanks between them, so it is found wherever the
line is cut. It is also found where the rest ends and the message begins: in a line that begins with
the last word of the phrase and ends with the words before it.

## Main definitions

* `Phrase` — words that tell what an error line means.
* `Phrase.isIn`, `Phrase.isAround` — the phrase stands in a line, or around its ends.

## Main results

* `Phrase.mentions_eq` — which lines mention a phrase.
* `SearchError.ofErrorLine_eq` — what every error line is taken for.
* `SearchError.not_ofErrorLine_eq` — a line that has the words of a phrase in another order.
-/

namespace HybridSearch

/-! ### Messages -/

namespace ErrorLine

/-- What a message says before the rest of the line. -/
def head (line : ErrorLine) : String :=
  match line.kind? with
  | some kind => "An error was signalled by the server - " ++ kind
  | none => line.code

theorem message_of_rest {line : ErrorLine} {rest : String} (h : line.rest = some rest) :
    line.message = line.head ++ ": " ++ rest := by
  rw [message, head, h]
  cases line.kind? <;> rfl

/-- A line of the protocol is shown by the name of its code word. -/
theorem kind?_cases (line : ErrorLine) :
    line.kind? = none ∨ ∃ entry ∈ kinds, line.code = entry.1 ∧ line.kind? = some entry.2 := by
  cases hkind : line.kind? with
  | none => exact Or.inl rfl
  | some kind => exact Or.inr ⟨_, mem_of_lookup hkind, rfl, rfl⟩

end ErrorLine

/-! ### Phrases -/

/-- Some words and a last one, in lowercase. Nothing of them is in what a client says of its own
about an error line. -/
structure Phrase where
  before : String
  last : String
  colon_notMem : ':' ∉ before.toList ++ ' ' :: last.toList := by decide
  hyphen_notMem : '-' ∉ before.toList ++ ' ' :: last.toList := by decide
  lacksSigma : Text.LacksSigma (before.toList ++ ' ' :: last.toList) := by decide
  head?_ne : before.toList.head? ≠ some ' ' := by decide
  space_mem_before : ' ' ∈ before.toList := by decide
  space_notMem_last : ' ' ∉ last.toList := by decide
  not_infix_signal : ¬before.toList ++ ' ' :: last.toList <:+:
    "an error was signalled by the server ".toList := by decide
  not_infix_unknown : ¬before.toList ++ ' ' :: last.toList <:+:
    "unknown extension error encountered".toList := by decide
  eq_nil_of_prefix : ∀ tail ∈ (before.toList ++ ' ' :: last.toList).tails,
    tail <+: "an error was signalled by the server ".toList → tail = [] := by decide
  eq_nil_of_suffix : ∀ start ∈ (before.toList ++ ' ' :: last.toList).inits,
    start <:+ Text.folded "NOSUB" → start = [] := by decide
  not_prefix_code : ∀ entry ∈ ErrorLine.kinds, ¬last.toList <+: Text.folded entry.1 := by
    decide

namespace Phrase

def indexExists : Phrase where
  before := "index already"
  last := "exists"

def unknownIndex : Phrase where
  before := "unknown index"
  last := "name"

def noIndex : Phrase where
  before := "no such"
  last := "index"

def text (p : Phrase) : String := p.before ++ " " ++ p.last

/-- The line has the phrase in it, in any letter case. -/
def isIn (p : Phrase) (line : String) : Bool := Text.contains p.text (Text.lowercase line)

/-- The line begins with the last word and ends with the words before it, in any letter case. -/
def isAround (p : Phrase) (line : String) : Bool :=
  (Text.startsWith? p.last (Text.lowercase line)).isSome &&
    (Text.endsWith? p.before (Text.lowercase line)).isSome

/-- The characters of the phrase. -/
abbrev chars (p : Phrase) : List Char := p.before.toList ++ ' ' :: p.last.toList

variable {p : Phrase} {part before after : List Char} {line : ErrorLine} {rest : String}

theorem toList_text (p : Phrase) : p.text.toList = p.chars := by
  simp [text, String.toList_append]

/-! ### Cuts -/

theorem not_infix_of_space_notMem (h : ' ' ∉ part) : ¬p.chars <:+: part :=
  fun hin => h (hin.subset (List.mem_append_right _ List.mem_cons_self))

theorem ne_nil_of_chars_eq (h : p.chars = before ++ ' ' :: after) : before ≠ [] := by
  rintro rfl
  have hspace := p.space_mem_before
  have hhead := p.head?_ne
  cases hbefore : p.before.toList with
  | nil =>
    rw [hbefore] at hspace
    cases hspace
  | cons c cs =>
    rw [chars, hbefore] at h
    rw [hbefore] at hhead
    exact hhead (congrArg some (List.cons.inj h).1)

/-- The last word is what follows the last blank. -/
theorem eq_of_chars_eq (h : p.chars = before ++ ' ' :: after) (hafter : ' ' ∉ after) :
    before = p.before.toList ∧ after = p.last.toList :=
  Text.append_cons_inj hafter p.space_notMem_last h.symm

theorem infix_space_cons_iff : p.chars <:+: ' ' :: part ↔ p.chars <:+: part := by
  refine List.infix_cons_iff.trans (or_iff_right fun h => ?_)
  obtain ⟨more, hmore⟩ := h
  cases hchars : p.chars with
  | nil => exact absurd hchars (List.append_ne_nil_of_right_ne_nil _ (List.cons_ne_nil _ _))
  | cons c cs =>
    rw [hchars] at hmore
    have hspace : p.chars = [] ++ ' ' :: cs := by rw [hchars, (List.cons.inj hmore).1, List.nil_append]
    exact ne_nil_of_chars_eq hspace rfl

/-! ### Messages of the client -/

theorem folded_append_space (left right : String) :
    Text.folded (left ++ " " ++ right) = Text.folded left ++ ' ' :: Text.folded right := by
  have hspace : Text.folded " " = [' '] := Text.folded_of_allSmall (by decide)
  rw [Text.folded_append, Text.folded_append, hspace, List.append_assoc, List.singleton_append]

theorem folded_append_colon (left right : String) :
    Text.folded (left ++ ": " ++ right) = Text.folded left ++ ':' :: ' ' :: Text.folded right := by
  have hcolon : Text.folded ": " = [':', ' '] := Text.folded_of_allSmall (by decide)
  rw [Text.folded_append, Text.folded_append, hcolon, List.append_assoc]
  rfl

theorem space_notMem_folded {text : String} (h : ' ' ∉ text.toList) : ' ' ∉ Text.folded text :=
  mt (Text.mem_folded_iff (by decide) text).mp h

/-- A signal and the name of a code word, with a hyphen between them, do not hold the phrase. -/
theorem not_infix_named {signal : List Char} (hsignal : ¬p.chars <:+: signal) {kind : String}
    (hkind : ' ' ∉ kind.toList) : ¬p.chars <:+: signal ++ '-' :: ' ' :: Text.folded kind := by
  rw [Text.infix_append_cons_iff_of_notMem p.hyphen_notMem, infix_space_cons_iff]
  exact not_or.mpr ⟨hsignal, not_infix_of_space_notMem (space_notMem_folded hkind)⟩

theorem space_notMem_kind : ∀ entry ∈ ErrorLine.kinds, ' ' ∉ entry.2.toList := by decide

theorem folded_capital (capital rest : String) {small : Char}
    (hcapital : Text.folded capital = [small]) (hrest : Text.AllSmall rest.toList) :
    Text.folded (capital ++ rest) = small :: rest.toList := by
  rw [Text.folded_append, hcapital, Text.folded_of_allSmall hrest, List.singleton_append]

theorem folded_signal (kind : String) :
    Text.folded ("An error was signalled by the server - " ++ kind) =
      "an error was signalled by the server ".toList ++ '-' :: ' ' :: Text.folded kind := by
  have hsignal : Text.folded "An error was signalled by the server - " =
      "an error was signalled by the server ".toList ++ ['-', ' '] :=
    folded_capital "A" "n error was signalled by the server - " (by decide) (by decide)
  rw [Text.folded_append, hsignal, List.append_assoc]
  rfl

theorem not_infix_head (hcode : ' ' ∉ line.code.toList) : ¬p.chars <:+: Text.folded line.head := by
  rw [ErrorLine.head]
  rcases line.kind?_cases with hkind | ⟨entry, hentry, -, hkind⟩
  · rw [hkind]
    exact not_infix_of_space_notMem (space_notMem_folded hcode)
  · rw [hkind, folded_signal]
    exact not_infix_named p.not_infix_signal (space_notMem_kind entry hentry)

/-- Of a message, the rest of the line alone may hold the phrase. -/
theorem infix_message_iff (hcode : ' ' ∉ line.code.toList) (hrest : line.rest = some rest) :
    p.chars <:+: Text.folded line.message ↔ p.chars <:+: Text.folded rest := by
  rw [ErrorLine.message_of_rest hrest, folded_append_colon,
    Text.infix_append_cons_iff_of_notMem p.colon_notMem, or_iff_right (not_infix_head hcode),
    infix_space_cons_iff]

theorem not_infix_message (hcode : ' ' ∉ line.code.toList) (hrest : line.rest = none) :
    ¬p.chars <:+: Text.folded line.message := by
  rw [ErrorLine.message, hrest]
  rcases line.kind?_cases with hkind | ⟨entry, hentry, -, hkind⟩
  · have hunknown : Text.folded "Unknown extension error encountered" =
        "unknown extension error encountered".toList :=
      folded_capital "U" "nknown extension error encountered" (by decide) (by decide)
    simp only [hkind, Option.getD_none]
    rw [folded_append_colon, Text.infix_append_cons_iff_of_notMem p.colon_notMem,
      infix_space_cons_iff, hunknown]
    exact not_or.mpr
      ⟨not_infix_of_space_notMem (space_notMem_folded hcode), p.not_infix_unknown⟩
  · have hsignal : Text.folded "An error was signalled by the server- " =
        "an error was signalled by the server".toList ++ ['-', ' '] :=
      folded_capital "A" "n error was signalled by the server- " (by decide) (by decide)
    simp only [hkind]
    rw [Text.folded_append, hsignal, List.append_assoc]
    refine not_infix_named (fun h => p.not_infix_signal (h.trans ?_))
      (space_notMem_kind entry hentry)
    exact List.IsPrefix.isInfix ⟨[' '], by decide⟩

/-! ### Where the message begins -/

theorem prefix_message_iff (hrest : line.rest = some rest) (hpart : ':' ∉ part) :
    part <+: Text.folded line.message ↔ part <+: Text.folded line.head := by
  rw [ErrorLine.message_of_rest hrest, folded_append_colon, Text.prefix_append_cons_iff hpart]

/-- The phrase goes on in a message just if the code word begins with the last word of it. -/
theorem exists_cut_iff (hcode : ' ' ∉ line.code.toList) (hrest : line.rest = some rest) :
    (∃ before after, p.chars = before ++ ' ' :: after ∧ before <:+ part ∧
        after <+: Text.folded line.message) ↔
      p.before.toList <:+ part ∧ p.last.toList <+: Text.folded line.code := by
  have hsuffix {before after : List Char} (hchars : p.chars = before ++ ' ' :: after) :
      after <:+ p.chars :=
    hchars ▸ (List.suffix_cons _ _).trans (List.suffix_append _ _)
  rcases line.kind?_cases with hkind | ⟨entry, hentry, hentryCode, hkind⟩
  · have hhead : line.head = line.code := by rw [ErrorLine.head, hkind]
    have hmessage {before after : List Char} (hchars : p.chars = before ++ ' ' :: after) :
        after <+: Text.folded line.message ↔ after <+: Text.folded line.code := by
      rw [prefix_message_iff hrest fun h => p.colon_notMem ((hsuffix hchars).subset h), hhead]
    constructor
    · rintro ⟨before, after, hchars, hbefore, hafter⟩
      rw [hmessage hchars] at hafter
      have hspace : ' ' ∉ after := fun h => space_notMem_folded hcode (hafter.subset h)
      obtain ⟨rfl, rfl⟩ := eq_of_chars_eq hchars hspace
      exact ⟨hbefore, hafter⟩
    · rintro ⟨hbefore, hlast⟩
      exact ⟨_, _, rfl, hbefore, (hmessage rfl).mpr hlast⟩
  · have hhead : line.head = "An error was signalled by the server - " ++ entry.2 := by
      rw [ErrorLine.head, hkind]
    have hlast : ¬p.last.toList <+: Text.folded line.code :=
      hentryCode ▸ p.not_prefix_code entry hentry
    refine iff_of_false ?_ fun h => hlast h.2
    rintro ⟨before, after, hchars, -, hafter⟩
    have hmem := hsuffix hchars
    rw [prefix_message_iff hrest fun h => p.colon_notMem (hmem.subset h), hhead, folded_signal,
      Text.prefix_append_cons_iff fun h => p.hyphen_notMem (hmem.subset h)] at hafter
    obtain rfl := p.eq_nil_of_prefix after ((List.mem_tails _ _).mpr hmem) hafter
    rw [← (eq_of_chars_eq hchars List.not_mem_nil).2] at hlast
    exact hlast List.nil_prefix

/-! ### Lines -/

theorem isIn_iff (line : String) : p.isIn line = true ↔ p.chars <:+: Text.folded line := by
  rw [isIn, Text.contains_iff, toList_text, Text.infix_lowercase_iff p.lacksSigma]

theorem isAround_iff (line : String) :
    p.isAround line = true ↔
      p.last.toList <+: Text.folded line ∧ p.before.toList <:+ Text.folded line := by
  have hlast : Text.LacksSigma p.last.toList := fun c hc =>
    p.lacksSigma c (List.mem_append_right _ (List.mem_cons_of_mem _ hc))
  have hbefore : Text.LacksSigma p.before.toList := fun c hc =>
    p.lacksSigma c (List.mem_append_left _ hc)
  rw [isAround, Bool.and_eq_true, Text.isSome_startsWith?_iff_prefix,
    Text.isSome_endsWith?_iff_suffix, Text.prefix_lowercase_iff hlast,
    Text.suffix_lowercase_iff hbefore]

/-- A line that loses its code word holds a phrase in its rest alone. -/
theorem infix_nosub_iff (rest : String) :
    p.chars <:+: Text.folded ("NOSUB" ++ " " ++ rest) ↔ p.chars <:+: Text.folded rest := by
  rw [folded_append_space, Text.infix_append_cons_iff]
  refine (or_iff_right (not_infix_of_space_notMem (by decide))).trans (or_iff_left ?_)
  rintro ⟨before, after, hchars, hbefore, -⟩
  have hstart : before <+: p.chars := ⟨_, hchars.symm⟩
  exact ne_nil_of_chars_eq hchars
    (p.eq_nil_of_suffix before ((List.mem_inits _ _).mpr hstart) hbefore)

theorem last_prefix_iff {code : String} (rest : String) :
    p.last.toList <+: Text.folded (code ++ " " ++ rest) ↔ p.last.toList <+: Text.folded code := by
  rw [folded_append_space, Text.prefix_append_cons_iff p.space_notMem_last]

theorem mentions_iff_lowered (line : ErrorLine) :
    line.mentions p.text = true ↔ p.chars <:+: line.lowered.toList := by
  rw [ErrorLine.mentions, Text.contains_iff, toList_text]

/-- Without its code word or its rest a line is known by its message alone. -/
theorem mentions_iff_message (h : line.code? = none ∨ line.rest = none) :
    line.mentions p.text = true ↔ p.chars <:+: Text.folded line.message := by
  have hlowered : line.lowered = Text.lowercase line.message := by
    rw [ErrorLine.lowered]
    rcases h with hcode | hrest
    · rw [hcode]
    · rw [hrest]
      cases line.code? <;> rfl
  rw [mentions_iff_lowered, hlowered, Text.infix_lowercase_iff p.lacksSigma]

theorem mentions_nosub_iff (rest : String) :
    (ErrorLine.mk "NOSUB" (some rest)).mentions p.text = true ↔
      p.chars <:+: Text.folded ("NOSUB" ++ " " ++ rest) ∨
        p.last.toList <+: Text.folded ("NOSUB" ++ " " ++ rest) ∧
          p.before.toList <:+ Text.folded ("NOSUB" ++ " " ++ rest) := by
  have hcode : ' ' ∉ "NOSUB".toList := by decide
  have hlast := p.not_prefix_code ("NOSUB", "NoSub") (by decide)
  rw [mentions_iff_message (Or.inl rfl), infix_message_iff hcode rfl, infix_nosub_iff,
    last_prefix_iff, or_iff_left fun h => hlast h.1]

/-- With its code word, a line is known by that, its rest and its message, one after the other. -/
theorem mentions_mk_iff {code : String} (hcode : ' ' ∉ code.toList) (hkeeps : code ≠ "NOSUB")
    (rest : String) :
    (ErrorLine.mk code (some rest)).mentions p.text = true ↔
      p.chars <:+: Text.folded (code ++ " " ++ rest) ∨
        p.last.toList <+: Text.folded (code ++ " " ++ rest) ∧
          p.before.toList <:+ Text.folded (code ++ " " ++ rest) := by
  have hrest : p.chars <:+: Text.folded rest → p.chars <:+: Text.folded (code ++ " " ++ rest) := by
    rw [folded_append_space]
    exact fun h => h.trans ((List.suffix_cons _ _).trans (List.suffix_append _ _)).isInfix
  have hlowered : (ErrorLine.mk code (some rest)).lowered =
      Text.lowercase (code ++ " " ++ rest ++ " " ++ (ErrorLine.mk code (some rest)).message) := by
    rw [ErrorLine.lowered, ErrorLine.code?, if_neg hkeeps]
  rw [mentions_iff_lowered, hlowered, Text.infix_lowercase_iff p.lacksSigma,
    folded_append_space (code ++ " " ++ rest), Text.infix_append_cons_iff,
    infix_message_iff hcode rfl, exists_cut_iff hcode rfl, ← or_assoc, or_iff_left_of_imp hrest,
    last_prefix_iff, and_comm]

/-- **Which lines mention a phrase:** those that have it in them or around their ends. -/
theorem mentions_eq (p : Phrase) (line : String) :
    (ErrorLine.ofText line).mentions p.text = (p.isIn line || p.isAround line) := by
  rw [Bool.eq_iff_iff, Bool.or_eq_true, isIn_iff, isAround_iff, ErrorLine.ofText]
  cases hcut : Text.cut ' ' line with
  | none =>
    have hspace := Text.cut_eq_none_iff.mp hcut
    have hfolded := space_notMem_folded hspace
    have hmentions : (ErrorLine.mk line none).mentions p.text ≠ true :=
      mt (mentions_iff_message (Or.inr rfl)).mp (not_infix_message hspace rfl)
    refine iff_of_false hmentions (not_or.mpr ⟨not_infix_of_space_notMem hfolded, fun h => ?_⟩)
    exact hfolded (h.2.subset p.space_mem_before)
  | some sides =>
    obtain ⟨code, rest⟩ := sides
    obtain ⟨hline, hcode⟩ := Text.cut_eq_some_iff.mp hcut
    obtain rfl : line = code ++ " " ++ rest := String.toList_inj.mp (by simpa using hline)
    by_cases hkeeps : code = "NOSUB"
    · subst hkeeps
      exact mentions_nosub_iff rest
    · exact mentions_mk_iff hcode hkeeps rest

end Phrase

/-! ### Errors -/

namespace SearchError

/-- **What every error line is taken for:** a line with the words that an index exists already for a
conflict of schemas, another one with the words that there is no such index for a missing index, and
any other for a refusal. The words are also found in a line that begins with the last of them and
ends with the others. -/
theorem ofErrorLine_eq (line : String) :
    ofErrorLine (.ofText line) =
      if Phrase.indexExists.isIn line || Phrase.indexExists.isAround line then
        schemaConflict (ErrorLine.ofText line).message
      else if Phrase.unknownIndex.isIn line || Phrase.unknownIndex.isAround line ||
          (Phrase.noIndex.isIn line || Phrase.noIndex.isAround line) then
        indexMissing (ErrorLine.ofText line).message
      else refused (ErrorLine.ofText line) := by
  rw [← Phrase.mentions_eq, ← Phrase.mentions_eq, ← Phrase.mentions_eq]
  rfl

/-- A line is a conflict of schemas that does not have the words one after the other. -/
theorem not_ofErrorLine_eq :
    ¬∀ line : String, (ofErrorLine (.ofText line)).isSchemaConflict =
      Text.contains "index already exists" (Text.lowercase line) := by
  intro h
  have hline := h "exists index already"
  revert hline
  decide +kernel

end SearchError

end HybridSearch
