/-!
# Bytes as text

UTF-8 in both directions. Bytes that are no UTF-8 are read as far as they can be: each longest run
of bytes that starts a character and cannot be finished counts as one unreadable place.

## Main definitions

* `Bytes`.
* `encode` — the bytes of a text.
* `scan` — the characters that the bytes spell, with `none` for an unreadable place.
* `decode?` — the text of bytes that are readable throughout.
* `decodeLossy` — the text with a replacement character at each unreadable place.
-/

namespace HybridSearch

/-- A string of bytes. -/
abbrev Bytes := List UInt8

namespace Text

def encodeChars (text : List Char) : Bytes := text.flatMap String.utf8EncodeChar

def encode (text : String) : Bytes := encodeChars text.toList

/-- How many bytes the character takes that a first byte announces; a byte that starts no
character is `unusable`. -/
inductive Lead where
  | one
  | two
  | three
  | four
  | unusable
  deriving DecidableEq

def lead (first : Nat) : Lead :=
  if first < 0x80 then .one
  else if 0xC2 ≤ first ∧ first ≤ 0xDF then .two
  else if 0xE0 ≤ first ∧ first ≤ 0xEF then .three
  else if 0xF0 ≤ first ∧ first ≤ 0xF4 then .four
  else .unusable

/-- A byte that continues a character. -/
def isTail (byte : UInt8) : Bool := 0x80 ≤ byte && byte ≤ 0xBF

/-- A second byte that the first admits: no longer spelling than needed, no surrogate and nothing
above the last code point. -/
def isSecond (first second : UInt8) : Bool :=
  (if first = 0xE0 then 0xA0 else if first = 0xF0 then 0x90 else 0x80) ≤ second &&
    second ≤ (if first = 0xED then 0x9F else if first = 0xF4 then 0x8F else 0xBF)

/-- The six bits that a continuing byte carries. -/
def tailBits (byte : UInt8) : Nat := byte.toNat - 0x80

/-- The character that starts with a given byte, or `none` if the bytes after it do not finish it,
and how many bytes after the first one belong to that character or to the unreadable place. -/
def next (a : UInt8) : Bytes → Option Char × Nat
  | [] => (if lead a.toNat = .one then some (Char.ofNat a.toNat) else none, 0)
  | b :: rest =>
    match lead a.toNat with
    | .one => (some (Char.ofNat a.toNat), 0)
    | .unusable => (none, 0)
    | .two =>
      if isTail b then (some (Char.ofNat ((a.toNat - 0xC0) * 64 + tailBits b)), 1) else (none, 0)
    | .three =>
      if isSecond a b then
        match rest with
        | [] => (none, 1)
        | c :: _ =>
          if isTail c then
            (some (Char.ofNat (((a.toNat - 0xE0) * 64 + tailBits b) * 64 + tailBits c)), 2)
          else (none, 1)
      else (none, 0)
    | .four =>
      if isSecond a b then
        match rest with
        | [] => (none, 1)
        | [c] => (none, if isTail c then 2 else 1)
        | c :: d :: _ =>
          if isTail c then
            if isTail d then
              (some (Char.ofNat ((((a.toNat - 0xF0) * 64 + tailBits b) * 64 + tailBits c) * 64
                + tailBits d)), 3)
            else (none, 2)
          else (none, 1)
      else (none, 0)

def scan : Bytes → List (Option Char)
  | [] => []
  | a :: rest => (next a rest).1 :: scan (rest.drop (next a rest).2)
termination_by bytes => bytes.length
decreasing_by simp only [List.length_drop, List.length_cons]; omega

/-- The characters of a reading without unreadable places. -/
def readable? : List (Option Char) → Option (List Char)
  | [] => some []
  | none :: _ => none
  | some c :: rest => (readable? rest).map (c :: ·)

def decode? (bytes : Bytes) : Option String := (readable? (scan bytes)).map String.ofList

def decodeLossy (bytes : Bytes) : String :=
  String.ofList ((scan bytes).map (Option.getD · (Char.ofNat 0xFFFD)))

end Text

end HybridSearch
