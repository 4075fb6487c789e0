import HybridSearch.Text.Ascii
import HybridSearch.Text.Utf8

/-!
# Percent signs in URLs

What cannot stand in a part of a URL as it is, is written by its bytes, each with a percent sign and
two digits. Control characters and characters beyond ASCII are written so in every part.

## Main definitions

* `Percent.encode` — a text in which some more characters of ASCII are written so.
* `Percent.decode` — the bytes that a text stands for.
* `Percent.inPath`, `Percent.inUser`, `Percent.inQuery`, `Percent.inFragment` — those characters.
-/

namespace HybridSearch.Percent

def encodeByte (byte : UInt8) : List Char := '%' :: (Text.hexOfByte byte).map Char.toUpper

/-- Characters that no part of a URL holds. -/
def isAlwaysEncoded (c : Char) : Bool := c < ' ' || '~' < c

def encode (more : List Char) (text : List Char) : List Char :=
  text.flatMap fun c =>
    if isAlwaysEncoded c || more.contains c then (Text.encodeChars [c]).flatMap encodeByte else [c]

/-- A percent sign without two digits after it stands for itself. -/
def decode : List Char → Bytes
  | [] => []
  | '%' :: a :: b :: rest =>
    match Text.hexValue? a, Text.hexValue? b with
    | some high, some low => UInt8.ofNat (high * 16 + low) :: decode rest
    | _, _ => Text.encodeChars ['%'] ++ decode (a :: b :: rest)
  | c :: rest => Text.encodeChars [c] ++ decode rest

def inFragment : List Char := [' ', '"', '<', '>', '\x60']

def inQuery : List Char := [' ', '"', '#', '<', '>']

def inPath : List Char := inFragment ++ ['#', '?', '\x7b', '\x7d']

def inUser : List Char := inPath ++ ['/', ':', ';', '=', '@', '[', '\\', ']', '^', '|']

end HybridSearch.Percent
