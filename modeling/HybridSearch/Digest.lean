import HybridSearch.Text.Ascii
import HybridSearch.Text.Utf8

/-!
# SHA-256

The digest by which an uploaded file is known.

## Main definitions

* `Sha256.digest` — the digest of bytes as eight words.
* `Sha256.hex` — the digest in hexadecimal.
-/

namespace HybridSearch.Sha256

def roundConstants : List UInt32 :=
  [0x428a2f98, 0x71374491, 0xb5c0fbcf, 0xe9b5dba5, 0x3956c25b, 0x59f111f1, 0x923f82a4, 0xab1c5ed5,
   0xd807aa98, 0x12835b01, 0x243185be, 0x550c7dc3, 0x72be5d74, 0x80deb1fe, 0x9bdc06a7, 0xc19bf174,
   0xe49b69c1, 0xefbe4786, 0x0fc19dc6, 0x240ca1cc, 0x2de92c6f, 0x4a7484aa, 0x5cb0a9dc, 0x76f988da,
   0x983e5152, 0xa831c66d, 0xb00327c8, 0xbf597fc7, 0xc6e00bf3, 0xd5a79147, 0x06ca6351, 0x14292967,
   0x27b70a85, 0x2e1b2138, 0x4d2c6dfc, 0x53380d13, 0x650a7354, 0x766a0abb, 0x81c2c92e, 0x92722c85,
   0xa2bfe8a1, 0xa81a664b, 0xc24b8b70, 0xc76c51a3, 0xd192e819, 0xd6990624, 0xf40e3585, 0x106aa070,
   0x19a4c116, 0x1e376c08, 0x2748774c, 0x34b0bcb5, 0x391c0cb3, 0x4ed8aa4a, 0x5b9cca4f, 0x682e6ff3,
   0x748f82ee, 0x78a5636f, 0x84c87814, 0x8cc70208, 0x90befffa, 0xa4506ceb, 0xbef9a3f7, 0xc67178f2]

/-- The eight words that the blocks of a message change. -/
structure State where
  a : UInt32
  b : UInt32
  c : UInt32
  d : UInt32
  e : UInt32
  f : UInt32
  g : UInt32
  h : UInt32

def initial : State :=
  ⟨0x6a09e667, 0xbb67ae85, 0x3c6ef372, 0xa54ff53a, 0x510e527f, 0x9b05688c, 0x1f83d9ab, 0x5be0cd19⟩

def State.add (s t : State) : State :=
  ⟨s.a + t.a, s.b + t.b, s.c + t.c, s.d + t.d, s.e + t.e, s.f + t.f, s.g + t.g, s.h + t.h⟩

def State.words (s : State) : List UInt32 := [s.a, s.b, s.c, s.d, s.e, s.f, s.g, s.h]

def rotate (x : UInt32) (amount : UInt32) : UInt32 :=
  x >>> amount ||| x <<< (32 - amount)

/-- The next word of the schedule from the sixteen before it. -/
def nextWord : List UInt32 → UInt32
  | [w0, w1, _, _, _, _, _, _, _, w9, _, _, _, _, w14, _] =>
    let s0 := rotate w1 7 ^^^ rotate w1 18 ^^^ w1 >>> 3
    let s1 := rotate w14 17 ^^^ rotate w14 19 ^^^ w14 >>> 10
    w0 + s0 + w9 + s1
  | _ => 0

/-- One round with a constant and the first word of a window of sixteen. -/
def round (s : State) (constant word : UInt32) : State :=
  let s1 := rotate s.e 6 ^^^ rotate s.e 11 ^^^ rotate s.e 25
  let choice := (s.e &&& s.f) ^^^ (~~~s.e &&& s.g)
  let t1 := s.h + s1 + choice + constant + word
  let s0 := rotate s.a 2 ^^^ rotate s.a 13 ^^^ rotate s.a 22
  let majority := (s.a &&& s.b) ^^^ (s.a &&& s.c) ^^^ (s.b &&& s.c)
  ⟨t1 + (s0 + majority), s.a, s.b, s.c, s.d + t1, s.e, s.f, s.g⟩

/-- The rounds of a block, with the window of the sixteen words that are next. -/
def rounds : (constants : List UInt32) → (window : List UInt32) → State → State
  | [], _, s => s
  | _ :: _, [], s => s
  | constant :: constants, word :: window, s =>
    rounds constants (window ++ [nextWord (word :: window)]) (round s constant word)

def compress (s : State) (block : List UInt32) : State := s.add (rounds roundConstants block s)

/-- Words from bytes four by four, the highest byte first. -/
def words : Bytes → List UInt32
  | a :: b :: c :: d :: rest =>
    (a.toUInt32 <<< 24 ||| b.toUInt32 <<< 16 ||| c.toUInt32 <<< 8 ||| d.toUInt32) :: words rest
  | _ => []

/-- The message with a one bit, zeros up to a whole block, and its length in bits. -/
def padded (message : Bytes) : Bytes :=
  let zeros := (55 + 64 - message.length % 64) % 64
  let bits := UInt64.ofNat (8 * message.length)
  let shifts : List UInt64 := [56, 48, 40, 32, 24, 16, 8, 0]
  let length := shifts.map fun shift => (bits >>> shift).toUInt8
  message ++ 0x80 :: (List.replicate zeros 0 ++ length)

def blocks (fuel : Nat) (s : State) (message : List UInt32) : State :=
  match fuel, message with
  | _, [] => s
  | 0, _ :: _ => s
  | fuel + 1, message => blocks fuel (compress s (message.take 16)) (message.drop 16)

def digest (message : Bytes) : State :=
  let message := words (padded message)
  blocks message.length initial message

def hexOfWord (word : UInt32) : List Char :=
  [word >>> 24, word >>> 16, word >>> 8, word].flatMap fun part => Text.hexOfByte part.toUInt8

def hex (message : Bytes) : String := String.ofList ((digest message).words.flatMap hexOfWord)

end HybridSearch.Sha256
