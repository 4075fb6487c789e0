import HybridSearch.Decimal.Reader
import HybridSearch.Text.Utf8
import HybridSearch.Vector.Precision

/-!
# Single precision numbers

A component of a vector is a 32-bit floating point number, kept as its bits, so that what is stored
is what was computed. A vector is stored in four bytes a component, the lowest first.

## Main definitions

* `Single` — a number by its bits.
* `Single.parse?` — the number that a text denotes.
* `Embedding` — a vector.
* `Embedding.encode` — the bytes of a vector.
* `Embedding.decode?` — the vector of bytes that come in fours.
-/

namespace HybridSearch

structure Single where
  bits : UInt32
  deriving DecidableEq, Repr

abbrev Embedding := List Single

namespace Single

def zero : Single := ⟨0⟩

instance : Inhabited Single := ⟨zero⟩

def ofFloat32 (x : Float32) : Single := ⟨x.toBits⟩

def toFloat32 (x : Single) : Float32 := Float32.ofBits x.bits

/-- The nearest number to a double. -/
def ofFloat (x : Float) : Single := ⟨(Precision.narrowed x.toBits.toNat).toUInt32⟩

/-- The double of the same value. -/
def toFloat (x : Single) : Float := .ofBits (Precision.widened x.bits.toNat).toUInt64

def add (x y : Single) : Single := ofFloat32 (x.toFloat32 + y.toFloat32)

def sub (x y : Single) : Single := ofFloat32 (x.toFloat32 - y.toFloat32)

def mul (x y : Single) : Single := ofFloat32 (x.toFloat32 * y.toFloat32)

def div (x y : Single) : Single := ofFloat32 (x.toFloat32 / y.toFloat32)

instance : Add Single := ⟨add⟩

instance : Sub Single := ⟨sub⟩

instance : Mul Single := ⟨mul⟩

instance : Div Single := ⟨div⟩

/-- The number of the other sign. What is not a number has a sign, too. -/
def neg (x : Single) : Single := ⟨x.bits ^^^ 0x80000000⟩

instance : Neg Single := ⟨neg⟩

/-- The number nearest to the double that the whole text denotes. -/
def parse? (text : String) : Option Single :=
  let (negative, rest) := Decimal.takeSign text.toList
  (Decimal.magnitude? rest).map fun x => if negative then -ofFloat x else ofFloat x

/-- Zero of either sign. -/
def isZero (x : Single) : Bool := x.toFloat32 == 0

end Single

/-! ### Bytes -/

/-- The four bytes of a number, the lowest first. -/
def Single.toBytes (x : Single) : Bytes :=
  [x.bits.toUInt8, (x.bits >>> 8).toUInt8, (x.bits >>> 16).toUInt8, (x.bits >>> 24).toUInt8]

def Single.ofBytes (a b c d : UInt8) : Single :=
  ⟨a.toUInt32 ||| b.toUInt32 <<< 8 ||| c.toUInt32 <<< 16 ||| d.toUInt32 <<< 24⟩

namespace Embedding

def encode (vector : Embedding) : Bytes := vector.flatMap Single.toBytes

def decode? : Bytes → Option Embedding
  | [] => some []
  | a :: b :: c :: d :: rest => (decode? rest).map (Single.ofBytes a b c d :: ·)
  | _ => none

end Embedding

end HybridSearch
