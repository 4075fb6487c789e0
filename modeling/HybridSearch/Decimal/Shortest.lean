/-!
# The shortest decimal of a double

A finite positive double is `m · 2 ^ q`. Every real number between the midpoints to its two
neighbours reads back as it, the midpoints themselves if `m` is even. Its shortest decimal is the
number with the fewest digits in that interval, and the nearest to the double among those. On the
grid of numbers with a given last place only the two neighbours of the double need to be tried.

## Main definitions

* `Decimal` — digits and the place of the last one.
* `Binary`, `Binary.ofFloat` — the significand and the exponent of a double.
* `Binary.shortest` — its shortest decimal.
-/

namespace HybridSearch

/-- The number `digits · 10 ^ place`. -/
structure Decimal where
  digits : Nat
  place : Int
  deriving DecidableEq, Repr

/-- A positive binary number `m · 2 ^ q`. The flag tells that the next smaller number lies only
half as far away as the next greater one. -/
structure Binary where
  m : Nat
  q : Int
  closeBelow : Bool
  deriving DecidableEq, Repr

namespace Binary

/-- The magnitude of a finite double. -/
def ofFloat (x : Float) : Binary :=
  let bits : Nat := x.toBits.toNat
  let fraction : Nat := bits % 0x10000000000000
  let exponent : Nat := bits >>> 52 % 0x800
  if exponent = 0 then ⟨fraction, -1074, false⟩
  else ⟨fraction + 0x10000000000000, (exponent : Int) - 1075, fraction = 0 && 1 < exponent⟩

/-- What a quarter of the unit `2 ^ q`, and what a step of the grid at `place`, weigh in a common
measure of both. -/
def weights (b : Binary) (place : Int) : Nat × Nat :=
  let quarter := b.q - 2
  (Nat.pow 10 (-place).toNat <<< quarter.toNat, Nat.pow 10 place.toNat <<< (-quarter).toNat)

/-- Whether `digits` steps of a grid read back as the number, the weights being given. -/
def admits (b : Binary) (quarter step digits : Nat) : Bool :=
  let value := digits * step
  let low := (4 * b.m - if b.closeBelow then 1 else 2) * quarter
  let high := (4 * b.m + 2) * quarter
  if b.m % 2 = 0 then low ≤ value && value ≤ high else low < value && value < high

/-- The neighbour on the grid at `place` that reads back as the number, the nearer of two. Of two
equally near ones it is the greater if `tieUp` holds, and the even one otherwise. -/
def onGrid (b : Binary) (tieUp : Bool) (place : Int) : Option Nat :=
  let (quarter, step) := b.weights place
  let value := 4 * b.m * quarter
  let below := value / step
  match b.admits quarter step below && below != 0, b.admits quarter step (below + 1) with
  | false, false => none
  | true, false => some below
  | false, true => some (below + 1)
  | true, true =>
    let low := value - below * step
    let high := (below + 1) * step - value
    if low < high then some below
    else if high < low then some (below + 1)
    else if tieUp || below % 2 = 1 then some (below + 1)
    else some below

/-- The place of the first digit. -/
def firstPlace (b : Binary) : Int :=
  let scaled := (b.m * Nat.pow 10 400) <<< b.q.toNat >>> (-b.q).toNat
  (Nat.toDigits 10 scaled).length - 401

/-- A decimal without zeros at its end. -/
def stripZeros : (fuel : Nat) → Decimal → Decimal
  | 0, d => d
  | fuel + 1, d =>
    if d.digits ≠ 0 ∧ d.digits % 10 = 0 then stripZeros fuel ⟨d.digits / 10, d.place + 1⟩ else d

/-- The first grid, counted in digits from `used + 1` on, that holds a number which reads back. -/
def search (b : Binary) (tieUp : Bool) (first : Int) : (left used : Nat) → Decimal
  | 0, used => ⟨4 * b.m, first - used⟩
  | left + 1, used =>
    match b.onGrid tieUp (first - used) with
    | some digits => stripZeros 20 ⟨digits, first - used⟩
    | none => search b tieUp first left (used + 1)

/-- Seventeen digits always suffice for a double. -/
def shortest (b : Binary) (tieUp : Bool) : Decimal := b.search tieUp b.firstPlace 17 0

end Binary

end HybridSearch
