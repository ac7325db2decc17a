/-!
# The shortest decimal of a float

A finite float is shown with the fewest digits that read back as the same float,
and of several such decimals the one nearest to it, where a tie goes to the even
last digit. Everything is decided in exact arithmetic: a float is `m * 2 ^ q`, the
reals that round to it form an interval around it, and for each number of digits
only the two neighbours of the float on that decimal grid have to be looked at.
-/
namespace OpenCLRegistry.Decimal

/-- A non-negative finite float and the interval of reals that round to it. All
three numbers are multiples of `2 ^ scale`. -/
structure Rounding where
  low : Nat
  value : Nat
  high : Nat
  scale : Int
  /-- Whether the ends of the interval round to the float too. -/
  closed : Bool

/-- The leading bit of a full significand, which a float does not store. -/
def hiddenBit : Nat := Nat.pow 2 52

/-- The bits of a float, its sign bit left out, as a rounding interval. Below a power
of two the floats are twice as dense as above it. -/
def Rounding.ofBits (bits : Nat) : Rounding :=
  let fraction := bits % hiddenBit
  let exponent := bits / hiddenBit % 2048
  let m := if exponent = 0 then fraction else fraction + hiddenBit
  let q : Int := if exponent = 0 then -1074 else (exponent : Int) - 1075
  let gapBelow := if fraction = 0 ∧ 1 < exponent then 1 else 2
  { low := 4 * m - gapBelow
    value := 4 * m
    high := 4 * m + 2
    scale := q - 2
    closed := m % 2 == 0 }

namespace Rounding

/-- Whether `c * unit` lies in the interval, when all is measured in `unit` and `step`. -/
def holds (r : Rounding) (step unit c : Nat) : Bool :=
  if r.closed then r.low * step ≤ c * unit && c * unit ≤ r.high * step
  else r.low * step < c * unit && c * unit < r.high * step

/-- The nearer of two neighbours that both read back; in a tie the even one. -/
def nearer (r : Rounding) (step unit c : Nat) : Nat :=
  let below := r.value * step - c * unit
  let above := (c + 1) * unit - r.value * step
  if below < above then c
  else if above < below then c + 1
  else if c % 2 == 0 then c else c + 1

/-- The multiple of `10 ^ k` next to the float that reads back as it, if there is one. -/
def onGrid? (r : Rounding) (k : Int) : Option Nat :=
  let step := Nat.pow 2 r.scale.toNat * Nat.pow 10 (-k).toNat
  let unit := Nat.pow 2 (-r.scale).toNat * Nat.pow 10 k.toNat
  let c := r.value * step / unit
  match r.holds step unit c, r.holds step unit (c + 1) with
  | true, true => some (r.nearer step unit c)
  | true, false => some c
  | false, true => some (c + 1)
  | false, false => none

/-- The place of the first digit: the float lies between this power of ten and the next. -/
def firstPlace (r : Rounding) : Int :=
  let raised := r.value * Nat.pow 2 r.scale.toNat * Nat.pow 10 400 / Nat.pow 2 (-r.scale).toNat
  ((Nat.toDigits 10 raised).length : Int) - 401

/-- The shortest decimal as `c * 10 ^ k`. Seventeen digits always suffice. -/
def shortest (r : Rounding) : Nat × Int :=
  let place := r.firstPlace
  ((List.range 17).findSome? fun (i : Nat) =>
    let k := place - (i : Int)
    (r.onGrid? k).map fun c => (c, k)).getD (0, 0)

end Rounding

/-- Which notation a decimal gets, by the place of its first digit. -/
def isPositional (place : Int) : Bool := -5 ≤ place && place ≤ 15

/-- Digits with the first of them at a place. Positional text always has a point. -/
def layOut (digits : List Char) (place : Int) : List Char :=
  if isPositional place then
    if place < 0 then
      ['0', '.'] ++ List.replicate (-place - 1).toNat '0' ++ digits
    else
      let whole := place.toNat + 1
      let fraction := digits.drop whole
      (digits ++ List.replicate (whole - digits.length) '0').take whole ++
        '.' :: (if fraction = [] then ['0'] else fraction)
  else
    digits.take 1 ++ (if digits.length ≤ 1 then [] else '.' :: digits.drop 1) ++
      ['e', if place < 0 then '-' else '+'] ++ Nat.toDigits 10 place.natAbs

/-- The digits of a decimal without the zeros at their end, and the place of the first. -/
def significant (c : Nat) (k : Int) : List Char × Int :=
  let digits := Nat.toDigits 10 c
  let kept := (digits.reverse.dropWhile (· == '0')).reverse
  (if kept = [] then ['0'] else kept, k + digits.length - 1)

/-- The text of a finite float. -/
def shortestText (x : Float) : String :=
  let bits := x.toBits.toNat
  let signBit := Nat.pow 2 63
  let magnitude := bits % signBit
  let (c, k) := if magnitude = 0 then (0, 0) else (Rounding.ofBits magnitude).shortest
  let (digits, place) := significant c k
  String.ofList ((if signBit ≤ bits then ['-'] else []) ++ layOut digits place)

end OpenCLRegistry.Decimal
