/-!
The shortest decimal that reads back as a given double. A finite double stands for all reals that
round to it; among the decimals in that interval those with the fewest digits are taken, and of
these the one nearest to the double.
-/
namespace RoutePlane.Shortest

/-- A positive double as a fraction, with the ends of the interval of reals that round to it over
the same denominator. -/
structure Interval where
  value : Nat
  low : Nat
  high : Nat
  denominator : Nat
  /-- The ends themselves round to the double. -/
  closed : Bool
  deriving DecidableEq

/-- The interval of `significand * 2 ^ exponent`. Below a power of two the doubles are twice as close
as above it, unless they are subnormal. -/
def Interval.ofParts (significand : Nat) (exponent : Int) (atPower : Bool) : Interval :=
  let up := 1 <<< (exponent - 2).toNat
  { value := 4 * significand * up
    low := (4 * significand - (if atPower then 1 else 2)) * up
    high := (4 * significand + 2) * up
    denominator := 1 <<< (2 - exponent).toNat
    closed := significand % 2 == 0 }

/-- Sign bit, biased exponent and fraction of a double. -/
def fields (x : Float) : Nat × Nat × Nat :=
  let bits := x.toBits.toNat
  (bits >>> 63, (bits >>> 52) % (1 <<< 11), bits % (1 <<< 52))

def Interval.ofFloat (x : Float) : Interval :=
  let (_, biased, fraction) := fields x
  if biased = 0 then .ofParts fraction (-1074) false
  else .ofParts ((1 <<< 52) + fraction) (biased - 1075 : Int) (fraction == 0 && biased > 1)

/-- A decimal `digits * 10 ^ exponent`. -/
structure Decimal where
  digits : Nat
  exponent : Int
  deriving DecidableEq

def Decimal.fraction (d : Decimal) : Nat × Nat :=
  (d.digits * Nat.pow 10 d.exponent.toNat, Nat.pow 10 (-d.exponent).toNat)

def Interval.contains (i : Interval) (d : Decimal) : Bool :=
  let (numerator, denominator) := d.fraction
  let scaled := numerator * i.denominator
  if i.closed then i.low * denominator ≤ scaled && scaled ≤ i.high * denominator
  else i.low * denominator < scaled && scaled < i.high * denominator

/-- Distance of a decimal from the double, over the product of the denominators. -/
def Interval.distance (i : Interval) (d : Decimal) : Nat :=
  let (numerator, denominator) := d.fraction
  let scaled := numerator * i.denominator
  let value := i.value * denominator
  (scaled - value) + (value - scaled)

/-- The greatest power of ten, at most the given one, that is not above the double. -/
def Interval.magnitude (i : Interval) : Nat → Int → Int
  | 0, power => power
  | steps + 1, power =>
    let ten : Decimal := ⟨1, power⟩
    let (numerator, denominator) := ten.fraction
    if numerator * i.denominator ≤ i.value * denominator then power
    else i.magnitude steps (power - 1)

/-- The neighbours of the double on the grid of multiples of a power of ten. -/
def Interval.neighbors (i : Interval) (exponent : Int) : Decimal × Decimal :=
  let below := i.value * Nat.pow 10 (-exponent).toNat / (i.denominator * Nat.pow 10 exponent.toNat)
  (⟨below, exponent⟩, ⟨below + 1, exponent⟩)

/-- The better neighbour that lies in the interval; of two equally near ones the even one. -/
def Interval.hit? (i : Interval) (exponent : Int) : Option Decimal :=
  let (below, above) := i.neighbors exponent
  match i.contains below && below.digits ≠ 0, i.contains above with
  | true, true =>
    if i.distance below < i.distance above then some below
    else if i.distance above < i.distance below then some above
    else if below.digits % 2 = 0 then some below else some above
  | true, false => some below
  | false, true => some above
  | false, false => none

/-- Try grids from coarse to fine; the finest has 17 digits and always hits. -/
def Interval.shortestFrom (i : Interval) : Nat → Int → Decimal
  | 0, exponent => (i.neighbors exponent).1
  | steps + 1, exponent =>
    match i.hit? exponent with
    | some d => d
    | none => i.shortestFrom steps (exponent - 1)

/-- The shortest decimal of a positive finite double. -/
def ofFloat (x : Float) : Decimal :=
  let i := Interval.ofFloat x
  i.shortestFrom 17 (i.magnitude 640 309)

def Decimal.trim : Nat → Decimal → Decimal
  | 0, d => d
  | steps + 1, d =>
    if d.digits ≠ 0 ∧ d.digits % 10 = 0 then Decimal.trim steps ⟨d.digits / 10, d.exponent + 1⟩
    else d

end RoutePlane.Shortest
