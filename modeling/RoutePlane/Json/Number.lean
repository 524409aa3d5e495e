import RoutePlane.Decimal.Shortest
import RoutePlane.Text.Numeral

/-!
Numbers in JSON. A whole number of 64 bits is kept as it is, and any other number as a double. The
double of a literal comes from its leading digits, as many as fit into 64 bits, rounded once, and
then multiplied or divided by one power of ten; a literal too large for a double is no number.

A double is written with the fewest digits that tell it from all others. It keeps a fraction, and
has an exponent only from 10^16 on and below 10^-5.
-/
namespace RoutePlane

inductive JsonNumber where
  | int (n : Int)
  | float (x : Float)
  deriving DecidableEq

namespace JsonNumber

/-- The parts of a literal: sign, whole digits, fraction digits, and exponent if there is one. -/
structure Literal where
  negative : Bool
  whole : List Char
  fraction : List Char
  exponent : Option Int

def isDigit (c : Char) : Bool := '0' ≤ c && c ≤ '9'

def digits? (cs : List Char) : Option (List Char × List Char) :=
  match cs.span isDigit with
  | ([], _) => none
  | found => some found

/-- Whole digits: a zero stands alone. -/
def whole? : List Char → Option (List Char × List Char)
  | '0' :: rest => some (['0'], rest)
  | cs => digits? cs

def fraction? : List Char → Option (List Char × List Char)
  | '.' :: rest => digits? rest
  | cs => some ([], cs)

def exponentDigits? (negative : Bool) (cs : List Char) : Option (Option Int × List Char) := do
  let (digits, rest) ← digits? cs
  let n ← Numeral.natural? digits
  pure (some (if negative then -(n : Int) else n), rest)

def exponent? : List Char → Option (Option Int × List Char)
  | 'e' :: '+' :: rest | 'E' :: '+' :: rest => exponentDigits? false rest
  | 'e' :: '-' :: rest | 'E' :: '-' :: rest => exponentDigits? true rest
  | 'e' :: rest | 'E' :: rest => exponentDigits? false rest
  | cs => some (none, cs)

def unsignedLiteral? (negative : Bool) (cs : List Char) : Option (Literal × List Char) := do
  let (whole, cs) ← whole? cs
  let (fraction, cs) ← fraction? cs
  let (exponent, cs) ← exponent? cs
  pure (⟨negative, whole, fraction, exponent⟩, cs)

def literal? : List Char → Option (Literal × List Char)
  | '-' :: rest => unsignedLiteral? true rest
  | cs => unsignedLiteral? false cs

/-- Take digits as long as the number fits into 64 bits; tell how many are left. -/
def takeDigits (value : Nat) : List Char → Nat × Nat
  | [] => (value, 0)
  | c :: rest =>
    let next := 10 * value + (c.toNat - '0'.toNat)
    if next < UInt64.size then takeDigits next rest else (value, (c :: rest).length)

def powerOfTen (n : Nat) : Float := Float.ofScientific 1 false n

def scaleUp (x : Float) (power : Nat) : Float :=
  if power ≤ 308 then x * powerOfTen power
  else if x == 0.0 then x else powerOfTen 400

/-- Divide by a power of ten, in steps of 10^308. After two of them nothing is left of 64 bits. -/
def scaleDown : Nat → Float → Nat → Float
  | 0, x, _ => x
  | steps + 1, x, power =>
    if power ≤ 308 then x / powerOfTen power
    else if x == 0.0 then x
    else scaleDown steps (x / powerOfTen 308) (power - 308)

def scale (x : Float) (power : Int) : Float :=
  if 0 ≤ power then scaleUp x power.toNat else scaleDown 4 x (-power).toNat

namespace Literal

/-- The literal as a double. -/
def toFloat (l : Literal) : Float :=
  let (whole, dropped) := takeDigits 0 l.whole
  let (significand, unused) := takeDigits whole l.fraction
  let power := (dropped : Int) - (l.fraction.length - unused : Nat) + l.exponent.getD 0
  let magnitude := scale (Float.ofNat significand) power
  if l.negative then -magnitude else magnitude

/-- The literal as a double, if it is in range. -/
def double? (l : Literal) : Option JsonNumber :=
  if l.toFloat.isFinite then some (.float l.toFloat) else none

/-- A whole literal is an integer if it fits into 64 bits; minus zero is a double. -/
def toNumber? (l : Literal) : Option JsonNumber :=
  match l.fraction, l.exponent with
  | [], none =>
    let (n, dropped) := takeDigits 0 l.whole
    if dropped ≠ 0 then l.double?
    else if l.negative then
      if n = 0 ∨ UInt64.size / 2 < n then l.double? else some (.int (-(n : Int)))
    else some (.int n)
  | _, _ => l.double?

end Literal

def withPoint (digits : List Char) (point : Nat) : List Char :=
  digits.take point ++ ['.'] ++ digits.drop point

def decimalText (d : Shortest.Decimal) : List Char :=
  let digits := (Nat.repr d.digits).toList
  let point := d.exponent + digits.length
  if 0 ≤ d.exponent ∧ point ≤ 16 then
    digits ++ List.replicate d.exponent.toNat '0' ++ ['.', '0']
  else if 0 < point ∧ point ≤ 16 then withPoint digits point.toNat
  else if -5 < point ∧ point ≤ 0 then
    ['0', '.'] ++ List.replicate (-point).toNat '0' ++ digits
  else
    let mantissa := if digits.length = 1 then digits else withPoint digits 1
    let exponent := point - 1
    let sign := if exponent < 0 then ['-'] else []
    mantissa ++ ['e'] ++ sign ++ (Nat.repr exponent.natAbs).toList

example : decimalText ⟨1, 16⟩ = "1e16".toList ∧ decimalText ⟨12, -7⟩ = "1.2e-6".toList := by decide

example : decimalText ⟨1, -5⟩ = "0.00001".toList ∧ decimalText ⟨1, 2⟩ = "100.0".toList := by decide

def floatText (x : Float) : List Char :=
  let (sign, biased, fraction) := Shortest.fields x
  let sign := if sign = 1 then ['-'] else []
  if biased = 0 ∧ fraction = 0 then sign ++ ['0', '.', '0']
  else sign ++ decimalText ((Shortest.ofFloat x).trim 20)

def text : JsonNumber → List Char
  | int n => (if n < 0 then ['-'] else []) ++ (Nat.repr n.natAbs).toList
  | float x => floatText x

end JsonNumber

end RoutePlane
