/-!
Decimal numerals. `natural?` reads a run of digits, `unsigned?` a number in an unsigned field: an
optional plus sign, at least one digit, leading zeros allowed, and a value below the bound of the
field. The printed form has neither sign nor leading zeros.
-/
namespace RoutePlane.Numeral

def digit? (c : Char) : Option Nat :=
  if '0' ≤ c ∧ c ≤ '9' then some (c.toNat - '0'.toNat) else none

/-- Value of the digits read so far, followed by the given ones. -/
def extend? (value : Nat) : List Char → Option Nat
  | [] => some value
  | c :: rest =>
    match digit? c with
    | some d => extend? (10 * value + d) rest
    | none => none

def natural? : List Char → Option Nat
  | [] => none
  | digits => extend? 0 digits

def below? (bound : Nat) (digits : List Char) : Option Nat :=
  (natural? digits).filter (· < bound)

def unsigned? (bound : Nat) (text : String) : Option Nat :=
  match text.toList with
  | '+' :: digits => below? bound digits
  | digits => below? bound digits

def word16? (text : String) : Option UInt16 := (unsigned? UInt16.size text).map UInt16.ofNat

example : word16? "+007" = some 7 ∧ word16? "65536" = none ∧ word16? "+" = none := by decide

def word32? (text : String) : Option UInt32 := (unsigned? UInt32.size text).map UInt32.ofNat

def render (n : Nat) : String := Nat.repr n

end RoutePlane.Numeral
