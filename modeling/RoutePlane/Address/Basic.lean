import RoutePlane.Order.Basic
import RoutePlane.Text.Numeral

/-!
IPv4 addresses, ordered as numbers and written as dotted quads. An address is read strictly: four
octets without sign or leading zeros.
-/
namespace RoutePlane

structure Address where
  bits : UInt32
  deriving DecidableEq, Inhabited, Hashable

namespace Address

def toNat (a : Address) : Nat := a.bits.toNat

def ofNat (n : Nat) : Address := ⟨UInt32.ofNat n⟩

/-- The address 0.0.0.0, which belongs to nobody. -/
def unspecified : Address := ⟨0⟩

theorem toNat_lt (a : Address) : a.toNat < UInt32.size := a.bits.toNat_lt

theorem bits_injective (a b : Address) (h : a.bits = b.bits) : a = b := by
  cases a; cases b; cases h; rfl

instance : Ord Address := ⟨compareOn bits⟩

instance : Std.TransOrd Address := inferInstanceAs (Std.TransCmp (compareOn bits))

instance : Std.LawfulEqOrd Address := lawfulEqCmp_compareOn bits bits_injective

def ofOctets (a b c d : Nat) : Address := ofNat (((a * 256 + b) * 256 + c) * 256 + d)

/-- The four octets, most significant first. -/
def octets (a : Address) : List Nat :=
  [a.toNat >>> 24, (a.toNat >>> 16) % 256, (a.toNat >>> 8) % 256, a.toNat % 256]

def text (a : Address) : String := ".".intercalate (a.octets.map Numeral.render)

/-- An octet: up to three digits, at most 255. -/
def octet? (digits : List Char) : Option Nat :=
  if digits.length ≤ 3 then Numeral.below? 256 digits else none

/-- An octet without leading zeros. -/
def plainOctet? : List Char → Option Nat
  | '0' :: _ :: _ => none
  | digits => octet? digits

def parts (separator : Char) : List Char → List (List Char)
  | [] => [[]]
  | c :: rest =>
    if c = separator then [] :: parts separator rest
    else
      match parts separator rest with
      | [] => [[c]]
      | part :: more => (c :: part) :: more

def ofQuad? (octet : List Char → Option Nat) (text : List Char) : Option Address :=
  match parts '.' text with
  | [a, b, c, d] => do pure (ofOctets (← octet a) (← octet b) (← octet c) (← octet d))
  | _ => none

def ofText? (text : String) : Option Address := ofQuad? plainOctet? text.toList

example : ofText? "10.0.0.1" = some (ofOctets 10 0 0 1) ∧ ofText? "10.0.0.01" = none := by decide

end Address

end RoutePlane
