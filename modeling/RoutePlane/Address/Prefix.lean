import RoutePlane.Address.Basic

/-!
Address blocks: `Prefix` is a network, whose host bits are clear, and `InterfaceAddress` an address
together with the length of the network it lies in. Blocks are ordered by address and then by
length, so that a block comes directly before those inside of it.

In the text of a block each octet may have leading zeros, and so may the length.
-/
namespace RoutePlane

/-- An address of a host in a network of the given length. -/
structure InterfaceAddress where
  address : Address
  length : Nat
  length_le : length ≤ 32
  deriving DecidableEq

def blockSize (length : Nat) : Nat := 1 <<< (32 - length)

structure Prefix where
  network : Address
  length : Nat
  length_le : length ≤ 32
  aligned : network.toNat % blockSize length = 0
  deriving DecidableEq

namespace InterfaceAddress

/-- The address with the given octets; a length above that of an address counts as that. -/
def ofOctets (a b c d length : Nat) : InterfaceAddress where
  address := Address.ofOctets a b c d
  length := min length 32
  length_le := Nat.min_le_right length 32

def text (a : InterfaceAddress) : String := s!"{a.address.text}/{Numeral.render a.length}"

def length? (digits : List Char) : Option Nat :=
  if digits.length ≤ 2 then Numeral.below? 33 digits else none

def ofText? (text : String) : Option InterfaceAddress :=
  match Address.parts '/' text.toList with
  | [quad, digits] => do
    let address ← Address.ofQuad? Address.octet? quad
    let length ← length? digits
    if h : length ≤ 32 then some ⟨address, length, h⟩ else none
  | _ => none

end InterfaceAddress

namespace Prefix

def size (p : Prefix) : Nat := blockSize p.length

/-- The block of the given length around an address. -/
def around (a : Address) (length : Nat) (h : length ≤ 32) : Prefix where
  network := Address.ofNat (a.toNat - a.toNat % blockSize length)
  length := length
  length_le := h
  aligned := by
    have bound : a.toNat - a.toNat % blockSize length < UInt32.size :=
      Nat.lt_of_le_of_lt (Nat.sub_le _ _) a.toNat_lt
    have exact : (Address.ofNat (a.toNat - a.toNat % blockSize length)).toNat =
        a.toNat - a.toNat % blockSize length := by
      simp only [Address.ofNat, Address.toNat, UInt32.toNat_ofNat']
      exact Nat.mod_eq_of_lt bound
    rw [exact, Nat.sub_mod_eq_zero_of_mod_eq (by simp)]

def ofAddress? (a : Address) (length : Nat) : Option Prefix :=
  if h : length ≤ 32 then some (around a length h) else none

def host (a : Address) : Prefix := around a 32 (Nat.le_refl 32)

def all : Prefix := around Address.unspecified 0 (Nat.zero_le 32)

instance : Inhabited Prefix := ⟨all⟩

/-- The block of the given length around the address with these bits; where there is no block of this
length, that of all addresses. -/
def ofBits (bits : UInt32) (length : Nat) : Prefix := (ofAddress? ⟨bits⟩ length).getD all

def containsAddress (p : Prefix) (a : Address) : Bool :=
  p.network.toNat ≤ a.toNat && a.toNat < p.network.toNat + p.size

/-- The other block is this one, or lies inside of it. -/
def contains (p q : Prefix) : Bool := p.length ≤ q.length && p.containsAddress q.network

def strictlyContains (p q : Prefix) : Bool := p.contains q && p.length < q.length

/-- The next larger block around this one; the block of all addresses has none. -/
def parent? (p : Prefix) : Option Prefix :=
  match h : p.length with
  | 0 => none
  | n + 1 => some (around p.network n (by have := p.length_le; omega))

def key (p : Prefix) : Address × Nat := (p.network, p.length)

theorem key_injective (p q : Prefix) (h : p.key = q.key) : p = q := by
  cases p; cases q
  simp only [key, Prod.mk.injEq] at h
  obtain ⟨rfl, rfl⟩ := h
  rfl

instance : Ord Prefix := ⟨compareOn key⟩

instance : Std.TransOrd Prefix := inferInstanceAs (Std.TransCmp (compareOn key))

instance : Std.LawfulEqOrd Prefix := lawfulEqCmp_compareOn key key_injective

def text (p : Prefix) : String := s!"{p.network.text}/{Numeral.render p.length}"

end Prefix

def InterfaceAddress.network (a : InterfaceAddress) : Prefix :=
  Prefix.around a.address a.length a.length_le

def Prefix.ofText? (text : String) : Option Prefix :=
  (InterfaceAddress.ofText? text).map InterfaceAddress.network

example : (Prefix.ofText? "010.1.2.3/08").map Prefix.key = some (Address.ofOctets 10 0 0 0, 8) := by
  decide

end RoutePlane
