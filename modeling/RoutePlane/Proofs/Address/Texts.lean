import RoutePlane.Address.Prefix
import RoutePlane.Proofs.Text.Numeral

/-! The texts of addresses and blocks: each is read back as what it was written from, the host bits
of an interface address included. -/
namespace RoutePlane

namespace Address

theorem parts_of_not_mem {separator : Char} {cs : List Char} (free : separator ∉ cs) :
    parts separator cs = [cs] := by
  induction cs with
  | nil => rfl
  | cons c rest ih =>
    rw [List.mem_cons, not_or] at free
    obtain ⟨here, later⟩ := free
    simp [parts, Ne.symm here, ih later]

theorem parts_append {separator : Char} {cs : List Char} (free : separator ∉ cs)
    (rest : List Char) : parts separator (cs ++ separator :: rest) = cs :: parts separator rest := by
  induction cs with
  | nil => simp [parts]
  | cons c cs ih =>
    rw [List.mem_cons, not_or] at free
    obtain ⟨here, later⟩ := free
    simp [parts, Ne.symm here, ih later]

theorem octet?_repr {n : Nat} (small : n < 256) : octet? (Nat.repr n).toList = some n := by
  rw [octet?, if_pos (Numeral.length_repr_le (by decide) (by omega)), Numeral.below?_repr small]

theorem plainOctet?_repr {n : Nat} (small : n < 256) :
    plainOctet? (Nat.repr n).toList = some n := by
  rw [← octet?_repr small]
  unfold plainOctet?
  split
  next padded => cases Numeral.eq_nil_of_repr_eq_zero_cons padded
  next => rfl

def Reads (octet : List Char → Option Nat) : Prop :=
  ∀ n < 256, octet (Nat.repr n).toList = some n

theorem toList_text (a : Address) :
    a.text.toList = (Nat.repr (a.toNat >>> 24)).toList ++ '.' ::
      ((Nat.repr ((a.toNat >>> 16) % 256)).toList ++ '.' ::
        ((Nat.repr ((a.toNat >>> 8) % 256)).toList ++ '.' :: (Nat.repr (a.toNat % 256)).toList)) := by
  simp [text, octets, Numeral.render]

/-- The octets make up the address. -/
theorem ofOctets_octets (a : Address) :
    ofOctets (a.toNat >>> 24) ((a.toNat >>> 16) % 256) ((a.toNat >>> 8) % 256) (a.toNat % 256) = a := by
  apply bits_injective
  have whole : ((a.toNat >>> 24 * 256 + (a.toNat >>> 16) % 256) * 256 + (a.toNat >>> 8) % 256) * 256
      + a.toNat % 256 = a.toNat := by
    simp only [Nat.shiftRight_eq_div_pow]
    omega
  rw [ofOctets, whole]
  exact UInt32.ofNat_toNat

theorem ofQuad?_text {octet : List Char → Option Nat} (reads : Reads octet) (a : Address) :
    ofQuad? octet a.text.toList = some a := by
  have bound := a.toNat_lt
  have first : a.toNat >>> 24 < 256 := by
    rw [Nat.shiftRight_eq_div_pow]
    have : UInt32.size = 4294967296 := rfl
    omega
  have dot (n : Nat) : '.' ∉ (Nat.repr n).toList := Numeral.not_mem_repr (by decide)
  rw [ofQuad?, toList_text, parts_append (dot _), parts_append (dot _), parts_append (dot _),
    parts_of_not_mem (dot _)]
  simp only [reads _ first, reads _ (Nat.mod_lt _ (by decide : 256 > 0)), Option.pure_def,
    Option.bind_eq_bind, Option.bind_some, ofOctets_octets]

theorem ofText?_text (a : Address) : ofText? a.text = some a :=
  ofQuad?_text (fun _ small => plainOctet?_repr small) a

theorem not_mem_text {a : Address} {c : Char} (other : ¬('0' ≤ c ∧ c ≤ '9')) (point : c ≠ '.') :
    c ∉ a.text.toList := by
  have free (n : Nat) := Numeral.not_mem_repr (n := n) other
  simp only [toList_text, List.mem_append, List.mem_cons, free, point, or_false, not_false_eq_true]

end Address

namespace InterfaceAddress

theorem length?_repr {n : Nat} (small : n < 33) : length? (Nat.repr n).toList = some n := by
  rw [length?, if_pos (Numeral.length_repr_le (by decide) (by omega)), Numeral.below?_repr small]

theorem ofText?_text (a : InterfaceAddress) : ofText? a.text = some a := by
  have text : a.text.toList = a.address.text.toList ++ '/' :: (Nat.repr a.length).toList := by
    have joined : a.text = a.address.text ++ "/" ++ Nat.repr a.length := rfl
    rw [joined, String.toList_append, String.toList_append, List.append_assoc]
    rfl
  rw [ofText?, text, Address.parts_append (Address.not_mem_text (by decide) (by decide)),
    Address.parts_of_not_mem (Numeral.not_mem_repr (by decide))]
  simp only [Address.ofQuad?_text (fun _ small => Address.octet?_repr small),
    length?_repr (Nat.lt_succ_of_le a.length_le), Option.bind_eq_bind, Option.bind_some, a.length_le,
    dite_true]

end InterfaceAddress

namespace Prefix

/-- A block is the block of its length around its own network. -/
theorem around_network (p : Prefix) : around p.network p.length p.length_le = p := by
  apply key_injective
  have same : p.network.toNat - p.network.toNat % blockSize p.length = p.network.toNat := by
    rw [p.aligned, Nat.sub_zero]
  show (Address.ofNat (p.network.toNat - p.network.toNat % blockSize p.length), p.length) = _
  rw [same]
  exact congrArg (·, p.length) (Address.bits_injective _ _ UInt32.ofNat_toNat)

theorem ofText?_text (p : Prefix) : ofText? p.text = some p := by
  have text : p.text = (⟨p.network, p.length, p.length_le⟩ : InterfaceAddress).text := rfl
  rw [ofText?, text, InterfaceAddress.ofText?_text]
  exact congrArg some p.around_network

end Prefix

end RoutePlane
