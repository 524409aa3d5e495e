import RoutePlane.Json.Number

/-!
JSON values and their texts. Objects keep their members in order, repeated names included. A text is
written either without any blanks or indented by two.
-/
namespace RoutePlane

inductive Json where
  | null
  | bool (b : Bool)
  | number (n : JsonNumber)
  | text (s : String)
  | list (items : List Json)
  | object (members : List (String × Json))
  /-- What has the form of JSON and no value: a text or a name with half of a character, or a number
  too large for a double. It may stand where nothing is read. -/
  | unreadable

namespace Json

instance : Inhabited Json := ⟨null⟩

def int (n : Int) : Json := number (.int n)

def nat (n : Nat) : Json := int n

/-- A number that is not finite has no JSON form but null. -/
def float (x : Float) : Json := if x.isFinite then number (.float x) else null

def option {α : Type} (f : α → Json) : Option α → Json
  | none => null
  | some a => f a

/-- Four hexadecimal digits, in small letters. -/
def hex4 (n : Nat) : List Char :=
  let digits := Nat.toDigits 16 n
  List.replicate (4 - digits.length) '0' ++ digits

def escape (c : Char) : List Char :=
  if c = '"' ∨ c = '\\' then ['\\', c]
  else if c = '\n' then ['\\', 'n']
  else if c = '\r' then ['\\', 'r']
  else if c = '\t' then ['\\', 't']
  else if c.toNat = 8 then ['\\', 'b']
  else if c.toNat = 12 then ['\\', 'f']
  else if c.toNat < 32 then ['\\', 'u'] ++ hex4 c.toNat
  else [c]

def quote (s : String) : List Char := ['"'] ++ s.toList.flatMap escape ++ ['"']

def boolText (b : Bool) : List Char := if b then "true".toList else "false".toList

def separated (separator : List Char) : List (List Char) → List Char
  | [] => []
  | [x] => x
  | x :: rest => x ++ separator ++ separated separator rest

mutual

/-- The text without blanks. -/
def compactChars : Json → List Char
  | null | unreadable => "null".toList
  | bool b => boolText b
  | number n => n.text
  | text s => quote s
  | list items => ['['] ++ separated [','] (compactItems items) ++ [']']
  | object members => ['\x7b'] ++ separated [','] (compactMembers members) ++ ['\x7d']

def compactItems : List Json → List (List Char)
  | [] => []
  | j :: rest => compactChars j :: compactItems rest

def compactMembers : List (String × Json) → List (List Char)
  | [] => []
  | (name, j) :: rest => (quote name ++ [':'] ++ compactChars j) :: compactMembers rest

end

def compact (j : Json) : String := String.ofList j.compactChars

def newline (depth : Nat) : List Char := '\n' :: List.replicate (2 * depth) ' '

/-- Parts between brackets, each on a line of its own; nothing goes between them if there are none. -/
def block (first last : Char) (depth : Nat) (parts : List (List Char)) : List Char :=
  if parts.isEmpty then [first, last]
  else
    [first] ++ newline (depth + 1) ++ separated (',' :: newline (depth + 1)) parts
      ++ newline depth ++ [last]

mutual

def prettyChars (depth : Nat) : Json → List Char
  | null | unreadable => "null".toList
  | bool b => boolText b
  | number n => n.text
  | text s => quote s
  | list items => block '[' ']' depth (prettyItems (depth + 1) items)
  | object members => block '\x7b' '\x7d' depth (prettyMembers (depth + 1) members)

def prettyItems (depth : Nat) : List Json → List (List Char)
  | [] => []
  | j :: rest => prettyChars depth j :: prettyItems depth rest

def prettyMembers (depth : Nat) : List (String × Json) → List (List Char)
  | [] => []
  | (name, j) :: rest =>
    (quote name ++ [':', ' '] ++ prettyChars depth j) :: prettyMembers depth rest

end

def pretty (j : Json) : String := String.ofList (j.prettyChars 0)

end Json

end RoutePlane
