import RoutePlane.Json.Basic

/-!
Reading JSON texts: a text is cut into tokens, and the tokens make up one value. Blanks are the
space, the tab, the line feed and the carriage return, and a control character must be escaped. What
has the form of a text or a number but stands for none makes a value that nothing reads.
-/
namespace RoutePlane.Json

inductive Token where
  | punctuation (c : Char)
  | null
  | bool (b : Bool)
  /-- A number, if a double can hold it. -/
  | number (n : Option JsonNumber)
  /-- A text, unless it has half of a character. -/
  | text (s : Option String)

def hexDigit? (c : Char) : Option Nat :=
  if '0' ≤ c ∧ c ≤ '9' then some (c.toNat - '0'.toNat)
  else if 'a' ≤ c ∧ c ≤ 'f' then some (c.toNat - 'a'.toNat + 10)
  else if 'A' ≤ c ∧ c ≤ 'F' then some (c.toNat - 'A'.toNat + 10)
  else none

def codeUnit? (a b c d : Char) : Option Nat := do
  pure (((← hexDigit? a) * 16 + (← hexDigit? b)) * 256 + (← hexDigit? c) * 16 + (← hexDigit? d))

def simpleEscape? : Char → Option Char
  | '"' => some '"'
  | '\\' => some '\\'
  | '/' => some '/'
  | 'b' => some (Char.ofNat 8)
  | 'f' => some (Char.ofNat 12)
  | 'n' => some '\n'
  | 'r' => some '\r'
  | 't' => some '\t'
  | _ => none

inductive Piece where
  | whole (c : Char)
  /-- An escaped half of a character. -/
  | half (unit : Nat)

def piece (unit : Nat) : Piece :=
  if 0xd800 ≤ unit ∧ unit < 0xe000 then .half unit else .whole (Char.ofNat unit)

/-- The parts up to the closing quote, and what follows it. -/
def quoted? : List Char → Option (List Piece × List Char)
  | '"' :: rest => some ([], rest)
  | '\\' :: 'u' :: a :: b :: c :: d :: rest => do
    let unit ← codeUnit? a b c d
    let (ps, rest) ← quoted? rest
    pure (piece unit :: ps, rest)
  | '\\' :: c :: rest => do
    let c ← simpleEscape? c
    let (ps, rest) ← quoted? rest
    pure (.whole c :: ps, rest)
  | c :: rest => do
    guard (32 ≤ c.toNat ∧ c ≠ '\\')
    let (ps, rest) ← quoted? rest
    pure (.whole c :: ps, rest)
  | [] => none

/-- The characters of the parts. A first half and a second half next to it make a character, and no
other half does. -/
def characters? : List Piece → Option (List Char)
  | [] => some []
  | .whole c :: rest => (characters? rest).map (c :: ·)
  | .half high :: .half low :: rest =>
    if high < 0xdc00 ∧ 0xdc00 ≤ low then
      (characters? rest).map
        (Char.ofNat (0x10000 + (high - 0xd800) * 0x400 + (low - 0xdc00)) :: ·)
    else none
  | .half _ :: _ => none

example : characters? [.half 0xd83d, .half 0xde00] = some ['😀'] := by decide

example : characters? [.half 0xde00, .half 0xd83d] = none := by decide

def Token.ofPieces (ps : List Piece) : Token := .text ((characters? ps).map String.ofList)

def isBlank (c : Char) : Bool := c = ' ' || c = '\t' || c = '\n' || c = '\r'

def isPunctuation (c : Char) : Bool :=
  c = '[' || c = ']' || c = '\x7b' || c = '\x7d' || c = ',' || c = ':'

/-- The first token, and what follows it. -/
def token? : List Char → Option (Token × List Char)
  | 'n' :: 'u' :: 'l' :: 'l' :: rest => some (.null, rest)
  | 't' :: 'r' :: 'u' :: 'e' :: rest => some (.bool true, rest)
  | 'f' :: 'a' :: 'l' :: 's' :: 'e' :: rest => some (.bool false, rest)
  | '"' :: rest => (quoted? rest).map fun (ps, rest) => (.ofPieces ps, rest)
  | c :: rest =>
    if isPunctuation c then some (.punctuation c, rest)
    else (JsonNumber.literal? (c :: rest)).map fun (l, rest) => (.number l.toNumber?, rest)
  | [] => none

/-- All tokens of a text. Each takes at least one character, which bounds the steps. -/
def tokensFrom? : Nat → List Char → Option (List Token)
  | 0, _ => none
  | steps + 1, cs =>
    match cs.dropWhile isBlank with
    | [] => some []
    | cs => do
      let (t, rest) ← token? cs
      let later ← tokensFrom? steps rest
      pure (t :: later)

def tokens? (s : String) : Option (List Token) :=
  let cs := s.toList
  tokensFrom? (cs.length + 1) cs

mutual

/-- The first value, and the tokens after it. -/
def value? : Nat → List Token → Option (Json × List Token)
  | 0, _ => none
  | steps + 1, ts =>
    match ts with
    | .null :: rest => some (null, rest)
    | .bool b :: rest => some (bool b, rest)
    | .number n :: rest => some (n.elim unreadable number, rest)
    | .text s :: rest => some (s.elim unreadable text, rest)
    | .punctuation '[' :: .punctuation ']' :: rest => some (list [], rest)
    | .punctuation '[' :: rest => (items? steps rest).map fun (js, rest) => (list js, rest)
    | .punctuation '\x7b' :: .punctuation '\x7d' :: rest => some (object [], rest)
    | .punctuation '\x7b' :: rest =>
      (members? steps rest).map fun (ms, rest) => (ms.elim unreadable object, rest)
    | _ => none

def items? : Nat → List Token → Option (List Json × List Token)
  | 0, _ => none
  | steps + 1, ts => do
    let (j, rest) ← value? steps ts
    match rest with
    | .punctuation ']' :: rest => pure ([j], rest)
    | .punctuation ',' :: rest => do
      let (js, rest) ← items? steps rest
      pure (j :: js, rest)
    | _ => none

def members? : Nat → List Token → Option (Option (List (String × Json)) × List Token)
  | 0, _ => none
  | steps + 1, ts =>
    match ts with
    | .text name :: .punctuation ':' :: rest => do
      let (j, rest) ← value? steps rest
      let member := name.map (·, j)
      match rest with
      | .punctuation '\x7d' :: rest => pure (member.map ([·]), rest)
      | .punctuation ',' :: rest => do
        let (ms, rest) ← members? steps rest
        pure (do pure ((← member) :: (← ms)), rest)
      | _ => none
    | _ => none

end

/-- The value of a text that holds nothing else. Every step takes a token, which bounds them. -/
def parse? (s : String) : Option Json := do
  let ts ← tokens? s
  match ← value? (2 * ts.length + 1) ts with
  | (j, []) => pure j
  | _ => none

end RoutePlane.Json
