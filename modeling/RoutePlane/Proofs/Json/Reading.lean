import Mathlib.Data.List.Forall2
import RoutePlane.Proofs.Json.Tokens

/-! A JSON value is read back from its indented text, if every number in it is read back from its
own text. The text is cut into the tokens of the value, and the tokens make up the value. -/
namespace RoutePlane.Json

/-- Every number of the value is read back from its text. -/
inductive Legible : Json → Prop
  | null : Legible null
  | bool (b : Bool) : Legible (bool b)
  | number {n : JsonNumber} : n.ReadsBack → Legible (number n)
  | text (s : String) : Legible (text s)
  | list {items : List Json} : (∀ j ∈ items, Legible j) → Legible (list items)
  | object {members : List (String × Json)} : (∀ m ∈ members, Legible m.2) → Legible (object members)

@[simp] theorem legible_text (s : String) : (text s).Legible := .text s

@[simp] theorem legible_list_iff {items : List Json} :
    (list items).Legible ↔ ∀ j ∈ items, j.Legible :=
  ⟨fun | .list each => each, .list⟩

@[simp] theorem legible_object_iff {members : List (String × Json)} :
    (object members).Legible ↔ ∀ m ∈ members, m.2.Legible :=
  ⟨fun | .object each => each, .object⟩

def closed (last : Char) : List (List Token) → List Token
  | [] => [.punctuation last]
  | [part] => part ++ [.punctuation last]
  | part :: rest => part ++ .punctuation ',' :: closed last rest

mutual

def spelling : Json → List Token
  | null | unreadable => [.null]
  | bool b => [.bool b]
  | number n => [.number (some n)]
  | text s => [.text (some s)]
  | list items => .punctuation '[' :: closed ']' (itemSpellings items)
  | object members => .punctuation '\x7b' :: closed '\x7d' (memberSpellings members)

def itemSpellings : List Json → List (List Token)
  | [] => []
  | j :: rest => spelling j :: itemSpellings rest

def memberSpellings : List (String × Json) → List (List Token)
  | [] => []
  | (name, j) :: rest =>
    (.text (some name) :: .punctuation ':' :: spelling j) :: memberSpellings rest

end

theorem ends_cons {c : Char} (mark : isPunctuation c = true ∨ c = '\n') (rest : List Char) :
    JsonNumber.Ends (c :: rest) := by
  rintro d ⟨⟩
  have other : ∀ d ∈ ['[', ']', '\x7b', '\x7d', ',', ':'],
      JsonNumber.isDigit d = false ∧ d ≠ '.' ∧ d ≠ 'e' ∧ d ≠ 'E' := by
    simp [JsonNumber.isDigit]
  rcases mark with mark | rfl
  · exact other c (isPunctuation_iff.1 mark)
  · decide

/-- Parts with commas between them spell what they spell, up to the closing bracket. -/
theorem spells_separated {last : Char} (closes : isPunctuation last = true) (depth : Nat)
    {part : List Char} {parts : List (List Char)} {spellings : List (List Token)}
    (each : List.Forall₂ Spells (part :: parts) spellings) :
    Spells (separated (',' :: newline (depth + 1)) (part :: parts) ++ (newline depth ++ [last]))
      (closed last spellings) := by
  induction parts generalizing part spellings with
  | nil =>
    obtain ⟨spelling, spellings, here, none, rfl⟩ := List.forall₂_cons_left_iff.1 each
    cases none
    intro rest later _ cut
    simp only [separated, closed, List.append_assoc, List.singleton_append]
    exact here _ _ (ends_cons (.inr rfl) _) ((cut.punctuation closes).newline depth)
  | cons next parts ih =>
    obtain ⟨spelling, spellings, here, more, rfl⟩ := List.forall₂_cons_left_iff.1 each
    intro rest later ends cut
    have tail := ((ih more rest later ends cut).newline (depth + 1)).punctuation (c := ',') rfl
    have whole := here _ _ (ends_cons (.inl rfl) _) tail
    cases more
    simpa [separated, closed] using whole

/-- Parts on lines of their own spell the parts between brackets. -/
theorem spells_block {first last : Char} (opens : isPunctuation first = true)
    (closes : isPunctuation last = true) (depth : Nat) {parts : List (List Char)}
    {spellings : List (List Token)} (each : List.Forall₂ Spells parts spellings) :
    Spells (block first last depth parts) (.punctuation first :: closed last spellings) := by
  cases parts with
  | nil =>
    cases each
    intro rest later _ cut
    exact (cut.punctuation closes).punctuation opens
  | cons part parts =>
    intro rest later ends cut
    have inner := spells_separated closes depth each rest later ends cut
    simpa [block] using (inner.newline (depth + 1)).punctuation opens

theorem spells_member (name : String) {cs : List Char} {ts : List Token} (content : Spells cs ts) :
    Spells (quote name ++ [':', ' '] ++ cs) (.text (some name) :: .punctuation ':' :: ts) := by
  intro rest later ends cut
  have value : Cut (' ' :: (cs ++ rest)) (ts ++ later) := .blank rfl (content rest later ends cut)
  have member := spells_quote name _ _ (ends_cons (.inl rfl) _) (value.punctuation (c := ':') rfl)
  simpa using member

mutual

/-- The indented text of a value is cut into the tokens of the value. -/
theorem spells_value : ∀ {j : Json}, j.Legible → ∀ depth, Spells (j.prettyChars depth) j.spelling
  | .null, _, _ => spells_null
  | .bool b, _, _ => spells_bool b
  | .number _, .number readsBack, _ => spells_number readsBack
  | .text s, _, _ => spells_quote s
  | .list _, .list each, depth => spells_block rfl rfl depth (spells_items each _)
  | .object _, .object each, depth => spells_block rfl rfl depth (spells_members each _)

theorem spells_items : ∀ {items : List Json}, (∀ j ∈ items, j.Legible) → ∀ depth,
    List.Forall₂ Spells (prettyItems depth items) (itemSpellings items)
  | [], _, _ => .nil
  | j :: _, each, depth =>
    .cons (spells_value (each j List.mem_cons_self) depth)
      (spells_items (fun other member => each other (List.mem_cons_of_mem _ member)) depth)

theorem spells_members : ∀ {members : List (String × Json)}, (∀ m ∈ members, m.2.Legible) →
    ∀ depth, List.Forall₂ Spells (prettyMembers depth members) (memberSpellings members)
  | [], _, _ => .nil
  | (name, j) :: _, each, depth =>
    .cons (spells_member name (spells_value (each (name, j) List.mem_cons_self) depth))
      (spells_members (fun other member => each other (List.mem_cons_of_mem _ member)) depth)

end

theorem spelling_head (j : Json) :
    ∃ t ts, j.spelling = t :: ts ∧ t ≠ .punctuation ']' := by
  cases j <;> exact ⟨_, _, rfl, by simp⟩

theorem value?_list {t : Token} (some : t ≠ .punctuation ']') (ts : List Token) (steps : Nat) :
    value? (steps + 1) (.punctuation '[' :: t :: ts) =
      (items? steps (t :: ts)).map fun (js, rest) => (list js, rest) := by
  rw [value?]
  rintro rest ⟨⟩
  exact some rfl

theorem value?_object (name : Option String) (ts : List Token) (steps : Nat) :
    value? (steps + 1) (.punctuation '\x7b' :: .text name :: ts) =
      (members? steps (.text name :: ts)).map fun (ms, rest) => (ms.elim unreadable object, rest) := by
  rw [value?]
  rintro rest ⟨⟩

/-- The tokens of the value make up the value. Two steps for each token are enough. -/
def MadeUp (j : Json) : Prop :=
  ∀ steps rest, 2 * j.spelling.length ≤ steps → value? steps (j.spelling ++ rest) = some (j, rest)

theorem items?_closed {first : Json} {items : List Json} (each : ∀ j ∈ first :: items, j.MadeUp)
    {steps : Nat} (enough : 2 * (closed ']' (itemSpellings (first :: items))).length ≤ steps)
    (rest : List Token) :
    items? steps (closed ']' (itemSpellings (first :: items)) ++ rest) =
      some (first :: items, rest) := by
  induction items generalizing first steps with
  | nil =>
    simp only [itemSpellings, closed, List.length_append, List.length_singleton] at enough
    obtain ⟨steps, rfl⟩ : ∃ fewer, steps = fewer + 1 := ⟨steps - 1, by omega⟩
    have value := each first List.mem_cons_self steps (.punctuation ']' :: rest) (by omega)
    simp [items?, itemSpellings, closed, value]
  | cons next items ih =>
    simp only [itemSpellings, closed, List.length_append, List.length_cons] at enough
    obtain ⟨steps, rfl⟩ : ∃ fewer, steps = fewer + 1 := ⟨steps - 1, by omega⟩
    have value := each first List.mem_cons_self steps
      (.punctuation ',' :: (closed ']' (itemSpellings (next :: items)) ++ rest)) (by omega)
    have later := @ih next (fun j member => each j (List.mem_cons_of_mem _ member)) steps
      (by simp only [itemSpellings]; omega)
    simp only [itemSpellings] at later value
    simp [items?, itemSpellings, closed, value, later]

theorem members?_closed {member : String × Json} {members : List (String × Json)}
    (each : ∀ m ∈ member :: members, m.2.MadeUp) {steps : Nat}
    (enough : 2 * (closed '\x7d' (memberSpellings (member :: members))).length ≤ steps)
    (rest : List Token) :
    members? steps (closed '\x7d' (memberSpellings (member :: members)) ++ rest) =
      some (some (member :: members), rest) := by
  induction members generalizing member steps with
  | nil =>
    simp only [memberSpellings, closed, List.length_append, List.length_cons] at enough
    obtain ⟨steps, rfl⟩ : ∃ fewer, steps = fewer + 1 := ⟨steps - 1, by omega⟩
    have value := each member List.mem_cons_self steps (.punctuation '\x7d' :: rest) (by omega)
    simp [members?, memberSpellings, closed, value]
  | cons next members ih =>
    simp only [memberSpellings, closed, List.length_append, List.length_cons] at enough
    obtain ⟨steps, rfl⟩ : ∃ fewer, steps = fewer + 1 := ⟨steps - 1, by omega⟩
    have value := each member List.mem_cons_self steps
      (.punctuation ',' :: (closed '\x7d' (memberSpellings (next :: members)) ++ rest)) (by omega)
    have later := @ih next (fun m listed => each m (List.mem_cons_of_mem _ listed)) steps
      (by simp only [memberSpellings]; omega)
    simp only [memberSpellings] at later value
    simp [members?, memberSpellings, closed, value, later]

/-- Every value that can be read is made up of its tokens. -/
theorem Legible.madeUp {j : Json} (legible : j.Legible) : j.MadeUp := by
  have step {j : Json} {steps : Nat} (enough : 2 * j.spelling.length ≤ steps) :
      ∃ fewer, steps = fewer + 1 := by
    obtain ⟨t, ts, spelled, -⟩ := spelling_head j
    rw [spelled, List.length_cons] at enough
    exact ⟨steps - 1, by omega⟩
  induction legible with
  | null | bool | number | text =>
    intro steps rest enough
    obtain ⟨steps, rfl⟩ := step enough
    rfl
  | @list items _ each =>
    intro steps rest enough
    obtain ⟨steps, rfl⟩ := step enough
    cases items with
    | nil => rfl
    | cons first items =>
      obtain ⟨t, ts, spelled, plain⟩ := spelling_head first
      have goesOn : ∃ more, closed ']' (itemSpellings (first :: items)) = t :: more := by
        cases items <;> exact ⟨_, by simp only [itemSpellings, closed, spelled]; rfl⟩
      obtain ⟨more, goesOn⟩ := goesOn
      rw [spelling, List.length_cons] at enough
      have read := @items?_closed first items each steps (by omega) rest
      rw [spelling, List.cons_append]
      rw [goesOn, List.cons_append] at read ⊢
      rw [value?_list plain, read]
      rfl
  | @object members _ each =>
    intro steps rest enough
    obtain ⟨steps, rfl⟩ := step enough
    cases members with
    | nil => rfl
    | cons member members =>
      have goesOn : ∃ more, closed '\x7d' (memberSpellings (member :: members)) =
          .text (some member.1) :: more := by
        cases members <;> exact ⟨_, by simp only [memberSpellings, closed]; rfl⟩
      obtain ⟨more, goesOn⟩ := goesOn
      rw [spelling, List.length_cons] at enough
      have read := @members?_closed member members each steps (by omega) rest
      rw [spelling, List.cons_append]
      rw [goesOn, List.cons_append] at read ⊢
      rw [value?_object, read]
      rfl

/-- A value is read back from its indented text. -/
theorem Legible.parse?_pretty {j : Json} (legible : j.Legible) : parse? j.pretty = some j := by
  have cut : Cut j.pretty.toList j.spelling := by
    have spelled := spells_value legible 0 [] [] JsonNumber.ends_nil .nil
    rw [List.append_nil, List.append_nil] at spelled
    rwa [pretty, String.toList_ofList]
  have value := legible.madeUp (2 * j.spelling.length + 1) [] (Nat.le_succ _)
  rw [List.append_nil] at value
  simp [parse?, cut.tokens?, value]

end RoutePlane.Json
