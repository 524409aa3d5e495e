import RoutePlane.Json.Reader
import RoutePlane.Proofs.Json.Numbers

/-! How a text is cut into tokens. What is written for a text, a number or a name is one token,
whatever comes after it, and blanks before a token are skipped. -/
namespace RoutePlane.Json

theorem hexDigit?_digitChar : ∀ d < 16, hexDigit? (Nat.digitChar d) = some d := by
  decide

theorem hex4_of_lt {n : Nat} (small : n < 256) :
    hex4 n = ['0', '0', Nat.digitChar (n / 16), Nat.digitChar (n % 16)] := by
  rw [hex4, Nat.toDigits_eq_if (by decide)]
  split
  next one => simp [Nat.div_eq_of_lt one, Nat.mod_eq_of_lt one, List.replicate]
  next => simp [Nat.toDigits_of_lt_base (show n / 16 < 16 by omega), List.replicate]

theorem quoted?_escape (c : Char) {cs rest : List Char} {ps : List Piece}
    (later : quoted? cs = some (ps, rest)) :
    quoted? (escape c ++ cs) = some (.whole c :: ps, rest) := by
  have same {d : Char} (code : c.toNat = d.toNat) : c = d :=
    Char.ext (UInt32.toNat_inj.1 code)
  unfold escape
  split_ifs with signs feed carriage tab back form control
  · rcases signs with rfl | rfl <;> simp [quoted?, simpleEscape?, later]
  · subst feed
    simp [quoted?, simpleEscape?, later]
  · subst carriage
    simp [quoted?, simpleEscape?, later]
  · subst tab
    simp [quoted?, simpleEscape?, later]
  · obtain rfl := same (d := Char.ofNat 8) back
    simp [quoted?, simpleEscape?, later]
  · obtain rfl := same (d := Char.ofNat 12) form
    simp [quoted?, simpleEscape?, later]
  · have high := hexDigit?_digitChar (c.toNat / 16) (by omega)
    have low := hexDigit?_digitChar (c.toNat % 16) (by omega)
    have unit : codeUnit? '0' '0' (Nat.digitChar (c.toNat / 16)) (Nat.digitChar (c.toNat % 16)) =
        some c.toNat := by
      have zero : hexDigit? '0' = some 0 := rfl
      simp only [codeUnit?, zero, high, low, Option.pure_def, Option.bind_eq_bind, Option.bind_some,
        Option.some.injEq]
      omega
    have plain : piece c.toNat = .whole c := by
      rw [piece, if_neg (by omega), Char.ofNat_toNat]
    rw [hex4_of_lt (by omega)]
    simp [quoted?, unit, later, plain]
  · have plain : c ≠ '"' ∧ c ≠ '\\' := not_or.1 signs
    rw [List.singleton_append, quoted?]
    · simp [plain.2, later, Nat.le_of_not_lt control]
    · exact fun quotes => plain.1 quotes
    all_goals simp [plain.2]

theorem quoted?_quote (cs rest : List Char) :
    quoted? (cs.flatMap escape ++ '"' :: rest) = some (cs.map .whole, rest) := by
  induction cs with
  | nil => rfl
  | cons c cs ih =>
    rw [List.flatMap_cons, List.append_assoc]
    exact quoted?_escape c ih

theorem characters?_whole (cs : List Char) : characters? (cs.map .whole) = some cs := by
  induction cs with
  | nil => rfl
  | cons c cs ih => simp [characters?, ih]

theorem token?_quote (s : String) (rest : List Char) :
    token? (quote s ++ rest) = some (.text (some s), rest) := by
  have spelled : quote s ++ rest = '"' :: (s.toList.flatMap escape ++ '"' :: rest) := by
    simp [quote]
  rw [spelled, token?, quoted?_quote]
  simp [Token.ofPieces, characters?_whole]

theorem token?_literal {cs rest : List Char} {l : JsonNumber.Literal}
    (read : JsonNumber.literal? cs = some (l, [])) (ends : JsonNumber.Ends rest) :
    token? (cs ++ rest) = some (.number l.toNumber?, rest) := by
  obtain ⟨c, cs, rfl, sign⟩ := JsonNumber.literal?_head read
  have whole := JsonNumber.literal?_leavesRest ends read
  rw [List.cons_append] at whole ⊢
  have other (d : Char) (minus : d ≠ '-') (digit : JsonNumber.isDigit d = false) : c ≠ d := by
    rintro rfl
    rcases sign with rfl | isDigit
    · exact minus rfl
    · rw [digit] at isDigit
      cases isDigit
  have plain : isPunctuation c = false := by
    simp [isPunctuation, other '[' (by decide) rfl, other ']' (by decide) rfl,
      other '\x7b' (by decide) rfl, other '\x7d' (by decide) rfl, other ',' (by decide) rfl,
      other ':' (by decide) rfl]
  rw [token?, plain, if_neg (by simp), whole]
  · rfl
  · exact fun _ first => absurd first (other 'n' (by decide) rfl)
  · exact fun _ first => absurd first (other 't' (by decide) rfl)
  · exact fun _ first => absurd first (other 'f' (by decide) rfl)
  · exact other '"' (by decide) rfl

theorem isPunctuation_iff {c : Char} :
    isPunctuation c = true ↔ c ∈ ['[', ']', '\x7b', '\x7d', ',', ':'] := by
  simp [isPunctuation, or_assoc]

theorem token?_punctuation {c : Char} (mark : isPunctuation c = true) (rest : List Char) :
    token? (c :: rest) = some (.punctuation c, rest) := by
  have other (d : Char) (plain : isPunctuation d = false) : c ≠ d := by
    rintro rfl
    rw [plain] at mark
    cases mark
  rw [token?, if_pos mark]
  · exact fun _ first => absurd first (other 'n' rfl)
  · exact fun _ first => absurd first (other 't' rfl)
  · exact fun _ first => absurd first (other 'f' rfl)
  · exact other '"' rfl

inductive Cut : List Char → List Token → Prop
  | nil : Cut [] []
  | blank {c : Char} {cs : List Char} {ts : List Token} :
    isBlank c = true → Cut cs ts → Cut (c :: cs) ts
  | token {c : Char} {cs rest : List Char} {t : Token} {ts : List Token} :
    isBlank c = false → token? (c :: cs) = some (t, rest) → rest.length ≤ cs.length → Cut rest ts →
      Cut (c :: cs) (t :: ts)

/-- There are never more tokens than characters. -/
theorem Cut.tokensFrom? {cs : List Char} {ts : List Token} (cut : Cut cs ts) {steps : Nat}
    (enough : cs.length < steps) : tokensFrom? steps cs = some ts := by
  induction cut generalizing steps with
  | nil =>
    obtain ⟨steps, rfl⟩ := Nat.exists_eq_succ_of_ne_zero (Nat.ne_zero_of_lt enough)
    rfl
  | blank space _ ih =>
    rw [← ih (Nat.lt_of_succ_lt enough)]
    obtain ⟨steps, rfl⟩ := Nat.exists_eq_succ_of_ne_zero (Nat.ne_zero_of_lt enough)
    simp [Json.tokensFrom?, space]
  | token plain first shorter _ ih =>
    obtain ⟨steps, rfl⟩ := Nat.exists_eq_succ_of_ne_zero (Nat.ne_zero_of_lt enough)
    simp only [List.length_cons] at enough
    simp [Json.tokensFrom?, plain, first, ih (show _ < steps by omega)]

theorem Cut.tokens? {s : String} {ts : List Token} (cut : Cut s.toList ts) : tokens? s = some ts :=
  cut.tokensFrom? (Nat.lt_succ_self _)

theorem Cut.blanks {blanks cs : List Char} {ts : List Token} (cut : Cut cs ts)
    (all : ∀ c ∈ blanks, isBlank c = true) : Cut (blanks ++ cs) ts := by
  induction blanks with
  | nil => exact cut
  | cons c blanks ih =>
    exact .blank (all c List.mem_cons_self) (ih fun d member => all d (List.mem_cons_of_mem _ member))

theorem Cut.newline {cs : List Char} {ts : List Token} (cut : Cut cs ts) (depth : Nat) :
    Cut (newline depth ++ cs) ts := by
  refine cut.blanks fun c member => ?_
  rcases List.mem_cons.1 member with rfl | space
  · rfl
  · rw [(List.mem_replicate.1 space).2]
    rfl

theorem Cut.punctuation {cs : List Char} {ts : List Token} (cut : Cut cs ts) {c : Char}
    (mark : isPunctuation c = true) : Cut (c :: cs) (.punctuation c :: ts) := by
  have plain : ∀ d ∈ ['[', ']', '\x7b', '\x7d', ',', ':'], isBlank d = false := by simp [isBlank]
  exact .token (plain c (isPunctuation_iff.1 mark)) (token?_punctuation mark cs) (Nat.le_refl _) cut

/-- The characters are cut into the tokens, whatever comes after them that does not go on with a
literal. -/
def Spells (cs : List Char) (ts : List Token) : Prop :=
  ∀ (rest : List Char) (later : List Token), JsonNumber.Ends rest → Cut rest later →
    Cut (cs ++ rest) (ts ++ later)

/-- What is read as one token spells it. -/
theorem spells_token {c : Char} {cs : List Char} {t : Token} (plain : isBlank c = false)
    (read : ∀ rest, JsonNumber.Ends rest → token? (c :: cs ++ rest) = some (t, rest)) :
    Spells (c :: cs) [t] := by
  intro rest later ends cut
  have shorter : rest.length ≤ (cs ++ rest).length := by simp
  exact .token plain (read rest ends) shorter cut

theorem spells_null : Spells "null".toList [.null] :=
  spells_token rfl fun _ _ => rfl

theorem spells_bool (b : Bool) : Spells (boolText b) [.bool b] := by
  cases b
  · exact spells_token rfl fun _ _ => rfl
  · exact spells_token rfl fun _ _ => rfl

theorem spells_quote (s : String) : Spells (quote s) [.text (some s)] :=
  spells_token rfl fun rest _ => token?_quote s rest

theorem spells_number {n : JsonNumber} (readsBack : n.ReadsBack) :
    Spells n.text [.number (some n)] := by
  obtain ⟨l, read, value⟩ := readsBack
  obtain ⟨c, cs, spelled, sign⟩ := JsonNumber.literal?_head read
  rw [← value]
  rw [spelled] at read ⊢
  refine spells_token ?_ fun rest ends => token?_literal read ends
  rw [Bool.eq_false_iff]
  intro blank
  simp only [isBlank, Bool.or_eq_true, decide_eq_true_eq] at blank
  rcases blank with ((rfl | rfl) | rfl) | rfl <;> revert sign <;> decide

end RoutePlane.Json
