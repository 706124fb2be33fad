import Mathlib.Data.List.Forall2
import Pretext.Json.Value
import Pretext.Proofs.Json.Numeral
import Pretext.Proofs.Json.Tokens

/-! What is written is read again. Every way to write a document has the tokens of the document, whatever
is written behind it, so that documents can be put together from others. -/
namespace Pretext.Json

/-- No character follows that would belong to a numeral before it. -/
def EndsNumeral (rest : List Char) : Prop :=
  ∀ c ∈ rest.head?, isNumeralChar c = false

/-- A text has some tokens, whatever follows that ends it. -/
def Scans (text : String) (tokens : List Token) : Prop :=
  ∀ rest, EndsNumeral rest →
    scanFrom .nothing (text.toList ++ rest) = tokens ++ scanFrom .nothing rest

/-- A text is a token by itself, in front of anything, and ends the numeral before it. -/
def Marks (mark : String) (token : Token) : Prop :=
  ∀ rest, EndsNumeral (mark.toList ++ rest)
    ∧ scanFrom .nothing (mark.toList ++ rest) = token :: scanFrom .nothing rest

/-- A text has the tokens of a document. -/
def Spells (text : String) (value : Value) : Prop :=
  Scans text value.tokens

/-- A character that stands for itself inside quotes. -/
def isPlain (c : Char) : Bool :=
  c != '"' && c != '\\' && 0x20 ≤ c.toNat

section

variable {read : List Char} {codes : List Nat} {chars rest : List Char} {c : Char}

/-- A numeral is scanned to its end, which is the first character that cannot be part of one. -/
theorem scanFrom_numeral (hChars : ∀ c ∈ chars, isNumeralChar c = true) (hRest : EndsNumeral rest) :
    scanFrom (.numeral read) (chars ++ rest) =
      numeralToken (read.reverse ++ chars) :: scanFrom .nothing rest := by
  induction chars generalizing read with
  | nil =>
      rw [List.append_nil, List.nil_append]
      cases rest with
      | nil => rfl
      | cons c rest =>
          have hEnd : isNumeralChar c = false := hRest c rfl
          rw [scanFrom, Pending.step, if_neg (by simp [hEnd])]
          rfl
  | cons c chars ih =>
      obtain ⟨hFirst, hChars⟩ := List.forall_mem_cons.mp hChars
      rw [List.cons_append, scanFrom, Pending.step, if_pos hFirst, List.nil_append, ih hChars,
        List.reverse_cons, List.append_assoc]
      rfl

/-- A text without escapes is scanned to the next quotation mark. -/
theorem scanFrom_text (hChars : chars.all isPlain = true) :
    scanFrom (.text codes) (chars ++ '"' :: rest) =
      textToken (codes.reverse ++ chars.map Char.toNat) :: scanFrom .nothing rest := by
  induction chars generalizing codes with
  | nil =>
      rw [List.map_nil, List.append_nil]
      rfl
  | cons c chars ih =>
      rw [List.all_cons, Bool.and_eq_true, isPlain, Bool.and_eq_true, Bool.and_eq_true, bne_iff_ne,
        bne_iff_ne, decide_eq_true_iff] at hChars
      obtain ⟨⟨⟨hQuote, hEscape⟩, hControl⟩, hChars⟩ := hChars
      rw [List.cons_append, scanFrom, Pending.step, if_neg hQuote, if_neg hEscape,
        if_neg (Nat.not_lt.mpr hControl), List.nil_append, ih hChars, List.reverse_cons,
        List.append_assoc]
      rfl

/-- No character is half of another. -/
theorem joinHalves_toNat (chars : List Char) : joinHalves (chars.map Char.toNat) = some chars := by
  have hWhole : ∀ c : Char, isHighHalf c.toNat = false ∧ isLowHalf c.toNat = false := by
    intro c
    have hValid : c.toNat < 0xD800 ∨ 0xDFFF < c.toNat ∧ c.toNat < 0x110000 := c.valid
    simp only [isHighHalf, isLowHalf, Bool.and_eq_false_iff, decide_eq_false_iff_not]
    omega
  induction chars with
  | nil => rfl
  | cons c chars ih =>
      obtain ⟨hHigh, hLow⟩ := hWhole c
      cases chars with
      | nil => simp [joinHalves, hHigh, hLow]
      | cons next chars =>
          rw [List.map_cons] at ih
          simp [joinHalves, hHigh, hLow, ih]

theorem beginToken_of_isDigit (h : c.isDigit = true) : beginToken c = ([], .numeral [c]) := by
  have hNe : ∀ other : Char, other.isDigit = false → c ≠ other := by
    rintro other hOther rfl
    rw [h] at hOther
    cases hOther
  simp [beginToken, isNumeralChar, h, hNe]

theorem endsNumeral_nil : EndsNumeral [] := by
  intro c hc
  cases hc

theorem endsNumeral_cons (h : isNumeralChar c = false) : EndsNumeral (c :: rest) := by
  intro first hFirst
  cases hFirst
  exact h

end

section

variable {text first second name opening closing mark : String} {before after between : Token}
  {tokens more : List Token} {texts : List String} {parts : List (List Token)} {value : Value}
  {values : List Value}
  {members : List (String × String)} {entries : List (Option String × Value)}

/-- A numeral at the end is no trouble: what closes a document ends it. -/
theorem Scans.enclosed (hOpening : Marks opening before) (hClosing : Marks closing after)
    (h : Scans text tokens) :
    Scans (opening ++ text ++ closing) (before :: (tokens ++ [after])) := by
  intro rest hRest
  obtain ⟨hEnds, hClosed⟩ := hClosing rest
  obtain ⟨_, hOpened⟩ := hOpening (text.toList ++ (closing.toList ++ rest))
  rw [String.toList_append, String.toList_append, List.append_assoc, List.append_assoc, hOpened,
    h _ hEnds, hClosed, List.cons_append, List.append_assoc, List.singleton_append]

/-- Two spellings with a mark between them are scanned one after the other. -/
theorem Scans.separated (hMark : Marks mark between) (hFirst : Scans first tokens)
    (hSecond : Scans second more) :
    Scans (first ++ mark ++ second) (tokens ++ between :: more) := by
  intro rest hRest
  obtain ⟨hEnds, hMarked⟩ := hMark (second.toList ++ rest)
  rw [String.toList_append, String.toList_append, List.append_assoc, List.append_assoc,
    hFirst _ hEnds, hMarked, hSecond rest hRest, List.append_assoc, List.cons_append]

/-- A member, whose name is not escaped. -/
theorem Scans.member (hName : name.toList.all isPlain = true) (hText : Scans text tokens) :
    Scans ("\"" ++ name ++ "\":" ++ text) (.text (some name) :: .colon :: tokens) := by
  intro rest hRest
  have hQuoted : scanFrom (.text []) (name.toList ++ '"' :: ':' :: (text.toList ++ rest)) =
      .text (some name) :: .colon :: scanFrom .nothing (text.toList ++ rest) := by
    rw [scanFrom_text hName, List.reverse_nil, List.nil_append, textToken, joinHalves_toNat,
      Option.map_some, String.ofList_toList]
    rfl
  rw [String.toList_append, String.toList_append, String.toList_append, List.append_assoc,
    List.append_assoc, List.append_assoc]
  change scanFrom (.text []) (name.toList ++ '"' :: ':' :: (text.toList ++ rest)) = _
  rw [hQuoted, hText rest hRest]
  rfl

theorem marks_comma : Marks "," .comma :=
  fun _ => ⟨endsNumeral_cons rfl, rfl⟩

theorem scans_separated (h : List.Forall₂ Scans texts parts) :
    Scans (separated texts) ([Token.comma].intercalate parts) := by
  induction h with
  | nil =>
      intro rest _
      rfl
  | cons hFirst hRest ih =>
      cases hRest with
      | nil =>
          rw [List.intercalate_singleton]
          exact hFirst
      | cons hNext hRest =>
          rw [List.intercalate_cons_cons, List.append_assoc]
          exact hFirst.separated marks_comma ih

/-- The tokens of an array have commas between those of its items. -/
theorem itemTokens_eq (values : List Value) :
    Value.itemTokens values = [Token.comma].intercalate (values.map Value.tokens) := by
  induction values with
  | nil => rfl
  | cons value values ih =>
      cases values with
      | nil => rw [Value.itemTokens, List.map_singleton, List.intercalate_singleton]
      | cons next values =>
          rw [List.map_cons] at ih
          rw [Value.itemTokens, ih, List.map_cons, List.map_cons, List.intercalate_cons_cons,
            List.append_assoc, List.singleton_append]

/-- The tokens of an object have commas between those of its members. -/
theorem memberTokens_eq (entries : List (Option String × Value)) :
    Value.memberTokens entries =
      [Token.comma].intercalate
        (entries.map fun entry => .text entry.1 :: .colon :: entry.2.tokens) := by
  induction entries with
  | nil => rfl
  | cons entry entries ih =>
      cases entries with
      | nil => rw [Value.memberTokens, List.map_singleton, List.intercalate_singleton]
      | cons next entries =>
          rw [List.map_cons] at ih
          rw [Value.memberTokens, ih, List.map_cons, List.map_cons, List.intercalate_cons_cons,
            List.append_assoc, List.singleton_append, List.cons_append, List.cons_append]

/-- An array is spelled if its items are. -/
theorem spells_array (h : List.Forall₂ Spells texts values) :
    Spells (array texts) (.array values) := by
  rw [Spells, Value.tokens, itemTokens_eq]
  have hOpening : Marks "[" .openArray := fun rest => ⟨endsNumeral_cons rfl, rfl⟩
  have hClosing : Marks "]" .closeArray := fun rest => ⟨endsNumeral_cons rfl, rfl⟩
  exact (scans_separated (List.forall₂_map_right_iff.mpr h)).enclosed hOpening hClosing

/-- An object is spelled if the values of its members are. Their names need no escapes. -/
theorem spells_object
    (h : List.Forall₂ (fun (member : String × String) (entry : Option String × Value) =>
      entry.1 = some member.1 ∧ member.1.toList.all isPlain = true ∧ Spells member.2 entry.2)
      members entries) :
    Spells (object members) (.object entries) := by
  rw [Spells, Value.tokens, memberTokens_eq]
  have hOpening : Marks "\x7b" .openObject := fun rest => ⟨endsNumeral_cons rfl, rfl⟩
  have hClosing : Marks "\x7d" .closeObject := fun rest => ⟨endsNumeral_cons rfl, rfl⟩
  refine (scans_separated ?_).enclosed hOpening hClosing
  rw [List.forall₂_map_left_iff, List.forall₂_map_right_iff]
  refine h.imp ?_
  rintro member ⟨name, entry⟩ ⟨rfl, hName, hEntry⟩
  exact hEntry.member hName

/-- A number is spelled by its digits, as long as no others follow. -/
theorem spells_nat (number : Nat) : Spells (toString number) (.number (.ofNat number)) := by
  intro rest hRest
  have hDigits : ∀ c ∈ Nat.toDigits 10 number, c.isDigit = true :=
    fun c hc => isDigit_of_mem_toDigits hc
  obtain ⟨first, others, hSpelled⟩ := List.exists_cons_of_ne_nil (@Nat.toDigits_ne_nil number 10)
  rw [Nat.toString_eq_ofList_toDigits, String.toList_ofList]
  rw [hSpelled] at hDigits ⊢
  obtain ⟨hFirst, hOthers⟩ := List.forall_mem_cons.mp hDigits
  have hNumeral : ∀ c ∈ others, isNumeralChar c = true := by
    intro c hc
    simp [isNumeralChar, hOthers c hc]
  rw [List.cons_append, scanFrom, Pending.step, beginToken_of_isDigit hFirst, List.nil_append,
    scanFrom_numeral hNumeral hRest, List.reverse_singleton, List.singleton_append, ← hSpelled,
    numeralToken_toDigits]
  rfl

theorem spells_uint64 (number : UInt64) :
    Spells (toString number) (.number (.ofNat number.toNat)) :=
  spells_nat number.toNat

/-- A document is read as it was written. -/
theorem first?_of_spells (h : Spells text value) : first? text = some (value, []) := by
  have hScan : scan text = value.tokens := by
    have hText := h [] endsNumeral_nil
    rw [List.append_nil] at hText
    rw [scan, hText]
    exact List.append_nil _
  have hRead := readValue_tokens value [] (Nat.le_add_right (2 * value.tokens.length) 1)
  rw [List.append_nil] at hRead
  rw [first?, hScan]
  exact hRead

end

end Pretext.Json
