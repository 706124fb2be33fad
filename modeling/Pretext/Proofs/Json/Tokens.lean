import Pretext.Json.Value

/-! The tokens of a document. They are read as the document, whatever follows them. -/
namespace Pretext.Json

namespace Value

mutual

/-- The tokens of a document. -/
def tokens : Value → List Token
  | .null => [.null]
  | .bool value => [.bool value]
  | .number numeral => [.number numeral]
  | .text chars => [.text chars]
  | .array items => .openArray :: (itemTokens items ++ [.closeArray])
  | .object members => .openObject :: (memberTokens members ++ [.closeObject])

/-- The tokens of the items of an array, with commas between them. -/
def itemTokens : List Value → List Token
  | [] => []
  | [item] => item.tokens
  | item :: next :: rest => item.tokens ++ .comma :: itemTokens (next :: rest)

/-- The tokens of the members of an object, with commas between them. -/
def memberTokens : List (Option String × Value) → List Token
  | [] => []
  | [(name, value)] => .text name :: .colon :: value.tokens
  | (name, value) :: next :: rest =>
    .text name :: .colon :: (value.tokens ++ .comma :: memberTokens (next :: rest))

end

end Value

section

variable {fuel : Nat} {tokens more rest : List Token} {item value : Value} {items : List Value}
  {name : Option String} {members : List (Option String × Value)}

/-- An item before the end of an array is its last. -/
theorem readItems_last (h : readValue fuel tokens = some (item, .closeArray :: rest)) :
    readItems (fuel + 1) tokens = some ([item], rest) := by
  rw [readItems, h]

theorem readItems_more (h : readValue fuel tokens = some (item, .comma :: more))
    (hMore : readItems fuel more = some (items, rest)) :
    readItems (fuel + 1) tokens = some (item :: items, rest) := by
  rw [readItems, h]
  simp only [hMore, Option.map_some]

theorem readMembers_last (h : readValue fuel tokens = some (value, .closeObject :: rest)) :
    readMembers (fuel + 1) (.text name :: .colon :: tokens) = some ([(name, value)], rest) := by
  rw [readMembers, h]

theorem readMembers_more (h : readValue fuel tokens = some (value, .comma :: more))
    (hMore : readMembers fuel more = some (members, rest)) :
    readMembers (fuel + 1) (.text name :: .colon :: tokens) =
      some ((name, value) :: members, rest) := by
  rw [readMembers, h]
  simp only [hMore, Option.map_some]

/-- No item begins with the end of an array. An empty array is read without asking for one. -/
theorem readItems_closeArray (fuel : Nat) (rest : List Token) :
    readItems fuel (.closeArray :: rest) = none := by
  rcases fuel with _ | _ | fuel <;> rfl

/-- No item begins with the end of an array. -/
theorem readValue_array (h : readItems fuel tokens = some (items, rest)) :
    readValue (fuel + 1) (.openArray :: tokens) = some (.array items, rest) := by
  have hItem : ∀ more, tokens ≠ .closeArray :: more := by
    rintro more rfl
    rw [readItems_closeArray] at h
    cases h
  rw [readValue, h]
  · rfl
  · exact hItem

theorem readMembers_closeObject (fuel : Nat) (rest : List Token) :
    readMembers fuel (.closeObject :: rest) = none := by
  cases fuel <;> rfl

/-- No member begins with the end of an object. -/
theorem readValue_object (h : readMembers fuel tokens = some (members, rest)) :
    readValue (fuel + 1) (.openObject :: tokens) = some (.object members, rest) := by
  have hMember : ∀ more, tokens ≠ .closeObject :: more := by
    rintro more rfl
    rw [readMembers_closeObject] at h
    cases h
  rw [readValue, h]
  · rfl
  · exact hMember

end

/-- Every value takes a token at least, and so reading one comes closer to the end. -/
theorem Value.length_tokens_pos (value : Value) : 0 < value.tokens.length := by
  cases value <;> simp [tokens]

/-- Each step of reading takes one off the fuel, and so the induction is on the fuel, for documents, items
and members at once. -/
private theorem read_tokens (fuel : Nat) :
    (∀ (value : Value) (rest : List Token), 2 * value.tokens.length ≤ fuel →
      readValue fuel (value.tokens ++ rest) = some (value, rest))
    ∧ (∀ (item : Value) (items : List Value) (rest : List Token),
      2 * (Value.itemTokens (item :: items)).length + 1 ≤ fuel →
      readItems fuel (Value.itemTokens (item :: items) ++ .closeArray :: rest) =
        some (item :: items, rest))
    ∧ ∀ (member : Option String × Value) (members : List (Option String × Value))
      (rest : List Token), 2 * (Value.memberTokens (member :: members)).length + 1 ≤ fuel →
      readMembers fuel (Value.memberTokens (member :: members) ++ .closeObject :: rest) =
        some (member :: members, rest) := by
  induction fuel with
  | zero =>
      refine ⟨?_, ?_, ?_⟩
      · intro value rest h
        have hPos := value.length_tokens_pos
        omega
      · intro item items rest h
        omega
      · intro member members rest h
        omega
  | succ fuel ih =>
      obtain ⟨ihValue, ihItems, ihMembers⟩ := ih
      refine ⟨?_, ?_, ?_⟩
      · intro value rest h
        cases value with
        | null => rfl
        | bool value => rfl
        | number numeral => rfl
        | text chars => rfl
        | array items =>
            cases items with
            | nil => rfl
            | cons item items =>
                rw [Value.tokens, List.length_cons, List.length_append, List.length_singleton] at h
                rw [Value.tokens, List.cons_append, List.append_assoc]
                exact readValue_array (ihItems item items rest (by omega))
        | object members =>
            cases members with
            | nil => rfl
            | cons member members =>
                rw [Value.tokens, List.length_cons, List.length_append, List.length_singleton] at h
                rw [Value.tokens, List.cons_append, List.append_assoc]
                exact readValue_object (ihMembers member members rest (by omega))
      · intro item items rest h
        cases items with
        | nil =>
            rw [Value.itemTokens] at h ⊢
            exact readItems_last (ihValue item _ (by omega))
        | cons next items =>
            rw [Value.itemTokens, List.length_append, List.length_cons] at h
            rw [Value.itemTokens, List.append_assoc]
            exact readItems_more (ihValue item _ (by omega)) (ihItems next items rest (by omega))
      · rintro ⟨name, value⟩ members rest h
        cases members with
        | nil =>
            rw [Value.memberTokens, List.length_cons, List.length_cons] at h
            rw [Value.memberTokens]
            exact readMembers_last (ihValue value _ (by omega))
        | cons next members =>
            rw [Value.memberTokens, List.length_cons, List.length_cons, List.length_append,
              List.length_cons] at h
            rw [Value.memberTokens, List.cons_append, List.cons_append, List.append_assoc]
            exact readMembers_more (ihValue value _ (by omega))
              (ihMembers next members rest (by omega))

/-- The tokens of a document are read as the document, if there are two steps for each. -/
theorem readValue_tokens (value : Value) (rest : List Token) {fuel : Nat}
    (h : 2 * value.tokens.length ≤ fuel) :
    readValue fuel (value.tokens ++ rest) = some (value, rest) :=
  (read_tokens fuel).1 value rest h

end Pretext.Json
