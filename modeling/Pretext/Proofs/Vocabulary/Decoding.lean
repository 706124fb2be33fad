import Pretext.Proofs.Frame
import Pretext.Proofs.Text.Escape
import Pretext.Vocabulary.Basic

/-! Texts of framed tokens, and texts that are queries. What a frame adds does not show in a query, and
elsewhere shows as separators only. Whatever the tokens are spelled as, a query is escaped and has
three characters. -/
namespace Pretext.Vocabulary

variable {vocabulary : Vocabulary} {strict : Bool} {length : Nat} {ids others payload : List TokenId}
  {title : Option Sentence} {framed : Framed}

@[simp] theorem isShown_pad (vocabulary : Vocabulary) (strict : Bool) :
    vocabulary.isShown strict vocabulary.special.pad = false := by
  simp [isShown]

@[simp] theorem isShown_cls (vocabulary : Vocabulary) (strict : Bool) :
    vocabulary.isShown strict vocabulary.special.cls = false := by
  simp [isShown]

@[simp] theorem isShown_sep (vocabulary : Vocabulary) :
    vocabulary.isShown true vocabulary.special.sep = false := by
  simp [isShown]

/-- Tokens that are not shown have no say in a text. -/
theorem decode_congr
    (h : ids.filter (vocabulary.isShown strict) = others.filter (vocabulary.isShown strict)) :
    vocabulary.decode ids strict = vocabulary.decode others strict := by
  rw [decode, decode, h]

/-- The text of some tokens and of those behind them is put together from both. -/
theorem decode_append (vocabulary : Vocabulary) (ids others : List TokenId) :
    vocabulary.decode (ids ++ others) false =
      vocabulary.decode ids false ++ vocabulary.decode others false := by
  simp only [decode, surfaces, List.filter_append, List.map_append, joinPieces_append,
    Bool.false_eq_true, if_false]

theorem decode_cls_cons (vocabulary : Vocabulary) (ids : List TokenId) (strict : Bool) :
    vocabulary.decode (vocabulary.special.cls :: ids) strict = vocabulary.decode ids strict := by
  apply decode_congr
  rw [List.filter_cons_of_neg (by simp)]

/-- Padding does not change a text. -/
theorem decode_append_padding (vocabulary : Vocabulary) (ids : List TokenId) (padding : Nat)
    (strict : Bool) :
    vocabulary.decode (ids ++ List.replicate padding vocabulary.special.pad) strict =
      vocabulary.decode ids strict := by
  apply decode_congr
  rw [List.filter_append, List.filter_replicate_of_neg (by simp), List.append_nil]

theorem decode_append_sep (vocabulary : Vocabulary) (ids : List TokenId) :
    vocabulary.decode (ids ++ [vocabulary.special.sep]) true = vocabulary.decode ids true := by
  apply decode_congr
  rw [List.filter_append, List.filter_cons_of_neg (by simp), List.filter_nil, List.append_nil]

/-- The padding of a frame and its opening token never show. -/
theorem decode_of_holds (strict : Bool)
    (h : (Frame.ofSpecial vocabulary.special length).Holds payload title framed) :
    vocabulary.decode framed.tokens strict =
      vocabulary.decode
        ((Frame.ofSpecial vocabulary.special length).contents payload title).tail strict := by
  rw [h.tokens_eq]
  show vocabulary.decode (_ ++ List.replicate _ vocabulary.special.pad) strict = _
  rw [decode_append_padding]
  cases title with
  | none => exact vocabulary.decode_cls_cons _ strict
  | some title => exact vocabulary.decode_cls_cons _ strict

/-- The text that stands for too short a query is escaped itself. -/
theorem escaped_queryFiller : Text.Escaped queryFiller.toList :=
  Text.escape_eq_self_iff.mp (by decide)

/-- A strict text is escaped, also where it has been filled up. -/
theorem escaped_decode (vocabulary : Vocabulary) (ids : List TokenId) :
    Text.Escaped (vocabulary.decode ids true).toList := by
  rw [decode, if_pos rfl]
  dsimp only
  split
  · rw [String.toList_append]
    exact (Text.escaped_escape _).append escaped_queryFiller
  · exact Text.escaped_escape _

/-- A strict text is long enough to be used as a query. -/
theorem three_le_length_decode (vocabulary : Vocabulary) (ids : List TokenId) :
    3 ≤ (vocabulary.decode ids true).length := by
  rw [decode, if_pos rfl]
  dsimp only
  split
  · rw [String.length_append]
    exact Nat.le_add_left_of_le (by decide)
  · rename_i hLength
    exact Nat.le_of_not_lt hLength

/-- In a frame of the vocabulary's own special tokens, a payload makes the same query as alone, and in
other texts title and payload each have a separator behind them. The query of any tokens is safe: it
is long enough, and nothing in it has a meaning to the search. -/
theorem decode_framed (vocabulary : Vocabulary) :
    (∀ (length : Nat) (payload : List TokenId) (framed : Framed),
      (Frame.ofSpecial vocabulary.special length).fill payload none = .ok framed →
      vocabulary.decode framed.tokens true = vocabulary.decode payload true
        ∧ vocabulary.decode framed.tokens false =
          vocabulary.decode payload false ++ vocabulary.decode [vocabulary.special.sep] false)
    ∧ (∀ (length : Nat) (payload : List TokenId) (title : Sentence) (framed : Framed),
      (Frame.ofSpecial vocabulary.special length).fill payload (some title) = .ok framed →
      vocabulary.decode framed.tokens false =
        vocabulary.decode title false ++ vocabulary.decode [vocabulary.special.sep] false
          ++ vocabulary.decode payload false ++ vocabulary.decode [vocabulary.special.sep] false)
    ∧ ∀ ids : List TokenId,
      3 ≤ (vocabulary.decode ids true).length
        ∧ Text.Guarded (vocabulary.decode ids true).toList
        ∧ Text.escape (vocabulary.decode ids true) = vocabulary.decode ids true := by
  refine ⟨?_, ?_, ?_⟩
  · intro length payload framed h
    have hHolds := Frame.holds_of_fill h
    constructor
    · rw [decode_of_holds true hHolds]
      exact vocabulary.decode_append_sep payload
    · rw [decode_of_holds false hHolds]
      exact vocabulary.decode_append payload _
  · intro length payload title framed h
    rw [decode_of_holds false (Frame.holds_of_fill h)]
    show vocabulary.decode (title ++ ([vocabulary.special.sep]
      ++ (payload ++ [vocabulary.special.sep]))) false = _
    simp only [decode_append, String.append_assoc]
  · intro ids
    have hEscaped := vocabulary.escaped_decode ids
    exact ⟨vocabulary.three_le_length_decode ids, hEscaped.guarded,
      Text.escape_eq_self_iff.mpr hEscaped⟩

/-- Spellings with backslashes and with a reserved character, and one that is the mark alone. -/
def spiky : Vocabulary :=
  .ofTable ["[PAD]", "[UNK]", "[CLS]", "[SEP]", "[MASK]", "a\\", "##(\\", "##"] ⟨2, 3, 4, 0, 1⟩

/-- The payload has padding in it, and the title is a token outside the vocabulary. -/
theorem decode_framed_spiky :
    ∃ untitled titled,
      (Frame.ofSpecial spiky.special 8).fill [5, 6, 0, 7] none = .ok untitled
      ∧ (Frame.ofSpecial spiky.special 8).fill [5, 6, 0, 7] (some [9]) = .ok titled
      ∧ spiky.decode untitled.tokens true = " a\\("
      ∧ spiky.decode titled.tokens false = " [UNK] [SEP] a\\(\\ [SEP]"
      ∧ Text.Guarded " a\\(".toList := by
  have hPayload : spiky.decode [5, 6, 0, 7] true = " a\\(" := by decide +kernel
  have hParts : spiky.decode [9] false ++ spiky.decode [3] false ++ spiky.decode [5, 6, 0, 7] false
      ++ spiky.decode [3] false = " [UNK] [SEP] a\\(\\ [SEP]" := by decide +kernel
  obtain ⟨hUntitled, hTitled, hQueries⟩ := decode_framed spiky
  refine ⟨_, _, rfl, rfl, ?_, ?_, ?_⟩
  · rw [(hUntitled 8 [5, 6, 0, 7] _ rfl).1, hPayload]
  · rw [hTitled 8 [5, 6, 0, 7] [9] _ rfl]
    exact hParts
  · obtain ⟨-, hGuarded, -⟩ := hQueries [5, 6, 0, 7]
    rwa [hPayload] at hGuarded

end Pretext.Vocabulary
