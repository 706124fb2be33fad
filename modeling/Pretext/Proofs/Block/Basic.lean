import Mathlib.Data.List.Flatten
import Pretext.Block.Basic

/-! The sentences of a block as stretches of one sequence of tokens, and when a channel goes along with
them. Every token of that sequence is one of a sentence, and where it stands is told by the lengths of the
sentences before. Values are refused for the first sentence that has another number of them than of tokens,
and for nothing else where there are as many rows of values as sentences. -/
namespace Pretext

section

variable {sentences : List Sentence} {sentence : Sentence} {number position index : Nat}

/-- The tokens before a sentence, its own, and those behind it. -/
theorem flatten_eq_append (h : sentences[number]? = some sentence) :
    sentences.flatten = (sentences.take number).flatten ++
      (sentence ++ (sentences.drop (number + 1)).flatten) := by
  obtain ⟨hNumber, rfl⟩ := List.getElem?_eq_some_iff.mp h
  rw [← List.flatten_cons, ← List.drop_eq_getElem_cons hNumber, ← List.flatten_append,
    List.take_append_drop]

/-- The tokens of a sentence, found in the whole sequence behind those of the sentences before. -/
theorem getElem?_flatten_of_lt (h : sentences[number]? = some sentence)
    (hIndex : index < sentence.length) :
    sentences.flatten[(sentences.take number).flatten.length + index]? = sentence[index]? := by
  rw [flatten_eq_append h, List.getElem?_append_right (Nat.le_add_right ..), Nat.add_sub_cancel_left,
    List.getElem?_append_left hIndex]

/-- Every token of the sequence stands somewhere in a sentence. -/
theorem exists_sentence_of_lt (h : position < sentences.flatten.length) :
    ∃ number sentence index, sentences[number]? = some sentence ∧ index < sentence.length
      ∧ position = (sentences.take number).flatten.length + index := by
  induction sentences generalizing position with
  | nil => exact absurd h (Nat.not_lt_zero position)
  | cons sentence rest ih =>
      rw [List.flatten_cons, List.length_append] at h
      rcases Nat.lt_or_ge position sentence.length with hInside | hBehind
      · exact ⟨0, sentence, position, rfl, hInside, (Nat.zero_add position).symm⟩
      · obtain ⟨number, later, index, hLater, hIndex, hPosition⟩ :=
          @ih (position - sentence.length) (by omega)
        refine ⟨number + 1, later, index, hLater, hIndex, ?_⟩
        rw [List.take_succ_cons, List.flatten_cons, List.length_append]
        omega

theorem length_flatten_take_le (sentences : List Sentence) {first last : Nat} (h : first ≤ last) :
    (sentences.take first).flatten.length ≤ (sentences.take last).flatten.length :=
  ((List.take_sublist_take_left h).flatten).length_le

end

namespace Block

/-- The positions between the tokens of a block at which a sentence begins or ends. -/
def boundaries (block : Block) : List Nat :=
  (List.range (block.sentences.length + 1)).map fun number =>
    (block.sentences.take number).flatten.length

variable {block : Block} {sentence : Sentence} {number position index : Nat}

/-- A boundary is the length of some sentences taken together, of none of them too. -/
theorem mem_boundaries :
    position ∈ block.boundaries ↔
      ∃ number ≤ block.sentences.length, (block.sentences.take number).flatten.length = position := by
  simp only [boundaries, List.mem_map, List.mem_range, Nat.lt_succ_iff]

/-- Among the positions of a sentence's tokens only the first is a boundary. -/
theorem mem_boundaries_of_sentence (hSentence : block.sentences[number]? = some sentence)
    (hIndex : index < sentence.length) :
    (block.sentences.take number).flatten.length + index ∈ block.boundaries ↔ index = 0 := by
  have hNumber := (List.getElem?_eq_some_iff.mp hSentence).1
  rw [mem_boundaries]
  constructor
  · rintro ⟨other, -, hOther⟩
    have hNext : (block.sentences.take (number + 1)).flatten.length =
        (block.sentences.take number).flatten.length + sentence.length := by
      rw [List.take_add_one, hSentence]
      simp
    rcases Nat.lt_or_ge number other with hLater | hEarlier
    · have hLe := length_flatten_take_le block.sentences (show number + 1 ≤ other from hLater)
      omega
    · have hLe := length_flatten_take_le block.sentences hEarlier
      omega
  · rintro rfl
    exact ⟨number, Nat.le_of_lt hNumber, rfl⟩

/-- The sentence with a number has `tokens` tokens and another number of values, `marks`. -/
def Differ (sentences : List Sentence) (values : List (List UInt32)) (number tokens marks : Nat) :
    Prop :=
  tokens ≠ marks ∧ sentences[number]?.map List.length = some tokens
    ∧ values[number]?.map List.length = some marks

/-- The auxiliary channel of the block has not as many values for the sentence with a number as the
sentence has tokens. -/
def Uneven (block : Block) (number tokens marks : Nat) : Prop :=
  ∃ values ∈ block.auxiliary, Differ block.sentences values number tokens marks

/-- The block has as many sentences in its second tokenization as it has itself, if it has one. -/
def Accompanied (block : Block) : Prop :=
  ∀ alternate ∈ block.alternate, alternate.sentences.length = block.sentences.length

variable {sentences : List Sentence} {values : List (List UInt32)} {first tokens marks : Nat}
  {cause : Misalignment}

/-- Where no uneven sentence is found there is none. -/
theorem not_differ_of_firstUneven (h : firstUneven first sentences values = none) :
    ¬ Differ sentences values number tokens marks := by
  rintro ⟨hNe, hTokens, hMarks⟩
  induction sentences generalizing first values number with
  | nil => simp at hTokens
  | cons sentence rest ih =>
      cases values with
      | nil => simp at hMarks
      | cons row values =>
          rw [firstUneven] at h
          split at h
          · rename_i hFirst
            cases number with
            | zero =>
                simp only [List.getElem?_cons_zero, Option.map_some, Option.some.injEq] at hTokens hMarks
                omega
            | succ number => exact ih h hTokens hMarks
          · cases h

/-- The uneven sentence that is found is one, and it is the first. -/
theorem differ_of_firstUneven (h : firstUneven first sentences values = some cause) :
    ∃ number tokens marks, cause = .valueCount (first + number) tokens marks
      ∧ Differ sentences values number tokens marks
      ∧ ∀ other tokens marks, Differ sentences values other tokens marks → number ≤ other := by
  induction sentences generalizing first values with
  | nil => cases h
  | cons sentence rest ih =>
      cases values with
      | nil => cases h
      | cons row values =>
          rw [firstUneven] at h
          split at h
          · rename_i hFirst
            obtain ⟨number, tokens, marks, rfl, hDiffer, hLeast⟩ := ih h
            refine ⟨number + 1, tokens, marks, by rw [Nat.add_right_comm, Nat.add_assoc], hDiffer, ?_⟩
            rintro other tokens marks ⟨hNe, hTokens, hMarks⟩
            cases other with
            | zero =>
                simp only [List.getElem?_cons_zero, Option.map_some, Option.some.injEq] at hTokens hMarks
                omega
            | succ other => exact Nat.succ_le_succ (hLeast other tokens marks ⟨hNe, hTokens, hMarks⟩)
          · rename_i hFirst
            cases h
            exact ⟨0, _, _, rfl, ⟨hFirst, rfl, rfl⟩, fun other _ _ _ => Nat.zero_le other⟩

/-- Where no sentence has another number of values than of tokens, the rows are as long as the
sentences. -/
theorem map_length_eq_of_even (hLength : values.length = sentences.length)
    (hEven : ∀ number tokens marks, ¬ Differ sentences values number tokens marks) :
    values.map List.length = sentences.map List.length := by
  apply List.ext_getElem?
  intro number
  rw [List.getElem?_map, List.getElem?_map]
  cases hSentence : sentences[number]? with
  | none =>
      have hOutside := List.getElem?_eq_none_iff.mp hSentence
      rw [List.getElem?_eq_none (hLength ▸ hOutside)]
  | some sentence =>
      have hInside := (List.getElem?_eq_some_iff.mp hSentence).1
      have hRow := List.getElem?_eq_getElem (hLength.symm ▸ hInside : number < values.length)
      generalize values[number] = row at hRow
      have hSame : sentence.length = row.length := by
        apply Decidable.byContradiction
        intro hNe
        exact hEven number _ _ ⟨hNe, by rw [hSentence, Option.map_some], by rw [hRow, Option.map_some]⟩
      rw [hRow, Option.map_some, Option.map_some, hSame]

/-- Values are attached if there is one for each token. -/
theorem withAuxiliary_of_even (hLength : values.length = block.sentences.length)
    (hEven : ∀ number tokens marks, ¬ Differ block.sentences values number tokens marks) :
    block.withAuxiliary values = .ok { block with auxiliary := some values } := by
  rw [withAuxiliary, if_neg (not_not_intro hLength)]
  cases hFound : firstUneven 0 block.sentences values with
  | none => rfl
  | some cause =>
      obtain ⟨_, _, _, -, hDiffer, -⟩ := differ_of_firstUneven hFound
      exact absurd hDiffer (hEven _ _ _)

/-- Otherwise the first sentence is named for which there is not. -/
theorem withAuxiliary_of_differ (hLength : values.length = block.sentences.length)
    (h : Differ block.sentences values number tokens marks) :
    ∃ number tokens marks, Differ block.sentences values number tokens marks
      ∧ (∀ other tokens marks, Differ block.sentences values other tokens marks → number ≤ other)
      ∧ block.withAuxiliary values =
        .error (.misaligned .auxiliary (.valueCount number tokens marks)) := by
  rw [withAuxiliary, if_neg (not_not_intro hLength)]
  cases hFound : firstUneven 0 block.sentences values with
  | none => exact absurd h (not_differ_of_firstUneven hFound)
  | some cause =>
      obtain ⟨number, tokens, marks, rfl, hDiffer, hLeast⟩ := differ_of_firstUneven hFound
      exact ⟨number, tokens, marks, hDiffer, hLeast, by rw [Nat.zero_add]⟩

/-- A second tokenization is attached if it has as many sentences. How long they are does not
matter. -/
theorem withAlternate_of_length {alternate : Alternate}
    (h : alternate.sentences.length = block.sentences.length) :
    block.withAlternate alternate = .ok { block with alternate := some alternate } := by
  rw [withAlternate, if_neg (not_not_intro h)]

end Block

end Pretext
