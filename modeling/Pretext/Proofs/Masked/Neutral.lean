import Pretext.Proofs.Block.Basic
import Pretext.Proofs.Masked.Sample
import Pretext.Proofs.Word.Groups

/-! Channels that tell nothing new. Samples of a block are the same with and without values that mark
no token, and with and without a second tokenization that is the first. -/
namespace Pretext

namespace Candidates

/-- Where no word is marked, all are plain. -/
theorem separate_of_unmarked {marked : Span → Bool} {words : List Span}
    (h : ∀ word ∈ words, marked word = false) : separate marked none words = ⟨[], words⟩ := by
  induction words with
  | nil => rfl
  | cons word rest ih =>
      obtain ⟨hWord, hRest⟩ := List.forall_mem_cons.mp h
      simp [separate, hWord, ih hRest]

theorem isMarked_of_zero {values : List UInt32} (h : ∀ value ∈ values, value = 0) (span : Span) :
    isMarked values span = false := by
  simp only [isMarked, List.any_eq_false, Option.any_eq_true, not_exists, not_and]
  intro position _ value hValue
  simp [h value (List.mem_of_getElem? hValue)]

end Candidates

namespace Block

/-- The block alone, without its channels. -/
def bare (block : Block) : Block := ofSentences block.window block.sentences

/-- No value marks a token, and a second tokenization is that of the block itself. -/
structure Neutral (block : Block) (vocabulary : Vocabulary) : Prop where
  unmarked : ∀ values ∈ block.auxiliary, ∀ value ∈ values.flatten, value = 0
  retold : ∀ alternate ∈ block.alternate, alternate = ⟨block.sentences, vocabulary⟩

variable {block other : Block} {vocabulary : Vocabulary} {number limit offset payload : Nat}
  {sentence : Sentence} {sentences : List Sentence} {words : List Span}

/-- The words of a block depend on its channels only as far as the words of its sentences do. -/
theorem wordsFrom_congr
    (h : ∀ index sentence, sentences[index]? = some sentence →
      block.sentenceWords vocabulary (number + index) sentence =
        other.sentenceWords vocabulary (number + index) sentence) :
    block.wordsFrom vocabulary limit number offset sentences =
      other.wordsFrom vocabulary limit number offset sentences := by
  induction sentences generalizing number offset with
  | nil => rfl
  | cons sentence rest ih =>
      have hFirst := h 0 sentence rfl
      have hRest := @ih (number + 1) (offset + sentence.length) fun index later hLater => by
        have hNext := h (index + 1) later hLater
        rwa [Nat.add_comm index, ← Nat.add_assoc] at hNext
      rw [Nat.add_zero] at hFirst
      rw [wordsFrom, wordsFrom, hFirst, hRest]

namespace Neutral

/-- A second tokenization that is the same as the first makes the same words. -/
theorem sentenceWords_eq (h : block.Neutral vocabulary)
    (hSentence : block.sentences[number]? = some sentence) :
    block.sentenceWords vocabulary number sentence = .ok (vocabulary.groups sentence) := by
  unfold sentenceWords
  split
  · rfl
  · rename_i alternate hAlternate
    rw [h.retold alternate hAlternate]
    simp only [hSentence]
    exact alignSentence_of_align number (align_self vocabulary sentence)

/-- Neutral channels leave the words of a block as they are without channels. -/
theorem words_eq (h : block.Neutral vocabulary) (payload : Nat) :
    block.words vocabulary payload = block.bare.words vocabulary payload := by
  apply wordsFrom_congr
  intro number sentence hSentence
  rw [Nat.zero_add, h.sentenceWords_eq hSentence]
  rfl

theorem candidates_eq (h : block.Neutral vocabulary) (payload : Nat) (words : List Span) :
    block.candidates payload words = block.bare.candidates payload words := by
  show _ = (⟨[], words⟩ : Candidates)
  unfold candidates
  split
  · rfl
  · rename_i values hValues
    apply Candidates.separate_of_unmarked
    intro word _
    apply Candidates.isMarked_of_zero
    exact fun value hValue => h.unmarked values hValues value (List.mem_of_mem_take hValue)

end Neutral

end Block

namespace Masker

/-- Neutral channels are not noticed: neither the sample nor a failure tells them from none, nor what
is left of the generator. -/
theorem build_of_neutral {masker : Masker} {block : Block} (h : block.Neutral masker.vocabulary)
    (g : Generator) : masker.build block g = masker.build block.bare g := by
  have hPlan : masker.plan block = masker.plan block.bare := by
    simp only [plan, h.words_eq, h.candidates_eq]
    rfl
  rw [build, build, hPlan]
  rfl

/-- A value of 0 for every token and a second tokenization that is the first are never refused, and
samples are the same with either, with both and with neither. -/
theorem build_of_attached (masker : Masker) (window : Window) (sentences : List Sentence)
    (g : Generator) {values : List (List UInt32)}
    (hEven : values.map List.length = sentences.map List.length)
    (hZero : ∀ value ∈ values.flatten, value = 0) :
    let bare := Block.ofSentences window sentences
    let same : Alternate := ⟨sentences, masker.vocabulary⟩
    ∃ unmarked retold both, bare.withAuxiliary values = .ok unmarked
      ∧ bare.withAlternate same = .ok retold
      ∧ unmarked.withAlternate same = .ok both ∧ retold.withAuxiliary values = .ok both
      ∧ ∀ block ∈ [unmarked, retold, both], masker.build block g = masker.build bare g := by
  intro bare same
  have hLength : values.length = sentences.length := by simpa using congrArg List.length hEven
  have hSame : ∀ number tokens marks, ¬ Block.Differ sentences values number tokens marks := by
    rintro number tokens marks ⟨hNe, hTokens, hMarks⟩
    rw [← List.getElem?_map] at hTokens hMarks
    rw [hEven, hTokens] at hMarks
    exact hNe (Option.some.inj hMarks)
  refine ⟨{ bare with auxiliary := some values }, { bare with alternate := some same },
    { bare with auxiliary := some values, alternate := some same },
    Block.withAuxiliary_of_even hLength hSame, Block.withAlternate_of_length rfl,
    Block.withAlternate_of_length rfl, Block.withAuxiliary_of_even hLength hSame, ?_⟩
  intro block hBlock
  simp only [List.mem_cons, List.not_mem_nil, or_false] at hBlock
  rcases hBlock with rfl | rfl | rfl
  · exact build_of_neutral ⟨by simpa using hZero, by simp [bare, Block.ofSentences]⟩ g
  · exact build_of_neutral ⟨by simp [bare, Block.ofSentences],
      by simp [same, bare, Block.ofSentences]⟩ g
  · exact build_of_neutral ⟨by simpa using hZero, by simp [same, bare, Block.ofSentences]⟩ g

/-- A sentence that begins with the continuation of a word, an unknown token and one outside the
vocabulary. -/
theorem build_of_attached_strange :
    ∃ block, (Block.ofSentences ⟨0, 2, 0, 0⟩ [[6, 5, 1, 6], [99, 6]]).withAlternate
        ⟨[[6, 5, 1, 6], [99, 6]], tiny.vocabulary⟩ = .ok block
      ∧ tiny.build block ⟨10⟩ =
        tiny.build (Block.ofSentences ⟨0, 2, 0, 0⟩ [[6, 5, 1, 6], [99, 6]]) ⟨10⟩ := by
  obtain ⟨_, retold, _, -, hRetold, -, -, hBuild⟩ := build_of_attached tiny ⟨0, 2, 0, 0⟩
    [[6, 5, 1, 6], [99, 6]] ⟨10⟩ (show [[0, 0, 0, 0], [0, 0]].map List.length = _ from rfl)
    (by simp)
  exact ⟨retold, hRetold, hBuild retold (by simp)⟩

end Masker

end Pretext
