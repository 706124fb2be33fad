import Pretext.Proofs.Block.Basic
import Pretext.Proofs.Masked.Refusal
import Pretext.Proofs.Word.Tiling

/-! What is cut off a block leaves no trace in its samples. A word or a marked token may reach over
the cut, but only the part before it counts. -/
namespace Pretext

namespace Block

/-- The values of the tokens before a limit, if the block has values. -/
def marksBefore (block : Block) (limit : Nat) : Option (List UInt32) :=
  block.auxiliary.map fun values => values.flatten.take (block.sentences.flatten.take limit).length

/-- The blocks have the same number, and up to a limit the same tokens, sentences that begin at the
same ones of them, and the same values, if any. -/
structure Agrees (block other : Block) (limit : Nat) : Prop where
  number_eq : block.window.block = other.window.block
  tokens_eq : block.sentences.flatten.take limit = other.sentences.flatten.take limit
  boundary_iff : ∀ position < limit, position ∈ block.boundaries ↔ position ∈ other.boundaries
  marks_eq : block.marksBefore limit = other.marksBefore limit

/-- A word starts at a token that is the first of its sentence or does not continue another. -/
def BeginsWord (block : Block) (vocabulary : Vocabulary) (position : Nat) : Prop :=
  ∃ id, block.sentences.flatten[position]? = some id
    ∧ (position ∈ block.boundaries ∨ vocabulary.continues id = false)

variable {block other : Block} {vocabulary : Vocabulary} {payload limit position : Nat}
  {words : List Span}

/-- A word of a block begins where a word of one of its sentences does. -/
theorem beginsWord_of_sentence {number index : Nat} {sentence : Sentence}
    (hSentence : block.sentences[number]? = some sentence) (hIndex : index < sentence.length) :
    block.BeginsWord vocabulary ((block.sentences.take number).flatten.length + index) ↔
      ∃ span ∈ vocabulary.groups sentence, span.start = index := by
  rw [Vocabulary.exists_start_groups, BeginsWord, getElem?_flatten_of_lt hSentence hIndex,
    mem_boundaries_of_sentence hSentence hIndex]

/-- The words that the marks tell start at the tokens that begin a word, as far as the payload goes. -/
theorem exists_start_words (hAlone : block.alternate = none)
    (hPayload : payload ≤ block.sentences.flatten.length)
    (h : block.words vocabulary payload = .ok words) :
    (∃ word ∈ words, word.start = position + 1) ↔
      position < payload ∧ block.BeginsWord vocabulary position := by
  have hGroups : ∀ number sentence, block.sentenceWords vocabulary number sentence =
      .ok (vocabulary.groups sentence) := by
    intro number sentence
    rw [sentenceWords, hAlone]
  constructor
  · rintro ⟨word, hWord, hStart⟩
    obtain ⟨number, sentence, spans, span, hSentence, hSpans, hSpan, rfl, hLt⟩ :=
      (mem_words h).mp hWord
    cases (hGroups number sentence).symm.trans hSpans
    obtain ⟨-, hSome, hStop⟩ := (vocabulary.tile_groups sentence).bounds hSpan
    simp only [Span.clip, Span.shift] at hStart hLt
    obtain rfl : position = (block.sentences.take number).flatten.length + span.start := by omega
    exact ⟨by omega, (beginsWord_of_sentence hSentence (by omega)).mpr ⟨span, hSpan, rfl⟩⟩
  · rintro ⟨hInside, hBegins⟩
    obtain ⟨number, sentence, index, hSentence, hIndex, rfl⟩ :=
      exists_sentence_of_lt (Nat.lt_of_lt_of_le hInside hPayload)
    obtain ⟨span, hSpan, rfl⟩ := (beginsWord_of_sentence hSentence hIndex).mp hBegins
    obtain ⟨-, hSome, -⟩ := (vocabulary.tile_groups sentence).bounds hSpan
    refine ⟨(span.shift (1 + (block.sentences.take number).flatten.length)).clip (payload + 1),
      (mem_words h).mpr ⟨number, sentence, _, span, hSentence, hGroups number sentence, hSpan,
        rfl, ?_⟩, ?_⟩
    · simp only [Span.clip, Span.shift]
      omega
    · simp only [Span.clip, Span.shift]
      omega

/-- A block without a second tokenization always has words. -/
theorem exists_words_of_alone (hAlone : block.alternate = none) (vocabulary : Vocabulary)
    (payload : Nat) :
    ∃ words, block.words vocabulary payload = .ok words := by
  apply exists_words_of_aligned
  · intro alternate hAlternate
    rw [hAlone] at hAlternate
    cases hAlternate
  · rintro ⟨_, _, alternate, hAlternate, -⟩
    rw [hAlone] at hAlternate
    cases hAlternate

namespace Agrees

/-- Blocks that agree up to a limit begin words at the same positions before it. -/
theorem beginsWord_iff (h : block.Agrees other limit) (hLimit : position < limit) :
    block.BeginsWord vocabulary position ↔ other.BeginsWord vocabulary position := by
  have hToken : block.sentences.flatten[position]? = other.sentences.flatten[position]? := by
    rw [← List.getElem?_take_of_lt hLimit, h.tokens_eq, List.getElem?_take_of_lt hLimit]
  rw [BeginsWord, BeginsWord, hToken, h.boundary_iff position hLimit]

/-- Words are cut where the payload is, so that they agree as well. -/
theorem words_eq (h : block.Agrees other limit) (hAlone : block.alternate = none)
    (hOther : other.alternate = none) (vocabulary : Vocabulary) :
    block.words vocabulary (block.sentences.flatten.take limit).length =
      other.words vocabulary (block.sentences.flatten.take limit).length := by
  have hLimit : (block.sentences.flatten.take limit).length ≤ limit := List.length_take_le ..
  have hLength : (block.sentences.flatten.take limit).length ≤ block.sentences.flatten.length :=
    List.length_take_le' ..
  have hOtherLength : (block.sentences.flatten.take limit).length ≤
      other.sentences.flatten.length := by
    rw [h.tokens_eq]
    exact List.length_take_le' ..
  generalize (block.sentences.flatten.take limit).length = payload at hLimit hLength hOtherLength ⊢
  obtain ⟨words, hWords⟩ := exists_words_of_alone hAlone vocabulary payload
  obtain ⟨more, hMore⟩ := exists_words_of_alone hOther vocabulary payload
  have hTile := tile_words hLength hWords
  have hMoreTile := tile_words hOtherLength hMore
  rw [hWords, hMore, hTile.eq_of_starts hMoreTile]
  intro start
  cases start with
  | zero =>
      -- Position 0 is that of the opening token.
      refine iff_of_false ?_ ?_
      · rintro ⟨word, hWord, hStart⟩
        have hFirst := (hTile.bounds hWord).1
        omega
      · rintro ⟨word, hWord, hStart⟩
        have hFirst := (hMoreTile.bounds hWord).1
        omega
  | succ position =>
      rw [exists_start_words hAlone hLength hWords, exists_start_words hOther hOtherLength hMore]
      exact and_congr_right fun hInside => h.beginsWord_iff (Nat.lt_of_lt_of_le hInside hLimit)

theorem candidates_eq (h : block.Agrees other limit) (words : List Span) :
    block.candidates (block.sentences.flatten.take limit).length words =
      other.candidates (other.sentences.flatten.take limit).length words := by
  have hMarks := h.marks_eq
  unfold marksBefore at hMarks
  unfold candidates
  cases hValues : block.auxiliary with
  | none =>
      rw [hValues, Option.map_none, eq_comm, Option.map_eq_none_iff] at hMarks
      rw [hMarks]
  | some values =>
      rw [hValues, Option.map_some, eq_comm, Option.map_eq_some_iff] at hMarks
      obtain ⟨others, hOthers, hSame⟩ := hMarks
      simp only [hOthers, hSame]

end Agrees

end Block

/-- A block with the first four tokens of `Block.tiny` and with others behind them. -/
def Block.lengthened : Block where
  window := ⟨7, 11, 3, 0⟩
  sentences := [[5, 6, 7], [], [8], [5, 9]]
  auxiliary := some [[0, 0, 1], [], [1], [1, 1]]
  alternate := none

/-- A masker for frames with room for four tokens. -/
def Masker.narrow : Masker := { tiny with length := 6 }

namespace Masker

variable {masker : Masker} {block other : Block}

/-- Blocks that agree in what fits into the frame are planned alike. What is cut off has no say. -/
theorem plan_eq_of_agrees (hContext : 1 < block.sentences.length)
    (hOtherContext : 1 < other.sentences.length) (hAlone : block.alternate = none)
    (hOtherAlone : other.alternate = none) (h : block.Agrees other (masker.length - 2)) :
    masker.plan block = masker.plan other := by
  rcases Nat.lt_or_ge masker.length 2 with hNarrow | hRoom
  · rw [plan_of_narrow hContext hNarrow, plan_of_narrow hOtherContext hNarrow]
  · obtain ⟨framed, hHolds, hPlan⟩ := exists_plan_eq hContext hRoom
    obtain ⟨otherFramed, hOtherHolds, hOtherPlan⟩ := exists_plan_eq hOtherContext hRoom
    have hPayload : masker.payload block = masker.payload other := h.tokens_eq
    have hWords : block.words masker.vocabulary (masker.payload block).length =
        other.words masker.vocabulary (masker.payload block).length :=
      h.words_eq hAlone hOtherAlone masker.vocabulary
    have hCandidates : block.candidates (masker.payload block).length =
        other.candidates (masker.payload other).length := funext h.candidates_eq
    rw [hPayload] at hHolds hWords hCandidates
    rw [hPlan, hOtherPlan, hHolds.eq hOtherHolds, hPayload, hWords, hCandidates]

/-- Blocks of more than one sentence that agree up to the end of the frame give the same sample or
the same failure and leave the generator in the same state, whatever follows in either of them. -/
theorem build_eq_of_agrees (hContext : 1 < block.sentences.length)
    (hOtherContext : 1 < other.sentences.length) (hAlone : block.alternate = none)
    (hOtherAlone : other.alternate = none) (h : block.Agrees other (masker.length - 2))
    (g : Generator) : masker.build block g = masker.build other g := by
  rw [build, build, plan_eq_of_agrees hContext hOtherContext hAlone hOtherAlone h]
  cases masker.plan other with
  | error failure => rfl
  | ok plan => simp only [draw, h.number_eq]

/-- The third word is cut off where a sentence of the other block ends. -/
theorem build_eq_of_agrees_narrow :
    narrow.build .tiny ⟨10⟩ = narrow.build .lengthened ⟨10⟩
      ∧ ∃ sample, (narrow.build .tiny ⟨10⟩).1 = .ok sample ∧ sample.maskedPositions = [3, 4] := by
  have hAgrees : Block.tiny.Agrees .lengthened (narrow.length - 2) :=
    ⟨by decide, by decide, by decide, by decide⟩
  refine ⟨build_eq_of_agrees (by decide) (by decide) rfl rfl hAgrees ⟨10⟩, ?_⟩
  exact ⟨⟨[2, 5, 6, 4, 4, 3], [1, 1, 1, 1, 1, 1], [-1, -1, -1, 7, 8, -1], [0, 0, 0, 1, 1, 0],
    [0, 0, 0, 0, 0, 0], [0]⟩, by decide +kernel, by decide +kernel⟩

end Masker

end Pretext
