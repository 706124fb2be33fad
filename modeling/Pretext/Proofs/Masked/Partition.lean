import Pretext.Proofs.Block.Basic
import Pretext.Proofs.Masked.Runs
import Pretext.Proofs.Masked.Truncation
import Pretext.Proofs.Masked.WholeWords

/-! The candidates divide the payload among them. The words cut it up without a gap, each where a word of
a sentence is, and the candidates are these words once more, those that are not marked one by one and
the others joined to runs. -/
namespace Pretext

namespace Candidates

variable {values : List UInt32} {payload : Nat} {word : Span}

/-- Within the payload it makes no difference that the values end where the payload does. -/
theorem isMarked_take_iff (hFirst : 1 ≤ word.start) (hLast : word.stop ≤ payload + 1) :
    isMarked (values.take payload) word = true ↔
      ∃ position ∈ word.positions, ∃ value, values[position - 1]? = some value ∧ value ≠ 0 := by
  refine ⟨?_, fun h => isMarked_eq_true h hFirst hLast⟩
  intro h
  obtain ⟨position, hPosition, hMarked⟩ := List.any_eq_true.mp h
  have hBounds := Span.mem_positions.mp hPosition
  rw [List.getElem?_take_of_lt (by omega)] at hMarked
  simp only [Option.any_eq_true, bne_iff_ne] at hMarked
  exact ⟨position, hPosition, hMarked⟩

end Candidates

namespace Block

/-- A position of the frame holds a token that the auxiliary channel marks. -/
def Marks (block : Block) (position : Nat) : Prop :=
  ∃ values ∈ block.auxiliary, ∃ value, values.flatten[position - 1]? = some value ∧ value ≠ 0

/-- The positions of the frame hold, one after the other, the tokens of a word of one of the sentences,
from the first of them on. -/
def HoldsWord (block : Block) (vocabulary : Vocabulary) (payload : List TokenId) (word : Span) : Prop :=
  ∃ number sentence spans span, block.sentences[number]? = some sentence
    ∧ block.sentenceWords vocabulary number sentence = .ok spans ∧ span ∈ spans
    ∧ ∀ index < word.length, span.start + index < span.stop
      ∧ ∃ token, payload[word.start - 1 + index]? = some token
        ∧ sentence[span.start + index]? = some token

variable {block : Block} {vocabulary : Vocabulary} {limit payload first last : Nat} {words : List Span}
  {word span : Span}

/-- A word inside the payload is marked if one of its positions is. What is cut off marks nothing. -/
theorem isMarked_iff (hFirst : 1 ≤ word.start) (hLast : word.stop ≤ payload + 1) :
    block.isMarked payload word = true ↔ ∃ position ∈ word.positions, block.Marks position := by
  unfold isMarked Marks
  cases block.auxiliary with
  | none => simp
  | some values => simp [Candidates.isMarked_take_iff hFirst hLast]

/-- Words are placed where flattening puts their tokens. -/
theorem holdsWord_of_isWord
    (h : block.IsWord vocabulary (flatten block.sentences limit).length word) :
    block.HoldsWord vocabulary (flatten block.sentences limit) word := by
  obtain ⟨number, sentence, spans, span, hSentence, hSpans, hSpan, rfl, hLt⟩ := h
  refine ⟨number, sentence, spans, span, hSentence, hSpans, hSpan, ?_⟩
  obtain ⟨-, -, hStop⟩ := (tile_sentenceWords hSpans).bounds hSpan
  intro index hIndex
  simp only [Span.length, Span.clip, Span.shift] at hIndex ⊢
  have hInside : span.start + index < sentence.length := by omega
  refine ⟨by omega, sentence[span.start + index], ?_, List.getElem?_eq_getElem hInside⟩
  have hLimit : (flatten block.sentences limit).length ≤ limit := List.length_take_le ..
  have hPlace : span.start + (1 + (block.sentences.take number).flatten.length) - 1 + index =
      (block.sentences.take number).flatten.length + (span.start + index) := by omega
  rw [hPlace, flatten, List.getElem?_take_of_lt (by omega), getElem?_flatten_of_lt hSentence hInside,
    List.getElem?_eq_getElem hInside]

/-- The salient candidates are the hulls of the runs of marked words. -/
theorem mem_salient_iff (hWords : Span.Tile first last words) :
    span ∈ (block.candidates payload words).salient ↔
      ∃ run, Candidates.IsRun (block.isMarked payload) words run ∧ Span.hull run = some span := by
  have hTile : Span.Tile first last ([] ++ words) := hWords
  rw [candidates_eq_separate]
  exact Candidates.mem_salient_iff hTile (by simp)

theorem mem_plain_iff :
    span ∈ (block.candidates payload words).plain ↔
      span ∈ words ∧ block.isMarked payload span = false := by
  rw [candidates_eq_separate]
  exact Candidates.mem_plain

/-- The words of a block cut its payload up, without a gap and in order, and hold the tokens that stand
there. The candidates have each position of the payload once, and none of them is empty. The plain ones
are the words without a marked position, and the salient ones reach over the words of a run of marked
words, from the first to the last. -/
theorem candidates_partition
    (h : block.words vocabulary (flatten block.sentences limit).length = .ok words) :
    let payload := flatten block.sentences limit
    let candidates := block.candidates payload.length words
    Span.Tile 1 (payload.length + 1) words
      ∧ (∀ word ∈ words, block.HoldsWord vocabulary payload word)
      ∧ (∀ candidate ∈ candidates.all, candidate.start < candidate.stop)
      ∧ (candidates.all.flatMap Span.positions).Perm (List.range' 1 payload.length)
      ∧ (∀ word ∈ words, block.isMarked payload.length word = true ↔
        ∃ position ∈ word.positions, block.Marks position)
      ∧ (∀ word, word ∈ candidates.plain ↔
        word ∈ words ∧ ∀ position ∈ word.positions, ¬ block.Marks position)
      ∧ ∀ span, span ∈ candidates.salient ↔
        ∃ run, Candidates.IsRun (block.isMarked payload.length) words run
          ∧ Span.hull run = some span := by
  intro payload candidates
  have hTile : Span.Tile 1 (payload.length + 1) words := tile_words (List.length_take_le' ..) h
  have hMarked : ∀ word ∈ words, block.isMarked payload.length word = true ↔
      ∃ position ∈ word.positions, block.Marks position := by
    intro word hWord
    obtain ⟨hFirst, -, hLast⟩ := hTile.bounds hWord
    exact isMarked_iff hFirst hLast
  refine ⟨hTile, ?_, ?_, ?_, hMarked, ?_, fun span => mem_salient_iff hTile⟩
  · exact fun word hWord => holdsWord_of_isWord ((mem_words h).mp hWord)
  · exact fun candidate hCandidate => start_lt_stop_of_mem_candidates hTile hCandidate
  · have hPositions := hTile.positions_eq
    rw [Nat.add_sub_cancel] at hPositions
    exact hPositions ▸ candidates_perm hTile
  · intro word
    rw [mem_plain_iff]
    refine and_congr_right fun hWord => ?_
    rw [← Bool.not_eq_true, hMarked word hWord]
    simp

/-- With an empty sentence in the middle and a second tokenization, cut off behind four tokens. The run
begins in the first sentence and ends in the third. -/
theorem candidates_partition_retold :
    let block := { lengthened with alternate := some ⟨lengthened.sentences, Masker.tiny.vocabulary⟩ }
    let words : List Span := [⟨1, 3⟩, ⟨3, 4⟩, ⟨4, 5⟩]
    block.words Masker.tiny.vocabulary (flatten block.sentences 4).length = .ok words
      ∧ (block.candidates 4 words).all = [⟨3, 5⟩, ⟨1, 3⟩]
      ∧ (∀ position ∈ Span.positions ⟨1, 3⟩, ¬ block.Marks position)
      ∧ ∃ run, Candidates.IsRun (block.isMarked 4) words run ∧ Span.hull run = some ⟨3, 5⟩ := by
  intro block words
  have hWords : block.words Masker.tiny.vocabulary (flatten block.sentences 4).length = .ok words := by
    decide +kernel
  have hCandidates : block.candidates 4 words = ⟨[⟨3, 5⟩], [⟨1, 3⟩]⟩ := rfl
  obtain ⟨-, -, -, -, -, hPlain, hSalient⟩ := candidates_partition hWords
  change (∀ word, word ∈ (block.candidates 4 words).plain ↔ _) at hPlain
  change (∀ span, span ∈ (block.candidates 4 words).salient ↔ _) at hSalient
  rw [hCandidates] at hPlain hSalient
  exact ⟨hWords, by rw [hCandidates]; rfl, ((hPlain ⟨1, 3⟩).mp (List.mem_singleton_self _)).2,
    (hSalient ⟨3, 5⟩).mp (List.mem_singleton_self _)⟩

end Block

end Pretext
