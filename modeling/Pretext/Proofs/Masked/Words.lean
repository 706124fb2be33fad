import Pretext.Masked.Selection
import Pretext.Proofs.Word.Reading

/-! The words of a block tile the payload of its frame, whatever channels the block has. -/
namespace Pretext

/-- The words that are placed are those of the sentence, moved and cut, if anything is left of
them. -/
theorem mem_placeSpans {offset limit : Nat} {spans : List Span} {word : Span} :
    word ∈ placeSpans offset limit spans ↔
      ∃ span ∈ spans, word = (span.shift offset).clip limit ∧ word.start < word.stop := by
  simp only [placeSpans, Span.isEmpty, List.mem_filter, List.mem_map, Bool.not_eq_true',
    decide_eq_false_iff_not, Nat.not_le]
  constructor
  · rintro ⟨⟨span, hSpan, rfl⟩, hLt⟩
    exact ⟨span, hSpan, rfl, hLt⟩
  · rintro ⟨span, hSpan, rfl, hLt⟩
    exact ⟨⟨span, hSpan, rfl⟩, hLt⟩

/-- Spans that begin at the limit are left out. -/
theorem placeSpans_eq_nil {first last offset limit : Nat} {spans : List Span}
    (h : Span.Tile first last spans) (hLimit : limit ≤ first + offset) :
    placeSpans offset limit spans = [] := by
  apply List.eq_nil_iff_forall_not_mem.mpr
  intro word hWord
  obtain ⟨span, hSpan, rfl, hLt⟩ := mem_placeSpans.mp hWord
  obtain ⟨hFirst, -, -⟩ := h.bounds hSpan
  simp only [Span.clip, Span.shift] at hLt
  omega

private theorem placeSpans_cons {offset limit : Nat} {span : Span} (rest : List Span)
    (hSpan : span.start < span.stop) (hInside : span.start + offset < limit) :
    placeSpans offset limit (span :: rest) =
      (span.shift offset).clip limit :: placeSpans offset limit rest := by
  have hSome : span.start + offset < min (span.stop + offset) limit := by omega
  have hEmpty : ((span.shift offset).clip limit).isEmpty = false :=
    decide_eq_false (Nat.not_le.mpr hSome)
  unfold placeSpans
  rw [List.map_cons, List.filter_cons_of_pos]
  simp [hEmpty]

/-- Words that tile a sentence tile its part of the frame, up to the limit. -/
theorem tile_placeSpans {first last offset limit : Nat} {spans : List Span}
    (h : Span.Tile first last spans) (hLimit : first + offset ≤ limit) :
    Span.Tile (first + offset) (min limit (last + offset)) (placeSpans offset limit spans) := by
  induction spans generalizing first with
  | nil =>
      have hEq : first = last := h
      show first + offset = min limit (last + offset)
      omega
  | cons span rest ih =>
      obtain ⟨hStart, hLt, hRest⟩ := h
      have hLe := hRest.le
      rcases Nat.lt_or_ge (first + offset) limit with hInside | hOutside
      · rw [placeSpans_cons rest (by omega) (by omega)]
        refine ⟨?_, ?_, ?_⟩
        · show span.start + offset = first + offset
          rw [hStart]
        · show first + offset < min (span.stop + offset) limit
          omega
        · show Span.Tile (min (span.stop + offset) limit) _ _
          rcases Nat.le_total (span.stop + offset) limit with hStop | hStop
          · rw [Nat.min_eq_left hStop]
            exact ih hRest hStop
          · rw [placeSpans_eq_nil hRest hStop, Nat.min_eq_right hStop]
            show limit = min limit (last + offset)
            omega
      · rw [placeSpans_eq_nil (show Span.Tile first last (span :: rest) from ⟨hStart, hLt, hRest⟩) hOutside]
        show first + offset = min limit (last + offset)
        omega

namespace Block

variable {block : Block} {vocabulary : Vocabulary} {number limit offset payload : Nat}
  {sentence : Sentence} {sentences : List Sentence} {spans words : List Span}

/-- The words of a sentence tile it, also those of its second tokenization. -/
theorem tile_sentenceWords
    (h : block.sentenceWords vocabulary number sentence = .ok spans) :
    Span.Tile 0 sentence.length spans := by
  unfold sentenceWords at h
  split at h
  · cases h
    exact vocabulary.tile_groups sentence
  · split at h
    · cases h
    · rw [← Nat.zero_add sentence.length]
      exact (alignSentence_eq_ok_iff.mp h).tile

/-- What `wordsFrom` does with one sentence. -/
theorem wordsFrom_cons (hInside : offset < limit)
    (h : block.wordsFrom vocabulary limit number offset (sentence :: sentences) = .ok words) :
    ∃ spans more, block.sentenceWords vocabulary number sentence = .ok spans
      ∧ block.wordsFrom vocabulary limit (number + 1) (offset + sentence.length) sentences = .ok more
      ∧ words = placeSpans offset limit spans ++ more := by
  rw [wordsFrom, if_neg (Nat.not_le.mpr hInside)] at h
  cases hSpans : block.sentenceWords vocabulary number sentence with
  | error failure =>
      rw [hSpans] at h
      cases h
  | ok spans =>
      cases hMore : block.wordsFrom vocabulary limit (number + 1) (offset + sentence.length)
          sentences with
      | error failure =>
          rw [hSpans, hMore] at h
          cases h
      | ok more =>
          rw [hSpans, hMore] at h
          cases h
          exact ⟨spans, more, rfl, rfl, rfl⟩

theorem wordsFrom_of_le (hOutside : limit ≤ offset) :
    block.wordsFrom vocabulary limit number offset sentences = .ok [] := by
  cases sentences with
  | nil => rfl
  | cons sentence rest => rw [wordsFrom, if_pos hOutside]

/-- The words of several sentences tile theirs, one after the other. -/
theorem tile_wordsFrom (hLimit : offset ≤ limit)
    (h : block.wordsFrom vocabulary limit number offset sentences = .ok words) :
    Span.Tile offset (min limit (offset + sentences.flatten.length)) words := by
  induction sentences generalizing number offset words with
  | nil =>
      cases h
      show offset = min limit (offset + 0)
      omega
  | cons sentence rest ih =>
      rw [List.flatten_cons, List.length_append, ← Nat.add_assoc]
      rcases Nat.lt_or_ge offset limit with hInside | hOutside
      · obtain ⟨spans, more, hSpans, hMore, rfl⟩ := wordsFrom_cons hInside h
        have hOffset : 0 + offset ≤ limit := by omega
        have hFirst := tile_placeSpans (tile_sentenceWords hSpans) hOffset
        rw [Nat.zero_add, Nat.add_comm sentence.length] at hFirst
        rcases Nat.le_total (offset + sentence.length) limit with hNext | hNext
        · rw [Nat.min_eq_right hNext] at hFirst
          exact hFirst.append (ih hNext hMore)
        · rw [wordsFrom_of_le hNext] at hMore
          cases hMore
          rw [Nat.min_eq_left hNext] at hFirst
          rw [List.append_nil, Nat.min_eq_left (by omega)]
          exact hFirst
      · rw [wordsFrom_of_le hOutside] at h
        cases h
        show offset = min limit _
        omega

/-- The words of the block are the words of its sentences, each moved behind the tokens before it. -/
theorem mem_wordsFrom {word : Span}
    (h : block.wordsFrom vocabulary limit number offset sentences = .ok words) :
    word ∈ words ↔ ∃ index sentence spans, sentences[index]? = some sentence
      ∧ block.sentenceWords vocabulary (number + index) sentence = .ok spans
      ∧ word ∈ placeSpans (offset + (sentences.take index).flatten.length) limit spans := by
  induction sentences generalizing number offset words with
  | nil =>
      cases h
      simp
  | cons sentence rest ih =>
      rcases Nat.lt_or_ge offset limit with hInside | hOutside
      · obtain ⟨spans, more, hSpans, hMore, rfl⟩ := wordsFrom_cons hInside h
        rw [List.mem_append, ih hMore]
        constructor
        · rintro (hWord | ⟨index, later, laterSpans, hLater, hLaterSpans, hWord⟩)
          · exact ⟨0, sentence, spans, rfl, hSpans, hWord⟩
          · refine ⟨index + 1, later, laterSpans, hLater, ?_, ?_⟩
            · rw [Nat.add_comm index, ← Nat.add_assoc]
              exact hLaterSpans
            · rw [List.take_succ_cons, List.flatten_cons, List.length_append, ← Nat.add_assoc]
              exact hWord
        · rintro ⟨index, later, laterSpans, hLater, hLaterSpans, hWord⟩
          cases index with
          | zero =>
              cases hLater
              rw [Nat.add_zero, hSpans] at hLaterSpans
              cases hLaterSpans
              exact Or.inl hWord
          | succ index =>
              refine Or.inr ⟨index, later, laterSpans, hLater, ?_, ?_⟩
              · rw [Nat.add_assoc, Nat.add_comm 1]
                exact hLaterSpans
              · rw [List.take_succ_cons, List.flatten_cons, List.length_append, ← Nat.add_assoc]
                  at hWord
                exact hWord
      · rw [wordsFrom_of_le hOutside] at h
        cases h
        constructor
        · intro hWord
          cases hWord
        · rintro ⟨index, later, laterSpans, -, hLaterSpans, hWord⟩
          rw [placeSpans_eq_nil (tile_sentenceWords hLaterSpans) (by omega)] at hWord
          exact hWord

/-- A word of the block as positions of the frame: a word of one of the sentences, moved behind the
opening token and the sentences before, as much of it as is framed. -/
def IsWord (block : Block) (vocabulary : Vocabulary) (payload : Nat) (word : Span) : Prop :=
  ∃ number sentence spans span, block.sentences[number]? = some sentence
    ∧ block.sentenceWords vocabulary number sentence = .ok spans ∧ span ∈ spans
    ∧ word = (span.shift (1 + (block.sentences.take number).flatten.length)).clip (payload + 1)
    ∧ word.start < word.stop

/-- The words of a block are those of its sentences, where they stand in the frame. -/
theorem mem_words {word : Span} (h : block.words vocabulary payload = .ok words) :
    word ∈ words ↔ block.IsWord vocabulary payload word := by
  rw [mem_wordsFrom h]
  simp only [mem_placeSpans, Nat.zero_add]
  constructor
  · rintro ⟨number, sentence, spans, hSentence, hSpans, span, hSpan, hWord, hLt⟩
    exact ⟨number, sentence, spans, span, hSentence, hSpans, hSpan, hWord, hLt⟩
  · rintro ⟨number, sentence, spans, span, hSentence, hSpans, hSpan, hWord, hLt⟩
    exact ⟨number, sentence, spans, hSentence, hSpans, span, hSpan, hWord, hLt⟩

/-- The words cover the payload, without gaps and in order. -/
theorem tile_words (hPayload : payload ≤ block.sentences.flatten.length)
    (h : block.words vocabulary payload = .ok words) : Span.Tile 1 (payload + 1) words := by
  have hTile := tile_wordsFrom (by omega) h
  rwa [Nat.min_eq_left (by omega)] at hTile

end Block

end Pretext
