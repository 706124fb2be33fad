import Pretext.Proofs.Block.Basic
import Pretext.Proofs.Masked.Sample

/-! When the words of a block are refused. Sentences are looked at in order, as far as the payload
goes, and what counts is the first that does not fall into the words of its second tokenization. -/
namespace Pretext

namespace Block

/-- The sentence with a number, which begins in the payload, does not fall into the words of its
second tokenization. -/
def Unaligned (block : Block) (vocabulary : Vocabulary) (payload number : Nat)
    (mismatch : WordMismatch) : Prop :=
  ∃ alternate ∈ block.alternate, ∃ sentence second, block.sentences[number]? = some sentence
    ∧ alternate.sentences[number]? = some second
    ∧ (block.sentences.take number).flatten.length < payload
    ∧ align vocabulary sentence alternate.vocabulary second = .error mismatch

variable {block : Block} {vocabulary : Vocabulary} {number limit offset payload : Nat}
  {sentence : Sentence} {sentences : List Sentence} {words : List Span} {failure : Failure}

/-- Where a block has words, each sentence has them that begins inside the payload. -/
theorem sentenceWords_of_wordsFrom {index : Nat}
    (h : block.wordsFrom vocabulary limit number offset sentences = .ok words)
    (hSentence : sentences[index]? = some sentence)
    (hInside : offset + (sentences.take index).flatten.length < limit) :
    ∃ spans, block.sentenceWords vocabulary (number + index) sentence = .ok spans := by
  induction sentences generalizing number offset words index with
  | nil => cases hSentence
  | cons first rest ih =>
      obtain ⟨spans, more, hSpans, hMore, -⟩ := wordsFrom_cons (by omega) h
      cases index with
      | zero =>
          cases hSentence
          exact ⟨spans, hSpans⟩
      | succ index =>
          rw [List.take_succ_cons, List.flatten_cons, List.length_append, ← Nat.add_assoc] at hInside
          rw [Nat.add_comm index, ← Nat.add_assoc]
          exact ih hMore hSentence hInside

/-- A failure is that of a sentence that begins before the limit, and no sentence before it fails. -/
theorem exists_of_wordsFrom_error
    (h : block.wordsFrom vocabulary limit number offset sentences = .error failure) :
    ∃ index sentence, sentences[index]? = some sentence
      ∧ offset + (sentences.take index).flatten.length < limit
      ∧ block.sentenceWords vocabulary (number + index) sentence = .error failure
      ∧ ∀ earlier before, earlier < index → sentences[earlier]? = some before →
        ∃ spans, block.sentenceWords vocabulary (number + earlier) before = .ok spans := by
  induction sentences generalizing number offset with
  | nil => cases h
  | cons first rest ih =>
      rcases Nat.lt_or_ge offset limit with hInside | hOutside
      · rw [wordsFrom, if_neg (Nat.not_le.mpr hInside)] at h
        cases hSpans : block.sentenceWords vocabulary number first with
        | error cause =>
            rw [hSpans] at h
            cases h
            refine ⟨0, first, rfl, hInside, hSpans, ?_⟩
            intro earlier before hEarlier
            exact absurd hEarlier (Nat.not_lt_zero earlier)
        | ok spans =>
            -- The failure is that of a later sentence, to which the induction hypothesis points.
            cases hMore : block.wordsFrom vocabulary limit (number + 1) (offset + first.length)
                rest with
            | ok more =>
                rw [hSpans, hMore] at h
                cases h
            | error cause =>
                rw [hSpans, hMore] at h
                cases h
                obtain ⟨index, sentence, hSentence, hBegins, hError, hBefore⟩ := ih hMore
                refine ⟨index + 1, sentence, hSentence, ?_, ?_, ?_⟩
                · rwa [List.take_succ_cons, List.flatten_cons, List.length_append, ← Nat.add_assoc]
                · rwa [Nat.add_comm index, ← Nat.add_assoc]
                · intro earlier before hEarlier hFound
                  cases earlier with
                  | zero =>
                      cases hFound
                      exact ⟨spans, hSpans⟩
                  | succ earlier =>
                      rw [Nat.add_comm earlier, ← Nat.add_assoc]
                      exact hBefore earlier before (Nat.lt_of_succ_lt_succ hEarlier) hFound
      · rw [wordsFrom_of_le hOutside] at h
        cases h

/-- Words of a sentence are refused only for want of an alignment. -/
theorem exists_of_sentenceWords_error (hAccompanied : block.Accompanied)
    (hSentence : block.sentences[number]? = some sentence)
    (h : block.sentenceWords vocabulary number sentence = .error failure) :
    ∃ alternate ∈ block.alternate, ∃ second mismatch, alternate.sentences[number]? = some second
      ∧ align vocabulary sentence alternate.vocabulary second = .error mismatch
      ∧ failure = .misaligned .alternate (.words number mismatch) := by
  unfold sentenceWords at h
  split at h
  · cases h
  · rename_i alternate hAlternate
    have hNumber : number < alternate.sentences.length := by
      rw [hAccompanied alternate hAlternate]
      exact (List.getElem?_eq_some_iff.mp hSentence).1
    obtain ⟨second, hSecond⟩ : ∃ second, alternate.sentences[number]? = some second :=
      ⟨_, List.getElem?_eq_getElem hNumber⟩
    cases hAlign : align vocabulary sentence alternate.vocabulary second with
    | ok spans =>
        simp only [hSecond, alignSentence, hAlign] at h
        cases h
    | error mismatch =>
        simp only [hSecond, alignSentence, hAlign] at h
        cases h
        exact ⟨alternate, hAlternate, second, mismatch, hSecond, hAlign, rfl⟩

/-- A sentence with words is aligned, as far as it has a second tokenization. -/
theorem not_unaligned_of_sentenceWords {spans : List Span} {mismatch : WordMismatch}
    (hSentence : block.sentences[number]? = some sentence)
    (h : block.sentenceWords vocabulary number sentence = .ok spans) :
    ¬ block.Unaligned vocabulary payload number mismatch := by
  rintro ⟨alternate, hAlternate, same, second, hSame, hSecond, -, hAlign⟩
  rw [hSentence] at hSame
  cases hSame
  have hSome : block.alternate = some alternate := hAlternate
  simp only [sentenceWords, hSome, hSecond, alignSentence, hAlign] at h
  cases h

/-- Words are found where every sentence that begins in the payload is aligned. -/
theorem exists_words_of_aligned (hAccompanied : block.Accompanied)
    (h : ¬ ∃ number mismatch, block.Unaligned vocabulary payload number mismatch) :
    ∃ words, block.words vocabulary payload = .ok words := by
  cases hWords : block.words vocabulary payload with
  | ok words => exact ⟨words, rfl⟩
  | error failure =>
      obtain ⟨number, sentence, hSentence, hInside, hError, -⟩ := exists_of_wordsFrom_error hWords
      rw [Nat.zero_add] at hError
      obtain ⟨alternate, hAlternate, second, mismatch, hSecond, hAlign, -⟩ :=
        exists_of_sentenceWords_error hAccompanied hSentence hError
      exact absurd ⟨number, mismatch, alternate, hAlternate, sentence, second, hSentence, hSecond,
        by omega, hAlign⟩ h

/-- Otherwise the first sentence is named that is not. -/
theorem words_of_unaligned (hAccompanied : block.Accompanied)
    (h : ∃ number mismatch, block.Unaligned vocabulary payload number mismatch) :
    ∃ number mismatch, block.Unaligned vocabulary payload number mismatch
      ∧ (∀ other mismatch, block.Unaligned vocabulary payload other mismatch → number ≤ other)
      ∧ block.words vocabulary payload =
        .error (.misaligned .alternate (.words number mismatch)) := by
  cases hWords : block.words vocabulary payload with
  | ok words =>
      obtain ⟨number, mismatch, hUnaligned⟩ := h
      obtain ⟨-, -, sentence, -, hSentence, -, hInside, -⟩ := id hUnaligned
      obtain ⟨spans, hSpans⟩ := sentenceWords_of_wordsFrom hWords hSentence (by omega)
      rw [Nat.zero_add] at hSpans
      exact absurd hUnaligned (not_unaligned_of_sentenceWords hSentence hSpans)
  | error failure =>
      obtain ⟨first, sentence, hSentence, hInside, hError, hBefore⟩ :=
        exists_of_wordsFrom_error hWords
      rw [Nat.zero_add] at hError
      obtain ⟨alternate, hAlternate, second, mismatch, hSecond, hAlign, rfl⟩ :=
        exists_of_sentenceWords_error hAccompanied hSentence hError
      refine ⟨first, mismatch,
        ⟨alternate, hAlternate, sentence, second, hSentence, hSecond, by omega, hAlign⟩, ?_, rfl⟩
      intro other otherMismatch hOther
      apply Nat.le_of_not_lt
      intro hLt
      obtain ⟨-, -, before, -, hFound, -⟩ := id hOther
      obtain ⟨spans, hSpans⟩ := hBefore other before hLt hFound
      rw [Nat.zero_add] at hSpans
      exact not_unaligned_of_sentenceWords hFound hSpans hOther

end Block

namespace Masker

variable {masker : Masker} {block : Block}

/-- A block without context is refused first of all. -/
theorem build_of_le (h : block.sentences.length ≤ 1) (g : Generator) :
    (masker.build block g).1 =
      .error (.blockTooShort block.window.start block.window.stop block.sentences.length) := by
  rw [build_error_iff, plan_of_le h]

/-- With context, room and words there is a sample. -/
theorem exists_build_of_aligned (hContext : 1 < block.sentences.length)
    (hRoom : 2 ≤ masker.length) (hAccompanied : block.Accompanied)
    (h : ¬ ∃ number mismatch,
      block.Unaligned masker.vocabulary (masker.payload block).length number mismatch)
    (g : Generator) : ∃ sample, (masker.build block g).1 = .ok sample := by
  obtain ⟨framed, -, hPlan⟩ := exists_plan_eq hContext hRoom
  obtain ⟨words, hWords⟩ := Block.exists_words_of_aligned hAccompanied h
  rw [hWords] at hPlan
  rw [build, hPlan]
  exact ⟨_, rfl⟩

/-- A block is refused for its first sentence that is not aligned. Sentences behind the payload do not
count. -/
theorem build_of_unaligned (hContext : 1 < block.sentences.length)
    (hRoom : 2 ≤ masker.length) (hAccompanied : block.Accompanied)
    (h : ∃ number mismatch,
      block.Unaligned masker.vocabulary (masker.payload block).length number mismatch)
    (g : Generator) :
    ∃ number mismatch,
      block.Unaligned masker.vocabulary (masker.payload block).length number mismatch
        ∧ (∀ other mismatch, block.Unaligned masker.vocabulary (masker.payload block).length other
          mismatch → number ≤ other)
        ∧ (masker.build block g).1 =
          .error (.misaligned .alternate (.words number mismatch)) := by
  obtain ⟨framed, -, hPlan⟩ := exists_plan_eq hContext hRoom
  obtain ⟨number, mismatch, hFirst, hLeast, hWords⟩ := Block.words_of_unaligned hAccompanied h
  refine ⟨number, mismatch, hFirst, hLeast, ?_⟩
  rw [build_error_iff, hPlan, hWords]
  rfl

end Masker

end Pretext
