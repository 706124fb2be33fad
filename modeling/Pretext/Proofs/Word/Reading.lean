import Pretext.Proofs.Vocabulary.Piece
import Pretext.Proofs.Word.Tiling
import Pretext.Word.Alignment

/-! What an alignment finds, told without its states: each word of the second tokenization takes the
pieces that fill it, and the words together take the whole sentence. -/
namespace Pretext

namespace Vocabulary

/-- The pieces bring a word of `count` characters, of which `reached` have been counted, to its end
and not before. The unknown token takes all that is left. -/
def Fills (vocabulary : Vocabulary) (count reached : Nat) : List TokenId → Prop
  | [] => False
  | [id] => id = vocabulary.special.unk ∨ reached + vocabulary.charCount id = count
  | id :: next :: rest =>
    id ≠ vocabulary.special.unk ∧ reached + vocabulary.charCount id < count
      ∧ vocabulary.Fills count (reached + vocabulary.charCount id) (next :: rest)

/-- The pieces are what is left of a word when `rest` follows them. A word of unknown length ends
before the first piece that does not continue it. -/
def Completes (vocabulary : Vocabulary) (reached : Nat) (pieces rest : List TokenId) :
    WordLength → Prop
  | .chars count => vocabulary.Fills count reached pieces
  | .unknown => vocabulary.Joined pieces ∧ vocabulary.Begins rest

/-- A sentence is read as words of the given lengths, the first of which begins at a position. The
spans are those of the words. -/
inductive Reads (vocabulary : Vocabulary) :
    Nat → List WordLength → List TokenId → List Span → Prop where
  | done (position : Nat) : Reads vocabulary position [] [] []
  | word {position : Nat} {length : WordLength} {lengths : List WordLength}
      {pieces rest : List TokenId} {spans : List Span}
      (first : vocabulary.Completes 0 pieces rest length)
      (more : Reads vocabulary (position + pieces.length) lengths rest spans) :
      Reads vocabulary position (length :: lengths) (pieces ++ rest)
        (⟨position, position + pieces.length⟩ :: spans)

variable {vocabulary : Vocabulary} {position reached : Nat} {length : WordLength}
  {lengths : List WordLength} {pieces rest sentence : List TokenId} {spans : List Span}

theorem Completes.ne_nil (h : vocabulary.Completes reached pieces rest length) : pieces ≠ [] := by
  cases length with
  | chars count => cases pieces with
    | nil => exact h.elim
    | cons id more => exact List.cons_ne_nil id more
  | unknown => exact h.1.1

/-- Every word takes a piece at least, so that the words tile the sentence. -/
theorem Reads.tile (h : vocabulary.Reads position lengths sentence spans) :
    Span.Tile position (position + sentence.length) spans := by
  induction h with
  | done position => exact rfl
  | @word position length lengths pieces rest spans first more ih =>
      have hPos : 0 < pieces.length := List.length_pos_iff.mpr first.ne_nil
      rw [List.length_append, ← Nat.add_assoc]
      exact ⟨rfl, by show position < position + pieces.length; omega, ih⟩

/-- Reading makes a span for each word. -/
theorem Reads.length_eq (h : vocabulary.Reads position lengths sentence spans) :
    spans.length = lengths.length := by
  induction h with
  | done position => rfl
  | word first more ih => rw [List.length_cons, List.length_cons, ih]

end Vocabulary

namespace AlignmentState

/-- The state when the word has been completed with `count` more tokens. -/
def afterWord (state : AlignmentState) (count : Nat) : AlignmentState :=
  ⟨state.position + count, state.word + 1, state.position + count, 0⟩

theorem nextToken_afterWord (state : AlignmentState) (reached count : Nat) :
    (state.nextToken reached).afterWord count = state.afterWord (count + 1) := by
  simp only [nextToken, afterWord, AlignmentState.mk.injEq, true_and, and_true]
  omega

end AlignmentState

open Vocabulary

variable {vocabulary : Vocabulary} {total : Nat} {length : WordLength} {lengths : List WordLength}
  {pieces rest sentence : List TokenId} {spans : List Span}

private theorem alignFrom_unknown (state : AlignmentState) (id : TokenId) :
    alignFrom vocabulary total state (.unknown :: lengths) (id :: sentence) =
      if sentence.head?.any vocabulary.continues then
        alignFrom vocabulary total (state.nextToken state.reached) (.unknown :: lengths) sentence
      else (alignFrom vocabulary total (state.afterWord 1) lengths sentence).map
        (⟨state.start, state.position + 1⟩ :: ·) := rfl

private theorem alignFrom_chars_unk (state : AlignmentState) (count : Nat) :
    alignFrom vocabulary total state (.chars count :: lengths)
        (vocabulary.special.unk :: sentence) =
      (alignFrom vocabulary total (state.afterWord 1) lengths sentence).map
        (⟨state.start, state.position + 1⟩ :: ·) := by
  simp [alignFrom, AlignmentState.afterWord, AlignmentState.nextWord, AlignmentState.closed]

/-- A known token overruns its word, completes it, or leaves something of it to the next token. -/
private theorem alignFrom_chars_of_ne (state : AlignmentState) (count : Nat) {id : TokenId}
    (hKnown : id ≠ vocabulary.special.unk) :
    alignFrom vocabulary total state (.chars count :: lengths) (id :: sentence) =
      if count < state.reached + vocabulary.charCount id then
        .error (.overrun state.word count (state.reached + vocabulary.charCount id))
      else if state.reached + vocabulary.charCount id = count then
        (alignFrom vocabulary total (state.afterWord 1) lengths sentence).map
          (⟨state.start, state.position + 1⟩ :: ·)
      else alignFrom vocabulary total (state.nextToken (state.reached + vocabulary.charCount id))
        (.chars count :: lengths) sentence := by
  simp [alignFrom, AlignmentState.afterWord, AlignmentState.nextWord, AlignmentState.closed, hKnown]

private theorem map_nextToken_afterWord (state : AlignmentState) (reached count : Nat) :
    (alignFrom vocabulary total ((state.nextToken reached).afterWord count) lengths sentence).map
        (⟨(state.nextToken reached).start, (state.nextToken reached).position + count⟩ :: ·) =
      (alignFrom vocabulary total (state.afterWord (count + 1)) lengths sentence).map
        (⟨state.start, state.position + (count + 1)⟩ :: ·) := by
  have hPosition : (state.nextToken reached).position + count = state.position + (count + 1) := by
    simp only [AlignmentState.nextToken]
    omega
  rw [AlignmentState.nextToken_afterWord, hPosition]
  rfl

/-- Pieces that complete the word are counted to its end, whatever follows. -/
theorem alignFrom_append (state : AlignmentState)
    (h : vocabulary.Completes state.reached pieces rest length) :
    alignFrom vocabulary total state (length :: lengths) (pieces ++ rest) =
      (alignFrom vocabulary total (state.afterWord pieces.length) lengths rest).map
        (⟨state.start, state.position + pieces.length⟩ :: ·) := by
  induction pieces generalizing state with
  | nil => exact absurd rfl h.ne_nil
  | cons id more ih =>
      cases length with
      | unknown =>
          obtain ⟨⟨_, hMore⟩, hRest⟩ := h
          rw [List.cons_append, alignFrom_unknown]
          cases more with
          | nil =>
              rw [List.nil_append, if_neg (Bool.not_eq_true _ ▸ hRest)]
              rfl
          | cons next more =>
              have hNext : vocabulary.continues next = true := hMore next (List.mem_cons_self ..)
              rw [if_pos (by simpa using hNext), ih (state.nextToken state.reached)]
              · exact map_nextToken_afterWord state state.reached _
              · exact ⟨⟨List.cons_ne_nil _ _, fun id hId => hMore id (List.mem_cons_of_mem _ hId)⟩, hRest⟩
      | chars count =>
          rw [List.cons_append]
          cases more with
          | nil =>
              rcases h with rfl | hCount
              · exact alignFrom_chars_unk state count
              · by_cases hUnk : id = vocabulary.special.unk
                · rw [hUnk]
                  exact alignFrom_chars_unk state count
                · rw [alignFrom_chars_of_ne state count hUnk, if_neg (by omega), if_pos hCount]
                  rfl
          | cons next more =>
              obtain ⟨hKnown, hLt, hMore⟩ := h
              rw [alignFrom_chars_of_ne state count hKnown, if_neg (by omega), if_neg (by omega),
                ih (state.nextToken (state.reached + vocabulary.charCount id)) hMore]
              exact map_nextToken_afterWord state _ _

/-- A word that is found takes pieces that complete it. -/
theorem exists_completes_of_alignFrom (state : AlignmentState)
    (h : alignFrom vocabulary total state (length :: lengths) sentence = .ok spans) :
    ∃ pieces rest, sentence = pieces ++ rest
      ∧ vocabulary.Completes state.reached pieces rest length := by
  induction sentence generalizing state spans with
  | nil => cases h
  | cons id rest ih =>
      cases length with
      | unknown =>
          rw [alignFrom_unknown] at h
          split at h
          · rename_i hNext
            obtain ⟨pieces, after, hSentence, ⟨hPieces, hMore⟩, hAfter⟩ := ih _ h
            refine ⟨id :: pieces, after, by rw [hSentence, List.cons_append],
              ⟨List.cons_ne_nil _ _, ?_⟩, hAfter⟩
            cases pieces with
            | nil => exact absurd rfl hPieces
            | cons next pieces =>
                rw [hSentence] at hNext
                intro piece hPiece
                rcases List.mem_cons.mp hPiece with rfl | hPiece
                · simpa using hNext
                · exact hMore piece hPiece
          · rename_i hNext
            exact ⟨[id], rest, rfl, ⟨List.cons_ne_nil _ _, by simp⟩, by simpa [Begins] using hNext⟩
      | chars count =>
          by_cases hUnk : id = vocabulary.special.unk
          · exact ⟨[id], rest, rfl, Or.inl hUnk⟩
          · rw [alignFrom_chars_of_ne state count hUnk] at h
            split at h
            · cases h
            · rename_i hLe
              split at h
              · rename_i hCount
                exact ⟨[id], rest, rfl, Or.inr hCount⟩
              · rename_i hNe
                obtain ⟨pieces, after, hSentence, hFills⟩ := ih _ h
                cases pieces with
                | nil => exact hFills.elim
                | cons next pieces =>
                    exact ⟨id :: next :: pieces, after, by rw [hSentence]; rfl, hUnk, by omega, hFills⟩

/-- From the beginning of a word on, an alignment succeeds with the spans of a reading and with no
others. -/
theorem alignFrom_eq_ok_iff (state : AlignmentState) (hStart : state.start = state.position)
    (hReached : state.reached = 0) :
    alignFrom vocabulary total state lengths sentence = .ok spans ↔
      vocabulary.Reads state.position lengths sentence spans := by
  constructor
  · intro h
    induction lengths generalizing state sentence spans with
    | nil =>
        cases sentence with
        | nil =>
            simp only [alignFrom, hStart, List.isEmpty_nil, beq_self_eq_true, Bool.and_self, if_true,
              Except.ok.injEq] at h
            rw [← h]
            exact .done _
        | cons id rest => cases h
    | cons length lengths ih =>
        obtain ⟨pieces, rest, rfl, hFirst⟩ := exists_completes_of_alignFrom state h
        rw [alignFrom_append state hFirst] at h
        cases hMore : alignFrom vocabulary total (state.afterWord pieces.length) lengths rest with
        | error mismatch =>
            rw [hMore] at h
            cases h
        | ok more =>
            rw [hMore] at h
            cases h
            rw [hReached] at hFirst
            rw [hStart]
            exact .word hFirst (ih (state.afterWord pieces.length) rfl rfl hMore)
  · intro h
    generalize hPosition : state.position = position at h
    induction h generalizing state with
    | done position => simp [alignFrom, hStart]
    | @word position length lengths pieces rest spans first more ih =>
        rw [← hReached] at first
        rw [alignFrom_append state first,
          ih (state.afterWord pieces.length) rfl rfl (by rw [← hPosition]; rfl), hStart, hPosition]
        rfl

/-- A sentence is aligned if it can be read along the words of its second tokenization, and in one way
only. -/
theorem align_eq_ok_iff {alternate : Vocabulary} {second : Sentence} :
    align vocabulary sentence alternate second = .ok spans ↔
      vocabulary.Reads 0 (alternate.wordLengths second) sentence spans :=
  alignFrom_eq_ok_iff .initial rfl rfl

theorem alignSentence_of_align {alternate : Vocabulary} {second : Sentence} (number : Nat)
    (h : align vocabulary sentence alternate second = .ok spans) :
    alignSentence vocabulary sentence alternate second number = .ok spans := by
  rw [alignSentence, h]
  rfl

/-- The number of the sentence matters for messages only. -/
theorem alignSentence_eq_ok_iff {alternate : Vocabulary} {second : Sentence} {number : Nat} :
    alignSentence vocabulary sentence alternate second number = .ok spans ↔
      vocabulary.Reads 0 (alternate.wordLengths second) sentence spans := by
  rw [← align_eq_ok_iff]
  unfold alignSentence
  cases align vocabulary sentence alternate second with
  | error mismatch =>
      constructor <;> intro h <;> cases h
  | ok found =>
      constructor <;> intro h <;> cases h <;> rfl

end Pretext
