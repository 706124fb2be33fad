import Pretext.Proofs.Text.Words
import Pretext.Vocabulary.Basic

/-! What a piece stands for, by what it is spelled as. -/
namespace Pretext

variable {surface : String} {part : List Char}

/-- A continuation is spelled with the mark and something behind it. -/
theorem isContinuation_iff :
    isContinuation surface = true ↔ ∃ part ≠ [], surface.toList = continuationMark ++ part := by
  unfold isContinuation
  split
  · rename_i c rest hSurface
    exact ⟨fun _ => ⟨c :: rest, List.cons_ne_nil _ _, hSurface⟩, fun _ => rfl⟩
  · rename_i hOther
    refine ⟨fun h => absurd h Bool.false_ne_true, ?_⟩
    rintro ⟨part, hPart, hSurface⟩
    obtain ⟨c, rest, rfl⟩ := List.exists_cons_of_ne_nil hPart
    exact absurd hSurface (hOther c rest)

/-- A continuation stands for what is behind its mark. -/
theorem pieceLength_of_continuation (hPart : part ≠ [])
    (h : surface.toList = continuationMark ++ part) : pieceLength surface = part.length := by
  obtain ⟨c, rest, rfl⟩ := List.exists_cons_of_ne_nil hPart
  have hSurface : surface.toList = '#' :: '#' :: c :: rest := h
  simp only [pieceLength, hSurface]

theorem pieceLength_of_not_continuation (h : isContinuation surface = false) :
    pieceLength surface = surface.toList.length := by
  unfold pieceLength
  split
  · rename_i c rest hSurface
    have hSome : isContinuation surface = true :=
      isContinuation_iff.mpr ⟨c :: rest, List.cons_ne_nil _ _, hSurface⟩
    rw [h] at hSome
    cases hSome
  · rfl

theorem joinedPiece_continuation (part : List Char) :
    joinedPiece (String.ofList (continuationMark ++ part)) = String.ofList part := by
  simp [joinedPiece, continuationMark]

/-- The beginning of a word is not spelled as a continuation, since the marks are punctuation. -/
theorem not_isContinuation_of_isWord {rest : List Char} (hWord : Text.IsWord (part ++ rest)) :
    isContinuation (String.ofList part) = false := by
  rw [← Bool.not_eq_true, isContinuation_iff]
  rintro ⟨more, hMore, hPart⟩
  rw [String.toList_ofList] at hPart
  rw [hPart] at hWord
  have hAlone := hWord.eq_singleton (by decide)
  cases hAlone

namespace Vocabulary

/-- The pieces belong together: all but the first continue a word. -/
def Joined (vocabulary : Vocabulary) (pieces : List TokenId) : Prop :=
  pieces ≠ [] ∧ ∀ id ∈ pieces.tail, vocabulary.continues id = true

/-- No word goes on with the pieces. -/
def Begins (vocabulary : Vocabulary) (pieces : List TokenId) : Prop :=
  pieces.head?.any vocabulary.continues = false

variable {vocabulary : Vocabulary} {id : TokenId}

theorem continues_of_surface (h : vocabulary.surface? id = some surface) :
    vocabulary.continues id = isContinuation surface := by
  rw [continues, h, Option.any_some]

theorem charCount_of_surface (h : vocabulary.surface? id = some surface) :
    vocabulary.charCount id = pieceLength surface := by
  rw [charCount, h, Option.getD_some]

/-- A token that continues a word stands for a character at least. -/
theorem charCount_pos_of_continues (h : vocabulary.continues id = true) :
    0 < vocabulary.charCount id := by
  rw [continues, Option.any_eq_true] at h
  obtain ⟨surface, hSurface, hContinues⟩ := h
  obtain ⟨part, hPart, hSpelled⟩ := isContinuation_iff.mp hContinues
  rw [charCount_of_surface hSurface, pieceLength_of_continuation hPart hSpelled]
  exact List.length_pos_iff.mpr hPart

end Vocabulary

end Pretext
