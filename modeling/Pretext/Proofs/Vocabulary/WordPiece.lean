import Mathlib.Algebra.GroupWithZero.Nat
import Pretext.Proofs.Vocabulary.Piece
import Pretext.Vocabulary.WordPiece

/-! The tokens of a word: the unknown token, or pieces that spell the word and can be told to do so. -/
namespace Pretext

variable {entries : List String} {surface : String} {id : TokenId}

/-- Where the entries are no more than the numbers, the number of a spelling leads back to it. -/
theorem surface_of_entryId? (hSize : entries.length ≤ UInt32.size)
    (h : entryId? entries surface = some id) : entry? entries id = some surface := by
  rw [entryId?, Option.map_eq_some_iff] at h
  obtain ⟨place, hPlace, rfl⟩ := h
  obtain ⟨hLt, hEntry, _⟩ := List.idxOf?_eq_some_iff.mp hPlace
  have hNumber : place.toUInt32.toNat = place :=
    UInt32.toNat_ofNat_of_lt' (Nat.lt_of_lt_of_le hLt hSize)
  show entries[place.toUInt32.toNat]? = some surface
  rw [hNumber, List.getElem?_eq_getElem hLt, hEntry]

theorem specialId_eq_ok_iff : specialId entries surface = .ok id ↔ entryId? entries surface = some id := by
  rw [specialId]
  cases entryId? entries surface with
  | none => simp
  | some found => simp

/-- The special tokens are those that are spelled like them. -/
theorem SpecialIds.ofEntries_eq_ok_iff {special : SpecialIds} :
    SpecialIds.ofEntries entries = .ok special ↔
      entryId? entries "[CLS]" = some special.cls ∧ entryId? entries "[SEP]" = some special.sep
        ∧ entryId? entries "[MASK]" = some special.mask ∧ entryId? entries "[PAD]" = some special.pad
        ∧ entryId? entries "[UNK]" = some special.unk := by
  simp only [SpecialIds.ofEntries, bind, bind_eq_ok_iff, specialId_eq_ok_iff]
  constructor
  · rintro ⟨cls, hCls, sep, hSep, mask, hMask, pad, hPad, unk, hUnk, h⟩
    cases h
    exact ⟨hCls, hSep, hMask, hPad, hUnk⟩
  · rintro ⟨hCls, hSep, hMask, hPad, hUnk⟩
    exact ⟨_, hCls, _, hSep, _, hMask, _, hPad, _, hUnk, rfl⟩

namespace WordPiece

/-- Every entry has a number of its own, since there are no more entries than numbers. -/
def Numbered (vocab : WordPiece) : Prop := vocab.entries.length ≤ UInt32.size

/-- The spellings of the pieces make up the word, behind `mark` in the first and behind the mark of
a continuation in the others. -/
inductive Spells (entries : List String) : List Char → List Char → List TokenId → Prop where
  | done (mark : List Char) : Spells entries mark [] []
  | piece {mark part more : List Char} {id : TokenId} {rest : List TokenId}
      (hPart : part ≠ []) (hEntry : entry? entries id = some (String.ofList (mark ++ part)))
      (hMore : Spells entries continuationMark more rest) :
      Spells entries mark (part ++ more) (id :: rest)

variable {vocab : WordPiece} {mark word rest : List Char} {ids : List TokenId} {fuel length : Nat}

/-- The longest piece that is found is an entry, and the word begins with it. -/
theorem exists_part_of_longest? (hWord : word ≠ [])
    (h : longest? entries mark word length = some (id, rest)) :
    ∃ part, part ≠ [] ∧ word = part ++ rest
      ∧ entryId? entries (String.ofList (mark ++ part)) = some id := by
  induction length with
  | zero => cases h
  | succ length ih =>
      rw [longest?] at h
      cases hFound : entryId? entries (String.ofList (mark ++ word.take (length + 1))) with
      | none =>
          rw [hFound] at h
          exact ih h
      | some found =>
          rw [hFound] at h
          cases h
          refine ⟨word.take (length + 1), ?_, (List.take_append_drop ..).symm, hFound⟩
          intro hNil
          rcases List.take_eq_nil_iff.mp hNil with hZero | hNil
          · cases hZero
          · exact hWord hNil

theorem pieces?_cons (c : Char) :
    pieces? entries mark (fuel + 1) (c :: rest) =
      (longest? entries mark (c :: rest) (c :: rest).length).bind fun found =>
        (pieces? entries continuationMark fuel found.2).map (found.1 :: ·) := by
  simp only [pieces?]
  cases longest? entries mark (c :: rest) (c :: rest).length with
  | none => rfl
  | some found => rfl

/-- The pieces that are found spell the word. -/
theorem spells_of_pieces? (hSize : entries.length ≤ UInt32.size)
    (h : pieces? entries mark fuel word = some ids) : Spells entries mark word ids := by
  induction fuel generalizing mark word ids with
  | zero =>
      cases word with
      | nil =>
          cases h
          exact .done mark
      | cons c rest => cases h
  | succ fuel ih =>
      cases word with
      | nil =>
          cases h
          exact .done mark
      | cons c rest =>
          rw [pieces?_cons, Option.bind_eq_some_iff] at h
          obtain ⟨⟨id, after⟩, hFound, h⟩ := h
          obtain ⟨more, hMore, rfl⟩ := Option.map_eq_some_iff.mp h
          obtain ⟨part, hPart, hWord, hId⟩ := exists_part_of_longest? (List.cons_ne_nil _ _) hFound
          rw [hWord]
          exact .piece hPart (surface_of_entryId? hSize hId) (ih hMore)

/-- The tokens of a word are the unknown token alone, or else pieces that spell the word. -/
theorem wordIds_eq_unk_or_spells (hNumbered : vocab.Numbered) (word : List Char) :
    vocab.wordIds word = [vocab.special.unk] ∨ Spells vocab.entries [] word (vocab.wordIds word) := by
  rw [wordIds]
  by_cases hLong : maxWordLength < word.length
  · exact Or.inl (if_pos hLong)
  · rw [if_neg hLong]
    cases hPieces : pieces? vocab.entries [] word.length word with
    | none => exact Or.inl rfl
    | some ids => exact Or.inr (spells_of_pieces? hNumbered hPieces)

theorem entryId?_unk (vocab : WordPiece) :
    entryId? vocab.entries "[UNK]" = some vocab.special.unk :=
  (SpecialIds.ofEntries_eq_ok_iff.mp vocab.special_eq).2.2.2.2

theorem surface?_unk (hNumbered : vocab.Numbered) :
    vocab.vocabulary.surface? vocab.special.unk = some "[UNK]" :=
  surface_of_entryId? hNumbered vocab.entryId?_unk

theorem not_continues_unk (hNumbered : vocab.Numbered) :
    vocab.vocabulary.continues vocab.special.unk = false := by
  rw [Vocabulary.continues_of_surface (surface?_unk hNumbered)]
  decide

/-- The unknown token is spelled like no part of a word. -/
theorem ne_unk_of_surface? {part : List Char} (hNumbered : vocab.Numbered)
    (hWord : Text.IsWord (part ++ rest))
    (hSurface : vocab.vocabulary.surface? id = some (String.ofList part)) :
    id ≠ vocab.special.unk := by
  intro hUnk
  rw [hUnk, surface?_unk hNumbered, Option.some_inj] at hSurface
  have hPart : part = "[UNK]".toList := by rw [hSurface, String.toList_ofList]
  rw [hPart] at hWord
  have hAlone := hWord.eq_singleton (by decide)
  cases hAlone

/-- Pieces behind the first are marked as continuations, which the unknown token is not. -/
theorem Spells.continues (h : Spells vocab.entries continuationMark word ids) :
    ∀ id ∈ ids, vocab.vocabulary.continues id = true := by
  generalize hMark : continuationMark = mark at h
  induction h with
  | done mark => simp
  | @piece mark part more id rest hPart hEntry hMore ih =>
      refine List.forall_mem_cons.mpr ⟨?_, ih rfl⟩
      rw [Vocabulary.continues_of_surface hEntry, isContinuation_iff]
      exact ⟨part, hPart, by rw [String.toList_ofList, hMark]⟩

/-- Together the pieces stand for as many characters as they spell. -/
theorem Spells.sum_charCount (h : Spells vocab.entries continuationMark word ids) :
    (ids.map vocab.vocabulary.charCount).sum = word.length := by
  generalize hMark : continuationMark = mark at h
  induction h with
  | done mark => rfl
  | @piece mark part more id rest hPart hEntry hMore ih =>
      have hLength : pieceLength (String.ofList (mark ++ part)) = part.length :=
        pieceLength_of_continuation hPart (by rw [String.toList_ofList, hMark])
      rw [List.map_cons, List.sum_cons, ih rfl, Vocabulary.charCount_of_surface hEntry, hLength,
        List.length_append]

/-- The first piece of a word has no mark. All others continue it. -/
theorem Spells.exists_first (hWord : Text.IsWord word) (h : Spells vocab.entries [] word ids) :
    ∃ id part more rest, ids = id :: rest ∧ word = part ++ more
      ∧ vocab.vocabulary.surface? id = some (String.ofList part)
      ∧ Spells vocab.entries continuationMark more rest := by
  cases h with
  | done => exact absurd rfl hWord.ne_nil
  | @piece _ part more id rest hPart hEntry hMore =>
      exact ⟨id, part, more, rest, rfl, rfl, hEntry, hMore⟩

/-- The tokens of a word are grouped into one. -/
theorem joined_wordIds (hNumbered : vocab.Numbered) (hWord : Text.IsWord word) :
    vocab.vocabulary.Joined (vocab.wordIds word) := by
  rcases wordIds_eq_unk_or_spells hNumbered word with hUnk | hSpells
  · rw [hUnk]
    exact ⟨List.cons_ne_nil _ _, by simp⟩
  · obtain ⟨id, part, more, rest, hIds, _, _, hMore⟩ := hSpells.exists_first hWord
    rw [hIds]
    exact ⟨List.cons_ne_nil _ _, hMore.continues⟩

theorem begins_wordIds (hNumbered : vocab.Numbered) (hWord : Text.IsWord word) :
    vocab.vocabulary.Begins (vocab.wordIds word) := by
  rcases wordIds_eq_unk_or_spells hNumbered word with hUnk | hSpells
  · rw [hUnk]
    exact not_continues_unk hNumbered
  · obtain ⟨id, part, more, rest, hIds, rfl, hSurface, _⟩ := hSpells.exists_first hWord
    rw [hIds, Vocabulary.Begins, List.head?_cons, Option.any_some,
      Vocabulary.continues_of_surface hSurface]
    exact not_isContinuation_of_isWord hWord

/-- Unless a word is unknown as a whole, none of its tokens is, and together they have its length. -/
theorem wordIds_eq_unk_or_sum (hNumbered : vocab.Numbered) (hWord : Text.IsWord word) :
    vocab.wordIds word = [vocab.special.unk]
      ∨ vocab.special.unk ∉ vocab.wordIds word
        ∧ ((vocab.wordIds word).map vocab.vocabulary.charCount).sum = word.length := by
  rcases wordIds_eq_unk_or_spells hNumbered word with hUnk | hSpells
  · exact Or.inl hUnk
  · right
    obtain ⟨id, part, more, rest, hIds, rfl, hSurface, hMore⟩ := hSpells.exists_first hWord
    rw [hIds]
    constructor
    · intro hMem
      rcases List.mem_cons.mp hMem with hFirst | hRest
      · exact ne_unk_of_surface? hNumbered hWord hSurface hFirst.symm
      · have hUnk := not_continues_unk hNumbered
        rw [hMore.continues _ hRest] at hUnk
        cases hUnk
    · rw [List.map_cons, List.sum_cons, hMore.sum_charCount, Vocabulary.charCount_of_surface hSurface,
        pieceLength_of_not_continuation (not_isContinuation_of_isWord hWord), String.toList_ofList,
        List.length_append]

end WordPiece

end Pretext
