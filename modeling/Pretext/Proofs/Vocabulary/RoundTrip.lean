import Pretext.Proofs.Text.Normal
import Pretext.Proofs.Vocabulary.WholeWords

/-! Texts from tokens, and the tokens of these texts. The pieces of a word are joined to the word
again, so that a text without unknown words is made from its tokens as far as its words are found in
it again. -/
namespace Pretext.WordPiece

open Text (IsWord IsNormal spelled)

variable {vocab : WordPiece} {text : String} {part word : List Char} {words others : List (List Char)}
  {id : TokenId} {ids : List TokenId}

/-- The special tokens are spelled in brackets. -/
theorem exists_entry_of_contains (hNumbered : vocab.Numbered)
    (h : vocab.special.contains id = true) :
    ∃ entry ∈ specialEntries, vocab.vocabulary.surface? id = some entry := by
  obtain ⟨hCls, hSep, hMask, hPad, hUnk⟩ := SpecialIds.ofEntries_eq_ok_iff.mp vocab.special_eq
  simp only [SpecialIds.contains, Bool.or_eq_true, beq_iff_eq] at h
  rcases h with (((rfl | rfl) | rfl) | rfl) | rfl
  · exact ⟨_, by decide, surface_of_entryId? hNumbered hCls⟩
  · exact ⟨_, by decide, surface_of_entryId? hNumbered hSep⟩
  · exact ⟨_, by decide, surface_of_entryId? hNumbered hMask⟩
  · exact ⟨_, by decide, surface_of_entryId? hNumbered hPad⟩
  · exact ⟨_, by decide, surface_of_entryId? hNumbered hUnk⟩

private theorem not_contains_of_surface? (hNumbered : vocab.Numbered) {surface : String}
    (hSurface : vocab.vocabulary.surface? id = some surface) (hEntry : surface ∉ specialEntries) :
    vocab.special.contains id = false := by
  rw [← Bool.not_eq_true]
  intro hContains
  obtain ⟨entry, hMem, hSpecial⟩ := exists_entry_of_contains hNumbered hContains
  rw [hSurface, Option.some_inj] at hSpecial
  exact hEntry (hSpecial ▸ hMem)

private theorem not_contains_of_continues (hNumbered : vocab.Numbered)
    (h : vocab.vocabulary.continues id = true) : vocab.special.contains id = false := by
  have hNone : ∀ entry ∈ specialEntries, isContinuation entry = false := by decide
  rw [Vocabulary.continues, Option.any_eq_true] at h
  obtain ⟨surface, hSurface, hContinues⟩ := h
  apply not_contains_of_surface? hNumbered hSurface
  intro hMem
  rw [hNone surface hMem] at hContinues
  cases hContinues

/-- No piece of a word is a special token. -/
theorem Spells.not_contains (hNumbered : vocab.Numbered) (hWord : IsWord word)
    (h : Spells vocab.entries [] word ids) : ∀ id ∈ ids, vocab.special.contains id = false := by
  obtain ⟨first, part, more, rest, rfl, rfl, hSurface, hMore⟩ := h.exists_first hWord
  refine List.forall_mem_cons.mpr ⟨?_, ?_⟩
  · exact not_contains_of_surface? hNumbered hSurface (ofList_not_mem_specialEntries hWord)
  · exact fun id hId => not_contains_of_continues hNumbered (hMore.continues id hId)

/-- The first piece of a word is set off by a space, since it does not begin with the mark. -/
theorem joinedPiece_of_isWord {more : List Char} (hWord : IsWord (part ++ more)) :
    joinedPiece (String.ofList part) = " " ++ String.ofList part := by
  unfold joinedPiece
  split
  · rename_i rest hPart
    rw [String.toList_ofList] at hPart
    rw [hPart] at hWord
    cases hWord.eq_singleton (by decide)
  · rfl

private theorem surfaces_cons {surface : String}
    (hSurface : vocab.vocabulary.surface? id = some surface) (ids : List TokenId) :
    vocab.vocabulary.surfaces (id :: ids) = surface :: vocab.vocabulary.surfaces ids := by
  rw [Vocabulary.surfaces, List.map_cons, hSurface, Option.getD_some, Vocabulary.surfaces]

/-- Pieces that spell the rest of a word are joined to that rest. -/
private theorem Spells.join_continuation (h : Spells vocab.entries continuationMark word ids) :
    joinPieces (vocab.vocabulary.surfaces ids) = String.ofList word := by
  generalize hMark : continuationMark = mark at h
  induction h with
  | done mark => rfl
  | @piece mark part more id rest hPart hEntry hMore ih =>
      rw [surfaces_cons hEntry, joinPieces, ih rfl, ← hMark, joinedPiece_continuation,
        String.ofList_append]

/-- The pieces of a word are joined to the word. -/
theorem Spells.join (hWord : IsWord word) (h : Spells vocab.entries [] word ids) :
    joinPieces (vocab.vocabulary.surfaces ids) = String.ofList (' ' :: word) := by
  obtain ⟨first, part, more, rest, rfl, rfl, hSurface, hMore⟩ := h.exists_first hWord
  rw [surfaces_cons hSurface, joinPieces, joinedPiece_of_isWord hWord, hMore.join_continuation,
    String.append_assoc, ← String.ofList_append]
  exact String.ofList_append.symm

/-- Every word has pieces of its own. -/
def Knows (vocab : WordPiece) (words : List (List Char)) : Prop :=
  ∀ word ∈ words, Spells vocab.entries [] word (vocab.wordIds word)

/-- Words that are encoded without the unknown token are known. -/
theorem knows_of_not_mem (hNumbered : vocab.Numbered)
    (h : vocab.special.unk ∉ words.flatMap vocab.wordIds) : vocab.Knows words := by
  intro word hWord
  rcases wordIds_eq_unk_or_spells hNumbered word with hUnk | hSpells
  · exact absurd (List.mem_flatMap.mpr ⟨word, hWord, by rw [hUnk]; exact List.mem_singleton_self _⟩) h
  · exact hSpells

/-- The pieces of known words are joined to the words, each behind a space. -/
theorem join_flatMap (hWords : ∀ word ∈ words, IsWord word) (hKnows : vocab.Knows words) :
    joinPieces (vocab.vocabulary.surfaces (words.flatMap vocab.wordIds)) =
      String.ofList (spelled words) := by
  induction words with
  | nil => rfl
  | cons word rest ih =>
      obtain ⟨hWord, hRest⟩ := List.forall_mem_cons.mp hWords
      obtain ⟨hSpells, hKnown⟩ := List.forall_mem_cons.mp hKnows
      have hFirst := hSpells.join hWord
      have hMore := ih hRest hKnown
      rw [Vocabulary.surfaces] at hFirst hMore
      rw [List.flatMap_cons, Vocabulary.surfaces, List.map_append, joinPieces_append, hFirst, hMore,
        spelled, spelled, List.flatMap_cons, String.ofList_append]

/-- Nothing is left out of the text of words that are known. -/
theorem decode_flatMap (hNumbered : vocab.Numbered) (hWords : ∀ word ∈ words, IsWord word)
    (hKnows : vocab.Knows words) :
    vocab.vocabulary.decode (words.flatMap vocab.wordIds) false = String.ofList (spelled words) := by
  have hShown : ∀ id ∈ words.flatMap vocab.wordIds, vocab.vocabulary.isShown false id = true := by
    intro id hId
    obtain ⟨word, hWord, hId⟩ := List.mem_flatMap.mp hId
    have hOut := (hKnows word hWord).not_contains hNumbered (hWords word hWord) id hId
    simp only [SpecialIds.contains, Bool.or_eq_false_iff, beq_eq_false_iff_ne] at hOut
    simp [Vocabulary.isShown, vocabulary, hOut]
  rw [Vocabulary.decode, List.filter_eq_self.mpr hShown, if_neg Bool.false_ne_true,
    join_flatMap hWords hKnows]

/-- Known words with the same tokens are the same words. -/
theorem eq_of_flatMap_eq (hNumbered : vocab.Numbered) (hWords : ∀ word ∈ words, IsWord word)
    (hOthers : ∀ word ∈ others, IsWord word)
    (hKnown : vocab.special.unk ∉ words.flatMap vocab.wordIds)
    (h : others.flatMap vocab.wordIds = words.flatMap vocab.wordIds) : others = words := by
  have hText := decode_flatMap hNumbered hOthers (knows_of_not_mem hNumbered (h ▸ hKnown))
  rw [h, decode_flatMap hNumbered hWords (knows_of_not_mem hNumbered hKnown)] at hText
  have hSpaceless : ∀ {word : List Char}, IsWord word → word ≠ [] ∧ ' ' ∉ word :=
    fun hWord => ⟨hWord.ne_nil, fun hIn => hWord.ne_space hIn rfl⟩
  apply Text.spelled_injective
  · exact fun word hWord => hSpaceless (hOthers word hWord)
  · exact fun word hWord => hSpaceless (hWords word hWord)
  · exact (String.ofList_injective hText).symm

private theorem isWord_elan : IsWord ['e', 'l', 'a', 'n'] := by
  have hWords : Text.words true "elan".toList = [['e', 'l', 'a', 'n']] := rfl
  exact Text.isWord_of_mem_words (hWords ▸ List.mem_singleton_self _)

/-- A vocabulary without case or accents that knows one word. -/
def elan : WordPiece := knowing (some ['e', 'l', 'a', 'n']) true (isWord_of_mem_some isWord_elan)

/-- The dot and the stem of a musical note, two marks of which the stem is to come first. -/
def dottedStem : List Char := [Char.ofNat 0x1D16D, Char.ofNat 0x1D165]

/-- The same with a grapheme joiner between them, past which no mark is moved. -/
def joinedStem : String := String.ofList [Char.ofNat 0x1D16D, Char.ofNat 0x34F, Char.ofNat 0x1D165]

private theorem isWord_dottedStem : IsWord dottedStem := by
  have hMem : dottedStem ∈ Text.words true joinedStem.toList := by decide +kernel
  exact Text.isWord_of_mem_words hMem

def notes : WordPiece := knowing (some dottedStem) true (isWord_of_mem_some isWord_dottedStem)

/-- The tokens of a text without unknown words make a text with the same tokens, unless folding its
case leaves marks in another order than the canonical one. Vocabularies with more entries than there
are numbers for them are left aside. -/
theorem tokenize_decode_iff (hNumbered : vocab.Numbered)
    (hIds : vocab.vocabulary.tokenize text = .ok ids) (hKnown : vocab.special.unk ∉ ids) :
    vocab.vocabulary.tokenize (vocab.vocabulary.decode ids false) = .ok ids ↔
      (vocab.lowerCase = true → ∀ word ∈ Text.words true text.toList, Unicode.MarksOrdered word) := by
  have hNormal : ∀ word ∈ Text.words vocab.lowerCase text.toList, IsNormal vocab.lowerCase word :=
    fun _ => Text.isNormal_of_mem_words
  have hMarks : (vocab.lowerCase = true →
      ∀ word ∈ Text.words true text.toList, Unicode.MarksOrdered word) ↔
      (Text.words vocab.lowerCase text.toList).map (Text.again vocab.lowerCase) =
        Text.words vocab.lowerCase text.toList := by
    rw [Text.map_again_eq_iff]
    cases vocab.lowerCase with
    | false => exact ⟨fun _ => nofun, fun _ => nofun⟩
    | true => rfl
  cases hIds
  rw [encode] at hKnown ⊢
  rw [hMarks]
  generalize Text.words vocab.lowerCase text.toList = words at hNormal hKnown ⊢
  have hWords : ∀ word ∈ words, IsWord word := fun word hWord => (hNormal word hWord).isWord
  have hAgain : vocab.vocabulary.tokenize
      (vocab.vocabulary.decode (words.flatMap vocab.wordIds) false) =
        .ok ((words.map (Text.again vocab.lowerCase)).flatMap vocab.wordIds) := by
    rw [decode_flatMap hNumbered hWords (knows_of_not_mem hNumbered hKnown)]
    show Except.ok (vocab.encode _) = _
    rw [encode, String.toList_ofList, Text.words_spelled hNormal]
  rw [hAgain, Except.ok.injEq]
  constructor
  · intro h
    refine eq_of_flatMap_eq hNumbered hWords ?_ hKnown h
    intro word hWord
    obtain ⟨source, hSource, rfl⟩ := List.mem_map.mp hWord
    exact (hNormal source hSource).isWord_again
  · intro h
    rw [h]

/-- The accent of a capital is lost with the case, once and for all. -/
theorem tokenize_decode_elan :
    elan.vocabulary.tokenize "\u00C9lan" = .ok [5] ∧ elan.special.unk ∉ [5]
      ∧ elan.vocabulary.tokenize (elan.vocabulary.decode [5] false) = .ok [5] := by
  have hIds : elan.vocabulary.tokenize "\u00C9lan" = .ok [5] := rfl
  have hKnown : elan.special.unk ∉ [5] := by decide
  refine ⟨hIds, hKnown, (tokenize_decode_iff numbered_knowing hIds hKnown).mpr fun _ => ?_⟩
  have hWords : Text.words true "\u00C9lan".toList = [['e', 'l', 'a', 'n']] := rfl
  rw [hWords, List.forall_mem_singleton]
  unfold Unicode.MarksOrdered
  decide

/-- The joiner is a nonspacing mark and is taken off, so that the two marks it kept apart are put in
order the second time. And where the numbers of a vocabulary are used up, the next entry has the
number of the padding and is left out of the text. -/
theorem tokenize_decode_ne :
    (notes.vocabulary.tokenize joinedStem = .ok [5] ∧ notes.special.unk ∉ [5]
      ∧ notes.vocabulary.tokenize (notes.vocabulary.decode [5] false) = .ok [1])
    ∧ (crowd (UInt32.size - 5)).vocabulary.tokenize "a" = .ok [0]
      ∧ (crowd (UInt32.size - 5)).special.unk ∉ [0]
      ∧ (crowd (UInt32.size - 5)).vocabulary.tokenize
        ((crowd (UInt32.size - 5)).vocabulary.decode [0] false) = .ok [] := by
  refine ⟨by decide +kernel, ?_, by decide, rfl⟩
  show Except.ok ((crowd (UInt32.size - 5)).encode "a") = _
  rw [encode_crowd]
  rfl

end Pretext.WordPiece
