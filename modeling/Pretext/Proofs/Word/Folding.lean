import Pretext.Proofs.Vocabulary.WholeWords
import Pretext.Proofs.Word.Compatible

/-! Two tokenizations of one text, of which one folds case and accents. They can be aligned whatever
the vocabularies are if, and only if, folding leaves every word its length. -/
namespace Pretext.WordPiece

variable {vocab folded cased : WordPiece} {text : String} {word other : List Char}

/-- Two words have the same length, unless one is too long to be cut and so unknown anyway. -/
def SameLength (word other : List Char) : Prop :=
  maxWordLength < word.length ∨ maxWordLength < other.length ∨ word.length = other.length

/-- A text is encoded word by word. -/
theorem encode_eq_flatten (vocab : WordPiece) (text : String) :
    vocab.encode text = ((Text.words vocab.lowerCase text.toList).map vocab.wordIds).flatten := by
  rw [encode, List.flatMap_def]

private theorem joined_of_mem_words (hNumbered : vocab.Numbered) (text : String) :
    ∀ pieces ∈ (Text.words vocab.lowerCase text.toList).map vocab.wordIds,
      vocab.vocabulary.Joined pieces := by
  intro pieces hPieces
  obtain ⟨word, hWord, rfl⟩ := List.mem_map.mp hPieces
  exact joined_wordIds hNumbered (Text.isWord_of_mem_words hWord)

private theorem begins_of_mem_words (hNumbered : vocab.Numbered) (text : String) :
    ∀ pieces ∈ ((Text.words vocab.lowerCase text.toList).map vocab.wordIds).tail,
      vocab.vocabulary.Begins pieces := by
  intro pieces hPieces
  obtain ⟨word, hWord, rfl⟩ := List.mem_map.mp (List.mem_of_mem_tail hPieces)
  exact begins_wordIds hNumbered (Text.isWord_of_mem_words hWord)

/-- The lengths of the words of an encoded text are those of its words. -/
theorem wordLengths_encode (hNumbered : vocab.Numbered) (text : String) :
    vocab.vocabulary.wordLengths (vocab.encode text) =
      (Text.words vocab.lowerCase text.toList).map fun word =>
        vocab.vocabulary.groupLength (vocab.wordIds word) := by
  rw [encode_eq_flatten, Vocabulary.wordLengths_flatten (joined_of_mem_words hNumbered text)
    (begins_of_mem_words hNumbered text), List.map_map]
  rfl

private theorem groupLength_unk (vocab : WordPiece) :
    vocab.vocabulary.groupLength [vocab.special.unk] = .unknown :=
  if_pos (List.mem_singleton_self _)

/-- The length of a word, as its tokens tell it, is the true one if the word is known. -/
theorem groupLength_wordIds (hNumbered : vocab.Numbered) (hWord : Text.IsWord word)
    (hKnown : vocab.wordIds word ≠ [vocab.special.unk]) :
    vocab.vocabulary.groupLength (vocab.wordIds word) = .chars word.length := by
  obtain ⟨hUnk, hSum⟩ := (wordIds_eq_unk_or_sum hNumbered hWord).resolve_left hKnown
  have hLength : vocab.vocabulary.groupLength (vocab.wordIds word) = .chars _ := if_neg hUnk
  rw [hLength, hSum]

/-- A word that is too long becomes the unknown token. -/
theorem wordIds_of_long (hLong : maxWordLength < word.length) :
    vocab.wordIds word = [vocab.special.unk] :=
  if_pos hLong

/-- Words of the same length match, whatever pieces they are cut into. -/
private theorem matches_wordIds (hFolded : folded.Numbered) (hCased : cased.Numbered)
    (hWord : Text.IsWord word) (hOther : Text.IsWord other) (hSame : SameLength word other) :
    folded.vocabulary.Matches (folded.wordIds word)
      (cased.vocabulary.groupLength (cased.wordIds other)) := by
  by_cases hUnk : cased.wordIds other = [cased.special.unk]
  · rw [hUnk, groupLength_unk]
    trivial
  · rw [groupLength_wordIds hCased hOther hUnk]
    rcases wordIds_eq_unk_or_sum hFolded hWord with hWordUnk | ⟨hKnown, hSum⟩
    · exact Or.inl hWordUnk
    · rcases hSame with hLong | hLong | hLength
      · exact Or.inl (wordIds_of_long hLong)
      · exact absurd (wordIds_of_long hLong) hUnk
      · exact Or.inr ⟨hKnown, hSum.trans hLength⟩

/-- Words of the same lengths can be aligned. -/
theorem exists_reads_encode (hFolded : folded.Numbered) (hCased : cased.Numbered)
    (hSame : List.Forall₂ SameLength (Text.words folded.lowerCase text.toList)
      (Text.words cased.lowerCase text.toList)) :
    ∃ spans, folded.vocabulary.Reads 0 (cased.vocabulary.wordLengths (cased.encode text))
      (folded.encode text) spans := by
  rw [wordLengths_encode hCased, encode_eq_flatten]
  obtain ⟨hLength, hSame⟩ := List.forall₂_iff_get.mp hSame
  refine ⟨_, Vocabulary.reads_flatten ?_ (joined_of_mem_words hFolded text)
    (begins_of_mem_words hFolded text)⟩
  rw [List.forall₂_map_left_iff, List.forall₂_map_right_iff, List.forall₂_iff_get]
  refine ⟨hLength, fun place hFirst hSecond => ?_⟩
  have hWord := Text.isWord_of_mem_words (List.get_mem _ ⟨place, hFirst⟩)
  have hOther := Text.isWord_of_mem_words (List.get_mem _ ⟨place, hSecond⟩)
  exact matches_wordIds hFolded hCased hWord hOther (hSame place hFirst hSecond)

section Converse

variable {position : Nat} {lengths : List WordLength} {sentence : List TokenId} {spans : List Span}
  {vocabulary : Vocabulary}

/-- Where no piece continues a word, each unknown word takes one piece. -/
private theorem length_of_reads_unknown
    (h : vocabulary.Reads position lengths sentence spans)
    (hSentence : ∀ id ∈ sentence, vocabulary.continues id = false)
    (hLengths : ∀ length ∈ lengths, length = .unknown) : sentence.length = lengths.length := by
  induction h with
  | done position => rfl
  | @word position length lengths pieces rest spans first more ih =>
      obtain ⟨hUnknown, hRest⟩ := List.forall_mem_cons.mp hLengths
      rw [hUnknown] at first
      obtain ⟨⟨hPieces, hTail⟩, _⟩ := first
      obtain ⟨id, tail, rfl⟩ := List.exists_cons_of_ne_nil hPieces
      have hNil : tail = [] := by
        cases tail with
        | nil => rfl
        | cons next tail =>
            have hNext := hTail next (List.mem_cons_self ..)
            rw [hSentence next (by simp)] at hNext
            cases hNext
      have hMore := ih (fun id hId => hSentence id (List.mem_append_right _ hId)) hRest
      rw [hNil, List.singleton_append, List.length_cons, List.length_cons, hMore]

private theorem length_le_of_reads (h : vocabulary.Reads position lengths sentence spans) :
    lengths.length ≤ sentence.length := by
  induction h with
  | done position => exact Nat.le_refl _
  | @word position length lengths pieces rest spans first more ih =>
      have hPos : 0 < pieces.length := List.length_pos_iff.mpr first.ne_nil
      rw [List.length_append, List.length_cons]
      omega

/-- Where there are as many pieces as words, each word takes one piece. -/
private theorem completes_of_reads (h : vocabulary.Reads position lengths sentence spans)
    (hLength : sentence.length = lengths.length) :
    List.Forall₂ (fun pieces length => ∃ rest, vocabulary.Completes 0 pieces rest length)
      (sentence.map fun id => [id]) lengths := by
  induction h with
  | done position => exact .nil
  | @word position length lengths pieces rest spans first more ih =>
      obtain ⟨id, tail, rfl⟩ := List.exists_cons_of_ne_nil first.ne_nil
      have hLe := length_le_of_reads more
      rw [List.length_append, List.length_cons, List.length_cons] at hLength
      have hNil : tail = [] := List.length_eq_zero_iff.mp (by omega)
      rw [hNil] at first ⊢
      exact .cons ⟨rest, first⟩ (ih (by omega))

theorem map_singleton_encode (hWhole : vocab.Whole) (text : String) :
    (vocab.encode text).map (fun id => [id]) =
      (Text.words vocab.lowerCase text.toList).map vocab.wordIds := by
  rw [encode, List.map_flatMap, List.map_eq_flatMap]
  refine List.flatMap_congr fun word hWord => ?_
  obtain ⟨id, hId⟩ := List.length_eq_one_iff.mp
    (length_wordIds hWhole (Text.isWord_of_mem_words hWord).ne_nil)
  rw [hId, List.map_singleton]

theorem length_encode (hWhole : vocab.Whole) (text : String) :
    (vocab.encode text).length = (Text.words vocab.lowerCase text.toList).length := by
  have hLength := congrArg List.length (map_singleton_encode hWhole text)
  rwa [List.length_map, List.length_map] at hLength

theorem not_continues_of_mem_encode {id : TokenId} (hNumbered : vocab.Numbered)
    (hWhole : vocab.Whole) (hId : id ∈ vocab.encode text) :
    vocab.vocabulary.continues id = false := by
  have hMem : [id] ∈ (Text.words vocab.lowerCase text.toList).map vocab.wordIds := by
    rw [← map_singleton_encode hWhole]
    exact List.mem_map_of_mem hId
  obtain ⟨word, hWord, hIds⟩ := List.mem_map.mp hMem
  have hBegins := begins_wordIds hNumbered (Text.isWord_of_mem_words hWord)
  rw [hIds] at hBegins
  exact hBegins

/-- A word of one token that completes a word of known length has that length, if it is known. -/
private theorem length_eq_of_completes {rest : List TokenId} {count : Nat}
    (hNumbered : vocab.Numbered) (hWord : Text.IsWord word) (hSingle : (vocab.wordIds word).length = 1)
    (hKnown : vocab.wordIds word ≠ [vocab.special.unk])
    (h : vocab.vocabulary.Completes 0 (vocab.wordIds word) rest (.chars count)) :
    word.length = count := by
  obtain ⟨hUnk, hSum⟩ := (wordIds_eq_unk_or_sum hNumbered hWord).resolve_left hKnown
  obtain ⟨id, hId⟩ := List.length_eq_one_iff.mp hSingle
  rw [hId] at h hUnk hSum
  rw [← hSum, List.map_singleton, List.sum_singleton]
  rcases h with hIsUnk | hCount
  · exact absurd (List.mem_singleton.mpr hIsUnk.symm) hUnk
  · rwa [Nat.zero_add] at hCount

/-- Where whole words are read along, words that both sides know have the same length. -/
private theorem length_eq_of_reads {place : Nat} (hNumbered : folded.Numbered)
    (hCased : cased.Numbered) (hWhole : folded.Whole)
    (hCount : (Text.words folded.lowerCase text.toList).length =
      (Text.words cased.lowerCase text.toList).length)
    (hReads : folded.vocabulary.Reads 0 (cased.vocabulary.wordLengths (cased.encode text))
      (folded.encode text) spans)
    (hFirst : (Text.words folded.lowerCase text.toList)[place]? = some word)
    (hSecond : (Text.words cased.lowerCase text.toList)[place]? = some other)
    (hWordKnown : folded.wordIds word ≠ [folded.special.unk])
    (hOtherKnown : cased.wordIds other ≠ [cased.special.unk]) : word.length = other.length := by
  obtain ⟨hLt, hWordAt⟩ := List.getElem?_eq_some_iff.mp hFirst
  obtain ⟨hLtOther, hOtherAt⟩ := List.getElem?_eq_some_iff.mp hSecond
  have hWord := Text.isWord_of_mem_words (List.mem_of_getElem? hFirst)
  have hOther := Text.isWord_of_mem_words (List.mem_of_getElem? hSecond)
  have hPairs := completes_of_reads hReads (by
    rw [length_encode hWhole, wordLengths_encode hCased, List.length_map, hCount])
  rw [map_singleton_encode hWhole, wordLengths_encode hCased, List.forall₂_map_left_iff,
    List.forall₂_map_right_iff] at hPairs
  obtain ⟨rest, hCompletes⟩ := (List.forall₂_iff_get.mp hPairs).2 place hLt hLtOther
  rw [List.get_eq_getElem, List.get_eq_getElem, hWordAt, hOtherAt,
    groupLength_wordIds hCased hOther hOtherKnown] at hCompletes
  exact length_eq_of_completes hNumbered hWord (length_wordIds hWhole hWord.ne_nil) hWordKnown hCompletes

/-- Where nothing is known, reading along shows that there are as many words on both sides. -/
private theorem length_words_eq
    (hReads : (knowing none true isWord_of_mem_none).vocabulary.Reads 0
      ((knowing none false isWord_of_mem_none).vocabulary.wordLengths
        ((knowing none false isWord_of_mem_none).encode text))
      ((knowing none true isWord_of_mem_none).encode text) spans) :
    (Text.words true text.toList).length = (Text.words false text.toList).length := by
  have hLength := length_of_reads_unknown hReads
    (fun id hId => not_continues_of_mem_encode numbered_knowing whole_knowing hId) ?_
  · rw [length_encode whole_knowing, wordLengths_encode numbered_knowing,
      List.length_map] at hLength
    exact hLength
  · intro length hMem
    rw [wordLengths_encode numbered_knowing] at hMem
    obtain ⟨word, hWord, rfl⟩ := List.mem_map.mp hMem
    rw [wordIds_knowing_none (Text.isWord_of_mem_words hWord), groupLength_unk]

/-- Vocabularies of the special tokens alone count the words, and one word more on either side
compares these two words. -/
theorem sameLength_of_reads
    (h : ∀ folded cased : WordPiece, folded.lowerCase = true → cased.lowerCase = false →
      folded.Numbered → cased.Numbered →
      ∃ spans, folded.vocabulary.Reads 0 (cased.vocabulary.wordLengths (cased.encode text))
        (folded.encode text) spans) :
    List.Forall₂ SameLength (Text.words true text.toList) (Text.words false text.toList) := by
  have hCount : (Text.words true text.toList).length = (Text.words false text.toList).length := by
    obtain ⟨spans, hReads⟩ := h (knowing none true isWord_of_mem_none)
      (knowing none false isWord_of_mem_none) rfl rfl numbered_knowing numbered_knowing
    exact length_words_eq hReads
  refine List.forall₂_iff_get.mpr ⟨hCount, fun place hLt hLtOther => ?_⟩
  have hFirst := List.getElem?_eq_getElem hLt
  have hSecond := List.getElem?_eq_getElem hLtOther
  rw [List.get_eq_getElem, List.get_eq_getElem]
  generalize (Text.words true text.toList)[place] = word at hFirst ⊢
  generalize (Text.words false text.toList)[place] = other at hSecond ⊢
  have hWord := Text.isWord_of_mem_words (List.mem_of_getElem? hFirst)
  have hOther := Text.isWord_of_mem_words (List.mem_of_getElem? hSecond)
  by_cases hLong : maxWordLength < word.length
  · exact Or.inl hLong
  · by_cases hOtherLong : maxWordLength < other.length
    · exact Or.inr (Or.inl hOtherLong)
    · right
      right
      obtain ⟨spans, hReads⟩ := h (knowing (some word) true (isWord_of_mem_some hWord))
        (knowing (some other) false (isWord_of_mem_some hOther)) rfl rfl numbered_knowing numbered_knowing
      exact length_eq_of_reads numbered_knowing numbered_knowing whole_knowing hCount hReads
        hFirst hSecond (wordIds_knowing_ne_unk rfl (Nat.not_lt.mp hLong))
        (wordIds_knowing_ne_unk rfl (Nat.not_lt.mp hOtherLong))

end Converse

/-- A text is aligned with itself, whatever the two vocabularies are, exactly if its words keep
their lengths when case and accents are folded. Vocabularies with more entries than there are
numbers for them are left aside. -/
theorem aligned_iff_sameLength (text : String) :
    (∀ folded cased : WordPiece, folded.lowerCase = true → cased.lowerCase = false →
      folded.Numbered → cased.Numbered → ∀ (sentence second : Sentence) (number : Nat),
      folded.vocabulary.tokenize text = .ok sentence → cased.vocabulary.tokenize text = .ok second →
      ∃ spans, alignSentence folded.vocabulary sentence cased.vocabulary second number = .ok spans) ↔
    List.Forall₂ SameLength (Text.words true text.toList) (Text.words false text.toList) := by
  constructor
  · intro h
    refine sameLength_of_reads fun folded cased hLower hKept hFolded hCased => ?_
    obtain ⟨spans, hSpans⟩ := h folded cased hLower hKept hFolded hCased _ _ 0 rfl rfl
    exact ⟨spans, alignSentence_eq_ok_iff.mp hSpans⟩
  · intro h folded cased hLower hKept hFolded hCased sentence second number hSentence hSecond
    cases hSentence
    cases hSecond
    rw [← hLower, ← hKept] at h
    obtain ⟨spans, hReads⟩ := exists_reads_encode hFolded hCased h
    exact ⟨spans, alignSentence_eq_ok_iff.mpr hReads⟩

private theorem isWord_cafe : Text.IsWord ['c', 'a', 'f', 'e'] := by
  have hMem : ['c', 'a', 'f', 'e'] ∈ Text.words true "cafe\u0301".toList := by decide +kernel
  exact Text.isWord_of_mem_words hMem

private theorem isWord_accentedCafe : Text.IsWord ['c', 'a', 'f', 'e', '\u0301'] := by
  have hMem : ['c', 'a', 'f', 'e', '\u0301'] ∈ Text.words false "cafe\u0301".toList := by
    decide +kernel
  exact Text.isWord_of_mem_words hMem

def cafe : WordPiece :=
  knowing (some ['c', 'a', 'f', 'e']) true (isWord_of_mem_some isWord_cafe)

def accentedCafe : WordPiece :=
  knowing (some ['c', 'a', 'f', 'e', '\u0301']) false (isWord_of_mem_some isWord_accentedCafe)

/-- An accent that is a character of its own is lost when accents are folded, and the word with it
gets shorter. -/
theorem misaligned_accent :
    cafe.lowerCase = true ∧ accentedCafe.lowerCase = false
      ∧ cafe.vocabulary.tokenize "cafe\u0301" = .ok [5]
      ∧ accentedCafe.vocabulary.tokenize "cafe\u0301" = .ok [5]
      ∧ alignSentence cafe.vocabulary [5] accentedCafe.vocabulary [5] 0 =
        .error (.misaligned .alternate (.words 0 (.uncovered 0 1))) := by
  decide +kernel

end Pretext.WordPiece
