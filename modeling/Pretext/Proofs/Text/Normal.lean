import Pretext.Proofs.Text.Words
import Pretext.Proofs.Unicode.Folding
import Pretext.Proofs.Unicode.Ordering

/-! Words in normal form, brought into normal form once more. All of it leaves them alone, except that
marks are put in order again: where a mark was taken off from between two others, these may be met in
the wrong order. -/
namespace Pretext.Text

open Unicode

variable {c : Char} {text before after word chunk : List Char} {words : List (List Char)}
  {lowerCase : Bool} {cut : List Char → List (List Char)}

theorem mem_decompose : c ∈ decompose text ↔ ∃ source ∈ text, c ∈ parts source := by
  rw [decompose, (orderMarks_perm _).mem_iff, List.mem_flatMap]

/-- Folding leaves nothing that could be folded, and nothing is dropped or set apart after it that
was not before. -/
theorem exists_of_mem_foldCase (h : c ∈ foldCase text) :
    (Settled c ∧ isNonspacingMark c = false)
      ∧ ∃ source ∈ text, (isDropped source = false → isDropped c = false)
        ∧ (isIdeograph source = false → isIdeograph c = false) := by
  obtain ⟨part, hPart, hLetter⟩ := List.mem_flatMap.mp h
  obtain ⟨hMem, hMark⟩ := List.mem_filter.mp hPart
  obtain ⟨source, hSource, hMade⟩ := mem_decompose.mp hMem
  obtain ⟨letter, hLower, hSettled, hLetters⟩ := exists_lower (has_composed_of_mem_parts hMade)
  rw [hLower, List.mem_singleton] at hLetter
  rw [hLetter]
  rcases hLetters with rfl | ⟨hDropped, hIdeograph, hOther⟩
  · exact ⟨⟨hSettled, by simpa using hMark⟩, source, hSource,
      fun hShown => isDropped_of_mem_parts hShown hMade,
      fun hNone => isIdeograph_of_mem_parts hNone hMade⟩
  · exact ⟨⟨hSettled, hOther⟩, source, hSource, fun _ => hDropped, fun _ => hIdeograph⟩

theorem length_foldCase_ideograph (h : isIdeograph c = true) : (foldCase [c]).length ≤ 1 := by
  obtain ⟨part, hParts⟩ := exists_parts_of_ideograph h
  obtain ⟨letter, hLower, -⟩ := exists_lower (c := part)
    (has_composed_of_mem_parts (by rw [hParts]; exact List.mem_singleton_self part))
  have hDecompose : decompose [c] = [part] := by
    rw [decompose, List.flatMap_singleton, hParts]
    rfl
  rw [foldCase, hDecompose]
  cases hMark : isNonspacingMark part <;> simp [hMark, hLower]

/-- Spaces separate what is folded. -/
theorem foldCase_append (before after : List Char) :
    foldCase (before ++ ' ' :: after) = foldCase before ++ ' ' :: foldCase after := by
  have hParts : parts ' ' = [' '] := rfl
  have hLower : lower ' ' = [' '] := rfl
  have hMark : isNonspacingMark ' ' = false := rfl
  have hClass : combiningClass ' ' = 0 := rfl
  have hDecompose : decompose (before ++ ' ' :: after) =
      decompose before ++ ' ' :: decompose after := by
    rw [decompose, List.flatMap_append, List.flatMap_cons, hParts, List.singleton_append,
      orderMarks_append hClass]
    rfl
  rw [foldCase, hDecompose, List.filter_append, List.filter_cons_of_pos (by simp [hMark]),
    List.flatMap_append, List.flatMap_cons, hLower]
  rfl

/-- Where there is nothing left to fold, folding only puts the marks in order. -/
theorem foldCase_of_settled (h : ∀ c ∈ word, Settled c ∧ isNonspacingMark c = false) :
    foldCase word = orderMarks word := by
  have hSame : ∀ {f : Char → List Char} {chars : List Char}, (∀ c ∈ chars, f c = [c]) →
      chars.flatMap f = chars := by
    intro f chars hChars
    rw [List.flatMap_congr hChars, List.flatMap_singleton']
  have hMem : ∀ c ∈ orderMarks word, c ∈ word := fun c => (orderMarks_perm word).mem_iff.mp
  have hDecompose : decompose word = orderMarks word := by
    rw [decompose, hSame fun c hc => (h c hc).1.parts_eq]
  have hFilter : (orderMarks word).filter (fun c => !isNonspacingMark c) = orderMarks word :=
    List.filter_eq_self.mpr fun c hc => by simp [(h c (hMem c hc)).2]
  rw [foldCase, hDecompose, hFilter, hSame fun c hc => (h c (hMem c hc)).1.lower_eq]

/-- The words of a part of a text that has been cleaned and in which ideographs have been set off. -/
def chunkWords (lowerCase : Bool) (chunk : List Char) : List (List Char) :=
  splitWords isBlank isPunctuation (if lowerCase then foldCase chunk else chunk)

/-- Chunks are cut at spaces, which folding the case leaves where they are. -/
theorem separates_chunkWords (lowerCase : Bool) : Separates (chunkWords lowerCase) := by
  have hBlank : isBlank ' ' = true := rfl
  have hSplit := separates_splitWords isPunctuation hBlank
  cases lowerCase with
  | false => exact hSplit
  | true =>
      refine ⟨rfl, fun before after => ?_⟩
      have hFold : chunkWords true (before ++ ' ' :: after) =
          splitWords isBlank isPunctuation (foldCase before ++ ' ' :: foldCase after) := by
        rw [← foldCase_append]
        rfl
      rw [hFold, hSplit.append]
      rfl

/-- Setting off ideographs by spaces is to cut around them. -/
theorem Separates.cut_spaced (h : Separates cut) (collected text : List Char) :
    cut (collected.reverse ++ text.flatMap spaceChar) =
      (splitFrom (· == ' ') isIdeograph collected text).flatMap cut := by
  have hClosed : ∀ collected : List Char,
      cut collected.reverse = (closeWord collected).flatMap cut := by
    intro collected
    cases collected with
    | nil => exact h.nil
    | cons c collected => simp [closeWord]
  induction text generalizing collected with
  | nil => rw [List.flatMap_nil, List.append_nil, hClosed, splitFrom]
  | cons c rest ih =>
      have hRest : cut (rest.flatMap spaceChar) =
          (splitFrom (· == ' ') isIdeograph [] rest).flatMap cut := ih []
      rw [List.flatMap_cons, spaceChar, splitFrom]
      by_cases hSpace : (c == ' ') = true
      · have hPlain : isIdeograph ' ' = false := rfl
        rw [if_pos hSpace, beq_iff_eq.mp hSpace, if_neg (ne_true_of_eq_false hPlain),
          List.singleton_append, h.append, hClosed, hRest, List.flatMap_append]
      · rw [if_neg hSpace]
        by_cases hIdeograph : isIdeograph c = true
        · have hSingle : cut (c :: ' ' :: rest.flatMap spaceChar) =
              cut [c] ++ cut (rest.flatMap spaceChar) := h.append [c] _
          rw [if_pos hIdeograph, if_pos hIdeograph]
          show cut (collected.reverse ++ ' ' :: c :: ' ' :: rest.flatMap spaceChar) = _
          rw [h.append, hSingle, hClosed, hRest, List.flatMap_append, List.flatMap_cons]
        · rw [if_neg hIdeograph, if_neg hIdeograph, ← ih (c :: collected), List.reverse_cons,
            List.append_assoc]

/-- The text between blanks and ideographs, which is cut for itself. -/
def chunks (text : List Char) : List (List Char) :=
  splitWords (· == ' ') isIdeograph (text.filterMap cleanChar)

/-- A text has the words of its chunks. -/
theorem words_eq_flatMap (lowerCase : Bool) (text : List Char) :
    Text.words lowerCase text = (chunks text).flatMap (chunkWords lowerCase) :=
  (separates_chunkWords lowerCase).cut_spaced [] (text.filterMap cleanChar)

/-- A word to which nothing more is done, save that its marks may be put in order. -/
structure IsNormal (lowerCase : Bool) (word : List Char) : Prop where
  isWord : IsWord word
  shown : ∀ c ∈ word, isDropped c = false
  apart : word.length = 1 ∨ ∀ c ∈ word, isIdeograph c = false
  folded : lowerCase = true → ∀ c ∈ word, Settled c ∧ isNonspacingMark c = false

private theorem isDropped_of_cleanChar {source : Char} (h : cleanChar source = some c) :
    isDropped c = false := by
  have hSpace : isDropped ' ' = false := rfl
  unfold cleanChar at h
  split at h
  · cases h
    exact hSpace
  · split at h
    · cases h
    · rename_i hShown
      split at h
      · cases h
        exact hSpace
      · cases h
        simpa [isDropped] using hShown

private theorem shown_of_mem_chunks (h : chunk ∈ chunks text) : ∀ c ∈ chunk, isDropped c = false := by
  intro c hc
  obtain ⟨source, -, hClean⟩ := List.mem_filterMap.mp ((sublist_of_mem_splitWords h).subset hc)
  exact isDropped_of_cleanChar hClean

private theorem apart_of_mem_chunks (h : chunk ∈ chunks text) :
    chunk.length ≤ 1 ∨ ∀ c ∈ chunk, isIdeograph c = false := by
  rcases single_or_of_mem_splitFrom (by simp) h with ⟨c, rfl, -⟩ | hAll
  · exact Or.inl (Nat.le_refl 1)
  · exact Or.inr fun c hc => (hAll c hc).2

/-- An ideograph in a folded chunk is all there is of the chunk. -/
private theorem apart_of_foldCase (h : chunk ∈ chunks text) :
    (foldCase chunk).length ≤ 1 ∨ ∀ c ∈ foldCase chunk, isIdeograph c = false := by
  have hOther : (∀ c ∈ chunk, isIdeograph c = false) →
      ∀ c ∈ foldCase chunk, isIdeograph c = false := by
    intro hAll c hc
    obtain ⟨-, source, hSource, -, hIdeograph⟩ := exists_of_mem_foldCase hc
    exact hIdeograph (hAll source hSource)
  rcases single_or_of_mem_splitFrom (by simp) h with ⟨c, rfl, -⟩ | hAll
  · by_cases hIdeograph : isIdeograph c = true
    · exact Or.inl (length_foldCase_ideograph hIdeograph)
    · exact Or.inr (hOther (by simpa using hIdeograph))
  · exact Or.inr (hOther fun c hc => (hAll c hc).2)

/-- The words of a text are in normal form. -/
theorem isNormal_of_mem_words (h : word ∈ Text.words lowerCase text) : IsNormal lowerCase word := by
  have hWord := isWord_of_mem_words h
  have hApart : ∀ {chars : List Char}, word.Sublist chars →
      (chars.length ≤ 1 ∨ ∀ c ∈ chars, isIdeograph c = false) →
      word.length = 1 ∨ ∀ c ∈ word, isIdeograph c = false := by
    rintro chars hSublist (hLength | hAll)
    · have hPos := List.length_pos_iff.mpr hWord.ne_nil
      have hLe := hSublist.length_le
      exact Or.inl (by omega)
    · exact Or.inr fun c hc => hAll c (hSublist.subset hc)
  rw [words_eq_flatMap] at h
  obtain ⟨chunk, hChunk, hIn⟩ := List.mem_flatMap.mp h
  have hSublist := sublist_of_mem_splitWords hIn
  cases lowerCase with
  | false =>
      exact ⟨hWord, fun c hc => shown_of_mem_chunks hChunk c (hSublist.subset hc),
        hApart hSublist (apart_of_mem_chunks hChunk), nofun⟩
  | true =>
      refine ⟨hWord, ?_, hApart hSublist (apart_of_foldCase hChunk), fun _ c hc =>
        (exists_of_mem_foldCase (hSublist.subset hc)).1⟩
      intro c hc
      obtain ⟨-, source, hSource, hDropped, -⟩ := exists_of_mem_foldCase (hSublist.subset hc)
      exact hDropped (shown_of_mem_chunks hChunk source hSource)

private theorem cleanChar_of_shown (hShown : isDropped c = false) (hBlank : isBlank c = false) :
    cleanChar c = some c := by
  have hLine : isLineControl c = false := by
    rw [← Bool.not_eq_true]
    intro hLine
    simp only [isLineControl, Bool.or_eq_true, beq_iff_eq] at hLine
    rcases hLine with (rfl | rfl) | rfl <;> exact absurd hBlank (by decide)
  have hNone : ¬ (decide (c.toNat = 0xFFFD) || isControl c) = true := by
    simpa [isDropped] using hShown
  rw [cleanChar, if_neg (ne_true_of_eq_false hLine), if_neg hNone,
    if_neg (ne_true_of_eq_false hBlank)]

/-- The word with its marks in order, if case is folded. -/
def again (lowerCase : Bool) (word : List Char) : List Char :=
  if lowerCase then orderMarks word else word

namespace IsNormal

/-- A word that is normalized again is a word still. -/
theorem isWord_again (h : IsNormal lowerCase word) : IsWord (again lowerCase word) := by
  cases lowerCase with
  | false => exact h.isWord
  | true => exact h.isWord.perm (orderMarks_perm word)

/-- And it is the only one: nothing in a normal word is cut. -/
theorem chunkWords_eq (h : IsNormal lowerCase word) :
    chunkWords lowerCase word = [again lowerCase word] := by
  have hSame : (if lowerCase then foldCase word else word) = again lowerCase word := by
    cases lowerCase with
    | false => rfl
    | true => exact foldCase_of_settled (h.folded rfl)
  have hWord := h.isWord_again
  rw [chunkWords, hSame]
  exact splitWords_of_uncut ⟨hWord.ne_nil, hWord.not_blank, hWord.alone⟩

/-- Words in normal form are not cut any further before case is folded. -/
theorem chunks_spelled (h : ∀ word ∈ words, IsNormal lowerCase word) :
    chunks (spelled words) = words := by
  have hClean : ∀ c ∈ spelled words, cleanChar c = some c := by
    intro c hc
    obtain ⟨word, hWord, hc⟩ := List.mem_flatMap.mp hc
    rcases List.mem_cons.mp hc with rfl | hc
    · rfl
    · exact cleanChar_of_shown ((h word hWord).shown c hc) ((h word hWord).isWord.not_blank c hc)
  rw [chunks, List.filterMap_congr hClean, List.filterMap_some]
  apply splitWords_spelled rfl
  intro word hWord
  have hNormal := h word hWord
  exact ⟨hNormal.isWord.ne_nil,
    fun c hc => beq_eq_false_iff_ne.mpr (hNormal.isWord.ne_space hc), hNormal.apart⟩

end IsNormal

/-- Words in normal form are found again when they are spelled out, save that where case is folded
the marks of each word are put in order. -/
theorem words_spelled (h : ∀ word ∈ words, IsNormal lowerCase word) :
    Text.words lowerCase (spelled words) = words.map (again lowerCase) := by
  rw [words_eq_flatMap, IsNormal.chunks_spelled h, List.map_eq_flatMap]
  exact List.flatMap_congr fun word hWord => (h word hWord).chunkWords_eq

/-- Words are the same when they are normalized again if the case is kept, or if the marks are in
order. -/
theorem map_again_eq_iff : words.map (again lowerCase) = words ↔
    (lowerCase = true → ∀ word ∈ words, MarksOrdered word) := by
  have hEach : words.map (again lowerCase) = words ↔ ∀ word ∈ words, again lowerCase word = word := by
    conv => lhs; rhs; rw [← List.map_id words]
    exact List.map_inj_left
  rw [hEach]
  cases lowerCase with
  | false => exact ⟨fun _ => nofun, fun _ _ _ => rfl⟩
  | true =>
      constructor
      · exact fun h _ word hWord => orderMarks_eq_iff.mp (h word hWord)
      · exact fun h word hWord => orderMarks_eq_iff.mpr (h rfl word hWord)

end Pretext.Text
