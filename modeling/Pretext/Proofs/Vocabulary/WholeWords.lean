import Mathlib.Data.List.Nodup
import Pretext.Proofs.Vocabulary.WordPiece

/-! Vocabularies in which no entry continues a word, so that a word has a single token. -/
namespace Pretext.WordPiece

/-- No entry continues a word. -/
def Whole (vocab : WordPiece) : Prop := ∀ entry ∈ vocab.entries, isContinuation entry = false

variable {vocab : WordPiece} {word : List Char} {id : TokenId}

theorem mem_of_entryId? {entries : List String} {surface : String}
    (h : entryId? entries surface = some id) : surface ∈ entries := by
  rw [entryId?, Option.map_eq_some_iff] at h
  obtain ⟨place, hPlace, _⟩ := h
  obtain ⟨hLt, hEntry, _⟩ := List.idxOf?_eq_some_iff.mp hPlace
  rw [← hEntry]
  exact List.getElem_mem hLt

/-- A vocabulary of whole words has no piece that continues one. -/
private theorem longest?_continuation (hWhole : vocab.Whole) (hWord : word ≠ []) (length : Nat) :
    longest? vocab.entries continuationMark word length = none := by
  cases hFound : longest? vocab.entries continuationMark word length with
  | none => rfl
  | some found =>
      obtain ⟨part, hPart, _, hId⟩ := exists_part_of_longest? hWord hFound
      have hNone := hWhole _ (mem_of_entryId? hId)
      have hSome : isContinuation (String.ofList (continuationMark ++ part)) = true :=
        isContinuation_iff.mpr ⟨part, hPart, String.toList_ofList⟩
      rw [hSome] at hNone
      cases hNone

private theorem pieces?_continuation (hWhole : vocab.Whole) (hWord : word ≠ []) (fuel : Nat) :
    pieces? vocab.entries continuationMark fuel word = none := by
  obtain ⟨c, rest, rfl⟩ := List.exists_cons_of_ne_nil hWord
  cases fuel with
  | zero => rfl
  | succ fuel => rw [pieces?_cons, longest?_continuation hWhole hWord, Option.bind_none]

/-- A word that is an entry is found as a whole. -/
theorem wordIds_of_entryId? (hWord : word ≠ []) (hShort : word.length ≤ maxWordLength)
    (h : entryId? vocab.entries (String.ofList word) = some id) : vocab.wordIds word = [id] := by
  obtain ⟨c, rest, rfl⟩ := List.exists_cons_of_ne_nil hWord
  have hLongest : longest? vocab.entries [] (c :: rest) (rest.length + 1) = some (id, []) := by
    rw [longest?, List.nil_append, ← @List.length_cons _ c, List.take_length, h, List.drop_length]
  have hPieces : pieces? vocab.entries [] (rest.length + 1) (c :: rest) = some [id] := by
    rw [pieces?_cons, List.length_cons, hLongest, Option.bind_some]
    cases rest <;> rfl
  rw [wordIds, if_neg (Nat.not_lt.mpr hShort), List.length_cons, hPieces, Option.getD_some]

/-- Every word has a single token, since what is left behind an entry cannot be known. -/
theorem length_wordIds (hWhole : vocab.Whole) (hWord : word ≠ []) :
    (vocab.wordIds word).length = 1 := by
  obtain ⟨c, rest, rfl⟩ := List.exists_cons_of_ne_nil hWord
  rw [wordIds]
  by_cases hLong : maxWordLength < (c :: rest).length
  · rw [if_pos hLong, List.length_singleton]
  · rw [if_neg hLong, List.length_cons, pieces?_cons]
    cases longest? vocab.entries [] (c :: rest) (c :: rest).length with
    | none => rfl
    | some found =>
        obtain ⟨id, after⟩ := found
        rw [Option.bind_some]
        cases after with
        | nil => cases rest <;> rfl
        | cons next after =>
            rw [pieces?_continuation hWhole (List.cons_ne_nil next after)]
            rfl

/-- The special tokens as they are spelled, in some order. -/
def specialEntries : List String := ["[PAD]", "[UNK]", "[CLS]", "[SEP]", "[MASK]"]

/-- No part of a word is spelled like a special token, since brackets are words by themselves. -/
theorem ofList_not_mem_specialEntries {part rest : List Char}
    (hWord : Text.IsWord (part ++ rest)) : String.ofList part ∉ specialEntries := by
  have hSpelled : ∀ entry ∈ specialEntries, entry.toList.head? = some '[' ∧ entry.toList.length ≠ 1 := by
    decide
  intro hMem
  obtain ⟨hFirst, hLength⟩ := hSpelled _ hMem
  rw [String.toList_ofList] at hFirst hLength
  cases part with
  | nil => cases hFirst
  | cons c more =>
      rw [List.head?_cons, Option.some_inj] at hFirst
      have hNil := hWord.eq_singleton (by rw [hFirst]; decide)
      rw [(List.append_eq_nil_iff.mp hNil).1] at hLength
      exact hLength rfl

/-- A vocabulary that knows one word at most, and the special tokens. -/
def knowing (known : Option (List Char)) (lowerCase : Bool)
    (hKnown : ∀ word ∈ known, Text.IsWord word) : WordPiece where
  entries := specialEntries ++ known.toList.map String.ofList
  lowerCase := lowerCase
  special := ⟨2, 3, 4, 0, 1⟩
  distinct := by
    rw [List.nodup_append]
    refine ⟨by decide, by cases known <;> simp, ?_⟩
    rintro entry hEntry _ hWord rfl
    obtain ⟨word, hMem, rfl⟩ := List.mem_map.mp hWord
    have hIsWord := hKnown word (Option.mem_toList.mp hMem)
    exact @ofList_not_mem_specialEntries word [] (by rwa [List.append_nil]) hEntry
  special_eq := SpecialIds.ofEntries_eq_ok_iff.mpr ⟨rfl, rfl, rfl, rfl, rfl⟩

theorem isWord_of_mem_none : ∀ word ∈ (none : Option (List Char)), Text.IsWord word :=
  fun _ hWord => nomatch hWord

theorem isWord_of_mem_some (hWord : Text.IsWord word) :
    ∀ other ∈ some word, Text.IsWord other :=
  fun _ hOther => Option.some_inj.mp hOther ▸ hWord

variable {known : Option (List Char)} {lowerCase : Bool}
  {hKnown : ∀ word ∈ known, Text.IsWord word}

theorem numbered_knowing : (knowing known lowerCase hKnown).Numbered := by
  have hLength : known.toList.length ≤ 1 := by cases known <;> simp
  have hSize : (5 : Nat) + 1 ≤ UInt32.size := by decide
  rw [Numbered, knowing, List.length_append, List.length_map]
  exact Nat.le_trans (Nat.add_le_add_left hLength 5) hSize

theorem whole_knowing : (knowing known lowerCase hKnown).Whole := by
  intro entry hEntry
  rcases List.mem_append.mp hEntry with hSpecial | hWord
  · have hAll : ∀ entry ∈ specialEntries, isContinuation entry = false := by decide
    exact hAll entry hSpecial
  · obtain ⟨word, hMem, rfl⟩ := List.mem_map.mp hWord
    have hIsWord := hKnown word (Option.mem_toList.mp hMem)
    exact @not_isContinuation_of_isWord word [] (by rwa [List.append_nil])

/-- The word that is known is not taken for an unknown one. -/
theorem wordIds_knowing_ne_unk (hWord : word ∈ known) (hShort : word.length ≤ maxWordLength) :
    (knowing known lowerCase hKnown).wordIds word ≠ [(knowing known lowerCase hKnown).special.unk] := by
  have hIsWord := hKnown word hWord
  have hEntry : String.ofList word ∈ (knowing known lowerCase hKnown).entries :=
    List.mem_append_right _ (List.mem_map_of_mem (Option.mem_toList.mpr hWord))
  obtain ⟨place, hPlace⟩ := Option.isSome_iff_exists.mp (List.isSome_idxOf?.mpr hEntry)
  have hId : entryId? (knowing known lowerCase hKnown).entries (String.ofList word) =
      some place.toUInt32 := by rw [entryId?, hPlace, Option.map_some]
  rw [wordIds_of_entryId? hIsWord.ne_nil hShort hId]
  intro hUnk
  exact @ne_unk_of_surface? _ _ [] word numbered_knowing (by rwa [List.append_nil])
    (surface_of_entryId? numbered_knowing hId) (List.singleton_inj.mp hUnk)

theorem wordIds_knowing_none (hWord : Text.IsWord word) :
    (knowing none lowerCase isWord_of_mem_none).wordIds word =
      [(knowing none lowerCase isWord_of_mem_none).special.unk] := by
  rcases wordIds_eq_unk_or_spells numbered_knowing word with hUnk | hSpells
  · exact hUnk
  · obtain ⟨id, part, more, rest, _, rfl, hSurface, _⟩ := hSpells.exists_first hWord
    have hEntry : String.ofList part ∈ specialEntries := List.mem_of_getElem? hSurface
    exact absurd hEntry (ofList_not_mem_specialEntries hWord)

/-- Entries of two letters or more, each of another length. -/
def fillers (count : Nat) : List String :=
  (List.range count).map fun place => String.ofList (List.replicate (place + 2) 'a')

private theorem length_of_mem_fillers {count : Nat} {entry : String} (h : entry ∈ fillers count) :
    2 ≤ entry.toList.length ∧ entry.toList.head? = some 'a' := by
  obtain ⟨place, -, rfl⟩ := List.mem_map.mp h
  rw [String.toList_ofList, List.length_replicate]
  exact ⟨by omega, rfl⟩

private theorem nodup_fillers (count : Nat) : (fillers count).Nodup := by
  refine List.Nodup.map (fun place other h => ?_) List.nodup_range
  have hLength := congrArg (fun entry => entry.toList.length) h
  simpa using hLength

private theorem nodup_special_fillers (count : Nat) : (specialEntries ++ fillers count).Nodup := by
  rw [List.nodup_append]
  refine ⟨by decide, nodup_fillers count, ?_⟩
  rintro entry hEntry _ hFiller rfl
  have hHead : ∀ entry ∈ specialEntries, entry.toList.head? ≠ some 'a' := by decide
  exact hHead entry hEntry (length_of_mem_fillers hFiller).2

private theorem letter_not_mem (count : Nat) : "a" ∉ specialEntries ++ fillers count := by
  intro hMem
  rcases List.mem_append.mp hMem with hSpecial | hFiller
  · exact absurd hSpecial (by decide)
  · exact absurd (length_of_mem_fillers hFiller).1 (by decide)

/-- A vocabulary that knows one letter, the last of its entries, behind the special tokens and as many
others. -/
def crowd (count : Nat) : WordPiece where
  entries := specialEntries ++ fillers count ++ ["a"]
  lowerCase := false
  special := ⟨2, 3, 4, 0, 1⟩
  distinct := by
    rw [List.nodup_append]
    refine ⟨nodup_special_fillers count, by decide, ?_⟩
    rintro entry hEntry _ hLetter rfl
    exact letter_not_mem count (List.mem_singleton.mp hLetter ▸ hEntry)
  special_eq := SpecialIds.ofEntries_eq_ok_iff.mpr ⟨rfl, rfl, rfl, rfl, rfl⟩

/-- The last entry, if it is new, has the number of those before it, as far as there are numbers. -/
theorem entryId?_last {entries : List String} {entry : String} (h : entry ∉ entries) :
    entryId? (entries ++ [entry]) entry = some entries.length.toUInt32 := by
  have hPlace : (entries ++ [entry]).idxOf? entry = some entries.length := by
    refine List.idxOf?_eq_some_iff.mpr ⟨by simp, by simp, fun place hLt => ?_⟩
    rw [List.getElem_append_left hLt]
    exact fun hEq => h (hEq ▸ List.getElem_mem hLt)
  rw [entryId?, hPlace, Option.map_some]

/-- The letter has the number of its place, as far as there is one. -/
theorem encode_crowd (count : Nat) : (crowd count).encode "a" = [(count + 5).toUInt32] := by
  have hLength : (specialEntries ++ fillers count).length = count + 5 := by
    simp [specialEntries, fillers]
  have hId : entryId? (crowd count).entries (String.ofList ['a']) = some (count + 5).toUInt32 := by
    rw [← hLength]
    exact entryId?_last (letter_not_mem count)
  have hWords : Text.words false "a".toList = [['a']] := rfl
  show (Text.words false "a".toList).flatMap _ = _
  rw [hWords, List.flatMap_singleton, wordIds_of_entryId? (by decide) (by decide) hId]

end Pretext.WordPiece
