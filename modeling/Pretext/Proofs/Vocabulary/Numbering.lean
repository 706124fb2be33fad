import Mathlib.Data.List.TakeWhile
import Pretext.Proofs.Vocabulary.Repetition
import Pretext.Proofs.Vocabulary.WholeWords

/-! The numbers of the entries. A file makes the vocabulary that the list of its lines makes, or none at
all if that makes none, and in it numbers and entries belong together one by one. -/
namespace Pretext

variable {entries lines : List String} {line : String} {id : TokenId} {path text : List Char}

/-- Where entries are distinct, the first that is spelled so is the only one. -/
theorem entryId?_of_surface (hDistinct : entries.Nodup) (h : entry? entries id = some line) :
    entryId? entries line = some id := by
  obtain ⟨hLt, rfl⟩ := List.getElem?_eq_some_iff.mp h
  have hPlace : entries.idxOf? entries[id.toNat] = some id.toNat := by
    refine List.idxOf?_eq_some_iff.mpr ⟨hLt, rfl, fun place hPlace hEq => ?_⟩
    exact Nat.ne_of_lt hPlace ((hDistinct.getElem_inj_iff).mp hEq)
  rw [entryId?, hPlace, Option.map_some, Nat.toUInt32_eq, UInt32.ofNat_toNat]

theorem isSome_entryId? : (entryId? entries line).isSome ↔ line ∈ entries := by
  rw [entryId?, Option.isSome_map, List.isSome_idxOf?]

/-- The vocabulary numbers the lines in order, from zero on. Each line has one number and each number
below that of the lines one line, and no two special tokens are the same. -/
structure Vocabulary.Enumerates (vocabulary : Vocabulary) (lines : List String) : Prop where
  size_eq : vocabulary.size = lines.length
  surface_eq : ∀ id, vocabulary.surface? id = lines[id.toNat]?
  inverse : ∀ id line, vocabulary.surface? id = some line ↔ vocabulary.id? line = some id
  isSome_surface : ∀ id, (vocabulary.surface? id).isSome ↔ id.toNat < lines.length
  isSome_id : ∀ line, (vocabulary.id? line).isSome ↔ line ∈ lines
  special_nodup : [vocabulary.special.cls, vocabulary.special.sep, vocabulary.special.mask,
    vocabulary.special.pad, vocabulary.special.unk].Nodup

namespace WordPiece

variable {vocab : WordPiece} {file : File} {lowerCase : Bool}

/-- Special tokens are spelled differently, and so they are different. -/
theorem nodup_special (hNumbered : vocab.Numbered) :
    [vocab.special.cls, vocab.special.sep, vocab.special.mask, vocab.special.pad,
      vocab.special.unk].Nodup := by
  obtain ⟨hCls, hSep, hMask, hPad, hUnk⟩ := SpecialIds.ofEntries_eq_ok_iff.mp vocab.special_eq
  apply List.Nodup.of_map fun id => entry? vocab.entries id
  simp only [List.map_cons, List.map_nil, surface_of_entryId? hNumbered hCls,
    surface_of_entryId? hNumbered hSep, surface_of_entryId? hNumbered hMask,
    surface_of_entryId? hNumbered hPad, surface_of_entryId? hNumbered hUnk]
  decide

/-- A vocabulary numbers its own entries, if there are numbers for all of them. -/
theorem enumerates (hNumbered : vocab.Numbered) : vocab.vocabulary.Enumerates vocab.entries where
  size_eq := rfl
  surface_eq _ := rfl
  inverse _ _ := ⟨entryId?_of_surface vocab.distinct, surface_of_entryId? hNumbered⟩
  isSome_surface _ := by simp [vocabulary, entry?]
  isSome_id _ := isSome_entryId?
  special_nodup := nodup_special hNumbered

theorem exists_special_iff :
    (∃ special, SpecialIds.ofEntries entries = .ok special) ↔
      ∀ entry ∈ specialEntries, entry ∈ entries := by
  simp only [SpecialIds.ofEntries_eq_ok_iff]
  constructor
  · rintro ⟨special, hCls, hSep, hMask, hPad, hUnk⟩
    simp [specialEntries, mem_of_entryId? hCls, mem_of_entryId? hSep, mem_of_entryId? hMask,
      mem_of_entryId? hPad, mem_of_entryId? hUnk]
  · intro hListed
    have hId : ∀ entry ∈ specialEntries, ∃ id, entryId? entries entry = some id := fun entry hEntry =>
      Option.isSome_iff_exists.mp (isSome_entryId?.mpr (hListed entry hEntry))
    obtain ⟨cls, hCls⟩ := hId "[CLS]" (by decide)
    obtain ⟨sep, hSep⟩ := hId "[SEP]" (by decide)
    obtain ⟨mask, hMask⟩ := hId "[MASK]" (by decide)
    obtain ⟨pad, hPad⟩ := hId "[PAD]" (by decide)
    obtain ⟨unk, hUnk⟩ := hId "[UNK]" (by decide)
    exact ⟨⟨cls, sep, mask, pad, unk⟩, hCls, hSep, hMask, hPad, hUnk⟩

/-- Distinct entries make the one vocabulary that has them, if there is one. -/
theorem result_ofDistinct_eq_ok_iff (hDistinct : entries.Nodup) :
    (ofDistinct entries hDistinct lowerCase).result = .ok vocab ↔
      vocab.entries = entries ∧ vocab.lowerCase = lowerCase := by
  obtain ⟨own, ownCase, ownSpecial, ownDistinct, hOwn⟩ := vocab
  unfold ofDistinct
  split
  · rename_i failure hFailure
    refine ⟨fun h => (nomatch h), ?_⟩
    rintro ⟨rfl, -⟩
    rw [hOwn] at hFailure
    cases hFailure
  · rename_i special hSpecial
    constructor
    · intro h
      cases h
      exact ⟨rfl, rfl⟩
    · rintro ⟨rfl, rfl⟩
      obtain rfl : ownSpecial = special := Except.ok.inj (hOwn.symm.trans hSpecial)
      rfl

/-- Where entries repeat, a refusal is all there can be: no vocabulary has them. -/
private theorem refused_iff (hRepeated : ¬ entries.Nodup) (failure : Failure) :
    Except.error failure = .ok vocab ↔ vocab.entries = entries ∧ vocab.lowerCase = lowerCase := by
  refine iff_of_false (fun h => nomatch h) fun hOwn => hRepeated ?_
  rw [← hOwn.1]
  exact vocab.distinct

/-- A vocabulary is made of entries if they are its own. -/
theorem result_ofEntries_eq_ok_iff :
    (ofEntries entries lowerCase).result = .ok vocab ↔
      vocab.entries = entries ∧ vocab.lowerCase = lowerCase := by
  by_cases hDistinct : entries.Nodup
  · rw [ofEntries_of_nodup hDistinct, result_ofDistinct_eq_ok_iff]
  · obtain ⟨before, entry, rest, -, -, -, hRefused⟩ := ofEntries_of_not_nodup hDistinct lowerCase
    rw [hRefused, Logged.result_ofExcept, refused_iff hDistinct]

/-- Entries make a vocabulary if none comes again and the special tokens are among them. -/
theorem exists_ofEntries_iff :
    (∃ vocab, (ofEntries entries lowerCase).result = .ok vocab) ↔
      entries.Nodup ∧ ∀ entry ∈ specialEntries, entry ∈ entries := by
  simp only [result_ofEntries_eq_ok_iff, ← exists_special_iff]
  constructor
  · rintro ⟨vocab, rfl, -⟩
    exact ⟨vocab.distinct, vocab.special, vocab.special_eq⟩
  · rintro ⟨hDistinct, special, hSpecial⟩
    exact ⟨⟨entries, lowerCase, special, hDistinct, hSpecial⟩, rfl, rfl⟩

/-- A file makes a vocabulary of its lines, if there are numbers for all of them. -/
theorem result_ofFile_eq_ok_iff (h : file.Reads path text)
    (hSize : (listed text).length ≤ UInt32.size) :
    (ofFile file lowerCase).result = .ok vocab ↔
      vocab.entries = listed text ∧ vocab.lowerCase = lowerCase := by
  rw [ofFile_of_reads h]
  by_cases hDistinct : (listed text).Nodup
  · rw [ofListing_of_nodup hDistinct hSize, result_ofEntries_eq_ok_iff]
  · obtain ⟨gap, place, line, -, -, hRefused⟩ :=
      ofListing_of_not_nodup hDistinct hSize (String.ofList path) lowerCase
    rw [hRefused, Logged.result_ofExcept, refused_iff hDistinct]

/-- Distinct lines that are more than there are numbers are refused in a file. -/
theorem exists_result_ofFile_of_crowded (h : file.Reads path text) (hDistinct : (listed text).Nodup)
    (hSize : UInt32.size < (listed text).length) (lowerCase : Bool) :
    ∃ failure, (ofFile file lowerCase).result = .error failure := by
  obtain ⟨gap, line, hRefused⟩ :=
    ofListing_of_crowded hDistinct hSize (String.ofList path) lowerCase
  refine ⟨.configuration (.repeatedLine line (String.ofList path) gap), ?_⟩
  rw [ofFile_of_reads h, hRefused, Logged.result_ofExcept]

/-- A line that reads the same in a file: none of its characters is blank, and a byte is enough for
each. -/
def Plain (line : List Char) : Prop := ∀ c ∈ line, Unicode.isBlank c = false ∧ c.toNat < 128

instance (line : List Char) : Decidable (Plain line) := List.decidableBAll _ line

/-- The text with some lines, each of which is ended. -/
def unlines (lines : List String) : List Char := lines.flatMap fun line => line.toList ++ ['\n']

/-- The file with the bytes that the characters of a text have as their codes. -/
def File.ofCodes (path text : List Char) : File :=
  ⟨path.map fun c => c.toNat.toUInt8, .ok (text.map fun c => c.toNat.toUInt8)⟩

theorem trimEnd_of_plain {line : List Char} (h : Plain line) : trimEnd line = line := by
  have hDrop : line.reverse.dropWhile Unicode.isBlank = line.reverse := by
    rw [List.dropWhile_eq_self_iff]
    intro hLength
    rw [(h _ (List.mem_reverse.mp (List.getElem_mem hLength))).1]
    exact Bool.false_ne_true
  rw [trimEnd, hDrop, List.reverse_reverse]

/-- What was collected of a line is completed by the next line feed. -/
theorem linesFrom_append {line : List Char} (h : Plain line) (collected rest : List Char) :
    linesFrom collected (line ++ '\n' :: rest) = (collected.reverse ++ line) :: linesFrom [] rest := by
  induction line generalizing collected with
  | nil => simp [linesFrom]
  | cons c line ih =>
      obtain ⟨⟨hBlank, -⟩, hLine⟩ := List.forall_mem_cons.mp h
      have hFeed : c ≠ '\n' := fun hEq => absurd (hEq ▸ hBlank) (by decide)
      rw [List.cons_append, linesFrom, if_neg hFeed, ih hLine, List.reverse_cons, List.append_assoc,
        List.singleton_append]

/-- Plain lines are read as they were written. -/
theorem listed_unlines (h : ∀ line ∈ lines, Plain line.toList) : listed (unlines lines) = lines := by
  rw [listed]
  induction lines with
  | nil => rfl
  | cons line rest ih =>
      obtain ⟨hLine, hRest⟩ := List.forall_mem_cons.mp h
      have hText : unlines (line :: rest) = line.toList ++ '\n' :: unlines rest := by simp [unlines]
      rw [hText, linesFrom_append hLine, List.map_cons, ih hRest, List.reverse_nil, List.nil_append,
        trimEnd_of_plain hLine, String.ofList_toList]

/-- A character whose code fits into seven bits is written as that code. -/
theorem decode?_codes (h : ∀ c ∈ text, c.toNat < 128) :
    Text.Utf8.decode? (text.map fun c => c.toNat.toUInt8) = some text := by
  have hRead : Text.Utf8.readFrom none (text.map fun c => c.toNat.toUInt8) = text.map some := by
    induction text with
    | nil => rfl
    | cons c rest ih =>
        obtain ⟨hCode, hRest⟩ := List.forall_mem_cons.mp h
        have hByte : c.toNat.toUInt8.toNat = c.toNat := by
          rw [Nat.toUInt8_eq, UInt8.toNat_ofNat_of_lt' (by rw [UInt8.size]; omega)]
        have hLead : Text.Utf8.lead c.toNat.toUInt8 = .alone c := by
          rw [Text.Utf8.lead, if_pos (by rw [UInt8.lt_iff_toNat_lt, hByte]; exact hCode), hByte,
            Char.ofNat_toNat]
        rw [List.map_cons, Text.Utf8.readFrom, hLead, List.map_cons, ih hRest]
  rw [Text.Utf8.decode?, hRead, List.mapM_map]
  show text.mapM (fun c => pure (id c)) = _
  rw [List.mapM_pure, List.map_id]
  rfl

theorem reads_ofCodes (hPath : ∀ c ∈ path, c.toNat < 128) (hText : ∀ c ∈ text, c.toNat < 128) :
    (File.ofCodes path text).Reads path text where
  path_eq := decode?_codes hPath
  text_eq := ⟨_, rfl, decode?_codes hText⟩

/-- A vocabulary with one entry more than there are numbers. -/
def crowded : WordPiece := crowd (UInt32.size - 5)

/-- The file with its entries, one on each line. -/
def crowdedFile : File := .ofCodes "words".toList (unlines crowded.entries)

theorem plain_crowd (count : Nat) : ∀ entry ∈ (crowd count).entries, Plain entry.toList := by
  have hSpecial : ∀ entry ∈ specialEntries, Plain entry.toList := by decide +kernel
  have hLetter : Unicode.isBlank 'a' = false ∧ ('a' : Char).toNat < 128 := by decide
  intro entry hEntry
  rcases List.mem_append.mp hEntry with hBefore | hLast
  · rcases List.mem_append.mp hBefore with hMem | hFiller
    · exact hSpecial entry hMem
    · obtain ⟨place, -, rfl⟩ := List.mem_map.mp hFiller
      intro c hc
      rw [String.toList_ofList] at hc
      rwa [List.eq_of_mem_replicate hc]
  · obtain rfl := List.mem_singleton.mp hLast
    intro c hc
    rwa [List.mem_singleton.mp hc]

theorem listed_crowded : listed (unlines crowded.entries) = crowded.entries :=
  listed_unlines (plain_crowd _)

theorem size_lt_crowded : UInt32.size < (listed (unlines crowded.entries)).length := by
  rw [listed_crowded, crowded, crowd, List.length_append, List.length_append, fillers,
    List.length_map, List.length_range]
  exact Nat.lt_succ_self _

/-- As a list they make a vocabulary, which has a number for two of them. -/
theorem result_ofEntries_crowded :
    (ofEntries (listed (unlines crowded.entries)) false).result = .ok crowded := by
  rw [listed_crowded]
  exact result_ofEntries_eq_ok_iff.mpr ⟨rfl, rfl⟩

theorem reads_crowded : crowdedFile.Reads "words".toList (unlines crowded.entries) := by
  have hPath : Plain "words".toList := by decide +kernel
  refine reads_ofCodes (fun c hc => (hPath c hc).2) fun c hc => ?_
  obtain ⟨entry, hEntry, hc⟩ := List.mem_flatMap.mp hc
  rcases List.mem_append.mp hc with hOwn | hFeed
  · exact (plain_crowd _ entry hEntry c hOwn).2
  · rw [List.mem_singleton.mp hFeed]
    decide

/-- A text with a carriage return, with blanks at the ends of lines, and with a line of nothing else. -/
def ragged : String := "[PAD]\r\n[UNK]  \n[CLS]\n[SEP]\t\n[MASK]\n \n hello"

/-- The file with that text. -/
def raggedFile : File := .ofText "words" ragged

theorem reads_ragged : raggedFile.Reads "words".toList ragged.toList where
  path_eq := by decide +kernel
  text_eq := ⟨_, rfl, by decide +kernel⟩

/-- What is in front of a line is kept, and so the lines are seven different entries. -/
theorem listed_ragged :
    listed ragged.toList = ["[PAD]", "[UNK]", "[CLS]", "[SEP]", "[MASK]", "", " hello"] := by
  decide +kernel

end WordPiece

end Pretext
