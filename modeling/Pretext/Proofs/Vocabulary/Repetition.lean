import Mathlib.Data.List.Nodup
import Pretext.Vocabulary.Listing

/-! Which entry is blamed for a repetition. In a list it is the first that was there before. In a file it
is the first line behind the repetition that does not come again, which may be on one line only. -/
namespace Pretext.WordPiece

variable {entries seen lines : List String} {entry line : String} {path text : List Char}
  {gap number place start : Nat} {file : File}

/-- The line with this number is repeated further down. -/
def ComesAgain (lines : List String) (number : Nat) : Prop :=
  ∃ line ∈ lines[number]?, line ∈ lines.drop (number + 1)

@[simp] theorem comesAgain_cons_zero : ComesAgain (line :: lines) 0 ↔ line ∈ lines := by
  simp [ComesAgain]

@[simp] theorem comesAgain_cons_succ :
    ComesAgain (line :: lines) (number + 1) ↔ ComesAgain lines number := by
  simp [ComesAgain]

theorem mem_take_iff : line ∈ lines.take place ↔ ∃ number < place, lines[number]? = some line := by
  simp only [List.mem_iff_getElem?, List.getElem?_take, Option.ite_none_right_eq_some]

theorem mem_drop_of_getElem? (hLine : lines[place]? = some line) (hLt : number < place) :
    line ∈ lines.drop (number + 1) := by
  apply List.mem_of_getElem? (i := place - (number + 1))
  rw [List.getElem?_drop, Nat.add_sub_cancel' hLt, hLine]

/-- Of the lines of a file, `gap` is the number of the first that comes again, and `place` that of the
first behind it that does not. -/
structure Blames (lines : List String) (gap place : Nat) : Prop where
  gap_lt : gap < place
  once : ∀ number < gap, ¬ ComesAgain lines number
  again : ∀ number < place, gap ≤ number → ComesAgain lines number
  last : ¬ ComesAgain lines place

namespace Blames

/-- A line in front that does not come again moves what is blamed on by one. -/
theorem cons_of_not_mem (hLine : line ∉ lines) (h : Blames lines gap place) :
    Blames (line :: lines) (gap + 1) (place + 1) where
  gap_lt := Nat.succ_lt_succ h.gap_lt
  once := Nat.forall_lt_succ_left.mpr ⟨by simpa using hLine, by simpa using h.once⟩
  again := Nat.forall_lt_succ_left.mpr ⟨by simp, by simpa using h.again⟩
  last := by simpa using h.last

/-- With a line in front that comes again, the first line is blamed that does not. -/
theorem cons_of_mem (hLine : line ∈ lines) (hAgain : ∀ number < place, ComesAgain lines number)
    (hLast : ¬ ComesAgain lines place) : Blames (line :: lines) 0 (place + 1) where
  gap_lt := Nat.succ_pos place
  once := by simp
  again := Nat.forall_lt_succ_left.mpr ⟨by simpa using hLine, by simpa using hAgain⟩
  last := by simpa using hLast

/-- The line that is blamed is on another line as well only where it is between the two. -/
theorem two_le_count_iff (h : Blames lines gap place) (hLine : lines[place]? = some line) :
    2 ≤ lines.count line ↔ ∃ number < place, gap ≤ number ∧ lines[number]? = some line := by
  have hLast : line ∉ lines.drop (place + 1) := fun hMem => h.last ⟨line, hLine, hMem⟩
  have hCount : lines.count line = (lines.take place).count line + 1 := by
    obtain ⟨hLt, hEntry⟩ := List.getElem?_eq_some_iff.mp hLine
    conv => lhs; rw [← List.take_append_drop place lines, ← List.getElem_cons_drop hLt, hEntry]
    rw [List.count_append, List.count_cons_self, List.count_eq_zero_of_not_mem hLast]
  rw [hCount, Nat.succ_le_succ_iff, List.one_le_count_iff, mem_take_iff]
  constructor
  · rintro ⟨number, hLt, hEarlier⟩
    refine ⟨number, hLt, Nat.le_of_not_lt fun hBefore => ?_, hEarlier⟩
    exact h.once number hBefore ⟨line, hEarlier, mem_drop_of_getElem? hLine hLt⟩
  · rintro ⟨number, hLt, -, hEarlier⟩
    exact ⟨number, hLt, hEarlier⟩

end Blames

/-- The number of the next line is the next number, which after the last is zero. -/
theorem toUInt32_succ (start : Nat) : start.toUInt32 + 1 = (start + 1).toUInt32 := by
  rw [Nat.toUInt32_eq, Nat.toUInt32_eq, UInt32.ofNat_add]
  rfl

theorem lastCopies_cons_of_mem (h : line ∈ lines) :
    lastCopies start.toUInt32 (line :: lines) = lastCopies (start + 1).toUInt32 lines := by
  rw [lastCopies, if_pos (List.contains_iff_mem.mpr h), toUInt32_succ]

theorem lastCopies_cons_of_not_mem (h : line ∉ lines) :
    lastCopies start.toUInt32 (line :: lines) =
      (line, start.toUInt32) :: lastCopies (start + 1).toUInt32 lines := by
  rw [lastCopies, if_neg (fun hMem => h (List.contains_iff_mem.mp hMem)), toUInt32_succ]

/-- As far as there are numbers for the lines, each has a greater one than those before. -/
theorem pairwise_lastCopies (hSize : start + lines.length ≤ UInt32.size) :
    (∀ kept ∈ lastCopies start.toUInt32 lines, start ≤ kept.2.toNat)
      ∧ (lastCopies start.toUInt32 lines).Pairwise fun first second => first.2 ≤ second.2 := by
  induction lines generalizing start with
  | nil => simp [lastCopies]
  | cons first rest ih =>
      rw [List.length_cons] at hSize
      obtain ⟨hBehind, hRest⟩ := @ih (start + 1) (by omega)
      by_cases hFirst : first ∈ rest
      · rw [lastCopies_cons_of_mem hFirst]
        exact ⟨fun kept hKept => Nat.le_of_succ_le (hBehind kept hKept), hRest⟩
      · have hStart : start.toUInt32.toNat = start := UInt32.toNat_ofNat_of_lt' (by omega)
        rw [lastCopies_cons_of_not_mem hFirst, List.forall_mem_cons, List.pairwise_cons]
        refine ⟨⟨Nat.le_of_eq hStart.symm, ?_⟩, ?_, hRest⟩
        · exact fun kept hKept => Nat.le_of_succ_le (hBehind kept hKept)
        · intro kept hKept
          rw [UInt32.le_iff_toNat_le, hStart]
          exact Nat.le_of_succ_le (hBehind kept hKept)

/-- Then there is nothing to be put in order. -/
theorem inOrder_lastCopies (hSize : lines.length ≤ UInt32.size) :
    inOrder (lastCopies 0 lines) = lastCopies 0 lines := by
  obtain ⟨-, hPairwise⟩ := @pairwise_lastCopies lines 0 (by omega)
  exact List.mergeSort_of_pairwise (by simpa using hPairwise)

/-- Where a place is open, the first line that does not come again is taken for it. -/
private theorem exists_firstGap_of_lt (hOpen : place < start) (hSize : start + lines.length ≤ UInt32.size)
    (hLines : lines ≠ []) :
    ∃ number line, lines[number]? = some line
      ∧ (∀ before < number, ComesAgain lines before) ∧ ¬ ComesAgain lines number
      ∧ firstGap place (lastCopies start.toUInt32 lines) = some (line, place) := by
  induction lines generalizing start with
  | nil => exact absurd rfl hLines
  | cons first rest ih =>
      rw [List.length_cons] at hSize
      by_cases hFirst : first ∈ rest
      · obtain ⟨number, line, hLine, hAgain, hLast, hGap⟩ :=
          @ih (start + 1) (Nat.lt_succ_of_lt hOpen) (by omega) (List.ne_nil_of_mem hFirst)
        refine ⟨number + 1, line, hLine, ?_, by simpa using hLast, ?_⟩
        · exact Nat.forall_lt_succ_left.mpr ⟨by simpa using hFirst, by simpa using hAgain⟩
        · rw [lastCopies_cons_of_mem hFirst, hGap]
      · have hStart : start.toUInt32.toNat = start := UInt32.toNat_ofNat_of_lt' (by omega)
        refine ⟨0, first, rfl, by simp, by simpa using hFirst, ?_⟩
        rw [lastCopies_cons_of_not_mem hFirst, firstGap, hStart, if_neg (Nat.ne_of_gt hOpen)]

/-- A repetition leaves a gap where the first line was that comes again. -/
theorem exists_firstGap_of_not_nodup (hLines : ¬ lines.Nodup)
    (hSize : start + lines.length ≤ UInt32.size) :
    ∃ gap place line, Blames lines gap place ∧ lines[place]? = some line
      ∧ firstGap start (lastCopies start.toUInt32 lines) = some (line, start + gap) := by
  induction lines generalizing start with
  | nil => exact absurd List.nodup_nil hLines
  | cons first rest ih =>
      rw [List.length_cons] at hSize
      by_cases hFirst : first ∈ rest
      · obtain ⟨number, line, hLine, hAgain, hLast, hGap⟩ :=
          @exists_firstGap_of_lt rest start (start + 1) (Nat.lt_succ_self start) (by omega)
            (List.ne_nil_of_mem hFirst)
        refine ⟨0, number + 1, line, .cons_of_mem hFirst hAgain hLast, hLine, ?_⟩
        rw [lastCopies_cons_of_mem hFirst, hGap, Nat.add_zero]
      · have hRest : ¬ rest.Nodup := fun hRest => hLines (List.nodup_cons.mpr ⟨hFirst, hRest⟩)
        have hStart : start.toUInt32.toNat = start := UInt32.toNat_ofNat_of_lt' (by omega)
        obtain ⟨gap, place, line, hBlames, hLine, hGap⟩ := @ih (start + 1) hRest (by omega)
        refine ⟨gap + 1, place + 1, line, hBlames.cons_of_not_mem hFirst, hLine, ?_⟩
        rw [lastCopies_cons_of_not_mem hFirst, firstGap, hStart, if_pos rfl, hGap, Nat.add_assoc,
          Nat.add_comm 1]

/-- Without a repetition every line is kept. -/
theorem lastCopies_of_nodup (hLines : lines.Nodup) (number : TokenId) :
    (lastCopies number lines).map Prod.fst = lines := by
  induction lines generalizing number with
  | nil => rfl
  | cons first rest ih =>
      obtain ⟨hFirst, hRest⟩ := List.nodup_cons.mp hLines
      simp [lastCopies, hFirst, ih hRest]

/-- Without a repetition every line has the number of its place, as far as there are numbers. -/
theorem firstGap_of_nodup (hLines : lines.Nodup) (hSize : start + lines.length ≤ UInt32.size) :
    firstGap start (lastCopies start.toUInt32 lines) = none := by
  induction lines generalizing start with
  | nil => rfl
  | cons first rest ih =>
      obtain ⟨hFirst, hRest⟩ := List.nodup_cons.mp hLines
      rw [List.length_cons] at hSize
      have hStart : start.toUInt32.toNat = start := UInt32.toNat_ofNat_of_lt' (by omega)
      rw [lastCopies_cons_of_not_mem hFirst, firstGap, hStart, if_pos rfl]
      exact @ih (start + 1) hRest (by omega)

/-- Entries that are all at the places of their numbers are no more than there are numbers. -/
theorem length_le_of_firstGap {numbered : List (String × TokenId)} (hPlace : place ≤ UInt32.size)
    (h : firstGap place numbered = none) : place + numbered.length ≤ UInt32.size := by
  induction numbered generalizing place with
  | nil => exact hPlace
  | cons first rest ih =>
      obtain ⟨entry, number⟩ := first
      rw [firstGap] at h
      split at h
      · rename_i hNumber
        have hLt := number.toNat_lt_size
        have hRest := ih (hNumber ▸ hLt) h
        rw [List.length_cons]
        omega
      · cases h

theorem firstRepeat_cons_of_not_mem (h : entry ∉ seen) :
    firstRepeat seen (entry :: entries) = firstRepeat (entry :: seen) entries := by
  simp [firstRepeat, h]

theorem firstRepeat_of_nodup (hEntries : entries.Nodup) (hNew : ∀ entry ∈ entries, entry ∉ seen) :
    firstRepeat seen entries = none := by
  induction entries generalizing seen with
  | nil => rfl
  | cons entry rest ih =>
      obtain ⟨hEntry, hRest⟩ := List.nodup_cons.mp hEntries
      obtain ⟨hFirst, hNew⟩ := List.forall_mem_cons.mp hNew
      rw [firstRepeat_cons_of_not_mem hFirst]
      refine ih hRest fun other hOther hSeen => ?_
      rcases List.mem_cons.mp hSeen with rfl | hSeen
      · exact hEntry hOther
      · exact hNew other hOther hSeen

/-- The entries in `seen` are those before, the last of which comes first. -/
private theorem exists_firstRepeat (hSeen : seen.Nodup) (h : ¬ (seen.reverse ++ entries).Nodup) :
    ∃ before entry rest, seen.reverse ++ entries = before ++ entry :: rest ∧ before.Nodup
      ∧ entry ∈ before ∧ firstRepeat seen entries = some (entry, before.length.toUInt32) := by
  induction entries generalizing seen with
  | nil => exact absurd (by simpa using hSeen) h
  | cons entry rest ih =>
      by_cases hEntry : entry ∈ seen
      · refine ⟨seen.reverse, entry, rest, rfl, by simpa using hSeen, by simpa using hEntry, ?_⟩
        simp [firstRepeat, hEntry]
      · have hShift : seen.reverse ++ entry :: rest = (entry :: seen).reverse ++ rest := by simp
        rw [firstRepeat_cons_of_not_mem hEntry]
        rw [hShift] at h ⊢
        exact ih (List.nodup_cons.mpr ⟨hEntry, hSeen⟩) h

theorem ofEntries_of_nodup (h : entries.Nodup) (lowerCase : Bool) :
    ofEntries entries lowerCase = ofDistinct entries h lowerCase := by
  have hNone : firstRepeat [] entries = none := firstRepeat_of_nodup h (by simp)
  unfold ofEntries
  split
  · rename_i hSome
    rw [hNone] at hSome
    cases hSome
  · rfl

/-- The first entry of a list that was there before is blamed. -/
theorem ofEntries_of_not_nodup (h : ¬ entries.Nodup) (lowerCase : Bool) :
    ∃ before entry rest, entries = before ++ entry :: rest ∧ before.Nodup ∧ entry ∈ before
      ∧ ofEntries entries lowerCase =
        .ofExcept (.error (.configuration (.repeatedEntry entry before.length.toUInt32))) := by
  obtain ⟨before, entry, rest, hEntries, hBefore, hEntry, hRepeat⟩ :=
    exists_firstRepeat List.nodup_nil h
  refine ⟨before, entry, rest, hEntries, hBefore, hEntry, ?_⟩
  unfold ofEntries
  split
  · rename_i hSome
    rw [hRepeat] at hSome
    cases hSome
    rfl
  · rename_i hNone
    rw [hRepeat] at hNone
    cases hNone

/-- Lines without a repetition are a list of entries. -/
theorem ofListing_of_nodup (h : (listed text).Nodup) (hSize : (listed text).length ≤ UInt32.size)
    (path : String) (lowerCase : Bool) :
    ofListing path text lowerCase = ofEntries (listed text) lowerCase := by
  have hGap : firstGap 0 (lastCopies 0 (listed text)) = none := @firstGap_of_nodup _ 0 h (by omega)
  rw [ofEntries_of_nodup h]
  simp only [ofListing, inOrder_lastCopies hSize, hGap, lastCopies_of_nodup h]

/-- A line whose number is not its place is blamed for a repetition. -/
theorem ofListing_of_firstGap
    (h : firstGap 0 (inOrder (lastCopies 0 (listed text))) = some (line, gap)) (path : String)
    (lowerCase : Bool) :
    ofListing path text lowerCase =
      .ofExcept (.error (.configuration (.repeatedLine line path gap))) := by
  simp only [ofListing, h]

/-- The first line behind a repetition that does not come again is blamed for it. -/
theorem ofListing_of_not_nodup (h : ¬ (listed text).Nodup)
    (hSize : (listed text).length ≤ UInt32.size) (path : String) (lowerCase : Bool) :
    ∃ gap place line, Blames (listed text) gap place ∧ (listed text)[place]? = some line
      ∧ ofListing path text lowerCase =
        .ofExcept (.error (.configuration (.repeatedLine line path gap))) := by
  obtain ⟨gap, place, line, hBlames, hLine, hGap⟩ :=
    @exists_firstGap_of_not_nodup _ 0 h (by omega)
  rw [Nat.zero_add] at hGap
  refine ⟨gap, place, line, hBlames, hLine, ofListing_of_firstGap ?_ path lowerCase⟩
  rw [inOrder_lastCopies hSize]
  exact hGap

/-- Where distinct lines are more than there are numbers, some line is blamed for a repetition. -/
theorem ofListing_of_crowded (h : (listed text).Nodup) (hSize : UInt32.size < (listed text).length)
    (path : String) (lowerCase : Bool) :
    ∃ gap line, ofListing path text lowerCase =
      .ofExcept (.error (.configuration (.repeatedLine line path gap))) := by
  cases hGap : firstGap 0 (inOrder (lastCopies 0 (listed text))) with
  | some blamed => exact ⟨blamed.2, blamed.1, ofListing_of_firstGap hGap path lowerCase⟩
  | none =>
      have hKept : (inOrder (lastCopies 0 (listed text))).length = (listed text).length := by
        rw [(inOrder_perm _).length_eq, ← List.length_map Prod.fst, lastCopies_of_nodup h]
      have hLength := length_le_of_firstGap (Nat.zero_le _) hGap
      omega

/-- A file that can be read as a text, at a path that is a text. -/
structure File.Reads (file : File) (path text : List Char) : Prop where
  path_eq : Text.Utf8.decode? file.path = some path
  text_eq : ∃ bytes, file.bytes = .ok bytes ∧ Text.Utf8.decode? bytes = some text

/-- The file with a text, at a path. -/
def File.ofText (path text : String) : File := ⟨path.toUTF8.toList, .ok text.toUTF8.toList⟩

/-- Of a file that can be read it is the lines that matter, and the path for messages. -/
theorem ofFile_of_reads (h : file.Reads path text) (lowerCase : Bool) :
    ofFile file lowerCase = ofListing (String.ofList path) text lowerCase := by
  obtain ⟨hPath, bytes, hBytes, hText⟩ := h
  simp only [ofFile, hPath, hBytes, hText]

/-- A file with a repetition is refused, as long as it has no more lines than there are numbers. What
comes first behind the repetition is blamed, which is on several lines only if a copy of it is part of
the repetition. A list with a repetition is refused as well, however long it is, and there the entry
that is blamed is always in the list twice. -/
theorem blamed_of_repetition (lowerCase : Bool) :
    (∀ (file : File) (path text : List Char), file.Reads path text →
      (listed text).length ≤ UInt32.size → ¬ (listed text).Nodup →
      ∃ gap place line, Blames (listed text) gap place ∧ (listed text)[place]? = some line
        ∧ (ofFile file lowerCase).result =
          .error (.configuration (.repeatedLine line (String.ofList path) gap))
        ∧ (2 ≤ (listed text).count line ↔
          ∃ number < place, gap ≤ number ∧ (listed text)[number]? = some line))
    ∧ ∀ entries : List String, ¬ entries.Nodup →
      ∃ before entry rest, entries = before ++ entry :: rest ∧ before.Nodup
        ∧ (ofEntries entries lowerCase).result =
          .error (.configuration (.repeatedEntry entry before.length.toUInt32))
        ∧ 2 ≤ entries.count entry := by
  constructor
  · intro file path text hReads hSize hLines
    obtain ⟨gap, place, line, hBlames, hLine, hRefused⟩ :=
      ofListing_of_not_nodup hLines hSize (String.ofList path) lowerCase
    refine ⟨gap, place, line, hBlames, hLine, ?_, hBlames.two_le_count_iff hLine⟩
    rw [ofFile_of_reads hReads, hRefused, Logged.result_ofExcept]
  · intro entries hEntries
    obtain ⟨before, entry, rest, rfl, hBefore, hEntry, hRefused⟩ :=
      ofEntries_of_not_nodup hEntries lowerCase
    refine ⟨before, entry, rest, rfl, hBefore, ?_, ?_⟩
    · rw [hRefused, Logged.result_ofExcept]
    · rw [List.count_append, List.count_cons_self]
      have hCount := List.one_le_count_iff.mpr hEntry
      omega

/-- A text of eight lines, of which the sixth comes again at the end. -/
def greetings : String := "[PAD]\n[UNK]\n[CLS]\n[SEP]\n[MASK]\nhello\nworld\nhello\n"

/-- The file with that text. -/
def greetingsFile : File := .ofText "words" greetings

theorem reads_greetings : greetingsFile.Reads "words".toList greetings.toList where
  path_eq := by decide +kernel
  text_eq := ⟨_, rfl, by decide +kernel⟩

theorem length_greetings : (listed greetings.toList).length = 8 := by decide +kernel

theorem not_nodup_greetings : ¬ (listed greetings.toList).Nodup := by decide +kernel

/-- A file and a list with a repetition: both are refused, and each for an entry that it has. -/
theorem blamed_of_repetition_greetings :
    greetingsFile.Reads "words".toList greetings.toList
      ∧ (listed greetings.toList).length ≤ UInt32.size ∧ ¬ (listed greetings.toList).Nodup
      ∧ (∃ gap place line, Blames (listed greetings.toList) gap place
        ∧ (listed greetings.toList)[place]? = some line
        ∧ (ofFile greetingsFile true).result =
          .error (.configuration (.repeatedLine line (String.ofList "words".toList) gap)))
      ∧ ¬ ["b", "a", "a"].Nodup
      ∧ ∃ entry number, (ofEntries ["b", "a", "a"] true).result =
          .error (.configuration (.repeatedEntry entry number))
        ∧ 2 ≤ ["b", "a", "a"].count entry := by
  obtain ⟨hFiles, hLists⟩ := blamed_of_repetition true
  have hSize : (listed greetings.toList).length ≤ UInt32.size := by
    rw [length_greetings]
    decide
  have hEntries : ¬ ["b", "a", "a"].Nodup := by decide
  obtain ⟨gap, place, line, hBlames, hLine, hFile, -⟩ :=
    hFiles greetingsFile _ _ reads_greetings hSize not_nodup_greetings
  obtain ⟨before, entry, -, -, -, hList, hCount⟩ := hLists _ hEntries
  exact ⟨reads_greetings, hSize, not_nodup_greetings, ⟨gap, place, line, hBlames, hLine, hFile⟩,
    hEntries, entry, before.length.toUInt32, hList, hCount⟩

/-- The line between the copies is blamed, although it has no copy itself. -/
theorem blamed_bystander :
    greetingsFile.Reads "words".toList greetings.toList ∧ ¬ (listed greetings.toList).Nodup
      ∧ (ofFile greetingsFile true).result = .error (.configuration (.repeatedLine "world" "words" 5))
      ∧ (listed greetings.toList).count "world" = 1 := by
  have hGap : firstGap 0 (inOrder (lastCopies 0 (listed greetings.toList))) = some ("world", 5) := by
    rw [inOrder_lastCopies (by rw [length_greetings]; decide)]
    decide +kernel
  refine ⟨reads_greetings, not_nodup_greetings, ?_, by decide +kernel⟩
  rw [ofFile_of_reads reads_greetings, ofListing_of_firstGap hGap, Logged.result_ofExcept,
    String.ofList_toList]

end Pretext.WordPiece
