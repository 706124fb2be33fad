import Pretext.Collection.Pairs
import Pretext.Proofs.Collection.Masked
import Pretext.Proofs.InverseCloze.Pair

/-! What comes of a row of a collection of pairs. What is drawn decides which pair is made, but not
whether there is one. -/
namespace Pretext

namespace PairCollection

/-- The collection that is opened with settings that hold. -/
def opened (settings : Settings) (vocabulary : Vocabulary) (rows : Rows) (archive : Archive) :
    PairCollection where
  name := settings.name
  seed := settings.seed
  useTitles := settings.useTitles
  rows := rows
  archive := archive
  splitter := ⟨.ofSpecial vocabulary.special settings.length.toNat, settings.keepRate⟩
  vocabulary := vocabulary

/-- The title with which the blocks of a document are framed, which is empty where there is none. -/
def heading (collection : PairCollection) (document : UInt64) : Option Sentence :=
  if collection.useTitles then some (collection.archive.titles.entries[document.toNat]?.getD [])
  else none

variable {settings : Settings} {vocabulary : Vocabulary} {rows : Rows} {archive : Archive}
  {collection : PairCollection} {row document : UInt64} {window : Window}

/-- A collection of pairs is opened under the same condition as one of masked samples. -/
theorem ofRows_eq_ok_iff :
    (ofRows settings vocabulary rows archive).result = .ok collection ↔
      settings.check = .ok () ∧ opened settings vocabulary rows archive = collection :=
  settings.validate_then_eq_ok_iff

/-- The settings allow for a frame with a token, and the collection has what it was opened with. -/
theorem fields_of_ofRows (h : (ofRows settings vocabulary rows archive).result = .ok collection) :
    3 ≤ settings.length.toNat ∧ collection.rows = rows ∧ collection.archive = archive
      ∧ collection.useTitles = settings.useTitles
      ∧ collection.splitter.frame.length = settings.length.toNat := by
  obtain ⟨hCheck, rfl⟩ := ofRows_eq_ok_iff.mp h
  exact ⟨Settings.three_le_of_check hCheck, rfl, rfl, rfl, rfl⟩

theorem result_title (collection : PairCollection) (document : UInt64) :
    (collection.title document).result = collection.archive.title document := by
  unfold title
  rw [Logged.result_bind, Logged.result_liftM]
  cases collection.archive.title document with
  | error failure => rfl
  | ok title =>
      change (Logged.result (if title.isEmpty then _ else _)) = _
      split <;> rfl

/-- A title is only missed where blocks are framed with titles. -/
theorem result_title?_of_le (hTitles : collection.useTitles = true)
    (hMissing : collection.archive.titles.size ≤ document.toNat) :
    (collection.title? document).result = .error (.missingEntry collection.archive.titles.name
      document.toNat collection.archive.titles.size) := by
  rw [title?, if_pos hTitles, Logged.result_bind, result_title, Archive.title,
    Store.get_of_le hMissing]
  rfl

/-- A heading is found unless titles are used and the document has none. -/
theorem result_title?_eq
    (h : ¬ (collection.useTitles = true ∧ collection.archive.titles.size ≤ document.toNat)) :
    (collection.title? document).result = .ok (collection.heading document) := by
  unfold title? heading
  split
  · rename_i hTitles
    have hFound : document.toNat < collection.archive.titles.entries.length :=
      Nat.not_le.mp fun hMissing => h ⟨hTitles, hMissing⟩
    have hEntry := List.getElem?_eq_getElem hFound
    rw [Logged.result_bind, result_title, Archive.title, Store.get_of_some hEntry, hEntry]
    rfl
  · rfl

/-- The steps that make a pair of a row. Channels are not read. -/
theorem result_get (collection : PairCollection) (row : UInt64) :
    (collection.get row).result =
      (collection.rows.get row).bind fun window =>
        (collection.archive.primary window).bind fun block =>
          (collection.title? window.document).result.bind fun title =>
            (collection.splitter.split block title (.ofRow collection.seed row)).1 := by
  simp only [get, Logged.result_bind, Logged.result_liftM, Logged.result_note, Logged.result_pure]
  congr 1
  funext window
  congr 1
  funext block
  congr 1
  funext title
  cases (collection.splitter.split block title (.ofRow collection.seed row)).1 <;> rfl

/-- A row that exists and is covered has a block. What may still be missing is the title. -/
theorem result_get_of_row (hRow : collection.rows.windows[row.toNat]? = some window)
    (hCovers : collection.archive.Covers window) :
    (collection.get row).result =
      (collection.title? window.document).result.bind fun title =>
        (collection.splitter.split
          (.ofSentences window (collection.archive.blocks.within window)) title
          (.ofRow collection.seed row)).1 := by
  rw [result_get, Rows.get_of_some hRow]
  change (collection.archive.primary window).bind _ = _
  rw [Archive.primary_of_covers hCovers]
  rfl

/-- With the title found it is left to the splitter whether there is a pair. -/
theorem result_get_of_heading (hRow : collection.rows.windows[row.toNat]? = some window)
    (hCovers : collection.archive.Covers window)
    (hTitle : ¬ (collection.useTitles = true ∧
      collection.archive.titles.size ≤ window.document.toNat)) :
    (collection.get row).result =
      (collection.splitter.split (.ofSentences window (collection.archive.blocks.within window))
        (collection.heading window.document) (.ofRow collection.seed row)).1 := by
  rw [result_get_of_row hRow hCovers, result_title?_eq hTitle]
  rfl

/-- A heading takes the room of its tokens, and of a separator besides the two tokens of every
frame. -/
theorem frameOverhead_heading (hTitles : collection.useTitles = true) :
    frameOverhead (collection.heading document) =
      3 + (collection.archive.titles.entries[document.toNat]?.getD []).length := by
  rw [heading, if_pos hTitles]
  rfl

/-- A frame that has room for a token has room for a title, unless it is a long one. -/
theorem frameOverhead_heading_le {length : Nat} (hRoom : 3 ≤ length)
    (h : ¬ (collection.useTitles = true ∧
      length < 3 + (collection.archive.titles.entries[document.toNat]?.getD []).length)) :
    frameOverhead (collection.heading document) ≤ length := by
  cases hTitles : collection.useTitles with
  | true =>
      rw [frameOverhead_heading hTitles]
      exact Nat.not_lt.mp fun hLong => h ⟨hTitles, hLong⟩
  | false =>
      rw [heading, hTitles]
      exact Nat.le_of_succ_le hRoom

/-- Whether there is a pair, and why there is none, is the same for every seed. -/
theorem get_error_iff (collection : PairCollection)
    (hRoom : 2 ≤ collection.splitter.frame.length) (seed row : UInt64) (failure : Failure) :
    (PairCollection.get { collection with seed := seed } row).result = .error failure ↔
      (collection.get row).result = .error failure := by
  rw [result_get, result_get]
  refine bind_error_congr fun window _ => ?_
  refine bind_error_congr fun block hPrimary => ?_
  refine bind_error_congr fun title _ => ?_
  rw [Archive.eq_of_primary hPrimary]
  exact Splitter.split_error_iff (Store.length_within_le ..) hRoom _ _

/-- Channels are not noticed. -/
theorem get_of_archive (collection : PairCollection) {other : Archive}
    (hBlocks : other.blocks = collection.archive.blocks)
    (hTitles : other.titles = collection.archive.titles) (row : UInt64) :
    PairCollection.get { collection with archive := other } row = collection.get row := by
  have hPrimary : other.primary = collection.archive.primary := by
    funext window
    rw [Archive.primary, Archive.primary, Archive.sentences, Archive.sentences, hBlocks]
  have hTitle : other.title = collection.archive.title := by
    funext document
    rw [Archive.title, Archive.title, hTitles]
  simp only [get, title?, title, hPrimary, hTitle]

/-- What comes of a row: the first of the failures that applies, and otherwise a pair. -/
theorem pair_outcome (h : (ofRows settings vocabulary rows archive).result = .ok collection)
    (row : UInt64) :
    (match rows.windows[row.toNat]? with
      | none => (collection.get row).result = .error (.rowOutOfRange row.toNat rows.length)
      | some window =>
        let title := archive.titles.entries[window.document.toNat]?.getD []
        if archive.blocks.size < window.stop.toNat then
          (collection.get row).result = .error (.missingEntry archive.blocks.name
            (max window.start.toNat archive.blocks.size) archive.blocks.size)
        else if settings.useTitles = true ∧ archive.titles.size ≤ window.document.toNat then
          (collection.get row).result = .error (.missingEntry archive.titles.name
            window.document.toNat archive.titles.size)
        else if window.stop.toNat = window.start.toNat + 1 then
          (collection.get row).result = .error (.blockTooShort window.start window.stop 1)
        else if settings.useTitles = true ∧ settings.length.toNat < 3 + title.length then
          (collection.get row).result =
            .error (.sequenceTooLong (3 + title.length) settings.length.toNat)
        else ∃ sample, (collection.get row).result = .ok sample)
      ∧ (∀ window, rows.windows[row.toNat]? = some window →
        window.stop.toNat ≤ archive.blocks.size →
        (archive.held window).drawn (.ofRow settings.seed row) <
          (archive.held window).sentences.length)
      ∧ (∀ seed, ∃ other,
        (ofRows { settings with seed := seed } vocabulary rows archive).result = .ok other
          ∧ ∀ failure, (other.get row).result = .error failure ↔
            (collection.get row).result = .error failure)
      ∧ (∀ other : Archive, other.blocks = archive.blocks → other.titles = archive.titles →
        ∃ same, (ofRows settings vocabulary rows other).result = .ok same
          ∧ same.get row = collection.get row) := by
  refine ⟨?_, ?_, ?_, ?_⟩
  · obtain ⟨hRoom, rfl, rfl, hTitles, hLength⟩ := fields_of_ofRows h
    rw [← hTitles]
    rw [← hLength] at hRoom ⊢
    split
    · rename_i hRow
      rw [result_get, Rows.get_of_none hRow]
      rfl
    · rename_i window hRow
      intro title
      have hSome := Rows.start_lt_stop hRow
      split_ifs with hOver hMissing hSingle hTitle
      · rw [result_get, Rows.get_of_some hRow]
        change (collection.archive.primary window).bind _ = _
        rw [Archive.primary_of_lt hSome hOver]
        rfl
      · rw [result_get_of_row hRow (Or.inr (Nat.not_lt.mp hOver)),
          result_title?_of_le hMissing.1 hMissing.2]
        rfl
      -- From here on there is a block, and a title where one is asked for.
      all_goals
        have hCovers : collection.archive.Covers window := Or.inr (Nat.not_lt.mp hOver)
        have hSize := Store.length_within_le collection.archive.blocks window
        have hCount : (collection.archive.blocks.within window).length =
            window.stop.toNat - window.start.toNat := Store.length_within (Nat.not_lt.mp hOver)
        rw [result_get_of_heading hRow hCovers hMissing]
      · have hOne : (collection.archive.blocks.within window).length = 1 := by omega
        rw [Splitter.split_of_le (Nat.le_of_eq hOne)]
        change _ = Except.error (Failure.blockTooShort _ _ _)
        rw [← hOne]
        rfl
      · have hContext : 1 < (collection.archive.blocks.within window).length := by omega
        rw [Splitter.split_of_title hContext hSize (Nat.le_of_succ_le hRoom)]
        · rw [frameOverhead_heading hTitle.1]
        · rw [frameOverhead_heading hTitle.1]
          exact hTitle.2
      · have hContext : 1 < (collection.archive.blocks.within window).length := by omega
        exact Splitter.exists_split_ok hContext hSize (Nat.le_of_succ_le hRoom)
          (frameOverhead_heading_le hRoom hTitle) _
  · intro window hRow hInside
    have hSome := Rows.start_lt_stop hRow
    have hCount : (archive.held window).sentences.length =
        window.stop.toNat - window.start.toNat := Store.length_within hInside
    exact Block.drawn_lt (by omega) (Store.length_within_le archive.blocks window) _
  · intro seed
    obtain ⟨hCheck, rfl⟩ := ofRows_eq_ok_iff.mp h
    have hRoom := Nat.le_of_succ_le (Settings.three_le_of_check hCheck)
    refine ⟨opened { settings with seed := seed } vocabulary rows archive,
      ofRows_eq_ok_iff.mpr ⟨hCheck, rfl⟩, ?_⟩
    intro failure
    exact get_error_iff (opened settings vocabulary rows archive) hRoom seed row failure
  · intro other hBlocks hTitles
    obtain ⟨hCheck, rfl⟩ := ofRows_eq_ok_iff.mp h
    refine ⟨opened settings vocabulary rows other, ofRows_eq_ok_iff.mpr ⟨hCheck, rfl⟩, ?_⟩
    exact get_of_archive (opened settings vocabulary rows archive) hBlocks hTitles row

/-- A second tokenization that is of other sentences is not noticed. -/
theorem pair_outcome_strayed :
    ∃ collection,
      (ofRows .standard Masker.tiny.vocabulary .tiny .strayed).result = .ok collection
        ∧ (∃ sample, (collection.get 0).result = .ok sample)
        ∧ (Archive.strayed.held ⟨0, 3, 0, 0⟩).drawn (.ofRow 1234 0) < 3
        ∧ ∃ same, (ofRows .standard Masker.tiny.vocabulary .tiny
            (.ofStores Archive.strayed.blocks Archive.strayed.titles)).result = .ok same
          ∧ same.get 0 = collection.get 0 := by
  have hOpened : (ofRows .standard Masker.tiny.vocabulary .tiny .strayed).result =
      .ok (opened .standard Masker.tiny.vocabulary .tiny .strayed) :=
    ofRows_eq_ok_iff.mpr ⟨by decide +kernel, rfl⟩
  obtain ⟨hOutcome, hDrawn, -, hSame⟩ := pair_outcome hOpened 0
  refine ⟨_, hOpened, ?_, hDrawn ⟨0, 3, 0, 0⟩ rfl (by decide), hSame _ rfl rfl⟩
  simp only [show Rows.tiny.windows[(0 : UInt64).toNat]? = some ⟨0, 3, 0, 0⟩ from rfl] at hOutcome
  rwa [if_neg (by decide), if_neg (by decide), if_neg (by decide), if_neg (by decide)] at hOutcome

end PairCollection

end Pretext
