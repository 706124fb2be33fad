import Mathlib.Tactic.SplitIfs
import Pretext.Collection.Masked
import Pretext.Proofs.Block.Archive
import Pretext.Proofs.Masked.Refusal
import Pretext.Proofs.Word.Groups

/-! What comes of a row of a collection of masked samples. Which failure is told is decided by the
order in which a sample is built: the row is looked up, the block is read and put together, and the
words are found. -/
namespace Pretext

/-- Three sentences, the last of which is another one in the second tokenization. -/
def Archive.strayed : Archive where
  blocks := ⟨"block", [[5, 6, 7], [8, 9], [7]]⟩
  titles := ⟨"title", [[5]]⟩
  auxiliary := none
  alternate := some (⟨"alternate", [[5, 6, 7], [8, 9], [8, 9]]⟩, Masker.tiny.vocabulary)
  auxiliary_size := by simp
  alternate_size := by simp [Store.size]

/-- One row with all of these sentences. -/
def Rows.tiny : Rows where
  windows := [⟨0, 3, 0, 0⟩]
  filled := by decide

namespace MaskedCollection

/-- The collection that is opened with settings that hold. -/
def opened (settings : Settings) (vocabulary : Vocabulary) (rows : Rows) (archive : Archive) :
    MaskedCollection where
  name := settings.name
  seed := settings.seed
  rows := rows
  archive := archive
  masker := ⟨vocabulary, settings.length.toNat, settings.maskedRate, settings.noise⟩

variable {settings : Settings} {vocabulary : Vocabulary} {rows : Rows} {archive : Archive}
  {collection : MaskedCollection}

/-- A collection is opened if its settings hold, and then it is the one that they describe. -/
theorem ofRows_eq_ok_iff :
    (ofRows settings vocabulary rows archive).result = .ok collection ↔
      settings.check = .ok () ∧ opened settings vocabulary rows archive = collection :=
  settings.validate_then_eq_ok_iff

/-- The settings allow for a frame with a token, and the collection has what it was opened with. -/
theorem fields_of_ofRows (h : (ofRows settings vocabulary rows archive).result = .ok collection) :
    3 ≤ settings.length.toNat ∧ collection.rows = rows ∧ collection.archive = archive
      ∧ collection.masker.vocabulary = vocabulary
      ∧ collection.masker.length = settings.length.toNat := by
  obtain ⟨hCheck, rfl⟩ := ofRows_eq_ok_iff.mp h
  exact ⟨Settings.three_le_of_check hCheck, rfl, rfl, rfl, rfl⟩

/-- The steps that make a sample of a row. Each is tried only if those before it succeed. -/
theorem result_get (collection : MaskedCollection) (row : UInt64) :
    (collection.get row).result =
      (collection.rows.get row).bind fun window =>
        (collection.archive.assemble window).bind fun block =>
          (collection.masker.build block (.ofRow collection.seed row)).1 := by
  simp only [get, Logged.result_bind, Logged.result_liftM, Logged.result_note, Logged.result_pure]
  congr 1
  funext window
  congr 1
  funext block
  cases (collection.masker.build block (.ofRow collection.seed row)).1 <;> rfl

/-- A row that exists leaves it to the archive whether there is a block. -/
theorem result_get_of_row {row : UInt64} {window : Window}
    (hRow : collection.rows.windows[row.toNat]? = some window) :
    (collection.get row).result =
      (collection.archive.assemble window).bind fun block =>
        (collection.masker.build block (.ofRow collection.seed row)).1 := by
  rw [result_get, Rows.get_of_some hRow]
  rfl

/-- A block that the archive covers with even values leaves it to the masker whether there is a
sample. -/
theorem result_get_of_even {row : UInt64} {window : Window}
    (hRow : collection.rows.windows[row.toNat]? = some window)
    (hCovers : collection.archive.Covers window)
    (hEven : ¬ ∃ number tokens marks,
      (collection.archive.held window).Uneven number tokens marks) :
    (collection.get row).result =
      (collection.masker.build (collection.archive.held window) (.ofRow collection.seed row)).1 := by
  rw [result_get_of_row hRow, Archive.assemble_of_even hCovers hEven]
  rfl

open Classical in
/-- What comes of a row: the first of the failures that applies, and otherwise a sample. Of several
sentences for which a channel is refused the first is named. -/
theorem masked_outcome (h : (ofRows settings vocabulary rows archive).result = .ok collection)
    (row : UInt64) :
    match rows.windows[row.toNat]? with
    | none => (collection.get row).result = .error (.rowOutOfRange row.toNat rows.length)
    | some window =>
      let block := archive.held window
      let payload := (block.sentences.flatten.take (settings.length.toNat - 2)).length
      if archive.blocks.size < window.stop.toNat then
        (collection.get row).result = .error (.missingEntry archive.blocks.name
          (max window.start.toNat archive.blocks.size) archive.blocks.size)
      else if ∃ number tokens marks, block.Uneven number tokens marks then
        ∃ number tokens marks, block.Uneven number tokens marks
          ∧ (∀ other tokens marks, block.Uneven other tokens marks → number ≤ other)
          ∧ (collection.get row).result =
            .error (.misaligned .auxiliary (.valueCount number tokens marks))
      else if window.stop.toNat = window.start.toNat + 1 then
        (collection.get row).result = .error (.blockTooShort window.start window.stop 1)
      else if ∃ number mismatch, block.Unaligned vocabulary payload number mismatch then
        ∃ number mismatch, block.Unaligned vocabulary payload number mismatch
          ∧ (∀ other mismatch, block.Unaligned vocabulary payload other mismatch → number ≤ other)
          ∧ (collection.get row).result =
            .error (.misaligned .alternate (.words number mismatch))
      else ∃ sample, (collection.get row).result = .ok sample := by
  obtain ⟨hThree, rfl, rfl, rfl, hLength⟩ := fields_of_ofRows h
  have hRoom : 2 ≤ collection.masker.length := by omega
  split
  · rename_i hRow
    rw [result_get, Rows.get_of_none hRow]
    rfl
  · rename_i window hRow
    intro block payload
    have hSome := Rows.start_lt_stop hRow
    have hPayload : payload = (collection.masker.payload block).length := by
      rw [Masker.payload, hLength]
    split_ifs with hOver hUneven hSingle hUnaligned
    · rw [result_get_of_row hRow, Archive.assemble_of_lt hSome hOver]
      rfl
    · obtain ⟨number, tokens, marks, hFirst, hLeast, hAssemble⟩ :=
        Archive.assemble_of_uneven (Or.inr (Nat.not_lt.mp hOver)) hUneven
      rw [result_get_of_row hRow, hAssemble]
      exact ⟨number, tokens, marks, hFirst, hLeast, rfl⟩
    -- From here on the block is what the archive holds, and only the masker can refuse it.
    all_goals
      have hCovers : collection.archive.Covers window := Or.inr (Nat.not_lt.mp hOver)
      have hCount : block.sentences.length = window.stop.toNat - window.start.toNat :=
        Store.length_within (Nat.not_lt.mp hOver)
      rw [result_get_of_even hRow hCovers hUneven]
    · have hOne : block.sentences.length = 1 := by omega
      rw [Masker.build_of_le (Nat.le_of_eq hOne), hOne]
      rfl
    all_goals
      have hContext : 1 < block.sentences.length := by omega
      have hAccompanied := collection.archive.accompanied_held window
      rw [hPayload] at hUnaligned
    · rw [hPayload]
      exact Masker.build_of_unaligned hContext hRoom hAccompanied hUnaligned _
    · exact Masker.exists_build_of_aligned hContext hRoom hAccompanied hUnaligned _

/-- A frame that has no room for the last sentence does not come to notice that it is another. -/
theorem masked_outcome_strayed :
    ∃ collection, (ofRows { Settings.standard with length := 7 } Masker.tiny.vocabulary .tiny
        .strayed).result = .ok collection
      ∧ ∃ sample, (collection.get 0).result = .ok sample := by
  have hOpened : (ofRows { Settings.standard with length := 7 } Masker.tiny.vocabulary .tiny
      .strayed).result =
        .ok (opened { Settings.standard with length := 7 } Masker.tiny.vocabulary .tiny .strayed) :=
    ofRows_eq_ok_iff.mpr ⟨by decide +kernel, rfl⟩
  have hOutcome := masked_outcome hOpened 0
  have hEven : ¬ ∃ number tokens marks,
      (Archive.strayed.held ⟨0, 3, 0, 0⟩).Uneven number tokens marks := by
    rintro ⟨number, tokens, marks, values, hValues, -⟩
    cases hValues
  have hAligned : ¬ ∃ number mismatch, (Archive.strayed.held ⟨0, 3, 0, 0⟩).Unaligned
      Masker.tiny.vocabulary 5 number mismatch := by
    rintro ⟨number, mismatch, alternate, hAlternate, sentence, second, hSentence, hSecond, hInside,
      hAlign⟩
    cases hAlternate
    rcases number with _ | _ | number
    · cases hSentence
      cases hSecond
      rw [align_self] at hAlign
      cases hAlign
    · cases hSentence
      cases hSecond
      rw [align_self] at hAlign
      cases hAlign
    · change ([5, 6, 7] :: [8, 9] :: List.take number [[7]]).flatten.length < 5 at hInside
      simp only [List.flatten_cons, List.length_append, List.length_cons, List.length_nil] at hInside
      omega
  refine ⟨_, hOpened, ?_⟩
  simp only [show Rows.tiny.windows[(0 : UInt64).toNat]? = some ⟨0, 3, 0, 0⟩ from rfl] at hOutcome
  rw [if_neg (by decide), if_neg hEven, if_neg (by decide)] at hOutcome
  split at hOutcome
  · rename_i hUnaligned
    exact absurd hUnaligned hAligned
  · exact hOutcome

end MaskedCollection

end Pretext
