import Mathlib.Tactic.SplitIfs
import Pretext.Proofs.Block.Archive
import Pretext.Vocabulary.Basic

/-! Archives as they come about: stores without channels, to which channels are attached one after the
other. However often a channel is replaced or detached, what is read for a window goes together. -/
namespace Pretext.Archive

/-- A channel that takes the place of the one before. Without a store there is none any more. -/
inductive Attachment where
  | auxiliary (store : Option (Store UInt32))
  | alternate (store : Option (Store TokenId × Vocabulary))

def attach (archive : Archive) : Attachment → Except Failure Archive
  | .auxiliary store => archive.withAuxiliary store
  | .alternate store => archive.withAlternate store

/-- Attach channels one after the other, up to the first that is refused. -/
def attachAll (archive : Archive) : List Attachment → Except Failure Archive
  | [] => .ok archive
  | attachment :: rest => (archive.attach attachment).bind fun next => next.attachAll rest

/-- The auxiliary channel that was attached last, or else the one that was there before. -/
def lastAuxiliary (before : Option (Store UInt32)) : List Attachment → Option (Store UInt32)
  | [] => before
  | .auxiliary store :: rest => lastAuxiliary store rest
  | .alternate _ :: rest => lastAuxiliary before rest

/-- The second tokenization that was attached last, or else the one that was there before. -/
def lastAlternate (before : Option (Store TokenId × Vocabulary)) :
    List Attachment → Option (Store TokenId × Vocabulary)
  | [] => before
  | .auxiliary _ :: rest => lastAlternate before rest
  | .alternate store :: rest => lastAlternate store rest

variable {archive result : Archive} {attachments : List Attachment} {window : Window}

/-- An attachment leaves everything else as it was. -/
theorem fields_of_attach {attachment : Attachment} (h : archive.attach attachment = .ok result) :
    result.blocks = archive.blocks ∧ result.titles = archive.titles
      ∧ result.auxiliary = lastAuxiliary archive.auxiliary [attachment]
      ∧ result.alternate = lastAlternate archive.alternate [attachment] := by
  cases attachment with
  | auxiliary store =>
      cases store with
      | none =>
          cases h
          exact ⟨rfl, rfl, rfl, rfl⟩
      | some store =>
          rw [attach, withAuxiliary] at h
          split at h
          · cases h
            exact ⟨rfl, rfl, rfl, rfl⟩
          · cases h
  | alternate store =>
      cases store with
      | none =>
          cases h
          exact ⟨rfl, rfl, rfl, rfl⟩
      | some pair =>
          rw [attach, withAlternate] at h
          split at h
          · cases h
            exact ⟨rfl, rfl, rfl, rfl⟩
          · cases h

/-- After any number of attachments the stores are the same, and the channels those attached last. -/
theorem fields_of_attachAll (h : archive.attachAll attachments = .ok result) :
    result.blocks = archive.blocks ∧ result.titles = archive.titles
      ∧ result.auxiliary = lastAuxiliary archive.auxiliary attachments
      ∧ result.alternate = lastAlternate archive.alternate attachments := by
  induction attachments generalizing archive with
  | nil =>
      cases h
      exact ⟨rfl, rfl, rfl, rfl⟩
  | cons attachment rest ih =>
      obtain ⟨next, hNext, hRest⟩ := bind_eq_ok_iff.mp h
      obtain ⟨hBlocks, hTitles, hAuxiliary, hAlternate⟩ := fields_of_attach hNext
      obtain ⟨hRestBlocks, hRestTitles, hRestAuxiliary, hRestAlternate⟩ := ih hRest
      refine ⟨hRestBlocks.trans hBlocks, hRestTitles.trans hTitles, ?_, ?_⟩
      · rw [hRestAuxiliary, hAuxiliary]
        cases attachment <;> rfl
      · rw [hRestAlternate, hAlternate]
        cases attachment <;> rfl

/-- A block of the archive is uneven where the store of values differs from the sentences. -/
theorem uneven_held_iff {number tokens marks : Nat} :
    (archive.held window).Uneven number tokens marks ↔
      ∃ store ∈ archive.auxiliary, Block.Differ (archive.blocks.within window) (store.within window)
        number tokens marks := by
  constructor
  · rintro ⟨values, hValues, hDiffer⟩
    obtain ⟨store, hStore, rfl⟩ := Option.map_eq_some_iff.mp hValues
    exact ⟨store, hStore, hDiffer⟩
  · rintro ⟨store, hStore, hDiffer⟩
    exact ⟨store.within window, Option.map_eq_some_iff.mpr ⟨store, hStore, rfl⟩, hDiffer⟩

/-- Where a block is not refused, its values are as many as its tokens. -/
theorem map_length_of_even
    (hEven : ¬ ∃ number tokens marks, (archive.held window).Uneven number tokens marks) :
    ∀ values ∈ (archive.held window).auxiliary,
      values.map List.length = (archive.held window).sentences.map List.length := by
  intro values hValues
  obtain ⟨store, hStore, rfl⟩ := Option.map_eq_some_iff.mp hValues
  exact Block.map_length_eq_of_even (length_within_eq (archive.auxiliary_size store hStore))
    fun number tokens marks hDiffer => hEven ⟨number, tokens, marks, _, hValues, hDiffer⟩

open Classical in
/-- The block of a window is refused where sentences are missing, where a sentence has another number of
values than of tokens, and nowhere else. Otherwise it is what the stores have for the window, and all of
it goes together. -/
theorem synchronized_of_attachAll {blocks titles : Store TokenId}
    (h : (ofStores blocks titles).attachAll attachments = .ok archive) (window : Window) :
    let auxiliary := lastAuxiliary none attachments
    let alternate := lastAlternate none attachments
    let Uneven (number tokens marks : Nat) : Prop := ∃ store ∈ auxiliary,
      Block.Differ (blocks.within window) (store.within window) number tokens marks
    if window.start.toNat < window.stop.toNat ∧ blocks.size < window.stop.toNat then
      archive.assemble window = .error (.missingEntry blocks.name
        (max window.start.toNat blocks.size) blocks.size)
    else if ∃ number tokens marks, Uneven number tokens marks then
      ∃ number tokens marks, Uneven number tokens marks
        ∧ (∀ other tokens marks, Uneven other tokens marks → number ≤ other)
        ∧ archive.assemble window = .error (.misaligned .auxiliary (.valueCount number tokens marks))
    else
      ∃ block, archive.assemble window = .ok block
        ∧ archive.primary window = .ok (.ofSentences block.window block.sentences)
        ∧ block.window = window ∧ block.sentences = blocks.within window
        ∧ block.auxiliary = auxiliary.map (fun store => store.within window)
        ∧ block.alternate = alternate.map (fun pair => ⟨pair.1.within window, pair.2⟩)
        ∧ (∀ values ∈ block.auxiliary,
          values.map List.length = block.sentences.map List.length)
        ∧ ∀ alternate ∈ block.alternate, alternate.sentences.length = block.sentences.length := by
  intro auxiliary alternate Uneven
  obtain ⟨hBlocks, -, hAuxiliary, hAlternate⟩ := fields_of_attachAll h
  change archive.blocks = blocks at hBlocks
  change archive.auxiliary = auxiliary at hAuxiliary
  change archive.alternate = alternate at hAlternate
  have hUneven : ∀ number tokens marks,
      Uneven number tokens marks ↔ (archive.held window).Uneven number tokens marks := by
    intro number tokens marks
    rw [uneven_held_iff, hAuxiliary, hBlocks]
  simp only [hUneven]
  split_ifs with hOver hDiffer
  · rw [← hBlocks] at hOver ⊢
    exact assemble_of_lt hOver.1 hOver.2
  all_goals
    have hCovers : archive.Covers window := by
      rw [Covers, hBlocks]
      omega
  · exact assemble_of_uneven hCovers hDiffer
  · refine ⟨archive.held window, assemble_of_even hCovers hDiffer, primary_of_covers hCovers, rfl, ?_,
      ?_, ?_, map_length_of_even hDiffer, accompanied_held archive window⟩
    · rw [held, hBlocks]
    · rw [held, hAuxiliary]
    · rw [held, hAlternate]

/-- Values are attached, then a second tokenization, and then other values, which are too few for the
last of three sentences. -/
def revised : List Attachment := [
  .auxiliary (some ⟨"auxiliary", [[1], [], []]⟩),
  .alternate (some ⟨⟨"alternate", [[5], [8], [7]]⟩, .ofTable [] ⟨2, 3, 4, 0, 1⟩⟩),
  .auxiliary (some ⟨"auxiliary", [[0, 0, 1], [1, 0], []]⟩)]

/-- A window without that sentence is read with the values that were attached last. -/
theorem synchronized_of_attachAll_revised :
    ∃ archive, (ofStores ⟨"block", [[5, 6, 7], [8, 9], [7]]⟩ ⟨"title", []⟩).attachAll revised =
        .ok archive
      ∧ ∃ block, archive.assemble ⟨0, 2, 0, 0⟩ = .ok block
        ∧ block.sentences = [[5, 6, 7], [8, 9]] ∧ block.auxiliary = some [[0, 0, 1], [1, 0]]
        ∧ ∀ alternate ∈ block.alternate, alternate.sentences = [[5], [8]] := by
  obtain ⟨archive, hArchive⟩ : ∃ archive,
      (ofStores ⟨"block", [[5, 6, 7], [8, 9], [7]]⟩ ⟨"title", []⟩).attachAll revised =
        .ok archive := ⟨_, rfl⟩
  refine ⟨archive, hArchive, ?_⟩
  have hEven : ¬ ∃ number tokens marks, ∃ store ∈ lastAuxiliary none revised,
      Block.Differ (Store.within ⟨"block", [[5, 6, 7], [8, 9], [7]]⟩ ⟨0, 2, 0, 0⟩)
        (store.within ⟨0, 2, 0, 0⟩) number tokens marks := by
    rintro ⟨number, tokens, marks, store, hStore, hNe, hTokens, hMarks⟩
    cases hStore
    rcases number with _ | _ | number
    · cases hTokens
      cases hMarks
      exact hNe rfl
    · cases hTokens
      cases hMarks
      exact hNe rfl
    · cases hTokens
  have hRead := synchronized_of_attachAll hArchive ⟨0, 2, 0, 0⟩
  rw [if_neg (by decide), if_neg hEven] at hRead
  obtain ⟨block, hBlock, -, -, hSentences, hAuxiliary, hAlternate, -⟩ := hRead
  refine ⟨block, hBlock, hSentences, hAuxiliary, ?_⟩
  rw [hAlternate]
  rintro alternate ⟨⟩
  rfl

end Pretext.Archive
