import Pretext.Block.Archive
import Pretext.Proofs.Block.Basic

/-! What an archive has for a window, and whether a block is made of it. Since the channels have an
entry for every sentence, nothing is missing from them that is not missing from the sentences. -/
namespace Pretext

/-- The entries of a window. -/
def Store.within {α : Type} (store : Store α) (window : Window) : List (List α) :=
  (store.entries.drop window.start.toNat).take (window.stop.toNat - window.start.toNat)

/-- No window has more sentences than a word can count. -/
theorem Store.length_within_le {α : Type} (store : Store α) (window : Window) :
    (store.within window).length ≤ UInt64.size := by
  have hTake : (store.within window).length ≤ window.stop.toNat - window.start.toNat :=
    List.length_take_le ..
  have hStop : window.stop.toNat < UInt64.size := window.stop.toNat_lt_size
  omega

theorem Store.length_within {α : Type} {store : Store α} {window : Window}
    (h : window.stop.toNat ≤ store.size) :
    (store.within window).length = window.stop.toNat - window.start.toNat := by
  rw [within, List.length_take, List.length_drop]
  have hSize : store.entries.length = store.size := rfl
  omega

namespace Archive

/-- What the stores have for a window, whether it goes together or not. -/
def held (archive : Archive) (window : Window) : Block where
  window := window
  sentences := archive.blocks.within window
  auxiliary := archive.auxiliary.map fun store => store.within window
  alternate := archive.alternate.map fun pair => ⟨pair.1.within window, pair.2⟩

/-- No sentence of the window is missing. -/
def Covers (archive : Archive) (window : Window) : Prop :=
  window.stop.toNat ≤ window.start.toNat ∨ window.stop.toNat ≤ archive.blocks.size

section

variable {α : Type} {archive : Archive} {window : Window} {store : Store α}

/-- A store that goes along with the sentences can be read wherever the sentences can. -/
theorem Covers.range_eq (h : archive.Covers window) (hSize : store.size = archive.blocks.size) :
    store.range window.start.toNat window.stop.toNat = .ok (store.within window) :=
  Store.range_of_le (by rwa [hSize])

/-- Stores with as many entries have as many of them in a window, wherever it ends. -/
theorem length_within_eq (hSize : store.size = archive.blocks.size) :
    (store.within window).length = (archive.blocks.within window).length := by
  have hEntries : store.entries.length = archive.blocks.entries.length := hSize
  rw [Store.within, Store.within, List.length_take, List.length_take, List.length_drop,
    List.length_drop, hEntries]

end

variable {archive : Archive} {window : Window}

theorem accompanied_held (archive : Archive) (window : Window) :
    (archive.held window).Accompanied := by
  intro alternate hAlternate
  obtain ⟨pair, hPair, rfl⟩ := Option.map_eq_some_iff.mp hAlternate
  exact length_within_eq (archive.alternate_size pair hPair)

/-- What the archive covers is read without a fault. -/
theorem primary_of_covers (h : archive.Covers window) :
    archive.primary window = .ok (.ofSentences window (archive.blocks.within window)) := by
  rw [primary, sentences, h.range_eq rfl]
  rfl

/-- The first sentence that is missing is named. -/
theorem primary_of_lt (hSome : window.start.toNat < window.stop.toNat)
    (hOver : archive.blocks.size < window.stop.toNat) :
    archive.primary window = .error (.missingEntry archive.blocks.name
      (max window.start.toNat archive.blocks.size) archive.blocks.size) := by
  rw [primary, sentences, Store.range_of_lt hSome hOver]
  rfl

/-- A block that is read has the sentences of its window and no channels. -/
theorem eq_of_primary {block : Block} (h : archive.primary window = .ok block) :
    block = .ofSentences window (archive.blocks.within window) := by
  rcases Nat.lt_or_ge window.start.toNat window.stop.toNat with hSome | hNone
  · rcases Nat.lt_or_ge archive.blocks.size window.stop.toNat with hOver | hInside
    · rw [primary_of_lt hSome hOver] at h
      cases h
    · rw [primary_of_covers (Or.inr hInside)] at h
      exact (Except.ok.inj h).symm
  · rw [primary_of_covers (Or.inl hNone)] at h
    exact (Except.ok.inj h).symm

theorem sentences_of_primary {block : Block} (h : archive.primary window = .ok block) :
    archive.sentences window.start window.stop = .ok (archive.blocks.within window) := by
  have hBlock := eq_of_primary h
  rw [primary] at h
  cases hSentences : archive.sentences window.start window.stop with
  | error failure =>
      rw [hSentences] at h
      cases h
  | ok sentences =>
      rw [hSentences] at h
      cases h
      rw [(Block.mk.inj hBlock).2.1]

/-- A window that is not empty and ends behind the last sentence is refused for the first entry that
is missing. -/
theorem assemble_of_lt (hSome : window.start.toNat < window.stop.toNat)
    (hOver : archive.blocks.size < window.stop.toNat) :
    archive.assemble window = .error (.missingEntry archive.blocks.name
      (max window.start.toNat archive.blocks.size) archive.blocks.size) := by
  rw [assemble, primary_of_lt hSome hOver]
  rfl

theorem attachAuxiliary_of_some {store : Store UInt32} (h : archive.Covers window)
    (hStore : archive.auxiliary = some store) :
    archive.attachAuxiliary (.ofSentences window (archive.blocks.within window)) =
      (Block.ofSentences window (archive.blocks.within window)).withAuxiliary
        (store.within window) := by
  rw [attachAuxiliary, hStore]
  change (store.range window.start.toNat window.stop.toNat >>= _) = _
  rw [h.range_eq (archive.auxiliary_size _ hStore)]
  rfl

/-- Where no sentence has another number of values than of tokens, the values are attached as the
store has them. -/
theorem attachAuxiliary_of_even (h : archive.Covers window)
    (hEven : ¬ ∃ number tokens marks, (archive.held window).Uneven number tokens marks) :
    archive.attachAuxiliary (.ofSentences window (archive.blocks.within window)) =
      .ok ⟨window, archive.blocks.within window, (archive.held window).auxiliary, none⟩ := by
  cases hStore : archive.auxiliary with
  | none => simp [attachAuxiliary, held, hStore, Block.ofSentences]
  | some store =>
      have hHeld : (archive.held window).auxiliary = some (store.within window) := by
        simp [held, hStore]
      rw [attachAuxiliary_of_some h hStore, hHeld]
      apply Block.withAuxiliary_of_even (length_within_eq (archive.auxiliary_size _ hStore))
      intro number tokens marks hDiffer
      exact hEven ⟨number, tokens, marks, _, hHeld, hDiffer⟩

/-- A second tokenization is attached whatever it is. -/
theorem attachAlternate_eq (h : archive.Covers window) (auxiliary : Option (List (List UInt32))) :
    archive.attachAlternate ⟨window, archive.blocks.within window, auxiliary, none⟩ =
      .ok ⟨window, archive.blocks.within window, auxiliary, (archive.held window).alternate⟩ := by
  cases hPair : archive.alternate with
  | none => simp [attachAlternate, held, hPair]
  | some pair =>
      obtain ⟨store, vocabulary⟩ := pair
      have hSize : store.size = archive.blocks.size := archive.alternate_size _ hPair
      rw [attachAlternate, hPair, held, hPair]
      change (store.range window.start.toNat window.stop.toNat >>= _) = _
      rw [h.range_eq hSize]
      exact Block.withAlternate_of_length (length_within_eq hSize)

/-- Where no sentence has another number of values than of tokens, a block is all that is held. -/
theorem assemble_of_even (h : archive.Covers window)
    (hEven : ¬ ∃ number tokens marks, (archive.held window).Uneven number tokens marks) :
    archive.assemble window = .ok (archive.held window) := by
  rw [assemble, primary_of_covers h]
  change (archive.attachAuxiliary _ >>= _) = _
  rw [attachAuxiliary_of_even h hEven]
  exact attachAlternate_eq h _

/-- Otherwise the first of these sentences is named. -/
theorem assemble_of_uneven (h : archive.Covers window)
    (hUneven : ∃ number tokens marks, (archive.held window).Uneven number tokens marks) :
    ∃ number tokens marks, (archive.held window).Uneven number tokens marks
      ∧ (∀ other tokens marks, (archive.held window).Uneven other tokens marks → number ≤ other)
      ∧ archive.assemble window =
        .error (.misaligned .auxiliary (.valueCount number tokens marks)) := by
  obtain ⟨number, tokens, marks, values, hValues, hDiffer⟩ := hUneven
  obtain ⟨store, hStore, rfl⟩ := Option.map_eq_some_iff.mp hValues
  have hLength : (store.within window).length =
      (Block.ofSentences window (archive.blocks.within window)).sentences.length :=
    length_within_eq (archive.auxiliary_size _ hStore)
  obtain ⟨number, tokens, marks, hFirst, hLeast, hAttach⟩ :=
    Block.withAuxiliary_of_differ hLength hDiffer
  refine ⟨number, tokens, marks, ⟨_, hValues, hFirst⟩, ?_, ?_⟩
  · rintro other tokens marks ⟨others, hOthers, hOther⟩
    rw [hValues] at hOthers
    cases hOthers
    exact hLeast other tokens marks hOther
  · rw [assemble, primary_of_covers h]
    change (archive.attachAuxiliary _ >>= _) = _
    rw [attachAuxiliary_of_some h hStore, hAttach]
    rfl

end Archive

end Pretext
