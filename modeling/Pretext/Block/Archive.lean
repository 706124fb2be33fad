import Pretext.Block.Basic

/-! The stores that blocks are read from: numbered sequences that are only ever read. -/
namespace Pretext

/-- A store of sequences. Its name is for messages. -/
structure Store (α : Type) where
  name : String
  entries : List (List α)

namespace Store

variable {α : Type}

/-- The number of entries. -/
def size (store : Store α) : Nat := store.entries.length

/-- The entry with a number. -/
def get (store : Store α) (index : Nat) : Except Failure (List α) :=
  match store.entries[index]? with
  | some entry => .ok entry
  | none => .error (.missingEntry store.name index store.size)

/-- The entries from `start` up to, but not including, `stop`. An empty range needs no entry, even
where there is none. Otherwise the first entry that is missing is named. -/
def range (store : Store α) (start stop : Nat) : Except Failure (List (List α)) :=
  if stop ≤ start then .ok []
  else if stop ≤ store.size then .ok ((store.entries.drop start).take (stop - start))
  else .error (.missingEntry store.name (max start store.size) store.size)

variable {store : Store α} {index start stop : Nat} {entry : List α}

theorem get_of_some (h : store.entries[index]? = some entry) : store.get index = .ok entry := by
  rw [get, h]

theorem get_of_le (h : store.size ≤ index) :
    store.get index = .error (.missingEntry store.name index store.size) := by
  rw [get, List.getElem?_eq_none h]

/-- Entries that the store has are read. An empty range is, wherever it lies. -/
theorem range_of_le (h : stop ≤ start ∨ stop ≤ store.size) :
    store.range start stop = .ok ((store.entries.drop start).take (stop - start)) := by
  unfold range
  split
  · rename_i hEmpty
    rw [Nat.sub_eq_zero_of_le hEmpty, List.take_zero]
  · rename_i hSome
    rw [if_pos (h.resolve_left hSome)]

/-- A range that leads past the last entry is refused, for the first that is missing. -/
theorem range_of_lt (hSome : start < stop) (hOver : store.size < stop) :
    store.range start stop =
      .error (.missingEntry store.name (max start store.size) store.size) := by
  rw [range, if_neg (Nat.not_le.mpr hSome), if_neg (Nat.not_le.mpr hOver)]

end Store

/-- Sentences, the titles of their documents, and the channels that go along with the sentences,
which have an entry for every sentence. -/
structure Archive where
  blocks : Store TokenId
  titles : Store TokenId
  auxiliary : Option (Store UInt32)
  alternate : Option (Store TokenId × Vocabulary)
  auxiliary_size : ∀ store ∈ auxiliary, store.size = blocks.size
  alternate_size : ∀ pair ∈ alternate, pair.1.size = blocks.size

namespace Archive

/-- An archive without channels. -/
def ofStores (blocks titles : Store TokenId) : Archive where
  blocks := blocks
  titles := titles
  auxiliary := none
  alternate := none
  auxiliary_size := by simp
  alternate_size := by simp

/-- Attach a store of values in place of the one before, or detach it. -/
def withAuxiliary (archive : Archive) : Option (Store UInt32) → Except Failure Archive
  | none => .ok { archive with auxiliary := none, auxiliary_size := by simp }
  | some store =>
    if h : store.size = archive.blocks.size then
      .ok { archive with auxiliary := some store, auxiliary_size := by simpa using h }
    else .error (.misaligned .auxiliary (.storeSize store.size archive.blocks.size))

/-- Attach a store of second tokenizations in place of the one before, or detach it. -/
def withAlternate (archive : Archive) :
    Option (Store TokenId × Vocabulary) → Except Failure Archive
  | none => .ok { archive with alternate := none, alternate_size := by simp }
  | some (store, vocabulary) =>
    if h : store.size = archive.blocks.size then
      .ok { archive with
        alternate := some (store, vocabulary), alternate_size := by simpa using h }
    else .error (.misaligned .alternate (.storeSize store.size archive.blocks.size))

/-- The sentences of a range. -/
def sentences (archive : Archive) (start stop : UInt64) : Except Failure (List Sentence) :=
  archive.blocks.range start.toNat stop.toNat

/-- The title of a document. -/
def title (archive : Archive) (document : UInt64) : Except Failure Sentence :=
  archive.titles.get document.toNat

/-- The block of a window without its channels, which are not even read. -/
def primary (archive : Archive) (window : Window) : Except Failure Block :=
  (archive.sentences window.start window.stop).map (Block.ofSentences window)

/-- Read the values of a block and attach them. -/
def attachAuxiliary (archive : Archive) (block : Block) : Except Failure Block :=
  match archive.auxiliary with
  | none => .ok block
  | some store => do
    let values ← store.range block.window.start.toNat block.window.stop.toNat
    block.withAuxiliary values

/-- Read the second tokenization of a block and attach it. -/
def attachAlternate (archive : Archive) (block : Block) : Except Failure Block :=
  match archive.alternate with
  | none => .ok block
  | some (store, vocabulary) => do
    let sentences ← store.range block.window.start.toNat block.window.stop.toNat
    block.withAlternate ⟨sentences, vocabulary⟩

/-- The block of a window with all channels. -/
def assemble (archive : Archive) (window : Window) : Except Failure Block := do
  let block ← archive.primary window
  let block ← archive.attachAuxiliary block
  archive.attachAlternate block

end Archive

end Pretext
