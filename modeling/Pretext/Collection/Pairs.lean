import Pretext.Collection.Masked
import Pretext.InverseCloze.Pair

/-! Collections of query and block pairs, and of the blocks that queries are answered from. -/
namespace Pretext

/-- A collection of pairs. -/
structure PairCollection where
  name : String
  seed : UInt64
  useTitles : Bool
  rows : Rows
  archive : Archive
  splitter : Splitter
  vocabulary : Vocabulary

namespace PairCollection

/-- A collection with given rows. -/
def ofRows (settings : Settings) (vocabulary : Vocabulary) (rows : Rows) (archive : Archive) :
    Logged PairCollection := do
  settings.validate
  Logged.note (.pairsReady settings.name rows.length settings.length settings.useTitles
    settings.keepRate)
  return {
    name := settings.name
    seed := settings.seed
    useTitles := settings.useTitles
    rows := rows
    archive := archive
    splitter := ⟨.ofSpecial vocabulary.special settings.length.toNat, settings.keepRate⟩
    vocabulary := vocabulary }

/-- A collection with rows that are made for it. The settings are checked twice. -/
def ofMaker (settings : Settings) (vocabulary : Vocabulary) (archive : Archive)
    (maker : RowMaker) : Logged PairCollection := do
  let rows ← makeRows settings archive maker
  ofRows settings vocabulary rows archive

/-- The title of a document. It is worth noting if it has no tokens. -/
def title (collection : PairCollection) (document : UInt64) : Logged Sentence := do
  let title ← collection.archive.title document
  if title.isEmpty then
    Logged.note (.emptyTitle document collection.name)
  return title

/-- The title with which the blocks of a document are framed, if they are framed with titles. -/
def title? (collection : PairCollection) (document : UInt64) : Logged (Option Sentence) :=
  if collection.useTitles then do
    let title ← collection.title document
    return some title
  else return none

/-- The sample of a row. Channels are not read. -/
def get (collection : PairCollection) (row : UInt64) : Logged PairSample := do
  let window ← collection.rows.get row
  let block ← collection.archive.primary window
  let title ← collection.title? window.document
  let sample ← (collection.splitter.split block title (.ofRow collection.seed row)).1
  Logged.note (.pairBuilt row window.block window.start window.stop window.document)
  return sample

/-- The block of a range of sentences, as it is to be found by queries. It is always framed with
the title of its document. -/
def evidence (collection : PairCollection) (start stop document : UInt64) : Logged Framed := do
  let sentences ← collection.archive.sentences start stop
  let title ← collection.title document
  collection.splitter.frame.fillFrom sentences (some title)

/-- The frame that stands for no block. -/
def noEvidence (collection : PairCollection) : Except Failure Framed :=
  collection.splitter.frame.placeholder

end PairCollection

end Pretext
