import Pretext.Block.Archive
import Pretext.Block.Rows
import Pretext.Masked.Sample
import Pretext.Settings.Basic

/-! Collections of masked samples. A sample depends on the settings, the archive and its row alone,
and not on which other samples are built. -/
namespace Pretext

/-- Whoever makes the rows of a collection, given the sentences, the titles and a request. -/
abbrev RowMaker := Store TokenId → Store TokenId → RowRequest → Except Failure Rows

/-- Have rows made. The settings are checked before. -/
def makeRows (settings : Settings) (archive : Archive) (maker : RowMaker) : Logged Rows := do
  settings.validate
  maker archive.blocks archive.titles settings.request

/-- A collection of masked samples. -/
structure MaskedCollection where
  name : String
  seed : UInt64
  rows : Rows
  archive : Archive
  masker : Masker

namespace MaskedCollection

/-- A collection with given rows. -/
def ofRows (settings : Settings) (vocabulary : Vocabulary) (rows : Rows) (archive : Archive) :
    Logged MaskedCollection := do
  settings.validate
  Logged.note (.maskedReady settings.name rows.length settings.length archive.auxiliary.isSome
    archive.alternate.isSome)
  return {
    name := settings.name
    seed := settings.seed
    rows := rows
    archive := archive
    masker := ⟨vocabulary, settings.length.toNat, settings.maskedRate, settings.noise⟩ }

/-- A collection with rows that are made for it. The settings are checked twice. -/
def ofMaker (settings : Settings) (vocabulary : Vocabulary) (archive : Archive)
    (maker : RowMaker) : Logged MaskedCollection := do
  let rows ← makeRows settings archive maker
  ofRows settings vocabulary rows archive

/-- The sample of a row. -/
def get (collection : MaskedCollection) (row : UInt64) : Logged MaskedSample := do
  let window ← collection.rows.get row
  let block ← collection.archive.assemble window
  let sample ← (collection.masker.build block (.ofRow collection.seed row)).1
  Logged.note (.maskedBuilt row window.block window.start window.stop
    sample.maskedPositions.length)
  return sample

end MaskedCollection

end Pretext
