import Pretext.Block.Basic
import Pretext.Frame
import Pretext.Random.Draw

/-! Samples for the inverse cloze task: one sentence of a block is the query, and the block without
it, or with it, is what the query should find. -/
namespace Pretext

/-- A sentence of a block, and the sentences that are left. -/
structure QuerySplit where
  query : Sentence
  context : List Sentence
deriving DecidableEq

namespace QuerySplit

/-- Copy a sentence. All sentences are left. -/
def keep? (sentences : List Sentence) (index : Nat) : Option QuerySplit :=
  sentences[index]?.map fun query => ⟨query, sentences⟩

/-- Take a sentence out. The others are left, also those that are equal to it. -/
def remove? (sentences : List Sentence) (index : Nat) : Option QuerySplit :=
  sentences[index]?.map fun query => ⟨query, sentences.eraseIdx index⟩

end QuerySplit

/-- A framed query and a framed block. `origin` has the numbers of the window. -/
structure PairSample where
  query : Framed
  block : Framed
  origin : List Int64
deriving DecidableEq

/-- How pairs are made: the frame of both, and the share of the queries that stay in their block. -/
structure Splitter where
  frame : Frame
  keepRate : Float
deriving DecidableEq

namespace Splitter

/-- Make a pair of a block with a given sentence as the query. -/
def splitAt (splitter : Splitter) (block : Block) (title : Option Sentence) (index : Nat)
    (keep : Bool) : Except Failure PairSample := do
  block.requireContext
  let found := if keep then QuerySplit.keep? block.sentences index
    else QuerySplit.remove? block.sentences index
  match found with
  | none => .error (.rowOutOfRange index block.sentences.length)
  | some split =>
    let query ← splitter.frame.fill (split.query.take (splitter.frame.room none)) none
    let context ← splitter.frame.fillFrom split.context title
    return ⟨query, context, block.window.signed⟩

/-- Make a pair of a block. The sentence is drawn first, then whether it stays. Nothing is drawn if
the block has too few sentences. -/
def split (splitter : Splitter) (block : Block) (title : Option Sentence) (g : Generator) :
    Except Failure PairSample × Generator :=
  match block.requireContext with
  | .error failure => (.error failure, g)
  | .ok () =>
    let (index, g) := g.below block.sentences.length
    let (fraction, g) := g.unit
    (splitter.splitAt block title index (fraction < splitter.keepRate), g)

end Splitter

end Pretext
