import Pretext.Vocabulary.Basic

/-! Blocks of sentences, where they come from, and what goes along with the sentences. -/
namespace Pretext

/-- The sentences from `start` up to, but not including, `stop`, which are taken from one document
and make up the block with the number `block`. -/
structure Window where
  start : UInt64
  stop : UInt64
  document : UInt64
  block : UInt64
deriving DecidableEq

namespace Window

/-- How many sentences the window covers. -/
def sentences (window : Window) : UInt64 :=
  if window.start ≤ window.stop then window.stop - window.start else 0

/-- The four numbers as signed ones, which are negative from `2 ^ 63` on. -/
def signed (window : Window) : List Int64 :=
  [window.start.toInt64, window.stop.toInt64, window.document.toInt64, window.block.toInt64]

/-- A window that covers no sentence can never become a block. -/
def isEmpty (window : Window) : Bool :=
  window.stop ≤ window.start

end Window

/-- A second tokenization of the sentences of a block, and its vocabulary. -/
structure Alternate where
  sentences : List Sentence
  vocabulary : Vocabulary

/-- A block. A value of the auxiliary channel other than 0 marks the token as salient. Whether the
channels go along with the sentences is checked where they are attached. -/
structure Block where
  window : Window
  sentences : List Sentence
  auxiliary : Option (List (List UInt32))
  alternate : Option Alternate

namespace Block

/-- A block without channels. -/
def ofSentences (window : Window) (sentences : List Sentence) : Block :=
  ⟨window, sentences, none, none⟩

/-- A block of one sentence has no context to learn from. -/
def requireContext (block : Block) : Except Failure Unit :=
  if 1 < block.sentences.length then .ok ()
  else .error (.blockTooShort block.window.start block.window.stop block.sentences.length)

theorem requireContext_of_lt {block : Block} (h : 1 < block.sentences.length) :
    block.requireContext = .ok () := if_pos h

theorem requireContext_of_le {block : Block} (h : block.sentences.length ≤ 1) :
    block.requireContext =
      .error (.blockTooShort block.window.start block.window.stop block.sentences.length) :=
  if_neg (Nat.not_lt.mpr h)

/-- The first sentence with another number of values than tokens, with both numbers. Sentences are
counted from `sentence`. -/
def firstUneven (sentence : Nat) : List Sentence → List (List UInt32) → Option Misalignment
  | tokens :: sentences, values :: rest =>
    if tokens.length = values.length then firstUneven (sentence + 1) sentences rest
    else some (.valueCount sentence tokens.length values.length)
  | _, _ => none

/-- Attach values, one for each token. -/
def withAuxiliary (block : Block) (values : List (List UInt32)) : Except Failure Block :=
  if values.length ≠ block.sentences.length then
    .error (.misaligned .auxiliary (.sentenceCount values.length block.sentences.length))
  else
    match firstUneven 0 block.sentences values with
    | some cause => .error (.misaligned .auxiliary cause)
    | none => .ok { block with auxiliary := some values }

/-- Attach a second tokenization of every sentence, which may have other numbers of tokens. -/
def withAlternate (block : Block) (alternate : Alternate) : Except Failure Block :=
  if alternate.sentences.length ≠ block.sentences.length then
    .error (.misaligned .alternate
      (.sentenceCount alternate.sentences.length block.sentences.length))
  else .ok { block with alternate := some alternate }

end Block

end Pretext
