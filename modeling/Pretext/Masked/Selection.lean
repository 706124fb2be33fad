import Pretext.Block.Basic
import Pretext.Word.Alignment

/-! The words of a block as positions of its frame, and which of them are masked. Only whole words are
masked, and words that are marked as salient are masked in one piece with their salient neighbours. -/
namespace Pretext

/-- The words of one sentence of a block. They follow the second tokenization if there is one. -/
def Block.sentenceWords (block : Block) (vocabulary : Vocabulary) (number : Nat)
    (sentence : Sentence) : Except Failure (List Span) :=
  match block.alternate with
  | none => .ok (vocabulary.groups sentence)
  | some alternate =>
    match alternate.sentences[number]? with
    | none => .error (.misaligned .alternate (.missingSentence number))
    | some second => alignSentence vocabulary sentence alternate.vocabulary second number

/-- The spans before `limit`, moved by `offset`. -/
def placeSpans (offset limit : Nat) (spans : List Span) : List Span :=
  (spans.map fun span => (span.shift offset).clip limit).filter fun span => !span.isEmpty

/-- The words of consecutive sentences, the first of which has the number `number` and begins at
the position `offset`. Positions from `limit` on are left out, and sentences that begin there are
not looked at. -/
def Block.wordsFrom (block : Block) (vocabulary : Vocabulary) (limit : Nat) (number offset : Nat) :
    List Sentence → Except Failure (List Span)
  | [] => .ok []
  | sentence :: rest =>
    if limit ≤ offset then .ok []
    else do
      let spans ← block.sentenceWords vocabulary number sentence
      let more ← block.wordsFrom vocabulary limit (number + 1) (offset + sentence.length) rest
      return placeSpans offset limit spans ++ more

/-- The words of a block of which `payload` tokens are framed. The payload begins behind the opening
token. -/
def Block.words (block : Block) (vocabulary : Vocabulary) (payload : Nat) :
    Except Failure (List Span) :=
  block.wordsFrom vocabulary (payload + 1) 0 1 block.sentences

/-- The spans among which positions are selected. -/
structure Candidates where
  salient : List Span
  plain : List Span

namespace Candidates

/-- Whether one of the positions is marked. The values are those of the payload, so that the first
belongs to position 1. -/
def isMarked (values : List UInt32) (span : Span) : Bool :=
  span.positions.any fun position => values[position - 1]?.any (· != 0)

/-- Separate the marked words from the others. Marked words that follow each other directly become
one span. `span` is the one that the next word may still extend. -/
def separate (marked : Span → Bool) (span : Option Span) : List Span → Candidates
  | [] => ⟨span.toList, []⟩
  | word :: rest =>
    if marked word then
      match span with
      | none => separate marked (some word) rest
      | some previous =>
        if previous.stop = word.start then separate marked (some ⟨previous.start, word.stop⟩) rest
        else
          let found := separate marked (some word) rest
          ⟨previous :: found.salient, found.plain⟩
    else
      let found := separate marked none rest
      ⟨span.toList ++ found.salient, word :: found.plain⟩

end Candidates

/-- The candidates among the words of a block. Without an auxiliary channel no word is salient. -/
def Block.candidates (block : Block) (payload : Nat) (words : List Span) : Candidates :=
  match block.auxiliary with
  | none => ⟨[], words⟩
  | some values =>
    Candidates.separate (Candidates.isMarked (values.flatten.take payload)) none words

/-- Take each span that fits into what is left of the budget, in order. -/
def select (budget : Nat) : List Span → List Span
  | [] => []
  | span :: rest =>
    if budget = 0 then []
    else if budget < span.length then select budget rest
    else span :: select (budget - span.length) rest

/-- The positions of the spans that are selected stay within the budget. -/
theorem length_select_le (budget : Nat) (spans : List Span) :
    ((select budget spans).flatMap Span.positions).length ≤ budget := by
  induction spans generalizing budget with
  | nil => simp [select]
  | cons span rest ih =>
    unfold select
    split
    · simp
    · split
      · exact ih budget
      · simp only [List.flatMap_cons, List.length_append, Span.length_positions]
        have := ih (budget - span.length)
        omega

end Pretext
