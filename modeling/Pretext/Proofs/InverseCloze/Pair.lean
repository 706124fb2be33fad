import Pretext.InverseCloze.Pair
import Pretext.Proofs.Block.Basic
import Pretext.Proofs.Frame
import Pretext.Proofs.Random.Fraction

/-! What a pair consists of, and when there is one. -/
namespace Pretext

/-- The sentences that are left of a block when one is the query. -/
def Block.context (block : Block) (number : Nat) (keep : Bool) : List Sentence :=
  if keep then block.sentences else block.sentences.take number ++ block.sentences.drop (number + 1)

/-- The number of the sentence that is drawn as the query. -/
def Block.drawn (block : Block) (g : Generator) : Nat :=
  (g.below block.sentences.length).1

/-- The sentence that is drawn is always one of the block. -/
theorem Block.drawn_lt {block : Block} (hPos : 0 < block.sentences.length)
    (hSize : block.sentences.length ≤ UInt64.size) (g : Generator) :
    block.drawn g < block.sentences.length :=
  Generator.below_lt hPos hSize g

/-- Whether the query is drawn to stay in its block. -/
def Splitter.keeps (splitter : Splitter) (block : Block) (g : Generator) : Bool :=
  (g.below block.sentences.length).2.unit.1 < splitter.keepRate

/-- The pair has `query` and what is left of the block, as much of each as there is room for. -/
structure Splitter.Pairs (splitter : Splitter) (block : Block) (title : Option Sentence)
    (query : Sentence) (context : List Sentence) (sample : PairSample) : Prop where
  query_holds : splitter.frame.Holds (query.take (splitter.frame.length - 2)) none sample.query
  block_holds : splitter.frame.Holds
    (context.flatten.take (splitter.frame.length - frameOverhead title)) title sample.block
  origin_eq : sample.origin = [block.window.start.toInt64, block.window.stop.toInt64,
    block.window.document.toInt64, block.window.block.toInt64]

/-- A splitter that never leaves a query in its block, for frames of ten positions. -/
def Splitter.tiny : Splitter where
  frame := ⟨2, 3, 0, 10⟩
  keepRate := 0

/-- Three sentences, the first and the last of which are equal. -/
def Block.echo : Block := ofSentences ⟨3, 6, 1, 7⟩ [[5, 6], [7], [5, 6]]

/-- The pair of that block in which the first sentence is the query, so that the last is left. -/
def PairSample.echo : PairSample where
  query := ⟨[2, 5, 6, 3, 0, 0, 0, 0, 0, 0], [1, 1, 1, 1, 0, 0, 0, 0, 0, 0]⟩
  block := ⟨[2, 9, 3, 7, 5, 6, 3, 0, 0, 0], [1, 1, 1, 1, 1, 1, 1, 0, 0, 0]⟩
  origin := [3, 6, 1, 7]

namespace Splitter

variable {splitter : Splitter} {block : Block} {title : Option Sentence} {query : Sentence}
  {number : Nat} {keep : Bool} {sample : PairSample} {g : Generator}

/-- A sentence that the block does not have cannot be its query. -/
theorem splitAt_of_none (hContext : 1 < block.sentences.length)
    (hQuery : block.sentences[number]? = none) :
    splitter.splitAt block title number keep =
      .error (.rowOutOfRange number block.sentences.length) := by
  rw [splitAt, Block.requireContext_of_lt hContext]
  cases keep with
  | true =>
      simp only [QuerySplit.keep?, hQuery]
      rfl
  | false =>
      simp only [QuerySplit.remove?, hQuery]
      rfl

/-- A split at a sentence frames the sentence, cut to the room that a frame without a title has, and
then what is left of the block. The pair names the window, so that its block can be found again. -/
theorem splitAt_eq (hContext : 1 < block.sentences.length)
    (hQuery : block.sentences[number]? = some query) :
    splitter.splitAt block title number keep =
      (splitter.frame.fill (query.take (splitter.frame.room none)) none).bind fun framed =>
        (splitter.frame.fillFrom (block.context number keep) title).bind fun context =>
          .ok ⟨framed, context, block.window.signed⟩ := by
  rw [splitAt, Block.requireContext_of_lt hContext]
  cases keep with
  | true =>
      simp only [QuerySplit.keep?, hQuery]
      rfl
  | false =>
      simp only [QuerySplit.remove?, hQuery, List.eraseIdx_eq_take_drop_succ]
      rfl

/-- Where there is room for the tokens of the frame, only the title can keep a split from succeeding:
the query is cut to fit, and so is its context. -/
theorem exists_splitAt_ok (hContext : 1 < block.sentences.length)
    (hQuery : block.sentences[number]? = some query) (hRoom : 2 ≤ splitter.frame.length)
    (hTitle : frameOverhead title ≤ splitter.frame.length) :
    ∃ sample, splitter.splitAt block title number keep = .ok sample := by
  obtain ⟨framed, hFramed, -⟩ := splitter.frame.fill_take_of_le query none hRoom
  obtain ⟨context, hFrom, -⟩ :=
    splitter.frame.fill_take_of_le (block.context number keep).flatten title hTitle
  refine ⟨⟨framed, context, block.window.signed⟩, ?_⟩
  rw [splitAt_eq hContext hQuery, hFramed]
  show (splitter.frame.fillFrom (block.context number keep) title).bind _ = _
  rw [Frame.fillFrom, flatten, hFrom]
  rfl

/-- A title that is too long is refused, whatever the query. -/
theorem splitAt_of_lt (hContext : 1 < block.sentences.length)
    (hQuery : block.sentences[number]? = some query) (hRoom : 2 ≤ splitter.frame.length)
    (hTitle : splitter.frame.length < frameOverhead title) :
    splitter.splitAt block title number keep =
      .error (.sequenceTooLong (frameOverhead title) splitter.frame.length) := by
  obtain ⟨framed, hFramed, -⟩ := splitter.frame.fill_take_of_le query none hRoom
  rw [splitAt_eq hContext hQuery, hFramed]
  show (splitter.frame.fillFrom (block.context number keep) title).bind _ = _
  rw [Frame.fillFrom, flatten, Frame.fill_take_of_lt _ _ _ hTitle]
  rfl

/-- A pair is one of the sentence at which the block was split and of what is left of the block. -/
theorem pairs_of_splitAt (h : splitter.splitAt block title number keep = .ok sample) :
    ∃ query, block.sentences[number]? = some query
      ∧ splitter.Pairs block title query (block.context number keep) sample := by
  rcases Nat.lt_or_ge 1 block.sentences.length with hContext | hShort
  · cases hQuery : block.sentences[number]? with
    | none =>
        rw [splitAt_of_none hContext hQuery] at h
        cases h
    | some query =>
        rw [splitAt_eq hContext hQuery] at h
        obtain ⟨framed, hFramed, h⟩ := bind_eq_ok_iff.mp h
        obtain ⟨context, hFrom, h⟩ := bind_eq_ok_iff.mp h
        cases h
        exact ⟨query, rfl, Frame.holds_of_fill hFramed, Frame.holds_of_fill hFrom, rfl⟩
  · rw [splitAt, Block.requireContext_of_le hShort] at h
    cases h

/-- A block without context is refused before anything is drawn. -/
theorem split_of_le (h : block.sentences.length ≤ 1) :
    splitter.split block title g = (.error (.blockTooShort block.window.start block.window.stop
      block.sentences.length), g) := by
  rw [split, Block.requireContext_of_le h]

/-- In other blocks a sentence is drawn, and whether it stays in its block. -/
theorem split_of_lt (h : 1 < block.sentences.length) :
    (splitter.split block title g).1 =
      splitter.splitAt block title (block.drawn g) (splitter.keeps block g) := by
  rw [split, Block.requireContext_of_lt h]
  rfl

/-- A pair is one of the sentence that was drawn. -/
theorem exists_pairs_of_split (h : (splitter.split block title g).1 = .ok sample) :
    ∃ query, block.sentences[block.drawn g]? = some query
      ∧ splitter.Pairs block title query (block.context (block.drawn g) (splitter.keeps block g))
        sample := by
  rcases Nat.lt_or_ge 1 block.sentences.length with hContext | hShort
  · rw [split_of_lt hContext] at h
    exact pairs_of_splitAt h
  · rw [split_of_le hShort] at h
    cases h

/-- Whatever is drawn, a block with context is split if the title fits into the frame. -/
theorem exists_split_ok (hContext : 1 < block.sentences.length)
    (hSize : block.sentences.length ≤ UInt64.size) (hRoom : 2 ≤ splitter.frame.length)
    (hTitle : frameOverhead title ≤ splitter.frame.length) (g : Generator) :
    ∃ sample, (splitter.split block title g).1 = .ok sample := by
  have hQuery := List.getElem?_eq_getElem (Block.drawn_lt (Nat.zero_lt_of_lt hContext) hSize g)
  obtain ⟨sample, hSample⟩ := exists_splitAt_ok hContext hQuery hRoom hTitle
  exact ⟨sample, by rw [split_of_lt hContext, hSample]⟩

/-- A title that is too long for the frame by itself is refused, whatever is drawn. -/
theorem split_of_title (hContext : 1 < block.sentences.length)
    (hSize : block.sentences.length ≤ UInt64.size) (hRoom : 2 ≤ splitter.frame.length)
    (hTitle : splitter.frame.length < frameOverhead title) :
    (splitter.split block title g).1 =
      .error (.sequenceTooLong (frameOverhead title) splitter.frame.length) := by
  have hQuery := List.getElem?_eq_getElem (Block.drawn_lt (Nat.zero_lt_of_lt hContext) hSize g)
  rw [split_of_lt hContext, splitAt_of_lt hContext hQuery hRoom hTitle]

/-- A failure has nothing to do with what is drawn. -/
theorem split_error_iff {failure : Failure} (hSize : block.sentences.length ≤ UInt64.size)
    (hRoom : 2 ≤ splitter.frame.length) (g other : Generator) :
    (splitter.split block title g).1 = .error failure ↔
      (splitter.split block title other).1 = .error failure := by
  rcases Nat.lt_or_ge 1 block.sentences.length with hContext | hShort
  · rcases Nat.lt_or_ge splitter.frame.length (frameOverhead title) with hOver | hFits
    · rw [split_of_title hContext hSize hRoom hOver, split_of_title hContext hSize hRoom hOver]
    · obtain ⟨sample, hSample⟩ := exists_split_ok hContext hSize hRoom hFits g
      obtain ⟨otherSample, hOther⟩ := exists_split_ok hContext hSize hRoom hFits other
      rw [hSample, hOther]
      constructor <;> intro h <;> cases h
  · rw [split_of_le hShort, split_of_le hShort]

/-- No token is in both parts when the query is taken out, and none is in neither. -/
theorem Pairs.realLength_add
    (h : splitter.Pairs block title query (block.context number false) sample)
    (hQuery : block.sentences[number]? = some query)
    (hWhole : query.length ≤ splitter.frame.length - 2)
    (hRest : (block.context number false).flatten.length ≤
      splitter.frame.length - frameOverhead title) :
    sample.query.realLength + sample.block.realLength =
      block.sentences.flatten.length + (2 + frameOverhead title) := by
  have hTotal : query.length + (block.context number false).flatten.length =
      block.sentences.flatten.length := by
    obtain ⟨hNumber, rfl⟩ := List.getElem?_eq_some_iff.mp hQuery
    conv_rhs => rw [← List.take_append_drop number block.sentences, List.drop_eq_getElem_cons hNumber]
    simp only [Block.context, List.flatten_append, List.flatten_cons, List.length_append,
      Bool.false_eq_true, if_false]
    omega
  rw [h.query_holds.realLength_eq, h.block_holds.realLength_eq, List.take_of_length_le hWhole,
    List.take_of_length_le hRest, ← hTotal]
  show query.length + 2 + _ = _
  omega

/-- Where nothing is cut, the block of a pair is what is before and behind the query. -/
theorem Pairs.payload_eq (h : splitter.Pairs block title query (block.context number false) sample)
    (hQuery : block.sentences[number]? = some query)
    (hFits : frameOverhead title + block.sentences.flatten.length ≤ splitter.frame.length) :
    sample.query.payload none = query
      ∧ sample.block.payload title = (block.sentences.take number).flatten ++
        (block.sentences.drop (number + 1)).flatten := by
  have hContext : (block.context number false).flatten =
      (block.sentences.take number).flatten ++ (block.sentences.drop (number + 1)).flatten :=
    List.flatten_append
  have hLength := congrArg List.length (flatten_eq_append hQuery)
  rw [List.length_append, List.length_append] at hLength
  have hOverhead : 2 ≤ frameOverhead title := by
    cases title with
    | none => exact Nat.le_refl 2
    | some title => simp only [frameOverhead]; omega
  rw [h.query_holds.payload_eq, h.block_holds.payload_eq, hContext]
  constructor
  · exact List.take_of_length_le (by omega)
  · exact List.take_of_length_le (by rw [List.length_append]; omega)

/-- A pair has the sentence that was drawn and the others, or all if it stays. Where nothing is cut
and the sentence is taken out, each token of the block is in one part. At a rate of zero no sentence
ever stays. There is a pair of every block with context, if there is room for the title. -/
theorem pairs_of_split (splitter : Splitter) (block : Block) (title : Option Sentence)
    (g : Generator) :
    (∀ sample, (splitter.split block title g).1 = .ok sample →
      ∃ query, block.sentences[block.drawn g]? = some query
        ∧ splitter.Pairs block title query
          (block.context (block.drawn g) (splitter.keeps block g)) sample
        ∧ (splitter.keeps block g = false → query.length ≤ splitter.frame.length - 2 →
          (block.context (block.drawn g) false).flatten.length ≤
            splitter.frame.length - frameOverhead title →
          sample.query.realLength + sample.block.realLength =
            block.sentences.flatten.length + (2 + frameOverhead title)))
      ∧ ((splitter.keepRate == 0) = true → splitter.keeps block g = false)
      ∧ (1 < block.sentences.length → block.sentences.length ≤ UInt64.size →
        2 ≤ splitter.frame.length → frameOverhead title ≤ splitter.frame.length →
        ∃ sample, (splitter.split block title g).1 = .ok sample) := by
  refine ⟨?_, ?_, ?_⟩
  · intro sample h
    rcases Nat.lt_or_ge 1 block.sentences.length with hContext | hShort
    · rw [split_of_lt hContext] at h
      obtain ⟨query, hQuery, hPairs⟩ := pairs_of_splitAt h
      refine ⟨query, hQuery, hPairs, ?_⟩
      intro hTaken hWhole hRest
      rw [hTaken] at hPairs
      exact hPairs.realLength_add hQuery hWhole hRest
    · rw [split_of_le hShort] at h
      cases h
  · intro hZero
    exact decide_eq_false (Generator.not_unit_lt_of_beq_zero hZero _)
  · intro hContext hSize hRoom hTitle
    exact exists_split_ok hContext hSize hRoom hTitle g

/-- A block that says one sentence twice. When one is taken away the other remains, and so the
sentence is query and part of its context. -/
theorem pairs_of_split_echo :
    (∃ sample, (tiny.split .echo (some [9]) ⟨11⟩).1 = .ok sample)
      ∧ (tiny.split .echo (some [9]) ⟨11⟩).1 = .ok .echo ∧ tiny.keeps .echo ⟨11⟩ = false
      ∧ PairSample.echo.query.realLength + PairSample.echo.block.realLength =
        Block.echo.sentences.flatten.length + (2 + frameOverhead (some [9])) := by
  obtain ⟨hPairs, hKeeps, hSome⟩ := pairs_of_split tiny .echo (some [9]) ⟨11⟩
  have hSplit : (tiny.split .echo (some [9]) ⟨11⟩).1 = .ok .echo := by decide +kernel
  have hTaken : tiny.keeps .echo ⟨11⟩ = false := hKeeps (by decide +kernel)
  obtain ⟨query, hQuery, -, hLength⟩ := hPairs .echo hSplit
  have hFirst : Block.echo.sentences[Block.echo.drawn ⟨11⟩]? = some [5, 6] := by decide +kernel
  rw [hFirst] at hQuery
  cases hQuery
  exact ⟨hSome (by decide) (by decide) (by decide) (by decide), hSplit, hTaken,
    hLength hTaken (by decide) (by decide +kernel)⟩

end Splitter

end Pretext
