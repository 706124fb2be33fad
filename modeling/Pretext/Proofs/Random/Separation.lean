import Pretext.Proofs.InverseCloze.Pair
import Pretext.Proofs.Masked.Sample

/-! What is drawn has no say in failures, and failures none in what is drawn. Masked samples are refused
before anything is drawn. Pairs are framed afterwards, but whether there is room for both parts does
not depend on the sentence that was drawn. -/
namespace Pretext

/-- Why there is no result, if there is none. -/
def refusal? {α : Type} : Except Failure α → Option Failure
  | .ok _ => none
  | .error failure => some failure

namespace Generator

variable {range bound : Nat}

/-- Where the bound is beyond the range, the first draw stays two below it, and the carry adds one. -/
theorem scaled_lt_of_lt {draw : Generator → Nat × Generator} (hRange : range < bound)
    (hDraw : ∀ g, (draw g).1 < range) (g : Generator) : (scaled range bound draw g).1 < bound := by
  have hHigh : (draw g).1 * bound / range + 1 < bound := by
    have hFirst : ((draw g).1 + 1) * bound ≤ range * bound := Nat.mul_le_mul_right _ (hDraw g)
    have hDiv : range * ((draw g).1 * bound / range) ≤ (draw g).1 * bound := Nat.mul_div_le ..
    rw [Nat.add_mul, Nat.one_mul] at hFirst
    apply @Nat.lt_of_mul_lt_mul_left range
    rw [Nat.mul_add, Nat.mul_one]
    omega
  simp only [scaled]
  split
  · exact Nat.lt_of_succ_lt hHigh
  · split
    · exact hHigh
    · exact Nat.lt_of_succ_lt hHigh

/-- A bound above all words is kept as well. -/
theorem below_lt_of_size_lt (hBound : UInt64.size < bound) (g : Generator) :
    (g.below bound).1 < bound := by
  have hLarge : ¬ bound < UInt32.size := by
    rw [UInt64.size] at hBound
    rw [UInt32.size]
    omega
  rw [below, if_neg hLarge]
  exact scaled_lt_of_lt hBound (fun g => g.next.1.toNat_lt) g

end Generator

/-- The sentence that is drawn is one of the block, however many there are. -/
theorem Block.drawn_lt_length {block : Block} (hContext : 1 < block.sentences.length) (g : Generator) :
    block.drawn g < block.sentences.length := by
  rcases Nat.lt_or_ge UInt64.size block.sentences.length with hOver | hSize
  · exact Generator.below_lt_of_size_lt hOver g
  · exact Block.drawn_lt (Nat.zero_lt_of_lt hContext) hSize g

namespace Splitter

variable {splitter : Splitter} {block : Block} {title : Option Sentence} {number : Nat} {keep : Bool}
  {query : Sentence}

/-- Why there is no room for a pair: the query is framed first, and needs no title. -/
def obstacle? (splitter : Splitter) (title : Option Sentence) : Option Failure :=
  if splitter.frame.length < 2 then some (.sequenceTooLong 2 splitter.frame.length)
  else if splitter.frame.length < frameOverhead title then
    some (.sequenceTooLong (frameOverhead title) splitter.frame.length)
  else none

/-- A frame without room for the two tokens of its own is refused, whatever the sentence is. -/
theorem splitAt_of_narrow (hContext : 1 < block.sentences.length)
    (hQuery : block.sentences[number]? = some query) (hNarrow : splitter.frame.length < 2) :
    splitter.splitAt block title number keep =
      .error (.sequenceTooLong 2 splitter.frame.length) := by
  rw [splitAt_eq hContext hQuery, Frame.fill_take_of_lt _ _ none hNarrow]
  rfl

/-- Every sentence of a block is refused for the same reason, whether or not it stays in the block. -/
theorem refusal?_splitAt (hContext : 1 < block.sentences.length)
    (hNumber : number < block.sentences.length) :
    refusal? (splitter.splitAt block title number keep) = splitter.obstacle? title := by
  have hQuery := List.getElem?_eq_getElem hNumber
  unfold obstacle?
  split
  · rename_i hNarrow
    rw [splitAt_of_narrow hContext hQuery hNarrow]
    rfl
  · rename_i hNarrow
    have hRoom := Nat.not_lt.mp hNarrow
    split
    · rename_i hTitle
      rw [splitAt_of_lt hContext hQuery hRoom hTitle]
      rfl
    · rename_i hTitle
      obtain ⟨sample, hSample⟩ : ∃ sample, splitter.splitAt block title number keep = .ok sample :=
        exists_splitAt_ok hContext hQuery hRoom (Nat.not_lt.mp hTitle)
      rw [hSample]
      rfl

/-- Whether a block with context is split is known before anything is drawn. -/
theorem refusal?_split (hContext : 1 < block.sentences.length) (g : Generator) :
    refusal? (splitter.split block title g).1 = splitter.obstacle? title := by
  rw [split_of_lt hContext]
  exact refusal?_splitAt hContext (Block.drawn_lt_length hContext g)

/-- A number and a fraction are drawn for every block with context, even if no pair comes of it. -/
theorem split_generator (hContext : 1 < block.sentences.length) (g : Generator) :
    (splitter.split block title g).2 = (g.below block.sentences.length).2.unit.2 := by
  rw [split, Block.requireContext_of_lt hContext]

/-- Only a block without context is too short, and nothing is drawn for it. -/
theorem split_generator_of_short {start stop : UInt64} {sentences : Nat} {g : Generator}
    (h : (splitter.split block title g).1 = .error (.blockTooShort start stop sentences)) :
    (splitter.split block title g).2 = g := by
  rcases Nat.lt_or_ge 1 block.sentences.length with hContext | hShort
  · have hObstacle : refusal? (splitter.split block title g).1 = splitter.obstacle? title :=
      refusal?_split hContext g
    rw [h] at hObstacle
    unfold obstacle? at hObstacle
    split at hObstacle
    · cases hObstacle
    · split at hObstacle <;> cases hObstacle
  · rw [split_of_le hShort]

end Splitter

/-- A sample is refused if its plan is, and for the same reason. -/
theorem Masker.refusal?_build (masker : Masker) (block : Block) (g : Generator) :
    refusal? (masker.build block g).1 = refusal? (masker.plan block) := by
  unfold build
  cases masker.plan block <;> rfl

/-- Nothing is drawn for a sample that is refused. -/
theorem Masker.build_generator_of_error {masker : Masker} {block : Block} {g : Generator}
    {failure : Failure} (h : (masker.build block g).1 = .error failure) :
    (masker.build block g).2 = g := by
  rw [build_error_iff] at h
  rw [build, h]

/-- Whether there is a sample, and why there is none, is the same for all generators. A generator is as
it was after a masked sample was refused, and after a pair was for want of context. Any other block is
drawn from alike, whatever its sentences are and whether or not a pair comes of it: the generator that
is left depends on the one before and on the number of sentences. -/
theorem refusals_apart_from_draws :
    (∀ (masker : Masker) (block : Block) (g other : Generator),
      refusal? (masker.build block g).1 = refusal? (masker.build block other).1
        ∧ ∀ failure, (masker.build block g).1 = .error failure → (masker.build block g).2 = g)
    ∧ ∀ (splitter : Splitter) (block : Block) (title : Option Sentence) (g other : Generator),
      refusal? (splitter.split block title g).1 = refusal? (splitter.split block title other).1
        ∧ (∀ start stop sentences,
          (splitter.split block title g).1 = .error (.blockTooShort start stop sentences) →
          (splitter.split block title g).2 = g)
        ∧ (1 < block.sentences.length →
          (splitter.split block title g).2 = (g.below block.sentences.length).2.unit.2) := by
  refine ⟨?_, ?_⟩
  · intro masker block g other
    refine ⟨?_, fun failure => Masker.build_generator_of_error⟩
    rw [Masker.refusal?_build, Masker.refusal?_build]
  · intro splitter block title g other
    refine ⟨?_, fun _ _ _ => Splitter.split_generator_of_short,
      fun hContext => Splitter.split_generator hContext g⟩
    rcases Nat.lt_or_ge 1 block.sentences.length with hContext | hShort
    · rw [Splitter.refusal?_split hContext, Splitter.refusal?_split hContext]
    · rw [Splitter.split_of_le hShort, Splitter.split_of_le hShort]

/-- A frame without room for its own tokens, a block of one sentence, and a title that fills the frame.
The last is noticed when as much has been drawn as for a pair without a title. -/
theorem refusals_apart_from_draws_crowded :
    let masker : Masker := { Masker.tiny with length := 1 }
    let title : Sentence := [9, 9, 9, 9, 9, 9, 9, 9]
    let alone := Block.ofSentences ⟨3, 4, 1, 7⟩ [[5, 6]]
    (masker.build .tiny ⟨10⟩).1 = .error (.sequenceTooLong 2 1) ∧ (masker.build .tiny ⟨10⟩).2 = ⟨10⟩
      ∧ (Splitter.tiny.split alone title ⟨11⟩).1 = .error (.blockTooShort 3 4 1)
      ∧ (Splitter.tiny.split alone title ⟨11⟩).2 = ⟨11⟩
      ∧ refusal? (Splitter.tiny.split .echo title ⟨11⟩).1 = some (.sequenceTooLong 11 10)
      ∧ refusal? (Splitter.tiny.split .echo title ⟨12⟩).1 = some (.sequenceTooLong 11 10)
      ∧ (Splitter.tiny.split .echo title ⟨11⟩).2 = (Splitter.tiny.split .echo none ⟨11⟩).2 := by
  intro masker title alone
  obtain ⟨hMasked, hPairs⟩ := refusals_apart_from_draws
  have hNarrow : (masker.build .tiny ⟨10⟩).1 = .error (.sequenceTooLong 2 1) := rfl
  have hShort : (Splitter.tiny.split alone title ⟨11⟩).1 = .error (.blockTooShort 3 4 1) := rfl
  have hCrowded : refusal? (Splitter.tiny.split .echo title ⟨11⟩).1 = some (.sequenceTooLong 11 10) := by
    decide +kernel
  obtain ⟨hSame, -, hTitled⟩ := hPairs .tiny .echo title ⟨11⟩ ⟨12⟩
  obtain ⟨-, -, hUntitled⟩ := hPairs .tiny .echo none ⟨11⟩ ⟨11⟩
  refine ⟨hNarrow, (hMasked masker .tiny ⟨10⟩ ⟨10⟩).2 _ hNarrow, hShort,
    (hPairs .tiny alone title ⟨11⟩ ⟨11⟩).2.1 3 4 1 hShort, hCrowded, hSame ▸ hCrowded, ?_⟩
  rw [hTitled (by decide), hUntitled (by decide)]

end Pretext
