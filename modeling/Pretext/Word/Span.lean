import Pretext.Vocabulary.Basic

/-! Consecutive positions of a sequence, and the words of a sentence as such positions, as the marks of its
pieces tell them. -/
namespace Pretext

/-- The positions from `start` up to, but not including, `stop`. -/
structure Span where
  start : Nat
  stop : Nat
deriving DecidableEq

namespace Span

/-- The number of positions. -/
def length (span : Span) : Nat := span.stop - span.start

/-- The positions in order. -/
def positions (span : Span) : List Nat := List.range' span.start span.length

/-- The span of as many positions, `offset` further on. -/
def shift (span : Span) (offset : Nat) : Span := ⟨span.start + offset, span.stop + offset⟩

/-- The positions before `limit`. -/
def clip (span : Span) (limit : Nat) : Span := ⟨span.start, min span.stop limit⟩

/-- Whether there is no position at all. -/
def isEmpty (span : Span) : Bool := span.stop ≤ span.start

/-- Whether spans, none of which is empty, follow each other without a gap from `first` up to
`last`. -/
def Tile (first last : Nat) : List Span → Prop
  | [] => first = last
  | span :: rest => span.start = first ∧ first < span.stop ∧ Tile span.stop last rest

theorem mem_positions {span : Span} {position : Nat} :
    position ∈ span.positions ↔ span.start ≤ position ∧ position < span.stop := by
  simp only [positions, length, List.mem_range'_1]
  omega

@[simp] theorem length_positions (span : Span) : span.positions.length = span.length := by
  simp [positions]

/-- Spans that tile a range have its positions in order. -/
theorem Tile.positions_eq {first last : Nat} {spans : List Span} (h : Tile first last spans) :
    spans.flatMap positions = List.range' first (last - first) := by
  induction spans generalizing first with
  | nil =>
    simp only [Tile] at h
    simp [h]
  | cons span rest ih =>
    obtain ⟨hStart, hLt, hRest⟩ := h
    have hLe : span.stop ≤ last := by
      clear ih hStart hLt
      induction rest generalizing span with
      | nil => exact Nat.le_of_eq hRest
      | cons next rest ih =>
        obtain ⟨_, hNext, hRest⟩ := hRest
        exact Nat.le_trans (Nat.le_of_lt hNext) (ih next hRest)
    rw [List.flatMap_cons, ih hRest, positions, length, hStart]
    have hSplit : last - first = (span.stop - first) + (last - span.stop) := by omega
    rw [hSplit, ← List.range'_append_1]
    congr 2
    omega

end Span

namespace Vocabulary

/-- The words of the rest of a sentence, of which `word` has begun and ends before that rest. -/
def groupsAfter (vocabulary : Vocabulary) (word : Span) : Sentence → List Span
  | [] => [word]
  | id :: rest =>
    if vocabulary.continues id then groupsAfter vocabulary ⟨word.start, word.stop + 1⟩ rest
    else word :: groupsAfter vocabulary ⟨word.stop, word.stop + 1⟩ rest

/-- The words of a sentence. Every piece that continues a word belongs to the word before it, save
that the first piece always begins a word. -/
def groups (vocabulary : Vocabulary) : Sentence → List Span
  | [] => []
  | _ :: rest => groupsAfter vocabulary ⟨0, 1⟩ rest

theorem tile_groupsAfter (vocabulary : Vocabulary) (word : Span) (rest : Sentence)
    (h : word.start < word.stop) :
    Span.Tile word.start (word.stop + rest.length) (groupsAfter vocabulary word rest) := by
  induction rest generalizing word with
  | nil => exact ⟨rfl, h, rfl⟩
  | cons id rest ih =>
    unfold groupsAfter
    have hLength : word.stop + (id :: rest).length = word.stop + 1 + rest.length := by
      simp only [List.length_cons]
      omega
    rw [hLength]
    split
    · exact ih ⟨word.start, word.stop + 1⟩ (Nat.lt_succ_of_lt h)
    · exact ⟨rfl, h, ih ⟨word.stop, word.stop + 1⟩ (Nat.lt_succ_self _)⟩

/-- Every token of a sentence belongs to one word, and the words are in order. -/
theorem tile_groups (vocabulary : Vocabulary) (sentence : Sentence) :
    Span.Tile 0 sentence.length (vocabulary.groups sentence) := by
  cases sentence with
  | nil => rfl
  | cons id rest =>
    have h := tile_groupsAfter vocabulary ⟨0, 1⟩ rest (by decide)
    rwa [List.length_cons, Nat.add_comm]

end Vocabulary

end Pretext
