import Pretext.Proofs.Vocabulary.Decoding
import Pretext.Proofs.Word.Segmentation

/-! The words that a text shows and the words that tokens are grouped into. They are the same unless a
piece is spelled as the mark alone: that is a word of its own, but a text does not show it. -/
namespace Pretext

variable {surface : String} {pieces rest : List String} {words : List (List String)}

/-- The spelling of a continuation without the mark in front. -/
def unmarked (surface : String) : String := String.ofList (surface.toList.drop continuationMark.length)

/-- A word of a text: a space, the first piece as it is spelled, and the other pieces without their
marks. -/
def wordText : List String → String
  | [] => ""
  | first :: rest => " " ++ first ++ String.join (rest.map unmarked)

theorem joinedPiece_of_continuation (h : isContinuation surface = true) :
    joinedPiece surface = unmarked surface := by
  obtain ⟨part, -, hSurface⟩ := isContinuation_iff.mp h
  obtain rfl : surface = String.ofList (continuationMark ++ part) := by
    rw [← hSurface, String.ofList_toList]
  rw [joinedPiece_continuation, unmarked, String.toList_ofList, List.drop_left]

theorem joinedPiece_of_not_continuation (h : isContinuation surface = false) (hMark : surface ≠ "##") :
    joinedPiece surface = " " ++ surface := by
  unfold joinedPiece
  split
  · rename_i rest hSurface
    cases rest with
    | nil => exact absurd (String.toList_inj.mp hSurface) hMark
    | cons c rest =>
        have hSome : isContinuation surface = true :=
          isContinuation_iff.mpr ⟨c :: rest, List.cons_ne_nil _ _, hSurface⟩
        rw [h] at hSome
        cases hSome
  · rfl

/-- Continuations are joined without anything between them. -/
theorem joinPieces_of_continuations (h : ∀ piece ∈ rest, isContinuation piece = true) :
    joinPieces rest = String.join (rest.map unmarked) := by
  induction rest with
  | nil => rfl
  | cons piece rest ih =>
      obtain ⟨hPiece, hRest⟩ := List.forall_mem_cons.mp h
      rw [joinPieces, joinedPiece_of_continuation hPiece, ih hRest, List.map_cons, String.join_cons]

/-- The pieces of one word: only the first does not continue it. -/
def OneWord (pieces : List String) : Prop :=
  ∃ first rest, pieces = first :: rest ∧ isContinuation first = false
    ∧ ∀ piece ∈ rest, isContinuation piece = true

namespace OneWord

/-- The mark alone is no continuation, so that it can only be the first piece. -/
private theorem mark_not_mem (h : ∀ piece ∈ rest, isContinuation piece = true) : "##" ∉ rest := by
  intro hMem
  have hMark := h _ hMem
  cases hMark

/-- The text of one word is the word, unless one of its pieces is the mark alone. -/
theorem joinPieces_eq (h : OneWord pieces) (hMark : "##" ∉ pieces) :
    joinPieces pieces = wordText pieces := by
  obtain ⟨first, rest, rfl, hFirst, hRest⟩ := h
  have hOther : first ≠ "##" := fun hEq => hMark (hEq ▸ List.mem_cons_self)
  rw [joinPieces, joinedPiece_of_not_continuation hFirst hOther, joinPieces_of_continuations hRest,
    wordText]

/-- Every piece that is the mark alone takes three characters from the text of a word. -/
theorem length_wordText (h : OneWord pieces) :
    (wordText pieces).length = (joinPieces pieces).length + 3 * pieces.count "##" := by
  by_cases hMark : "##" ∈ pieces
  · obtain ⟨first, rest, rfl, hFirst, hRest⟩ := h
    have hNone := mark_not_mem hRest
    obtain rfl : first = "##" := by
      rcases List.mem_cons.mp hMark with hEq | hMem
      · exact hEq.symm
      · exact absurd hMem hNone
    rw [joinPieces, joinPieces_of_continuations hRest, wordText, List.count_cons_self,
      List.count_eq_zero_of_not_mem hNone]
    simp only [String.length_append]
    have hNothing : (joinedPiece "##").length = 0 := by decide
    have hSpelled : " ".length + "##".length = 3 := by decide
    omega
  · rw [h.joinPieces_eq hMark, List.count_eq_zero_of_not_mem hMark, Nat.mul_zero, Nat.add_zero]

end OneWord

theorem length_join_words (h : ∀ pieces ∈ words, OneWord pieces) :
    (String.join (words.map wordText)).length =
      (joinPieces words.flatten).length + 3 * words.flatten.count "##" := by
  induction words with
  | nil => rfl
  | cons pieces words ih =>
      obtain ⟨hPieces, hWords⟩ := List.forall_mem_cons.mp h
      have hFirst := hPieces.length_wordText
      have hRest := ih hWords
      simp only [List.map_cons, String.join_cons, String.length_append, List.flatten_cons,
        joinPieces_append, List.count_append]
      omega

/-- Pieces are joined to the words they make up, unless one of them is the mark alone. -/
theorem joinPieces_eq_join_words_iff (h : ∀ pieces ∈ words, OneWord pieces) :
    joinPieces words.flatten = String.join (words.map wordText) ↔ "##" ∉ words.flatten := by
  constructor
  · intro hText
    have hLength := length_join_words h
    rw [← hText] at hLength
    exact List.count_eq_zero.mp (by omega)
  · intro hMark
    induction words with
    | nil => rfl
    | cons pieces words ih =>
        obtain ⟨hPieces, hWords⟩ := List.forall_mem_cons.mp h
        rw [List.flatten_cons, List.mem_append, not_or] at hMark
        rw [List.flatten_cons, joinPieces_append, hPieces.joinPieces_eq hMark.1, ih hWords hMark.2,
          List.map_cons, String.join_cons]

namespace Vocabulary

variable {vocabulary : Vocabulary} {ids : List TokenId} {id : TokenId}

/-- The token is spelled, and is neither padding nor an opening token. -/
structure Visible (vocabulary : Vocabulary) (id : TokenId) : Prop where
  isSome_surface : (vocabulary.surface? id).isSome
  ne_pad : id ≠ vocabulary.special.pad
  ne_cls : id ≠ vocabulary.special.cls

theorem Visible.isShown (h : vocabulary.Visible id) : vocabulary.isShown false id = true := by
  simp [Vocabulary.isShown, h.ne_pad, h.ne_cls]

/-- Where all tokens are visible their text is that of their surfaces. -/
theorem decode_of_visible (h : ∀ id ∈ ids, vocabulary.Visible id) :
    vocabulary.decode ids false = joinPieces (vocabulary.surfaces ids) := by
  have hShown : ids.filter (vocabulary.isShown false) = ids :=
    List.filter_eq_self.mpr fun id hId => (h id hId).isShown
  rw [decode, hShown]
  rfl

theorem Visible.isContinuation_surface (h : vocabulary.Visible id) :
    isContinuation ((vocabulary.surface? id).getD vocabulary.unknownSurface) =
      vocabulary.continues id := by
  obtain ⟨surface, hSurface⟩ := Option.isSome_iff_exists.mp h.isSome_surface
  rw [continues_of_surface hSurface, hSurface, Option.getD_some]

/-- The surfaces of tokens that are grouped into one word are those of one word. -/
theorem oneWord_surfaces (hVisible : ∀ id ∈ ids, vocabulary.Visible id)
    (hJoined : vocabulary.Joined ids) (hBegins : vocabulary.Begins ids) :
    OneWord (vocabulary.surfaces ids) := by
  obtain ⟨id, more, rfl⟩ := List.exists_cons_of_ne_nil hJoined.1
  obtain ⟨hId, hMore⟩ := List.forall_mem_cons.mp hVisible
  refine ⟨_, vocabulary.surfaces more, rfl, ?_, List.forall_mem_map.mpr fun next hNext => ?_⟩
  · rw [hId.isContinuation_surface]
    simpa [Begins] using hBegins
  · rw [(hMore next hNext).isContinuation_surface]
    exact hJoined.2 next hNext

/-- The mark alone is among the surfaces if it is the surface of one of the tokens. -/
theorem mark_mem_surfaces_iff (hVisible : ∀ id ∈ ids, vocabulary.Visible id) :
    "##" ∈ vocabulary.surfaces ids ↔ ∃ id ∈ ids, vocabulary.surface? id = some "##" := by
  rw [surfaces, List.mem_map]
  refine exists_congr fun id => and_congr_right fun hId => ?_
  obtain ⟨surface, hSurface⟩ := Option.isSome_iff_exists.mp (hVisible id hId).isSome_surface
  rw [hSurface, Option.getD_some, Option.some_inj]

section

variable {groups : List (List TokenId)}

/-- Groups of tokens, one after the other, are found again by grouping their tokens. -/
theorem map_groups_flatten {α : Type} (hJoined : ∀ group ∈ groups, vocabulary.Joined group)
    (hTail : ∀ group ∈ groups.tail, vocabulary.Begins group) (f : List TokenId → α) :
    (vocabulary.groups groups.flatten).map (fun span => f (span.slice groups.flatten)) =
      groups.map f := by
  have hSlices := congrArg (List.map f) (map_slice_groups hJoined hTail)
  rwa [List.map_map] at hSlices

theorem forall_begins_of_flatten (hJoined : ∀ group ∈ groups, vocabulary.Joined group)
    (hTail : ∀ group ∈ groups.tail, vocabulary.Begins group)
    (hBegins : vocabulary.Begins groups.flatten) : ∀ group ∈ groups, vocabulary.Begins group := by
  cases groups with
  | nil => simp
  | cons group groups =>
      obtain ⟨id, more, rfl⟩ := List.exists_cons_of_ne_nil (hJoined group List.mem_cons_self).1
      exact List.forall_mem_cons.mpr ⟨hBegins, hTail⟩

end

/-- A text shows the words that its tokens are grouped into, unless the mark alone is one of them. -/
theorem decode_eq_join_words_iff (hVisible : ∀ id ∈ ids, vocabulary.Visible id)
    (hBegins : vocabulary.Begins ids) :
    vocabulary.decode ids false =
        String.join ((vocabulary.groups ids).map fun span =>
          wordText (vocabulary.surfaces (span.slice ids)))
      ↔ ∀ id ∈ ids, vocabulary.surface? id ≠ some "##" := by
  obtain ⟨groups, rfl, hJoined, hTail⟩ := vocabulary.exists_eq_flatten ids
  have hAll := forall_begins_of_flatten hJoined hTail hBegins
  have hWords : ∀ pieces ∈ groups.map vocabulary.surfaces, OneWord pieces :=
    List.forall_mem_map.mpr fun group hGroup => oneWord_surfaces
      (fun id hId => hVisible id (List.mem_flatten_of_mem hGroup hId)) (hJoined group hGroup)
      (hAll group hGroup)
  have hShown := map_groups_flatten hJoined hTail (wordText ∘ vocabulary.surfaces)
  have hSurfaces : vocabulary.surfaces groups.flatten = (groups.map vocabulary.surfaces).flatten :=
    List.map_flatten
  simp only [Function.comp_apply, ← List.map_map] at hShown
  rw [decode_of_visible hVisible, hShown, hSurfaces, joinPieces_eq_join_words_iff hWords,
    ← hSurfaces, mark_mem_surfaces_iff hVisible]
  simp

private theorem length_groupsAfter_append (word : Span) (rest : List TokenId) (id : TokenId) :
    (vocabulary.groupsAfter word (rest ++ [id])).length =
      (vocabulary.groupsAfter word rest).length + if vocabulary.continues id then 0 else 1 := by
  induction rest generalizing word with
  | nil => cases hId : vocabulary.continues id <;> simp [groupsAfter, hId]
  | cons next rest ih =>
      cases hNext : vocabulary.continues next with
      | true => simp [groupsAfter, hNext, ih]
      | false => simp [groupsAfter, hNext, ih, Nat.add_right_comm]

/-- A token behind others makes a word of its own unless it continues one. -/
theorem length_groups_append (hIds : ids ≠ []) (id : TokenId) :
    (vocabulary.groups (ids ++ [id])).length =
      (vocabulary.groups ids).length + if vocabulary.continues id then 0 else 1 := by
  obtain ⟨first, rest, rfl⟩ := List.exists_cons_of_ne_nil hIds
  exact length_groupsAfter_append ⟨0, 1⟩ rest id

/-- A token behind others is shown as it is grouped: behind a space and as it is spelled if it begins a
word, and without its mark if it continues one. -/
structure ShownAsGrouped (vocabulary : Vocabulary) (ids : List TokenId) (id : TokenId)
    (surface : String) : Prop where
  apart : (vocabulary.groups (ids ++ [id])).length = (vocabulary.groups ids).length + 1 →
    vocabulary.decode (ids ++ [id]) false = vocabulary.decode ids false ++ " " ++ surface
  joined : (vocabulary.groups (ids ++ [id])).length = (vocabulary.groups ids).length →
    ∃ part, surface = String.ofList (continuationMark ++ part)
      ∧ vocabulary.decode (ids ++ [id]) false = vocabulary.decode ids false ++ String.ofList part

/-- One more visible token adds its own piece to the text. -/
theorem decode_append_visible (hId : vocabulary.Visible id)
    (hSurface : vocabulary.surface? id = some surface) (ids : List TokenId) :
    vocabulary.decode (ids ++ [id]) false = vocabulary.decode ids false ++ joinedPiece surface := by
  have hVisible : ∀ other ∈ [id], vocabulary.Visible other := by simpa using hId
  rw [decode_append, decode_of_visible hVisible]
  simp [surfaces, hSurface, joinPieces]

/-- A token is shown as it is grouped unless it is the mark alone. -/
theorem shownAsGrouped_iff (hIds : ids ≠ []) (hId : vocabulary.Visible id)
    (hSurface : vocabulary.surface? id = some surface) :
    vocabulary.ShownAsGrouped ids id surface ↔ surface ≠ "##" := by
  have hGroups := vocabulary.length_groups_append hIds id
  rw [continues_of_surface hSurface] at hGroups
  have hText := decode_append_visible hId hSurface ids
  cases hContinues : isContinuation surface with
  | true =>
      rw [hContinues, if_pos rfl, Nat.add_zero] at hGroups
      obtain ⟨part, -, hPart⟩ := isContinuation_iff.mp hContinues
      have hSurface : surface = String.ofList (continuationMark ++ part) := by
        rw [← hPart, String.ofList_toList]
      have hOther : surface ≠ "##" := by
        rintro rfl
        cases hContinues
      refine iff_of_true ⟨fun hApart => ?_, fun _ => ⟨part, hSurface, ?_⟩⟩ hOther
      · omega
      · rw [hText, hSurface, joinedPiece_continuation]
  | false =>
      rw [hContinues, if_neg Bool.false_ne_true] at hGroups
      refine ⟨fun hShown => ?_, fun hOther => ⟨fun _ => ?_, fun hJoined => ?_⟩⟩
      · rintro rfl
        have hLength := congrArg String.length (hText.symm.trans (hShown.apart hGroups))
        have hNothing : (joinedPiece "##").length = 0 := by decide
        have hSpace : 0 < " ".length := by decide
        simp only [String.length_append] at hLength
        omega
      · rw [hText, joinedPiece_of_not_continuation hContinues hOther, String.append_assoc]
      · omega

/-- The words of a text are the words its tokens are grouped into, token by token and as a whole, save
where a piece is the mark alone. -/
theorem words_shown_iff (vocabulary : Vocabulary) :
    (∀ (ids : List TokenId) (id : TokenId) (surface : String), ids ≠ [] →
      vocabulary.Visible id → vocabulary.surface? id = some surface →
      (vocabulary.ShownAsGrouped ids id surface ↔ surface ≠ "##"))
    ∧ ∀ ids : List TokenId, (∀ id ∈ ids, vocabulary.Visible id) → vocabulary.Begins ids →
      (vocabulary.decode ids false =
          String.join ((vocabulary.groups ids).map fun span =>
            wordText (vocabulary.surfaces (span.slice ids)))
        ↔ ∀ id ∈ ids, vocabulary.surface? id ≠ some "##") :=
  ⟨fun _ _ _ hIds hId hSurface => shownAsGrouped_iff hIds hId hSurface,
    fun _ hVisible hBegins => decode_eq_join_words_iff hVisible hBegins⟩

/-- Some of its pieces are made of marks only. -/
def hashes : Vocabulary :=
  .ofTable ["[PAD]", "[UNK]", "[CLS]", "[SEP]", "[MASK]", "a", "##", "####", ""] ⟨2, 3, 4, 0, 1⟩

/-- Two marks in a row continue a word, and a piece that is spelled as nothing begins one. -/
theorem words_shown_hashes :
    [5] ≠ ([] : List TokenId) ∧ hashes.Visible 7 ∧ hashes.surface? 7 = some "####"
      ∧ hashes.ShownAsGrouped [5] 7 "####"
      ∧ (∀ id ∈ [5, 7, 8], hashes.Visible id) ∧ hashes.Begins [5, 7, 8]
      ∧ hashes.decode [5, 7, 8] false =
        String.join ((hashes.groups [5, 7, 8]).map fun span =>
          wordText (hashes.surfaces (span.slice [5, 7, 8]))) := by
  have hPieces : ∀ id ∈ [5, 7, 8], hashes.Visible id ∧ hashes.surface? id ≠ some "##" := by
    intro id hId
    simp only [List.mem_cons, List.not_mem_nil, or_false] at hId
    rcases hId with rfl | rfl | rfl <;> exact ⟨⟨rfl, by decide, by decide⟩, by decide⟩
  have hVisible : ∀ id ∈ [5, 7, 8], hashes.Visible id := fun id hId => (hPieces id hId).1
  have hOne : [5] ≠ ([] : List TokenId) := List.cons_ne_nil _ _
  obtain ⟨hTokens, hTexts⟩ := words_shown_iff hashes
  refine ⟨hOne, hVisible 7 (by simp), rfl, ?_, hVisible, rfl, ?_⟩
  · exact (hTokens [5] 7 "####" hOne (hVisible 7 (by simp)) rfl).mpr (by decide)
  · exact (hTexts [5, 7, 8] hVisible rfl).mpr fun id hId => (hPieces id hId).2

/-- The mark alone is a word of its own, of which the text shows nothing, not even a space. -/
theorem mark_not_shown :
    hashes.Visible 5 ∧ hashes.Visible 6 ∧ hashes.surface? 6 = some "##"
      ∧ (hashes.groups ([5] ++ [6])).length = (hashes.groups [5]).length + 1
      ∧ hashes.decode ([5] ++ [6]) false ≠ hashes.decode [5] false ++ " " ++ "##" :=
  ⟨⟨rfl, by decide, by decide⟩, ⟨rfl, by decide, by decide⟩, rfl, rfl, by decide⟩

end Vocabulary

end Pretext
