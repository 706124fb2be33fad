import Pretext.Frame

/-! When a frame can be filled, and with what. What does not fit is cut off or refused, nothing else is,
and a framed sequence tells what is in it. -/
namespace Pretext

/-- The tokens of a framed sequence that stand between the title, or the opening token if there is
none, and the closing separator. -/
def Framed.payload (framed : Framed) (title : Option Sentence) : List TokenId :=
  (framed.tokens.take (framed.realLength - 1)).drop (frameOverhead title - 1)

namespace Frame

/-- A sequence fills the frame with a payload: what is not taken by the contents is padding, and the
mask tells where it begins. -/
structure Holds (frame : Frame) (payload : List TokenId) (title : Option Sentence)
    (framed : Framed) : Prop where
  tokens_eq : framed.tokens = frame.contents payload title ++
    List.replicate (frame.length - (payload.length + frameOverhead title)) frame.pad
  padMask_eq : framed.padMask = List.replicate (payload.length + frameOverhead title) 1 ++
    List.replicate (frame.length - (payload.length + frameOverhead title)) 0
  length_tokens : framed.tokens.length = frame.length
  length_padMask : framed.padMask.length = frame.length

variable {frame : Frame} {payload more : List TokenId} {title heading : Option Sentence}
  {sentences : List Sentence} {framed : Framed}

theorem Holds.le (h : frame.Holds payload title framed) :
    payload.length + frameOverhead title ≤ frame.length := by
  have hLength := h.length_tokens
  rw [h.tokens_eq, List.length_append, length_contents, List.length_replicate] at hLength
  omega

/-- Nothing else is in a frame. -/
theorem Holds.eq {other : Framed} (h : frame.Holds payload title framed)
    (hOther : frame.Holds payload title other) : framed = other := by
  cases framed
  cases other
  rw [Framed.mk.injEq]
  exact ⟨h.tokens_eq.trans hOther.tokens_eq.symm, h.padMask_eq.trans hOther.padMask_eq.symm⟩

/-- As many positions are not padding as there are tokens to be framed. -/
theorem Holds.realLength_eq (h : frame.Holds payload title framed) :
    framed.realLength = payload.length + frameOverhead title := by
  rw [Framed.realLength, h.padMask_eq, List.countP_append, List.countP_replicate,
    List.countP_replicate]
  rfl

/-- The payload stands before the closing separator, behind all other tokens of the frame. -/
theorem exists_contents_eq (frame : Frame) (payload : List TokenId) (title : Option Sentence) :
    ∃ front : List TokenId, front.length + 1 = frameOverhead title
      ∧ frame.contents payload title = front ++ (payload ++ [frame.sep]) := by
  cases title with
  | none => exact ⟨[frame.cls], rfl, rfl⟩
  | some title =>
      refine ⟨frame.cls :: (title ++ [frame.sep]), ?_, by simp [contents]⟩
      simp only [frameOverhead, List.length_cons, List.length_append, List.length_nil]
      omega

/-- What was framed can be read off again. -/
theorem Holds.payload_eq (h : frame.Holds payload title framed) : framed.payload title = payload := by
  obtain ⟨front, hFront, hContents⟩ := frame.exists_contents_eq payload title
  have hTokens : framed.tokens = (front ++ payload) ++ ([frame.sep] ++
      List.replicate (frame.length - (payload.length + frameOverhead title)) frame.pad) := by
    rw [h.tokens_eq, hContents, List.append_assoc, List.append_assoc, List.append_assoc]
  have hLength : (front ++ payload).length = framed.realLength - 1 := by
    rw [h.realLength_eq, List.length_append]
    omega
  rw [Framed.payload, hTokens, List.take_left' hLength, List.drop_left' (by omega)]

/-- What does not fit is refused, with the lengths that do not go together. -/
theorem fill_of_lt (h : frame.length < payload.length + frameOverhead title) :
    frame.fill payload title =
      .error (.sequenceTooLong (payload.length + frameOverhead title) frame.length) := by
  unfold fill
  rw [if_pos h]

/-- What fits is framed, in the order that the frame has. -/
theorem fill_of_le (h : payload.length + frameOverhead title ≤ frame.length) :
    ∃ framed, frame.fill payload title = .ok framed ∧ frame.Holds payload title framed := by
  unfold fill
  rw [if_neg (Nat.not_lt.mpr h)]
  refine ⟨_, rfl, rfl, rfl, ?_, ?_⟩
  · rw [List.length_append, length_contents, List.length_replicate]
    omega
  · rw [List.length_append, List.length_replicate, List.length_replicate]
    omega

theorem le_of_fill (h : frame.fill payload title = .ok framed) :
    payload.length + frameOverhead title ≤ frame.length := by
  apply Nat.le_of_not_lt
  intro hOver
  rw [fill_of_lt hOver] at h
  cases h

theorem holds_of_fill (h : frame.fill payload title = .ok framed) :
    frame.Holds payload title framed := by
  obtain ⟨other, hOther, hHolds⟩ := fill_of_le (le_of_fill h)
  rw [h] at hOther
  cases hOther
  exact hHolds

/-- What is cut to the room fits if there is a room. -/
theorem fill_take_of_le (frame : Frame) (payload : List TokenId) (title : Option Sentence)
    (h : frameOverhead title ≤ frame.length) :
    ∃ framed, frame.fill (payload.take (frame.room title)) title = .ok framed
      ∧ frame.Holds (payload.take (frame.room title)) title framed := by
  apply fill_of_le
  have hTake : (payload.take (frame.room title)).length ≤ frame.length - frameOverhead title :=
    List.length_take_le ..
  omega

/-- Otherwise nothing is left of the payload, and the title alone is too long. -/
theorem fill_take_of_lt (frame : Frame) (payload : List TokenId) (title : Option Sentence)
    (h : frame.length < frameOverhead title) :
    frame.fill (payload.take (frame.room title)) title =
      .error (.sequenceTooLong (frameOverhead title) frame.length) := by
  have hTake : payload.take (frame.room title) = [] := by
    rw [room, Nat.sub_eq_zero_of_le (Nat.le_of_lt h), List.take_zero]
  have hOver : frame.length < ([] : List TokenId).length + frameOverhead title := by
    rwa [List.length_nil, Nat.zero_add]
  rw [hTake, fill_of_lt hOver, List.length_nil, Nat.zero_add]

/-- Whether a frame can be filled depends on lengths alone. -/
theorem exists_fill_iff :
    (∃ framed, frame.fill payload title = .ok framed) ↔
      payload.length + frameOverhead title ≤ frame.length := by
  constructor
  · rintro ⟨framed, h⟩
    exact le_of_fill h
  · intro h
    obtain ⟨framed, hFill, -⟩ := fill_of_le h
    exact ⟨framed, hFill⟩

/-- Sentences can be framed unless the title alone is too long. -/
theorem exists_fillFrom_iff :
    (∃ framed, frame.fillFrom sentences title = .ok framed) ↔ frameOverhead title ≤ frame.length := by
  constructor
  · rintro ⟨framed, h⟩
    exact Nat.le_of_add_left_le (le_of_fill h)
  · intro h
    obtain ⟨framed, hFill, -⟩ := frame.fill_take_of_le sentences.flatten title h
    exact ⟨framed, hFill⟩

/-- No token is cut off while there is padding left. -/
theorem whole_or_full (h : frame.fillFrom sentences title = .ok framed) :
    ∃ payload, payload <+: sentences.flatten ∧ frame.Holds payload title framed
      ∧ (payload = sentences.flatten ∨ framed.realLength = frame.length) := by
  have hHolds : frame.Holds (sentences.flatten.take (frame.room title)) title framed :=
    holds_of_fill h
  refine ⟨_, List.take_prefix .., hHolds, ?_⟩
  rcases Nat.le_total sentences.flatten.length (frame.room title) with hWhole | hCut
  · exact Or.inl (List.take_of_length_le hWhole)
  · have hRoom : frame.room title + frameOverhead title = frame.length :=
      Nat.sub_add_cancel (Nat.le_of_add_left_le hHolds.le)
    refine Or.inr ?_
    rw [hHolds.realLength_eq, List.length_take_of_le hCut, hRoom]

/-- How much room a title takes depends on its length alone. -/
theorem frameOverhead_congr (h : title.map List.length = heading.map List.length) :
    frameOverhead title = frameOverhead heading := by
  cases title with
  | none => cases heading with
    | none => rfl
    | some text => cases h
  | some text => cases heading with
    | none => cases h
    | some other => exact congrArg (3 + ·) (Option.some.inj h)

/-- The same tokens with a title of the same length have the same title and the same payload. -/
theorem contents_inj (hTitle : title.map List.length = heading.map List.length)
    (h : frame.contents payload title = frame.contents more heading) :
    title = heading ∧ payload = more := by
  cases title with
  | none => cases heading with
    | none => exact ⟨rfl, by simpa [contents] using h⟩
    | some text => cases hTitle
  | some text => cases heading with
    | none => cases hTitle
    | some other =>
        obtain ⟨rfl, hRest⟩ := List.append_inj (List.cons.inj h).2 (Option.some.inj hTitle)
        exact ⟨rfl, List.append_cancel_right (List.cons.inj hRest).2⟩

/-- The mask tells where the padding begins, whatever the tokens are. -/
theorem Holds.inj (h : frame.Holds payload title framed) (hMore : frame.Holds more heading framed)
    (hTitle : title.map List.length = heading.map List.length) : title = heading ∧ payload = more := by
  have hOverhead := frameOverhead_congr hTitle
  have hLength : payload.length + frameOverhead title = more.length + frameOverhead heading :=
    h.realLength_eq.symm.trans hMore.realLength_eq
  have hTokens := h.tokens_eq.symm.trans hMore.tokens_eq
  rw [hLength] at hTokens
  exact contents_inj hTitle (List.append_cancel_right hTokens)

/-- Sentences are framed unless the title alone is too long, and then either whole or to the end of
the frame. A payload is framed if it fits. Where the length of the title is known, a framed sequence
can come from one title and one payload only. -/
theorem fill_exact_injective (frame : Frame) :
    (∀ (sentences : List Sentence) (title : Option Sentence),
      ((∃ framed, frame.fillFrom sentences title = .ok framed) ↔ frameOverhead title ≤ frame.length)
      ∧ ∀ framed, frame.fillFrom sentences title = .ok framed →
        ∃ payload, payload <+: sentences.flatten ∧ frame.Holds payload title framed
          ∧ (payload = sentences.flatten ∨ framed.realLength = frame.length))
    ∧ (∀ (payload : List TokenId) (title : Option Sentence),
      ((∃ framed, frame.fill payload title = .ok framed) ↔
        payload.length + frameOverhead title ≤ frame.length)
      ∧ ∀ framed, frame.fill payload title = .ok framed →
        framed.realLength = payload.length + frameOverhead title)
    ∧ ∀ (payload more : List TokenId) (title heading : Option Sentence) (framed : Framed),
      title.map List.length = heading.map List.length →
      frame.fill payload title = .ok framed → frame.fill more heading = .ok framed →
      title = heading ∧ payload = more := by
  refine ⟨?_, ?_, ?_⟩
  · intro sentences title
    exact ⟨exists_fillFrom_iff, fun framed h => whole_or_full h⟩
  · intro payload title
    exact ⟨exists_fill_iff, fun framed h => (holds_of_fill h).realLength_eq⟩
  · intro payload more title heading framed hTitle h hMore
    exact (holds_of_fill h).inj (holds_of_fill hMore) hTitle

/-- The title is the separator, padding is in the payload, and the third token is in the second
sentence, of which the rest is cut off. -/
theorem fill_exact_injective_cut :
    let frame : Frame := ⟨2, 3, 0, 7⟩
    let framed : Framed := ⟨[2, 3, 3, 5, 0, 3, 3], [1, 1, 1, 1, 1, 1, 1]⟩
    frame.fillFrom [[5, 0], [3, 2, 7]] (some [3]) = .ok framed
      ∧ framed.realLength = 7
      ∧ ∀ more title, frame.fill more (some [title]) = .ok framed → title = 3 ∧ more = [5, 0, 3] := by
  intro frame framed
  obtain ⟨hFrom, -, hInj⟩ := fill_exact_injective frame
  have hFramed : frame.fillFrom [[5, 0], [3, 2, 7]] (some [3]) = .ok framed := rfl
  refine ⟨hFramed, ?_, ?_⟩
  · obtain ⟨payload, -, hHolds, rfl | hFull⟩ := (hFrom [[5, 0], [3, 2, 7]] (some [3])).2 framed hFramed
    · exact absurd hHolds.le (by decide)
    · exact hFull
  · intro more title hMore
    obtain ⟨hTitle, hPayload⟩ :=
      hInj more [5, 0, 3] (some [title]) (some [3]) framed rfl hMore hFramed
    exact ⟨by simpa using hTitle, hPayload⟩

end Frame

end Pretext
