import Pretext.Text.Words

/-! What the words of a text look like, whatever is done to it before it is cut. Texts are cut independently
of each other where a blank is between them, and words that are written one after the other, with a space
before each, are found again. -/
namespace Pretext.Text

/-- A word holds no blank, and punctuation only if it is that one character. -/
structure IsWord (word : List Char) : Prop where
  ne_nil : word ≠ []
  not_blank : ∀ c ∈ word, Unicode.isBlank c = false
  alone : word.length = 1 ∨ ∀ c ∈ word, Unicode.isPunctuation c = false

variable {blank alone : Char → Bool} {text word collected : List Char}

private theorem mem_of_mem_closeWord {c : Char} (h : word ∈ closeWord collected) (hc : c ∈ word) :
    c ∈ collected := by
  rw [closeWord] at h
  split at h
  · cases h
  · rw [List.mem_singleton.mp h] at hc
    exact List.mem_reverse.mp hc

/-- A word is a single character that is no blank, or has neither blanks nor characters that stand
alone. -/
theorem single_or_of_mem_splitFrom
    (hCollected : ∀ c ∈ collected, blank c = false ∧ alone c = false)
    (h : word ∈ splitFrom blank alone collected text) :
    (∃ c, word = [c] ∧ blank c = false) ∨ ∀ c ∈ word, blank c = false ∧ alone c = false := by
  have hClosed {collected : List Char} (hCollected : ∀ c ∈ collected, blank c = false ∧ alone c = false)
      (hWord : word ∈ closeWord collected) : ∀ c ∈ word, blank c = false ∧ alone c = false :=
    fun c hc => hCollected c (mem_of_mem_closeWord hWord hc)
  induction text generalizing collected with
  | nil => exact Or.inr (hClosed hCollected h)
  | cons c rest ih =>
      rw [splitFrom] at h
      by_cases hBlank : blank c = true
      · rw [if_pos hBlank] at h
        rcases List.mem_append.mp h with h | h
        · exact Or.inr (hClosed hCollected h)
        · exact ih (by simp) h
      · rw [if_neg hBlank] at h
        by_cases hAlone : alone c = true
        · rw [if_pos hAlone] at h
          rcases List.mem_append.mp h with h | h
          · exact Or.inr (hClosed hCollected h)
          · rcases List.mem_cons.mp h with h | h
            · exact Or.inl ⟨c, h, by simpa using hBlank⟩
            · exact ih (by simp) h
        · rw [if_neg hAlone] at h
          refine ih ?_ h
          exact List.forall_mem_cons.mpr ⟨⟨by simpa using hBlank, by simpa using hAlone⟩, hCollected⟩

/-- The words of a text are words. -/
theorem isWord_of_mem_words {lowerCase : Bool} (h : word ∈ words lowerCase text) : IsWord word := by
  have hNeNil : word ≠ [] := ne_nil_of_mem_splitFrom h
  rcases single_or_of_mem_splitFrom (by simp) h with ⟨c, rfl, hBlank⟩ | hAll
  · exact ⟨hNeNil, by simpa using hBlank, Or.inl rfl⟩
  · exact ⟨hNeNil, fun c hc => (hAll c hc).1, Or.inr fun c hc => (hAll c hc).2⟩

theorem IsWord.ne_space {c : Char} (h : IsWord word) (hc : c ∈ word) : c ≠ ' ' := by
  have hSpace : Unicode.isBlank ' ' = true := rfl
  rintro rfl
  rw [h.not_blank ' ' hc] at hSpace
  cases hSpace

/-- A word is one in whatever order its characters stand. -/
theorem IsWord.perm {other : List Char} (h : IsWord word) (hPerm : other.Perm word) : IsWord other := by
  refine ⟨?_, ?_, ?_⟩
  · rintro rfl
    exact h.ne_nil hPerm.nil_eq.symm
  · exact fun c hc => h.not_blank c (hPerm.mem_iff.mp hc)
  · rw [hPerm.length_eq]
    exact h.alone.imp id fun hNone c hc => hNone c (hPerm.mem_iff.mp hc)

/-- Where a punctuation character begins a word, the word is that character. -/
theorem IsWord.eq_singleton {c : Char} {rest : List Char} (h : IsWord (c :: rest))
    (hPunctuation : Unicode.isPunctuation c = true) : rest = [] := by
  rcases h.alone with hLength | hNone
  · exact List.length_eq_zero_iff.mp (by simpa using hLength)
  · rw [hNone c (List.mem_cons_self ..)] at hPunctuation
    cases hPunctuation

variable {c : Char} {rest : List Char} {words : List (List Char)} {cut : List Char → List (List Char)}

/-- What is before a blank is cut without regard to what is behind it. -/
theorem splitFrom_append_blank (hBlank : blank c = true) :
    splitFrom blank alone collected (text ++ c :: rest) =
      splitFrom blank alone collected text ++ splitWords blank alone rest := by
  induction text generalizing collected with
  | nil => exact if_pos hBlank
  | cons d text ih =>
      rw [List.cons_append, splitFrom, splitFrom]
      split
      · rw [ih, List.append_assoc]
      · split
        · rw [ih, List.append_assoc, List.cons_append]
        · exact ih

/-- Nothing is in a word that is not in the text. -/
theorem flatten_splitFrom_sublist (text collected : List Char) :
    (splitFrom blank alone collected text).flatten.Sublist (collected.reverse ++ text) := by
  have hClosed : ∀ collected : List Char, (closeWord collected).flatten = collected.reverse := by
    intro collected
    cases collected with
    | nil => rfl
    | cons d collected => simp [closeWord]
  induction text generalizing collected with
  | nil => simp [splitFrom, hClosed]
  | cons d text ih =>
      have hRest : (splitFrom blank alone [] text).flatten.Sublist text := ih []
      rw [splitFrom]
      split
      · rw [List.flatten_append, hClosed]
        exact (List.Sublist.refl _).append (hRest.cons d)
      · split
        · rw [List.flatten_append, hClosed, List.flatten_cons]
          exact (List.Sublist.refl _).append (hRest.cons_cons d)
        · have hNext := ih (d :: collected)
          rwa [List.reverse_cons, List.append_assoc] at hNext

theorem sublist_of_mem_splitWords (h : word ∈ splitWords blank alone text) : word.Sublist text :=
  (List.sublist_flatten_of_mem h).trans (flatten_splitFrom_sublist text [])

/-- A text that is a word already: no blank is in it, and nothing that stands alone beside others. -/
structure Uncut (blank alone : Char → Bool) (word : List Char) : Prop where
  ne_nil : word ≠ []
  not_blank : ∀ c ∈ word, blank c = false
  alone : word.length = 1 ∨ ∀ c ∈ word, alone c = false

private theorem splitFrom_of_plain (h : ∀ c ∈ text, blank c = false ∧ alone c = false) :
    splitFrom blank alone collected text = closeWord (text.reverse ++ collected) := by
  induction text generalizing collected with
  | nil => rfl
  | cons c rest ih =>
      obtain ⟨⟨hBlank, hAlone⟩, hRest⟩ := List.forall_mem_cons.mp h
      rw [splitFrom, if_neg (ne_true_of_eq_false hBlank), if_neg (ne_true_of_eq_false hAlone),
        ih hRest, List.reverse_cons, List.append_assoc]
      rfl

/-- A word is its own only word. -/
theorem splitWords_of_uncut (h : Uncut blank alone word) : splitWords blank alone word = [word] := by
  have hPlain : (∀ c ∈ word, alone c = false) → splitWords blank alone word = [word] := by
    intro hAlone
    rw [splitWords, splitFrom_of_plain fun c hc => ⟨h.not_blank c hc, hAlone c hc⟩, closeWord]
    simp [h.ne_nil]
  rcases h.alone with hLength | hAlone
  · obtain ⟨c, rfl⟩ := List.length_eq_one_iff.mp hLength
    by_cases hAlone : alone c = true
    · have hBlank : blank c = false := h.not_blank c (List.mem_singleton_self c)
      rw [splitWords, splitFrom, if_neg (ne_true_of_eq_false hBlank), if_pos hAlone]
      rfl
    · exact hPlain fun d hd => by rw [List.mem_singleton.mp hd]; exact eq_false_of_ne_true hAlone
  · exact hPlain hAlone

/-- A way to cut texts that cuts them at each space. -/
structure Separates (cut : List Char → List (List Char)) : Prop where
  nil : cut [] = []
  append : ∀ before after, cut (before ++ ' ' :: after) = cut before ++ cut after

theorem separates_splitWords (alone : Char → Bool) (hBlank : blank ' ' = true) :
    Separates (splitWords blank alone) :=
  ⟨rfl, fun _ _ => splitFrom_append_blank hBlank⟩

/-- Some words one after the other, each of them behind a space. -/
def spelled (words : List (List Char)) : List Char := words.flatMap (' ' :: ·)

/-- Words that are spelled behind a text are cut apart from it and from each other. -/
theorem Separates.cut_spelled (h : Separates cut) (before : List Char) (words : List (List Char)) :
    cut (before ++ spelled words) = cut before ++ words.flatMap cut := by
  induction words generalizing before with
  | nil => simp [spelled]
  | cons word rest ih =>
      have hSpelled : spelled (word :: rest) = ' ' :: (word ++ spelled rest) := by
        rw [spelled, List.flatMap_cons, List.cons_append, spelled]
      rw [hSpelled, h.append, ih word, List.flatMap_cons]

theorem Separates.spelled_eq (h : Separates cut) (words : List (List Char)) :
    cut (spelled words) = words.flatMap cut := by
  rw [← List.nil_append (spelled words), h.cut_spelled, h.nil, List.nil_append]

/-- Words that are spelled are found again. -/
theorem splitWords_spelled (hBlank : blank ' ' = true) (h : ∀ word ∈ words, Uncut blank alone word) :
    splitWords blank alone (spelled words) = words := by
  rw [(separates_splitWords alone hBlank).spelled_eq]
  induction words with
  | nil => rfl
  | cons word rest ih =>
      obtain ⟨hWord, hRest⟩ := List.forall_mem_cons.mp h
      rw [List.flatMap_cons, splitWords_of_uncut hWord, ih hRest, List.singleton_append]

/-- The words of a text can be told from it if none has a space in it. -/
theorem spelled_injective {others : List (List Char)}
    (hWords : ∀ word ∈ words, word ≠ [] ∧ ' ' ∉ word)
    (hOthers : ∀ word ∈ others, word ≠ [] ∧ ' ' ∉ word)
    (h : spelled words = spelled others) : words = others := by
  have hUncut : ∀ {word : List Char}, word ≠ [] ∧ ' ' ∉ word →
      Uncut (· == ' ') (fun _ => false) word := by
    rintro word ⟨hNe, hSpace⟩
    exact ⟨hNe, fun c hc => beq_eq_false_iff_ne.mpr fun hEq => hSpace (hEq ▸ hc),
      Or.inr fun _ _ => rfl⟩
  have hCut : splitWords (· == ' ') (fun _ => false) (spelled words) = words :=
    splitWords_spelled rfl fun word hWord => hUncut (hWords word hWord)
  rw [← hCut, h, splitWords_spelled rfl fun word hWord => hUncut (hOthers word hWord)]

end Pretext.Text
