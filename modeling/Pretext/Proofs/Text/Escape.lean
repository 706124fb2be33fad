import Pretext.Text.Encoding

/-! Escaped texts. Of all texts that differ in their backslashes only, one is escaped, and escaping
finds it. -/
namespace Pretext.Text

/-- A text of plain characters, and of reserved ones with a backslash before each. -/
inductive Escaped : List Char → Prop where
  | nil : Escaped []
  | plain {c : Char} {rest : List Char} (hBackslash : c ≠ '\\') (hReserved : isReserved c = false)
      (more : Escaped rest) : Escaped (c :: rest)
  | pair {c : Char} {rest : List Char} (hReserved : isReserved c = true) (more : Escaped rest) :
      Escaped ('\\' :: c :: rest)

/-- Each reserved character has a backslash right before it, and each backslash a reserved character
right behind it. -/
structure Guarded (chars : List Char) : Prop where
  before_reserved : ∀ before c behind, chars = before ++ c :: behind → isReserved c = true →
    before.getLast? = some '\\'
  behind_backslash : ∀ before behind, chars = before ++ '\\' :: behind →
    ∃ c, behind.head? = some c ∧ isReserved c = true

/-- The characters that are no backslashes. -/
def bare (chars : List Char) : List Char :=
  chars.filter (· != '\\')

variable {c : Char} {chars others rest : List Char}

theorem ne_backslash_of_isReserved (h : isReserved c = true) : c ≠ '\\' := by
  rintro rfl
  exact absurd h (by decide)

@[simp] theorem bare_backslash (rest : List Char) : bare ('\\' :: rest) = bare rest :=
  rfl

theorem bare_cons (h : c ≠ '\\') (rest : List Char) : bare (c :: rest) = c :: bare rest :=
  List.filter_cons_of_pos (bne_iff_ne.mpr h)

@[simp] theorem escapeChars_backslash (rest : List Char) :
    escapeChars ('\\' :: rest) = escapeChars rest :=
  rfl

theorem escapeChars_reserved (h : isReserved c = true) (rest : List Char) :
    escapeChars (c :: rest) = '\\' :: c :: escapeChars rest := by
  rw [escapeChars, if_neg (ne_backslash_of_isReserved h), if_pos h]

theorem escapeChars_plain (hBackslash : c ≠ '\\') (hReserved : isReserved c = false)
    (rest : List Char) : escapeChars (c :: rest) = c :: escapeChars rest := by
  rw [escapeChars, if_neg hBackslash, if_neg (ne_true_of_eq_false hReserved)]

/-- Whatever was escaped has the form of an escaped text. -/
theorem escaped_escapeChars (chars : List Char) : Escaped (escapeChars chars) := by
  fun_induction escapeChars chars with
  | case1 => exact .nil
  | case2 rest ih => exact ih
  | case3 c rest hBackslash hReserved ih => exact .pair hReserved ih
  | case4 c rest hBackslash hReserved ih =>
      exact .plain hBackslash (eq_false_of_ne_true hReserved) ih

/-- Escaping changes nothing but backslashes. -/
theorem bare_escapeChars (chars : List Char) : bare (escapeChars chars) = bare chars := by
  fun_induction escapeChars chars with
  | case1 => rfl
  | case2 rest ih => rw [ih, bare_backslash]
  | case3 c rest hBackslash hReserved ih =>
      rw [bare_backslash, bare_cons hBackslash, bare_cons hBackslash, ih]
  | case4 c rest hBackslash hReserved ih => rw [bare_cons hBackslash, bare_cons hBackslash, ih]

/-- The backslashes of a text have no say in how it is escaped. -/
theorem escapeChars_bare (chars : List Char) : escapeChars (bare chars) = escapeChars chars := by
  induction chars with
  | nil => rfl
  | cons c rest ih =>
      by_cases hBackslash : c = '\\'
      · rw [hBackslash, bare_backslash, ih, escapeChars_backslash]
      · rw [bare_cons hBackslash, escapeChars, escapeChars, ih]

theorem Escaped.escapeChars_eq (h : Escaped chars) : escapeChars chars = chars := by
  induction h with
  | nil => rfl
  | plain hBackslash hReserved more ih => rw [escapeChars_plain hBackslash hReserved, ih]
  | pair hReserved more ih => rw [escapeChars_backslash, escapeChars_reserved hReserved, ih]

theorem escapeChars_eq_self_iff : escapeChars chars = chars ↔ Escaped chars := by
  constructor
  · intro h
    rw [← h]
    exact escaped_escapeChars chars
  · exact Escaped.escapeChars_eq

/-- Texts are escaped alike if they are the same without their backslashes. -/
theorem escapeChars_eq_iff : escapeChars chars = escapeChars others ↔ bare chars = bare others := by
  constructor
  · intro h
    rw [← bare_escapeChars chars, h, bare_escapeChars]
  · intro h
    rw [← escapeChars_bare chars, h, escapeChars_bare]

theorem Escaped.append (h : Escaped chars) (hRest : Escaped rest) : Escaped (chars ++ rest) := by
  induction h with
  | nil => exact hRest
  | plain hBackslash hReserved more ih => exact .plain hBackslash hReserved ih
  | pair hReserved more ih => exact .pair hReserved ih

private theorem getLast?_cons_of_some {before : List Char} (first : Char)
    (h : before.getLast? = some c) : (first :: before).getLast? = some c := by
  rw [List.getLast?_cons, h, Option.getD_some]

theorem Guarded.cons_plain (hBackslash : c ≠ '\\') (hReserved : isReserved c = false)
    (h : Guarded rest) : Guarded (c :: rest) := by
  constructor
  · intro before d behind hChars hIs
    rcases List.cons_eq_append_iff.mp hChars with ⟨rfl, hHead⟩ | ⟨front, rfl, hRest⟩
    · rw [(List.cons.inj hHead).1, hReserved] at hIs
      cases hIs
    · exact getLast?_cons_of_some c (h.before_reserved front d behind hRest hIs)
  · intro before behind hChars
    rcases List.cons_eq_append_iff.mp hChars with ⟨rfl, hHead⟩ | ⟨front, rfl, hRest⟩
    · exact absurd (List.cons.inj hHead).1.symm hBackslash
    · exact h.behind_backslash front behind hRest

theorem Guarded.cons_pair (hReserved : isReserved c = true) (h : Guarded rest) :
    Guarded ('\\' :: c :: rest) := by
  have hBackslash := ne_backslash_of_isReserved hReserved
  constructor
  · intro before d behind hChars hIs
    rcases List.cons_eq_append_iff.mp hChars with ⟨rfl, hHead⟩ | ⟨front, rfl, hRest⟩
    · exact absurd (List.cons.inj hHead).1 (ne_backslash_of_isReserved hIs)
    · rcases List.cons_eq_append_iff.mp hRest with ⟨rfl, -⟩ | ⟨more, rfl, hMore⟩
      · rfl
      · have hLast := h.before_reserved more d behind hMore hIs
        exact getLast?_cons_of_some _ (getLast?_cons_of_some _ hLast)
  · intro before behind hChars
    rcases List.cons_eq_append_iff.mp hChars with ⟨rfl, hHead⟩ | ⟨front, rfl, hRest⟩
    · exact ⟨c, by rw [(List.cons.inj hHead).2, List.head?_cons], hReserved⟩
    · rcases List.cons_eq_append_iff.mp hRest with ⟨rfl, hHead⟩ | ⟨more, rfl, hMore⟩
      · exact absurd (List.cons.inj hHead).1.symm hBackslash
      · exact h.behind_backslash more behind hMore

/-- In an escaped text every reserved character has a backslash before it. -/
theorem Escaped.guarded (h : Escaped chars) : Guarded chars := by
  induction h with
  | nil => exact ⟨by simp, by simp⟩
  | plain hBackslash hReserved more ih => exact ih.cons_plain hBackslash hReserved
  | pair hReserved more ih => exact ih.cons_pair hReserved

theorem escaped_escape (text : String) : Escaped (escape text).toList := by
  rw [escape, String.toList_ofList]
  exact escaped_escapeChars text.toList

theorem escape_eq_self_iff {text : String} : escape text = text ↔ Escaped text.toList := by
  rw [← escapeChars_eq_self_iff, escape, ← String.toList_inj, String.toList_ofList]

/-- Escaping is a normal form for texts up to their backslashes. It gives an escaped text with the same
characters, leaves the escaped texts alone and no others, and tells apart exactly what differs in more
than backslashes. -/
theorem escape_normal_form (text : String) :
    Escaped (escape text).toList
      ∧ bare (escape text).toList = bare text.toList
      ∧ (escape text = text ↔ Escaped text.toList)
      ∧ escape (escape text) = escape text
      ∧ ∀ other, escape text = escape other ↔ bare text.toList = bare other.toList := by
  refine ⟨escaped_escape text, ?_, escape_eq_self_iff, ?_, ?_⟩
  · rw [escape, String.toList_ofList, bare_escapeChars]
  · exact escape_eq_self_iff.mpr (escaped_escape text)
  · intro other
    rw [← escapeChars_eq_iff, escape, escape, String.ofList_inj]

/-- A backslash at the end, two in a row and one before a plain character are all dropped. -/
example : escape "a\\b(\\\\+\\" = "ab\\(\\+" := by decide

end Pretext.Text
