import CryptoProvider.Bytes

/-!
Splitting a text in two at the first occurrence of a mark. What comes before the mark does not hold
it (`not_mem_of_splitAtFirst`), and the parts with the mark between them are the text
(`eq_append_of_splitAtFirst`).
-/

set_option autoImplicit false

namespace CryptoProvider.Text

-- What stands before and after the first `mark`; `none` if there is none.
def splitAtFirst (mark : Char) : List Char → Option (List Char × List Char)
  | [] => none
  | c :: rest =>
    if c = mark then some ([], rest)
    else (splitAtFirst mark rest).map fun parts => (c :: parts.1, parts.2)

theorem splitAtFirst_eq_none_iff (mark : Char) (text : List Char) :
    splitAtFirst mark text = none ↔ mark ∉ text := by
  induction text with
  | nil => simp [splitAtFirst]
  | cons c rest ih =>
    by_cases h : c = mark
    · simp [splitAtFirst, h]
    · simp [splitAtFirst, h, Ne.symm h, ih]

theorem eq_append_of_splitAtFirst (mark : Char) (text before after : List Char)
    (h : splitAtFirst mark text = some (before, after)) :
    text = before ++ mark :: after ∧ mark ∉ before := by
  induction text generalizing before with
  | nil => simp [splitAtFirst] at h
  | cons c rest ih =>
    by_cases hc : c = mark
    · simp only [splitAtFirst, hc, if_true, Option.some.injEq, Prod.mk.injEq] at h
      obtain ⟨rfl, rfl⟩ := h
      simp [hc]
    · simp only [splitAtFirst, hc, if_false, Option.map_eq_some_iff] at h
      obtain ⟨parts, hp, he⟩ := h
      obtain ⟨first, second⟩ := parts
      simp only [Prod.mk.injEq] at he
      obtain ⟨rfl, rfl⟩ := he
      obtain ⟨heq, hmem⟩ := ih first hp
      exact ⟨by simp [heq], by simp [hmem, Ne.symm hc]⟩

theorem splitAtFirst_append (mark : Char) (before after : List Char) (h : mark ∉ before) :
    splitAtFirst mark (before ++ mark :: after) = some (before, after) := by
  induction before with
  | nil => simp [splitAtFirst]
  | cons c rest ih =>
    simp only [List.mem_cons, not_or] at h
    simp [splitAtFirst, Ne.symm h.1, ih h.2]

-- Whether a text is the lower-case `word`, whatever the case of its ASCII letters.
def equalsIgnoringCase (text word : String) : Bool :=
  text.toList.map Char.toLower == word.toList

end CryptoProvider.Text
