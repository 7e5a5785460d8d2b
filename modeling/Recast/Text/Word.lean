/-!
# Words

The names of shapes, fields, enums, enum members and table aliases. A *word* is a letter or underscore
followed by letters, digits and underscores, all of them ASCII: it needs no quoting in a path, in a
catalogue or in a query.
-/

namespace Recast.Text

/-- A character that may start a word. -/
def isWordStart (c : Char) : Bool := c.isAlpha || c = '_'

/-- A character that may stand anywhere in a word. -/
def isWordChar (c : Char) : Bool := c.isAlphanum || c = '_'

/-- The text is one word: not empty, starting with a letter or underscore, and made of word characters. -/
def isWord (text : String) : Bool :=
  match text.toList with
  | [] => false
  | c :: rest => isWordStart c && rest.all isWordChar

theorem isWordChar_of_isWordStart {c : Char} (h : isWordStart c = true) : isWordChar c = true := by
  simp only [isWordStart, isWordChar, Char.isAlphanum, Bool.or_eq_true] at *
  exact h.imp_left .inl

theorem all_isWordChar_of_isWord {text : String} (h : isWord text = true) :
    text.toList.all isWordChar = true := by
  unfold isWord at h
  split at h
  · contradiction
  · simp_all [isWordChar_of_isWordStart]

/-- A character that no word has stands in no word. -/
theorem notMem_of_isWord {text : String} {c : Char} (h : isWord text = true)
    (hc : isWordChar c = false) : c ∉ text.toList := by
  intro hmem
  rw [List.all_eq_true.1 (all_isWordChar_of_isWord h) c hmem] at hc
  contradiction

end Recast.Text
