/-! # Blank characters

    The blank characters of a text are those with the Unicode property `White_Space`:
    the five controls from tab to carriage return, the space, next line, no-break space,
    ogham space mark, the spaces from en quad to hair space, the line and paragraph
    separators, narrow no-break space, medium mathematical space and ideographic space.
    Trimming, splitting into words and the emptiness checks of ids and names all use
    this one class.

    * `isBlank_of_isWhitespace`: the ASCII class of core is part of it;
    * `trim` removes blank characters from both ends. -/

namespace Tabula.Text

/-- Whether a character has the Unicode property `White_Space`. -/
def isBlank (c : Char) : Bool :=
  let n := c.toNat
  (0x09 ≤ n && n ≤ 0x0D) || n == 0x20 || n == 0x85 || n == 0xA0 || n == 0x1680
    || (0x2000 ≤ n && n ≤ 0x200A) || n == 0x2028 || n == 0x2029 || n == 0x202F
    || n == 0x205F || n == 0x3000

/-- Every character that core counts as whitespace is blank. -/
theorem isBlank_of_isWhitespace (c : Char) (h : c.isWhitespace = true) :
    isBlank c = true := by
  simp only [Char.isWhitespace, Bool.or_eq_true, decide_eq_true_eq] at h
  simp only [isBlank, Bool.or_eq_true, Bool.and_eq_true, decide_eq_true_eq, beq_iff_eq]
  rcases h with ((h | h) | h) | h <;> subst h <;> decide

/-- A list of characters with blank characters removed from both ends. -/
def trimChars (cs : List Char) : List Char :=
  ((cs.dropWhile isBlank).reverse.dropWhile isBlank).reverse

/-- A text with blank characters removed from both ends. -/
def trim (s : String) : String :=
  String.ofList (trimChars s.toList)

/-- Whether a text is empty or holds blank characters only. -/
def isBlankText (s : String) : Bool :=
  s.toList.all isBlank

end Tabula.Text
