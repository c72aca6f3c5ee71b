/-
**Characters of documents.**

A document consists of characters that can be seen, blanks and line ends.  Line ends have been
reduced to single characters before a document is read; the next-line character and the two
separators of Unicode end lines as well.

Main definitions:

* `Yaml.isAllowed` — the characters that a document may hold;
* `Yaml.isBreak`, `Yaml.isGap` — the ends of lines, and what separates tokens;
* `Yaml.isWordChar`, `Yaml.isUriChar` — the characters of names and of tags.

Main results:

* `Yaml.isGap_of_isBreak` — a line end separates tokens.
-/

set_option autoImplicit false

namespace ElementLookup.Yaml

/-- The characters that a document may hold. -/
def isAllowed (c : Char) : Bool :=
  let n := c.toNat
  c = '\t' || c = '\n' || c = '\r' || (0x20 ≤ n && n ≤ 0x7E) || n = 0x85
    || (0xA0 ≤ n && n ≤ 0xFFFD) || 0x10000 ≤ n

/-- The characters that end a line. -/
def isBreak (c : Char) : Bool :=
  c = '\n' || c = '\x85' || c = '\u2028' || c = '\u2029'

/-- A blank, a tabulator or the end of a line. -/
def isGap (c : Char) : Bool :=
  c = ' ' || c = '\t' || isBreak c

theorem isGap_of_isBreak {c : Char} (h : isBreak c = true) : isGap c = true := by
  simp [isGap, h]

/-- A blank or the end of a line, but no tabulator. -/
def isSpaceOrBreak (c : Char) : Bool :=
  c = ' ' || isBreak c

/-- The characters of anchors and of directives' names. -/
def isWordChar (c : Char) : Bool :=
  c.isAlphanum || c = '-' || c = '_'

/-- The characters of tags. -/
def isUriChar (c : Char) : Bool :=
  c.isAlphanum || c ∈ "-;/?:@&=+$,_.!~*'()[]%".toList

/-- Whether the character is absent or of a class: the end of the text counts as any class. -/
def endOr (p : Char → Bool) (c : Option Char) : Bool :=
  c.all p

/-- The byte order mark, which takes no room on a line. -/
def byteOrderMark : Char := '\ufeff'

end ElementLookup.Yaml
