/-!
# Blank characters

A field counts as filled in only when it holds something besides white space. White space here is
the Unicode property `White_Space`: twenty-five characters, six of them ASCII controls or the
space. `isBlankText` asks whether a text has none but these, and `dropBlanks` drops them from the
front of a text that is being read.
-/

namespace SiteRouter.Text

/-- Every character with the Unicode property `White_Space`. -/
def blanks : List Char :=
  ['\t', '\n', '\x0b', '\x0c', '\r', ' ', '\u0085', '\u00a0', '\u1680',
   '\u2000', '\u2001', '\u2002', '\u2003', '\u2004', '\u2005', '\u2006', '\u2007', '\u2008',
   '\u2009', '\u200a', '\u2028', '\u2029', '\u202f', '\u205f', '\u3000']

/-- Is the character white space? -/
def isBlank (c : Char) : Bool := blanks.contains c

/-- Does the text hold nothing but white space? The empty text does. -/
def isBlankText (s : String) : Bool := s.toList.all isBlank

/-- The text from its first character that is not white space. -/
def dropBlanks (cs : List Char) : List Char := cs.dropWhile isBlank

/-- There are twenty-five white space characters, all different. -/
example : blanks.length = 25 ∧ blanks.Nodup := by decide

end SiteRouter.Text
