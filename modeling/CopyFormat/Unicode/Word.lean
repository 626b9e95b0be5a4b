import CopyFormat.Unicode.Binary

/-!
Word characters in the sense of Unicode: alphabetic characters, marks, decimal digits, connector
punctuation and join controls.
-/

namespace CopyFormat.Unicode

/-- The word characters. -/
def wordSet : CharSet :=
  .unions [Binary.alphabetic, Binary.joinControl,
    GeneralCategory.charSetOf
      (.decimalNumber :: .connectorPunctuation :: GeneralCategory.marks)]

/-- Whether a character counts to a word in ASCII: a letter, a digit or `_`. -/
def isAsciiWord (c : Char) : Bool := c.isAlphanum || c == '_'

def isWord (c : Char) : Bool := if c.toNat < 128 then isAsciiWord c else wordSet.contains c

def digitSet : CharSet := GeneralCategory.charSet .decimalNumber

def alphanumericSet : CharSet :=
  Binary.alphabetic.union (GeneralCategory.charSetOf GeneralCategory.numbers)

end CopyFormat.Unicode
