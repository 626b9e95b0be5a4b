import CopyFormat.Idna.Mapping
import CopyFormat.Idna.Punycode
import CopyFormat.Unicode.BidiClass
import CopyFormat.Unicode.JoiningType
import CopyFormat.Unicode.Normalization

/-!
Labels of domains: which of them are valid, and how they are written in ASCII.
-/

namespace CopyFormat.Idna

open CopyFormat.Unicode

/-- What the ASCII form of a label starts with that has other characters. -/
def mark : Text := Text.lit "xn--"

def isAscii (t : Text) : Bool := t.all fun c => c.toNat < 0x80

def joiner : Char := '\u200d'

def nonJoiner : Char := '\u200c'

/-- Whether the first character that a join does not pass over is in a set. -/
def meets (s : CharSet) (t : Text) : Bool :=
  (t.dropWhile JoiningType.transparent.contains).head?.any s.contains

/-- Whether a joiner or its counterpart may stand between the reversed text before it and the text
behind it. -/
def mayStand (c : Char) (before behind : Text) : Bool :=
  before.head?.any (fun d => CombiningClass.of d == CombiningClass.virama) ||
    (c == nonJoiner && meets (JoiningType.dual.union JoiningType.left) before &&
      meets (JoiningType.dual.union JoiningType.right) behind)

/-- Whether every joiner in a text stands where it may, behind the reversed text `before`. -/
def joinersStand (before : Text) : Text → Bool
  | [] => true
  | c :: r =>
      (if c = joiner ∨ c = nonJoiner then mayStand c before r else true) &&
        joinersStand (c :: before) r

/-- The sets of characters that no label starts with. -/
def markSet : CharSet := GeneralCategory.charSetOf GeneralCategory.marks

/-- Whether a label is valid, apart from the direction of its characters. -/
def isValidLabel (label : Text) : Bool :=
  !mark.isPrefixOf label && !label.contains '.' && !label.head?.any markSet.contains &&
    label.all isKept && Normalization.composed label == label && joinersStand [] label

/-! ### Directions -/

/-- The classes of characters that make a domain one with two directions. -/
def rightToLeftClasses : List BidiClass := [.rightToLeft, .arabicLetter, .arabicNumber]

def commonClasses : List BidiClass :=
  [.europeanNumber, .europeanSeparator, .commonSeparator, .europeanTerminator, .otherNeutral,
    .boundaryNeutral, .nonspacingMark]

def lastClass? (classes : List BidiClass) : Option BidiClass :=
  (classes.reverse.dropWhile (· == .nonspacingMark)).head?

/-- Whether the characters of a label fit together in a domain with two directions. -/
def directionsFit (label : Text) : Bool :=
  let classes := label.map BidiClass.of
  match classes.head? with
  | none => true
  | some .leftToRight =>
      classes.all (fun k => k == .leftToRight || commonClasses.contains k) &&
        (lastClass? classes).any [.leftToRight, .europeanNumber].contains
  | some first =>
      (first == .rightToLeft || first == .arabicLetter) &&
        classes.all (fun k => rightToLeftClasses.contains k || commonClasses.contains k) &&
        (lastClass? classes).any (.europeanNumber :: rightToLeftClasses).contains &&
        !(classes.contains .europeanNumber && classes.contains .arabicNumber)

/-- Whether a text has characters that are written from right to left. -/
def hasRightToLeft (t : Text) : Bool := t.any fun c => rightToLeftClasses.contains (.of c)

/-! ### Two forms -/

/-- A label as it is shown, and as it is written in ASCII. -/
structure Label where
  shown : Text
  ascii : Text

/-- The label that a mapped text writes. -/
def Label.of? (t : Text) : Option Label :=
  match Text.after? mark t with
  | some code => do
      let shown ← Punycode.decode? code
      if isAscii shown || !isValidLabel shown then none
      return { shown, ascii := t }
  | none =>
      if !isValidLabel t then none
      else if isAscii t then some { shown := t, ascii := t }
      else some { shown := t, ascii := mark ++ Punycode.encode t }

end CopyFormat.Idna
