import CopyFormat.Text.Basic

/-!
Paths as lists of segments. The segments `.` and `..`, in which the dots may be in percent coding,
are resolved while the path is read. A drive letter, such as `C:`, is never left by `..`.
-/

namespace CopyFormat.Url

/-- A segment with every `%2e`, in either case, written as a dot. -/
def plainDots : Text → Text
  | '%' :: '2' :: 'e' :: r | '%' :: '2' :: 'E' :: r => '.' :: plainDots r
  | c :: r => c :: plainDots r
  | [] => []

def isSingleDot (segment : Text) : Bool := plainDots segment == ['.']

def isDoubleDot (segment : Text) : Bool := plainDots segment == ['.', '.']

/-- Whether a segment is a drive letter: a letter and a colon or a bar. -/
def isDriveLetter : Text → Bool
  | [c, d] => c.isAlpha && (d == ':' || d == '|')
  | _ => false

/-- Whether a segment is a drive letter as far as its first backslash. -/
def startsWithDriveLetter (segment : Text) : Bool := isDriveLetter (segment.takeWhile (· ≠ '\\'))

/-- The path above another; both are kept in reverse. -/
def parent : List Text → List Text
  | [] => []
  | d :: ds => if startsWithDriveLetter d then d :: ds else ds

/-- A segment as it is put into a path. At the start of the path of a file, a drive letter gets a
colon. -/
def placed (file : Bool) (above : List Text) (segment : Text) : Text :=
  if file && above.isEmpty && isDriveLetter segment then segment.take 1 ++ [':'] else segment

/-- Resolves segments below the path `above`, which is kept in reverse. A path that ends with a
dotted segment ends with an empty one. -/
def resolveFrom (file : Bool) (above : List Text) : List Text → List Text
  | [] => above.reverse
  | [s] =>
      if isDoubleDot s then ([] :: parent above).reverse
      else if isSingleDot s then ([] :: above).reverse
      else (placed file above s :: above).reverse
  | s :: r =>
      if isDoubleDot s then resolveFrom file (parent above) r
      else if isSingleDot s then resolveFrom file above r
      else resolveFrom file (placed file above s :: above) r

def resolve (file : Bool) (segments : List Text) : List Text := resolveFrom file [] segments

def pathText (segments : List Text) : Text := segments.flatMap fun s => '/' :: s

/-- The path of a file: a row of slashes at its start counts as one. -/
def filePathText (segments : List Text) : Text :=
  '/' :: (pathText segments).dropWhile (· == '/')

end CopyFormat.Url
