import CopyFormat.Text.Basic

/-!
Places in a text that are counted in bytes of its UTF-8 form. A place inside a character, or
behind the end, cuts nothing off.
-/

namespace CopyFormat.Text

def size : Text → Nat
  | [] => 0
  | c :: r => c.utf8Size + size r

def before? : Nat → Text → Option Text
  | 0, _ => some []
  | _ + 1, [] => none
  | n + 1, c :: r =>
      if c.utf8Size ≤ n + 1 then (before? (n + 1 - c.utf8Size) r).map (c :: ·) else none

/-- What follows the first `n` bytes of a text. -/
def behind? : Nat → Text → Option Text
  | 0, t => some t
  | _ + 1, [] => none
  | n + 1, c :: r => if c.utf8Size ≤ n + 1 then behind? (n + 1 - c.utf8Size) r else none

def between? (t : Text) (start stop : Nat) : Option Text :=
  if start ≤ stop then (behind? start t).bind (before? (stop - start)) else none

end CopyFormat.Text
