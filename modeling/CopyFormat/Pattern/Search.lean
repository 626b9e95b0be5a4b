import CopyFormat.Pattern.Program

/-!
Running a matching program over a text.

All ways to match are followed at once, character by character, in order of preference. At each
place a step is taken up at most once, by the way that is preferred, so a run takes time in
proportion to the length of the text and the size of the program. The search finds the match that
starts first, and of those the one that is preferred.
-/

namespace CopyFormat.Pattern

/-- A way to match so far: the step that comes next, and the places noted, newest first. -/
structure Thread where
  step : Nat
  marks : List (Nat × Nat)

/-- The place where a search stands: its number and the characters around it. -/
structure Place where
  index : Nat
  before : Option Char
  after : Option Char

/-- The steps taken up at a place and, newest first, the threads that wait there. -/
structure Front where
  seen : Array Bool
  threads : List Thread

namespace Program

/-- Follows a stack of threads, the preferred one on top, up to the steps that take a character
or accept. Every step is followed once, so the number of choices bounds the rounds. -/
def follow (p : Program) (place : Place) : Nat → List Thread → Front → Front
  | 0, _, f => f
  | _, [], f => f
  | fuel + 1, t :: rest, f =>
      if f.seen.getD t.step true then follow p place fuel rest f
      else
        let f := { f with seen := f.seen.setIfInBounds t.step true }
        match p.steps.getD t.step .accept with
        | .char _ _ | .set _ _ | .accept =>
            follow p place fuel rest { f with threads := t :: f.threads }
        | .look l next =>
            if l.holds place.before place.after then
              follow p place fuel ({ t with step := next } :: rest) f
            else follow p place fuel rest f
        | .mark slot next =>
            follow p place fuel
              ({ step := next, marks := (slot, place.index) :: t.marks } :: rest) f
        | .choose options =>
            follow p place fuel (options.map (fun o => { t with step := o }) ++ rest) f

/-- How many rounds following can take: one for each way into a step, and one to start. -/
def rounds (p : Program) : Nat :=
  p.steps.foldl (fun n s =>
    match s with
    | .choose options => n + options.length
    | _ => n + 1) 1

/-- What the threads at a place lead to: those that take the next character go on in order of
preference, and the first one that accepts ends all that come after it. -/
def advance (p : Program) (fuel : Nat) (c : Option Char) (next : Place) :
    List Thread → Front → Front × Option Thread
  | [], f => (f, none)
  | t :: rest, f =>
      match p.steps.getD t.step .accept with
      | .accept => (f, some t)
      | .char d n =>
          let f := if c == some d then p.follow next fuel [{ t with step := n }] f else f
          p.advance fuel c next rest f
      | .set s n =>
          let f := if c.any s.contains then p.follow next fuel [{ t with step := n }] f else f
          p.advance fuel c next rest f
      | _ => p.advance fuel c next rest f

def emptyFront (p : Program) : Front := { seen := .replicate p.steps.size false, threads := [] }

/-- Searches on from a place. `threads` are those that wait there, in order of preference, and
`best` is the match found so far with its end; while there is none, a match may also start
here. -/
def run (p : Program) (fuel index : Nat) (before : Option Char) (front : Front)
    (best : Option (Nat × List (Nat × Nat))) : Text → Option (Nat × List (Nat × Nat))
  | [] =>
      let place : Place := { index, before, after := none }
      let front :=
        if best.isNone then p.follow place fuel [{ step := p.start, marks := [(0, index)] }] front
        else front
      match p.advance fuel none place front.threads.reverse p.emptyFront with
      | (_, some t) => some (index, t.marks)
      | (_, none) => best
  | c :: r =>
      let place : Place := { index, before, after := some c }
      let front :=
        if best.isNone then p.follow place fuel [{ step := p.start, marks := [(0, index)] }] front
        else front
      let next : Place := { index := index + 1, before := some c, after := r.head? }
      match p.advance fuel (some c) next front.threads.reverse p.emptyFront with
      | (f, accepted) =>
          let best := (accepted.map fun t => (index, t.marks)) <|> best
          if best.isSome && f.threads.isEmpty then best
          else p.run fuel (index + 1) (some c) f best r

/-- The places noted for a group: its start and end, if it took part. -/
def span? (marks : List (Nat × Nat)) (group : Nat) : Option (Nat × Nat) := do
  return (← marks.lookup (2 * group), ← marks.lookup (2 * group + 1))

/-- The first match at or behind a place of the text: where the whole match and each group
start and end. -/
def search (p : Program) (t : Text) (start : Nat) : Option (List (Option (Nat × Nat))) :=
  let before := if start = 0 then none else t[start - 1]?
  let found := p.run p.rounds start before p.emptyFront none (t.drop start)
  found.map fun (stop, marks) =>
    (List.range p.groups.length).map (span? ((1, stop) :: marks))

end Program

end CopyFormat.Pattern
