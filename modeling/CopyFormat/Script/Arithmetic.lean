import CopyFormat.Decimal.Binary
import CopyFormat.Text.Basic

/-!
Arithmetic on numerals with `+`, `-`, `*`, `/`, parentheses and signs.

A source is cut into lexemes, which a machine takes one by one. It keeps the values that are
complete and the operators that still wait for one, and applies an operator as soon as the next
one binds no tighter. What a number is and how it is calculated with is a parameter.
-/

namespace CopyFormat.Script

/-- What is wrong with an arithmetic source. -/
inductive ArithmeticFault
  | unexpectedNumber (place : Nat)
  | invalidNumber (numeral : Text)
  | unexpectedSymbol (symbol : Char) (place : Nat)
  | unknownSymbol (shown : Char)
  | unbalanced
  | endsEarly
  | malformed
  deriving DecidableEq, Repr

def ArithmeticFault.message : ArithmeticFault → Text
  | .unexpectedNumber place => Text.lit "unexpected number at offset " ++ Text.ofNat place
  | .invalidNumber numeral => Text.lit "invalid number '" ++ numeral ++ ['\'']
  | .unexpectedSymbol symbol place =>
      Text.lit "unexpected '" ++ symbol :: Text.lit "' at offset " ++ Text.ofNat place
  | .unknownSymbol shown => Text.lit "unexpected character '" ++ [shown, '\'']
  | .unbalanced => Text.lit "unbalanced parentheses"
  | .endsEarly => Text.lit "arithmetic expression ends early"
  | .malformed => Text.lit "malformed arithmetic expression"

namespace Arithmetic

/-! ### Lexemes -/

def isSpace (c : Char) : Bool := c == ' ' || c == '\t' || c == '\n' || c == '\x0c' || c == '\r'

/-- The characters that numerals are written with. -/
def isNumeralChar (c : Char) : Bool := c.isDigit || c == '.'

/-- Whether a row of digits and points is a number: it has a digit and at most one point. -/
def isNumeral (t : Text) : Bool := t.any Char.isDigit && t.count '.' ≤ 1

/-- A run of digits and points, or a single other character. -/
inductive Lexeme
  | numeral (t : Text)
  | symbol (c : Char)
  deriving DecidableEq, Repr

/-- The lexemes of a text whose first character stands at `place`, each with its place. -/
def lexemes (place : Nat) : Text → List (Nat × Lexeme)
  | [] => []
  | c :: r =>
      let rest := lexemes (place + 1) r
      if isSpace c then rest
      else if isNumeralChar c then
        match r.head?.any isNumeralChar, rest with
        | true, (_, .numeral t) :: ls => (place, .numeral (c :: t)) :: ls
        | _, ls => (place, .numeral [c]) :: ls
      else (place, .symbol c) :: rest

/-! ### Operators -/

structure Numbers (α : Type) where
  ofNumeral : Text → α
  neg : α → α
  add : α → α → α
  sub : α → α → α
  mul : α → α → α
  div : α → α → α

/-- An operator that waits for its last operand, or an open parenthesis. -/
inductive Operator
  | add
  | sub
  | mul
  | div
  | neg
  | group
  deriving DecidableEq, Repr

/-- How tightly an operator binds; an open parenthesis holds back all before it. -/
def Operator.binding : Operator → Nat
  | .group => 0
  | .add | .sub => 1
  | .mul | .div => 2
  | .neg => 3

/-- The operator between two operands that a character writes. -/
def Operator.between? : Char → Option Operator
  | '+' => some .add
  | '-' => some .sub
  | '*' => some .mul
  | '/' => some .div
  | _ => none

variable {α : Type}

/-- Applies an operator to the topmost values. -/
def Operator.apply (n : Numbers α) : Operator → List α → Except ArithmeticFault (List α)
  | .neg, x :: values => .ok (n.neg x :: values)
  | .add, y :: x :: values => .ok (n.add x y :: values)
  | .sub, y :: x :: values => .ok (n.sub x y :: values)
  | .mul, y :: x :: values => .ok (n.mul x y :: values)
  | .div, y :: x :: values => .ok (n.div x y :: values)
  | _, _ => .error .malformed

/-- The machine: values and waiting operators, topmost first, and whether an operand must come
next. -/
structure Machine (α : Type) where
  values : List α := []
  operators : List Operator := []
  wantsOperand : Bool := true
  deriving DecidableEq, Repr

/-- Applies the waiting operators that bind at least as tightly as `least`. -/
def settle (n : Numbers α) (least : Nat) (values : List α) :
    List Operator → Except ArithmeticFault (List α × List Operator)
  | [] => .ok (values, [])
  | op :: ops =>
      if op ≠ .group ∧ least ≤ op.binding then do settle n least (← op.apply n values) ops
      else .ok (values, op :: ops)

/-- Applies the waiting operators up to the innermost open parenthesis and takes that away. -/
def closeGroup (n : Numbers α) (values : List α) :
    List Operator → Except ArithmeticFault (List α × List Operator)
  | [] => .error .unbalanced
  | .group :: ops => .ok (values, ops)
  | op :: ops => do closeGroup n (← op.apply n values) ops

/-- The character as which an unknown one is shown: that whose number is the first byte of its
UTF-8 form. -/
def shownAs (c : Char) : Char := Char.ofNat ((String.utf8EncodeChar c).headD 0).toNat

def Machine.take (n : Numbers α) (m : Machine α) (place : Nat) :
    Lexeme → Except ArithmeticFault (Machine α)
  | .numeral t =>
      if !m.wantsOperand then .error (.unexpectedNumber place)
      else if isNumeral t then
        .ok { m with values := n.ofNumeral t :: m.values, wantsOperand := false }
      else .error (.invalidNumber t)
  | .symbol '(' =>
      if m.wantsOperand then .ok { m with operators := .group :: m.operators }
      else .error (.unexpectedSymbol '(' place)
  | .symbol ')' =>
      if m.wantsOperand then .error (.unexpectedSymbol ')' place)
      else do
        let (values, operators) ← closeGroup n m.values m.operators
        return { m with values, operators }
  | .symbol c =>
      match Operator.between? c with
      | none => .error (.unknownSymbol (shownAs c))
      | some op =>
          if m.wantsOperand then
            match op with
            | .add => .ok m
            | .sub => .ok { m with operators := .neg :: m.operators }
            | _ => .error (.unexpectedSymbol c place)
          else do
            let (values, operators) ← settle n op.binding m.values m.operators
            return { values, operators := op :: operators, wantsOperand := true }

/-- Applies all operators that still wait. -/
def finish (n : Numbers α) (values : List α) : List Operator → Except ArithmeticFault (List α)
  | [] => .ok values
  | .group :: _ => .error .unbalanced
  | op :: ops => do finish n (← op.apply n values) ops

/-- The single value that is left at the end. -/
def Machine.result (n : Numbers α) (m : Machine α) : Except ArithmeticFault α :=
  if m.wantsOperand then .error .endsEarly
  else do
    match ← finish n m.values m.operators with
    | [x] => .ok x
    | _ => .error .malformed

def Machine.run (n : Numbers α) (m : Machine α) :
    List (Nat × Lexeme) → Except ArithmeticFault (Machine α)
  | [] => .ok m
  | (place, l) :: ls => do run n (← m.take n place l) ls

def eval (n : Numbers α) (s : Text) : Except ArithmeticFault α := do
  (← Machine.run n {} (lexemes 0 s)).result n

/-! ### Sources and floating-point numbers -/

/-- Whether a text is taken for arithmetic: it has a digit, and nothing but digits, points,
blanks, operators and parentheses. -/
def isArithmetic (s : Text) : Bool :=
  s.any Char.isDigit &&
    s.all fun c =>
      isNumeralChar c || isSpace c || c == '(' || c == ')' || (Operator.between? c).isSome

/-- The floating-point number nearest to a numeral. -/
def floatOfNumeral (t : Text) : Float :=
  let whole := t.takeWhile (· ≠ '.')
  let fraction := (t.dropWhile (· ≠ '.')).drop 1
  Decimal.nearest (Text.numeral 10 (whole ++ fraction)) (-fraction.length)

/-- Floating-point numbers, in which a division by zero has a value too. -/
def floats : Numbers Float where
  ofNumeral := floatOfNumeral
  neg x := -x
  add x y := x + y
  sub x y := x - y
  mul x y := x * y
  div x y := x / y

end Arithmetic

end CopyFormat.Script
