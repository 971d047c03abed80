import Anteroom.Text.Decimal
import Anteroom.Text.Utf8

/-!
# JSON values

JSON as far as a settings document needs it: of numbers, only those written as
a whole number without sign, fraction and exponent have a value; all others
are just numbers.  A string that is written with a lone surrogate escape, or
with bytes that are no character, is a string that stands for no text.
-/

namespace Anteroom.Json

open Utf8 (Letter)

/-- A JSON value. -/
inductive Value
  | null
  | bool (value : Bool)
  | number (whole : Option Nat)
  | string (text : Option (List Char))
  | array (elements : List Value)
  | object (members : List (Option (List Char) × Value))

/-! ## Strings -/

/-- A piece of a string literal: a letter, or a UTF-16 code unit written as an escape. -/
inductive Piece
  | letter (letter : Letter)
  | unit (u : Nat)
  deriving DecidableEq

/-- Whether a code unit starts a surrogate pair. -/
def isLeading (u : Nat) : Bool :=
  0xd800 ≤ u && u < 0xdc00

/-- Whether a code unit ends a surrogate pair. -/
def isTrailing (u : Nat) : Bool :=
  0xdc00 ≤ u && u < 0xe000

/-- The character of a surrogate pair. -/
def pairChar (leading trailing : Nat) : Char :=
  Char.ofNat (0x10000 + (leading - 0xd800) * 0x400 + (trailing - 0xdc00))

/-- The text of a string literal, if all its letters are characters and all its surrogates come
in pairs. -/
def textOf : List Piece → Option (List Char)
  | [] => some []
  | .letter letter :: rest => do
      let c ← letter
      let text ← textOf rest
      return c :: text
  | .unit u :: rest =>
      if isLeading u then
        match rest with
        | .unit v :: more =>
            if isTrailing v then (textOf more).map (pairChar u v :: ·) else none
        | _ => none
      else if isTrailing u then none
      else (textOf rest).map (Char.ofNat u :: ·)

/-- The character that a one-letter escape stands for. -/
def escape? : Letter → Option Char
  | some '"' => some '"'
  | some '\\' => some '\\'
  | some '/' => some '/'
  | some 'b' => some '\x08'
  | some 'f' => some '\x0c'
  | some 'n' => some '\n'
  | some 'r' => some '\r'
  | some 't' => some '\t'
  | _ => none

/-- The code unit that four hexadecimal digits stand for. -/
def codeUnit? (a b c d : Letter) : Option Nat := do
  let a ← Hex.digit? (← a)
  let b ← Hex.digit? (← b)
  let c ← Hex.digit? (← c)
  let d ← Hex.digit? (← d)
  return ((a * 16 + b) * 16 + c) * 16 + d

/-- Whether a letter is a control character, which a string literal must escape. -/
def isControl (letter : Letter) : Bool :=
  letter.any fun c => decide (c.toNat < 0x20)

/-- Reads a string literal after its opening quote. -/
def string? : List Letter → Option (List Piece × List Letter)
  | [] => none
  | some '"' :: rest => some ([], rest)
  | some '\\' :: some 'u' :: a :: b :: c :: d :: rest => do
      let u ← codeUnit? a b c d
      let (pieces, rest) ← string? rest
      return (.unit u :: pieces, rest)
  | some '\\' :: e :: rest => do
      let c ← escape? e
      let (pieces, rest) ← string? rest
      return (.letter (some c) :: pieces, rest)
  | letter :: rest =>
      if isControl letter then none
      else do
        let (pieces, rest) ← string? rest
        return (.letter letter :: pieces, rest)

/-! ## Numbers -/

/-- Whether a letter is a decimal digit. -/
def isDigit (letter : Letter) : Bool :=
  letter.any fun c => (Decimal.digit? c).isSome

/-- Reads a run of at least one digit. -/
def digits? (s : List Letter) : Option (List Char × List Letter) :=
  match (s.takeWhile isDigit).filterMap id with
  | [] => none
  | run => some (run, s.dropWhile isDigit)

/-- Reads the whole part of a number: no digit follows a leading zero. -/
def wholePart? : List Letter → Option (List Char × List Letter)
  | some '0' :: rest => some (['0'], rest)
  | s => digits? s

/-- Reads the fraction of a number, if there is one; tells whether there was. -/
def fraction? : List Letter → Option (Bool × List Letter)
  | some '.' :: rest => (digits? rest).map fun (_, rest) => (true, rest)
  | s => some (false, s)

/-- What follows a sign, or what there is if there is none. -/
def afterSign : List Letter → List Letter
  | some '+' :: rest => rest
  | some '-' :: rest => rest
  | s => s

/-- Reads the exponent of a number, if there is one; tells whether there was. -/
def exponent? : List Letter → Option (Bool × List Letter)
  | some 'e' :: rest => (digits? (afterSign rest)).map fun (_, rest) => (true, rest)
  | some 'E' :: rest => (digits? (afterSign rest)).map fun (_, rest) => (true, rest)
  | s => some (false, s)

/-- Reads a number.  It has a value if it is written as a whole number without a sign. -/
def number? (s : List Letter) : Option (Option Nat × List Letter) := do
  let negative := s.head? = some (some '-')
  let (whole, rest) ← wholePart? (if negative then s.tail else s)
  let (hasFraction, rest) ← fraction? rest
  let (hasExponent, rest) ← exponent? rest
  return (if negative || hasFraction || hasExponent then none else Decimal.value? whole, rest)

/-! ## Values -/

/-- Whether a letter may stand between the tokens of a JSON text. -/
def isBlank (letter : Letter) : Bool :=
  letter = some ' ' || letter = some '\t' || letter = some '\n' || letter = some '\r'

/-- What follows the blanks at the front. -/
def skipBlanks (s : List Letter) : List Letter :=
  s.dropWhile isBlank

/-- What follows a given word at the front. -/
def word? (word : List Char) (s : List Letter) : Option (List Letter) :=
  if (word.map some).isPrefixOf s then some (s.drop word.length) else none

mutual

/-- Reads a value, blanks before it included, with nesting and length within `fuel`. -/
def value? : (fuel : Nat) → List Letter → Option (Value × List Letter)
  | 0, _ => none
  | fuel + 1, s =>
      match skipBlanks s with
      | some '{' :: rest =>
          match skipBlanks rest with
          | some '}' :: rest => some (.object [], rest)
          | rest => (members? fuel rest).map fun (members, rest) => (.object members, rest)
      | some '[' :: rest =>
          match skipBlanks rest with
          | some ']' :: rest => some (.array [], rest)
          | rest => (elements? fuel rest).map fun (elements, rest) => (.array elements, rest)
      | some '"' :: rest => (string? rest).map fun (pieces, rest) => (.string (textOf pieces), rest)
      | some 'n' :: rest => (word? ['u', 'l', 'l'] rest).map (.null, ·)
      | some 't' :: rest => (word? ['r', 'u', 'e'] rest).map (.bool true, ·)
      | some 'f' :: rest => (word? ['a', 'l', 's', 'e'] rest).map (.bool false, ·)
      | rest => (number? rest).map fun (whole, rest) => (.number whole, rest)

/-- Reads the elements of an array up to its closing bracket; there is at least one. -/
def elements? : (fuel : Nat) → List Letter → Option (List Value × List Letter)
  | 0, _ => none
  | fuel + 1, s => do
      let (element, rest) ← value? fuel s
      match skipBlanks rest with
      | some ']' :: rest => return ([element], rest)
      | some ',' :: rest =>
          let (elements, rest) ← elements? fuel rest
          return (element :: elements, rest)
      | _ => none

/-- Reads the members of an object up to its closing brace; there is at least one. -/
def members? : (fuel : Nat) → List Letter →
    Option (List (Option (List Char) × Value) × List Letter)
  | 0, _ => none
  | fuel + 1, s =>
      match skipBlanks s with
      | some '"' :: rest => do
          let (pieces, rest) ← string? rest
          match skipBlanks rest with
          | some ':' :: rest =>
              let (value, rest) ← value? fuel rest
              match skipBlanks rest with
              | some '}' :: rest => return ([(textOf pieces, value)], rest)
              | some ',' :: rest =>
                  let (members, rest) ← members? fuel rest
                  return ((textOf pieces, value) :: members, rest)
              | _ => none
          | _ => none
      | _ => none

end

/-- The value of a JSON text: one value with blanks around it and nothing else. -/
def parse? (s : List Letter) : Option Value := do
  let (value, rest) ← value? (2 * s.length + 2) s
  match skipBlanks rest with
  | [] => return value
  | _ => none

end Anteroom.Json
