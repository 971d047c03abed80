import Anteroom.Json.Value

/-!
# The grammar of JSON texts

What it means that a text is written for a JSON value, independent of how it is
read.  Blanks may stand around every token.  Numbers have no leading zeros; one
without sign, fraction and exponent has a value.  Strings stand for the text in
which each escape is the character it names, two surrogates in a row being one
character; a string with any other surrogate stands for no text.
-/

namespace Anteroom.Json

/-- Only blanks. -/
def Blank (text : List Char) : Prop :=
  ∀ c ∈ text, c ∈ [' ', '\t', '\n', '\r']

/-! ## Numbers -/

/-- At least one digit. -/
def IsRun (digits : List Char) : Prop :=
  digits ≠ [] ∧ ∀ c ∈ digits, '0' ≤ c ∧ c ≤ '9'

/-- Digits of which the first is no zero unless it is the only one. -/
def IsWhole (digits : List Char) : Prop :=
  IsRun digits ∧ (digits.head? = some '0' → digits = ['0'])

/-- The fraction of a number, or nothing. -/
inductive IsFraction : List Char → Prop
  | absent : IsFraction []
  | given {digits : List Char} (run : IsRun digits) : IsFraction ('.' :: digits)

/-- The exponent of a number, or nothing. -/
inductive IsExponent : List Char → Prop
  | absent : IsExponent []
  | given {e : Char} {sign digits : List Char} (letter : e ∈ ['e', 'E'])
      (signed : sign ∈ [[], ['+'], ['-']]) (run : IsRun digits) :
      IsExponent (e :: (sign ++ digits))

/-- A text is a number, with its value if it is a plain whole number. -/
inductive IsNumber : List Char → Option Nat → Prop
  | whole (n : Nat) : IsNumber (Decimal.digits n) (some n)
  | other {sign digits fraction exponent : List Char} (signed : sign ∈ [[], ['-']])
      (whole : IsWhole digits) (hasFraction : IsFraction fraction)
      (hasExponent : IsExponent exponent)
      (more : sign ≠ [] ∨ fraction ≠ [] ∨ exponent ≠ []) :
      IsNumber (sign ++ (digits ++ (fraction ++ exponent))) none

/-! ## Strings -/

/-- A hexadecimal digit and its value. -/
def IsHex (c : Char) (n : Nat) : Prop :=
  "0123456789abcdef".toList[n]? = some c ∨ "0123456789ABCDEF".toList[n]? = some c

/-- The escapes of one letter, and what they stand for. -/
def shortEscapes : List (Char × Char) :=
  [('"', '"'), ('\\', '\\'), ('/', '/'), ('b', '\x08'), ('f', '\x0c'), ('n', '\n'), ('r', '\r'),
    ('t', '\t')]

/-- A text is what stands between the quotes of a string, in pieces. -/
inductive Spelt : List Char → List Piece → Prop
  | nil : Spelt [] []
  | plain {c : Char} {text : List Char} {pieces : List Piece} (unquoted : c ≠ '"')
      (unescaped : c ≠ '\\') (uncontrolled : 0x20 ≤ c.toNat) (rest : Spelt text pieces) :
      Spelt (c :: text) (.letter (some c) :: pieces)
  | short {e c : Char} {text : List Char} {pieces : List Piece} (names : (e, c) ∈ shortEscapes)
      (rest : Spelt text pieces) :
      Spelt ('\\' :: e :: text) (.letter (some c) :: pieces)
  | unit {a b c d : Char} {k l m n : Nat} {text : List Char} {pieces : List Piece}
      (first : IsHex a k) (second : IsHex b l) (third : IsHex c m) (fourth : IsHex d n)
      (rest : Spelt text pieces) :
      Spelt ('\\' :: 'u' :: a :: b :: c :: d :: text)
        (.unit (((k * 16 + l) * 16 + m) * 16 + n) :: pieces)

/-- The text that the pieces of a string stand for. -/
inductive StandsFor : List Piece → List Char → Prop
  | nil : StandsFor [] []
  | letter {c : Char} {pieces : List Piece} {text : List Char} (rest : StandsFor pieces text) :
      StandsFor (.letter (some c) :: pieces) (c :: text)
  | unit {c : Char} {pieces : List Piece} {text : List Char} (rest : StandsFor pieces text) :
      StandsFor (.unit c.toNat :: pieces) (c :: text)
  | pair {c : Char} {high low : Nat} {pieces : List Piece} {text : List Char}
      (highBits : high < 0x400) (lowBits : low < 0x400)
      (code : c.toNat = 0x10000 + high * 0x400 + low) (rest : StandsFor pieces text) :
      StandsFor (.unit (0xd800 + high) :: .unit (0xdc00 + low) :: pieces) (c :: text)

/-- A text is a string literal without its quotes, and what it stands for, if anything. -/
def IsString (spelled : List Char) (meaning : Option (List Char)) : Prop :=
  ∃ pieces, Spelt spelled pieces ∧ ∀ text, meaning = some text ↔ StandsFor pieces text

/-! ## Values -/

/-- A value with blanks around it. -/
structure Element where
  before : List Char
  text : List Char
  after : List Char
  value : Value

/-- A name and a value, with blanks around both. -/
structure Property where
  before : List Char
  spelled : List Char
  name : Option (List Char)
  after : List Char
  element : Element

/-- The text of a value with the blanks around it. -/
def Element.printed (element : Element) : List Char :=
  element.before ++ (element.text ++ element.after)

/-- The text of a name and a value. -/
def Property.printed (property : Property) : List Char :=
  property.before ++ ('"' :: (property.spelled ++ ('"' :: (property.after ++
    (':' :: property.element.printed)))))

/-- What a property is in the value of an object. -/
def Property.member (property : Property) : Option (List Char) × Value :=
  (property.name, property.element.value)

/-- A text is written for a value, without blanks around it. -/
inductive Spells : List Char → Value → Prop
  | nullWord : Spells ['n', 'u', 'l', 'l'] .null
  | trueWord : Spells ['t', 'r', 'u', 'e'] (.bool true)
  | falseWord : Spells ['f', 'a', 'l', 's', 'e'] (.bool false)
  | number {text : List Char} {whole : Option Nat} (number : IsNumber text whole) :
      Spells text (.number whole)
  | string {spelled : List Char} {meaning : Option (List Char)}
      (string : IsString spelled meaning) :
      Spells ('"' :: (spelled ++ ['"'])) (.string meaning)
  | emptyArray {blanks : List Char} (blank : Blank blanks) :
      Spells ('[' :: (blanks ++ [']'])) (.array [])
  | array {elements : List Element} (nonempty : elements ≠ [])
      (blank : ∀ element ∈ elements, Blank element.before ∧ Blank element.after)
      (spells : ∀ element ∈ elements, Spells element.text element.value) :
      Spells ('[' :: ([','].intercalate (elements.map Element.printed) ++ [']']))
        (.array (elements.map Element.value))
  | emptyObject {blanks : List Char} (blank : Blank blanks) :
      Spells ('{' :: (blanks ++ ['}'])) (.object [])
  | object {properties : List Property} (nonempty : properties ≠ [])
      (blank : ∀ property ∈ properties, (Blank property.before ∧ Blank property.after) ∧
        Blank property.element.before ∧ Blank property.element.after)
      (named : ∀ property ∈ properties, IsString property.spelled property.name)
      (spells : ∀ property ∈ properties, Spells property.element.text property.element.value) :
      Spells ('{' :: ([','].intercalate (properties.map Property.printed) ++ ['}']))
        (.object (properties.map Property.member))

/-- A text is written for a value, with any blanks around it. -/
def IsTextOf (text : List Char) (value : Value) : Prop :=
  ∃ before body after, text = before ++ (body ++ after) ∧ Blank before ∧ Blank after ∧
    Spells body value

end Anteroom.Json
