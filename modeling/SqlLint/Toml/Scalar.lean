import SqlLint.Json.Lexeme
import SqlLint.Toml.Value

/-!
# TOML scalars

Truth values, numbers and dates are written as one run of characters; only a date and a time of
day may have a space between them. Digits may be grouped by underscores between two digits.
-/

set_option autoImplicit false

namespace SqlLint.Toml

/-- The characters of a scalar that is no string. -/
def isScalarChar (c : Char) : Bool :=
  c.isAlphanum || c == '_' || c == '+' || c == '-' || c == '.' || c == ':'

/-- The digits of a group without their underscores, each of which stands between two digits. -/
def ungroup? (isDigit : Char → Bool) : List Char → Option (List Char)
  | [] => none
  | [digit] => if isDigit digit then some [digit] else none
  | digit :: '_' :: rest =>
      if isDigit digit then (ungroup? isDigit rest).map (digit :: ·) else none
  | digit :: rest => if isDigit digit then (ungroup? isDigit rest).map (digit :: ·) else none

def isDigitOf (base : Nat) (c : Char) : Bool :=
  (Json.hexValue? c).any (· < base)

/-- The number that some digits of a base stand for. -/
def valueOf (base : Nat) (digits : List Char) : Nat :=
  digits.foldl (fun value c => base * value + (Json.hexValue? c).getD 0) 0

/-- The digits of a decimal number, which has no leading zeros. -/
def wholeDigits? (text : List Char) : Option (List Char) :=
  match ungroup? (isDigitOf 10) text with
  | some digits => if digits.length = 1 || digits.head? != some '0' then some digits else none
  | none => none

/-- A text without its sign, and whether that is a minus sign. -/
def splitSign : List Char → Bool × List Char
  | '+' :: rest => (false, rest)
  | '-' :: rest => (true, rest)
  | text => (false, text)

/-- The marks of the bases other than ten. -/
def bases : List (Char × Nat) :=
  [('x', 16), ('o', 8), ('b', 2)]

/-- A number in a base other than ten, which has no sign. -/
def basedInteger? : List Char → Option Int
  | '0' :: mark :: digits =>
      match bases.lookup mark with
      | some base => (ungroup? (isDigitOf base) digits).map fun found => valueOf base found
      | none => none
  | _ => none

def integer? (text : List Char) : Option Int :=
  match basedInteger? text with
  | some value => some value
  | none =>
      let (negative, body) := splitSign text
      (wholeDigits? body).map fun digits =>
        if negative then -(valueOf 10 digits : Int) else valueOf 10 digits

/-- The whole numbers that a file may hold: those of 128 bits, with a sign or without. -/
def isStorable (value : Int) : Bool :=
  -0x80000000000000000000000000000000 ≤ value && value ≤ 0xFFFFFFFFFFFFFFFFFFFFFFFFFFFFFFFF

/-- The text before the first character of a class, and the text from it on. -/
def splitBefore (stop : Char → Bool) (text : List Char) : List Char × List Char :=
  (text.takeWhile (!stop ·), text.dropWhile (!stop ·))

/-- The number behind the mark of an exponent; without a mark it is zero. -/
def exponent? : List Char → Option Int
  | [] => some 0
  | _ :: rest =>
      let (negative, body) := splitSign rest
      (ungroup? (isDigitOf 10) body).map fun digits =>
        if negative then -(valueOf 10 digits : Int) else valueOf 10 digits

/-- The digits behind the point of a fraction; without a point there are none. -/
def fraction? : List Char → Option (List Char)
  | [] => some []
  | _ :: rest => ungroup? (isDigitOf 10) rest

/-- The first whole number too large for the 64 bits of a number with a fraction: it is as far from
the largest such number as from the next power of two. -/
def floatBound : Nat := (2 <<< 53 - 1) <<< 970

/-- The number of decimal digits of `floatBound`. -/
def floatBoundDigits : Nat := 309

/-- A number is in range, if it has the given digits with the point behind the first `place` of
them. -/
def isInRange (digits : List Char) (place : Int) : Bool :=
  let significant := digits.dropWhile (· == '0')
  let place := place - (digits.length - significant.length : Nat)
  significant.isEmpty || place < floatBoundDigits ||
    (place == floatBoundDigits &&
      valueOf 10 ((significant ++ List.replicate floatBoundDigits '0').take floatBoundDigits) <
        floatBound)

/-- A number with a fraction or an exponent, an infinity, or no number. -/
def isFloat (text : List Char) : Bool :=
  let body := (splitSign text).2
  if body == "inf".toList || body == "nan".toList then true
  else
    let (mantissa, mark) := splitBefore (fun c => c == 'e' || c == 'E') body
    let (before, point) := splitBefore (· == '.') mantissa
    match wholeDigits? before, fraction? point, exponent? mark with
    | some whole, some fraction, some exponent =>
        isInRange (whole ++ fraction) (whole.length + exponent)
    | _, _, _ => false

/-! ## Dates and times -/

def twoDigits? (a b : Char) : Option Nat :=
  if a.isDigit && b.isDigit then some (Text.digitsValue [a, b]) else none

/-- A year of 366 days. -/
def isLeapYear (year : Nat) : Bool :=
  year % 4 == 0 && (year % 100 != 0 || year % 400 == 0)

def daysOfMonth (year month : Nat) : Nat :=
  if month = 2 then (if isLeapYear year then 29 else 28)
  else if [4, 6, 9, 11].contains month then 30
  else 31

def afterDate? : List Char → Option (List Char)
  | y1 :: y2 :: y3 :: y4 :: '-' :: m1 :: m2 :: '-' :: d1 :: d2 :: rest => do
      let century ← twoDigits? y1 y2
      let year ← twoDigits? y3 y4
      let month ← twoDigits? m1 m2
      let day ← twoDigits? d1 d2
      if 1 ≤ month ∧ month ≤ 12 ∧ 1 ≤ day ∧ day ≤ daysOfMonth (100 * century + year) month then
        some rest
      else none
  | _ => none

/-- The text behind the fraction of a second, if there is one. -/
def afterSecondFraction? : List Char → Option (List Char)
  | '.' :: rest => (Json.readDigits? rest).map (·.2)
  | text => some text

/-- The text behind the seconds of a time, if there are any; a leap second is one. -/
def afterSeconds? : List Char → Option (List Char)
  | ':' :: s1 :: s2 :: rest => do
      let second ← twoDigits? s1 s2
      if second ≤ 60 then afterSecondFraction? rest else none
  | text => some text

def afterMinutes? : List Char → Option (List Char)
  | h1 :: h2 :: ':' :: m1 :: m2 :: rest => do
      let hour ← twoDigits? h1 h2
      let minute ← twoDigits? m1 m2
      if hour ≤ 23 ∧ minute ≤ 59 then some rest else none
  | _ => none

def afterTime? (text : List Char) : Option (List Char) :=
  (afterMinutes? text).bind afterSeconds?

/-- The distance from universal time, if it is given. -/
def isOffset : List Char → Bool
  | [] | ['Z'] | ['z'] => true
  | '+' :: rest => afterMinutes? rest == some []
  | '-' :: rest => afterMinutes? rest == some []
  | _ => false

/-- A time behind a date, if it is given. -/
def isTimeOfDate : List Char → Bool
  | [] => true
  | mark :: rest => (mark == 'T' || mark == 't' || mark == ' ') && (afterTime? rest).any isOffset

/-- A date, a time of day, or both. -/
def isMoment (text : List Char) : Bool :=
  (afterDate? text).any isTimeOfDate || afterTime? text == some []

/-- The value that a run of characters stands for. -/
def scalarOf? (text : List Char) : Option Value :=
  if text = "true".toList then some (.boolean true)
  else if text = "false".toList then some (.boolean false)
  else
    match integer? text with
    | some value => if isStorable value then some (.integer value) else none
    | none =>
        if isFloat text then some .float
        else if isMoment text then some .moment
        else none

/-- The characters of a scalar at the front of a text: a date takes a space and a digit behind it
as well. -/
def splitScalar (text : List Char) : List Char × List Char :=
  let run := text.takeWhile isScalarChar
  let rest := text.dropWhile isScalarChar
  match rest with
  | ' ' :: digit :: _ =>
      if afterDate? run == some [] && digit.isDigit then
        let time := rest.tail
        (run ++ ' ' :: time.takeWhile isScalarChar, time.dropWhile isScalarChar)
      else (run, rest)
  | _ => (run, rest)

def readScalar? (text : List Char) : Option (Value × List Char) :=
  (scalarOf? (splitScalar text).1).map (·, (splitScalar text).2)

end SqlLint.Toml
