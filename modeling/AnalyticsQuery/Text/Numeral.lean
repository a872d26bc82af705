/-!
# Decimal numerals

Whole numbers as decimal text, and the readers for the numerals that occur in
dates and in loosely typed documents.
-/

namespace AnalyticsQuery.Numeral

/-- Decimal digits, the most significant one first. -/
def digits (value : Nat) : List Char := Nat.toDigits 10 value

def natText (value : Nat) : String := String.ofList (digits value)

def intText : Int → String
  | .ofNat value => natText value
  | .negSucc value => "-" ++ natText (value + 1)

/-- Decimal digits with zeros in front up to `width` characters. -/
def padded (width value : Nat) : String :=
  String.ofList (List.replicate (width - (digits value).length) '0' ++ digits value)

def digit? (char : Char) : Option Nat :=
  if '0' ≤ char ∧ char ≤ '9' then some (char.toNat - '0'.toNat) else none

def isDigit (char : Char) : Bool := (digit? char).isSome

/-- Value of a text that consists of digits only; the empty text has none. -/
def readDigits? : List Char → Option Nat
  | [] => none
  | chars => chars.foldlM (fun value char => (digit? char).map (10 * value + ·)) 0

/-- Value of a hexadecimal digit in either case. -/
def hexDigit? (char : Char) : Option Nat :=
  match digit? char with
  | some value => some value
  | none =>
      if 'a' ≤ char ∧ char ≤ 'f' then some (char.toNat - 'a'.toNat + 10)
      else if 'A' ≤ char ∧ char ≤ 'F' then some (char.toNat - 'A'.toNat + 10)
      else none

def readHex? (chars : List Char) : Option Nat :=
  chars.foldlM (fun value char => (hexDigit? char).map (16 * value + ·)) 0

/-- Reads exactly `count` digits and gives what follows them. -/
def takeDigits? (count : Nat) (chars : List Char) : Option (Nat × List Char) :=
  if (chars.take count).length = count then
    (readDigits? (chars.take count)).map fun value => (value, chars.drop count)
  else none

/-- Splits a sign off the front: whether it was a minus, and the rest. -/
def splitSign : List Char → Bool × List Char
  | '-' :: rest => (true, rest)
  | '+' :: rest => (false, rest)
  | chars => (false, chars)

def signed (negative : Bool) (magnitude : Nat) : Int :=
  if negative then -(magnitude : Int) else magnitude

/-! ## Whole numbers as people type them -/

/-- Why a text is no whole number. -/
inductive LooseError where
  | malformed
  /-- There are more characters than a number may have. -/
  | tooLong
  deriving DecidableEq, Repr

/-- Most digits with which a number is written, and most characters that the sign and the
digits of a number may have where one is read. -/
def longestNumber : Nat := 4300

/-- Whether a number has more digits than are ever written. -/
def isLong (value : Int) : Bool := decide (longestNumber < (digits value.natAbs).length)

/-- What is said of a number that is too long. -/
def longMessage : String :=
  "Exceeds the limit (" ++ natText longestNumber ++ " digits) for integer string conversion; " ++
    "use sys.set_int_max_str_digits() to increase the limit"

/-- What follows zeros and underscores, the last of which is `last`.  One character
stays when nothing or a point follows; a minus may follow as well as a digit. -/
def afterZeros? (last : Char) : List Char → Option (List Char)
  | [] => some [last]
  | '.' :: fraction => some (last :: '.' :: fraction)
  | char :: rest =>
      if char = '0' ∨ char = '_' then afterZeros? char rest
      else if isDigit char ∨ char = '-' then some (char :: rest)
      else none

/-- Leading zeros, and underscores among them, say nothing. -/
def dropLeadingZeros? : List Char → Option (List Char)
  | '0' :: rest => afterZeros? '0' rest
  | char :: rest => if isDigit char then some (char :: rest) else none
  | [] => none

/-- A fraction says nothing when it consists of zeros. -/
def dropZeroFraction? (chars : List Char) : Option (List Char) :=
  match chars.dropWhile (· != '.') with
  | [] => some chars
  | _ :: fraction =>
      if !fraction.isEmpty && fraction.all (· == '0') then some (chars.takeWhile (· != '.'))
      else none

/-- Single underscores between two characters say nothing. -/
def dropUnderscores? (chars : List Char) : Option (List Char) :=
  let groups := chars.splitOn '_'
  if groups.all (fun group => !group.isEmpty) then some groups.flatten else none

/-- The digits of a number that takes `signWidth` characters more. -/
def readSignificant (signWidth : Nat) (chars : List Char) : Except LooseError Nat :=
  let run := chars.takeWhile isDigit
  if run.head? = some '0' ∧ 1 < run.length then .error .malformed
  else if longestNumber < signWidth + run.length then .error .tooLong
  else
    match readDigits? chars with
    | some value => .ok value
    | none => .error .malformed

/-- Reads a number without the sign in front of the zeros; `negative` tells whether
that was a minus, after which there is no second one. -/
def readUnsigned (negative : Bool) (chars : List Char) : Except LooseError Int :=
  match (dropLeadingZeros? chars).bind dropZeroFraction? |>.bind dropUnderscores? with
  | none => .error .malformed
  | some ('-' :: rest) =>
      if negative then .error .malformed else (readSignificant 1 rest).map (signed true)
  | some rest => (readSignificant (if negative then 1 else 0) rest).map (signed negative)

/-- Whether there are too many digits after a minus or nothing, whatever follows. -/
def startsTooLong (chars : List Char) : Bool :=
  let (signWidth, rest) := match chars with
    | '-' :: rest => (1, rest)
    | rest => (0, rest)
  let run := rest.takeWhile isDigit
  run.head? != some '0' && decide (longestNumber < signWidth + run.length)

/-- A whole number as people type it: a sign, digits grouped by underscores, zeros in
front and a fraction of zeros are all allowed. -/
def readLoose (chars : List Char) : Except LooseError Int :=
  if startsTooLong chars then .error .tooLong
  else
    match chars with
    | '-' :: rest => readUnsigned true rest
    | '+' :: rest => readUnsigned false rest
    | chars => readUnsigned false chars

end AnalyticsQuery.Numeral
