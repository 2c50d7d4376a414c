import Mathlib.Algebra.Order.Field.Rat

/-!
# Reading numbers from text

Numbers as the usual text formats have them: digits of a radix behind an optional sign,
bounded by a machine range; decimal fractions with an optional exponent; and byte strings
as pairs of hexadecimal digits. Reading fails on anything else.
-/

namespace TextParse

/-- The Unicode white space. -/
def isWhitespace (char : Char) : Bool :=
  let code := char.toNat
  (9 ≤ code && code ≤ 13) || code = 0x20 || code = 0x85 || code = 0xA0 || code = 0x1680 ||
    (0x2000 ≤ code && code ≤ 0x200A) || code = 0x2028 || code = 0x2029 || code = 0x202F ||
    code = 0x205F || code = 0x3000

/-- The text without white space at its ends. -/
def trim (text : List Char) : List Char :=
  ((text.dropWhile isWhitespace).reverse.dropWhile isWhitespace).reverse

/-- The value of a digit in a radix of at most 36. -/
def digitValue (radix : Nat) (char : Char) : Option Nat :=
  let code := char.toNat
  let value :=
    if 48 ≤ code && code ≤ 57 then some (code - 48)
    else if 97 ≤ code && code ≤ 122 then some (code - 87)
    else if 65 ≤ code && code ≤ 90 then some (code - 55)
    else none
  value.filter (fun digit => digit < radix)

/-- Append the digits of a text to a number. -/
def appendDigits (radix : Nat) : Nat → List Char → Option Nat
  | value, [] => some value
  | value, char :: rest =>
    match digitValue radix char with
    | some digit => appendDigits radix (value * radix + digit) rest
    | none => none

/-- One digit or more. -/
def parseDigits (radix : Nat) (text : List Char) : Option Nat :=
  if text.isEmpty then none else appendDigits radix 0 text

/-- An unsigned number below a bound. -/
def parseUnsigned (radix bound : Nat) (text : List Char) : Option Nat :=
  let digits := match text with
    | '+' :: rest => rest
    | _ => text
  (parseDigits radix digits).filter (fun value => value < bound)

/-- A signed decimal number of a two's complement range. -/
def parseSigned (half : Nat) (text : List Char) : Option Int :=
  match text with
  | '-' :: rest =>
    ((parseDigits 10 rest).filter (fun value => value ≤ half)).map (fun value => -(value : Int))
  | _ => (parseUnsigned 10 half text).map (fun value => (value : Int))

/-- The exponent behind its letter: an optional sign and digits. -/
def parseExponent : List Char → Option Int
  | '-' :: rest => (parseDigits 10 rest).map (fun value => -(value : Int))
  | '+' :: rest => (parseDigits 10 rest).map (fun value => (value : Int))
  | text => (parseDigits 10 text).map (fun value => (value : Int))

/-- Digits with an optional point somewhere among them. -/
def parseMantissa (text : List Char) : Option ℚ :=
  let whole := text.takeWhile (fun char => char ≠ '.')
  let fraction := (text.drop whole.length).drop 1
  if whole.isEmpty && fraction.isEmpty then none
  else
    (appendDigits 10 0 (whole ++ fraction)).map (fun value =>
      (value : ℚ) / 10 ^ fraction.length)

/-- A finite decimal number. -/
def parseDecimal (text : List Char) : Option ℚ :=
  let (negative, body) := match text with
    | '-' :: rest => (true, rest)
    | '+' :: rest => (false, rest)
    | _ => (false, text)
  let mantissa := body.takeWhile (fun char => char ≠ 'e' && char ≠ 'E')
  let scale := match body.drop mantissa.length with
    | [] => some 0
    | _ :: rest => parseExponent rest
  match parseMantissa mantissa, scale with
  | some value, some power =>
    some ((if negative then -value else value) * (10 : ℚ) ^ (power : Int))
  | _, _ => none

/-- Bytes from pairs of hexadecimal digits. -/
def hexDecode : List Char → Option (List UInt8)
  | [] => some []
  | [_] => none
  | high :: low :: rest =>
    match digitValue 16 high, digitValue 16 low, hexDecode rest with
    | some upper, some lower, some bytes => some (UInt8.ofNat (upper * 16 + lower) :: bytes)
    | _, _, _ => none

end TextParse
