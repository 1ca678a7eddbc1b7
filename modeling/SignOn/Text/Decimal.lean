/-!
# Decimal numbers

A number with a fractional part or an exponent, kept as its significant digits and the place of
the point. It is written positionally while its first digit stands between the ten-thousandths and
the last place before ten to the sixteenth, and with an exponent otherwise.
-/

set_option autoImplicit false

namespace SignOn.Text

/-- The number `± 0.d₁d₂d₃… · 10 ^ point`, where the digits neither begin nor end with zero. -/
structure Decimal where
  negative : Bool
  digits : List Char
  point : Int
  deriving DecidableEq

/-- The decimal with the given whole and fractional digits, scaled by a power of ten. -/
def Decimal.ofParts (negative : Bool) (whole fraction : List Char) (exponent : Int) : Decimal :=
  let all := whole ++ fraction
  let significant := all.dropWhile (· == '0')
  let digits := (significant.reverse.dropWhile (· == '0')).reverse
  let leadingZeros := all.length - significant.length
  if digits.isEmpty then ⟨negative, [], 0⟩
  else ⟨negative, digits, (Int.ofNat whole.length - Int.ofNat leadingZeros) + exponent⟩

/-- Reads a numeral with an optional sign, fraction and exponent. -/
def Decimal.ofNumeral (numeral : String) : Decimal :=
  let isMark (c : Char) : Bool := c == 'e' || c == 'E'
  let isSign (c : Char) : Bool := c == '-' || c == '+'
  let chars := numeral.toList
  let mantissa := (chars.takeWhile (fun c => !isMark c)).dropWhile isSign
  let exponent := (chars.dropWhile (fun c => !isMark c)).drop 1
  let size : Int := ((String.ofList (exponent.dropWhile isSign)).toNat?.getD 0 : Nat)
  Decimal.ofParts (chars.head? == some '-') (mantissa.takeWhile (· != '.'))
    ((mantissa.dropWhile (· != '.')).drop 1) (if exponent.head? == some '-' then -size else size)

/-- The decimal is zero, of either sign. -/
def Decimal.isZero (number : Decimal) : Bool := number.digits.isEmpty

/-- Two digits at least. -/
def twoDigits (number : Nat) : List Char :=
  let digits := Nat.toDigits 10 number
  if digits.length < 2 then '0' :: digits else digits

/-- The exponent with its sign. -/
def exponentText (exponent : Int) : List Char :=
  (if exponent < 0 then '-' else '+') :: twoDigits exponent.natAbs

/-- The digits without a sign, positionally or with an exponent. -/
def Decimal.magnitude (number : Decimal) : List Char :=
  match number.digits with
  | [] => ['0', '.', '0']
  | first :: others =>
    if 16 < number.point || number.point < -3 then
      let mantissa := if others.isEmpty then [first] else first :: '.' :: others
      mantissa ++ 'e' :: exponentText (number.point - 1)
    else if number.point ≤ 0 then
      '0' :: '.' :: List.replicate number.point.natAbs '0' ++ number.digits
    else
      let places := number.point.toNat
      if number.digits.length ≤ places then
        number.digits ++ List.replicate (places - number.digits.length) '0' ++ ['.', '0']
      else number.digits.take places ++ '.' :: number.digits.drop places

/-- The number's text. -/
def Decimal.text (number : Decimal) : String :=
  String.ofList (if number.negative then '-' :: number.magnitude else number.magnitude)

end SignOn.Text
