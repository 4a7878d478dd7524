/-!
# Numerals

The texts of numbers and of numbered errors, and the reading of digits and of numerals in the
usual notations.
-/

namespace MessagingConsole.Text

/-- The decimal numeral of `n`. -/
def decimal (n : Nat) : String :=
  String.ofList (Nat.toDigits 10 n)

/-- The hexadecimal numeral of `n`, in lower case. -/
def hexadecimal (n : Nat) : String :=
  String.ofList (Nat.toDigits 16 n)

/-- The decimal numeral of an integer, with `-` in front of a negative one. -/
def signedDecimal (n : Int) : String :=
  if n < 0 then "-" ++ decimal n.natAbs else decimal n.natAbs

/-- The text of an error of the operating system: what is wrong, and the number of the error. -/
def systemError (reason : String) (code : Int) : String :=
  reason ++ " (os error " ++ signedDecimal code ++ ")"

/-- A decimal numeral brought to at least `width` digits by zeros in front. -/
def zeroPadded (width n : Nat) : String :=
  let digits := Nat.toDigits 10 n
  String.ofList (List.replicate (width - digits.length) '0' ++ digits)

/-- The value of a digit, which is a letter of either case from ten on. -/
def digit? (c : Char) : Option Nat :=
  if c.isDigit then some (c.toNat - '0'.toNat)
  else if 'a' ≤ c ∧ c ≤ 'f' then some (c.toNat - 'a'.toNat + 10)
  else if 'A' ≤ c ∧ c ≤ 'F' then some (c.toNat - 'A'.toNat + 10)
  else none

/-- The number that the digits of a base write after those that wrote `n`. -/
def readDigitsAfter? (base : Nat) : (n : Nat) → List Char → Option Nat
  | n, [] => some n
  | n, c :: rest =>
    match digit? c with
    | some d => if d < base then readDigitsAfter? base (base * n + d) rest else none
    | none => none

/-- The number that one or more digits of a base write. -/
def readDigits? (base : Nat) (digits : List Char) : Option Nat :=
  if digits.isEmpty then none else readDigitsAfter? base 0 digits

/-- The number that a numeral writes: hexadecimal after `0x`, octal after another `0`,
and decimal otherwise. -/
def readNumeral? : List Char → Option Nat
  | '0' :: 'x' :: digits | '0' :: 'X' :: digits => readDigits? 16 digits
  | '0' :: digits => readDigits? 8 ('0' :: digits)
  | digits => readDigits? 10 digits

end MessagingConsole.Text
