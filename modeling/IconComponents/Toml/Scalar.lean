/-
**Numbers and dates in settings.**

No setting is a number or a date, but a document may hold them, and one that is malformed makes the
document malformed. This module says which runs of characters are well formed.

* `Toml.isInteger`, `Toml.isReal` — whole numbers of 64 bits, and numbers with a fraction or an
  exponent;
* `Toml.isMoment` — dates, times of day, and both with or without an offset.
-/

import IconComponents.Number.Binary
import IconComponents.Text.Digits

namespace IconComponents.Toml

/-- The groups of a number between single underscores, if every group has a digit. -/
def groups? (isDigit : Char → Bool) (text : Text) : Option Text :=
  let groups := Text.splitOn '_' text
  if groups.all (fun group => !group.isEmpty && group.all isDigit) then some groups.flatten
  else none

/-- The text behind a sign, and whether the sign is a minus. -/
def unsigned : Text → Bool × Text
  | '-' :: text => (true, text)
  | '+' :: text => (false, text)
  | text => (false, text)

/-- Digits without a needless zero at the start. -/
def isPlainNumber (digits : Text) : Bool := digits.head? != some '0' || digits.length == 1

/-- The least positive number that does not fit into 64 bits with a sign. -/
def integerLimit : Nat := 0x8000000000000000

/-- Whether a text is a whole number: in decimal with an optional sign, or in another base. It has
to fit into 64 bits. -/
def isInteger (text : Text) : Bool :=
  match text with
  | '0' :: 'x' :: digits => (groups? Char.isHexDigit digits).any (Text.numberOf 16 · < integerLimit)
  | '0' :: 'o' :: digits =>
    (groups? (fun c => '0' ≤ c && c ≤ '7') digits).any (Text.numberOf 8 · < integerLimit)
  | '0' :: 'b' :: digits =>
    (groups? (fun c => c = '0' || c = '1') digits).any (Text.numberOf 2 · < integerLimit)
  | text =>
    let (negative, digits) := unsigned text
    (groups? Char.isDigit digits).any fun digits =>
      isPlainNumber digits && Text.numberOf 10 digits < integerLimit + (if negative then 1 else 0)

/-- The digits between underscores, read as a whole number. -/
def grouped (digits : Text) : Nat := Text.numberOf 10 (digits.filter (· != '_'))

/-- Whether a number with the given digits is beyond every positive number of double precision. -/
def isTooLarge (negative : Bool) (whole fraction exponent : Text) : Bool :=
  let places := (fraction.filter (· != '_')).length
  let (downward, size) := unsigned exponent
  let power : Int := if downward then -(grouped size : Int) else grouped size
  Binary.ofDecimal .double negative (grouped (whole ++ fraction)) (power - places) ==
    .infinite false

/-- Whether a text is a number with a fraction or an exponent, or one of the words for what has
neither. It must not be beyond every positive number; below every negative one it may be. -/
def isReal (text : Text) : Bool :=
  let (negative, body) := unsigned text
  if body = "inf".toList || body = "nan".toList then true
  else
    let isExponent := fun (c : Char) => c == 'e' || c == 'E'
    let mantissa := body.takeWhile (!isExponent ·)
    let exponent := body.dropWhile (!isExponent ·)
    let whole := mantissa.takeWhile (· != '.')
    let fraction := mantissa.dropWhile (· != '.')
    (!exponent.isEmpty || !fraction.isEmpty) &&
      (groups? Char.isDigit whole).any isPlainNumber &&
      (fraction.isEmpty || (groups? Char.isDigit fraction.tail).isSome) &&
      (exponent.isEmpty || (groups? Char.isDigit (unsigned exponent.tail).2).isSome) &&
      !isTooLarge negative whole fraction.tail exponent.tail

/-! ### Moments -/

/-- The number written by exactly `count` digits at the front of a text, and the rest. -/
def digits? (count : Nat) (text : Text) : Option (Nat × Text) :=
  let digits := text.take count
  if digits.length = count && digits.all Char.isDigit then
    some (Text.numberOf 10 digits, text.drop count)
  else none

/-- The last day of a month. -/
def lastDay (year month : Nat) : Nat :=
  if month = 2 then
    if year % 4 = 0 && (year % 100 != 0 || year % 400 = 0) then 29 else 28
  else if month = 4 || month = 6 || month = 9 || month = 11 then 30
  else 31

/-- The text behind a date. -/
def date? (text : Text) : Option Text := do
  let (year, text) ← digits? 4 text
  let (month, text) ← digits? 2 (← Text.after? ['-'] text)
  let (day, text) ← digits? 2 (← Text.after? ['-'] text)
  if 1 ≤ month && month ≤ 12 && 1 ≤ day && day ≤ lastDay year month then some text else none

/-- The text behind a time of day. -/
def time? (text : Text) : Option Text := do
  let (hour, text) ← digits? 2 text
  let (minute, text) ← digits? 2 (← Text.after? [':'] text)
  let (second, text) ← digits? 2 (← Text.after? [':'] text)
  if hour ≤ 23 && minute ≤ 59 && second ≤ 60 then
    match text with
    | '.' :: fraction =>
      if (fraction.head?).any Char.isDigit then some (fraction.dropWhile Char.isDigit) else none
    | text => some text
  else none

/-- Whether a text is an offset. -/
def isOffset (text : Text) : Bool :=
  match text with
  | ['Z'] => true
  | ['z'] => true
  | sign :: text =>
    (sign = '+' || sign = '-') &&
      (do
        let (hour, text) ← digits? 2 text
        let (minute, text) ← digits? 2 (← Text.after? [':'] text)
        some (hour ≤ 23 && minute ≤ 59 && text.isEmpty)) == some true
  | [] => false

/-- Whether a character separates a date from a time. -/
def isTimeMark (c : Char) : Bool := c = 'T' || c = 't' || c = ' '

/-- Whether a text is a date, a time of day, or both. -/
def isMoment (text : Text) : Bool :=
  match date? text with
  | none => time? text == some []
  | some [] => true
  | some (mark :: rest) =>
    isTimeMark mark && (time? rest).any fun rest => rest.isEmpty || isOffset rest

end IconComponents.Toml
