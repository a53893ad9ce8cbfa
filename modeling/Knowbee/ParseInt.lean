import Knowbee.JavaScript

/-!
# Reading integers

`Number.parseInt` with the radix 10.  Integers keep all their digits, where the
language rounds those above 2^53; what would round above all numbers is infinite.
-/

namespace Knowbee

def decimalValue (digits : List Char) : Nat :=
  digits.foldl (fun value digit => value * 10 + (digit.toNat - 48)) 0

/-- `Number.parseInt(text, 10)`. -/
def parseInt (text : List Char) : JsNumber :=
  let read (sign : Int) (chars : List Char) : JsNumber :=
    let digits := chars.takeWhile Char.isDigit
    if digits = [] then .nan
    else if 2 ^ 1024 - 2 ^ 970 ≤ decimalValue digits then
      if sign < 0 then .negInfinity else .infinity
    else .finite (sign * decimalValue digits : Int)
  match text.dropWhile isTrimmed with
  | '-' :: rest => read (-1) rest
  | '+' :: rest => read 1 rest
  | rest => read 1 rest

end Knowbee
