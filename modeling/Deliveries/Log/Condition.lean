import Deliveries.Log.Pattern.Basic
import Deliveries.Log.Pattern.Reading

/-!
# Conditions on fields

A condition names a field that must be there, and after an equals sign it may
ask for a value: a number, or a pattern that the text of the field is to match.
-/

namespace Deliveries
namespace Log
namespace Condition

/-- The value that a condition asks for: what stands between the first equals
sign and the next. -/
def value? (condition : List Char) : Option (List Char) :=
  match condition.dropWhile (· != '=') with
  | [] => none
  | _ :: rest => some (rest.takeWhile (· != '='))

/-! ## Numbers -/

/-- A text without the sign at its start. -/
def afterSign : List Char -> List Char
  | '+' :: rest => rest
  | '-' :: rest => rest
  | text => text

/-- Whether a text begins with a digit. -/
def beginsWithDigit (text : List Char) : Bool :=
  text.head?.any Char.isDigit

/-- Whether a text is empty or an exponent. -/
def isExponent : List Char -> Bool
  | [] => true
  | mark :: rest =>
    let digits := afterSign rest
    (mark == 'e' || mark == 'E') && !digits.isEmpty && digits.all Char.isDigit

/-- Whether a text is a decimal number without a sign.  Digits may be missing
on one side of the point. -/
def isDecimal (text : List Char) : Bool :=
  match text.dropWhile Char.isDigit with
  | '.' :: fraction =>
    (beginsWithDigit text || beginsWithDigit fraction) &&
      isExponent (fraction.dropWhile Char.isDigit)
  | rest => beginsWithDigit text && isExponent rest

/-- The words for what is no finite number. -/
def numberWords : List String := ["inf", "infinity", "nan"]

/-- Whether a text is a number, in whichever case its letters are. -/
def isNumber (text : List Char) : Bool :=
  let unsigned := afterSign text
  isDecimal unsigned ||
    numberWords.contains (String.ofList (unsigned.map Char.toLower))

/-! ## Readability -/

/-- Whether a value can be asked for. -/
def isValue (text : List Char) : Bool :=
  isNumber text || (Pattern.parse? text).any Pattern.isSupported

/-- Whether a condition can be read: it is not empty, and the value that it
asks for, if any, can be asked for. -/
def isReadable (condition : List Char) : Bool :=
  !condition.isEmpty && (value? condition).all isValue

end Condition
end Log
end Deliveries
