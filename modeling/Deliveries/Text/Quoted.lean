import Deliveries.Text.Unprintable

/-!
# Quoted text

A quoted text stands between double quotes.  Quotes and backslashes in it have
a backslash before them, the common control characters have short names, and
any other unprintable character is written by its code point.
-/

namespace Deliveries
namespace Text

/-- One character of a quoted text. -/
def quotedChar (character : Char) : List Char :=
  match character with
  | '"' => ['\\', '"']
  | '\\' => ['\\', '\\']
  | '\n' => ['\\', 'n']
  | '\r' => ['\\', 'r']
  | '\t' => ['\\', 't']
  | '\x00' => ['\\', '0']
  | _ =>
    if isUnprintable character then
      ['\\', 'u', '\x7b'] ++ Nat.toDigits 16 character.toNat ++ ['\x7d']
    else
      [character]

/-- A text between double quotes. -/
def quoted (text : String) : String :=
  String.ofList ('"' :: text.toList.flatMap quotedChar ++ ['"'])

end Text
end Deliveries
