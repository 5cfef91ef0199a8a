/-!
# Text as bytes

Characters are written in UTF-8, one to four bytes each.  Reading accepts
exactly the bytes that writing produces; on any other list of bytes it reports
the length of the longest leading part that is text.
-/

namespace Deliveries
namespace Text
namespace Utf8

/-! ## Writing -/

/-- The bytes of one character: a lead byte, then six bits in each further
byte. -/
def encodeChar (character : Char) : List UInt8 :=
  let code := character.toNat
  if code < 0x80 then
    [.ofNat code]
  else if code < 0x800 then
    [.ofNat (0xC0 + code / 64), .ofNat (0x80 + code % 64)]
  else if code < 0x10000 then
    [.ofNat (0xE0 + code / 4096), .ofNat (0x80 + code / 64 % 64),
      .ofNat (0x80 + code % 64)]
  else
    [.ofNat (0xF0 + code / 262144), .ofNat (0x80 + code / 4096 % 64),
      .ofNat (0x80 + code / 64 % 64), .ofNat (0x80 + code % 64)]

/-- The bytes of a text. -/
def encode (text : List Char) : List UInt8 :=
  text.flatMap encodeChar

@[simp] theorem encode_nil : encode [] = [] := rfl

@[simp] theorem encode_cons (character : Char) (text : List Char) :
    encode (character :: text) = encodeChar character ++ encode text := rfl

@[simp] theorem encode_append (left right : List Char) :
    encode (left ++ right) = encode left ++ encode right := by
  simp [encode]

/-! ## Reading -/

/-- The six bits of a byte that continues a character. -/
def continuation? (byte : UInt8) : Option Nat :=
  if 0x80 ≤ byte.toNat ∧ byte.toNat < 0xC0 then
    some (byte.toNat - 0x80)
  else
    none

/-- The character of a code point that needs the bytes it was written in. -/
def scalar? (least code : Nat) : Option Char :=
  if least ≤ code ∧ code.isValidChar then some (Char.ofNat code) else none

/-- The character of two bytes. -/
def pair? (lead second : UInt8) : Option Char := do
  guard (0xC0 ≤ lead.toNat ∧ lead.toNat < 0xE0)
  let low ← continuation? second
  scalar? 0x80 ((lead.toNat - 0xC0) * 64 + low)

/-- The character of three bytes. -/
def triple? (lead second third : UInt8) : Option Char := do
  guard (0xE0 ≤ lead.toNat ∧ lead.toNat < 0xF0)
  let middle ← continuation? second
  let low ← continuation? third
  scalar? 0x800 ((lead.toNat - 0xE0) * 4096 + middle * 64 + low)

/-- The character of four bytes. -/
def quadruple? (lead second third fourth : UInt8) : Option Char := do
  guard (0xF0 ≤ lead.toNat ∧ lead.toNat < 0xF8)
  let high ← continuation? second
  let middle ← continuation? third
  let low ← continuation? fourth
  scalar? 0x10000
    ((lead.toNat - 0xF0) * 262144 + high * 4096 + middle * 64 + low)

/-- Puts a character of the given size before what was read after it. -/
def extend (size : Nat) (character : Char) :
    Except Nat (List Char) -> Except Nat (List Char)
  | .ok text => .ok (character :: text)
  | .error length => .error (size + length)

@[simp] theorem extend_ok (size : Nat) (character : Char) (text : List Char) :
    extend size character (.ok text) = .ok (character :: text) := rfl

@[simp] theorem extend_error (size length : Nat) (character : Char) :
    extend size character (.error length) = .error (size + length) := rfl

/-- The text of a list of bytes, or the length of its longest leading part
that is text. -/
def decode : List UInt8 -> Except Nat (List Char)
  | [] => .ok []
  | first :: afterFirst =>
    if first.toNat < 0x80 then
      extend 1 (Char.ofNat first.toNat) (decode afterFirst)
    else
      match afterFirst with
      | [] => .error 0
      | second :: afterSecond =>
        match pair? first second with
        | some character => extend 2 character (decode afterSecond)
        | none =>
          match afterSecond with
          | [] => .error 0
          | third :: afterThird =>
            match triple? first second third with
            | some character => extend 3 character (decode afterThird)
            | none =>
              match afterThird with
              | [] => .error 0
              | fourth :: afterFourth =>
                match quadruple? first second third fourth with
                | some character => extend 4 character (decode afterFourth)
                | none => .error 0

@[simp] theorem decode_nil : decode [] = .ok [] := by
  simp [decode]

end Utf8

/-- The bytes of a string. -/
def bytesOf (text : String) : List UInt8 :=
  Utf8.encode text.toList

/-- The string that bytes write, or the length of their longest leading part
that is text. -/
def ofBytes (bytes : List UInt8) : Except Nat String :=
  (Utf8.decode bytes).map String.ofList

end Text
end Deliveries
