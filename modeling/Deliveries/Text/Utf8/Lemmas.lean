import Deliveries.Text.Utf8

/-!
# Reading is inverse to writing

The bytes that are read as a text are exactly the bytes that the text is
written in.  Where reading fails, the length that is reported is that of a text
behind which no character begins.
-/

namespace Deliveries
namespace Text
namespace Utf8

/-! ## Single bytes -/

theorem toNat_ofNat (number : Nat) (small : number < 256) :
    (UInt8.ofNat number).toNat = number := by
  rw [UInt8.toNat_ofNat']
  exact Nat.mod_eq_of_lt small

theorem eq_ofNat {byte : UInt8} {number : Nat} (equal : byte.toNat = number) :
    byte = UInt8.ofNat number := by
  rw [← equal, UInt8.ofNat_toNat]

theorem continuation?_eq_some_iff {byte : UInt8} {low : Nat} :
    continuation? byte = some low ↔ byte.toNat = 0x80 + low ∧ low < 64 := by
  unfold continuation?
  split
  · next inRange =>
    simp only [Option.some.injEq]
    omega
  · next outside =>
    simp only [reduceCtorEq, false_iff]
    omega

theorem toNat_charOfNat {code : Nat} (valid : code.isValidChar) :
    (Char.ofNat code).toNat = code := by
  rw [Char.ofNat, dif_pos valid]
  rfl

theorem scalar?_eq_some_iff {least code : Nat} {character : Char} :
    scalar? least code = some character ↔
      least ≤ character.toNat ∧ code = character.toNat := by
  unfold scalar?
  constructor
  · intro read
    split at read
    · next valid =>
      cases read
      rw [toNat_charOfNat valid.2]
      exact ⟨valid.1, rfl⟩
    · cases read
  · rintro ⟨large, rfl⟩
    rw [if_pos ⟨large, character.valid⟩, Char.ofNat_toNat]

theorem toNat_lt (character : Char) : character.toNat < 0x110000 := by
  have valid : character.toNat.isValidChar := character.valid
  rcases valid with low | high
  · omega
  · omega

/-! ## Two, three and four bytes -/

theorem guard_bind_eq_some_iff {α : Type} {condition : Prop}
    [Decidable condition] {next : Option α} {value : α} :
    ((guard condition : Option Unit) >>= fun _ => next) = some value ↔
      condition ∧ next = some value := by
  by_cases holds : condition
  · have passed : (guard condition : Option Unit) = some () := if_pos holds
    rw [passed]
    simp [holds]
  · have stopped : (guard condition : Option Unit) = none := if_neg holds
    rw [stopped]
    simp [holds]

theorem pair?_eq_some_iff {lead second : UInt8} {character : Char} :
    pair? lead second = some character ↔
      0x80 ≤ character.toNat ∧ character.toNat < 0x800 ∧
        lead.toNat = 0xC0 + character.toNat / 64 ∧
        second.toNat = 0x80 + character.toNat % 64 := by
  unfold pair?
  rw [guard_bind_eq_some_iff]
  simp only [Option.bind_eq_bind, Option.bind_eq_some_iff,
    continuation?_eq_some_iff, scalar?_eq_some_iff]
  constructor
  · rintro ⟨range, low, ⟨read, small⟩, large, code⟩
    omega
  · rintro ⟨large, small, first, last⟩
    exact ⟨by omega, character.toNat % 64, by omega, large, by omega⟩

theorem triple?_eq_some_iff {lead second third : UInt8} {character : Char} :
    triple? lead second third = some character ↔
      0x800 ≤ character.toNat ∧ character.toNat < 0x10000 ∧
        lead.toNat = 0xE0 + character.toNat / 4096 ∧
        second.toNat = 0x80 + character.toNat / 64 % 64 ∧
        third.toNat = 0x80 + character.toNat % 64 := by
  unfold triple?
  rw [guard_bind_eq_some_iff]
  simp only [Option.bind_eq_bind, Option.bind_eq_some_iff,
    continuation?_eq_some_iff, scalar?_eq_some_iff]
  constructor
  · rintro ⟨range, middle, ⟨readMiddle, smallMiddle⟩, low, ⟨read, small⟩,
      large, code⟩
    omega
  · rintro ⟨large, small, first, next, last⟩
    exact ⟨by omega, character.toNat / 64 % 64, by omega,
      character.toNat % 64, by omega, large, by omega⟩

theorem quadruple?_eq_some_iff
    {lead second third fourth : UInt8} {character : Char} :
    quadruple? lead second third fourth = some character ↔
      0x10000 ≤ character.toNat ∧
        lead.toNat = 0xF0 + character.toNat / 262144 ∧
        second.toNat = 0x80 + character.toNat / 4096 % 64 ∧
        third.toNat = 0x80 + character.toNat / 64 % 64 ∧
        fourth.toNat = 0x80 + character.toNat % 64 := by
  have bound := toNat_lt character
  unfold quadruple?
  rw [guard_bind_eq_some_iff]
  simp only [Option.bind_eq_bind, Option.bind_eq_some_iff,
    continuation?_eq_some_iff, scalar?_eq_some_iff]
  constructor
  · rintro ⟨range, high, ⟨readHigh, smallHigh⟩, middle,
      ⟨readMiddle, smallMiddle⟩, low, ⟨read, small⟩, large, code⟩
    omega
  · rintro ⟨large, first, next, after, last⟩
    exact ⟨by omega, character.toNat / 4096 % 64, by omega,
      character.toNat / 64 % 64, by omega, character.toNat % 64, by omega,
      large, by omega⟩

/-! ## Texts -/

theorem encodeChar_of_one {character : Char}
    (one : character.toNat < 0x80) :
    encodeChar character = [.ofNat character.toNat] := by
  simp only [encodeChar, one, if_true]

theorem encodeChar_of_two {character : Char}
    (large : 0x80 ≤ character.toNat) (two : character.toNat < 0x800) :
    encodeChar character =
      [.ofNat (0xC0 + character.toNat / 64),
        .ofNat (0x80 + character.toNat % 64)] := by
  have notOne : ¬ character.toNat < 0x80 := by omega
  simp only [encodeChar, notOne, two, if_false, if_true]

theorem encodeChar_of_three {character : Char}
    (large : 0x800 ≤ character.toNat) (three : character.toNat < 0x10000) :
    encodeChar character =
      [.ofNat (0xE0 + character.toNat / 4096),
        .ofNat (0x80 + character.toNat / 64 % 64),
        .ofNat (0x80 + character.toNat % 64)] := by
  have notOne : ¬ character.toNat < 0x80 := by omega
  have notTwo : ¬ character.toNat < 0x800 := by omega
  simp only [encodeChar, notOne, notTwo, three, if_false, if_true]

theorem encodeChar_of_four {character : Char}
    (large : 0x10000 ≤ character.toNat) :
    encodeChar character =
      [.ofNat (0xF0 + character.toNat / 262144),
        .ofNat (0x80 + character.toNat / 4096 % 64),
        .ofNat (0x80 + character.toNat / 64 % 64),
        .ofNat (0x80 + character.toNat % 64)] := by
  have notOne : ¬ character.toNat < 0x80 := by omega
  have notTwo : ¬ character.toNat < 0x800 := by omega
  have notThree : ¬ character.toNat < 0x10000 := by omega
  simp only [encodeChar, notOne, notTwo, notThree, if_false]

/-- Reading begins with the character that was written first. -/
theorem decode_encodeChar_append (character : Char) (rest : List UInt8) :
    decode (encodeChar character ++ rest) =
      extend (encodeChar character).length character (decode rest) := by
  have bound := toNat_lt character
  by_cases one : character.toNat < 0x80
  · have lead := toNat_ofNat character.toNat (by omega)
    rw [encodeChar_of_one one, List.singleton_append, decode.eq_def]
    simp only [lead, one, if_true, Char.ofNat_toNat, List.length_singleton]
  by_cases two : character.toNat < 0x800
  · have lead := toNat_ofNat (0xC0 + character.toNat / 64)
      (by omega)
    have last := toNat_ofNat (0x80 + character.toNat % 64)
      (by omega)
    have read := pair?_eq_some_iff.mpr ⟨by omega, two, lead, last⟩
    have long : ¬ 0xC0 + character.toNat / 64 < 0x80 := by omega
    rw [encodeChar_of_two (by omega) two]
    simp only [List.cons_append, List.nil_append]
    rw [decode.eq_def]
    simp only [lead, long, if_false, read, List.length_cons, List.length_nil]
  by_cases three : character.toNat < 0x10000
  · have lead := toNat_ofNat (0xE0 + character.toNat / 4096)
      (by omega)
    have middle := toNat_ofNat
      (0x80 + character.toNat / 64 % 64) (by omega)
    have last := toNat_ofNat (0x80 + character.toNat % 64)
      (by omega)
    have read := triple?_eq_some_iff.mpr
      ⟨by omega, three, lead, middle, last⟩
    have long : ¬ 0xE0 + character.toNat / 4096 < 0x80 := by omega
    have noPair : pair? (.ofNat (0xE0 + character.toNat / 4096))
        (.ofNat (0x80 + character.toNat / 64 % 64)) = none := by
      apply Option.eq_none_iff_forall_ne_some.mpr
      intro other paired
      have := pair?_eq_some_iff.mp paired
      omega
    rw [encodeChar_of_three (by omega) three]
    simp only [List.cons_append, List.nil_append]
    rw [decode.eq_def]
    simp only [lead, long, if_false, noPair, read, List.length_cons,
      List.length_nil]
  · have lead := toNat_ofNat (0xF0 + character.toNat / 262144)
      (by omega)
    have high := toNat_ofNat
      (0x80 + character.toNat / 4096 % 64) (by omega)
    have middle := toNat_ofNat
      (0x80 + character.toNat / 64 % 64) (by omega)
    have last := toNat_ofNat (0x80 + character.toNat % 64)
      (by omega)
    have read := quadruple?_eq_some_iff.mpr
      ⟨by omega, lead, high, middle, last⟩
    have long : ¬ 0xF0 + character.toNat / 262144 < 0x80 := by omega
    have noPair : pair? (.ofNat (0xF0 + character.toNat / 262144))
        (.ofNat (0x80 + character.toNat / 4096 % 64)) = none := by
      apply Option.eq_none_iff_forall_ne_some.mpr
      intro other paired
      have := pair?_eq_some_iff.mp paired
      omega
    have noTriple : triple? (.ofNat (0xF0 + character.toNat / 262144))
        (.ofNat (0x80 + character.toNat / 4096 % 64))
        (.ofNat (0x80 + character.toNat / 64 % 64)) = none := by
      apply Option.eq_none_iff_forall_ne_some.mpr
      intro other tripled
      have := triple?_eq_some_iff.mp tripled
      have := toNat_lt other
      omega
    rw [encodeChar_of_four (by omega)]
    simp only [List.cons_append, List.nil_append]
    rw [decode.eq_def]
    simp only [lead, long, if_false, noPair, noTriple, read,
      List.length_cons, List.length_nil]

/-- What was written is read back. -/
@[simp] theorem decode_encode (text : List Char) :
    decode (encode text) = .ok text := by
  induction text with
  | nil => simp
  | cons character rest ih =>
    rw [encode_cons, decode_encodeChar_append, ih, extend_ok]

theorem extend_eq_error_iff {size length : Nat} {character : Char}
    {result : Except Nat (List Char)} :
    extend size character result = .error length ↔
      ∃ later, result = .error later ∧ length = size + later := by
  cases result with
  | ok rest => simp
  | error later =>
    simp only [extend_error, Except.error.injEq]
    constructor
    · intro equal
      exact ⟨later, rfl, equal.symm⟩
    · rintro ⟨_, rfl, equal⟩
      exact equal.symm

/-! ## Characters that are read -/

theorem encodeChar_of_short {first : UInt8} (short : first.toNat < 0x80) :
    encodeChar (Char.ofNat first.toNat) = [first] := by
  have code : (Char.ofNat first.toNat).toNat = first.toNat :=
    toNat_charOfNat (Or.inl (by omega))
  rw [encodeChar_of_one (by omega), code, UInt8.ofNat_toNat]

theorem encodeChar_of_pair? {first second : UInt8} {character : Char}
    (paired : pair? first second = some character) :
    encodeChar character = [first, second] := by
  obtain ⟨large, small, lead, last⟩ := pair?_eq_some_iff.mp paired
  rw [encodeChar_of_two large small, ← eq_ofNat lead, ← eq_ofNat last]

theorem encodeChar_of_triple? {first second third : UInt8} {character : Char}
    (tripled : triple? first second third = some character) :
    encodeChar character = [first, second, third] := by
  obtain ⟨large, small, lead, middle, last⟩ := triple?_eq_some_iff.mp tripled
  rw [encodeChar_of_three large small, ← eq_ofNat lead, ← eq_ofNat middle,
    ← eq_ofNat last]

theorem encodeChar_of_quadruple?
    {first second third fourth : UInt8} {character : Char}
    (quadrupled : quadruple? first second third fourth = some character) :
    encodeChar character = [first, second, third, fourth] := by
  obtain ⟨large, lead, high, middle, last⟩ :=
    quadruple?_eq_some_iff.mp quadrupled
  rw [encodeChar_of_four large, ← eq_ofNat lead, ← eq_ofNat high,
    ← eq_ofNat middle, ← eq_ofNat last]

theorem length_encodeChar_pos (character : Char) :
    0 < (encodeChar character).length := by
  unfold encodeChar
  dsimp only
  split
  · exact Nat.zero_lt_succ _
  split
  · exact Nat.zero_lt_succ _
  split <;> exact Nat.zero_lt_succ _

/-- Bytes begin with a character, or nothing of them is read. -/
theorem decode_cases (bytes : List UInt8) :
    bytes = [] ∨ decode bytes = .error 0 ∨
      ∃ character rest, bytes = encodeChar character ++ rest := by
  cases bytes with
  | nil => exact .inl rfl
  | cons first afterFirst =>
    right
    rw [decode.eq_def]
    dsimp only
    split
    · next short =>
      exact .inr ⟨_, afterFirst, by rw [encodeChar_of_short short]; rfl⟩
    split
    · exact .inl rfl
    split
    · next paired =>
      exact .inr ⟨_, _, by rw [encodeChar_of_pair? paired]; rfl⟩
    split
    · exact .inl rfl
    split
    · next tripled =>
      exact .inr ⟨_, _, by rw [encodeChar_of_triple? tripled]; rfl⟩
    split
    · exact .inl rfl
    split
    · next quadrupled =>
      exact .inr ⟨_, _, by rw [encodeChar_of_quadruple? quadrupled]; rfl⟩
    · exact .inl rfl

/-- Bytes are a text with nothing behind it, or with something behind it of
which nothing is read. -/
theorem exists_eq_encode_append (bytes : List UInt8) :
    ∃ text rest, bytes = encode text ++ rest ∧
      (rest = [] ∨ decode rest = .error 0) := by
  rcases decode_cases bytes with rfl | unread | ⟨character, after, rfl⟩
  · exact ⟨[], [], rfl, .inl rfl⟩
  · exact ⟨[], bytes, rfl, .inr unread⟩
  · obtain ⟨text, rest, rfl, ends⟩ := exists_eq_encode_append after
    exact ⟨character :: text, rest, by rw [encode_cons, List.append_assoc],
      ends⟩
termination_by bytes.length
decreasing_by
  have positive := length_encodeChar_pos character
  subst_vars
  rw [List.length_append]
  omega

/-- A text before bytes that cannot be read adds its length to the one that is
reported. -/
theorem decode_encode_append_of_error
    {rest : List UInt8} {length : Nat} (unread : decode rest = .error length)
    (text : List Char) :
    decode (encode text ++ rest) = .error ((encode text).length + length) := by
  induction text with
  | nil =>
    rw [encode_nil, List.nil_append, unread, List.length_nil, Nat.zero_add]
  | cons character text ih =>
    rw [encode_cons, List.append_assoc, decode_encodeChar_append, ih,
      extend_error, List.length_append, Nat.add_assoc]

/-- The bytes that are read as a text are those that it is written in. -/
theorem decode_eq_ok_iff {bytes : List UInt8} {text : List Char} :
    decode bytes = .ok text ↔ bytes = encode text := by
  constructor
  · intro read
    obtain ⟨front, rest, rfl, rfl | unread⟩ := exists_eq_encode_append bytes
    · rw [List.append_nil, decode_encode] at read
      rw [List.append_nil, Except.ok.inj read]
    · rw [decode_encode_append_of_error unread] at read
      cases read
  · rintro rfl
    exact decode_encode text

/-- Where reading fails, a text of the length that is reported is followed by
something that begins with no character. -/
theorem decode_eq_error_iff {bytes : List UInt8} {length : Nat} :
    decode bytes = .error length ↔
      ∃ text rest, bytes = encode text ++ rest ∧
        (encode text).length = length ∧ rest ≠ [] ∧
        ∀ character after, rest ≠ encodeChar character ++ after := by
  constructor
  · intro failed
    obtain ⟨text, rest, rfl, rfl | unread⟩ := exists_eq_encode_append bytes
    · rw [List.append_nil, decode_encode] at failed
      cases failed
    · rw [decode_encode_append_of_error unread] at failed
      refine ⟨text, rest, rfl, Except.error.inj failed, ?_, ?_⟩
      · rintro rfl
        rw [decode_nil] at unread
        cases unread
      · rintro character after rfl
        rw [decode_encodeChar_append, extend_eq_error_iff] at unread
        obtain ⟨later, _, none⟩ := unread
        have positive := length_encodeChar_pos character
        omega
  · rintro ⟨text, rest, rfl, rfl, nonempty, noCharacter⟩
    rcases decode_cases rest with rfl | unread | ⟨character, after, begins⟩
    · exact absurd rfl nonempty
    · exact decode_encode_append_of_error unread text
    · exact absurd begins (noCharacter character after)

end Utf8

/-- The bytes of a string are read as that string. -/
@[simp] theorem ofBytes_bytesOf (text : String) :
    ofBytes (bytesOf text) = .ok text := by
  rw [ofBytes, bytesOf, Utf8.decode_encode]
  exact congrArg Except.ok String.ofList_toList

/-- Bytes are read as the string whose bytes they are. -/
theorem ofBytes_eq_ok_iff {bytes : List UInt8} {text : String} :
    ofBytes bytes = .ok text ↔ bytes = bytesOf text := by
  constructor
  · intro read
    unfold ofBytes at read
    cases decoded : Utf8.decode bytes with
    | error length =>
      rw [decoded] at read
      cases read
    | ok characters =>
      rw [decoded] at read
      cases read
      rw [bytesOf, String.toList_ofList]
      exact Utf8.decode_eq_ok_iff.mp decoded
  · rintro rfl
    exact ofBytes_bytesOf text

/-- Strings with the same bytes are the same. -/
theorem bytesOf_injective {left right : String}
    (equal : bytesOf left = bytesOf right) : left = right := by
  have read := ofBytes_bytesOf left
  rw [equal, ofBytes_bytesOf] at read
  exact (Except.ok.inj read).symm

/-- Bytes that are no text: they begin with a text of so many bytes and go on
with something that begins with no character. -/
def UnreadableAt (bytes : List UInt8) (length : Nat) : Prop :=
  ∃ text rest, bytes = bytesOf text ++ rest ∧
    (bytesOf text).length = length ∧ rest ≠ [] ∧
    ∀ character after, rest ≠ Utf8.encodeChar character ++ after

/-- Reading fails where the text at the start of the bytes ends. -/
theorem ofBytes_eq_error_iff {bytes : List UInt8} {length : Nat} :
    ofBytes bytes = .error length ↔ UnreadableAt bytes length := by
  have failed : ofBytes bytes = .error length ↔
      Utf8.decode bytes = .error length := by
    unfold ofBytes
    cases Utf8.decode bytes with
    | ok text => simp only [Except.map, reduceCtorEq]
    | error other => simp only [Except.map, Except.error.injEq]
  rw [failed, Utf8.decode_eq_error_iff]
  constructor
  · rintro ⟨text, rest, whole, size, ends⟩
    have same : bytesOf (String.ofList text) = Utf8.encode text := by
      rw [bytesOf, String.toList_ofList]
    exact ⟨String.ofList text, rest, by rw [same, whole], by rw [same, size],
      ends⟩
  · rintro ⟨text, rest, whole, size, ends⟩
    exact ⟨text.toList, rest, whole, size, ends⟩

end Text
end Deliveries
