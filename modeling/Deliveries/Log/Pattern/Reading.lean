import Deliveries.Log.Pattern.Basic
import Deliveries.Text.Alphanumeric
import Deliveries.Text.Blank

/-!
# Reading patterns

A pattern is read from left to right.  Where blanks are ignored, blanks and
comments may stand between its parts.  Neither counts in braces nor characters
named in braces are read: what is read here never holds a closing brace.
-/

namespace Deliveries
namespace Log
namespace Pattern

/-! ## Gaps -/

/-- Drops blanks, and comments, which run from a number sign to the end of the
line. -/
def dropGap (inComment : Bool) : List Char -> List Char
  | [] => []
  | character :: rest =>
    if inComment then dropGap (character != '\n') rest
    else if Text.isBlank character then dropGap false rest
    else if character = '#' then dropGap true rest
    else character :: rest

/-- What follows the gap at the start of a text, if there may be one. -/
def afterGap (ignoresBlanks : Bool) (text : List Char) : List Char :=
  if ignoresBlanks then dropGap false text else text

/-- The character after a gap.  Of a comment only the number sign is passed
over. -/
def peek? (ignoresBlanks : Bool) (text : List Char) : Option Char :=
  if ignoresBlanks then
    match Text.skipBlanks text with
    | '#' :: rest => (Text.skipBlanks rest).head?
    | rest => rest.head?
  else
    text.head?

/-! ## Escapes -/

/-- The value of a hexadecimal digit. -/
def hexDigit? (character : Char) : Option Nat :=
  if character.isDigit then
    some (character.toNat - '0'.toNat)
  else if 'a' ≤ character ∧ character ≤ 'f' then
    some (character.toNat - 'a'.toNat + 10)
  else if 'A' ≤ character ∧ character ≤ 'F' then
    some (character.toNat - 'A'.toNat + 10)
  else
    none

/-- Reads a number of so many hexadecimal digits, behind those whose value is
given. -/
def readHex? (ignoresBlanks : Bool) :
    Nat -> Nat -> List Char -> Option (Nat × List Char)
  | 0, value, text => some (value, text)
  | count + 1, value, text =>
    match afterGap ignoresBlanks text with
    | [] => none
    | character :: rest => do
      let digit ← hexDigit? character
      readHex? ignoresBlanks count (value * 16 + digit) rest

/-- Reads a character that is written as its number. -/
def readNumbered? (ignoresBlanks : Bool) (digits : Nat) (text : List Char) :
    Option (Pattern × List Char) := do
  let (number, rest) ← readHex? ignoresBlanks digits 0 text
  if number.isValidChar then
    return (.literal ⟨Char.ofNat number, digits == 2⟩, rest)
  else
    none

/-- Whether a character stands for itself behind a backslash. -/
def isEscapable (character : Char) : Bool :=
  decide (character.toNat < 0x80) && !character.isAlphanum

/-- Reads what follows a backslash. -/
def readEscape? (ignoresBlanks : Bool) :
    List Char -> Option (Pattern × List Char)
  | [] => none
  | character :: rest =>
    let control (code : Char) := some (.literal ⟨code, false⟩, rest)
    match character with
    | 'x' => readNumbered? ignoresBlanks 2 rest
    | 'u' => readNumbered? ignoresBlanks 4 rest
    | 'U' => readNumbered? ignoresBlanks 8 rest
    | 'd' | 's' | 'w' => some (.shorthand false, rest)
    | 'D' | 'S' | 'W' => some (.shorthand true, rest)
    | 'A' | 'z' => some (.textEdge, rest)
    | 'b' | 'B' | '<' | '>' => some (.wordEdge, rest)
    | 'a' => control '\x07'
    | 't' => control '\t'
    | 'n' => control '\n'
    | 'v' => control '\x0b'
    | 'f' => control '\x0c'
    | 'r' => control '\r'
    | other =>
      if isEscapable other then some (.literal ⟨other, false⟩, rest) else none

/-! ## Classes -/

/-- The classes that have a name. -/
def classNames : List String :=
  ["alnum", "alpha", "ascii", "blank", "cntrl", "digit", "graph", "lower",
    "print", "punct", "space", "upper", "word", "xdigit"]

/-- Reads the name of a class, with the colon and bracket after it. -/
def readClassName? (text : List Char) : Option (List Char) :=
  match text.dropWhile (· != ':') with
  | ':' :: ']' :: rest =>
    if classNames.contains (String.ofList (text.takeWhile (· != ':'))) then
      some rest
    else
      none
  | _ => none

/-- Reads a named class behind its opening bracket. -/
def readNamed? : List Char -> Option (ClassSet × List Char)
  | ':' :: '^' :: rest =>
    (readClassName? rest).map fun rest => (.named true, rest)
  | ':' :: rest => (readClassName? rest).map fun rest => (.named false, rest)
  | _ => none

/-- Reads one character of a class, which may be escaped. -/
def readItem? (ignoresBlanks : Bool) :
    List Char -> Option (Pattern × List Char)
  | [] => none
  | '\\' :: rest => readEscape? ignoresBlanks rest
  | character :: rest => some (.literal ⟨character, false⟩, rest)

/-- What may stand in a class as one of its members. -/
def member? : Pattern -> Option ClassSet
  | .literal single => some (.literal single)
  | .shorthand negated => some (.shorthand negated)
  | _ => none

/-- A range between two literals in order. -/
def range? : Pattern -> Pattern -> Option ClassSet
  | .literal first, .literal last =>
    if first.character ≤ last.character then some (.range first last) else none
  | _, _ => none

/-- Reads a member of a class, or a range.  A hyphen before a bracket or before
another hyphen makes no range. -/
def readMember? (ignoresBlanks : Bool) (text : List Char) :
    Option (ClassSet × List Char) := do
  let (first, rest) ← readItem? ignoresBlanks text
  match afterGap ignoresBlanks rest with
  | '-' :: behind =>
    let next := peek? ignoresBlanks behind
    if next = some ']' ∨ next = some '-' then
      return (← member? first, '-' :: behind)
    else
      let (last, rest) ← readItem? ignoresBlanks (afterGap ignoresBlanks behind)
      return (← range? first last, rest)
  | rest => return (← member? first, rest)

/-- Reads a circumflex, which negates a class. -/
def readNegation (ignoresBlanks : Bool) (text : List Char) :
    Bool × List Char :=
  match afterGap ignoresBlanks text with
  | '^' :: rest => (true, rest)
  | rest => (false, rest)

/-- The part of a class that has been read: the left side of an operation and
the members since, last first.  At its start hyphens, and a bracket before
all else, stand for themselves. -/
structure OpenClass where
  left : Option ClassSet
  members : List ClassSet
  isAtStart : Bool

namespace OpenClass

/-- A class of which nothing has been read. -/
def start : OpenClass := ⟨none, [], true⟩

/-- Adds a member. -/
def add (held : OpenClass) (member : ClassSet) : OpenClass :=
  ⟨held.left, member :: held.members, false⟩

/-- Adds a hyphen at the start. -/
def addHyphen (held : OpenClass) : OpenClass :=
  ⟨held.left, .literal ⟨'-', false⟩ :: held.members, held.isAtStart⟩

/-- What has been read since the last operator. -/
def right (held : OpenClass) : ClassSet :=
  match held.members with
  | [] => .empty
  | [member] => member
  | members => .union members.reverse

/-- All that has been read. -/
def close (held : OpenClass) : ClassSet :=
  match held.left with
  | none => held.right
  | some left => .operation left held.right

/-- Passes an operator. -/
def operate (held : OpenClass) : OpenClass := ⟨some held.close, [], false⟩

end OpenClass

/-- Reads the rest of a class and its closing bracket.  Every step reads a
character, so that the length of the text bounds the steps. -/
def readClass? (ignoresBlanks : Bool) :
    Nat -> OpenClass -> List Char -> Option (ClassSet × List Char)
  | 0, _, _ => none
  | steps + 1, held, text =>
    match afterGap ignoresBlanks text with
    | [] => none
    | '[' :: rest =>
      match readNamed? rest with
      | some (named, rest) =>
        readClass? ignoresBlanks steps (held.add named) rest
      | none => do
        let (negated, rest) := readNegation ignoresBlanks rest
        let (members, rest) ← readClass? ignoresBlanks steps .start rest
        readClass? ignoresBlanks steps
          (held.add (.bracketed negated members)) rest
    | ']' :: rest =>
      if held.isAtStart && held.members.isEmpty then
        readClass? ignoresBlanks steps
          (held.add (.literal ⟨']', false⟩)) rest
      else
        some (held.close, rest)
    | '&' :: '&' :: rest => readClass? ignoresBlanks steps held.operate rest
    | '~' :: '~' :: rest => readClass? ignoresBlanks steps held.operate rest
    | '-' :: rest =>
      if held.isAtStart then
        readClass? ignoresBlanks steps held.addHyphen rest
      else
        match rest with
        | '-' :: rest => readClass? ignoresBlanks steps held.operate rest
        | _ => do
          let (member, rest) ← readMember? ignoresBlanks ('-' :: rest)
          readClass? ignoresBlanks steps (held.add member) rest
    | text => do
      let (member, rest) ← readMember? ignoresBlanks text
      readClass? ignoresBlanks steps (held.add member) rest

/-! ## Groups -/

/-- The switch that a letter names. -/
def switch? : Char -> Option Switch
  | 'i' => some .ignoreCase
  | 'm' => some .multipleLines
  | 's' => some .dotMatchesAll
  | 'U' => some .swapGreed
  | 'u' => some .unicode
  | 'R' => some .carriageReturns
  | 'x' => some .ignoreBlanks
  | _ => none

/-- Reads switches up to a colon or parenthesis.  None is named twice, and a
hyphen, behind which they are turned off, comes once and not last. -/
def readSettings? (changes : Settings) (turnsOff dangles : Bool) :
    List Char -> Option (Settings × List Char)
  | [] => none
  | character :: rest =>
    if character = ':' ∨ character = ')' then
      if dangles then none else some (changes, character :: rest)
    else if character = '-' then
      if turnsOff then none else readSettings? changes true true rest
    else do
      let switch ← switch? character
      if (changes.lookup switch).isSome then
        none
      else
        readSettings? (changes ++ [(switch, !turnsOff)]) turnsOff false rest

/-- Whether a text may name a group: a letter or low line, then letters, digits
and the signs `_`, `.`, `[` and `]`. -/
def isGroupName : List Char -> Bool
  | [] => false
  | first :: rest =>
    (first == '_' || Text.isAlphabetic first) &&
      rest.all fun character =>
        "_.[]".toList.contains character || Text.isAlphanumeric character

/-- What stands behind an opening parenthesis: switches for what follows, or
the opening of a group, which may have a name and switches of its own. -/
inductive Opening where
  | settings (changes : Settings)
  | group (name : Option (List Char)) (changes : Settings)

/-- Reads the name of a group and the angle bracket after it. -/
def readGroupName? (text : List Char) : Option (Opening × List Char) :=
  match text.dropWhile (· != '>') with
  | [] => none
  | _ :: rest =>
    let name := text.takeWhile (· != '>')
    if isGroupName name then some (.group (some name) [], rest) else none

/-- Reads what stands behind an opening parenthesis.  Without switches there is
nothing to set. -/
def readOpening? (text : List Char) : Option (Opening × List Char) :=
  match text with
  | '?' :: 'P' :: '<' :: rest => readGroupName? rest
  | '?' :: '<' :: rest => readGroupName? rest
  | '?' :: rest =>
    match readSettings? [] false false rest with
    | some (changes, ':' :: rest) => some (.group none changes, rest)
    | some ([], _) => none
    | some (changes, _ :: rest) => some (.settings changes, rest)
    | _ => none
  | _ => some (.group none [], text)

/-! ## Patterns -/

/-- The part of a group that has been read: its finished choices and the parts
since, last first, with the names of all groups so far. -/
structure OpenGroup where
  ignoresBlanks : Bool
  names : List (List Char)
  choices : List Pattern
  parts : List Pattern

namespace OpenGroup

/-- A group of which nothing has been read. -/
def start (ignoresBlanks : Bool) (names : List (List Char)) : OpenGroup :=
  ⟨ignoresBlanks, names, [], []⟩

/-- Adds a part. -/
def add (held : OpenGroup) (part : Pattern) : OpenGroup :=
  { held with parts := part :: held.parts }

/-- The sequence of the parts. -/
def sequence (held : OpenGroup) : Pattern :=
  match held.parts with
  | [] => .empty
  | [part] => part
  | parts => .sequence parts.reverse

/-- Begins another choice. -/
def choose (held : OpenGroup) : OpenGroup :=
  { held with choices := held.sequence :: held.choices, parts := [] }

/-- All that has been read. -/
def close (held : OpenGroup) : Pattern :=
  match held.choices with
  | [] => held.sequence
  | choices => .choice (held.sequence :: choices).reverse

/-- Repeats the last part.  Switches are nothing to repeat. -/
def repeat? (held : OpenGroup) : Option OpenGroup :=
  match held.parts with
  | [] => none
  | .settings _ :: _ => none
  | part :: parts => some { held with parts := .repetition part :: parts }

end OpenGroup

/-- Passes the question mark with which a repetition stops early. -/
def afterLaziness : List Char -> List Char
  | '?' :: rest => rest
  | text => text

/-- Whether blanks are ignored under the given switches. -/
def blanksAfter (ignoresBlanks : Bool) (changes : Settings) : Bool :=
  (changes.lookup .ignoreBlanks).getD ignoresBlanks

/-- Reads the rest of a group up to its closing parenthesis or the end.  Every
step reads a character, so that the length of the text bounds the steps. -/
def readGroup? :
    Nat -> OpenGroup -> List Char -> Option (OpenGroup × List Char)
  | 0, _, _ => none
  | steps + 1, held, text =>
    match afterGap held.ignoresBlanks text with
    | [] => some (held, [])
    | ')' :: rest => some (held, ')' :: rest)
    | '|' :: rest => readGroup? steps held.choose rest
    | '(' :: rest => do
      match ← readOpening? (afterGap held.ignoresBlanks rest) with
      | (.settings changes, rest) =>
        readGroup? steps
          { held.add (.settings changes) with
            ignoresBlanks := blanksAfter held.ignoresBlanks changes }
          rest
      | (.group name changes, rest) =>
        if name.any held.names.contains then
          none
        else
          let inner := OpenGroup.start
            (blanksAfter held.ignoresBlanks changes)
            (name.toList ++ held.names)
          match ← readGroup? steps inner rest with
          | (inner, ')' :: rest) =>
            readGroup? steps
              { held.add (.group changes inner.close) with
                names := inner.names }
              rest
          | _ => none
    | '[' :: rest => do
      let (negated, rest) := readNegation held.ignoresBlanks rest
      let (members, rest) ←
        readClass? held.ignoresBlanks steps .start rest
      readGroup? steps
        (held.add (.characterClass (.bracketed negated members))) rest
    | '*' :: rest => do readGroup? steps (← held.repeat?) (afterLaziness rest)
    | '+' :: rest => do readGroup? steps (← held.repeat?) (afterLaziness rest)
    | '?' :: rest => do readGroup? steps (← held.repeat?) (afterLaziness rest)
    | '\x7b' :: _ => none
    | '\\' :: rest => do
      let (part, rest) ← readEscape? held.ignoresBlanks rest
      readGroup? steps (held.add part) rest
    | '.' :: rest => readGroup? steps (held.add .anyCharacter) rest
    | '^' :: rest => readGroup? steps (held.add .textEdge) rest
    | '$' :: rest => readGroup? steps (held.add .textEdge) rest
    | character :: rest =>
      readGroup? steps (held.add (.literal ⟨character, false⟩)) rest

/-- Reads a whole pattern. -/
def parse? (text : List Char) : Option Pattern :=
  match readGroup? (text.length + 1) (.start false []) text with
  | some (held, []) => some held.close
  | _ => none

end Pattern
end Log
end Deliveries
