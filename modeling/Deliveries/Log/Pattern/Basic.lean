/-!
# Patterns of texts

A pattern describes texts by literal characters, classes of characters,
repetition, sequence and choice.  Within a group it may switch how its
remainder is read.  Not every pattern that can be written can be compiled: what
would need tables of characters beyond ASCII, what could split a character into
its bytes, and what is nested too deeply is not supported.
-/

namespace Deliveries
namespace Log

/-- A way of reading that a pattern can turn on or off. -/
inductive Switch where
  | ignoreCase
  | multipleLines
  | dotMatchesAll
  | swapGreed
  | unicode
  | carriageReturns
  | ignoreBlanks
deriving DecidableEq

/-- Switches with their new positions, in the order written. -/
abbrev Settings := List (Switch × Bool)

/-- A character that stands for itself, and whether it was written as the
number of one byte. -/
structure Literal where
  character : Char
  isByte : Bool
deriving DecidableEq

/-- What may stand between the brackets of a class. -/
inductive ClassSet where
  | empty
  | literal (single : Literal)
  | range (first last : Literal)
  | named (negated : Bool)
  | shorthand (negated : Bool)
  | bracketed (negated : Bool) (members : ClassSet)
  | union (members : List ClassSet)
  | operation (left right : ClassSet)

/-- A pattern as it is written. -/
inductive Pattern where
  | empty
  | literal (single : Literal)
  | anyCharacter
  | textEdge
  | wordEdge
  | shorthand (negated : Bool)
  | characterClass (members : ClassSet)
  | settings (changes : Settings)
  | repetition (part : Pattern)
  | group (changes : Settings) (part : Pattern)
  | sequence (parts : List Pattern)
  | choice (parts : List Pattern)

/-! ## Depth -/

mutual

/-- How deep the parts of a class are nested. -/
def ClassSet.depth : ClassSet -> Nat
  | .empty => 0
  | .literal _ => 0
  | .range _ _ => 0
  | .named _ => 0
  | .shorthand _ => 0
  | .bracketed _ members => members.depth + 1
  | .union members => ClassSet.greatestDepth members + 1
  | .operation left right => max left.depth right.depth + 1

/-- The greatest depth of several parts of a class. -/
def ClassSet.greatestDepth : List ClassSet -> Nat
  | [] => 0
  | member :: rest => max member.depth (ClassSet.greatestDepth rest)

end

mutual

/-- How deep the parts of a pattern are nested. -/
def Pattern.depth : Pattern -> Nat
  | .empty => 0
  | .literal _ => 0
  | .anyCharacter => 0
  | .textEdge => 0
  | .wordEdge => 0
  | .shorthand _ => 0
  | .characterClass members => members.depth
  | .settings _ => 0
  | .repetition part => part.depth + 1
  | .group _ part => part.depth + 1
  | .sequence parts => Pattern.greatestDepth parts + 1
  | .choice parts => Pattern.greatestDepth parts + 1

/-- The greatest depth of several parts of a pattern. -/
def Pattern.greatestDepth : List Pattern -> Nat
  | [] => 0
  | part :: rest => max part.depth (Pattern.greatestDepth rest)

end

/-- How deep a pattern may be nested. -/
def deepestPattern : Nat := 250

/-! ## Support -/

/-- How a part of a pattern is read: whether the case of letters counts, and
whether in characters or in bytes. -/
structure Mode where
  ignoresCase : Bool
  isUnicode : Bool
deriving DecidableEq

namespace Mode

/-- How a pattern is read from its start. -/
def initial : Mode := ⟨false, true⟩

/-- Moves switches; the others stay where they are. -/
def set (mode : Mode) (settings : Settings) : Mode :=
  ⟨(settings.lookup .ignoreCase).getD mode.ignoresCase,
    (settings.lookup .unicode).getD mode.isUnicode⟩

/-- Letters beyond ASCII have no known case, so no character can be compared
without regard to case unless bytes are compared. -/
def knowsCases (mode : Mode) : Bool :=
  !(mode.isUnicode && mode.ignoresCase)

/-- Whether a literal is supported: a byte beyond ASCII is no character. -/
def allows (mode : Mode) (literal : Literal) : Bool :=
  mode.knowsCases &&
    (mode.isUnicode || !literal.isByte ||
      decide (literal.character.toNat < 0x80))

/-- Whether a literal is supported in a class, which holds single bytes unless
it holds characters. -/
def allowsMember (mode : Mode) (literal : Literal) : Bool :=
  mode.knowsCases &&
    (mode.isUnicode || decide (literal.character.toNat < 0x80))

/-- Whether a class such as `\d` is supported: of characters there is no table,
and what is left of the bytes could split a character. -/
def allowsShorthand (mode : Mode) (negated : Bool) : Bool :=
  !mode.isUnicode && !negated

end Mode

mutual

/-- Whether a class is supported. -/
def ClassSet.isSupported (mode : Mode) : ClassSet -> Bool
  | .empty => true
  | .literal single => mode.allowsMember single
  | .range first last => mode.allowsMember first && mode.allowsMember last
  | .named negated => mode.knowsCases && (mode.isUnicode || !negated)
  | .shorthand negated => mode.allowsShorthand negated
  | .bracketed negated members =>
    (mode.isUnicode || !negated) && members.isSupported mode
  | .union members => ClassSet.areSupported mode members
  | .operation left right => left.isSupported mode && right.isSupported mode

/-- Whether several parts of a class are supported. -/
def ClassSet.areSupported (mode : Mode) : List ClassSet -> Bool
  | [] => true
  | member :: rest =>
    member.isSupported mode && ClassSet.areSupported mode rest

end

mutual

/-- How what follows a pattern is read, if the pattern itself is supported. -/
def Pattern.modeAfter? : Pattern -> Mode -> Option Mode
  | .empty, mode => some mode
  | .literal single, mode => if mode.allows single then some mode else none
  | .anyCharacter, mode => if mode.isUnicode then some mode else none
  | .textEdge, mode => some mode
  | .wordEdge, mode => if mode.isUnicode then none else some mode
  | .shorthand negated, mode =>
    if mode.allowsShorthand negated then some mode else none
  | .characterClass members, mode =>
    if members.isSupported mode then some mode else none
  | .settings changes, mode => some (mode.set changes)
  | .repetition part, mode => part.modeAfter? mode
  | .group changes part, mode =>
    (part.modeAfter? (mode.set changes)).map fun _ => mode
  | .sequence parts, mode => Pattern.modeAfterAll? parts mode
  | .choice parts, mode => Pattern.modeAfterAll? parts mode

/-- How what follows several patterns is read, if they are supported. -/
def Pattern.modeAfterAll? : List Pattern -> Mode -> Option Mode
  | [], mode => some mode
  | part :: rest, mode =>
    match part.modeAfter? mode with
    | none => none
    | some mode => Pattern.modeAfterAll? rest mode

end

/-- Whether a pattern can be compiled. -/
def Pattern.isSupported (pattern : Pattern) : Bool :=
  decide (pattern.depth ≤ deepestPattern) &&
    (pattern.modeAfter? .initial).isSome

end Log
end Deliveries
