import Deliveries.Log.Condition
import Deliveries.Log.Event
import Deliveries.Text.Alphanumeric
import Deliveries.Text.Blank

/-!
# Filters of events

A filter is a list of directives with commas between them.  A directive is a
level for all events, or a target with a level for the events whose target
begins with it; it may name fields that an event must have, and spans, inside
which alone it holds.  Of the directives that concern an event the most
specific one decides, and of equal ones the last; an event that none concerns
does not pass.
-/

namespace Deliveries
namespace Log

/-- One directive as it is written. -/
structure Directive where
  threshold : Threshold
  target : Option (List Char)
  span : Option (List Char)
  fields : List (List Char)
deriving DecidableEq

namespace Directive

/-! ## Reading -/

/-- The part of a directive that is being read, with the place at which it
begins.  Places count the bytes before them. -/
inductive Part where
  | start
  | word (first : Nat)
  | span (first : Nat)
  | field (first : Nat)
  | afterFields
  | afterSpan
  | level (first : Nat)

/-- The directive that lets every event pass. -/
def everything : Directive := ⟨some .trace, none, none, []⟩

/-- Splits a text behind so many bytes, which must not end inside a
character. -/
def splitAt? : Nat -> List Char -> Option (List Char × List Char)
  | 0, text => some ([], text)
  | _ + 1, [] => none
  | size + 1, character :: rest => do
    if size + 1 < character.utf8Size then
      none
    else
      let (before, behind) ← splitAt? (size + 1 - character.utf8Size) rest
      return (character :: before, behind)

/-- The text from a place on. -/
def cutFrom? (text : List Char) (first : Nat) : Option (List Char) :=
  (splitAt? first text).map Prod.snd

/-- The text from one place up to another. -/
def cut? (text : List Char) (first last : Nat) : Option (List Char) := do
  let (piece, _) ← splitAt? (last - first) (← cutFrom? text first)
  return piece

/-- What a directive may begin with, next to a bracket: letters, digits and
three signs. -/
def opens (character : Char) : Bool :=
  Text.isAlphanumeric character || character == '-' || character == ':' ||
    character == '_'

/-- Reads one character, which stands at `place`. -/
def step? (text : List Char) (part : Part) (directive : Directive)
    (place : Nat) (character : Char) : Option (Part × Directive) :=
  match part with
  | .start =>
    if character = '[' then some (.span (place + 1), directive)
    else if opens character then some (.word place, directive)
    else none
  | .word first =>
    if character = '=' then do
      let target ← cut? text first place
      return (.level (place + 1), { directive with target := some target })
    else if character = '[' then do
      let target ← cut? text first place
      return (.span (place + 1), { directive with target := some target })
    else
      some (part, directive)
  | .span first =>
    if character = ']' then do
      let name ← cut? text first place
      return (.afterSpan, { directive with span := some name })
    else if character = '\x7b' then do
      let name ← cut? text first place
      return (.field (place + 1),
        { directive with span := if name.isEmpty then none else some name })
    else
      some (part, directive)
  | .field first =>
    if character = '\x7d' then do
      let field ← cut? text first place
      if Condition.isReadable field then
        return (.afterFields,
          { directive with fields := directive.fields ++ [field] })
      else
        none
    else
      some (part, directive)
  | .afterFields =>
    if character = ']' then some (.afterSpan, directive) else none
  | .afterSpan =>
    if character = '=' then some (.level (place + 1), directive) else none
  | .level _ => some (part, directive)

/-- The directive that is complete when the text ends in the given part. -/
def finish? (text : List Char) (part : Part) (directive : Directive) :
    Option Directive :=
  match part with
  | .word first => do
    let word ← cutFrom? text first
    match Threshold.parse? word with
    | some threshold => return { directive with threshold }
    | none => return { directive with target := some word }
  | .level first => do
    match ← cutFrom? text first with
    | [] => return directive
    | word => return { directive with threshold := ← Threshold.parse? word }
  | .afterSpan => some directive
  | _ => none

/-- Reads the remaining characters, the first of which stands at `place`. -/
def parseFrom? (text : List Char) (part : Part) (directive : Directive)
    (place : Nat) : List Char -> Option Directive
  | [] => finish? text part directive
  | character :: rest => do
    let (part, directive) ← step? text part directive place character
    parseFrom? text part directive (place + character.utf8Size) rest

/-- A text without the blanks at its ends. -/
def trimmed (text : List Char) : List Char :=
  (Text.skipBlanks (Text.skipBlanks text).reverse).reverse

/-- Reads a directive.  Places are counted in the trimmed text but cut out of
the text as it stands. -/
def parse? (text : List Char) : Option Directive :=
  parseFrom? text .start everything 0 (trimmed text)

/-! ## Meaning -/

/-- Whether a directive holds outside all spans: it names none, and asks for no
value of a field. -/
def isStatic (directive : Directive) : Bool :=
  directive.span.isNone &&
    directive.fields.all fun field => !field.contains '='

/-- Whether a directive concerns an event: its target begins with the
directive's, and it has all the fields that the directive names. -/
def concerns (directive : Directive) (event : Event) : Bool :=
  directive.target.all (fun target =>
      target.isPrefixOf event.target.toList) &&
    directive.fields.all fun field =>
      event.fieldNames.contains (String.ofList field)

/-- How long a target a directive asks for; no target is shorter than any. -/
def targetRank (directive : Directive) : Nat :=
  match directive.target with
  | none => 0
  | some target => target.length + 1

/-- Whether one of two directives that concern an event is the more specific
one: by the length of the target, then by the fields. -/
def isMoreSpecific (left right : Directive) : Bool :=
  if left.targetRank = right.targetRank then
    if left.fields.length = right.fields.length then
      decide (right.fields < left.fields)
    else
      decide (right.fields.length < left.fields.length)
  else
    decide (right.targetRank < left.targetRank)

end Directive

/-- The directives that hold outside all spans, in the order written. -/
structure Filter where
  directives : List Directive
deriving DecidableEq

namespace Filter

/-- The filter of one threshold for all events. -/
def ofThreshold (threshold : Threshold) : Filter :=
  ⟨[{ Directive.everything with threshold }]⟩

/-- Splits a text at commas. -/
def pieces : List Char -> List (List Char)
  | [] => [[]]
  | character :: rest =>
    if character = ',' then
      [] :: pieces rest
    else
      match pieces rest with
      | [] => [[character]]
      | piece :: others => (character :: piece) :: others

/-- Reads directives with commas between them.  Those that hold inside spans
alone are read too, and then left out. -/
def parse? (text : String) : Option Filter := do
  let written := (pieces text.toList).filter fun piece => !piece.isEmpty
  let directives ← written.mapM Directive.parse?
  return ⟨directives.filter Directive.isStatic⟩

/-- The filter of the console: the one asked for, or warnings and errors when
none is asked for or it cannot be read. -/
def ofSetting (setting : Option String) : Filter :=
  (setting.bind parse?).getD (ofThreshold (some .warn))

/-- The filter of a log file. -/
def detailed : Filter := ofThreshold (some .debug)

/-- The directive that decides about an event. -/
def deciding? (filter : Filter) (event : Event) : Option Directive :=
  (filter.directives.filter (·.concerns event)).foldl
    (fun best directive =>
      match best with
      | none => some directive
      | some held =>
        if held.isMoreSpecific directive then some held else some directive)
    none

/-- Whether an event passes. -/
def admits (filter : Filter) (event : Event) : Bool :=
  match filter.deciding? event with
  | none => false
  | some directive => directive.threshold.admits event.level

end Filter

end Log
end Deliveries
