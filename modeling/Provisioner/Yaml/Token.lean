import Provisioner.Yaml.Fault

/-!
# Tokens

The indicators and scalars of a text, with the starts and ends of blocks that indentation stands
for, and the reader of characters that tokens are made with.
-/

namespace Provisioner.Yaml

/-- How a scalar is written. -/
inductive Style
  | plain
  | singleQuoted
  | doubleQuoted
  | literal
  | folded
  deriving DecidableEq, Repr

inductive TokenKind
  | streamStart
  | streamEnd
  | versionDirective (major minor : Nat)
  | tagDirective (handle lead : String)
  | documentStart
  | documentEnd
  | blockSequenceStart
  | blockMappingStart
  | blockEnd
  | flowSequenceStart
  | flowSequenceEnd
  | flowMappingStart
  | flowMappingEnd
  | blockEntry
  | flowEntry
  | key
  | value
  | alias (name : String)
  | anchor (name : String)
  | tag (handle suffix : String)
  | scalar (text : String) (style : Style)
  deriving DecidableEq, Repr

instance : Inhabited TokenKind := ⟨.streamEnd⟩

structure Token where
  kind : TokenKind
  start : Mark
  stop : Mark
  deriving Inhabited

/-- Where a token began that may turn out to be the key of a mapping. -/
structure SimpleKey where
  required : Bool
  number : Nat
  mark : Mark

/-- The text that is left, the tokens found in it that are still to be taken, and what decides how
the next characters read: the columns of the open blocks, innermost first, and for each open flow
collection and the text around them where a key may have begun. -/
structure Scanner where
  rest : List Char
  mark : Mark := {}
  queue : List Token := []
  taken : Nat := 0
  indent : Int := -1
  indents : List Int := []
  keyAllowed : Bool := true
  keys : List (Option SimpleKey) := [none]
  started : Bool := false

abbrev Scan := StateT Scanner (Except Fault)

namespace Scan

/-- A problem where the scanner stands. -/
def fail {α : Type} (problem : Problem) (during : Option (Activity × Mark)) : Scan α := do
  throw (.malformed problem (← get).mark during)

def isBreak (c : Char) : Bool :=
  c = '\n' || c = '\r' || c = '\u0085' || c = '\u2028' || c = '\u2029'

def isBlank (c : Char) : Bool := c = ' ' || c = '\t'

/-- A letter of names: of the Latin alphabet, a digit, an underscore or a dash. -/
def isName (c : Char) : Bool := c.isAlphanum || c = '_' || c = '-'

/-- The character `n` places on. -/
def peekAt (n : Nat) : Scan (Option Char) := return (← get).rest[n]?

def peek : Scan (Option Char) := peekAt 0

def nextIs (p : Char → Bool) : Scan Bool := return ((← peek).map p).getD false

/-- A blank, a line break, or the end of the text, `n` places on. -/
def endsWordAt (n : Nat) : Scan Bool :=
  return ((← peekAt n).map fun c => isBlank c || isBreak c).getD true

/-- A line break or the end of the text. -/
def endsLine : Scan Bool := return ((← peek).map isBreak).getD true

def column : Scan Nat := return (← get).mark.column

/-- Goes past one character of the line. -/
def skip : Scan Unit := modify fun s =>
  { s with
    rest := s.rest.drop 1
    mark := ⟨s.mark.index + 1, s.mark.line, s.mark.column + 1⟩ }

def skipMany : Nat → Scan Unit
  | 0 => pure ()
  | n + 1 => do
    skip
    skipMany n

/-- Goes past a line break, of one character or two. -/
def skipLine : Scan Unit := modify fun s =>
  let n := match s.rest with
    | '\r' :: '\n' :: _ => 2
    | _ => 1
  { s with rest := s.rest.drop n, mark := ⟨s.mark.index + n, s.mark.line + 1, 0⟩ }

/-- Goes past a line break and gives what it stands for in a scalar: the two separators are kept,
and any other break is a line feed. At the end of the text there is none. -/
def takeLine : Scan (List Char) := do
  match ← peek with
  | none => return []
  | some c =>
    if !isBreak c then return []
    skipLine
    return [if c = '\u2028' || c = '\u2029' then c else '\n']

/-- Goes past the characters that satisfy `p`, none of them a line break, and gives them. -/
def takeWhile (p : Char → Bool) : Scan (List Char) := do
  let found := (← get).rest.takeWhile p
  skipMany found.length
  return found

def skipWhile (p : Char → Bool) : Scan Unit := do
  let _ ← takeWhile p

/-- Goes past blanks and a comment. -/
def skipBlanksAndComment : Scan Unit := do
  skipWhile isBlank
  if ← nextIs (· = '#') then skipWhile fun c => !isBreak c

/-- The number of characters left and one more. -/
def fuel : Scan Nat := return (← get).rest.length + 1

/-- Whether a document marker of three equal characters stands at the start of the line. -/
def atDocumentMarker : Scan Bool := do
  if (← column) ≠ 0 then return false
  let three := (← get).rest.take 3
  if three = ['-', '-', '-'] || three = ['.', '.', '.'] then endsWordAt 3 else return false

/-- Whether the scanner is inside a flow collection. -/
def inFlow : Scan Bool := return (← get).keys.length > 1

end Scan

end Provisioner.Yaml
