import Provisioner.Text.Quoted

/-!
# What can be wrong with a document

A fault of syntax names a problem and its place and, where that helps, what was being read and where
that began. The other faults are those of a document that is well formed but not what was expected.
Lines and columns are counted from one; a place at the very start of the text is not mentioned.
-/

namespace Provisioner.Yaml

/-- A place in the text, counted from zero: characters from the start, lines, and characters from
the start of the line. -/
structure Mark where
  index : Nat := 0
  line : Nat := 0
  column : Nat := 0
  deriving DecidableEq, Repr, Inhabited

/-- Whether a place is past the start of the text. -/
def Mark.isKnown (m : Mark) : Bool := m.line ≠ 0 || m.column ≠ 0

def Mark.text (m : Mark) : String :=
  "line " ++ toString (m.line + 1) ++ " column " ++ toString (m.column + 1)

/-- The place as the end of a message. -/
def Mark.suffix (m : Mark) : String := if m.isKnown then " at " ++ m.text else ""

inductive Problem
  | blockEntryNotAllowed
  | keyNotAllowed
  | valueNotAllowed
  | keyWithoutColon
  | noTokenStart
  | unknownDirective
  | noDirectiveName
  | directiveNameCharacter
  | directiveEnd
  | versionDigit
  | versionTooLong
  | noVersion
  | tagHandleMark
  | tagPrefixSpace
  | tagPrefixEnd
  | anchorName
  | tagClose
  | tagEnd
  | noTagUri
  | uriEscape
  | uriLeadingOctet
  | uriTrailingOctet
  | zeroIndentation
  | blockScalarHeader
  | tabInIndentation
  | documentMarkInQuotes
  | endInQuotes
  | unknownEscape
  | hexDigits
  | invalidCodePoint
  | colonInPlain
  | tabBeforePlain
  | noDocumentStart
  | repeatedVersion
  | incompatibleVersion
  | repeatedTagDirective
  | undefinedTagHandle
  | noContent
  | noDash
  | noKey
  | noCommaOrBracket
  | noCommaOrBrace
  deriving DecidableEq, Repr

def Problem.message : Problem → String
  | .blockEntryNotAllowed => "block sequence entries are not allowed in this context"
  | .keyNotAllowed => "mapping keys are not allowed in this context"
  | .valueNotAllowed => "mapping values are not allowed in this context"
  | .keyWithoutColon => "could not find expected ':'"
  | .noTokenStart => "found character that cannot start any token"
  | .unknownDirective => "found unknown directive name"
  | .noDirectiveName => "could not find expected directive name"
  | .directiveNameCharacter => "found unexpected non-alphabetical character"
  | .directiveEnd => "did not find expected comment or line break"
  | .versionDigit => "did not find expected digit or '.' character"
  | .versionTooLong => "found extremely long version number"
  | .noVersion => "did not find expected version number"
  | .tagHandleMark => "did not find expected '!'"
  | .tagPrefixSpace => "did not find expected whitespace"
  | .tagPrefixEnd => "did not find expected whitespace or line break"
  | .anchorName => "did not find expected alphabetic or numeric character"
  | .tagClose => "did not find the expected '>'"
  | .tagEnd => "did not find expected whitespace or line break"
  | .noTagUri => "did not find expected tag URI"
  | .uriEscape => "did not find URI escaped octet"
  | .uriLeadingOctet => "found an incorrect leading UTF-8 octet"
  | .uriTrailingOctet => "found an incorrect trailing UTF-8 octet"
  | .zeroIndentation => "found an indentation indicator equal to 0"
  | .blockScalarHeader => "did not find expected comment or line break"
  | .tabInIndentation => "found a tab character where an indentation space is expected"
  | .documentMarkInQuotes => "found unexpected document indicator"
  | .endInQuotes => "found unexpected end of stream"
  | .unknownEscape => "found unknown escape character"
  | .hexDigits => "did not find expected hexdecimal number"
  | .invalidCodePoint => "found invalid Unicode character escape code"
  | .colonInPlain => "found unexpected ':'"
  | .tabBeforePlain => "found a tab character that violates indentation"
  | .noDocumentStart => "did not find expected <document start>"
  | .repeatedVersion => "found duplicate %YAML directive"
  | .incompatibleVersion => "found incompatible YAML document"
  | .repeatedTagDirective => "found duplicate %TAG directive"
  | .undefinedTagHandle => "found undefined tag handle"
  | .noContent => "did not find expected node content"
  | .noDash => "did not find expected '-' indicator"
  | .noKey => "did not find expected key"
  | .noCommaOrBracket => "did not find expected ',' or ']'"
  | .noCommaOrBrace => "did not find expected ',' or '\x7d'"

/-- What was being read when a problem was met. -/
inductive Activity
  | simpleKey
  | nextToken
  | directive
  | versionDirective
  | tagDirective
  | tagDirectiveHandle
  | tagDirectiveShape
  | tagDirectiveUri
  | anchor
  | alias
  | tag
  | tagUri
  | blockScalar
  | quotedScalar
  | quotedEscape
  | plainScalar
  | node
  | blockNode
  | flowNode
  | blockCollection
  | blockMapping
  | flowSequence
  | flowMapping
  deriving DecidableEq, Repr

def Activity.message : Activity → String
  | .simpleKey => "while scanning a simple key"
  | .nextToken => "while scanning for the next token"
  | .directive => "while scanning a directive"
  | .versionDirective => "while scanning a %YAML directive"
  | .tagDirective => "while scanning a %TAG directive"
  | .tagDirectiveHandle => "while scanning a tag directive"
  | .tagDirectiveShape => "while parsing a tag directive"
  | .tagDirectiveUri => "while parsing a %TAG directive"
  | .anchor => "while scanning an anchor"
  | .alias => "while scanning an alias"
  | .tag => "while scanning a tag"
  | .tagUri => "while parsing a tag"
  | .blockScalar => "while scanning a block scalar"
  | .quotedScalar => "while scanning a quoted scalar"
  | .quotedEscape => "while parsing a quoted scalar"
  | .plainScalar => "while scanning a plain scalar"
  | .node => "while parsing a node"
  | .blockNode => "while parsing a block node"
  | .flowNode => "while parsing a flow node"
  | .blockCollection => "while parsing a block collection"
  | .blockMapping => "while parsing a block mapping"
  | .flowSequence => "while parsing a flow sequence"
  | .flowMapping => "while parsing a flow mapping"

/-- The field of a record or the key of a mapping that a fault is about. -/
inductive Place
  | root
  | key (name : String)
  | unnamed
  deriving DecidableEq

def Place.lead : Place → String
  | .root => ""
  | .key name => name ++ ": "
  | .unnamed => "?: "

inductive Fault
  | malformed (problem : Problem) (mark : Mark) (during : Option (Activity × Mark))
  | controlCharacter (offset : Nat)
  | unknownAnchor (mark : Mark)
  | severalDocuments
  | wrongType (place : Place) (found expected : String) (mark : Mark)
  | wrongValue (place : Place) (found expected : String) (mark : Mark)
  | missingField (name : String) (mark : Mark)
  | repeatedField (name : String) (mark : Mark)
  deriving DecidableEq

def Fault.message : Fault → String
  | .malformed problem mark during =>
    problem.message ++ mark.suffix ++
      match during with
      | none => ""
      | some (activity, start) =>
        let apart := start.line ≠ mark.line || start.column ≠ mark.column
        ", " ++ activity.message ++ if apart then start.suffix else ""
  | .controlCharacter offset =>
    "control characters are not allowed" ++
      if offset = 0 then "" else " at position " ++ toString offset
  | .unknownAnchor mark => "unknown anchor" ++ mark.suffix
  | .severalDocuments =>
    "deserializing from YAML containing more than one document is not supported"
  | .wrongType place found expected mark =>
    place.lead ++ "invalid type: " ++ found ++ ", expected " ++ expected ++ mark.suffix
  | .wrongValue place found expected mark =>
    place.lead ++ "invalid value: " ++ found ++ ", expected " ++ expected ++ mark.suffix
  | .missingField name mark => "missing field `" ++ name ++ "`" ++ mark.suffix
  | .repeatedField name mark => "duplicate field `" ++ name ++ "`" ++ mark.suffix

end Provisioner.Yaml
