import Provisioner.Text.Utf8
import Provisioner.Yaml.ScalarText

/-!
# The tokens of a text

Tokens are taken from the front of a queue. What may still turn out to be the key of a mapping stays
in the queue until it is known whether a colon follows on its line, because the tokens for a key and
for the start of its mapping come before it.
-/

namespace Provisioner.Yaml.Scan

/-! ### The queue -/

def enqueue (t : Token) : Scan Unit := modify fun s => { s with queue := s.queue ++ [t] }

/-- Puts a token before the one that is `number`th from the start of the text. -/
def insertAt (number : Nat) (t : Token) : Scan Unit := modify fun s =>
  { s with queue := s.queue.insertIdx (number - s.taken) t }

/-- A token of `n` characters of the line. -/
def indicator (kind : TokenKind) (n : Nat) : Scan Unit := do
  let start := (← get).mark
  skipMany n
  enqueue ⟨kind, start, (← get).mark⟩

/-! ### Blocks -/

/-- Opens a block at a column that is deeper than the open ones. -/
def openBlock (column : Nat) (kind : TokenKind) (mark : Mark) (place : Option Nat) : Scan Unit := do
  let s ← get
  if !(← inFlow) && s.indent < column then
    set { s with indent := column, indents := s.indent :: s.indents }
    match place with
    | some number => insertAt number ⟨kind, mark, mark⟩
    | none => enqueue ⟨kind, mark, mark⟩

/-- Closes the blocks that are deeper than `column`. -/
def closeBlocks (column : Int) : Nat → Scan Unit
  | 0 => pure ()
  | fuel + 1 => do
    let s ← get
    if s.indent > column then
      set { s with
        queue := s.queue ++ [Token.mk .blockEnd s.mark s.mark]
        indent := s.indents.headD (-1)
        indents := s.indents.tail }
      closeBlocks column fuel

def closeBlocksTo (column : Int) : Scan Unit := do
  if !(← inFlow) then closeBlocks column ((← get).indents.length + 1)

/-! ### Keys without an indicator -/

/-- Gives up the key that may have begun in the innermost collection. -/
def dropKey : Scan Unit := do
  match (← get).keys with
  | some key :: rest =>
    if key.required then fail .keyWithoutColon (some (.simpleKey, key.mark))
    modify fun s => { s with keys := none :: rest }
  | _ => pure ()

/-- Notes that a key may begin here, if one may. -/
def saveKey : Scan Unit := do
  let s ← get
  if s.keyAllowed then
    dropKey
    let required := !(← inFlow) && s.indent == s.mark.column
    modify fun s =>
      { s with keys := some ⟨required, s.taken + s.queue.length, s.mark⟩ :: s.keys.tail }

/-- The keys that may still be completed: on this line, and begun at most 1024 characters ago. -/
def liveKeys (mark : Mark) : List (Option SimpleKey) → Except Fault (List (Option SimpleKey))
  | [] => return []
  | none :: rest => return none :: (← liveKeys mark rest)
  | some key :: rest => do
    -- the outermost collection is looked at first
    let rest ← liveKeys mark rest
    if key.mark.line < mark.line || key.mark.index + 1024 < mark.index then
      if key.required then throw (.malformed .keyWithoutColon mark (some (.simpleKey, key.mark)))
      return none :: rest
    else return some key :: rest

def dropStaleKeys : Scan Unit := do
  let s ← get
  set { s with keys := ← liveKeys s.mark s.keys }

/-! ### White space and directives -/

/-- Goes to the next token: past white space, comments and line breaks. A tab may not be part of
the white space at which a key may begin. -/
def toNextToken : Nat → Scan Unit
  | 0 => pure ()
  | fuel + 1 => do
    if (← column) = 0 && (← nextIs (· = '\uFEFF')) then skip
    let tabs := (← inFlow) || !(← get).keyAllowed
    skipWhile fun c => c = ' ' || (tabs && c = '\t')
    if ← nextIs (· = '#') then skipWhile fun c => !isBreak c
    if ← nextIs isBreak then
      skipLine
      if !(← inFlow) then modify fun s => { s with keyAllowed := true }
      toNextToken fuel

/-- A number of a version, of at most nine digits. -/
def versionNumber (start : Mark) : Scan Nat := do
  let during := some (Activity.versionDirective, start)
  let digits := (← get).rest.takeWhile Char.isDigit
  if digits.length > 9 then
    skipMany 9
    fail .versionTooLong during
  if digits.isEmpty then fail .noVersion during
  skipMany digits.length
  return digits.foldl (fun n c => 10 * n + (c.toNat - 48)) 0

/-- The handle of a tag: one exclamation mark, or a name between two. -/
def tagHandle (directive : Bool) (start : Mark) : Scan (List Char) := do
  if !(← nextIs (· = '!')) then
    fail .tagHandleMark (some (if directive then .tagDirectiveHandle else .tag, start))
  skip
  let name ← takeWhile isName
  if ← nextIs (· = '!') then
    skip
    return '!' :: name ++ ['!']
  if directive && !name.isEmpty then fail .tagHandleMark (some (.tagDirectiveShape, start))
  return '!' :: name

/-- A character that stands for itself in a tag; within angle brackets there are a few more. -/
def isUri (verbatim : Bool) (c : Char) : Bool :=
  isName c || ";/?:@&=+$.%!~*'()".toList.contains c || (verbatim && ",[]".toList.contains c)

/-- How many octets a character has whose first one is given. -/
def octetCount? (n : Nat) : Option Nat :=
  if n < 0x80 then some 1
  else if n / 32 = 6 then some 2
  else if n / 16 = 14 then some 3
  else if n / 8 = 30 then some 4
  else none

/-- The octets of an escaped character after its first `done` ones. -/
def uriOctets (during : Option (Activity × Mark)) : Nat → Bool → Text.Bytes → Scan Text.Bytes
  | 0, _, done => return done
  | more + 1, first, done => do
    match (← get).rest with
    | '%' :: a :: b :: _ =>
      match hexNumber? [a, b] with
      | none => fail .uriEscape during
      | some n =>
        if first then
          match octetCount? n with
          | none => fail .uriLeadingOctet during
          | some count =>
            skipMany 3
            uriOctets during (min more (count - 1)) false [n.toUInt8]
        else if n / 64 ≠ 2 then fail .uriTrailingOctet during
        else
          skipMany 3
          uriOctets during more false (done ++ [n.toUInt8])
    | _ => fail .uriEscape during

/-- The characters of a tag, with the number read so far. -/
def uriFrom (verbatim : Bool) (during : Option (Activity × Mark)) :
    Nat → List Char → Scan (List Char)
  | 0, done => return done
  | fuel + 1, done => do
    match ← peek with
    | none => return done
    | some c =>
      if !isUri verbatim c then return done
      if c = '%' then
        let octets ← uriOctets during 4 true []
        uriFrom verbatim during fuel (done ++ (Text.ofUtf8Lossy octets).toList)
      else
        skip
        uriFrom verbatim during fuel (done ++ [c])

/-- A tag after what has been read of it, less its exclamation mark; it may not be empty. -/
def tagUri (verbatim directive : Bool) (head : List Char) (start : Mark) : Scan String := do
  let during := some (if directive then Activity.tagDirectiveUri else .tagUri, start)
  let uri ← uriFrom verbatim during (← fuel) head.tail
  if uri.isEmpty && head.isEmpty then fail .noTagUri during
  return String.ofList uri

/-- A directive, up to the end of its line. -/
def directive : Scan Unit := do
  let start := (← get).mark
  let during := some (Activity.directive, start)
  skip
  let name ← takeWhile isName
  if name.isEmpty then fail .noDirectiveName during
  if !(← endsWordAt 0) then fail .directiveNameCharacter during
  let kind ←
    if name = ['Y', 'A', 'M', 'L'] then do
      skipWhile isBlank
      let major ← versionNumber start
      if !(← nextIs (· = '.')) then fail .versionDigit (some (.versionDirective, start))
      skip
      let minor ← versionNumber start
      pure (TokenKind.versionDirective major minor)
    else if name = ['T', 'A', 'G'] then do
      skipWhile isBlank
      let handle ← tagHandle true start
      if !(← nextIs isBlank) then fail .tagPrefixSpace (some (.tagDirective, start))
      skipWhile isBlank
      let lead ← tagUri true true [] start
      if !(← endsWordAt 0) then fail .tagPrefixEnd (some (.tagDirective, start))
      pure (TokenKind.tagDirective (String.ofList handle) lead)
    else fail .unknownDirective during
  let stop := (← get).mark
  skipBlanksAndComment
  if !(← endsLine) then fail .directiveEnd during
  if (← peek).isSome then skipLine
  enqueue ⟨kind, start, stop⟩

/-! ### Anchors, aliases and tags -/

/-- The name of an anchor or alias, after its indicator. -/
def anchorName (activity : Activity) (kind : String → TokenKind) : Scan Unit := do
  let start := (← get).mark
  skip
  let name ← takeWhile isName
  let closed ← endsWordAt 0
  if name.isEmpty || !(closed || (← nextIs "?:,]\x7d%@`".toList.contains)) then
    fail .anchorName (some (activity, start))
  enqueue ⟨kind (String.ofList name), start, (← get).mark⟩

/-- A tag: between angle brackets, or with a handle that a directive may explain. -/
def tag : Scan Unit := do
  let start := (← get).mark
  let (handle, suffix) ←
    if (← peekAt 1) = some '<' then do
      skipMany 2
      let suffix ← tagUri true false [] start
      if !(← nextIs (· = '>')) then fail .tagClose (some (.tag, start))
      skip
      pure ("", suffix)
    else do
      let handle ← tagHandle false start
      if handle.length > 1 && handle.getLast? = some '!' then
        pure (String.ofList handle, ← tagUri false false [] start)
      else
        let suffix ← tagUri false false handle start
        pure (if suffix = "" then ("", "!") else ("!", suffix))
  let comma := (← inFlow) && (← nextIs (· = ','))
  if !comma && !(← endsWordAt 0) then fail .tagEnd (some (.tag, start))
  enqueue ⟨.tag handle suffix, start, (← get).mark⟩

/-! ### One more token -/

def allowKey (allowed : Bool) : Scan Unit := modify fun s => { s with keyAllowed := allowed }

def streamEnd : Scan Unit := do
  modify fun s =>
    if s.mark.column = 0 then s
    else { s with mark := ⟨s.mark.index, s.mark.line + 1, 0⟩ }
  closeBlocksTo (-1)
  dropKey
  allowKey false
  indicator .streamEnd 0

/-- A token of whole lines: nothing open goes on past it. -/
def betweenDocuments (token : Scan Unit) : Scan Unit := do
  closeBlocksTo (-1)
  dropKey
  allowKey false
  token

def openFlow (kind : TokenKind) : Scan Unit := do
  saveKey
  modify fun s => { s with keys := none :: s.keys }
  allowKey true
  indicator kind 1

def closeFlow (kind : TokenKind) : Scan Unit := do
  dropKey
  modify fun s => if s.keys.length > 1 then { s with keys := s.keys.tail } else s
  allowKey false
  indicator kind 1

def flowEntry : Scan Unit := do
  dropKey
  allowKey true
  indicator .flowEntry 1

/-- Opens a block for an entry that stands where a key may begin. -/
def beginEntry (problem : Problem) (kind : TokenKind) : Scan Unit := do
  if !(← inFlow) then
    let s ← get
    if !s.keyAllowed then fail problem none
    openBlock s.mark.column kind s.mark none

def blockEntry : Scan Unit := do
  beginEntry .blockEntryNotAllowed .blockSequenceStart
  dropKey
  allowKey true
  indicator .blockEntry 1

def explicitKey : Scan Unit := do
  beginEntry .keyNotAllowed .blockMappingStart
  dropKey
  allowKey (!(← inFlow))
  indicator .key 1

/-- A colon: what may have begun as a key is one, or else the value of an explicit key follows. -/
def mappingValue : Scan Unit := do
  match (← get).keys with
  | some key :: rest =>
    insertAt key.number ⟨.key, key.mark, key.mark⟩
    openBlock key.mark.column .blockMappingStart key.mark (some key.number)
    modify fun s => { s with keys := none :: rest }
    allowKey false
  | _ =>
    beginEntry .valueNotAllowed .blockMappingStart
    allowKey (!(← inFlow))
  indicator .value 1

/-- A token that a key may begin with. -/
def keyPart (token : Scan Unit) : Scan Unit := do
  saveKey
  allowKey false
  token

def blockScalarToken (folded : Bool) : Scan Unit := do
  dropKey
  allowKey true
  enqueue (← blockScalar folded)

/-- Whether a plain scalar may begin with `c`. -/
def startsPlain (c : Char) : Scan Bool := do
  let indicators := "-?:,[]\x7b\x7d#&*!|>'\"%@`".toList
  if !(isBlank c || isBreak c || indicators.contains c) then return true
  if c = '-' then return !((← peekAt 1).map isBlank).getD false
  return !(← inFlow) && (c = '?' || c = ':') && !(← endsWordAt 1)

/-- Finds one more token and what comes before it. -/
def fetch : Scan Unit := do
  if !(← get).started then
    modify fun s => { s with started := true }
    indicator .streamStart 0
    return
  toNextToken (← fuel)
  dropStaleKeys
  closeBlocksTo (← column)
  match ← peek with
  | none => streamEnd
  | some c =>
    let flow ← inFlow
    let wordEnds ← endsWordAt 1
    if (← column) = 0 && c = '%' then betweenDocuments directive
    else if ← atDocumentMarker then
      betweenDocuments (indicator (if c = '-' then .documentStart else .documentEnd) 3)
    else if c = '[' then openFlow .flowSequenceStart
    else if c = '\x7b' then openFlow .flowMappingStart
    else if c = ']' then closeFlow .flowSequenceEnd
    else if c = '\x7d' then closeFlow .flowMappingEnd
    else if c = ',' then flowEntry
    else if c = '-' && wordEnds then blockEntry
    else if c = '?' && (flow || wordEnds) then explicitKey
    else if c = ':' && (flow || wordEnds) then mappingValue
    else if c = '*' then keyPart (anchorName .alias .alias)
    else if c = '&' then keyPart (anchorName .anchor .anchor)
    else if c = '!' then keyPart tag
    else if c = '|' && !flow then blockScalarToken false
    else if c = '>' && !flow then blockScalarToken true
    else if c = '\'' then keyPart (do enqueue (← quotedScalar '\'' .singleQuoted))
    else if c = '"' then keyPart (do enqueue (← quotedScalar '"' .doubleQuoted))
    else if ← startsPlain c then keyPart (do enqueue (← plainScalar))
    else fail .noTokenStart (some (.nextToken, (← get).mark))

/-- Finds tokens until it is known which one is at the front. -/
def settle : Nat → Scan Unit
  | 0 => pure ()
  | fuel + 1 => do
    if (← get).queue.isEmpty then
      fetch
      settle fuel
    else
      dropStaleKeys
      let s ← get
      if s.keys.any fun key => key.any fun k => k.number = s.taken then
        fetch
        settle fuel

/-- The token at the front. -/
def front : Scan Token := do
  settle (2 * (← get).rest.length + 4)
  return (← get).queue.headD default

/-- Takes the token at the front. -/
def take : Scan Unit := modify fun s => { s with queue := s.queue.tail, taken := s.taken + 1 }

end Provisioner.Yaml.Scan
