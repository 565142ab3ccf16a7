import Provisioner.Yaml.Tokens

/-!
# Documents

A document is the list of its events: scalars, aliases, and the starts and ends of sequences and
mappings, each with its place. The events before a fault of syntax are kept with the fault, since
what they say may be wrong in a way that is reported first.
-/

namespace Provisioner.Yaml

inductive Event
  /-- Stands for the node of the anchor with this number. -/
  | alias (anchor : Nat)
  | scalar (text : String) (style : Style) (tag : Option String)
  | sequenceStart
  | sequenceEnd
  | mappingStart
  | mappingEnd
  deriving DecidableEq, Repr

structure Document where
  events : Array (Event × Mark) := #[]
  /-- Numbers of anchors and the places of their nodes among the events. -/
  anchors : List (Nat × Nat) := []
  fault : Option Fault := none
  /-- Where a text without a document ends. -/
  endMark : Mark := {}

/-- The text that is left with the document so far, the numbers of the anchors by name, and what tag
handles stand for. -/
structure Composer where
  scanner : Scanner
  document : Document := {}
  names : List (String × Nat) := []
  handles : List (String × String) := []

abbrev Compose := ExceptT Fault (StateM Composer)

namespace Compose

/-- Runs the scanner. -/
def scan {α : Type} (step : Scan α) : Compose α := do
  match step (← getThe Composer).scanner with
  | .ok (a, scanner) =>
    modifyThe Composer fun s => { s with scanner := scanner }
    return a
  | .error e => throw e

def front : Compose Token := scan Scan.front

def take : Compose Unit := scan Scan.take

/-- Takes the token at the front and gives the next one. -/
def takeThenFront : Compose Token := do
  take
  front

def fail {α : Type} (problem : Problem) (mark : Mark) (during : Option (Activity × Mark)) :
    Compose α :=
  throw (.malformed problem mark during)

def emit (event : Event) (mark : Mark) : Compose Unit := modifyThe Composer fun s =>
  { s with document := { s.document with events := s.document.events.push (event, mark) } }

/-- Notes that the next event has an anchor. The number of an anchor is how many names were known
before it, and of two anchors with one number the later is meant. -/
def anchored (anchor : Option String) : Compose Unit :=
  match anchor with
  | none => pure ()
  | some name => modifyThe Composer fun s =>
    let number := s.names.length
    { s with
      names := (name, number) :: s.names.filter (·.1 ≠ name)
      document := { s.document with
        anchors := (number, s.document.events.size) :: s.document.anchors } }

def emptyScalar (mark : Mark) : Compose Unit := emit (.scalar "" .plain none) mark

/-- What a tag stands for; a handle has to be known. -/
def resolveTag (handle suffix : String) (start mark : Mark) : Compose String := do
  if handle = "" then return suffix
  match (← getThe Composer).handles.find? (·.1 = handle) with
  | some (_, lead) => return lead ++ suffix
  | none => fail .undefinedTagHandle mark (some (.node, start))

/-- The anchor and the tag before a node, in either order, with the place where the node begins. -/
def properties : Compose (Option String × Option String × Mark) := do
  let token ← front
  let start := token.start
  match token.kind with
  | .anchor name =>
    let next ← takeThenFront
    match next.kind with
    | .tag handle suffix =>
      let _ ← takeThenFront
      return (some name, some (← resolveTag handle suffix start next.start), start)
    | _ => return (some name, none, start)
  | .tag handle suffix =>
    let next ← takeThenFront
    match next.kind with
    | .anchor name =>
      let _ ← takeThenFront
      return (some name, some (← resolveTag handle suffix start start), start)
    | _ => return (none, some (← resolveTag handle suffix start start), start)
  | _ => return (none, none, start)

/-- The tag of a scalar; the bare exclamation mark is no tag. -/
def scalarTag (tag : Option String) : Option String := tag.filter (· ≠ "!")

mutual

/-- One node; `block` where block collections are permitted, `indentless` where a sequence may stand
at the column of its key. -/
def node (block indentless : Bool) : Nat → Compose Unit
  | 0 => pure ()
  | fuel + 1 => do
    let token ← front
    if let .alias name := token.kind then
      match (← getThe Composer).names.find? (·.1 = name) with
      | some (_, number) =>
        emit (.alias number) token.start
        take
      | none => throw (.unknownAnchor token.start)
    else
      let (anchor, tag, start) ← properties
      let token ← front
      match token.kind with
      | .scalar text style =>
        anchored anchor
        emit (.scalar text style (scalarTag tag)) start
        take
      | .flowSequenceStart =>
        anchored anchor
        emit .sequenceStart start
        take
        flowSequence token.start true fuel
      | .flowMappingStart =>
        anchored anchor
        emit .mappingStart start
        take
        flowMapping token.start true fuel
      | kind =>
        if indentless && kind = .blockEntry then
          anchored anchor
          emit .sequenceStart start
          indentlessSequence fuel
        else if block && kind = .blockSequenceStart then
          anchored anchor
          emit .sequenceStart start
          take
          blockSequence token.start fuel
        else if block && kind = .blockMappingStart then
          anchored anchor
          emit .mappingStart start
          take
          blockMapping token.start fuel
        else if anchor.isSome || tag.isSome then
          anchored anchor
          emit (.scalar "" .plain tag) start
        else
          fail .noContent token.start (some (if block then .blockNode else .flowNode, start))

/-- The entries of a sequence whose opening mark is `start`. -/
def blockSequence (start : Mark) : Nat → Compose Unit
  | 0 => pure ()
  | fuel + 1 => do
    let token ← front
    match token.kind with
    | .blockEntry =>
      let next ← takeThenFront
      match next.kind with
      | .blockEntry | .blockEnd => emptyScalar token.stop
      | _ => node true false fuel
      blockSequence start fuel
    | .blockEnd =>
      emit .sequenceEnd token.start
      take
    | _ => fail .noDash token.start (some (.blockCollection, start))

def indentlessSequence : Nat → Compose Unit
  | 0 => pure ()
  | fuel + 1 => do
    let token ← front
    match token.kind with
    | .blockEntry =>
      let next ← takeThenFront
      match next.kind with
      | .blockEntry | .key | .value | .blockEnd => emptyScalar token.stop
      | _ => node true false fuel
      indentlessSequence fuel
    | _ => emit .sequenceEnd token.start

def blockMapping (start : Mark) : Nat → Compose Unit
  | 0 => pure ()
  | fuel + 1 => do
    let token ← front
    match token.kind with
    | .key =>
      let next ← takeThenFront
      match next.kind with
      | .key | .value | .blockEnd => emptyScalar token.stop
      | _ => node true true fuel
      let token ← front
      match token.kind with
      | .value =>
        let next ← takeThenFront
        match next.kind with
        | .key | .value | .blockEnd => emptyScalar token.stop
        | _ => node true true fuel
      | _ => emptyScalar token.start
      blockMapping start fuel
    | .blockEnd =>
      emit .mappingEnd token.start
      take
    | _ => fail .noKey token.start (some (.blockMapping, start))

def flowSequence (start : Mark) (first : Bool) : Nat → Compose Unit
  | 0 => pure ()
  | fuel + 1 => do
    let token ← front
    if token.kind = .flowSequenceEnd then
      emit .sequenceEnd token.start
      take
    else
      let token ←
        if first then pure token
        else if token.kind = .flowEntry then takeThenFront
        else fail .noCommaOrBracket token.start (some (.flowSequence, start))
      match token.kind with
      | .key =>
        emit .mappingStart token.start
        take
        flowPair fuel
        flowSequence start false fuel
      | .flowSequenceEnd =>
        emit .sequenceEnd token.start
        take
      | _ =>
        node false false fuel
        flowSequence start false fuel

/-- A mapping of one key that stands in a sequence without braces. -/
def flowPair : Nat → Compose Unit
  | 0 => pure ()
  | fuel + 1 => do
    let token ← front
    match token.kind with
    | .value | .flowEntry | .flowSequenceEnd =>
      take
      emptyScalar token.stop
    | _ => node false false fuel
    let token ← front
    match token.kind with
    | .value =>
      let next ← takeThenFront
      match next.kind with
      | .flowEntry | .flowSequenceEnd => emptyScalar next.start
      | _ => node false false fuel
    | _ => emptyScalar token.start
    emit .mappingEnd (← front).start

def flowMapping (start : Mark) (first : Bool) : Nat → Compose Unit
  | 0 => pure ()
  | fuel + 1 => do
    let token ← front
    if token.kind = .flowMappingEnd then
      emit .mappingEnd token.start
      take
    else
      let token ←
        if first then pure token
        else if token.kind = .flowEntry then takeThenFront
        else fail .noCommaOrBrace token.start (some (.flowMapping, start))
      match token.kind with
      | .key =>
        let next ← takeThenFront
        match next.kind with
        | .value | .flowEntry | .flowMappingEnd => emptyScalar next.start
        | _ => node false false fuel
        let token ← front
        match token.kind with
        | .value =>
          let next ← takeThenFront
          match next.kind with
          | .flowEntry | .flowMappingEnd => emptyScalar next.start
          | _ => node false false fuel
        | _ => emptyScalar token.start
        flowMapping start false fuel
      | .flowMappingEnd =>
        emit .mappingEnd token.start
        take
      | _ =>
        node false false fuel
        emptyScalar (← front).start
        flowMapping start false fuel

end

/-- The directives before a document; `version` once one has been seen. -/
def directives : Nat → Bool → Compose Unit
  | 0, _ => pure ()
  | fuel + 1, version => do
    let token ← front
    match token.kind with
    | .versionDirective major minor =>
      if version then fail .repeatedVersion token.start none
      if major ≠ 1 || (minor ≠ 1 && minor ≠ 2) then fail .incompatibleVersion token.start none
      take
      directives fuel true
    | .tagDirective handle lead =>
      if (← getThe Composer).handles.any (·.1 = handle) then
        fail .repeatedTagDirective token.start none
      modifyThe Composer fun s => { s with handles := s.handles ++ [(handle, lead)] }
      take
      directives fuel version
    | _ =>
      modifyThe Composer fun s =>
        { s with handles := s.handles ++ [("!", "!"), ("!!", "tag:yaml.org,2002:")] }

def isDirective : TokenKind → Bool
  | .versionDirective .. | .tagDirective .. => true
  | _ => false

/-- The first document, up to the mark or the text after it; nothing if there is none. -/
def firstDocument (fuel : Nat) : Compose Unit := do
  let _ ← front
  let token ← takeThenFront
  if token.kind = .streamEnd then
    modifyThe Composer fun s => { s with document := { s.document with endMark := token.start } }
    return
  if isDirective token.kind || token.kind = .documentStart then
    directives fuel false
    let token ← front
    if token.kind ≠ .documentStart then fail .noDocumentStart token.start none
    let token ← takeThenFront
    match token.kind with
    | .versionDirective .. | .tagDirective .. | .documentStart | .documentEnd | .streamEnd =>
      emptyScalar token.start
    | _ => node true false fuel
  else
    directives 1 false
    node true false fuel
  let token ← front
  if token.kind = .documentEnd then take

/-- Whether nothing comes after a document but marks of its end. -/
def atEnd : Nat → Compose Bool
  | 0 => return false
  | fuel + 1 => do
    let token ← front
    match token.kind with
    | .documentEnd =>
      take
      atEnd fuel
    | .streamEnd => return true
    | _ => return false

end Compose

/-- The offset of the first character that a text may not hold: a control other than tabs and line
breaks, or a code point that is no character. -/
def forbidden? : List Char → Nat → Option Nat
  | [], _ => none
  | c :: rest, offset =>
    let n := c.toNat
    let permitted := n = 0x09 || n = 0x0A || n = 0x0D || (0x20 ≤ n && n ≤ 0x7E) || n = 0x85 ||
      (0xA0 ≤ n && n ≤ 0xFFFD) || 0x10000 ≤ n
    if permitted then forbidden? rest (offset + c.utf8Size) else some offset

/-- The first document of a text, and whether more comes after it. -/
def Document.read (text : String) : Document × Bool :=
  let cs := text.toList
  let (cs, offset) := match cs with
    | '\uFEFF' :: rest => (rest, 3)
    | _ => (cs, 0)
  match forbidden? cs offset with
  | some offset => ({ fault := some (.controlCharacter offset) }, false)
  | none =>
    let fuel := 4 * cs.length + 8
    match Compose.firstDocument fuel { scanner := { rest := cs } } with
    | (.error e, s) => ({ s.document with fault := some e }, false)
    | (.ok (), s) =>
      match (Compose.atEnd fuel s).1 with
      | .ok true => (s.document, false)
      | _ => (s.document, true)

end Provisioner.Yaml
