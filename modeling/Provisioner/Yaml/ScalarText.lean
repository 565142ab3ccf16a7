import Provisioner.Yaml.Token

/-!
# The text of scalars

Plain, quoted and block scalars. In all but literal blocks a single line break inside a scalar
stands for a space, and further breaks for themselves; an escaped break in double quotes stands for
nothing.
-/

namespace Provisioner.Yaml.Scan

/-- What stands between two words: the blanks of a line, or a first line break and those after it. -/
structure Gap where
  blanks : List Char := []
  first : List Char := []
  later : List Char := []
  /-- Whether a line break has been passed. -/
  broken : Bool := false

/-- What a gap stands for. -/
def Gap.text (g : Gap) : List Char :=
  if !g.broken then g.blanks
  else if g.first = ['\n'] then (if g.later.isEmpty then [' '] else g.later)
  else g.first ++ g.later

/-- The blanks and line breaks that come next, added to `gap`; `check` looks at each blank of a line
that the gap has led to. -/
def gapFrom (check : Scan Unit) : Nat → Gap → Scan Gap
  | 0, gap => return gap
  | fuel + 1, gap => do
    match ← peek with
    | none => return gap
    | some c =>
      if isBlank c then
        if gap.broken then check
        skip
        gapFrom check fuel (if gap.broken then gap else { gap with blanks := gap.blanks ++ [c] })
      else if isBreak c then
        let line ← takeLine
        gapFrom check fuel
          (if gap.broken then { gap with later := gap.later ++ line }
           else { gap with blanks := [], first := line, broken := true })
      else return gap

/-! ### Plain scalars -/

def isFlowIndicator (c : Char) : Bool :=
  c = ',' || c = '[' || c = ']' || c = '\x7b' || c = '\x7d'

/-- The words of a plain scalar up to the next gap; `done` holds the text so far, in reverse. -/
def plainWord (start : Mark) : Nat → List Char → Scan (List Char)
  | 0, done => return done
  | fuel + 1, done => do
    let flow ← inFlow
    match ← peek with
    | none => return done
    | some c =>
      if isBlank c || isBreak c then return done
      if flow && c = ':' then
        match ← peekAt 1 with
        | some d =>
          if isFlowIndicator d || d = '?' then fail .colonInPlain (some (.plainScalar, start))
        | none => pure ()
      if c = ':' && (← endsWordAt 1) then return done
      if flow && isFlowIndicator c then return done
      skip
      plainWord start fuel (c :: done)

/-- A plain scalar from a gap on. -/
def plainFrom (start : Mark) (indent : Int) :
    Nat → Gap → List Char → Mark → Scan (List Char × Gap × Mark)
  | 0, gap, done, stop => return (done, gap, stop)
  | fuel + 1, gap, done, stop => do
    if (← atDocumentMarker) || (← nextIs (· = '#')) then return (done, gap, stop)
    let word ← plainWord start (← Scan.fuel) []
    let (done, gap, stop) ←
      if word.isEmpty then pure (done, gap, stop)
      else pure (word ++ gap.text.reverse ++ done, ({} : Gap), (← get).mark)
    if !(← nextIs fun c => isBlank c || isBreak c) then return (done, gap, stop)
    let check : Scan Unit := do
      if ((← column) : Int) < indent && (← nextIs (· = '\t')) then
        fail .tabBeforePlain (some (.plainScalar, start))
    let gap ← gapFrom check (← Scan.fuel) gap
    if !(← inFlow) && ((← column) : Int) < indent then return (done, gap, stop)
    plainFrom start indent fuel gap done stop

/-- A plain scalar. A line break after it lets a key begin. -/
def plainScalar : Scan Token := do
  let s ← get
  let (done, gap, stop) ← plainFrom s.mark (s.indent + 1) (← fuel) {} [] s.mark
  if gap.broken then modify fun s => { s with keyAllowed := true }
  return ⟨.scalar (String.ofList done.reverse) .plain, s.mark, stop⟩

/-! ### Quoted scalars -/

/-- The character of an escape of one letter. -/
def escape? (c : Char) : Option Char :=
  match c with
  | '0' => some '\x00'
  | 'a' => some '\x07'
  | 'b' => some '\x08'
  | 't' => some '\t'
  | '\t' => some '\t'
  | 'n' => some '\n'
  | 'v' => some '\x0b'
  | 'f' => some '\x0c'
  | 'r' => some '\r'
  | 'e' => some '\x1b'
  | ' ' => some ' '
  | '"' => some '"'
  | '/' => some '/'
  | '\\' => some '\\'
  | 'N' => some '\u0085'
  | '_' => some '\u00a0'
  | 'L' => some '\u2028'
  | 'P' => some '\u2029'
  | _ => none

/-- The number of hexadecimal digits of an escape by number. -/
def escapeLength? (c : Char) : Option Nat :=
  match c with
  | 'x' => some 2
  | 'u' => some 4
  | 'U' => some 8
  | _ => none

def hexValue? (c : Char) : Option Nat :=
  if '0' ≤ c && c ≤ '9' then some (c.toNat - 48)
  else if 'a' ≤ c && c ≤ 'f' then some (c.toNat - 87)
  else if 'A' ≤ c && c ≤ 'F' then some (c.toNat - 55)
  else none

/-- The number of some hexadecimal digits. -/
def hexNumber? (cs : List Char) : Option Nat :=
  cs.foldlM (fun n c => (hexValue? c).map (16 * n + ·)) 0

/-- An escape whose backslash comes next. -/
def escaped (start : Mark) : Scan Char := do
  let during := some (Activity.quotedEscape, start)
  match ← peekAt 1 with
  | none => fail .unknownEscape during
  | some c =>
    match escape? c, escapeLength? c with
    | some e, _ =>
      skipMany 2
      return e
    | none, some n =>
      skipMany 2
      let digits := (← get).rest.take n
      match if digits.length = n then hexNumber? digits else none with
      | none => fail .hexDigits during
      | some code =>
        if (0xD800 ≤ code && code ≤ 0xDFFF) || code > 0x10FFFF then fail .invalidCodePoint during
        skipMany n
        return Char.ofNat code
    | none, none => fail .unknownEscape during

/-- The characters of a quoted scalar up to the next gap or the closing quote, in reverse, and
whether an escaped line break ended them. -/
def quotedWord (start : Mark) (quote : Char) : Nat → List Char → Scan (List Char × Bool)
  | 0, done => return (done, false)
  | fuel + 1, done => do
    match ← peek with
    | none => return (done, false)
    | some c =>
      if isBlank c || isBreak c then return (done, false)
      let d ← peekAt 1
      if quote = '\'' && c = '\'' && d = some '\'' then
        skipMany 2
        quotedWord start quote fuel ('\'' :: done)
      else if c = quote then return (done, false)
      else if quote = '"' && c = '\\' then
        if (d.map isBreak).getD false then
          skip
          skipLine
          return (done, true)
        else
          let e ← escaped start
          quotedWord start quote fuel (e :: done)
      else
        skip
        quotedWord start quote fuel (c :: done)

/-- A quoted scalar whose opening quote has been passed, in reverse. -/
def quotedFrom (start : Mark) (quote : Char) : Nat → List Char → Scan (List Char)
  | 0, _ => fail .endInQuotes (some (.quotedScalar, start))
  | fuel + 1, done => do
    if ← atDocumentMarker then fail .documentMarkInQuotes (some (.quotedScalar, start))
    if (← peek).isNone then fail .endInQuotes (some (.quotedScalar, start))
    let (done, broken) ← quotedWord start quote (← Scan.fuel) done
    if ← nextIs (· = quote) then return done
    let gap ← gapFrom (pure ()) (← Scan.fuel) { broken := broken }
    quotedFrom start quote fuel (gap.text.reverse ++ done)

def quotedScalar (quote : Char) (style : Style) : Scan Token := do
  let start := (← get).mark
  skip
  let done ← quotedFrom start quote (← fuel) []
  skip
  return ⟨.scalar (String.ofList done.reverse) style, start, (← get).mark⟩

/-! ### Block scalars -/

/-- What becomes of the line breaks at the end of a block. -/
inductive Chomping
  | strip
  | clip
  | keep
  deriving DecidableEq

def chomping? : Scan (Option Chomping) := do
  match ← peek with
  | some '+' => do
    skip
    return some .keep
  | some '-' => do
    skip
    return some .strip
  | _ => return none

/-- The digit that says how far a block is indented. -/
def indentation? (start : Mark) : Scan (Option Nat) := do
  match ← peek with
  | some c =>
    if c.isDigit then
      if c = '0' then fail .zeroIndentation (some (.blockScalar, start))
      skip
      return some (c.toNat - 48)
    else return none
  | none => return none

/-- The two indicators of a block's header, in either order. -/
def blockHeader (start : Mark) : Scan (Chomping × Option Nat) := do
  match ← chomping? with
  | some chomping => return (chomping, ← indentation? start)
  | none =>
    match ← indentation? start with
    | some n => return ((← chomping?).getD .clip, some n)
    | none => return (.clip, none)

/-- The empty lines of a block that come next, each a line break, with the greatest column met and
the end of the last of them. The indentation is passed over, as far as it is known. -/
def blockBreaks (start : Mark) (indent : Option Nat) :
    Nat → List Char → Nat → Mark → Scan (List Char × Nat × Mark)
  | 0, breaks, deepest, stop => return (breaks, deepest, stop)
  | fuel + 1, breaks, deepest, stop => do
    let spaces := (← get).rest.takeWhile (· = ' ')
    match indent with
    | none => skipMany spaces.length
    | some n => skipMany (min spaces.length (n - (← column)))
    let column ← column
    let deepest := max deepest column
    let shallow := match indent with
      | none => true
      | some n => column < n
    if shallow && (← nextIs (· = '\t')) then fail .tabInIndentation (some (.blockScalar, start))
    if ← nextIs isBreak then
      let line ← takeLine
      blockBreaks start indent fuel (breaks ++ line) deepest (← get).mark
    else return (breaks, deepest, stop)

/-- The lines of a block: `first` is the break before the next line, `later` the empty lines after
that break, and `afterBlank` says whether the line before began with a blank. -/
def blockLines (start : Mark) (folded : Bool) (indent : Nat) :
    Nat → List Char → List Char → List Char → Bool → Mark →
      Scan (List Char × List Char × List Char × Mark)
  | 0, done, first, later, _, stop => return (done, first, later, stop)
  | fuel + 1, done, first, later, afterBlank, stop => do
    if (← column) ≠ indent || (← peek).isNone then return (done, first, later, stop)
    let blank ← nextIs isBlank
    let gap :=
      if folded && first = ['\n'] && !afterBlank && !blank then
        if later.isEmpty then [' '] else later
      else first ++ later
    let line ← takeWhile fun c => !isBreak c
    let first ← takeLine
    let (later, _, stop) ← blockBreaks start (some indent) (← Scan.fuel) [] 0 (← get).mark
    blockLines start folded indent fuel (done ++ gap ++ line) first later blank stop

def blockScalar (folded : Bool) : Scan Token := do
  let start := (← get).mark
  skip
  let (chomping, given) ← blockHeader start
  skipBlanksAndComment
  if !(← endsLine) then fail .blockScalarHeader (some (.blockScalar, start))
  if (← peek).isSome then skipLine
  let base := (← get).indent
  let given := given.map fun n => if 0 ≤ base then base.toNat + n else n
  let (later, deepest, stop) ← blockBreaks start given (← fuel) [] 0 (← get).mark
  let indent := given.getD (max (max deepest (base + 1).toNat) 1)
  let (done, first, later, stop) ←
    blockLines start folded indent (← fuel) [] [] later false stop
  let tail := match chomping with
    | .strip => []
    | .clip => first
    | .keep => first ++ later
  return ⟨.scalar (String.ofList (done ++ tail)) (if folded then .folded else .literal), start, stop⟩

end Provisioner.Yaml.Scan
