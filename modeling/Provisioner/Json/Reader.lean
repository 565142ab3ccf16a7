import Provisioner.Decimal.Shortest
import Provisioner.Json.Shape
import Provisioner.Json.Writer
import Provisioner.Text.Quoted
import Provisioner.Text.Utf8

/-!
# Reading JSON

A reader consumes bytes and says where it stopped when it fails: the line, and the number of bytes
since the last line break. It passes over any value (`skip`), reads one of some shape (`value`), or
reads an object into a dictionary or a record of one field (`dictionary`, `record`).

Reading is strict: nothing but white space may follow a document, an object or array nested deeper
than 127 is refused, and so is a number whose magnitude is past the greatest floating number.
-/

namespace Provisioner.Json

open Decimal (Binary64)
open Text (Bytes)

/-- What is wrong with a document. -/
inductive Fault
  | endInList
  | endInObject
  | endInText
  | endInValue
  | expectedColon
  | expectedCommaOrBracket
  | expectedCommaOrBrace
  | expectedWord
  | expectedValue
  | invalidEscape
  | invalidNumber
  | numberOutOfRange
  | invalidCodePoint
  | controlCharacter
  | nameNotText
  | loneSurrogate
  | trailingComma
  | trailingCharacters
  | unfinishedPair
  | tooDeep
  | repeatedField (name : String)
  | wrongType (found expected : String)
  deriving DecidableEq

def Fault.message : Fault → String
  | .endInList => "EOF while parsing a list"
  | .endInObject => "EOF while parsing an object"
  | .endInText => "EOF while parsing a string"
  | .endInValue => "EOF while parsing a value"
  | .expectedColon => "expected `:`"
  | .expectedCommaOrBracket => "expected `,` or `]`"
  | .expectedCommaOrBrace => "expected `,` or `\x7d`"
  | .expectedWord => "expected ident"
  | .expectedValue => "expected value"
  | .invalidEscape => "invalid escape"
  | .invalidNumber => "invalid number"
  | .numberOutOfRange => "number out of range"
  | .invalidCodePoint => "invalid unicode code point"
  | .controlCharacter => "control character (\\u0000-\\u001F) found while parsing a string"
  | .nameNotText => "key must be a string"
  | .loneSurrogate => "lone leading surrogate in hex escape"
  | .trailingComma => "trailing comma"
  | .trailingCharacters => "trailing characters"
  | .unfinishedPair => "unexpected end of hex escape"
  | .tooDeep => "recursion limit exceeded"
  | .repeatedField name => "duplicate field `" ++ name ++ "`"
  | .wrongType found expected => "invalid type: " ++ found ++ ", expected " ++ expected

/-- A fault and where it was found. -/
structure ReadError where
  fault : Fault
  line : Nat
  column : Nat
  deriving DecidableEq

def ReadError.message (e : ReadError) : String :=
  e.fault.message ++ " at line " ++ toString e.line ++ " column " ++ toString e.column

/-- What is still to be read, the line, and the number of bytes read of that line. -/
structure Cursor where
  rest : Bytes
  line : Nat
  column : Nat

def Cursor.start (bytes : Bytes) : Cursor := ⟨bytes, 1, 0⟩

/-- The cursor after one more byte. -/
def Cursor.next (c : Cursor) : Cursor :=
  match c.rest with
  | [] => c
  | b :: rest => if b == 0x0A then ⟨rest, c.line + 1, 0⟩ else ⟨rest, c.line, c.column + 1⟩

abbrev Reader := ExceptT ReadError (StateM Cursor)

namespace Reader

/-- Fails where the reader stands. -/
def failHere {α : Type} (fault : Fault) : Reader α := do
  let c ← getThe Cursor
  throw ⟨fault, c.line, c.column⟩

/-- Fails at the byte that comes next. -/
def failAhead {α : Type} (fault : Fault) : Reader α := do
  let c := (← getThe Cursor).next
  throw ⟨fault, c.line, c.column⟩

def peek : Reader (Option UInt8) := return (← getThe Cursor).rest.head?

def skipByte : Reader Unit := modifyThe Cursor Cursor.next

def next : Reader (Option UInt8) := do
  let b ← peek
  skipByte
  return b

def isSpace (b : UInt8) : Bool := b == 0x20 || b == 0x0A || b == 0x09 || b == 0x0D

def isDigit (b : UInt8) : Bool := 0x30 ≤ b && b ≤ 0x39

/-- The cursor after the bytes at the front that satisfy `p`. -/
def afterWhile (p : UInt8 → Bool) : Bytes → Nat → Nat → Cursor
  | [], line, column => ⟨[], line, column⟩
  | b :: rest, line, column =>
    if p b then
      if b == 0x0A then afterWhile p rest (line + 1) 0 else afterWhile p rest line (column + 1)
    else ⟨b :: rest, line, column⟩

def skipWhile (p : UInt8 → Bool) : Reader Unit :=
  modifyThe Cursor fun c => afterWhile p c.rest c.line c.column

/-- The next byte after white space. -/
def peekToken : Reader (Option UInt8) := do
  skipWhile isSpace
  peek

/-- The rest of a word whose first letter has been read. -/
def word : List Char → Reader Unit
  | [] => pure ()
  | c :: rest => do
    match ← next with
    | none => failHere .endInValue
    | some b => if b.toNat == c.toNat then word rest else failHere .expectedWord

/-! ### Numbers -/

/-- The greatest integer that is kept exactly. -/
def greatestInteger : Nat := 0xFFFFFFFFFFFFFFFF

def digitOf (b : UInt8) : Nat := b.toNat - 48

def finite (x : Option Binary64) : Reader Binary64 :=
  match x with
  | some x => pure x
  | none => failHere .numberOutOfRange

/-- Ten to a power that has a floating number. -/
def powerOfTen (n : Nat) : Binary64 := (Binary64.ofNat (Nat.pow 10 n)).getD default

/-- Divides by the greatest power of ten until the exponent that remains has a power of its own. -/
def scaleDown : Nat → Binary64 → Nat → Option Binary64
  | 0, x, _ => some x
  | fuel + 1, x, n =>
    if n ≤ 308 then x.div (powerOfTen n)
    else if x.isZero then some x
    else
      match x.div (powerOfTen 308) with
      | some y => scaleDown fuel y (n - 308)
      | none => none

/-- The floating number of a significand and a power of ten: the significand is rounded first,
and the product or quotient with the power again. -/
def assemble (positive : Bool) (significand : Nat) (exponent : Int) : Reader Number := do
  let x ← finite (Binary64.ofNat significand)
  let y ←
    if 0 ≤ exponent then
      if exponent ≤ 308 then finite (x.mul (powerOfTen exponent.toNat))
      else if x.isZero then pure x
      else failHere .numberOutOfRange
    else finite (scaleDown (exponent.natAbs / 308 + 2) x exponent.natAbs)
  return .float (if positive then y else y.negate)

/-- The digits at the front, as far as the number they make with what came before stays at most
`limit`, with the number of digits taken. -/
def takeDigits (limit : Nat) : Bytes → Nat → Nat → Nat × Nat
  | [], n, count => (n, count)
  | b :: rest, n, count =>
    if isDigit b && n * 10 + digitOf b ≤ limit then
      takeDigits limit rest (n * 10 + digitOf b) (count + 1)
    else (n, count)

/-- Reads digits after the number `n` while it stays at most `limit`; also how many were read. -/
def digits (limit n : Nat) : Reader (Nat × Nat) := do
  let (n, count) := takeDigits limit (← getThe Cursor).rest n 0
  modifyThe Cursor fun c => ⟨c.rest.drop count, c.line, c.column + count⟩
  return (n, count)

def nextIsDigit : Reader Bool := return ((← peek).map isDigit).getD false

def nextIs (p : UInt8 → Bool) : Reader Bool := return ((← peek).map p).getD false

def isExponentMark (b : UInt8) : Bool := b == 0x65 || b == 0x45

/-- An exponent past this number of steps is not distinguished from it. -/
def greatestExponent : Nat := 0x7FFFFFFF

/-- The number from its exponent mark on. -/
def exponentPart (positive : Bool) (significand : Nat) (start : Int) : Reader Number := do
  skipByte
  let up ← match ← peek with
    | some 0x2B => do skipByte; pure true
    | some 0x2D => do skipByte; pure false
    | _ => pure true
  match ← next with
  | none => failHere .endInValue
  | some b =>
    if !isDigit b then failHere .invalidNumber
    else
      let (e, _) ← digits greatestExponent (digitOf b)
      if ← nextIsDigit then
        skipByte
        if significand ≠ 0 && up then failHere .numberOutOfRange
        else
          skipWhile isDigit
          return .float ⟨!positive, 0, Binary64.leastExponent⟩
      else
        let e : Int := if up then start + e else start - e
        assemble positive significand (max (min e greatestExponent) (-greatestExponent - 1))

/-- The number from its decimal point on; `shift` is the power of ten of the digit before it. -/
def fractionPart (positive : Bool) (significand : Nat) (shift : Int) : Reader Number := do
  skipByte
  let (n, count) ← digits greatestInteger significand
  let more ← nextIsDigit
  if count = 0 && !more then
    match ← peek with
    | some _ => failAhead .invalidNumber
    | none => failAhead .endInValue
  else
    skipWhile isDigit
    if ← nextIs isExponentMark then exponentPart positive n (shift - count)
    else assemble positive n (shift - count)

/-- A number whose sign has been read. -/
def number (positive : Bool) : Reader Number := do
  match ← next with
  | none => failHere .endInValue
  | some first =>
    if !isDigit first then failHere .invalidNumber
    else if first == 0x30 && (← nextIsDigit) then failAhead .invalidNumber
    else
      let (n, _) ← digits greatestInteger (digitOf first)
      let before := (← getThe Cursor).rest.length
      skipWhile isDigit
      let dropped : Nat := before - (← getThe Cursor).rest.length
      match ← peek with
      | some 0x2E => fractionPart positive n dropped
      | some 0x65 | some 0x45 => exponentPart positive n dropped
      | _ =>
        if dropped ≠ 0 then assemble positive n dropped
        else if positive then return .int n
        else if n = 0 || n > 0x8000000000000000 then assemble false n 0
        else return .int (-n)

/-! ### Texts -/

def hexValue (b : UInt8) : Option Nat :=
  if isDigit b then some (b.toNat - 48)
  else if 0x61 ≤ b && b ≤ 0x66 then some (b.toNat - 87)
  else if 0x41 ≤ b && b ≤ 0x46 then some (b.toNat - 55)
  else none

/-- The four hexadecimal digits of an escape. -/
def fourHex : Reader Nat := do
  match (← getThe Cursor).rest with
  | a :: b :: c :: d :: _ =>
    skipByte; skipByte; skipByte; skipByte
    match hexValue a, hexValue b, hexValue c, hexValue d with
    | some a, some b, some c, some d => return ((a * 16 + b) * 16 + c) * 16 + d
    | _, _, _, _ => failHere .invalidEscape
  | _ =>
    skipWhile fun _ => true
    failHere .endInText

def expectInPair (b : UInt8) : Reader Unit := do
  match ← peek with
  | none => failHere .endInText
  | some b' =>
    skipByte
    if b' == b then pure () else failHere .unfinishedPair

/-- The character of an escape whose backslash and letter `u` have been read. -/
def unicodeEscape : Reader Char := do
  let n ← fourHex
  if 0xDC00 ≤ n && n ≤ 0xDFFF then failHere .loneSurrogate
  else if n < 0xD800 || n > 0xDBFF then return Char.ofNat n
  else
    expectInPair 0x5C
    expectInPair 0x75
    let m ← fourHex
    if m < 0xDC00 || m > 0xDFFF then failHere .loneSurrogate
    else return Char.ofNat (0x10000 + (n - 0xD800) * 0x400 + (m - 0xDC00))

/-- The letter of a short escape. -/
def shortEscape? (b : UInt8) : Option Char :=
  match b with
  | 0x22 => some '"'
  | 0x5C => some '\\'
  | 0x2F => some '/'
  | 0x62 => some '\x08'
  | 0x66 => some '\x0c'
  | 0x6E => some '\n'
  | 0x72 => some '\r'
  | 0x74 => some '\t'
  | _ => none

/-- The bytes of a text up to its closing quote, which comes next, with those read so far in
reverse. -/
def textBytes : Nat → Bytes → Reader Bytes
  | 0, _ => failHere .endInText
  | fuel + 1, done => do
    match ← peek with
    | none => failHere .endInText
    | some 0x22 => return done.reverse
    | some 0x5C =>
      skipByte
      match ← next with
      | none => failHere .endInText
      | some 0x75 => do
        let c ← unicodeEscape
        textBytes fuel ((Text.utf8 c.toString).reverse ++ done)
      | some b =>
        match shortEscape? b with
        | some c => textBytes fuel (c.toNat.toUInt8 :: done)
        | none => failHere .invalidEscape
    | some b =>
      skipByte
      if b < 0x20 then failHere .controlCharacter else textBytes fuel (b :: done)

/-- A text whose opening quote has been read. -/
def text : Reader String := do
  let bytes ← textBytes ((← getThe Cursor).rest.length + 1) []
  match Text.ofUtf8? bytes with
  | some s =>
    skipByte
    return s
  | none => failHere .invalidCodePoint

/-- Passes over a text whose opening quote has been read; what its escapes stand for does not
matter. -/
def skipText : Nat → Reader Unit
  | 0 => failHere .endInText
  | fuel + 1 => do
    match ← peek with
    | none => failHere .endInText
    | some 0x22 => skipByte
    | some 0x5C =>
      skipByte
      match ← next with
      | none => failHere .endInText
      | some 0x75 => do
        let _ ← fourHex
        skipText fuel
      | some b => if (shortEscape? b).isSome then skipText fuel else failHere .invalidEscape
    | some b => if b < 0x20 then failHere .controlCharacter else do skipByte; skipText fuel

/-! ### Values -/

/-- Whether an array goes on, `first` before its first element. -/
def moreElements (first : Bool) : Reader Bool := do
  match ← peekToken with
  | none => failAhead .endInList
  | some 0x5D => return false
  | some b =>
    if first then return true
    else if b == 0x2C then
      skipByte
      match ← peekToken with
      | some 0x5D => failAhead .trailingComma
      | some _ => return true
      | none => failAhead .endInValue
    else failAhead .expectedCommaOrBracket

/-- Whether an object goes on, `first` before its first member; if so a quote comes next. -/
def moreMembers (first : Bool) : Reader Bool := do
  match ← peekToken with
  | none => failAhead .endInObject
  | some 0x7D => return false
  | some b =>
    if first then
      if b == 0x22 then return true else failAhead .nameNotText
    else if b == 0x2C then
      skipByte
      match ← peekToken with
      | some 0x22 => return true
      | some 0x7D => failAhead .trailingComma
      | some _ => failAhead .nameNotText
      | none => failAhead .endInValue
    else failAhead .expectedCommaOrBrace

def colon : Reader Unit := do
  match ← peekToken with
  | some 0x3A => skipByte
  | some _ => failAhead .expectedColon
  | none => failAhead .endInObject

/-- The name of a member and the colon after it. -/
def memberName : Reader String := do
  skipByte
  let name ← text
  colon
  return name

def endOfList : Reader Unit := do
  match ← peekToken with
  | some 0x5D => skipByte
  | some 0x2C =>
    skipByte
    match ← peekToken with
    | some 0x5D => failAhead .trailingComma
    | _ => failAhead .trailingCharacters
  | some _ => failAhead .trailingCharacters
  | none => failAhead .endInList

def endOfObject : Reader Unit := do
  match ← peekToken with
  | some 0x7D => skipByte
  | some 0x2C => failAhead .trailingComma
  | some _ => failAhead .trailingCharacters
  | none => failAhead .endInObject

/-- The levels of arrays and objects a document may have, and one more. -/
def depthLimit : Nat := 128

/-- Opens one level with `depth` levels left, which leaves at least one. -/
def openLevel (depth : Nat) : Reader Unit :=
  if depth ≤ 1 then failAhead .tooDeep else skipByte

mutual

/-- Passes over a value, whatever its depth. -/
def skip : Nat → Reader Unit
  | 0 => failAhead .endInValue
  | fuel + 1 => do
    match ← peekToken with
    | none => failAhead .endInValue
    | some 0x6E => skipByte; word ['u', 'l', 'l']
    | some 0x74 => skipByte; word ['r', 'u', 'e']
    | some 0x66 => skipByte; word ['a', 'l', 's', 'e']
    | some 0x2D => skipByte; skipNumber
    | some 0x22 => skipByte; skipText fuel
    | some 0x5B =>
      skipByte
      match ← peekToken with
      | none => failAhead .endInList
      | some 0x5D => skipByte
      | some _ => skipElements fuel
    | some 0x7B =>
      skipByte
      match ← peekToken with
      | none => failAhead .endInObject
      | some 0x7D => skipByte
      | some _ => skipMembers fuel
    | some b => if isDigit b then skipNumber else failAhead .expectedValue

def skipElements : Nat → Reader Unit
  | 0 => failAhead .endInList
  | fuel + 1 => do
    skip fuel
    match ← peekToken with
    | none => failAhead .endInList
    | some 0x5D => skipByte
    | some 0x2C => skipByte; skipElements fuel
    | some _ => failAhead .expectedCommaOrBracket

def skipMembers : Nat → Reader Unit
  | 0 => failAhead .endInObject
  | fuel + 1 => do
    match ← peekToken with
    | none => failAhead .endInObject
    | some 0x22 => skipByte
    | some _ => failAhead .nameNotText
    skipText fuel
    colon
    skip fuel
    match ← peekToken with
    | none => failAhead .endInObject
    | some 0x7D => skipByte
    | some 0x2C => skipByte; skipMembers fuel
    | some _ => failAhead .expectedCommaOrBrace

/-- Passes over a number whose sign has been read; its size does not matter. -/
def skipNumber : Reader Unit := do
  match ← next with
  | none => failHere .invalidNumber
  | some b =>
    if !isDigit b then failHere .invalidNumber
    else if b == 0x30 && (← nextIsDigit) then failAhead .invalidNumber
    else
      skipWhile isDigit
      if ← nextIs (· == 0x2E) then
        skipByte
        if !(← nextIsDigit) then failAhead .invalidNumber
        skipWhile isDigit
      if ← nextIs isExponentMark then
        skipByte
        if ← nextIs (fun b => b == 0x2B || b == 0x2D) then skipByte
        match ← next with
        | none => failHere .invalidNumber
        | some b => if isDigit b then skipWhile isDigit else failHere .invalidNumber

end

mutual

/-- A value of some shape, with `depth` levels left. -/
def value (shape : Shape) : Nat → Nat → Reader Json
  | 0, _ => failAhead .endInValue
  | fuel + 1, depth => do
    match ← peekToken with
    | none => failAhead .endInValue
    | some 0x6E => skipByte; word ['u', 'l', 'l']; return .null
    | some 0x74 => skipByte; word ['r', 'u', 'e']; return .bool true
    | some 0x66 => skipByte; word ['a', 'l', 's', 'e']; return .bool false
    | some 0x2D => skipByte; return .num (← number false)
    | some 0x22 => skipByte; return .str (← text)
    | some 0x5B => openLevel depth; return .arr (← elements shape fuel (depth - 1) true)
    | some 0x7B => openLevel depth; return .obj (← members shape fuel (depth - 1) true)
    | some b => if isDigit b then return .num (← number true) else failAhead .expectedValue

def elements (shape : Shape) : Nat → Nat → Bool → Reader (List Json)
  | 0, _, _ => failAhead .endInList
  | fuel + 1, depth, first => do
    if ← moreElements first then
      let (item, others) := shape.element
      let v ← value item fuel depth
      return v :: (← elements others fuel depth false)
    else
      skipByte
      return []

def members (shape : Shape) : Nat → Nat → Bool → Reader (List (String × Json))
  | 0, _, _ => failAhead .endInObject
  | fuel + 1, depth, first => do
    if ← moreMembers first then
      let name ← memberName
      match shape.member? name with
      | some item =>
        let v ← value item fuel depth
        return (name, v) :: (← members shape fuel depth false)
      | none =>
        skip fuel
        members shape fuel depth false
    else
      skipByte
      return []

end

/-! ### Dictionaries and records -/

/-- Fails because the value that comes next is not what was expected: the position is the end of a
scalar and the start of an array or object. -/
def failWrongType {α : Type} (expected : String) : Reader α := do
  let here {β : Type} (found : String) : Reader β := failHere (.wrongType found expected)
  let ofNumber {β : Type} (n : Number) : Reader β :=
    match n with
    | .int _ => here ("integer `" ++ writeNumber n ++ "`")
    | .float _ => here ("floating point `" ++ writeNumber n ++ "`")
  match ← peek with
  | some 0x6E => skipByte; word ['u', 'l', 'l']; here "null"
  | some 0x74 => skipByte; word ['r', 'u', 'e']; here "boolean `true`"
  | some 0x66 => skipByte; word ['a', 'l', 's', 'e']; here "boolean `false`"
  | some 0x2D => skipByte; ofNumber (← number false)
  | some 0x22 => skipByte; here ("string " ++ Text.quoted (← text))
  | some 0x5B => here "sequence"
  | some 0x7B => here "map"
  | some b => if isDigit b then ofNumber (← number true) else failAhead .expectedValue
  | none => failAhead .expectedValue

/-- Runs `read` and then `close`, whose position a repeated field is reported at. -/
def closing {α : Type} (read : Reader α) (close : Reader Unit) : Reader α := fun c =>
  match read c with
  | (.ok a, c) =>
    match close c with
    | (.ok (), c) => (.ok a, c)
    | (.error e, c) => (.error e, c)
  | (.error e, c) =>
    match e.fault with
    | .repeatedField _ =>
      let c := (close c).2
      (.error ⟨e.fault, c.line, c.column⟩, c)
    | _ => (.error e, c)

def entries {α : Type} (item : Nat → Reader α) (depth : Nat) :
    Nat → Bool → Dict String α → Reader (Dict String α)
  | 0, _, _ => failAhead .endInObject
  | fuel + 1, first, done => do
    if ← moreMembers first then
      let name ← memberName
      let a ← item depth
      entries item depth fuel false (done.insert name a)
    else return done

/-- An object as a dictionary, the last of equal names winning; `item` reads a member's value with
the levels it has left. -/
def dictionary {α : Type} (fuel : Nat) (item : Nat → Reader α) (depth : Nat) :
    Reader (Dict String α) := do
  match ← peekToken with
  | none => failAhead .endInValue
  | some 0x7B =>
    openLevel depth
    closing (entries item (depth - 1) fuel true ∅) endOfObject
  | some _ => failWrongType "a map"

def recordMembers {α : Type} (field : String) (item : Nat → Reader α) (depth : Nat) :
    Nat → Bool → Option α → Reader (Option α)
  | 0, _, _ => failAhead .endInObject
  | fuel + 1, first, found => do
    if ← moreMembers first then
      skipByte
      let name ← text
      if name = field then
        if found.isSome then failHere (.repeatedField field)
        colon
        recordMembers field item depth fuel false (some (← item depth))
      else
        colon
        skip fuel
        recordMembers field item depth fuel false found
    else return found

/-- The one field of a record of which only that field matters: a member of an object, which may
not be repeated, or the first element of an array. -/
def record {α : Type} (fuel : Nat) (expected field : String) (item : Nat → Reader α) (depth : Nat) :
    Reader (Option α) := do
  match ← peekToken with
  | none => failAhead .endInValue
  | some 0x5B =>
    openLevel depth
    let first : Reader (Option α) := do
      if ← moreElements true then return some (← item (depth - 1)) else return none
    closing first endOfList
  | some 0x7B =>
    openLevel depth
    closing (recordMembers field item (depth - 1) fuel true none) endOfObject
  | some _ => failWrongType expected

def endOfDocument : Reader Unit := do
  match ← peekToken with
  | some _ => failAhead .trailingCharacters
  | none => pure ()

/-- Reads a whole document; `read` is given fuel and the levels a document may have. -/
def document {α : Type} (read : Nat → Nat → Reader α) (bytes : Bytes) : Except ReadError α :=
  let whole : Reader α := do
    let a ← read (2 * bytes.length + 2) depthLimit
    endOfDocument
    return a
  (whole (Cursor.start bytes)).1

end Reader

/-- The parts of a document that a shape names, with the members of objects in the order they are
written. -/
def parse (shape : Shape) (bytes : Bytes) : Except ReadError Json :=
  Reader.document (Reader.value shape) bytes

/-- The canonical value of a text. -/
def ofText (s : String) : Except ReadError Json := (parse .any (Text.utf8 s)).map canonical

end Provisioner.Json
