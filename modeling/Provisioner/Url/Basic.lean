import Provisioner.Url.Address
import Provisioner.Url.Domain

/-!
# URLs

Reading a URL that stands by itself. What is kept of it is the name of its host, if it has one, and
the segments of its path: dots are resolved, and what may not stand in a path is written in percent
form. For the *special* schemes of the web and of files a backslash is as good as a slash, and the
host is a domain name or an address; any other host is opaque.
-/

namespace Provisioner.Url

open Text (Bytes)

/-- Why a text is not a URL. -/
inductive Fault
  | emptyHost
  | domainName
  | port
  | address4
  | address6
  | hostCharacter
  | noScheme
  deriving DecidableEq, Repr

def Fault.message : Fault → String
  | .emptyHost => "empty host"
  | .domainName => "invalid international domain name"
  | .port => "invalid port number"
  | .address4 => "invalid IPv4 address"
  | .address6 => "invalid IPv6 address"
  | .hostCharacter => "invalid domain character"
  | .noScheme => "relative URL without a base"

/-- How the parts of a URL are told apart, which its scheme decides. -/
inductive Scheme
  | web
  | file
  | other
  deriving DecidableEq, Repr

def Scheme.ofName (name : String) : Scheme :=
  if ["http", "https", "ws", "wss", "ftp"].contains name then .web
  else if name = "file" then .file
  else .other

def Scheme.isSpecial (s : Scheme) : Bool := s ≠ .other

/-- The name of the host, none if there is no host or it is given by its address, and the segments
of the path. -/
structure Parts where
  domain : Option String := none
  segments : List String := []
  deriving DecidableEq, Repr, Inhabited

/-! ### Characters -/

/-- A text without the controls and spaces around it and without tabs and line breaks. -/
def significant (s : String) : List Char :=
  let low (c : Char) : Bool := c.toNat ≤ 0x20
  let cs := ((s.toList.dropWhile low).reverse.dropWhile low).reverse
  cs.filter fun c => c ≠ '\t' && c ≠ '\n' && c ≠ '\r'

/-- A slash, or what stands for one. -/
def isSlash (s : Scheme) (c : Char) : Bool := c == '/' || (s.isSpecial && c == '\\')

/-- What ends the authority. -/
def endsAuthority (s : Scheme) (c : Char) : Bool := isSlash s c || c == '?' || c == '#'

def hexadecimalDigit (n : Nat) : Char := (Nat.digitChar (n % 16)).toUpper

/-- A byte in percent form. -/
def percentByte (b : UInt8) : List Char :=
  ['%', hexadecimalDigit (b.toNat / 16), hexadecimalDigit b.toNat]

/-- A character in percent form. -/
def percentForm (c : Char) : List Char := (Text.utf8 c.toString).flatMap percentByte

/-- Controls and everything outside ASCII. -/
def isOutsideText (c : Char) : Bool := c.toNat < 0x20 || 0x7F ≤ c.toNat

/-- What is written in percent form in a path. -/
def isEscapedInPath (c : Char) : Bool := isOutsideText c || " \"<>`#?\x7b\x7d".toList.contains c

def escape (isEscaped : Char → Bool) (cs : List Char) : List Char :=
  cs.flatMap fun c => if isEscaped c then percentForm c else [c]

/-- The bytes that some characters stand for, percent forms read. -/
def percentDecoded : List Char → Bytes
  | '%' :: a :: b :: rest =>
    match digitIn? 16 a, digitIn? 16 b with
    | some m, some n => UInt8.ofNat (16 * m + n) :: percentDecoded rest
    | _, _ => 0x25 :: percentDecoded (a :: b :: rest)
  | c :: rest => Text.utf8 c.toString ++ percentDecoded rest
  | [] => []

/-! ### Hosts -/

/-- The address between brackets. -/
def bracketed (cs : List Char) : Except Fault (Option String) :=
  if cs.getLast? = some ']' && isAddress6 cs.dropLast then .ok none else .error .address6

/-- The host of a special URL: an address, or a domain name in its ASCII form. -/
def specialHost : List Char → Except Fault (Option String)
  | '[' :: rest => bracketed rest
  | cs =>
    match domainForm? (percentDecoded cs) with
    | none => .error .domainName
    | some name =>
      if name = "" then .error .emptyHost
      else if endsInNumber name.toList then
        if isAddress4 name.toList then .ok none else .error .address4
      else .ok (some name)

/-- What no opaque host may hold. -/
def isForbiddenInHost (c : Char) : Bool := "\x00\t\n\r #/:<>?@[\\]^|".toList.contains c

/-- A host that is not looked into. -/
def opaqueHost : List Char → Except Fault (Option String)
  | '[' :: rest => bracketed rest
  | cs =>
    if cs.any isForbiddenInHost then .error .hostCharacter
    else .ok (some (String.ofList (escape isOutsideText cs)))

/-- Whether a colon after some characters of an authority would stand between brackets. -/
def insideBrackets (inside : Bool) (c : Char) : Bool :=
  if c == '[' then true else if c == ']' then false else inside

/-- The host at the front of an authority, and what comes after it: it ends at a colon outside
brackets or with the authority. -/
def hostPart (s : Scheme) : Bool → List Char → List Char × List Char
  | _, [] => ([], [])
  | inside, c :: rest =>
    if (c == ':' && !inside) || endsAuthority s c then ([], c :: rest)
    else
      let (host, after) := hostPart s (insideBrackets inside c) rest
      (c :: host, after)

/-- The digits of a port are passed over; the port must be of sixteen bits. -/
def afterPort (value : Nat) : List Char → Except Fault (List Char)
  | [] => .ok []
  | c :: rest =>
    if isDecimal c then
      let value := 10 * value + (c.toNat - 48)
      if value < 0x10000 then afterPort value rest else .error .port
    else if endsAuthority .web c then .ok (c :: rest)
    else .error .port

/-- What comes before the last `@` of the authority, if there is one, and what comes after it. -/
def userPart (s : Scheme) (cs : List Char) : Option (List Char) × List Char :=
  let authority := cs.takeWhile fun c => !endsAuthority s c
  let afterLast := (authority.reverse.takeWhile (· ≠ '@')).reverse
  if afterLast.length = authority.length then (none, cs)
  else
    let user := authority.take (authority.length - afterLast.length - 1)
    (some user, cs.drop (user.length + 1))

/-! ### Paths -/

/-- A letter and a colon or bar, which names a drive. -/
def isDrive : List Char → Bool
  | [c, d] => c.isAlpha && (d == ':' || d == '|')
  | _ => false

/-- The segment with percent forms of dots read. -/
def withDots : List Char → List Char
  | '%' :: '2' :: 'e' :: rest => '.' :: withDots rest
  | '%' :: '2' :: 'E' :: rest => '.' :: withDots rest
  | c :: rest => c :: withDots rest
  | [] => []

/-- A path as far as it has been read: its segments in reverse, and whether it begins with a drive. -/
structure Path where
  segments : List (List Char) := []
  onDrive : Bool := false
  deriving DecidableEq, Repr

/-- One more segment of a path: one dot stays where it is, and two dots go back by one segment,
though not over a drive. -/
def Path.add (s : Scheme) (p : Path) (segment : List Char) : Path :=
  if withDots segment = ['.', '.'] then
    match p.segments with
    | last :: earlier => if isDrive last then p else { p with segments := earlier }
    | [] => p
  else if withDots segment = ['.'] then p
  else if s = .file && p.segments.isEmpty && isDrive segment then
    { segments := [[segment.headD ' ', ':']], onDrive := true }
  else { p with segments := segment :: p.segments }

/-- The path that some characters begin with. -/
def Path.of (s : Scheme) (cs : List Char) : Path :=
  let path := cs.takeWhile fun c => c ≠ '?' && c ≠ '#'
  let path := match path with
    | c :: rest => if isSlash s c then rest else path
    | [] => []
  ((splitBy (isSlash s) path).map (escape isEscapedInPath)).foldl (Path.add s) {}

def Parts.of (domain : Option String) (path : Path) : Parts :=
  ⟨domain, path.segments.reverse.map String.ofList⟩

/-! ### URLs -/

/-- A URL from its authority on. -/
def fromAuthority (s : Scheme) (cs : List Char) : Except Fault Parts := do
  let (user, cs) := userPart s cs
  if user = some [] && cs.head?.any (endsAuthority s) then throw .emptyHost
  let (host, after) := hostPart s false cs
  if s.isSpecial && host.isEmpty then throw .emptyHost
  let domain ← if s.isSpecial then specialHost host else opaqueHost host
  let named := user.any fun u => u ≠ [] && u ≠ [':']
  let after ←
    match after with
    | ':' :: digits => if host.isEmpty then throw .emptyHost else afterPort 0 digits
    | _ => pure after
  if host.isEmpty && named then throw .emptyHost
  return .of (domain.filter (· ≠ "")) (Path.of s after)

/-- A file URL after its scheme. The host may be left out or be the machine itself, and a drive at
the front of the path leaves no host. -/
def ofFile (cs : List Char) : Except Fault Parts := do
  match cs with
  | c :: d :: rest =>
    if isSlash .file c && isSlash .file d then
      let host := rest.takeWhile fun c => !endsAuthority .file c
      if isDrive host || host.isEmpty then return .of none (Path.of .file rest)
      let domain ← specialHost host
      let path := Path.of .file (rest.drop host.length)
      return .of (domain.filter fun name => name ≠ "localhost" && !path.onDrive) path
    else return .of none (Path.of .file cs)
  | _ => return .of none (Path.of .file cs)

/-- The name of the scheme, in lower case, and what comes after its colon. -/
def scheme? (cs : List Char) : Option (String × List Char) :=
  let isSchemeChar (c : Char) : Bool := c.isAlphanum || c == '+' || c == '-' || c == '.'
  let name := cs.takeWhile isSchemeChar
  match cs.drop name.length with
  | ':' :: rest =>
    if name.head?.any Char.isAlpha then some (String.ofList (name.map Char.toLower), rest) else none
  | _ => none

/-- The parts of the URL that a text writes. -/
def parse (text : String) : Except Fault Parts :=
  match scheme? (significant text) with
  | none => .error .noScheme
  | some (name, rest) =>
    match Scheme.ofName name with
    | .web => fromAuthority .web (rest.dropWhile (isSlash .web))
    | .file => ofFile rest
    | .other =>
      match rest with
      | '/' :: '/' :: authority => fromAuthority .other authority
      | '/' :: _ => .ok (.of none (Path.of .other rest))
      | _ => .ok {}

end Provisioner.Url
