import Provisioner.Json.Basic

/-!
# Decoding JSON

What the parts of a document must look like: scalars, lists, dictionaries, and two kinds of records.
The fields of a *strict* record may not be repeated, and the record may also be given as the list of
their values; in a *lenient* record the last of repeated fields wins. Fields with other names are
passed over in both.
-/

namespace Provisioner.Json

def text? : Json → Option String
  | .str s => some s
  | _ => none

def bool? : Json → Option Bool
  | .bool b => some b
  | _ => none

/-- An integer of some number of bits, one of them for the sign. -/
def signed? (bits : Nat) : Json → Option Int
  | .num (.int n) =>
    let bound : Int := Nat.pow 2 (bits - 1)
    if -bound ≤ n ∧ n < bound then some n else none
  | _ => none

def list? {α : Type} (item : Json → Option α) : Json → Option (List α)
  | .arr elements => elements.mapM item
  | _ => none

/-- An object as a dictionary, the last of equal names winning. -/
def dict? {α : Type} (item : Json → Option α) : Json → Option (Dict String α)
  | .obj members => (members.mapM fun m => (item m.2).map (m.1, ·)).map Dict.ofList
  | _ => none

def texts? : Json → Option (Dict String String) := dict? text?

/-- A value that may be null. -/
def nullable {α : Type} (item : Json → Option α) : Json → Option (Option α)
  | .null => some none
  | v => (item v).map some

/-- Any value, in canonical form. -/
def any? (v : Json) : Option Json := some v.canonical

/-! ### Strict records -/

/-- The only member of a name, if any; fails if there are more. -/
def onlyMember? (members : List (String × Json)) (name : String) : Option (Option Json) :=
  match members.filter (·.1 = name) with
  | [] => some none
  | [m] => some (some m.2)
  | _ => none

/-- The values of the fields `names`, where they are given. As a list they are at least `least`. -/
def strictFields (names : List String) (v : Json) (least : Nat := 0) :
    Option (List (Option Json)) :=
  match v with
  | .obj members => names.mapM (onlyMember? members)
  | .arr elements =>
    if least ≤ elements.length && elements.length ≤ names.length then
      some (elements.map some ++ List.replicate (names.length - elements.length) none)
    else none
  | _ => none

/-- A field that must be given. -/
def required {α : Type} (item : Json → Option α) (field : Option Json) : Option α := field.bind item

/-- A field that may be absent or null. -/
def optional {α : Type} (item : Json → Option α) : Option Json → Option (Option α)
  | none => some none
  | some v => nullable item v

/-- A field that may be absent, with what it then is. -/
def defaulted {α : Type} (item : Json → Option α) (default : α) : Option Json → Option α
  | none => some default
  | some v => item v

/-- One of a set of named values: its name, or an object whose one member has that name and is
null. -/
def named? {α : Type} (ofName? : String → Option α) : Json → Option α
  | .str s => ofName? s
  | .obj [(s, .null)] => ofName? s
  | _ => none

/-! ### Lenient records -/

/-- The members of an object. -/
def object? : Json → Option (List (String × Json))
  | .obj members => some members
  | _ => none

/-- The last member of a name, none if it is null or there is none; all of that name must decode. -/
def lastField {α : Type} (members : List (String × Json)) (name : String)
    (item : Json → Option α) : Option (Option α) :=
  (members.filter (·.1 = name)).foldlM (fun _ m => nullable item m.2) none

end Provisioner.Json
