import Provisioner.Dict
import Provisioner.Yaml.Document
import Provisioner.Yaml.ScalarType

/-!
# Documents of texts

A document that is a mapping of texts, read as a dictionary or as a record of named fields. A scalar
is a text whatever it looks like, and an empty document is an empty mapping. A record passes over
what it does not know, and a field of it may not be given twice.
-/

namespace Provisioner.Yaml

namespace Document

/-- What comes at a place among the events; where they end, the fault that ended them. -/
def eventAt (d : Document) (i : Nat) : Except Fault (Event × Mark) :=
  match d.events[i]? with
  | some e => .ok e
  | none => .error (d.fault.getD .severalDocuments)

/-- The node that an alias stands for. -/
def target? (d : Document) (anchor : Nat) : Option (Event × Mark) :=
  (d.anchors.find? (·.1 = anchor)).bind fun a => d.events[a.2]?

/-- That an event is not what was expected at a place. -/
def wrongType (place : Place) (event : Event) (expected : String) (mark : Mark) : Fault :=
  match event with
  | .scalar s style tag =>
    match ScalarType.taken s style tag with
    | .as found => .wrongType place found expected mark
    | .notAs found wanted => .wrongValue place found wanted mark
  | .sequenceStart | .sequenceEnd => .wrongType place "sequence" expected mark
  | .mappingStart | .mappingEnd | .alias _ => .wrongType place "map" expected mark

/-- The text of the event at a place. -/
def textAt (d : Document) (place : Place) (expected : String) (i : Nat) : Except Fault String := do
  let (event, mark) ← d.eventAt i
  let (event, mark) :=
    match event with
    | .alias anchor => (d.target? anchor).getD (event, mark)
    | _ => (event, mark)
  match event with
  | .scalar s _ _ => return s
  | _ => throw (wrongType place event expected mark)

/-- The place after the node at `i`; `depth` counts the open collections. -/
def skipFrom (d : Document) : Nat → Nat → Nat → Except Fault Nat
  | 0, _, i => .ok i
  | fuel + 1, depth, i => do
    let (event, _) ← d.eventAt i
    let depth := match event with
      | .sequenceStart | .mappingStart => depth + 1
      | .sequenceEnd | .mappingEnd => depth - 1
      | _ => depth
    if depth = 0 then return i + 1 else skipFrom d fuel depth (i + 1)

/-- The place that faults of a value are reported at. -/
def placeOfKey (d : Document) (i : Nat) (key : String) : Place :=
  match d.events[i]? with
  | some (.scalar .., _) => .key key
  | _ => .unnamed

/-- The entries of a mapping from `i` on; `known` says which values must be texts. -/
def entriesFrom (d : Document) (keyExpected : String) (known : String → Bool) (start : Mark)
    (strict : Bool) : Nat → Nat → List (String × String) → Except Fault (List (String × String))
  | 0, _, done => .ok done
  | fuel + 1, i, done => do
    let (event, _) ← d.eventAt i
    if event = .mappingEnd then return done
    let key ← d.textAt .root keyExpected i
    if known key then
      if strict && done.any (·.1 = key) then throw (.repeatedField key start)
      let value ← d.textAt (d.placeOfKey i key) "a string" (i + 1)
      entriesFrom d keyExpected known start strict fuel (i + 2) (done ++ [(key, value)])
    else
      let next ← d.skipFrom (d.events.size + 1) 0 (i + 1)
      entriesFrom d keyExpected known start strict fuel next done

/-- The entries of a document, and the place where its mapping begins. -/
def entries (d : Document) (expected keyExpected : String) (known : String → Bool) (strict : Bool) :
    Except Fault (List (String × String) × Mark) := do
  if d.events.isEmpty && d.fault.isNone then return ([], d.endMark)
  let (event, mark) ← d.eventAt 0
  match event with
  | .mappingStart =>
    return (← entriesFrom d keyExpected known mark strict (d.events.size + 1) 1 [], mark)
  | .scalar s style tag =>
    if (s = "" && style = .plain) || tag = some (ScalarType.standardTag "null") then
      return ([], mark)
    else throw (wrongType .root event expected mark)
  | _ => throw (wrongType .root event expected mark)

end Document

/-- Reads the one document of a text. -/
def readDocument {α : Type} (text : String) (read : Document → Except Fault α) :
    Except Fault α := do
  let (document, more) := Document.read text
  let a ← read document
  match document.fault with
  | some fault => throw fault
  | none => if more then throw .severalDocuments else return a

/-- A field of a record, and what it is if it is not given. -/
structure Field where
  name : String
  default : Option String := none

/-- The dictionary of a text, the last of equal keys winning. -/
def dictionary (text : String) : Except Fault (Dict String String) :=
  readDocument text fun d => do
    let (entries, _) ← d.entries "a map" "a string" (fun _ => true) false
    return Dict.ofList entries

/-- The values of the fields of a record, in their order. -/
def record (name : String) (fields : List Field) (text : String) :
    Except Fault (List String) :=
  readDocument text fun d => do
    let known (key : String) : Bool := fields.any (·.name = key)
    let (entries, mark) ← d.entries ("struct " ++ name) "field identifier" known true
    fields.mapM fun field =>
      match (entries.find? (·.1 = field.name)).map (·.2) <|> field.default with
      | some value => .ok value
      | none => .error (.missingField field.name mark)

end Provisioner.Yaml
