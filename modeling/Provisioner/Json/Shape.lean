/-!
# Shapes of documents

A shape names the parts of a document that are of interest. A reader passes over every other part,
whatever it holds.
-/

namespace Provisioner.Json

inductive Shape
  /-- Everything is of interest. -/
  | any
  /-- An array of elements of one shape. -/
  | list (item : Shape)
  /-- An object of members of any name and of one shape. -/
  | dict (item : Shape)
  /-- An object of which only members of some names are of interest, or an array of their values. -/
  | record (fields : List (String × Shape))
  deriving Inhabited

namespace Shape

/-- A record whose fields are of interest as a whole. -/
def fields (names : List String) : Shape := .record (names.map fun name => (name, .any))

/-- The names of the fields of a record. -/
def names : Shape → List String
  | .record fields => fields.map (·.1)
  | _ => []

/-- The shape of an object's member; none if it is of no interest. -/
def member? (s : Shape) (name : String) : Option Shape :=
  match s with
  | .record fields => fields.lookup name
  | .dict item => some item
  | _ => some .any

/-- The shape of an array's first element, and that of the array of the others. -/
def element : Shape → Shape × Shape
  | .list item => (item, .list item)
  | .record ((_, s) :: rest) => (s, .record rest)
  | s => (.any, s)

end Shape

end Provisioner.Json
