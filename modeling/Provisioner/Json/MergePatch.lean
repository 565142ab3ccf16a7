import Provisioner.Json.Basic

/-!
# Merge patches

A patch that is an object changes the members it names: a null removes one, an object patches one,
and anything else replaces one. A patch that is not an object replaces the whole value.
-/

namespace Provisioner.Json

/-- The members of an object; none of any other value. -/
def membersOf : Json → List (String × Json)
  | .obj members => members
  | _ => []

mutual

/-- `target` after `patch`. -/
def mergePatch (target : Json) : Json → Json
  | .obj changes => .obj (mergeMembers (membersOf target) changes)
  | patch => patch

def mergeMembers (members : List (String × Json)) :
    List (String × Json) → List (String × Json)
  | [] => members
  | (k, .null) :: rest => mergeMembers (members.filter fun m => m.1 ≠ k) rest
  | (k, change) :: rest =>
    mergeMembers (Dict.place k (mergePatch ((Dict.lookup k members).getD .null) change) members)
      rest

end

end Provisioner.Json
