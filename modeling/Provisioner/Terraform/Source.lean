import Provisioner.Terraform.Variables

/-!
# Sources

A configuration has exactly one source: text in the configuration language, a JSON document, or the
URL of a repository. What is run is the source with a *backend* added that keeps the state in a
secret of the cluster.
-/

namespace Provisioner.Terraform

open Provisioner.Configuration (Spec SourceType)

/-- The kinds of source that a specification gives. -/
def sources (s : Spec) : List SourceType :=
  let given (source : Option String) (type : SourceType) : List SourceType :=
    if source.any Text.hasContent then [type] else []
  given s.hcl .hcl ++ given s.json .json ++ given s.remote .remote

/-- The one kind of source that a specification gives. -/
def sourceType (s : Spec) : Except SpecFault SourceType :=
  match sources s with
  | [] => .error .noSource
  | [type] => .ok type
  | _ => .error .severalSources

/-- A terraform block, or the first of a list of them, with its backend set. -/
def setBackend (backend : Json) : Json → Option Json
  | .obj members => some ((Json.obj members).setMember "backend" backend)
  | .arr [] => some (.arr [.obj [("backend", backend)]])
  | .arr (.obj members :: rest) =>
    some (.arr ((Json.obj members).setMember "backend" backend :: rest))
  | _ => none

/-- The document with the backend set in its terraform block, which is made if there is none. -/
def withBackend (backend document : Json) : Option Json :=
  (setBackend backend ((document.member? "terraform").getD (.obj []))).map
    (document.setMember "terraform")

/-- Whether the parts of a specification's source can be used. -/
def checkSource (s : Spec) : SourceType → Except SpecFault Unit
  | .hcl => .ok ()
  | .json =>
    match Json.ofText (s.json.getD "") with
    | .error e => .error (.malformedSource e)
    | .ok (.obj members) =>
      if (withBackend .null (.obj members)).isSome then .ok () else .error .terraformBlock
    | .ok _ => .error .sourceNotObject
  | .remote =>
    let remote := s.remote.getD ""
    match Url.parse remote with
    | .error e => .error (.malformedUrl remote e)
    | .ok _ => .ok ()

/-- The kind of source of a specification that can be run: it has one source, which can be used, and
its variables have texts. -/
def validate (s : Spec) : Except SpecFault SourceType := do
  let type ← sourceType s
  checkSource s type
  let _ ← variableEnv s.values
  return type

/-- The backend as text. -/
def backendText (name ns : String) : String :=
  "\nterraform \x7b\n" ++
  "  backend \"kubernetes\" \x7b\n" ++
  "    secret_suffix     = \"" ++ name ++ "\"\n" ++
  "    in_cluster_config = true\n" ++
  "    namespace         = \"" ++ ns ++ "\"\n" ++
  "  \x7d\n" ++
  "\x7d\n"

/-- The backend as a value. -/
def backendJson (name ns : String) : Json :=
  .ofMembers
    [("kubernetes",
      .ofMembers
        [("secret_suffix", .str name), ("in_cluster_config", .bool true), ("namespace", .str ns)])]

open Json (Reader) in
/-- The document of a JSON source. -/
def sourceDocument (source : String) : Except Json.ReadError Json :=
  let value (fuel depth : Nat) : Reader Json := Json.canonical <$> Json.Reader.value .any fuel depth
  (Json.Reader.document
    (fun fuel depth => Json.Reader.dictionary fuel (value fuel) depth) (Text.utf8 source)).map
    fun members => .obj members.entries

/-- The text that is run for a source of some kind. -/
def render (s : Spec) (type : SourceType) (name ns : String) : Except Error String :=
  match type with
  | .hcl => .ok (s.hcl.getD "" ++ "\n" ++ backendText name ns)
  | .remote => .ok (backendText name ns)
  | .json => do
    let document ← (sourceDocument (s.json.getD "")).mapError .json
    match withBackend (backendJson name ns) document with
    | some document => return document.pretty
    | none => throw (.invalid .terraformBlock)

/-- The file that the text for a source of some kind is kept in; without a kind it is taken for text
in the configuration language. -/
def fileName : Option SourceType → String
  | some .json => "main.tf.json"
  | some .remote => "terraform-backend.tf"
  | some .hcl | none => "main.tf"

end Provisioner.Terraform
