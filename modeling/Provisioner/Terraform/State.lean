import Provisioner.Terraform.Variables

/-!
# Stored state

The state of what was provisioned is kept compressed, either as it is or in base 64. Of the state
document only the outputs matter; their values are kept as texts.
-/

namespace Provisioner.Terraform

open Text (Bytes)

/-- The compressed bytes that a stored state stands for. -/
def compressedState (raw : Bytes) : Except StateFault Bytes :=
  if Gzip.magic.isPrefixOf raw then .ok raw
  else (Base64.decodeText (Text.trim (Text.ofUtf8Lossy raw))).mapError .notEncoded

/-- The document of a stored state. -/
def stateDocument (raw : Bytes) : Except StateFault Bytes := do
  (Gzip.decompress (← compressedState raw)).mapError .notCompressed

open Json (Reader) in
/-- Reads the values of the outputs of a state document. -/
def outputValues (document : Bytes) : Except Json.ReadError (Dict String Json) :=
  let output (fuel depth : Nat) : Reader Json := do
    let value := Json.Reader.value .any fuel
    let value ← Json.Reader.record fuel "struct StateOutput" "value" value depth
    return (value.getD .null).canonical
  let outputs (fuel depth : Nat) : Reader (Dict String Json) :=
    Json.Reader.dictionary fuel (output fuel) depth
  Json.Reader.document
    (fun fuel depth => do
      let found ← Json.Reader.record fuel "struct TerraformState" "outputs" (outputs fuel) depth
      return found.getD ∅)
    document

/-- The text of one output. -/
def outputEntry (output : String × Json) : Except StateFault (String × String) :=
  match valueText output.2 with
  | .ok text => .ok (output.1, text)
  | .error e => .error (.output output.1 e)

/-- The outputs that a state document lists, as texts. -/
def outputs (document : Bytes) : Except Error (Dict String String) := do
  let values ← (outputValues document).mapError .json
  let entries ← (values.entries.mapM outputEntry).mapError .state
  return .ofList entries

end Provisioner.Terraform
