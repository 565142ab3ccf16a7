import Provisioner.Sha256
import Provisioner.Target
import Provisioner.Terraform.Variables

/-!
# Inputs of a job

Everything that a job consumes, and the fingerprint by which a job tells which inputs it was made
from. Values of variables enter the fingerprint without regard to the case of ASCII letters.
-/

namespace Provisioner.Executor

open Text (Bytes)

structure Inputs where
  /-- The text to run. -/
  text : String
  remote : Option String
  path : String
  /-- Variables and credentials. -/
  env : Dict String String
  deriving DecidableEq, Inhabited

/-- What a repository adds to the bytes of the inputs. -/
def remoteBytes (i : Inputs) : Bytes :=
  match i.remote with
  | some remote => Text.utf8 remote ++ Text.utf8 i.path
  | none => []

/-- A variable and its value, each followed by a zero. -/
def variableBytes (e : String × String) : Bytes :=
  Text.utf8 e.1 ++ 0 :: (Text.utf8 (Terraform.foldCase e.2) ++ [0])

/-- The inputs as bytes. -/
def Inputs.bytes (i : Inputs) : Bytes :=
  Text.utf8 i.text ++ remoteBytes i ++ i.env.entries.flatMap variableBytes

def Inputs.fingerprint (i : Inputs) : String := Sha256.hex i.bytes

/-- The inputs of a target. -/
def Inputs.of (t : Target) (text : String) (env : Dict String String) : Inputs :=
  ⟨text, t.remote, t.path, env⟩

end Provisioner.Executor
