import Provisioner.Object

/-!
# Demonstration objects

The objects that show what the library does, with the delays before each of them arrives:
credentials, a provider that refers to them, and a configuration.
-/

namespace Provisioner.Demo

def hcl : String :=
  "terraform \x7b\n" ++
  "  required_providers \x7b\n" ++
  "    hashicups = \x7b\n" ++
  "      source = \"hashicorp-demoapp/hashicups\"\n" ++
  "    \x7d\n" ++
  "  \x7d\n" ++
  "\x7d\n" ++
  "\n" ++
  "resource \"hashicups_order\" \"edu\" \x7b\n" ++
  "  items \x7b\n" ++
  "    coffee \x7b\n" ++
  "      id = 3\n" ++
  "    \x7d\n" ++
  "    quantity = 3\n" ++
  "  \x7d\n" ++
  "\x7d\n" ++
  "\n" ++
  "output \"edu_order\" \x7b\n" ++
  "  value = hashicups_order.edu.id\n" ++
  "\x7d\n"

def credentials : Secret :=
  .ofTexts "vela-system" "hashicups-account-creds"
    (.singleton "credentials"
      ("HashicupsUser: education\n" ++
        "HashicupsPassword: test123\n" ++
        "HashicupsHost: http://localhost:19090\n"))
    none

def provider : Provider where
  metadata := { name := some "default", ns := some "default" }
  spec :=
    { provider := "hashicups"
      credentials :=
        { source := .secret
          secretRef := some ⟨"hashicups-account-creds", some "vela-system", "credentials"⟩ } }

def configuration : Configuration where
  metadata := { name := some "hashicups-order", ns := some "default" }
  spec := { hcl := some hcl, values := some (.ofMembers [("quantity", .int 3)]) }

/-- The objects, and the milliseconds after which they arrive. -/
def arrivals : List (Nat × Object) :=
  [(1000, .secret credentials), (2000, .provider provider), (4000, .configuration configuration)]

end Provisioner.Demo
