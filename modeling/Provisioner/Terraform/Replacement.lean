import Provisioner.Url.Basic

/-!
# Replacement of sources on GitHub

Where GitHub cannot be reached, a source on it is replaced by the repository of the same name on
another host.
-/

namespace Provisioner.Terraform

/-- Where the repositories that take the place of those on GitHub are found. -/
def replacementHost : String := "https://gitee.com/kubevela-terraform-modules"

/-- The repository that the path of a URL ends in. -/
def repository? (u : Url.Parts) : Option String := (u.segments.filter (· ≠ "")).getLast?

/-- The source to use for `remote`. -/
def replaceSource (remote : String) (githubBlocked : Bool) : String :=
  if githubBlocked then
    match Url.parse remote with
    | .error _ => remote
    | .ok u =>
      if u.domain = some "github.com" then
        match repository? u with
        | some name => replacementHost ++ "/" ++ name
        | none => remote
      else remote
  else remote

end Provisioner.Terraform
