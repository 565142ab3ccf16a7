import Provisioner.Text.Quoted

/-!
# Kinds of objects

The kinds of object that are stored, in a fixed order, and their names.
-/

namespace Provisioner

inductive Kind
  | configuration
  | provider
  | secret
  | configMap
  | job
  | serviceAccount
  | clusterRole
  | clusterRoleBinding
  deriving DecidableEq, Repr, Inhabited

namespace Kind

def all : List Kind :=
  [configuration, provider, secret, configMap, job, serviceAccount, clusterRole, clusterRoleBinding]

def name : Kind → String
  | configuration => "Configuration"
  | provider => "Provider"
  | secret => "Secret"
  | configMap => "ConfigMap"
  | job => "Job"
  | serviceAccount => "ServiceAccount"
  | clusterRole => "ClusterRole"
  | clusterRoleBinding => "ClusterRoleBinding"

/-- The kind of a name, which has to be spelt exactly. -/
def ofName? (s : String) : Option Kind := all.find? fun k => k.name = s

/-- What is said of a name that no kind has. -/
def unknownMessage (s : String) : String := "unknown kind " ++ Text.quoted s

/-- The place of a kind in the order of kinds. -/
def rank : Kind → Nat
  | configuration => 0
  | provider => 1
  | secret => 2
  | configMap => 3
  | job => 4
  | serviceAccount => 5
  | clusterRole => 6
  | clusterRoleBinding => 7

theorem rank_injective {j k : Kind} (h : j.rank = k.rank) : j = k := by
  cases j <;> cases k <;> first | rfl | simp [rank] at h

theorem ofName?_name (k : Kind) : ofName? k.name = some k := by cases k <;> decide

theorem ofName?_eq_some_iff {s : String} {k : Kind} : ofName? s = some k ↔ s = k.name := by
  constructor
  · intro h
    have := List.find?_some h
    simpa using (of_decide_eq_true this).symm
  · rintro rfl
    exact ofName?_name k

instance : Ord Kind := ⟨compareOn rank⟩

instance : Std.TransOrd Kind := inferInstanceAs (Std.TransCmp (compareOn rank))

instance : Std.LawfulEqOrd Kind where
  eq_of_compare h := rank_injective (Std.LawfulEqOrd.eq_of_compare (α := Nat) h)

end Kind

end Provisioner
