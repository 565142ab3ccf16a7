import Provisioner.Json.Reader
import Provisioner.ObjectKey
import Provisioner.Resource.ConfigMap
import Provisioner.Resource.Configuration
import Provisioner.Resource.Job
import Provisioner.Resource.Secret

/-!
# Objects

An object is a resource of one of the kinds. A resource type is what can be wrapped into an object
and taken out again; the key of an object is made of its kind and its metadata.
-/

namespace Provisioner

inductive Object
  | configuration (c : Configuration)
  | provider (p : Provider)
  | secret (s : Secret)
  | configMap (c : ConfigMap)
  | job (j : Job)
  | serviceAccount (a : ServiceAccount)
  | clusterRole (r : ClusterRole)
  | clusterRoleBinding (b : ClusterRoleBinding)
  deriving Inhabited

namespace Object

def kind : Object → Kind
  | configuration _ => .configuration
  | provider _ => .provider
  | secret _ => .secret
  | configMap _ => .configMap
  | job _ => .job
  | serviceAccount _ => .serviceAccount
  | clusterRole _ => .clusterRole
  | clusterRoleBinding _ => .clusterRoleBinding

def metadata : Object → Metadata
  | configuration c => c.metadata
  | provider p => p.metadata
  | secret s => s.metadata
  | configMap c => c.metadata
  | job j => j.metadata
  | serviceAccount a => a.metadata
  | clusterRole r => r.metadata
  | clusterRoleBinding b => b.metadata

/-- The object with other metadata. -/
def withMetadata (m : Metadata) : Object → Object
  | configuration c => configuration { c with metadata := m }
  | provider p => provider { p with metadata := m }
  | secret s => secret { s with metadata := m }
  | configMap c => configMap { c with metadata := m }
  | job j => job { j with metadata := m }
  | serviceAccount a => serviceAccount { a with metadata := m }
  | clusterRole r => clusterRole { r with metadata := m }
  | clusterRoleBinding b => clusterRoleBinding { b with metadata := m }

def toJson : Object → Json
  | configuration c => c.toJson
  | provider p => p.toJson
  | secret s => s.toJson
  | configMap c => c.toJson
  | job j => j.toJson
  | serviceAccount a => a.toJson
  | clusterRole r => r.toJson
  | clusterRoleBinding b => b.toJson

/-- The specification, for the kinds whose generation counts its changes. -/
def specJson? : Object → Option Json
  | configuration c => some c.spec.toJson
  | provider p => some p.spec.toJson
  | job j => some j.specJson
  | _ => none

/-- Whether two objects are written alike. -/
def same (a b : Object) : Bool := a.toJson.same b.toJson

/-- Whether two objects have specifications that are written alike. -/
def sameSpec (a b : Object) : Bool :=
  match a.specJson?, b.specJson? with
  | some x, some y => x.same y
  | none, none => true
  | _, _ => false

def ofJson? (kind : Kind) (v : Json) : Option Object :=
  match kind with
  | .configuration => (Configuration.ofJson? v).map configuration
  | .provider => (Provider.ofJson? v).map provider
  | .secret => (Secret.ofJson? v).map secret
  | .configMap => (ConfigMap.ofJson? v).map configMap
  | .job => (Job.ofJson? v).map job
  | .serviceAccount => (ServiceAccount.ofJson? v).map serviceAccount
  | .clusterRole => (ClusterRole.ofJson? v).map clusterRole
  | .clusterRoleBinding => (ClusterRoleBinding.ofJson? v).map clusterRoleBinding

/-- The parts that are read of the written form of an object. -/
def shape : Kind → Json.Shape
  | .configuration => Configuration.shape
  | .provider => Provider.shape
  | .secret => Secret.shape
  | .configMap => ConfigMap.shape
  | .job => Job.shape
  | .serviceAccount => ServiceAccount.shape
  | .clusterRole => ClusterRole.shape
  | .clusterRoleBinding => ClusterRoleBinding.shape

/-- The object of some kind that a text is the written form of. -/
def ofText? (kind : Kind) (s : String) : Option Object :=
  (Json.parse (shape kind) (Text.utf8 s)).toOption.bind (ofJson? kind)

def lifecycle (o : Object) : Lifecycle := o.metadata.lifecycle

def hasFinalizers (o : Object) : Bool := o.metadata.hasFinalizers

@[simp] theorem kind_withMetadata (m : Metadata) (o : Object) :
    (o.withMetadata m).kind = o.kind := by cases o <;> rfl

@[simp] theorem metadata_withMetadata (m : Metadata) (o : Object) :
    (o.withMetadata m).metadata = m := by cases o <;> rfl

@[simp] theorem specJson?_withMetadata (m : Metadata) (o : Object) :
    (o.withMetadata m).specJson? = o.specJson? := by cases o <;> rfl

theorem same_refl (o : Object) : o.same o = true := o.toJson.same_refl

end Object

/-- The key that metadata gives an object of some kind; none without a name. -/
def Metadata.key? (m : Metadata) (kind : Kind) : Option ObjectKey :=
  match m.name with
  | some name => if name = "" then none else some ⟨kind, m.ns.getD "", name⟩
  | none => none

namespace Object

def key? (o : Object) : Option ObjectKey := o.metadata.key? o.kind

end Object

/-- A type of resource: its kind, its metadata, and its place among the objects. -/
class Resource (τ : Type) where
  kind : Kind
  metadata : τ → Metadata
  wrap : τ → Object
  unwrap? : Object → Option τ
  kind_wrap : ∀ r, (wrap r).kind = kind
  metadata_wrap : ∀ r, (wrap r).metadata = metadata r
  unwrap?_eq_some_iff : ∀ o r, unwrap? o = some r ↔ o = wrap r
  isSome_unwrap? : ∀ o, (unwrap? o).isSome ↔ o.kind = kind

instance : Resource Configuration where
  kind := .configuration
  metadata := Configuration.metadata
  wrap := .configuration
  unwrap? | .configuration c => some c | _ => none
  kind_wrap _ := rfl
  metadata_wrap _ := rfl
  unwrap?_eq_some_iff o r := by cases o <;> simp
  isSome_unwrap? o := by cases o <;> simp [Object.kind]

instance : Resource Provider where
  kind := .provider
  metadata := Provider.metadata
  wrap := .provider
  unwrap? | .provider p => some p | _ => none
  kind_wrap _ := rfl
  metadata_wrap _ := rfl
  unwrap?_eq_some_iff o r := by cases o <;> simp
  isSome_unwrap? o := by cases o <;> simp [Object.kind]

instance : Resource Secret where
  kind := .secret
  metadata := Secret.metadata
  wrap := .secret
  unwrap? | .secret s => some s | _ => none
  kind_wrap _ := rfl
  metadata_wrap _ := rfl
  unwrap?_eq_some_iff o r := by cases o <;> simp
  isSome_unwrap? o := by cases o <;> simp [Object.kind]

instance : Resource ConfigMap where
  kind := .configMap
  metadata := ConfigMap.metadata
  wrap := .configMap
  unwrap? | .configMap c => some c | _ => none
  kind_wrap _ := rfl
  metadata_wrap _ := rfl
  unwrap?_eq_some_iff o r := by cases o <;> simp
  isSome_unwrap? o := by cases o <;> simp [Object.kind]

instance : Resource Job where
  kind := .job
  metadata := Job.metadata
  wrap := .job
  unwrap? | .job j => some j | _ => none
  kind_wrap _ := rfl
  metadata_wrap _ := rfl
  unwrap?_eq_some_iff o r := by cases o <;> simp
  isSome_unwrap? o := by cases o <;> simp [Object.kind]

instance : Resource ServiceAccount where
  kind := .serviceAccount
  metadata := ServiceAccount.metadata
  wrap := .serviceAccount
  unwrap? | .serviceAccount a => some a | _ => none
  kind_wrap _ := rfl
  metadata_wrap _ := rfl
  unwrap?_eq_some_iff o r := by cases o <;> simp
  isSome_unwrap? o := by cases o <;> simp [Object.kind]

instance : Resource ClusterRole where
  kind := .clusterRole
  metadata := ClusterRole.metadata
  wrap := .clusterRole
  unwrap? | .clusterRole r => some r | _ => none
  kind_wrap _ := rfl
  metadata_wrap _ := rfl
  unwrap?_eq_some_iff o r := by cases o <;> simp
  isSome_unwrap? o := by cases o <;> simp [Object.kind]

instance : Resource ClusterRoleBinding where
  kind := .clusterRoleBinding
  metadata := ClusterRoleBinding.metadata
  wrap := .clusterRoleBinding
  unwrap? | .clusterRoleBinding b => some b | _ => none
  kind_wrap _ := rfl
  metadata_wrap _ := rfl
  unwrap?_eq_some_iff o r := by cases o <;> simp
  isSome_unwrap? o := by cases o <;> simp [Object.kind]

end Provisioner
