import Provisioner.Proofs.ReadBack
import Provisioner.Store.Write
import Provisioner.Terraform.Variables

/-!
What a silent write passes over. A write is skipped if the object would be written as the stored one
is, and the written form of a specification or a status is read back as it was. So the specification
and the status of a provider and the status of a configuration are what they were. The variables of
a configuration may hold floating numbers, and those are compared as numbers: a write is skipped
that only changes the sign of a zero, though Terraform is told the sign.
-/

namespace Provisioner

namespace Dict

variable {κ α β : Type} [Ord κ] [Std.TransOrd κ] [Std.LawfulEqOrd κ] [DecidableEq κ]

theorem map_insert (f : α → β) (d : Dict κ α) (k : κ) (a : α) :
    (d.insert k a).map f = (d.map f).insert k (f a) :=
  ext_get? fun k' => by
    simp only [get?_map, get?_insert]
    split <;> rfl

theorem map_ofList (f : α → β) (l : List (κ × α)) :
    (ofList l).map f = ofList (l.map fun e => (e.1, f e.2)) := by
  suffices from_ : ∀ d : Dict κ α, (l.foldl (fun d e => d.insert e.1 e.2) d).map f =
      (l.map fun e => (e.1, f e.2)).foldl (fun d e => d.insert e.1 e.2) (d.map f) from from_ ∅
  induction l with
  | nil => exact fun d => rfl
  | cons e rest ih =>
    intro d
    rw [List.foldl_cons, ih, map_insert, List.map_cons, List.foldl_cons]

end Dict

/-! ### Zeros without a sign -/

namespace Decimal.Binary64

/-- The number, a zero as the positive one. -/
def unsignedZero (x : Binary64) : Binary64 := if x.isZero then ⟨false, 0, leastExponent⟩ else x

theorem sameNumber_iff {x y : Binary64} :
    x.sameNumber y = true ↔ x.unsignedZero = y.unsignedZero := by
  have zero_ne {z : Binary64} (other : ¬ z.isZero = true) : z ≠ ⟨false, 0, leastExponent⟩ := by
    rintro rfl
    exact other rfl
  unfold sameNumber unsignedZero
  split <;> split
  · rename_i left right
    simp [left, right]
  · rename_i left right
    simp [left, right, (zero_ne right).symm]
    rintro rfl
    exact right left
  · rename_i left right
    simp [left, right, zero_ne left]
    rintro rfl
    exact left right
  · rename_i left right
    simp [left, right]

end Decimal.Binary64

namespace Number

def unsignedZero : Number → Number
  | .int n => .int n
  | .float x => .float x.unsignedZero

theorem same_iff {m n : Number} : m.same n = true ↔ m.unsignedZero = n.unsignedZero := by
  cases m <;> cases n <;> simp [same, unsignedZero, Decimal.Binary64.sameNumber_iff]

end Number

namespace Json

mutual

/-- The value with every floating zero as the positive one. -/
def unsignedZeros : Json → Json
  | .num n => .num n.unsignedZero
  | .arr elements => .arr (unsignedElements elements)
  | .obj members => .obj (unsignedMembers members)
  | v => v

def unsignedElements : List Json → List Json
  | [] => []
  | v :: rest => unsignedZeros v :: unsignedElements rest

def unsignedMembers : List (String × Json) → List (String × Json)
  | [] => []
  | (k, v) :: rest => (k, unsignedZeros v) :: unsignedMembers rest

end

mutual

/-- Values are the same if they differ in nothing but the signs of their zeros. -/
theorem same_iff : ∀ v w : Json, v.same w = true ↔ v.unsignedZeros = w.unsignedZeros
  | .null, w => by cases w <;> simp [same, unsignedZeros]
  | .bool b, w => by cases w <;> simp [same, unsignedZeros]
  | .num n, w => by cases w <;> simp [same, unsignedZeros, Number.same_iff]
  | .str s, w => by cases w <;> simp [same, unsignedZeros]
  | .arr xs, w => by cases w <;> simp [same, unsignedZeros, sameElements_iff xs]
  | .obj xs, w => by cases w <;> simp [same, unsignedZeros, sameMembers_iff xs]

private theorem sameElements_iff : ∀ xs ys : List Json,
    sameElements xs ys = true ↔ unsignedElements xs = unsignedElements ys
  | [], ys => by cases ys <;> simp [sameElements, unsignedElements]
  | x :: xs, ys => by
    cases ys <;> simp [sameElements, unsignedElements, same_iff x, sameElements_iff xs]

private theorem sameMembers_iff : ∀ xs ys : List (String × Json),
    sameMembers xs ys = true ↔ unsignedMembers xs = unsignedMembers ys
  | [], ys => by cases ys <;> simp [sameMembers, unsignedMembers]
  | (k, x) :: xs, ys => by
    cases ys <;> simp [sameMembers, unsignedMembers, same_iff x, sameMembers_iff xs]

end

theorem unsignedMembers_eq_map (members : List (String × Json)) :
    unsignedMembers members = members.map fun m => (m.1, m.2.unsignedZeros) := by
  induction members with
  | nil => rfl
  | cons m rest ih => rw [unsignedMembers, ih, List.map_cons]

/-- Signs are taken from an object made of members by taking them from the members. -/
theorem unsignedZeros_ofMembers (members : List (String × Json)) :
    (ofMembers members).unsignedZeros = ofMembers (unsignedMembers members) := by
  rw [ofMembers, unsignedZeros, unsignedMembers_eq_map, unsignedMembers_eq_map]
  exact congrArg (fun d : Dict String Json => Json.obj d.entries)
    (Dict.map_ofList unsignedZeros members)

theorem unsignedZeros_ofPresent (members : List (String × Option Json)) :
    (ofPresent members).unsignedZeros =
      ofPresent (members.map fun m => (m.1, m.2.map unsignedZeros)) := by
  rw [ofPresent, unsignedZeros_ofMembers, unsignedMembers_eq_map, ofPresent, List.map_filterMap,
    List.filterMap_map]
  congr 2
  funext m
  simp [Function.comp_def]

@[simp] theorem unsignedZeros_str (s : String) : (Json.str s).unsignedZeros = .str s := rfl

@[simp] theorem unsignedZeros_bool (b : Bool) : (Json.bool b).unsignedZeros = .bool b := rfl

end Json

/-! ### Specifications -/

theorem Reference.unsignedZeros_toJson (r : Reference) : r.toJson.unsignedZeros = r.toJson := by
  rw [toJson, Json.unsignedZeros_ofPresent]
  simp [Function.comp_def]

theorem SecretKeyReference.unsignedZeros_toJson (r : SecretKeyReference) :
    r.toJson.unsignedZeros = r.toJson := by
  rw [toJson, Json.unsignedZeros_ofPresent]
  simp [Function.comp_def]

theorem Reference.eq_of_same {a b : Reference} (alike : a.toJson.same b.toJson = true) : a = b := by
  rw [Json.same_iff, unsignedZeros_toJson, unsignedZeros_toJson] at alike
  exact Option.some.inj ((ofJson?_toJson a).symm.trans (alike ▸ ofJson?_toJson b))

namespace Provider

theorem Credentials.unsignedZeros_toJson (c : Credentials) :
    c.toJson.unsignedZeros = c.toJson := by
  rw [toJson, Json.unsignedZeros_ofPresent]
  simp [Function.comp_def, SecretKeyReference.unsignedZeros_toJson]

theorem Spec.unsignedZeros_toJson (s : Spec) : s.toJson.unsignedZeros = s.toJson := by
  rw [toJson, Json.unsignedZeros_ofPresent]
  simp [Function.comp_def, Credentials.unsignedZeros_toJson]

/-- The written form of a specification tells the whole specification. -/
theorem Spec.eq_of_same {a b : Spec} (alike : a.toJson.same b.toJson = true) : a = b := by
  rw [Json.same_iff, unsignedZeros_toJson, unsignedZeros_toJson] at alike
  exact Option.some.inj ((ofJson?_toJson a).symm.trans (alike ▸ ofJson?_toJson b))

theorem spec_of_same {a b : Provider}
    (alike : (Object.provider a).same (.provider b) = true) : a.spec = b.spec :=
  Spec.eq_of_same (Object.sameSpec_of_same alike)

end Provider

namespace Configuration

/-- The specification with every floating zero of its variables as the positive one. -/
def Spec.unsignedZeros (s : Spec) : Spec := { s with values := s.values.map Json.unsignedZeros }

theorem Spec.toJson_unsignedZeros (s : Spec) :
    s.toJson.unsignedZeros = s.unsignedZeros.toJson := by
  rw [toJson, Json.unsignedZeros_ofPresent]
  simp [toJson, unsignedZeros, Function.comp_def, Reference.unsignedZeros_toJson]

private theorem values_of_same {v w : Option Json} (alike : Json.sameMember v w) :
    v.map Json.unsignedZeros = w.map Json.unsignedZeros := by
  cases alike with
  | none => rfl
  | some alike => exact congrArg some ((Json.same_iff _ _).mp alike)

/-- The written form of a specification tells all of it but the signs of zeros. -/
theorem Spec.same_iff {s t : Spec} :
    s.toJson.same t.toJson = true ↔ s.unsignedZeros = t.unsignedZeros := by
  constructor
  · intro alike
    have hcl := Json.same_member alike "hcl"
    have json := Json.same_member alike "json"
    have remote := Json.same_member alike "remote"
    have path := Json.same_member alike "path"
    have values := Json.same_member alike "variable"
    have connection := Json.same_member alike "writeConnectionSecretToRef"
    have provider := Json.same_member alike "providerRef"
    have delete := Json.same_member alike "deleteResource"
    have region := Json.same_member alike "customRegion"
    simp [toJson, Json.member?_ofPresent] at hcl json remote path values
    simp [toJson, Json.member?_ofPresent] at connection provider delete region
    have text {a b : Option String} : Json.sameMember (a.map .str) (b.map .str) → a = b :=
      Json.eq_of_sameMember fun _ _ => Json.eq_of_same_str
    have reference {a b : Option Reference} :
        Json.sameMember (a.map Reference.toJson) (b.map Reference.toJson) → a = b :=
      Json.eq_of_sameMember fun _ _ => Reference.eq_of_same
    have deleted : s.deleteResource = t.deleteResource := by
      cases delete with
      | some same => simpa [Json.same] using same
    unfold unsignedZeros
    rw [text hcl, text json, text remote, text path, values_of_same values, reference connection,
      reference provider, deleted, text region]
  · intro same
    rw [Json.same_iff, toJson_unsignedZeros, toJson_unsignedZeros, same]

theorem spec_of_same {a b : Configuration}
    (alike : (Object.configuration a).same (.configuration b) = true) :
    a.spec.unsignedZeros = b.spec.unsignedZeros :=
  Spec.same_iff.mp (Object.sameSpec_of_same alike)

end Configuration

/-! ### Reading back and silent writes -/

/-- Whatever can be read is written so that it is read back, and so that nothing else that can be
read is written like it. -/
structure Json.ReadsBack {α : Type} (read : Json → Option α) (write : α → Json) : Prop where
  back : ∀ v a, read v = some a → read (write a) = some a
  told : ∀ v w a b, read v = some a → read w = some b → write a = write b → a = b

theorem Json.readsBack {α : Type} {read : Json → Option α} {write : α → Json}
    (back : ∀ v a, read v = some a → read (write a) = some a) : Json.ReadsBack read write where
  back := back
  told v w a b first second same :=
    Option.some.inj ((back v a first).symm.trans (same ▸ back w b second))

/-- A write is silent if the written form would stay as it is. -/
theorem Object.replacing_eq_none_iff {previous o : Object} :
    previous.replacing o = none ↔ (previous.takingOver o).same previous = true := by
  unfold replacing
  dsimp only
  split
  · simp_all
  · split <;> simp_all

/-- A silent write leaves the specification and the status of a provider as they are. -/
theorem Provider.kept_of_silent {p q : Provider}
    (silent : (Object.provider p).replacing (.provider q) = none) :
    q.spec = p.spec ∧ q.status = p.status := by
  have alike := Object.replacing_eq_none_iff.mp silent
  obtain ⟨m, taken⟩ : ∃ m, (Object.provider p).takingOver (.provider q) =
      .provider { q with metadata := m } := ⟨_, rfl⟩
  rw [taken] at alike
  have spec := Provider.spec_of_same alike
  have status := Provider.status_of_same alike
  exact ⟨spec, status⟩

/-- A silent write leaves the status of a configuration as it is, and its specification but for the
signs of zeros. -/
theorem Configuration.kept_of_silent {c d : Configuration}
    (silent : (Object.configuration c).replacing (.configuration d) = none) :
    d.spec.unsignedZeros = c.spec.unsignedZeros ∧ d.status = c.status := by
  have alike := Object.replacing_eq_none_iff.mp silent
  obtain ⟨m, taken⟩ : ∃ m, (Object.configuration c).takingOver (.configuration d) =
      .configuration { d with metadata := m } := ⟨_, rfl⟩
  rw [taken] at alike
  have spec := Configuration.spec_of_same alike
  have status := Configuration.status_of_same alike
  exact ⟨spec, status⟩

/-- Specifications and statuses are read back as they were written. A silent write takes over the
specification and the status as they were stored, but for the signs of floating zeros in the
variables of a configuration, and only these are passed over when specifications are compared. -/
theorem specifications_read_back :
    (Json.ReadsBack Configuration.Spec.ofJson? Configuration.Spec.toJson ∧
      Json.ReadsBack Configuration.Status.ofJson? Configuration.Status.toJson ∧
      Json.ReadsBack Provider.Spec.ofJson? Provider.Spec.toJson ∧
      Json.ReadsBack Provider.Status.ofJson? Provider.Status.toJson) ∧
    (∀ p q : Provider, (Object.provider p).replacing (.provider q) = none →
      q.spec = p.spec ∧ q.status = p.status) ∧
    (∀ c d : Configuration, (Object.configuration c).replacing (.configuration d) = none →
      d.spec.unsignedZeros = c.spec.unsignedZeros ∧ d.status = c.status) ∧
    ∀ c d : Configuration, (Object.configuration c).sameSpec (.configuration d) = true ↔
      c.spec.unsignedZeros = d.spec.unsignedZeros := by
  refine ⟨⟨?_, ?_, ?_, ?_⟩, fun p q => Provider.kept_of_silent,
    fun c d => Configuration.kept_of_silent, fun c d => Configuration.Spec.same_iff⟩
  · exact Json.readsBack fun v s read =>
      Configuration.Spec.ofJson?_toJson (Configuration.Spec.isRead read)
  · exact Json.readsBack fun v s read =>
      Configuration.Status.ofJson?_toJson (Configuration.Status.isRead read)
  · exact Json.readsBack fun v s _ => Provider.Spec.ofJson?_toJson s
  · exact Json.readsBack fun v s _ => Provider.Status.ofJson?_toJson s

namespace Sample

/-- Variables with one zero. -/
def offset (negative : Bool) : Json :=
  .obj [("offset", .num (.float ⟨negative, 0, Decimal.Binary64.leastExponent⟩))]

/-- A document with a field that is null, one of no interest and a reference given as a list. -/
def document (negative : Bool) : Json :=
  .obj [("hcl", .null), ("note", .str "draft"), ("variable", offset negative),
    ("providerRef", .arr [.str "aws"])]

def specification (negative : Bool) : Configuration.Spec :=
  { values := some (offset negative), providerRef := some { name := "aws" } }

end Sample

open Sample in
/-- A document that is read, and a silent write that changes the sign of a zero. -/
theorem specifications_read_back_sample :
    Configuration.Spec.ofJson? (document true) = some (specification true) ∧
    Configuration.Spec.ofJson? (specification true).toJson = some (specification true) ∧
    (specification true).unsignedZeros = (specification false).unsignedZeros := by
  have read : Configuration.Spec.ofJson? (document true) = some (specification true) := by rfl
  have silent :
      (Object.configuration ⟨{ generation := some 1 }, specification false, none⟩).replacing
        (.configuration ⟨{}, specification true, none⟩) = none := by rfl
  exact ⟨read, specifications_read_back.1.1.back _ _ read,
    (specifications_read_back.2.2.1 _ _ silent).1⟩

open Sample in
/-- A write that only changes the sign of a zero is silent, though Terraform is told the sign. -/
theorem zero_sign_passed_over :
    Configuration.Spec.ofJson? (document false) = some (specification false) ∧
    Configuration.Spec.ofJson? (document true) = some (specification true) ∧
    specification false ≠ specification true ∧
    (Object.configuration ⟨{ generation := some 1 }, specification false, none⟩).replacing
      (.configuration ⟨{}, specification true, none⟩) = none ∧
    Terraform.variableEnv (specification false).values = .ok (.singleton "TF_VAR_offset" "0.0") ∧
    Terraform.variableEnv (specification true).values =
      .ok (.singleton "TF_VAR_offset" "-0.0") := by
  refine ⟨by rfl, by rfl, fun same => ?_, by rfl, by rfl, by rfl⟩
  have values := congrArg Configuration.Spec.values same
  simp [specification, offset] at values

end Provisioner
