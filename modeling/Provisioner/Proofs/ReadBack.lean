import Provisioner.Proofs.Places

/-!
What is read is written so that it is read back. A record is written as an object that has a member
for each field that is not left out, so reading it again finds for each field what was written, or
nothing; and what a field is then taken to be is what its writer left out.

Not every value of the types can be read back. A document of variables is read in canonical form and
never as null, and a generation is read in 64 bits; values that were read are of that kind.
-/

namespace Provisioner

namespace Dict

variable {κ α : Type} [Ord κ] [Std.TransOrd κ] [Std.LawfulEqOrd κ] [DecidableEq κ]

@[simp] theorem ofList_entries (d : Dict κ α) : ofList d.entries = d :=
  ext_get? fun k => by
    rw [get?_ofList, foldl_eq_lookup d.increasing, Option.or_none]
    rfl

end Dict

namespace Json

variable {α : Type} {item : Json → Option α} {members : List (String × Json)}

/-! ### Canonical values -/

theorem canonicalElements_eq_self : ∀ {elements : List Json},
    (∀ v ∈ elements, v.canonical = v) → canonicalElements elements = elements
  | [], _ => rfl
  | v :: rest, each => by
    rw [canonicalElements, each v List.mem_cons_self,
      canonicalElements_eq_self fun w listed => each w (List.mem_cons_of_mem _ listed)]

theorem canonicalMembers_eq_self : ∀ {members : List (String × Json)},
    (∀ m ∈ members, m.2.canonical = m.2) → canonicalMembers members = members
  | [], _ => rfl
  | m :: rest, each => by
    rw [canonicalMembers, each m List.mem_cons_self,
      canonicalMembers_eq_self fun w listed => each w (List.mem_cons_of_mem _ listed)]

/-- A value with its members in order is canonical. -/
theorem Ordered.canonical_eq {v : Json} (ordered : v.Ordered) : v.canonical = v := by
  induction ordered with
  | arr _ ih => rw [canonical, canonicalElements_eq_self ih]
  | @obj members increasing _ ih =>
    rw [canonical, canonicalMembers_eq_self ih]
    exact congrArg (fun d : Dict String Json => Json.obj d.entries)
      (Dict.ofList_entries ⟨members, increasing⟩)
  | _ => rfl

theorem canonical_canonical (v : Json) : v.canonical.canonical = v.canonical :=
  (ordered_canonical v).canonical_eq

theorem canonical_ne_null {v : Json} (present : v ≠ .null) : v.canonical ≠ .null := by
  cases v <;> simp_all [canonical, ofMembers]

/-! ### Fields of records -/

/-- In an object made of members a name stands once or not at all. -/
theorem onlyMember?_entries (d : Dict String Json) (name : String) :
    onlyMember? d.entries name = some (d.get? name) := by
  have values := Dict.values_under_key d.increasing name
  unfold onlyMember? Dict.get?
  cases found : Dict.lookup name d.entries with
  | none =>
    rw [found] at values
    rw [List.map_eq_nil_iff.mp values]
  | some v =>
    rw [found] at values
    obtain ⟨m, one, rfl⟩ := List.map_eq_singleton_iff.mp values
    rw [one]

/-- The fields of an object made of members are its members. -/
theorem strictFields_ofMembers (names : List String) (least : Nat) :
    (ofMembers members).strictFields names least =
      some (names.map fun name => (ofMembers members).member? name) := by
  have each : onlyMember? (Dict.ofList members).entries = fun name =>
      pure ((ofMembers members).member? name) := funext fun name => onlyMember?_entries _ name
  show names.mapM (onlyMember? _) = _
  rw [each, List.mapM_pure]
  rfl

theorem strictFields_ofPresent (members : List (String × Option Json)) (names : List String)
    (least : Nat) : (ofPresent members).strictFields names least =
      some (names.map fun name => (ofPresent members).member? name) :=
  strictFields_ofMembers names least

/-! ### Values of fields -/

theorem optional_map (write : α → Json) (reads : ∀ a, item (write a) = some a)
    (present : ∀ a, write a ≠ .null) (a : Option α) : optional item (a.map write) = some a := by
  cases a with
  | none => rfl
  | some a =>
    have read : nullable item (write a) = (item (write a)).map some := by
      cases written : write a with
      | null => exact absurd written (present a)
      | _ => rfl
    rw [Option.map_some, optional, read, reads]
    rfl

@[simp] theorem optional_text (s : Option String) : optional text? (s.map .str) = some s :=
  optional_map .str (fun _ => rfl) (fun _ => nofun) s

@[simp] theorem defaulted_message (s : String) : defaulted text? "" (ofMessage s) = some s := by
  unfold ofMessage
  split
  · rename_i empty
    rw [empty]
    rfl
  · rfl

/-- A dictionary is read from the object of its entries. -/
theorem dict?_map (write : α → Json) (reads : ∀ a, item (write a) = some a) (d : Dict String α) :
    dict? item (.obj (d.map write).entries) = some d := by
  have each : ((fun m : String × Json => (item m.2).map (m.1, ·)) ∘ fun e : String × α =>
      (e.1, write e.2)) = pure := funext fun e => by
    simp only [Function.comp_apply, reads]
    rfl
  have entries : (d.entries.map fun e => (e.1, write e.2)).mapM (m := Option)
      (fun m => (item m.2).map (m.1, ·)) = some d.entries := by
    rw [List.mapM_map, each, List.mapM_pure, List.map_id']
    rfl
  show Option.map Dict.ofList ((d.entries.map fun e => (e.1, write e.2)).mapM _) = _
  rw [entries, Option.map_some, Dict.ofList_entries]

/-- An integer that is read is written as a number that reads as it. -/
theorem signed?_int {bits : Nat} {v : Json} {n : Int} (read : signed? bits v = some n) :
    signed? bits (.int n) = some n := by
  unfold signed? at read
  split at read
  · rename_i m
    obtain ⟨-, same⟩ := Option.ite_none_right_eq_some.mp read
    cases same
    exact read
  · cases read

/-- A canonical value other than null. -/
def IsRead (v : Json) : Prop := v ≠ .null ∧ v.canonical = v

theorem isRead_of_optional {field value : Option Json} (read : optional any? field = some value) :
    ∀ v ∈ value, v.IsRead := by
  cases field with
  | none =>
    cases read
    nofun
  | some w =>
    by_cases null : w = .null
    · rw [null] at read
      cases read
      nofun
    · have canonical : optional any? (some w) = some (some w.canonical) := by
        cases w <;> first | rfl | exact absurd rfl null
      rw [canonical] at read
      cases read
      rintro _ ⟨⟩
      exact ⟨canonical_ne_null null, canonical_canonical w⟩

theorem optional_any {value : Option Json} (each : ∀ v ∈ value, v.IsRead) :
    optional any? value = some value := by
  cases value with
  | none => rfl
  | some v =>
    obtain ⟨present, canonical⟩ := each v rfl
    have read : optional any? (some v) = some (some v.canonical) := by
      cases v <;> first | rfl | exact absurd rfl present
    rw [read, canonical]

theorem ofPresent_ne_null (members : List (String × Option Json)) :
    ofPresent members ≠ .null :=
  nofun

end Json

/-! ### References -/

theorem Reference.ofJson?_toJson (r : Reference) : ofJson? r.toJson = some r := by
  unfold ofJson? toJson
  rw [Json.strictFields_ofPresent]
  simp [shape, Json.Shape.fields, Json.Shape.names, Json.member?_ofPresent, Json.required,
    Json.text?]

@[simp] theorem Reference.optional_toJson (r : Option Reference) :
    Json.optional ofJson? (r.map toJson) = some r :=
  Json.optional_map toJson ofJson?_toJson (fun _ => Json.ofPresent_ne_null _) r

theorem SecretKeyReference.ofJson?_toJson (r : SecretKeyReference) : ofJson? r.toJson = some r := by
  unfold ofJson? toJson
  rw [Json.strictFields_ofPresent]
  simp [shape, Json.Shape.fields, Json.Shape.names, Json.member?_ofPresent, Json.required,
    Json.text?]

@[simp] theorem SecretKeyReference.optional_toJson (r : Option SecretKeyReference) :
    Json.optional ofJson? (r.map toJson) = some r :=
  Json.optional_map toJson ofJson?_toJson (fun _ => Json.ofPresent_ne_null _) r

/-! ### Providers -/

namespace Provider

theorem Source.ofName?_name (x : Source) : ofName? x.name = some x := by cases x <;> decide

theorem Credentials.ofJson?_toJson (c : Credentials) : ofJson? c.toJson = some c := by
  unfold ofJson? toJson
  rw [Json.strictFields_ofPresent]
  simp [shape, Json.Shape.names, Json.member?_ofPresent, Json.required, Json.named?,
    Source.ofName?_name]

theorem Spec.ofJson?_toJson (s : Spec) : ofJson? s.toJson = some s := by
  unfold ofJson? toJson
  rw [Json.strictFields_ofPresent]
  simp [shape, Json.Shape.names, Json.member?_ofPresent, Json.required, Credentials.ofJson?_toJson,
    Json.text?]

@[simp] theorem State.optional_name (x : Option State) :
    Json.optional (Json.named? ofName?) (x.map fun x => .str x.name) = some x :=
  Json.optional_map (fun x => .str x.name) ofName?_name (fun _ => nofun) x

theorem Status.ofJson?_toJson (s : Status) : ofJson? s.toJson = some s := by
  unfold ofJson? toJson
  rw [Json.strictFields_ofPresent]
  simp [shape, Json.Shape.fields, Json.Shape.names, Json.member?_ofPresent]

end Provider

/-! ### Configurations -/

namespace Configuration

@[simp] theorem State.optional_name (x : Option State) :
    Json.optional (Json.named? ofName?) (x.map fun x => .str x.name) = some x :=
  Json.optional_map (fun x => .str x.name) ofName?_name (fun _ => nofun) x

theorem DestroyStatus.ofJson?_toJson (s : DestroyStatus) : ofJson? s.toJson = some s := by
  unfold ofJson? toJson
  rw [Json.strictFields_ofPresent]
  simp [shape, Json.Shape.fields, Json.Shape.names, Json.member?_ofPresent]

theorem output?_outputJson (value : String) : output? (outputJson value) = some value := by
  unfold output? outputJson
  rw [Json.strictFields_ofMembers]
  simp [outputShape, Json.Shape.fields, Json.Shape.names, Json.member?_ofMembers, Json.required,
    Json.text?]

@[simp] theorem defaulted_outputs (outputs : Dict String String) :
    Json.defaulted (Json.dict? output?) ∅
      (if outputs.isEmpty then none else some (.obj (outputs.map outputJson).entries)) =
        some outputs := by
  split
  · rename_i empty
    exact congrArg some (Dict.ext_entries (List.isEmpty_iff.mp empty).symm)
  · exact Json.dict?_map outputJson output?_outputJson outputs

theorem ApplyStatus.ofJson?_toJson (s : ApplyStatus) : ofJson? s.toJson = some s := by
  unfold ofJson? toJson
  rw [Json.strictFields_ofPresent]
  simp [shape, Json.Shape.names, Json.member?_ofPresent]

/-- A specification whose variables can be read. -/
def Spec.IsRead (s : Spec) : Prop := ∀ v ∈ s.values, v.IsRead

theorem Spec.isRead {v : Json} {s : Spec} (read : ofJson? v = some s) : s.IsRead := by
  unfold ofJson? at read
  obtain ⟨fields, -, read⟩ := Option.bind_eq_some_iff.mp read
  split at read
  · simp only [Option.bind_eq_bind, Option.bind_eq_some_iff, Option.pure_def,
      Option.some.injEq] at read
    obtain ⟨-, -, -, -, -, -, -, -, values, read, -, -, -, -, -, -, -, -, rfl⟩ := read
    exact Json.isRead_of_optional read
  · cases read

theorem Spec.ofJson?_toJson {s : Spec} (ready : s.IsRead) : ofJson? s.toJson = some s := by
  unfold ofJson? toJson
  rw [Json.strictFields_ofPresent]
  simp [shape, Json.Shape.names, Json.member?_ofPresent, Json.optional_any ready, Json.defaulted,
    Json.bool?]

/-- A status whose generation can be read. -/
def Status.IsRead (s : Status) : Prop :=
  Json.signed? 64 (.int s.observedGeneration) = some s.observedGeneration

theorem Status.isRead {v : Json} {s : Status} (read : ofJson? v = some s) : s.IsRead := by
  unfold ofJson? at read
  obtain ⟨fields, -, read⟩ := Option.bind_eq_some_iff.mp read
  split at read
  · simp only [Option.bind_eq_bind, Option.bind_eq_some_iff, Option.pure_def,
      Option.some.injEq] at read
    obtain ⟨generation, read, -, -, -, -, rfl⟩ := read
    unfold Json.defaulted at read
    split at read
    · cases read
      rfl
    · exact Json.signed?_int read
  · cases read

theorem Status.ofJson?_toJson {s : Status} (ready : s.IsRead) : ofJson? s.toJson = some s := by
  unfold ofJson? toJson
  rw [Json.strictFields_ofMembers]
  unfold IsRead at ready
  simp [shape, Json.Shape.names, Json.member?_ofMembers, Json.defaulted, ready,
    ApplyStatus.ofJson?_toJson, DestroyStatus.ofJson?_toJson]

end Configuration

end Provisioner
