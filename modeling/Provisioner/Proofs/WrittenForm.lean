import Provisioner.Object

/-!
What two objects have in common when they are written alike. A write is skipped when the written
form would not change, so whatever a pass relies on after a write has to be read off the written
form: the finalizers, labels and annotations of an object, its kind, the content of secrets and
configuration maps, the status of jobs, of providers and of configurations. Sameness of values
forgets only the sign of a floating zero, and none of these parts holds a floating number. Of
specifications, which may hold one, the written form tells the written form.
-/

namespace Provisioner

/-! ### Members of written objects -/

namespace Dict

variable {κ α : Type} [Ord κ] [Std.TransOrd κ] [Std.LawfulEqOrd κ] [DecidableEq κ]

theorem get?_foldl_insert (l : List (κ × α)) (d : Dict κ α) (k : κ) :
    (l.foldl (fun d e => d.insert e.1 e.2) d).get? k =
      l.foldl (fun found e => if k = e.1 then some e.2 else found) (d.get? k) := by
  induction l generalizing d with
  | nil => rfl
  | cons e rest ih => rw [List.foldl_cons, List.foldl_cons, ih, get?_insert]

/-- The last entry under a key is the one that is found. -/
theorem get?_ofList (l : List (κ × α)) (k : κ) :
    (ofList l).get? k = l.foldl (fun found e => if k = e.1 then some e.2 else found) none :=
  get?_foldl_insert l ∅ k

/-- What a dictionary made of a list of entries has under a key stands in the list. -/
theorem mem_of_get?_ofList {l : List (κ × α)} {k : κ} {a : α} (found : (ofList l).get? k = some a) :
    (k, a) ∈ l := by
  suffices either : ∀ d : Dict κ α, (l.foldl (fun d e => d.insert e.1 e.2) d).get? k = some a →
      (k, a) ∈ l ∨ d.get? k = some a from (either ∅ found).resolve_right nofun
  clear found
  intro d found
  induction l generalizing d with
  | nil => exact .inr found
  | cons e rest ih =>
    rcases ih _ found with listed | before
    · exact .inl (List.mem_cons_of_mem _ listed)
    · rw [get?_insert] at before
      split at before
      · rename_i here
        cases before
        rw [here]
        exact .inl List.mem_cons_self
      · exact .inr before

omit [Std.TransOrd κ] in
/-- In increasing entries the last one under a key is the only one. -/
theorem foldl_eq_lookup {l : List (κ × α)}
    (increasing : l.Pairwise fun a b => compare a.1 b.1 = .lt) (k : κ) (found : Option α) :
    l.foldl (fun found e => if k = e.1 then some e.2 else found) found =
      (lookup k l).or found := by
  induction l generalizing found with
  | nil => rfl
  | cons e rest ih =>
    obtain ⟨first, others⟩ := List.pairwise_cons.mp increasing
    rw [List.foldl_cons, ih others, lookup]
    by_cases here : k = e.1
    · have absent : lookup k rest = none := by
        refine Option.eq_none_iff_forall_ne_some.mpr fun a listed => ?_
        have less := first _ ((lookup_eq_some_iff others).mp listed)
        simp [here, Std.ReflCmp.compare_self] at less
      rw [absent, if_pos here, if_pos (here ▸ Std.ReflCmp.compare_self)]
      rfl
    · rw [if_neg here, if_neg (mt Std.LawfulEqOrd.eq_of_compare here)]

omit [Std.TransOrd κ] in
/-- In increasing entries there is at most one under a key. -/
theorem values_under_key {l : List (κ × α)}
    (increasing : l.Pairwise fun a b => compare a.1 b.1 = .lt) (k : κ) :
    (l.filter (·.1 = k)).map (·.2) = (lookup k l).toList := by
  induction l with
  | nil => rfl
  | cons e rest ih =>
    obtain ⟨first, others⟩ := List.pairwise_cons.mp increasing
    rw [lookup]
    by_cases here : e.1 = k
    · have absent : rest.filter (·.1 = k) = [] := by
        refine List.filter_eq_nil_iff.mpr fun e' listed same => ?_
        have less := first e' listed
        simp [here, of_decide_eq_true same, Std.ReflCmp.compare_self] at less
      rw [List.filter_cons_of_pos (by simpa using here), absent,
        if_pos (here ▸ Std.ReflCmp.compare_self)]
      rfl
    · rw [List.filter_cons_of_neg (by simpa using here), ih others,
        if_neg fun same => here (Std.LawfulEqOrd.eq_of_compare same).symm]

theorem get?_overlay (d e : Dict κ α) (k : κ) :
    (d.overlay e).get? k = (e.get? k).or (d.get? k) := by
  unfold overlay
  rw [get?_foldl_insert, foldl_eq_lookup e.increasing]
  rfl

@[simp] theorem empty_overlay (e : Dict κ α) : (∅ : Dict κ α).overlay e = e :=
  ext_get? fun k => by rw [get?_overlay, get?_empty, Option.or_none]

end Dict

namespace Json

theorem member?_ofMembers (members : List (String × Json)) (name : String) :
    (ofMembers members).member? name =
      members.foldl (fun found e => if name = e.1 then some e.2 else found) none :=
  Dict.get?_ofList members name

private theorem foldl_filterMap_present (members : List (String × Option Json)) (name : String)
    (found : Option Json) :
    (members.filterMap fun m => m.2.map (m.1, ·)).foldl
        (fun found e => if name = e.1 then some e.2 else found) found =
      members.foldl (fun found m => if name = m.1 then m.2.or found else found) found := by
  induction members generalizing found with
  | nil => rfl
  | cons m rest ih =>
    obtain ⟨key, value⟩ := m
    cases value with
    | none => simpa using ih found
    | some v =>
      simp only [List.filterMap_cons, Option.map_some, List.foldl_cons, Option.some_or]
      exact ih _

/-- An absent member leaves the answer to the members before it. -/
theorem member?_ofPresent (members : List (String × Option Json)) (name : String) :
    (ofPresent members).member? name =
      members.foldl (fun found m => if name = m.1 then m.2.or found else found) none :=
  (member?_ofMembers _ _).trans (foldl_filterMap_present members name none)

/-- Both are present and the same, or neither is present. -/
def sameMember (v w : Option Json) : Prop := Option.Rel (fun v w => v.same w = true) v w

private theorem same_lookup {name : String} : ∀ {xs ys : List (String × Json)},
    sameMembers xs ys = true → sameMember (Dict.lookup name xs) (Dict.lookup name ys)
  | [], [], _ => .none
  | [], _ :: _, alike => by simp [sameMembers] at alike
  | _ :: _, [], alike => by simp [sameMembers] at alike
  | (j, x) :: xs, (k, y) :: ys, alike => by
    simp only [sameMembers, Bool.and_eq_true, beq_iff_eq] at alike
    obtain ⟨⟨rfl, head⟩, tail⟩ := alike
    simp only [Dict.lookup]
    split
    · exact .some head
    · exact same_lookup tail

/-- Values that are the same have the same members. -/
theorem same_member {v w : Json} (alike : v.same w = true) (name : String) :
    sameMember (v.member? name) (w.member? name) := by
  cases v <;> cases w <;> simp only [same, Bool.false_eq_true] at alike
  case obj.obj => exact same_lookup alike
  all_goals exact .none

theorem same_getD {v w : Option Json} (alike : sameMember v w) (absent : Json) :
    (v.getD absent).same (w.getD absent) = true := by
  cases alike with
  | none => exact absent.same_refl
  | some alike => exact alike

theorem sameMember_none_left {w : Option Json} (alike : sameMember none w) : w = none := by
  cases alike
  rfl

/-- A part of an object that its written form tells is common to objects written alike. -/
theorem eq_of_sameMember {α : Type} {f : α → Json}
    (injective : ∀ a b, (f a).same (f b) = true → a = b) {a b : Option α}
    (alike : sameMember (a.map f) (b.map f)) : a = b := by
  cases a with
  | none =>
    cases b with
    | none => rfl
    | some b => cases alike
  | some a =>
    cases b with
    | none => cases alike
    | some b =>
      cases alike with
      | some alike => rw [injective a b alike]

theorem eq_of_same_str {s t : String} (alike : (Json.str s).same (.str t) = true) : s = t := by
  simpa [same] using alike

theorem eq_of_same_int {m n : Int} (alike : (Json.int m).same (.int n) = true) : m = n := by
  simpa [same, int, Number.same] using alike

private theorem eq_of_sameElements_str : ∀ {l m : List String},
    sameElements (l.map .str) (m.map .str) = true → l = m
  | [], [], _ => rfl
  | [], _ :: _, alike => by simp [sameElements] at alike
  | _ :: _, [], alike => by simp [sameElements] at alike
  | s :: l, t :: m, alike => by
    simp only [List.map_cons, sameElements, Bool.and_eq_true] at alike
    rw [eq_of_same_str alike.1, eq_of_sameElements_str alike.2]

theorem eq_of_same_strs {l m : List String}
    (alike : (Json.arr (l.map .str)).same (.arr (m.map .str)) = true) : l = m :=
  eq_of_sameElements_str (by simpa only [same] using alike)

private theorem eq_of_sameMembers_map {α : Type} {f : α → Json}
    (injective : ∀ a b, (f a).same (f b) = true → a = b) : ∀ {l m : List (String × α)},
    sameMembers (l.map fun e => (e.1, f e.2)) (m.map fun e => (e.1, f e.2)) = true → l = m
  | [], [], _ => rfl
  | [], _ :: _, alike => by simp [sameMembers] at alike
  | _ :: _, [], alike => by simp [sameMembers] at alike
  | (j, x) :: l, (k, y) :: m, alike => by
    simp only [List.map_cons, sameMembers, Bool.and_eq_true, beq_iff_eq] at alike
    obtain ⟨⟨rfl, head⟩, tail⟩ := alike
    rw [injective x y head, eq_of_sameMembers_map injective tail]

/-- A dictionary is told by the object of its entries. -/
theorem eq_of_same_dict {α : Type} {f : α → Json}
    (injective : ∀ a b, (f a).same (f b) = true → a = b) {d e : Dict String α}
    (alike : (Json.obj (d.map f).entries).same (.obj (e.map f).entries) = true) : d = e :=
  Dict.ext_entries (eq_of_sameMembers_map injective alike)

theorem eq_of_same_texts {d e : Dict String String}
    (alike : (Json.ofTexts d).same (.ofTexts e) = true) : d = e :=
  eq_of_same_dict (fun _ _ => eq_of_same_str) alike

/-- A message is told, also an empty one, which is left out. -/
theorem eq_of_same_message {a b : String} (alike : sameMember (ofMessage a) (ofMessage b)) :
    a = b := by
  unfold ofMessage at alike
  split at alike <;> split at alike
  · rename_i emptyA emptyB
    rw [emptyA, emptyB]
  · cases alike
  · cases alike
  · cases alike with
    | some alike => exact eq_of_same_str alike

end Json

/-! ### Names -/

namespace Kind

theorem name_injective {j k : Kind} (same : j.name = k.name) : j = k :=
  Option.some.inj ((ofName?_name j).symm.trans (same ▸ ofName?_name k))

end Kind

namespace Configuration.State

theorem ofName?_name (x : State) : ofName? x.name = some x := by cases x <;> decide

theorem name_injective {x y : State} (same : x.name = y.name) : x = y :=
  Option.some.inj ((ofName?_name x).symm.trans (same ▸ ofName?_name y))

end Configuration.State

namespace Provider.State

theorem ofName?_name (x : State) : ofName? x.name = some x := by cases x <;> decide

theorem name_injective {x y : State} (same : x.name = y.name) : x = y :=
  Option.some.inj ((ofName?_name x).symm.trans (same ▸ ofName?_name y))

end Provider.State

/-! ### Status of configurations -/

namespace Configuration

private theorem state_of_same {a b : Option State}
    (alike : Json.sameMember (a.map fun x => .str x.name) (b.map fun x => .str x.name)) : a = b :=
  Json.eq_of_sameMember (fun _ _ alike => State.name_injective (Json.eq_of_same_str alike)) alike

private theorem output_of_same {a b : String}
    (alike : (outputJson a).same (outputJson b) = true) : a = b := by
  have value := Json.same_member alike "value"
  simp only [outputJson, Json.member?_ofMembers, List.foldl_cons, List.foldl_nil] at value
  cases value with
  | some alike => exact Json.eq_of_same_str alike

private theorem outputs_of_same {a b : Dict String String}
    (alike : Json.sameMember
      (if a.isEmpty then none else some (.obj (a.map outputJson).entries))
      (if b.isEmpty then none else some (.obj (b.map outputJson).entries))) : a = b := by
  split at alike <;> split at alike
  · rename_i emptyA emptyB
    apply Dict.ext_entries
    rw [List.isEmpty_iff.mp emptyA, List.isEmpty_iff.mp emptyB]
  · cases alike
  · cases alike
  · cases alike with
    | some alike => exact Json.eq_of_same_dict (fun _ _ => output_of_same) alike

theorem ApplyStatus.eq_of_same {a b : ApplyStatus} (alike : a.toJson.same b.toJson = true) :
    a = b := by
  have state := Json.same_member alike "state"
  have message := Json.same_member alike "message"
  have outputs := Json.same_member alike "outputs"
  simp [ApplyStatus.toJson, Json.member?_ofPresent] at state message outputs
  cases a
  cases b
  rw [ApplyStatus.mk.injEq]
  exact ⟨state_of_same state, Json.eq_of_same_message message, outputs_of_same outputs⟩

theorem DestroyStatus.eq_of_same {a b : DestroyStatus} (alike : a.toJson.same b.toJson = true) :
    a = b := by
  have state := Json.same_member alike "state"
  have message := Json.same_member alike "message"
  simp [DestroyStatus.toJson, Json.member?_ofPresent] at state message
  cases a
  cases b
  rw [DestroyStatus.mk.injEq]
  exact ⟨state_of_same state, Json.eq_of_same_message message⟩

/-- The written form of a status tells the whole status. -/
theorem Status.eq_of_same {a b : Status} (alike : a.toJson.same b.toJson = true) : a = b := by
  have generation := Json.same_member alike "observedGeneration"
  have apply := Json.same_member alike "apply"
  have destroy := Json.same_member alike "destroy"
  simp [Status.toJson, Json.member?_ofMembers] at generation apply destroy
  cases generation with
  | some generation =>
    cases apply with
    | some apply =>
      cases destroy with
      | some destroy =>
        cases a
        cases b
        rw [Status.mk.injEq]
        exact ⟨Json.eq_of_same_int generation, ApplyStatus.eq_of_same apply,
          DestroyStatus.eq_of_same destroy⟩

end Configuration

/-! ### Status of providers -/

theorem Provider.Status.eq_of_same {a b : Provider.Status}
    (alike : a.toJson.same b.toJson = true) : a = b := by
  have state := Json.same_member alike "state"
  have message := Json.same_member alike "message"
  simp [Provider.Status.toJson, Json.member?_ofPresent] at state message
  have told : a.state = b.state := Json.eq_of_sameMember
    (fun _ _ alike => Provider.State.name_injective (Json.eq_of_same_str alike)) state
  cases a
  cases b
  rw [Provider.Status.mk.injEq]
  exact ⟨told, Json.eq_of_same_message message⟩

/-! ### Objects -/

namespace Object

theorem member?_metadata (o : Object) :
    o.toJson.member? "metadata" = some o.metadata.toJson := by
  cases o <;>
    simp [Object.toJson, Object.metadata, Json.ofObject, Json.member?_ofPresent,
      Configuration.toJson, Provider.toJson, Secret.toJson, ConfigMap.toJson, Job.toJson,
      ServiceAccount.toJson, ClusterRole.toJson, ClusterRoleBinding.toJson]

private theorem metadata_of_same {a b : Object} (alike : a.same b = true) :
    a.metadata.toJson.same b.metadata.toJson = true := by
  have metadata := Json.same_member alike "metadata"
  rw [member?_metadata, member?_metadata] at metadata
  cases metadata with
  | some alike => exact alike

theorem name_of_same {a b : Object} (alike : a.same b = true) :
    a.metadata.name = b.metadata.name := by
  have name := Json.same_member (metadata_of_same alike) "name"
  simp [Metadata.toJson, Json.member?_ofPresent] at name
  exact Json.eq_of_sameMember (fun _ _ => Json.eq_of_same_str) name

theorem ns_of_same {a b : Object} (alike : a.same b = true) : a.metadata.ns = b.metadata.ns := by
  have ns := Json.same_member (metadata_of_same alike) "namespace"
  simp [Metadata.toJson, Json.member?_ofPresent] at ns
  exact Json.eq_of_sameMember (fun _ _ => Json.eq_of_same_str) ns

theorem finalizers_of_same {a b : Object} (alike : a.same b = true) :
    a.metadata.finalizers = b.metadata.finalizers := by
  have finalizers := Json.same_member (metadata_of_same alike) "finalizers"
  simp [Metadata.toJson, Json.member?_ofPresent] at finalizers
  exact Json.eq_of_sameMember (fun _ _ => Json.eq_of_same_strs) finalizers

theorem labels_of_same {a b : Object} (alike : a.same b = true) :
    a.metadata.labels = b.metadata.labels := by
  have labels := Json.same_member (metadata_of_same alike) "labels"
  simp [Metadata.toJson, Json.member?_ofPresent] at labels
  exact Json.eq_of_sameMember (fun _ _ => Json.eq_of_same_texts) labels

theorem annotations_of_same {a b : Object} (alike : a.same b = true) :
    a.metadata.annotations = b.metadata.annotations := by
  have annotations := Json.same_member (metadata_of_same alike) "annotations"
  simp [Metadata.toJson, Json.member?_ofPresent] at annotations
  exact Json.eq_of_sameMember (fun _ _ => Json.eq_of_same_texts) annotations

theorem generation_of_same {a b : Object} (alike : a.same b = true) :
    a.metadata.generation = b.metadata.generation := by
  have generation := Json.same_member (metadata_of_same alike) "generation"
  simp [Metadata.toJson, Json.member?_ofPresent] at generation
  exact Json.eq_of_sameMember (fun _ _ => Json.eq_of_same_int) generation

private theorem text_of_same {a b : Option Timestamp}
    (alike : Json.sameMember (a.map fun t => .str t.text) (b.map fun t => .str t.text)) :
    a.map Timestamp.text = b.map Timestamp.text := by
  refine Json.eq_of_sameMember (f := .str) (fun _ _ => Json.eq_of_same_str) ?_
  rw [Option.map_map, Option.map_map]
  exact alike

theorem created_of_same {a b : Object} (alike : a.same b = true) :
    a.metadata.creationTimestamp.map Timestamp.text =
      b.metadata.creationTimestamp.map Timestamp.text := by
  have created := Json.same_member (metadata_of_same alike) "creationTimestamp"
  simp [Metadata.toJson, Json.member?_ofPresent] at created
  exact text_of_same created

theorem deleted_of_same {a b : Object} (alike : a.same b = true) :
    a.metadata.deletionTimestamp.map Timestamp.text =
      b.metadata.deletionTimestamp.map Timestamp.text := by
  have deleted := Json.same_member (metadata_of_same alike) "deletionTimestamp"
  simp [Metadata.toJson, Json.member?_ofPresent] at deleted
  exact text_of_same deleted

theorem toJson_withMetadata {m m' : Metadata} (o : Object) (alike : m.toJson = m'.toJson) :
    (o.withMetadata m).toJson = (o.withMetadata m').toJson := by
  cases o <;>
    simp [Object.toJson, withMetadata, Json.ofObject, alike,
      Configuration.toJson, Provider.toJson, Secret.toJson, ConfigMap.toJson, Job.toJson,
      ServiceAccount.toJson, ClusterRole.toJson, ClusterRoleBinding.toJson]

theorem member?_kind (o : Object) : o.toJson.member? "kind" = some (.str o.kind.name) := by
  cases o <;>
    simp [Object.toJson, Object.kind, Kind.name, Json.ofObject, Json.member?_ofPresent,
      Configuration.toJson, Provider.toJson, Secret.toJson, ConfigMap.toJson, Job.toJson,
      ServiceAccount.toJson, ClusterRole.toJson, ClusterRoleBinding.toJson]

theorem kind_of_same {a b : Object} (alike : a.same b = true) : a.kind = b.kind := by
  have kind := Json.same_member alike "kind"
  rw [member?_kind, member?_kind] at kind
  cases kind with
  | some alike => exact Kind.name_injective (Json.eq_of_same_str alike)

theorem key?_of_same {a b : Object} (alike : a.same b = true) : a.key? = b.key? := by
  unfold key? Metadata.key?
  rw [name_of_same alike, ns_of_same alike, kind_of_same alike]

/-- The specification is part of the written form. -/
theorem sameSpec_of_same {a b : Object} (alike : a.same b = true) : a.sameSpec b = true := by
  have kind := kind_of_same alike
  have spec := Json.same_member alike "spec"
  cases a <;> cases b <;> cases kind
  case configuration.configuration.refl =>
    simp [Object.toJson, Configuration.toJson, Json.ofObject, Json.member?_ofPresent] at spec
    cases spec with
    | some alike => exact alike
  case provider.provider.refl =>
    simp [Object.toJson, Provider.toJson, Json.ofObject, Json.member?_ofPresent] at spec
    cases spec with
    | some alike => exact alike
  case job.job.refl =>
    -- A job may lack a specification, which is then not written, and is compared as null.
    simp [Object.toJson, Job.toJson, Json.ofObject, Json.member?_ofPresent] at spec
    exact Json.same_getD spec .null
  all_goals rfl

end Object

theorem Configuration.status_of_same {a b : Configuration}
    (alike : (Object.configuration a).same (.configuration b) = true) : a.status = b.status := by
  have status := Json.same_member alike "status"
  simp [Object.toJson, Configuration.toJson, Json.ofObject, Json.member?_ofPresent] at status
  exact Json.eq_of_sameMember (fun _ _ => Status.eq_of_same) status

theorem Provider.status_of_same {a b : Provider}
    (alike : (Object.provider a).same (.provider b) = true) : a.status = b.status := by
  have status := Json.same_member alike "status"
  simp [Object.toJson, Provider.toJson, Json.ofObject, Json.member?_ofPresent] at status
  exact Json.eq_of_sameMember (fun _ _ => Status.eq_of_same) status

theorem ConfigMap.data_of_same {a b : ConfigMap}
    (alike : (Object.configMap a).same (.configMap b) = true) : a.data = b.data := by
  have data := Json.same_member alike "data"
  simp [Object.toJson, ConfigMap.toJson, Json.ofObject, Json.member?_ofPresent] at data
  exact Json.eq_of_sameMember (fun _ _ => Json.eq_of_same_texts) data

theorem Secret.stringData_of_same {a b : Secret}
    (alike : (Object.secret a).same (.secret b) = true) : a.stringData = b.stringData := by
  have texts := Json.same_member alike "stringData"
  simp [Object.toJson, Secret.toJson, Json.ofObject, Json.member?_ofPresent] at texts
  exact Json.eq_of_sameMember (fun _ _ => Json.eq_of_same_texts) texts

/-- A secret written like one that holds texts only holds texts only. -/
theorem Secret.data_none_of_same {a b : Secret}
    (alike : (Object.secret a).same (.secret b) = true) (empty : a.data = none) : b.data = none := by
  have data := Json.same_member alike "data"
  simp [Object.toJson, Secret.toJson, Json.ofObject, Json.member?_ofPresent, empty] at data
  simpa using Json.sameMember_none_left data

/-- A job written like one without a status has none. -/
theorem Job.status_none_of_same {a b : Job} (alike : (Object.job a).same (.job b) = true)
    (empty : a.status = none) : b.status = none := by
  have status := Json.same_member alike "status"
  simp [Object.toJson, Job.toJson, Json.ofObject, Json.member?_ofPresent, empty] at status
  simpa using Json.sameMember_none_left status

end Provisioner
