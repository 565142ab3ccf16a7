import Provisioner.Proofs.FixedPoint
import Provisioner.Proofs.Fingerprint
import Provisioner.Proofs.Places

/-!
What is accepted is rendered, and nothing of it is lost. A source in the configuration language is
kept letter by letter in front of the backend, and a document is kept but for the one member that
holds the backend. The document is read twice, as a value when it is looked over and member by
member when it is rendered, and the block for the backend is looked for both times; that both agree
is why a pass never stops at a document that had been accepted.
-/

namespace Provisioner

open Reconcile
open Provisioner.Configuration (Spec SourceType)

variable {spec spec' : Spec} {type : SourceType} {name ns text text' source : String}
  {document rendered backend block : Json} {block? : Option Json}
  {members : List (String × Json)}

/-- A text is read with the members of every object in order. -/
theorem Json.ordered_of_ofText (read : ofText source = .ok document) : document.Ordered := by
  unfold ofText at read
  cases parsed : parse .any (Text.utf8 source) with
  | error e =>
    rw [parsed] at read
    cases read
  | ok v =>
    rw [parsed] at read
    cases read
    exact ordered_canonical v

namespace Terraform

/-! ### The place of the backend -/

/-- The way from a terraform block to its backend: into the first element where it is a list. -/
def blockPath : Option Json → List Json.Step
  | some (.arr _) => [.element 0, .member "backend"]
  | _ => [.member "backend"]

/-- The place of the backend in a document. -/
def backendPath (document : Json) : List Json.Step :=
  .member "terraform" :: blockPath (document.member? "terraform")

theorem placedAt_setBackend (set : setBackend backend (block?.getD (.obj [])) = some block) :
    Json.PlacedAt (blockPath block?) backend block? block := by
  have root (v? : Option Json) := Json.PlacedAt.root backend v?
  have empty : Json.PlacedAt [.member "backend"] backend (some (.obj []))
      (.obj [("backend", backend)]) := (root none).setMember
  have made : Json.PlacedAt [.member "backend"] backend none (.obj [("backend", backend)]) :=
    empty.of_childless fun step => by cases step <;> rfl
  cases block? with
  | none =>
    cases set
    exact made
  | some before =>
    cases before with
    | obj members =>
      cases set
      exact (root _).setMember
    | arr elements =>
      cases elements with
      | nil =>
        cases set
        exact made.setFirst
      | cons first rest =>
        cases first with
        | obj members =>
          cases set
          have first : Json.PlacedAt [.member "backend"] backend (some (.obj members))
              ((Json.obj members).setMember "backend" backend) := (root _).setMember
          exact first.setFirst
        | _ => cases set
    | _ => cases set

/-- Setting the backend in a document sets it at its place and leaves the rest alone. -/
theorem placedAt_withBackend (set : withBackend backend (.obj members) = some rendered) :
    Json.PlacedAt (backendPath (.obj members)) backend (some (.obj members)) rendered := by
  obtain ⟨block, blockSet, rfl⟩ := Option.map_eq_some_iff.mp set
  exact (placedAt_setBackend blockSet).setMember

theorem ordered_setBackend (ordered : block.Ordered) (other : backend.Ordered)
    (set : setBackend backend block = some rendered) : rendered.Ordered := by
  cases ordered with
  | obj increasing each =>
    cases set
    exact Json.Ordered.setMember (.obj increasing each) other
  | arr each =>
    rename_i elements
    cases elements with
    | nil =>
      cases set
      refine .arr fun v listed => ?_
      rw [List.mem_singleton.mp listed]
      exact .obj (List.pairwise_singleton ..) fun m only => List.mem_singleton.mp only ▸ other
    | cons first rest =>
      obtain ⟨before, others⟩ := List.forall_mem_cons.mp each
      cases first with
      | obj members =>
        cases set
        exact .arr (List.forall_mem_cons.mpr ⟨before.setMember other, others⟩)
      | _ => cases set
  | _ => cases set

/-- A document in order is in order with its backend set. -/
theorem ordered_withBackend (ordered : document.Ordered) (other : backend.Ordered)
    (set : withBackend backend document = some rendered) : rendered.Ordered := by
  obtain ⟨block, blockSet, rfl⟩ := Option.map_eq_some_iff.mp set
  refine ordered.setMember (ordered_setBackend ?_ other blockSet)
  cases found : document.member? "terraform" with
  | none => exact .obj .nil (List.forall_mem_nil _)
  | some before => exact ordered.member found

/-! ### The backend -/

/-- A backend that keeps the state in a secret of the cluster, as a text of its own: the suffix of
the secret is the name, and the secret is in the namespace. -/
def kubernetesBlock (name ns : String) : String :=
  String.join
    ["\nterraform \x7b\n",
      "  backend \"kubernetes\" \x7b\n",
      "    secret_suffix     = \"", name, "\"\n",
      "    in_cluster_config = true\n",
      "    namespace         = \"", ns, "\"\n",
      "  \x7d\n",
      "\x7d\n"]

/-- The same backend as the value of a member of a terraform block. -/
def kubernetesBackend (name ns : String) : Json :=
  .obj
    [("kubernetes",
      .obj
        [("in_cluster_config", .bool true), ("namespace", .str ns), ("secret_suffix", .str name)])]

theorem backendText_eq (name ns : String) : backendText name ns = kubernetesBlock name ns := by
  -- Stated for any lines, since with these in place comparing the texts would compute them.
  have joined : ∀ a b c d e f g h i : String,
      a ++ b ++ c ++ name ++ d ++ e ++ f ++ ns ++ g ++ h ++ i =
        String.join [a, b, c, name, d, e, f, ns, g, h, i] := by
    intro a b c d e f g h i
    simp only [String.join_cons, String.join_nil, String.append_empty, String.append_assoc]
  exact joined ..

theorem backendJson_eq (name ns : String) : backendJson name ns = kubernetesBackend name ns := by
  have suffix : compare "in_cluster_config" "secret_suffix" = .lt := by decide +kernel
  have config : compare "namespace" "in_cluster_config" = .gt := by decide +kernel
  have place : compare "namespace" "secret_suffix" = .lt := by decide +kernel
  have none : ∀ α : Type, (∅ : Dict String α).entries = [] := fun _ => rfl
  simp only [backendJson, kubernetesBackend, Json.ofMembers, Dict.ofList, Dict.insert, List.foldl,
    none, Dict.place, suffix, config, place]

theorem ordered_kubernetesBackend (name ns : String) : (kubernetesBackend name ns).Ordered := by
  rw [← backendJson_eq]
  unfold backendJson
  refine Json.ordered_ofMembers fun m only => ?_
  rw [List.mem_singleton.mp only]
  refine Json.ordered_ofMembers fun m listed => ?_
  simp only [List.mem_cons, List.not_mem_nil, or_false] at listed
  rcases listed with rfl | rfl | rfl
  · exact .str name
  · exact .bool true
  · exact .str ns

/-! ### Faithful renderings -/

/-- What the text for a source has to be: the source in the configuration language with the backend
after it, the backend alone for a repository, and for a document the document in order that has the
backend at its place and everything else as it was. -/
inductive Renders (spec : Spec) (name ns : String) : SourceType → String → Prop
  | hcl {source : String} (given : spec.hcl = some source) :
    Renders spec name ns .hcl (source ++ "\n" ++ kubernetesBlock name ns)
  | remote : Renders spec name ns .remote (kubernetesBlock name ns)
  | json {source : String} {document rendered : Json} (given : spec.json = some source)
    (read : Json.ofText source = .ok document)
    (placed : Json.PlacedAt (backendPath document) (kubernetesBackend name ns) (some document)
      rendered)
    (ordered : rendered.Ordered) : Renders spec name ns .json rendered.pretty

/-- What the text has to be is one text. -/
theorem Renders.unique (renders : Renders spec name ns type text)
    (renders' : Renders spec name ns type text') : text = text' := by
  cases renders with
  | hcl given =>
    cases renders' with
    | hcl given' => cases given.symm.trans given'; rfl
  | remote => cases renders'; rfl
  | json given read placed ordered =>
    cases renders' with
    | json given' read' placed' ordered' =>
      cases given.symm.trans given'
      cases read.symm.trans read'
      rw [placed.unique placed' ordered ordered']

/-- The document of a valid source is in order, and the backend can be set in it. -/
theorem document_of_validate (validated : validate spec = .ok .json) (backend : Json) :
    ∃ source members rendered, spec.json = some source ∧
      Json.ofText source = .ok (.obj members) ∧ sourceDocument source = .ok (.obj members) ∧
      (Json.obj members).Ordered ∧ withBackend backend (.obj members) = some rendered := by
  obtain ⟨source, given, -⟩ := (Option.any_eq_true _ _).mp
    ((hasContent_iff_of_sourceType (sourceType_of_validate validated) .json).mpr rfl)
  have given : spec.json = some source := given
  obtain ⟨members, read, read', settable⟩ := document_of_check (of_validate validated).1
  rw [given, Option.getD_some] at read read'
  obtain ⟨rendered, set⟩ := settable backend
  exact ⟨source, members, rendered, given, read, read', Json.ordered_of_ofText read, set⟩

theorem render_json (given : spec.json = some source)
    (read : sourceDocument source = .ok document)
    (set : withBackend (kubernetesBackend name ns) document = some rendered) :
    render spec .json name ns = .ok rendered.pretty := by
  rw [← backendJson_eq] at set
  unfold render
  simp only [given, Option.getD_some, read, mapError_ok, bind, Except.bind, set]
  rfl

/-- The text for a valid source is what it has to be. -/
theorem exists_renders (validated : validate spec = .ok type) (name ns : String) :
    ∃ text, render spec type name ns = .ok text ∧ Renders spec name ns type text := by
  cases type with
  | hcl =>
    obtain ⟨source, given, -⟩ := (Option.any_eq_true _ _).mp
      ((hasContent_iff_of_sourceType (sourceType_of_validate validated) .hcl).mpr rfl)
    have given : spec.hcl = some source := given
    refine ⟨_, rfl, ?_⟩
    rw [given, backendText_eq]
    exact .hcl given
  | remote => exact ⟨_, congrArg Except.ok (backendText_eq name ns), .remote⟩
  | json =>
    obtain ⟨source, members, rendered, given, read, read', ordered, set⟩ :=
      document_of_validate validated (kubernetesBackend name ns)
    exact ⟨_, render_json given read' set, .json given read (placedAt_withBackend set)
      (ordered_withBackend ordered (ordered_kubernetesBackend name ns) set)⟩

/-- The texts of two valid sources in the configuration language are the same just if the sources
are. -/
theorem render_hcl_eq_iff (validated : validate spec = .ok .hcl)
    (validated' : validate spec' = .ok .hcl) (name ns : String) :
    render spec .hcl name ns = render spec' .hcl name ns ↔ spec.hcl = spec'.hcl := by
  obtain ⟨text, rendered, renders⟩ := exists_renders validated name ns
  obtain ⟨text', rendered', renders'⟩ := exists_renders validated' name ns
  rw [rendered, rendered', Except.ok.injEq]
  cases renders with
  | hcl given =>
    cases renders' with
    | hcl given' =>
      rw [given, given', Option.some.injEq, String.append_left_inj, String.append_left_inj]

end Terraform

/-- A search fails at an object of another kind only. -/
theorem Store.find_eq_error {τ : Type} [Resource τ] {s : Store} {key : ObjectKey} {e : Error}
    (failed : s.find τ key = .error e) : e = .kindMismatch key (Resource.kind τ) := by
  unfold Store.find at failed
  split at failed
  · split at failed
    · cases failed
    · split at failed <;> cases failed
      rfl
  · cases failed
    rfl

namespace Reconcile

variable {t : Target} {c : Configuration} {s : Session}

/-- A specification that is invalid stops the pass before anything is written. -/
theorem on_renderInputs_of_invalid {fault : SpecFault}
    (rejected : Terraform.validate c.spec = .error fault) (s : Session) :
    (renderInputs t c).on s = (.error (.invalid fault), s) := by
  have bundled : bundle t c = .error (.invalid fault) := by
    unfold bundle
    rw [rejected]
    rfl
  unfold renderInputs
  rw [Pass.on_bind, Pass.on_ask, bundled]

/-- Rendering fails where the specification is invalid, and says why, and else only where something
that is no configuration map is stored in the place of one. -/
theorem renderInputs_error {e : Error} (failed : ((renderInputs t c).on s).1 = .error e) :
    (∃ fault, Terraform.validate c.spec = .error fault ∧ e = .invalid fault) ∨
      e = .kindMismatch t.inputBundleKey .configMap := by
  cases validated : Terraform.validate c.spec with
  | error fault =>
    rw [on_renderInputs_of_invalid validated] at failed
    cases failed
    exact .inl ⟨fault, rfl, rfl⟩
  | ok type =>
    obtain ⟨text, -, bundled⟩ := bundle_of_validate validated t
    unfold renderInputs at failed
    rw [Pass.on_bind, Pass.on_ask, bundled] at failed
    simp only at failed
    rw [Pass.on_bind, Pass.on_findNamed] at failed
    cases found : s.store.findNamed ConfigMap t.ns t.inputBundle with
    | error e' =>
      rw [found] at failed
      cases failed
      exact .inr (Store.find_eq_error found)
    | ok kept =>
      rw [found] at failed
      simp only at failed
      rw [Pass.on_bind, Pass.on_update (key?_bundleMap t _)] at failed
      cases failed

end Reconcile

/-- What is accepted is rendered faithfully. An accepted specification has an environment, and its
text is what it has to be for the kind of its source. Two accepted sources in the configuration
language have the same text just if they are the same. A specification that has no source, that
could not be rendered or that has no environment is rejected. So rendering in a pass fails where the
specification is rejected, with what is wrong with it, and never because a document could not be
read; all else that may go wrong is that the place of the rendered text is taken. -/
theorem render_faithful (spec spec' : Spec) (name ns : String) (t : Target) (c : Configuration)
    (s : Session) :
    (∀ type, Terraform.validate spec = .ok type →
      (∃ env, Terraform.variableEnv spec.values = .ok env) ∧
      (∃ text, Terraform.render spec type name ns = .ok text) ∧
      ∀ text, Terraform.render spec type name ns = .ok text ↔
        Terraform.Renders spec name ns type text) ∧
    (Terraform.validate spec = .ok .hcl → Terraform.validate spec' = .ok .hcl →
      (Terraform.render spec .hcl name ns = Terraform.render spec' .hcl name ns ↔
        spec.hcl = spec'.hcl)) ∧
    ((¬ ∃ type text env, Terraform.sourceType spec = .ok type ∧
        Terraform.render spec type name ns = .ok text ∧
        Terraform.variableEnv spec.values = .ok env) →
      ∃ fault, Terraform.validate spec = .error fault) ∧
    ∀ e, ((renderInputs t c).on s).1 = .error e →
      (∃ fault, Terraform.validate c.spec = .error fault ∧ e = .invalid fault) ∨
        e = .kindMismatch t.inputBundleKey .configMap := by
  refine ⟨fun type validated => ?_, fun validated validated' =>
    Terraform.render_hcl_eq_iff validated validated' name ns, fun unrendered => ?_,
    fun e failed => renderInputs_error failed⟩
  · obtain ⟨text, rendered, renders⟩ := Terraform.exists_renders validated name ns
    refine ⟨(Terraform.of_validate validated).2, ⟨text, rendered⟩, fun text' => ?_⟩
    constructor
    · intro rendered'
      exact Except.ok.inj (rendered.symm.trans rendered') ▸ renders
    · intro renders'
      exact renders.unique renders' ▸ rendered
  · cases validated : Terraform.validate spec with
    | error fault => exact ⟨fault, rfl⟩
    | ok type =>
      obtain ⟨text, rendered, -⟩ := Terraform.exists_renders validated name ns
      obtain ⟨-, env, settled⟩ := Terraform.of_validate validated
      exact absurd ⟨type, text, env, Terraform.sourceType_of_validate validated, rendered, settled⟩
        unrendered

namespace Sample

/-- A source in the configuration language. -/
def script (source : String) : Spec := { hcl := some source }

/-- A document with a list of terraform blocks, the first of which has a backend. -/
def blocks : Spec where
  json := some <|
    "\x7b\"output\": \x7b\"id\": \x7b\"value\": 1\x7d\x7d, \"terraform\": " ++
    "[\x7b\"backend\": \x7b\"local\": \x7b\x7d\x7d, \"experiments\": []\x7d, \x7b\x7d]\x7d"

/-- A document that ends too early. -/
def unfinished : Configuration where
  spec := { json := some "\x7b" }

end Sample

/-- Two scripts, a document, and a document that is rejected. -/
theorem render_faithful_sample :
    (Terraform.validate (Sample.script "# one") = .ok .hcl ∧
      Terraform.validate (Sample.script "# two") = .ok .hcl ∧
      Terraform.render (Sample.script "# one") .hcl "web" "vela-system" ≠
        Terraform.render (Sample.script "# two") .hcl "web" "vela-system") ∧
    (Terraform.validate Sample.blocks = .ok .json ∧
      ∃ text, Terraform.render Sample.blocks .json "web" "vela-system" = .ok text ∧
        Terraform.Renders Sample.blocks "web" "vela-system" .json text) ∧
    (Terraform.render Sample.unfinished.spec .json "web" "vela-system").toOption = none ∧
    ∃ fault, Terraform.validate Sample.unfinished.spec = .error fault ∧
      ((renderInputs default Sample.unfinished).on default).1 = .error (.invalid fault) := by
  have faithful (spec : Spec) := render_faithful spec (Sample.script "# two") "web" "vela-system"
    default Sample.unfinished default
  have one : Terraform.validate (Sample.script "# one") = .ok .hcl := rfl
  have two : Terraform.validate (Sample.script "# two") = .ok .hcl := rfl
  have accepted : Terraform.validate Sample.blocks = .ok .json :=
    eq_ok_of_toOption (by decide +kernel)
  have unrendered :
      (Terraform.render Sample.unfinished.spec .json "web" "vela-system").toOption = none := by
    decide +kernel
  refine ⟨⟨one, two, fun same => ?_⟩, ⟨accepted, ?_⟩, unrendered, ?_⟩
  · have sources := ((faithful (Sample.script "# one")).2.1 one two).mp same
    exact absurd sources (by decide)
  · obtain ⟨-, ⟨text, rendered⟩, renders⟩ := (faithful Sample.blocks).1 .json accepted
    exact ⟨text, rendered, (renders text).mp rendered⟩
  · obtain ⟨fault, rejected⟩ := (faithful Sample.unfinished.spec).2.2.1 (by
      rintro ⟨type, text, env, source, rendered, -⟩
      cases (rfl : Terraform.sourceType Sample.unfinished.spec = .ok .json).symm.trans source
      rw [rendered] at unrendered
      cases unrendered)
    exact ⟨fault, rejected, congrArg Prod.fst (on_renderInputs_of_invalid rejected default)⟩

end Provisioner
