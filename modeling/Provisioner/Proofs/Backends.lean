import Provisioner.Json.MergePatch
import Provisioner.Proofs.Rendering

/-!
The backends of a rendered document. Of a list of terraform blocks the first receives the backend,
in place of one that it had before; the blocks after it stay as they are. So a document has one
backend unless a later block of the source brings its own.
-/

namespace Provisioner

open Provisioner.Configuration (Spec SourceType)

variable {spec : Spec} {name ns source : String} {document rendered backend block v : Json}
  {block? : Option Json} {members : List (String × Json)}

namespace Json

/-- The values of all members of a name. -/
def membersNamed (name : String) (v : Json) : List Json :=
  (v.membersOf.filter (·.1 = name)).map (·.2)

theorem Ordered.membersNamed (ordered : v.Ordered) (name : String) :
    v.membersNamed name = (v.member? name).toList := by
  cases ordered with
  | obj increasing each => exact Dict.values_under_key increasing name
  | _ => rfl

end Json

namespace Terraform

/-- The blocks of a terraform member: all elements of a list, or what else it is. -/
def blocksOf : Option Json → List Json
  | some (.arr blocks) => blocks
  | some block => [block]
  | none => []

/-- The terraform blocks of a document. -/
def terraformBlocks (document : Json) : List Json := blocksOf (document.member? "terraform")

/-- The backends of a document, over all its terraform blocks. -/
def backends (document : Json) : List Json :=
  (terraformBlocks document).flatMap (Json.membersNamed "backend")

theorem ordered_of_mem_terraformBlocks (ordered : document.Ordered)
    (listed : block ∈ terraformBlocks document) : block.Ordered := by
  unfold terraformBlocks at listed
  cases found : document.member? "terraform" with
  | none =>
    rw [found] at listed
    cases listed
  | some held =>
    have below : held.Ordered := ordered.member found
    rw [found] at listed
    cases below with
    | arr each => exact each block listed
    | _ =>
      rw [List.mem_singleton.mp listed]
      constructor <;> assumption

/-- Of the blocks of a terraform member the first has the backend set, and the others stay. -/
theorem blocksOf_setBackend (set : setBackend backend (block?.getD (.obj [])) = some block) :
    ∃ members, blocksOf (some block) =
      (Json.obj members).setMember "backend" backend :: (blocksOf block?).tail := by
  cases block? with
  | none =>
    cases set
    exact ⟨[], rfl⟩
  | some before =>
    cases before with
    | obj members =>
      cases set
      exact ⟨members, rfl⟩
    | arr elements =>
      cases elements with
      | nil =>
        cases set
        exact ⟨[], rfl⟩
      | cons first rest =>
        cases first with
        | obj members =>
          cases set
          exact ⟨members, rfl⟩
        | _ => cases set
    | _ => cases set

theorem terraformBlocks_withBackend (set : withBackend backend (.obj members) = some rendered) :
    ∃ before, terraformBlocks rendered =
      (Json.obj before).setMember "backend" backend :: (terraformBlocks (.obj members)).tail := by
  obtain ⟨block, blockSet, rfl⟩ := Option.map_eq_some_iff.mp set
  obtain ⟨before, blocks⟩ := blocksOf_setBackend blockSet
  refine ⟨before, Eq.trans (congrArg blocksOf ?_) blocks⟩
  exact (Dict.lookup_place ..).trans (if_pos rfl)

/-- The backends of a document that had one set: the first block has that and no other, and the
others have what they had. -/
theorem backends_withBackend (set : withBackend backend (.obj members) = some rendered)
    (ordered : rendered.Ordered) :
    (∃ first, terraformBlocks rendered = first :: (terraformBlocks (.obj members)).tail ∧
      first.membersNamed "backend" = [backend]) ∧
    backends rendered = backend ::
      (terraformBlocks (.obj members)).tail.flatMap (Json.membersNamed "backend") := by
  obtain ⟨before, blocks⟩ := terraformBlocks_withBackend set
  have first : ((Json.obj before).setMember "backend" backend).membersNamed "backend" =
      [backend] := by
    have below : ((Json.obj before).setMember "backend" backend).Ordered :=
      ordered_of_mem_terraformBlocks ordered (blocks ▸ List.mem_cons_self)
    rw [below.membersNamed]
    exact congrArg Option.toList ((Dict.lookup_place ..).trans (if_pos rfl))
  refine ⟨⟨_, blocks, first⟩, ?_⟩
  unfold backends
  rw [blocks, List.flatMap_cons, first]
  rfl

end Terraform

/-- The rendered document has the backend for the name and namespace in its first terraform block,
which has no other, and the blocks after it are those of the source. So it is the only backend of the
document just if none of these has a backend, as where the source has one block or none. -/
theorem backend_of_first_block (spec : Spec) (name ns : String)
    (accepted : Terraform.validate spec = .ok .json) :
    ∃ source document rendered, spec.json = some source ∧ Json.ofText source = .ok document ∧
      Terraform.withBackend (Terraform.kubernetesBackend name ns) document = some rendered ∧
      Terraform.render spec .json name ns = .ok rendered.pretty ∧
      (∃ first, Terraform.terraformBlocks rendered =
          first :: (Terraform.terraformBlocks document).tail ∧
        first.membersNamed "backend" = [Terraform.kubernetesBackend name ns]) ∧
      (Terraform.backends rendered = [Terraform.kubernetesBackend name ns] ↔
        ∀ block ∈ (Terraform.terraformBlocks document).tail, block.member? "backend" = none) := by
  obtain ⟨source, members, rendered, given, read, read', ordered, set⟩ :=
    Terraform.document_of_validate accepted (Terraform.kubernetesBackend name ns)
  obtain ⟨first, backends⟩ := Terraform.backends_withBackend set
    (Terraform.ordered_withBackend ordered (Terraform.ordered_kubernetesBackend name ns) set)
  refine ⟨source, .obj members, rendered, given, read, set, Terraform.render_json given read' set,
    first, ?_⟩
  rw [backends, List.cons_eq_cons, and_iff_right rfl, List.flatMap_eq_nil_iff]
  refine forall₂_congr fun block listed => ?_
  have below : block.Ordered :=
    Terraform.ordered_of_mem_terraformBlocks ordered (List.mem_of_mem_tail listed)
  rw [below.membersNamed, Option.toList_eq_nil_iff]

namespace Sample

/-- A document with a list of two terraform blocks, the second of which has a backend. -/
def forked : Spec where
  json := some "\x7b\"terraform\":[\x7b\x7d,\x7b\"backend\":\x7b\"local\":\x7b\x7d\x7d\x7d]\x7d"

end Sample

/-- A document whose first block had a backend of its own. -/
theorem backend_of_first_block_blocks :
    Terraform.validate Sample.blocks = .ok .json ∧
    ∃ rendered, Terraform.render Sample.blocks .json "web" "vela-system" = .ok rendered.pretty ∧
      Terraform.backends rendered = [Terraform.kubernetesBackend "web" "vela-system"] := by
  have accepted : Terraform.validate Sample.blocks = .ok .json :=
    eq_ok_of_toOption (by decide +kernel)
  obtain ⟨source, document, rendered, given, read, -, text, -, only⟩ :=
    backend_of_first_block Sample.blocks "web" "vela-system" accepted
  refine ⟨accepted, rendered, text, only.mpr ?_⟩
  have later : ((Json.ofText (Sample.blocks.json.getD "")).toOption.all fun document =>
      (Terraform.terraformBlocks document).tail.all fun block =>
        (block.member? "backend").isNone) = true := by decide +kernel
  rw [given, Option.getD_some, read] at later
  exact fun block listed => Option.isNone_iff_eq_none.mp (List.all_eq_true.mp later block listed)

/-- A backend of the source survives in a later block of a list, beside the one that was set. -/
theorem backend_survives :
    Terraform.validate Sample.forked = .ok .json ∧
    ∃ document rendered, Json.ofText (Sample.forked.json.getD "") = .ok document ∧
      Terraform.withBackend (Terraform.kubernetesBackend "web" "vela-system") document =
        some rendered ∧
      Terraform.render Sample.forked .json "web" "vela-system" = .ok rendered.pretty ∧
      Terraform.backends rendered ≠ [Terraform.kubernetesBackend "web" "vela-system"] ∧
      ∃ other ∈ Terraform.backends rendered, other.member? "local" ≠ none := by
  have accepted : Terraform.validate Sample.forked = .ok .json :=
    eq_ok_of_toOption (by decide +kernel)
  obtain ⟨source, members, rendered, given, read, read', ordered, set⟩ :=
    Terraform.document_of_validate accepted (Terraform.kubernetesBackend "web" "vela-system")
  obtain ⟨-, backends⟩ := Terraform.backends_withBackend set
    (Terraform.ordered_withBackend ordered (Terraform.ordered_kubernetesBackend ..) set)
  refine ⟨accepted, .obj members, rendered, by rwa [given, Option.getD_some], set,
    Terraform.render_json given read' set, ?_⟩
  have later : ((Json.ofText (Sample.forked.json.getD "")).toOption.all fun document =>
      ((Terraform.terraformBlocks document).tail.flatMap (Json.membersNamed "backend")).any
        fun other => (other.member? "local").isSome) = true := by decide +kernel
  rw [given, Option.getD_some, read] at later
  obtain ⟨other, listed, own⟩ := List.any_eq_true.mp later
  rw [backends]
  refine ⟨fun only => ?_, other, List.mem_cons_of_mem _ listed, ?_⟩
  · rw [(List.cons_eq_cons.mp only).2] at listed
    cases listed
  · exact Option.isSome_iff_ne_none.mp own

end Provisioner
