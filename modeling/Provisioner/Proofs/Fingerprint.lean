import Provisioner.Proofs.Encodings
import Provisioner.Proofs.History
import Provisioner.Proofs.Triggering

/-!
What a fingerprint tells of the inputs of a job. The bytes behind it are the text, the repository
and the variables in a row, and only the names and the values of variables are closed off by zeros.
So inputs without zeros in them are told apart by their variables, except that the text, the
repository, its path and the name of the first variable run together: where one of these ends and
the next begins, the bytes do not say.
-/

namespace Provisioner

namespace Text

/-! ### Texts without zeros -/

/-- The character whose only byte is zero. -/
def zero : Char := '\x00'

theorem utf8_zero : utf8 (String.singleton zero) = [0] := by decide +kernel

/-- A text without zeros is told apart from what follows the zero that closes it off. -/
theorem eq_of_closed {l l' rest rest' : List Char} (free : zero ∉ l) (free' : zero ∉ l')
    (same : l ++ zero :: rest = l' ++ zero :: rest') : l = l' ∧ rest = rest' := by
  induction l generalizing l' with
  | nil =>
    cases l' with
    | nil => exact ⟨rfl, (List.cons.inj same).2⟩
    | cons c l' =>
      have first : zero = c := (List.cons.inj same).1
      exact absurd (first ▸ List.mem_cons_self) free'
  | cons c l ih =>
    cases l' with
    | nil =>
      have first : c = zero := (List.cons.inj same).1
      exact absurd (first ▸ List.mem_cons_self) free
    | cons c' l' =>
      obtain ⟨first, others⟩ := List.cons.inj same
      have free := mt (List.mem_cons_of_mem c) free
      have free' := mt (List.mem_cons_of_mem c') free'
      obtain ⟨rfl, rfl⟩ := ih free free' others
      exact ⟨by rw [first], rfl⟩

end Text

namespace Terraform

open Text (zero)

theorem toLower_eq_zero (c : Char) : c.toLower = zero ↔ c = zero := by
  unfold Char.toLower
  split
  · rename_i upper
    obtain ⟨least, most⟩ := upper
    constructor
    · intro lowered
      have value := congrArg Char.val lowered
      simp only [zero] at value
      grind
    · rintro rfl
      simp [zero] at least
  · rfl

/-- Folding the case of a text neither makes zeros nor removes them. -/
theorem zero_mem_foldCase {s : String} : zero ∈ (foldCase s).toList ↔ zero ∈ s.toList := by
  simp [foldCase, toLower_eq_zero]

end Terraform

namespace Executor

open Text (Bytes utf8 utf8_append utf8_empty utf8_inj utf8_zero zero eq_of_closed)
open Terraform (foldCase zero_mem_foldCase)

/-! ### Inputs as text -/

/-- A repository and the path in it, run together. -/
def Inputs.repository (i : Inputs) : String := (i.remote.map (· ++ i.path)).getD ""

/-- Everything before the first variable, run together. -/
def Inputs.source (i : Inputs) : String := i.text ++ i.repository

/-- The name of the first variable, empty if there is none. -/
def Inputs.firstName (i : Inputs) : String := i.env.keys.head?.getD ""

/-- A variable and its folded value, each closed off by a zero. -/
def variableChars (e : String × String) : List Char :=
  e.1.toList ++ zero :: ((foldCase e.2).toList ++ [zero])

/-- The inputs as characters. -/
def Inputs.chars (i : Inputs) : List Char :=
  i.source.toList ++ i.env.entries.flatMap variableChars

theorem utf8_variableChars (e : String × String) :
    utf8 (String.ofList (variableChars e)) = variableBytes e := by
  have closed : String.ofList (variableChars e) =
      e.1 ++ (String.singleton zero ++ (foldCase e.2 ++ String.singleton zero)) := by
    apply String.toList_injective
    simp [variableChars]
  rw [closed, utf8_append, utf8_append, utf8_append, utf8_zero]
  rfl

theorem utf8_flatMap (l : List (String × String)) :
    utf8 (String.ofList (l.flatMap variableChars)) = l.flatMap variableBytes := by
  induction l with
  | nil => exact utf8_empty
  | cons e rest ih =>
    rw [List.flatMap_cons, String.ofList_append, utf8_append, ih, utf8_variableChars]
    rfl

theorem utf8_source (i : Inputs) : utf8 i.source = utf8 i.text ++ remoteBytes i := by
  unfold Inputs.source Inputs.repository remoteBytes
  rw [utf8_append]
  cases i.remote with
  | none => simp [utf8_empty]
  | some remote => simp [utf8_append]

theorem bytes_eq_utf8 (i : Inputs) : i.bytes = utf8 (String.ofList i.chars) := by
  unfold Inputs.bytes Inputs.chars
  rw [String.ofList_append, utf8_append, utf8_flatMap, String.ofList_toList, utf8_source]

/-- The bytes of inputs tell as much as their characters. -/
theorem bytes_inj {i j : Inputs} : i.bytes = j.bytes ↔ i.chars = j.chars := by
  rw [bytes_eq_utf8, bytes_eq_utf8, utf8_inj, String.ofList_inj]

/-! ### What the bytes tell -/

/-- No zero is in a variable or its value. -/
def ZeroFree (e : String × String) : Prop := zero ∉ e.1.toList ∧ zero ∉ e.2.toList

instance (e : String × String) : Decidable (ZeroFree e) :=
  inferInstanceAs (Decidable (zero ∉ e.1.toList ∧ zero ∉ e.2.toList))

/-- No zero is in any of the inputs. -/
structure Inputs.ZeroFree (i : Inputs) : Prop where
  source : zero ∉ i.source.toList
  env : ∀ e ∈ i.env.entries, Executor.ZeroFree e

/-- A variable after some text is told apart from everything behind it. -/
theorem variable_told {e e' : String × String} (lead lead' : List Char) {rest rest' : List Char}
    (free : ZeroFree e) (free' : ZeroFree e') (leadFree : zero ∉ lead) (leadFree' : zero ∉ lead')
    (same : lead ++ (variableChars e ++ rest) = lead' ++ (variableChars e' ++ rest')) :
    lead ++ e.1.toList = lead' ++ e'.1.toList ∧ foldCase e.2 = foldCase e'.2 ∧ rest = rest' := by
  have named : ∀ {l : List Char} {e : String × String}, zero ∉ l → ZeroFree e →
      zero ∉ l ++ e.1.toList := fun leadFree free listed =>
    (List.mem_append.mp listed).elim leadFree free.1
  have valued : ∀ {e : String × String}, ZeroFree e → zero ∉ (foldCase e.2).toList :=
    fun free => mt zero_mem_foldCase.mp free.2
  simp only [variableChars, List.append_assoc, List.cons_append, List.nil_append] at same
  rw [← List.append_assoc, ← List.append_assoc] at same
  obtain ⟨first, others⟩ := eq_of_closed (named leadFree free) (named leadFree' free') same
  obtain ⟨value, behind⟩ := eq_of_closed (valued free) (valued free') others
  exact ⟨first, String.toList_injective value, behind⟩

theorem variableChars_ne_nil (e : String × String) : variableChars e ≠ [] := by
  simp [variableChars]

/-- Variables in a row are told apart, up to the case of their values. -/
theorem variables_told {l l' : List (String × String)} (free : ∀ e ∈ l, ZeroFree e)
    (free' : ∀ e ∈ l', ZeroFree e)
    (same : l.flatMap variableChars = l'.flatMap variableChars) :
    l.map (·.1) = l'.map (·.1) ∧ l.map (foldCase ·.2) = l'.map (foldCase ·.2) := by
  induction l generalizing l' with
  | nil =>
    cases l' with
    | nil => exact ⟨rfl, rfl⟩
    | cons e' l' => simp [variableChars_ne_nil] at same
  | cons e l ih =>
    cases l' with
    | nil => simp [variableChars_ne_nil] at same
    | cons e' l' =>
      obtain ⟨name, value, behind⟩ := variable_told [] [] (free e List.mem_cons_self)
        (free' e' List.mem_cons_self) List.not_mem_nil List.not_mem_nil same
      obtain ⟨names, values⟩ := ih (fun e listed => free e (List.mem_cons_of_mem _ listed))
        (fun e listed => free' e (List.mem_cons_of_mem _ listed)) behind
      have name : e.1 = e'.1 := String.toList_injective name
      exact ⟨by rw [List.map_cons, List.map_cons, names, name],
        by rw [List.map_cons, List.map_cons, values, value]⟩

/-- Variables with the same names and the same folded values are told alike. -/
theorem variables_alike {l l' : List (String × String)} (names : l.map (·.1) = l'.map (·.1))
    (values : l.map (foldCase ·.2) = l'.map (foldCase ·.2)) :
    l.flatMap variableChars = l'.flatMap variableChars := by
  induction l generalizing l' with
  | nil =>
    cases l' with
    | nil => rfl
    | cons e' l' => cases names
  | cons e l ih =>
    cases l' with
    | nil => cases names
    | cons e' l' =>
      obtain ⟨name, names⟩ := List.cons.inj names
      obtain ⟨value, values⟩ := List.cons.inj values
      rw [List.flatMap_cons, List.flatMap_cons, ih names values]
      simp only [variableChars, name, value]

/-- Behind a text without zeros, everything is told but where the text ends and the name of the
first variable begins. -/
theorem lead_told {s s' : String} {l l' : List (String × String)} (sourceFree : zero ∉ s.toList)
    (sourceFree' : zero ∉ s'.toList) (free : ∀ e ∈ l, ZeroFree e) (free' : ∀ e ∈ l', ZeroFree e)
    (same : s.toList ++ l.flatMap variableChars = s'.toList ++ l'.flatMap variableChars) :
    s ++ (l.map (·.1)).head?.getD "" = s' ++ (l'.map (·.1)).head?.getD "" ∧
      (l.map (·.1)).tail = (l'.map (·.1)).tail ∧
      l.map (foldCase ·.2) = l'.map (foldCase ·.2) := by
  have ends : ∀ {s : String} {lead : List Char} {e : String × String}
      {rest : List (String × String)}, zero ∉ s.toList →
      s.toList ≠ lead ++ (e :: rest).flatMap variableChars := fun free here =>
    free (here ▸ by simp [variableChars])
  cases l with
  | nil =>
    rw [List.flatMap_nil, List.append_nil] at same
    cases l' with
    | nil =>
      rw [List.flatMap_nil, List.append_nil] at same
      exact ⟨by rw [String.toList_injective same], rfl, rfl⟩
    | cons e' l' => exact absurd same (ends sourceFree)
  | cons e l =>
    cases l' with
    | nil =>
      rw [List.flatMap_nil, List.append_nil] at same
      exact absurd same.symm (ends sourceFree')
    | cons e' l' =>
      obtain ⟨lead, value, behind⟩ := variable_told _ _ (free e List.mem_cons_self)
        (free' e' List.mem_cons_self) sourceFree sourceFree' same
      obtain ⟨names, values⟩ := variables_told
        (fun e listed => free e (List.mem_cons_of_mem _ listed))
        (fun e listed => free' e (List.mem_cons_of_mem _ listed)) behind
      refine ⟨String.toList_injective ?_, names, ?_⟩
      · simpa using lead
      · rw [List.map_cons, List.map_cons, values, value]

/-- Texts and variables that are alike in what is told are told alike. -/
theorem lead_alike {s s' : String} {l l' : List (String × String)}
    (lead : s ++ (l.map (·.1)).head?.getD "" = s' ++ (l'.map (·.1)).head?.getD "")
    (names : (l.map (·.1)).tail = (l'.map (·.1)).tail)
    (values : l.map (foldCase ·.2) = l'.map (foldCase ·.2)) :
    s.toList ++ l.flatMap variableChars = s'.toList ++ l'.flatMap variableChars := by
  cases l with
  | nil =>
    cases l' with
    | nil =>
      have same : s = s' := by simpa using lead
      rw [same]
    | cons e' l' => cases values
  | cons e l =>
    cases l' with
    | nil => cases values
    | cons e' l' =>
      obtain ⟨value, values⟩ := List.cons.inj values
      have lead : s.toList ++ e.1.toList = s'.toList ++ e'.1.toList := by
        simpa using congrArg String.toList lead
      rw [List.flatMap_cons, List.flatMap_cons, variables_alike names values]
      simp only [variableChars, value]
      rw [← List.append_assoc, ← List.append_assoc, ← List.append_assoc, ← List.append_assoc, lead]

/-- What the bytes of inputs without zeros tell: the values of the variables up to case, all their
names but the first, and everything in front of the first value, run together. -/
structure Inputs.Blurs (i j : Inputs) : Prop where
  lead : i.source ++ i.firstName = j.source ++ j.firstName
  names : i.env.keys.tail = j.env.keys.tail
  values : i.env.values.map foldCase = j.env.values.map foldCase

namespace Inputs

variable {i j : Inputs}

theorem map_values (i : Inputs) :
    i.env.values.map foldCase = i.env.entries.map (foldCase ·.2) := by
  simp [Dict.values]

/-- Inputs without zeros have the same bytes just if they cannot be told apart by `Blurs`. -/
theorem bytes_eq_iff (free : i.ZeroFree) (free' : j.ZeroFree) : i.bytes = j.bytes ↔ i.Blurs j := by
  rw [bytes_inj]
  constructor
  · intro same
    obtain ⟨lead, names, values⟩ := lead_told free.source free'.source free.env free'.env same
    refine ⟨lead, names, ?_⟩
    rw [map_values, map_values, values]
  · rintro ⟨lead, names, values⟩
    rw [map_values, map_values] at values
    exact lead_alike lead names values

/-- The names of the variables, from the first and the others. -/
theorem keys_congr (values : i.env.values.map foldCase = j.env.values.map foldCase)
    (first : i.firstName = j.firstName) (names : i.env.keys.tail = j.env.keys.tail) :
    i.env.keys = j.env.keys := by
  have sizes : i.env.keys.length = j.env.keys.length := by
    simpa [Dict.keys, Dict.values] using congrArg List.length values
  unfold firstName at first
  cases keys : i.env.keys with
  | nil =>
    rw [keys] at sizes
    exact (List.length_eq_zero_iff.mp sizes.symm).symm
  | cons k rest =>
    cases keys' : j.env.keys with
    | nil =>
      rw [keys, keys'] at sizes
      cases sizes
    | cons k' rest' =>
      rw [keys, keys'] at first names
      simp only [List.head?_cons, Option.getD_some, List.tail_cons] at first names
      rw [first, names]

/-- Texts of the same length are told from what is behind them. -/
theorem text_told {s s' rest rest' : String} (same : s ++ rest = s' ++ rest')
    (length : s.length = s'.length) : s = s' ∧ rest = rest' := by
  have chars : s.toList ++ rest.toList = s'.toList ++ rest'.toList := by
    simpa using congrArg String.toList same
  obtain ⟨first, second⟩ :=
    List.append_inj chars (by rwa [String.length_toList, String.length_toList])
  exact ⟨String.toList_injective first, String.toList_injective second⟩

/-- Repositories of the same length, with paths of the same length, are told apart. -/
theorem repository_told (same : i.repository ++ i.firstName = j.repository ++ j.firstName)
    (remote : i.remote.map String.length = j.remote.map String.length)
    (path : i.path.length = j.path.length) :
    i.remote = j.remote ∧ (i.remote.isSome → i.path = j.path) ∧ i.firstName = j.firstName := by
  unfold repository at same
  cases remotes : i.remote with
  | none =>
    cases remotes' : j.remote with
    | none =>
      rw [remotes, remotes'] at same
      exact ⟨rfl, nofun, by simpa using same⟩
    | some r' =>
      rw [remotes, remotes'] at remote
      cases remote
  | some r =>
    cases remotes' : j.remote with
    | none =>
      rw [remotes, remotes'] at remote
      cases remote
    | some r' =>
      rw [remotes, remotes'] at same remote
      simp only [Option.map_some, Option.getD_some, Option.some.injEq] at same remote
      rw [String.append_assoc, String.append_assoc] at same
      obtain ⟨remotes, behind⟩ := text_told same remote
      obtain ⟨paths, first⟩ := text_told behind path
      exact ⟨by rw [remotes], fun _ => paths, first⟩

/-- Where the texts, the repositories and the paths have the same lengths, nothing runs together. -/
theorem Blurs.separates (blurs : i.Blurs j) (text : i.text.length = j.text.length)
    (remote : i.remote.map String.length = j.remote.map String.length)
    (path : i.path.length = j.path.length) :
    i.text = j.text ∧ i.remote = j.remote ∧ (i.remote.isSome → i.path = j.path) ∧
      i.env.map foldCase = j.env.map foldCase := by
  have lead := blurs.lead
  unfold source at lead
  rw [String.append_assoc, String.append_assoc] at lead
  obtain ⟨texts, behind⟩ := text_told lead text
  obtain ⟨remotes, paths, first⟩ := repository_told behind remote path
  refine ⟨texts, remotes, paths, Dict.ext_entries ?_⟩
  have zipped : ∀ k : Inputs, (k.env.map foldCase).entries =
      k.env.keys.zip (k.env.values.map foldCase) := by
    intro k
    simp [Dict.map, Dict.keys, Dict.values, List.zip_map']
  rw [zipped, zipped, blurs.values, keys_congr blurs.values first blurs.names]

/-- With the same text and the same variables, only repositories and paths that run together to the
same text have the same bytes. -/
theorem bytes_eq_iff_repository (text : i.text = j.text) (env : i.env = j.env) :
    i.bytes = j.bytes ↔ i.repository = j.repository := by
  have front : ∀ k : Inputs, k.bytes =
      utf8 k.text ++ (utf8 k.repository ++ k.env.entries.flatMap variableBytes) := by
    intro k
    unfold bytes
    rw [← utf8_source, source, utf8_append, List.append_assoc]
  rw [front, front, text, env, List.append_cancel_left_eq, List.append_cancel_right_eq, utf8_inj]

end Inputs

end Executor

/-! ### Edits of a repository -/

open Reconcile
open Executor (Inputs)
open Terraform (foldCase)

variable {s : Session} {t : Target} {c c' : Configuration} {b b' : Bundle} {settings : Settings}

theorem Terraform.sourceType_of_validate {spec : Configuration.Spec}
    {type : Configuration.SourceType} (validated : validate spec = .ok type) :
    sourceType spec = .ok type := by
  unfold validate at validated
  cases source : sourceType spec with
  | error fault =>
    rw [source] at validated
    cases validated
  | ok found =>
    rw [source] at validated
    simp only [bind, Except.bind] at validated
    split at validated
    · cases validated
    · split at validated
      · cases validated
      · cases validated
        rfl

/-- What is run for a source that is in a repository tells only where the state is kept. -/
theorem Reconcile.of_remote (rendered : bundle t c = .ok b) (remote : b.type = .remote) :
    Terraform.sourceType c.spec = .ok .remote ∧ b.text = Terraform.backendText t.name t.stateNs := by
  unfold bundle at rendered
  cases validated : Terraform.validate c.spec with
  | error fault =>
    rw [validated] at rendered
    cases rendered
  | ok type =>
    rw [validated] at rendered
    simp only [mapError_ok, bind, Except.bind] at rendered
    cases text : Terraform.render c.spec type t.name t.stateNs with
    | error e =>
      rw [text] at rendered
      cases rendered
    | ok text' =>
      rw [text] at rendered
      cases rendered
      subst remote
      cases text
      exact ⟨Terraform.sourceType_of_validate validated, rfl⟩

/-- What a specification gives as its source of some kind. -/
def Configuration.Spec.source (spec : Configuration.Spec) : Configuration.SourceType → Option String
  | .hcl => spec.hcl
  | .json => spec.json
  | .remote => spec.remote

theorem Terraform.mem_sources {spec : Configuration.Spec} {type : Configuration.SourceType} :
    type ∈ sources spec ↔ (spec.source type).any Text.hasContent = true := by
  unfold sources
  simp only [List.mem_append, List.mem_ite_nil_right, List.mem_singleton]
  cases type <;> simp [Configuration.Spec.source]

/-- Where a specification has one kind of source it has content for that kind and for no other. -/
theorem Terraform.hasContent_iff_of_sourceType {spec : Configuration.Spec}
    {type : Configuration.SourceType} (source : sourceType spec = .ok type)
    (other : Configuration.SourceType) :
    (spec.source other).any Text.hasContent = true ↔ other = type := by
  unfold sourceType at source
  split at source
  · cases source
  · rename_i found only
    cases source
    rw [← mem_sources, only, List.mem_singleton]
  · cases source

theorem Target.isSome_remote (settings : Settings)
    (source : Terraform.sourceType c.spec = .ok .remote) :
    (Target.of settings c).remote.isSome := by
  obtain ⟨remote, given, content⟩ :=
    (Option.any_eq_true _ _).mp ((Terraform.hasContent_iff_of_sourceType source .remote).mpr rfl)
  have given : c.spec.remote = some remote := given
  have nonempty : remote ≠ "" := by
    rintro rfl
    cases content
  simp [Target.of, given, nonempty]

namespace Session

/-- A job that is there is left alone just if the variables are not known to differ and it was made
from inputs with the same fingerprint. -/
theorem plan_eq_unchanged_iff (settings : Settings) {j : Job} {i : Inputs} {e : Execution}
    (i' : Inputs) (changed : Bool)
    (found : s.store.read Job (t.jobKey e) = some j)
    (made : Executor.fingerprint? j = some i.fingerprint) :
    s.plan settings t i' changed e = .unchanged ↔
      changed = false ∧ i.fingerprint = i'.fingerprint := by
  rw [plan_unchanged_iff]
  simp [found, made]

theorem triggered_converge (settings : Settings) (t : Target) (i : Inputs) (changed : Bool)
    (e : Execution) :
    (s.converge settings t i changed e).triggered =
      if s.plan settings t i changed e = .unchanged then s.triggered
      else s.triggered ++ [t.jobKey e] := by
  unfold converge
  cases s.plan settings t i changed e with
  | unchanged => rfl
  | trigger => exact triggered_start settings i
  | recreate =>
    simp only
    rw [triggered_start, triggered_delete, triggered_delete]
    rfl

/-- Settling variables and providing the role leaves all jobs alone. -/
theorem get?_job_beforeConverge (env : Dict String String) (e : Execution) :
    ((s.settleVariables t env).provideRole t).store.get? (t.jobKey e) =
      s.store.get? (t.jobKey e) := by
  have settled : (s.settleVariables t env).store.get? (t.jobKey e) = s.store.get? (t.jobKey e) :=
    get?_provide_of_ne _ _ (by nofun)
  rw [← settled]
  exact get?_provide_of_ne _ _ (by nofun)

/-- Where the variables are those that are kept, getting ready to run hands the job over just if the
job that is there was made from inputs with another fingerprint. -/
theorem triggered_ready {j : Job} {i : Inputs} {env : Dict String String}
    (settled : s.store.variablesDiffer t env = false)
    (found : s.store.read Job (t.jobKey .apply) = some j)
    (made : Executor.fingerprint? j = some i.fingerprint) :
    (s.ready settings t b env).triggered =
      if i.fingerprint = (Inputs.of t b.text env).fingerprint then s.triggered
      else s.triggered ++ [t.jobKey .apply] := by
  have job : ((s.settleVariables t env).provideRole t).store.read Job (t.jobKey .apply) = some j :=
    (Store.read_congr (get?_job_beforeConverge env .apply)).trans found
  have planned := plan_eq_unchanged_iff settings (.of t b.text env) false job made
  unfold ready reload
  simp only [settled, Bool.false_eq_true, if_false]
  rw [triggered_converge]
  simp only [planned, true_and, triggered_provideRole, triggered_settleVariables]

/-- A pass over an active configuration whose source is in a repository, and whose variables are
those that are kept, hands the job over that applies it just if the job that is there was made from
inputs with another fingerprint. -/
theorem triggered_remotePass {request : Request} {resolve : Resolver} {j : Job} {i : Inputs}
    {env : Dict String String} (keyed : s.store.WellKeyed)
    (held : s.store.read Configuration (request.key .configuration) = some c)
    (active : c.metadata.lifecycle = .active) (target : Target.of settings c = t)
    (rendered : bundle t c = .ok b) (remote : b.type = .remote)
    (desired : ((s.hold t c).keep t b).store.desired resolve c = .ok env)
    (settled : s.store.variablesDiffer t env = false)
    (found : s.store.read Job (t.jobKey .apply) = some j)
    (made : Executor.fingerprint? j = some i.fingerprint) :
    ((configurationPass settings resolve request).on s).2.triggered =
      if i.fingerprint = (Inputs.of t b.text env).fingerprint then s.triggered
      else s.triggered ++ [t.jobKey .apply] := by
  have placed : (Resource.wrap c).key? = some t.key := by
    rw [← target, Target.key_of (keyed.placed held), keyed.placed held]
  have keyedHeld := wellKeyed_hold keyed t c
  have keyedKept := wellKeyed_keep keyedHeld t b
  obtain ⟨source, -⟩ := of_remote rendered remote
  have repository : t.remote.isNone = false := by
    rw [← target]
    simpa using Target.isSome_remote settings source
  have same : (s.hold t c).store.bundleDiffers t b = false := by
    unfold Store.bundleDiffers Reconcile.bundleDiffers
    rw [repository, Bool.false_and]
  have differ : ((s.hold t c).keep t b).store.variablesDiffer t env = false := by
    rw [Store.variablesDiffer_congr (get?_heldAndKept (by nofun) (by nofun)), settled]
  rw [on_activePass keyed held active, target]
  simp only
  rw [on_apply keyed placed, rendered]
  simp only
  rw [if_neg (by simp [same]), on_run keyedKept]
  cases resolved : resolveCredentials resolve c ((s.hold t c).keep t b).store with
  | error e =>
    unfold Store.desired at desired
    rw [resolved] at desired
    cases desired
  | ok credentials =>
    rw [Store.desired_of_ok resolved] at desired
    simp only [desired]
    have readyKeyed := wellKeyed_ready keyedKept settings t b env
    have changes := within_recordProgress (t := t) (c := c)
      ((((s.hold t c).keep t b).ready settings t b env).store.report (t.jobKey .apply)) _ readyKeyed
    have job : ((s.hold t c).keep t b).store.read Job (t.jobKey .apply) = some j :=
      (Store.read_congr (get?_heldAndKept (by nofun) (by nofun))).trans found
    refine (changes.triggered fun e published => nomatch published.kind).trans ?_
    rw [triggered_ready differ job made, triggered_keep, triggered_hold]

end Session

/-- The repository of a target and the path in it, run together. -/
def Target.repository (t : Target) : String := (t.remote.map (· ++ t.path)).getD ""

/-- Two versions of one configuration, each with its source in a repository. -/
structure Configuration.Moves (settings : Settings) (c c' : Configuration) (b b' : Bundle) :
    Prop where
  name : c'.metadata.anyName = c.metadata.anyName
  ns : c'.metadata.ns = c.metadata.ns
  before : bundle (.of settings c) c = .ok b
  after : bundle (.of settings c') c' = .ok b'
  remote : b.type = .remote
  remote' : b'.type = .remote

/-- What two versions run in the same environment has the same bytes just if their repositories,
each with its path, run together to the same text. -/
theorem Configuration.Moves.bytes_eq_iff (moves : c.Moves settings c' b b')
    (env : Dict String String) :
    (Inputs.of (.of settings c) b.text env).bytes = (Inputs.of (.of settings c') b'.text env).bytes ↔
      (Target.of settings c).repository = (Target.of settings c').repository := by
  have name : (Target.of settings c').name = (Target.of settings c).name := moves.name
  have text : b.text = b'.text := by
    rw [(of_remote moves.before moves.remote).2, (of_remote moves.after moves.remote').2, name]
    rfl
  exact Inputs.bytes_eq_iff_repository text rfl

/-- What fingerprints tell apart. Inputs without zeros have the same bytes just if they cannot be
told apart by `Blurs`; nothing is blurred where the text, the repository and the path have the same
lengths. And when the repository of an active configuration or the path in it is edited, and the
variables stay as they are, the pass runs the job anew just if the hashes differ of byte strings
that are the same just if repository and path still run together to the same text. -/
theorem fingerprint_separates (i j : Inputs) (settings : Settings) (resolve : Resolver)
    (s : Session) (request : Request) (c c' : Configuration) (b b' : Bundle)
    (env : Dict String String) (job : Job) :
    let t := Target.of settings c
    let t' := Target.of settings c'
    let bytes := (Inputs.of t b.text env).bytes
    let bytes' := (Inputs.of t' b'.text env).bytes
    (i.ZeroFree → j.ZeroFree →
      (i.bytes = j.bytes ↔ i.Blurs j) ∧
      (i.bytes = j.bytes → i.text.length = j.text.length →
        i.remote.map String.length = j.remote.map String.length → i.path.length = j.path.length →
        i.text = j.text ∧ i.remote = j.remote ∧ (i.remote.isSome → i.path = j.path) ∧
          i.env.map foldCase = j.env.map foldCase)) ∧
    (s.store.WellKeyed →
      s.store.get? (request.key .configuration) = some (.configuration c') →
      c'.metadata.lifecycle = .active →
      c.Moves settings c' b b' →
      ((s.hold t' c').keep t' b').store.desired resolve c' = .ok env →
      s.store.variablesDiffer t' env = false →
      s.store.get? (t'.jobKey .apply) = some (.job job) →
      Executor.fingerprint? job = some (Sha256.hex bytes) →
      (bytes = bytes' ↔ t.repository = t'.repository) ∧
      ((configurationPass settings resolve request).on s).2.triggered =
        if Sha256.hex bytes = Sha256.hex bytes' then s.triggered
        else s.triggered ++ [t'.jobKey .apply]) := by
  intro t t' bytes bytes'
  refine ⟨fun free free' => ⟨i.bytes_eq_iff free free', fun same text remote path => ?_⟩, ?_⟩
  · exact ((i.bytes_eq_iff free free').mp same).separates text remote path
  · intro keyed held active moves desired settled found made
    refine ⟨moves.bytes_eq_iff env, ?_⟩
    exact Session.triggered_remotePass (i := .of t b.text env) keyed
      (Store.read_eq_some_iff.mpr held) active rfl moves.after moves.remote' desired settled
      (Store.read_eq_some_iff.mpr found) made

/-! ### A small store with a repository -/

namespace Sample

/-- An active configuration with its source in a repository. -/
def located (remote path : String) : Configuration where
  metadata :=
    { name := some "web", ns := some "prod", finalizers := some [Names.finalizer],
      generation := some 1 }
  spec := { remote := some remote, path := some path }

/-- What is run for a configuration with its source in a repository. -/
def cloned : Bundle := ⟨.remote, Terraform.backendText "web" "vela-system"⟩

/-- The inputs of a configuration without variables. -/
def inputs (c : Configuration) : Inputs := .of (.of {} c) cloned.text ∅

/-- The provider that configurations refer to which name none. -/
def standing : Provider :=
  { (default : Provider) with metadata := { name := some "default", ns := some "default" } }

/-- The job that applies a configuration without variables. -/
def clone (c : Configuration) : Job := Executor.job {} (.of {} c) (inputs c) .apply

/-- A store with a provider, a configuration, and the job that applies another version of it. -/
def moved (c c' : Configuration) : Session where
  store :=
    { items := .ofList
        [(⟨.provider, "default", "default"⟩, .provider standing),
         (⟨.configuration, "prod", "web"⟩, .configuration c'),
         (⟨.job, "prod", "web-apply"⟩, .job (clone c))] }
  now := ⟨0, 0⟩

section

variable {remote path remote' path' : String}

theorem get?_moved (c c' : Configuration) (key : ObjectKey) :
    (moved c c').store.get? key =
      if key = ⟨.job, "prod", "web-apply"⟩ then some (.job (clone c))
      else if key = ⟨.configuration, "prod", "web"⟩ then some (.configuration c')
      else if key = ⟨.provider, "default", "default"⟩ then some (.provider standing)
      else none := by
  simp [moved, Store.get?, Dict.ofList]

theorem wellKeyed_moved :
    (moved (located remote path) (located remote' path')).store.WellKeyed := by
  refine Store.wellKeyed_ofList fun e listed => ?_
  simp only [List.mem_cons, List.not_mem_nil, or_false] at listed
  rcases listed with rfl | rfl | rfl <;> rfl

theorem moves
    (before : (bundle (.of {} (located remote path)) (located remote path)).toOption = some cloned)
    (after : (bundle (.of {} (located remote' path')) (located remote' path')).toOption = some cloned) :
    (located remote path).Moves {} (located remote' path') cloned cloned :=
  ⟨rfl, rfl, eq_ok_of_toOption before, eq_ok_of_toOption after, rfl, rfl⟩

theorem desired_moved (c : Configuration) :
    (((moved c (located remote path)).hold (.of {} (located remote path)) (located remote path)).keep
      (.of {} (located remote path)) cloned).store.desired anonymous (located remote path) = .ok ∅ :=
  rfl

theorem variables_moved (c : Configuration) :
    (moved c (located remote path)).store.variablesDiffer (.of {} (located remote path)) ∅ = false :=
  rfl

theorem held_moved (c c' : Configuration) :
    (moved c c').store.get? (request.key .configuration) = some (.configuration c') := by
  rw [get?_moved, if_neg (by decide), if_pos]
  rfl

theorem job_moved (c : Configuration) :
    (moved c (located remote path)).store.get? ((Target.of {} (located remote path)).jobKey .apply) =
      some (.job (clone c)) := by
  rw [get?_moved, if_pos]
  rfl

theorem fingerprint?_clone (c : Configuration) :
    Executor.fingerprint? (clone c) = some (Sha256.hex (inputs c).bytes) := fingerprint?_job _ _ _ _

end

end Sample

/-- Inputs that differ in the case of a value only have the same bytes, and an edit of a path leads
to other bytes. -/
theorem fingerprint_separates_sample :
    let i : Inputs := ⟨"# nothing", none, ".", .singleton "TF_VAR_region" "EU"⟩
    let j : Inputs := ⟨"# nothing", none, ".", .singleton "TF_VAR_region" "eu"⟩
    let c := Sample.located "https://git.example.com/infra" "network"
    let c' := Sample.located "https://git.example.com/infra" "storage"
    i.ZeroFree ∧ j.ZeroFree ∧ i.bytes = j.bytes ∧ i.Blurs j ∧
    i.env.map foldCase = j.env.map foldCase ∧
    (Sample.moved c c').store.WellKeyed ∧ c.Moves {} c' Sample.cloned Sample.cloned ∧
    (Sample.inputs c).bytes ≠ (Sample.inputs c').bytes ∧
    ((configurationPass {} Sample.anonymous Sample.request).on (Sample.moved c c')).2.triggered =
      if Sha256.hex (Sample.inputs c).bytes = Sha256.hex (Sample.inputs c').bytes then []
      else [⟨.job, "prod", "web-apply"⟩] := by
  intro i j c c'
  have free : i.ZeroFree := ⟨by decide +kernel, by decide +kernel⟩
  have free' : j.ZeroFree := ⟨by decide +kernel, by decide +kernel⟩
  have same : i.bytes = j.bytes := by decide +kernel
  have moves : c.Moves {} c' Sample.cloned Sample.cloned :=
    Sample.moves (by decide +kernel) (by decide +kernel)
  have keyed : (Sample.moved c c').store.WellKeyed := Sample.wellKeyed_moved
  obtain ⟨telling, running⟩ := fingerprint_separates i j {} Sample.anonymous (Sample.moved c c')
    Sample.request c c' Sample.cloned Sample.cloned ∅ (Sample.clone c)
  have told := telling free free'
  have run := running keyed (Sample.held_moved c c') rfl moves (Sample.desired_moved c)
    (Sample.variables_moved c) (Sample.job_moved c) (Sample.fingerprint?_clone c)
  have apart : (Target.of {} c).repository ≠ (Target.of {} c').repository := by decide +kernel
  exact ⟨free, free', same, told.1.mp same, (told.2 same rfl rfl rfl).2.2.2, keyed, moves,
    mt run.1.mp apart, run.2⟩

/-- Where the repository ends and the path in it begins the fingerprint does not tell. Two
configurations may ask for different paths in different repositories with the same bytes, and then
the pass that finds the one where it ran the other leaves the job alone. -/
theorem repositories_confused :
    let c := Sample.located "https://git.example.com/infra" "-live/network"
    let c' := Sample.located "https://git.example.com/infra-live" "/network"
    (Target.of {} c).remote ≠ (Target.of {} c').remote ∧
    (Target.of {} c).path ≠ (Target.of {} c').path ∧
    (Sample.inputs c).bytes = (Sample.inputs c').bytes ∧
    ((configurationPass {} Sample.anonymous Sample.request).on (Sample.moved c c')).2.triggered =
      [] := by
  intro c c'
  have moves : c.Moves {} c' Sample.cloned Sample.cloned :=
    Sample.moves (by decide +kernel) (by decide +kernel)
  have same : (Sample.inputs c).bytes = (Sample.inputs c').bytes :=
    (moves.bytes_eq_iff ∅).mpr (by decide +kernel)
  have held : (Sample.moved c c').store.read Configuration (Sample.request.key .configuration) =
      some c' := Store.read_eq_some_iff.mpr (Sample.held_moved c c')
  have run := Session.triggered_remotePass Sample.wellKeyed_moved held rfl rfl moves.after rfl
    (Sample.desired_moved c) (Sample.variables_moved c)
    (Store.read_eq_some_iff.mpr (Sample.job_moved c)) (Sample.fingerprint?_clone c)
  refine ⟨by decide +kernel, by decide +kernel, same, ?_⟩
  rw [run, if_pos]
  · rfl
  · exact congrArg Sha256.hex same

end Provisioner
