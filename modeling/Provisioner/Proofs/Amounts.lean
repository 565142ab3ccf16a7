import Provisioner.Proofs.Quantities
import Provisioner.Settings

/-!
The amounts of compute resources that an environment sets. Each has a variable of its own, and what
is said here holds of each of them whatever the rest of the environment holds: the text is accepted
exactly if it is a quantity, and then it is kept as it is. So a text that no quantity is written
like never reaches a job.
-/

namespace Provisioner

namespace ComputeResources

/-- The amounts that a variable each can set. -/
inductive Part
  | limitsCpu
  | limitsMemory
  | requestsCpu
  | requestsMemory
  deriving DecidableEq

namespace Part

/-- The variable that sets the amount. -/
def name : Part → String
  | limitsCpu => "RESOURCES_LIMITS_CPU"
  | limitsMemory => "RESOURCES_LIMITS_MEMORY"
  | requestsCpu => "RESOURCES_REQUESTS_CPU"
  | requestsMemory => "RESOURCES_REQUESTS_MEMORY"

theorem name_injective {p q : Part} (same : p.name = q.name) : p = q := by
  cases p <;> cases q <;> first | rfl | exact absurd same (by decide)

end Part

def get (r : ComputeResources) : Part → Option String
  | .limitsCpu => r.limitsCpu
  | .limitsMemory => r.limitsMemory
  | .requestsCpu => r.requestsCpu
  | .requestsMemory => r.requestsMemory

def set (r : ComputeResources) (amount : Option String) : Part → ComputeResources
  | .limitsCpu => { r with limitsCpu := amount }
  | .limitsMemory => { r with limitsMemory := amount }
  | .requestsCpu => { r with requestsCpu := amount }
  | .requestsMemory => { r with requestsMemory := amount }

variable {r r' : ComputeResources} {p q : Part}

theorem get_set (r : ComputeResources) (amount : Option String) (p q : Part) :
    (r.set amount p).get q = if q = p then amount else r.get q := by
  cases p <;> cases q <;> rfl

theorem ext_get (same : ∀ p, r.get p = r'.get p) : r = r' := by
  cases r
  cases r'
  exact mk.injEq .. ▸ ⟨same .limitsCpu, same .limitsMemory, same .requestsCpu, same .requestsMemory⟩

end ComputeResources

namespace Settings

open ComputeResources (Part)

variable {env env' : Dict String String} {s rest : Settings} {part : Part} {v name : String}

/-- The settings with an amount of their resources set. -/
def withAmount (s : Settings) (part : Part) (amount : Option String) : Settings :=
  { s with resources := s.resources.set amount part }

/-- What an environment says of settings that it makes. -/
structure Makes (env : Dict String String) (s : Settings) : Prop where
  terraformImage :
    (value? env "TERRAFORM_IMAGE").getD "oamdev/docker-terraform:1.1.2" = s.terraformImage
  busyboxImage : (value? env "BUSYBOX_IMAGE").getD "busybox:latest" = s.busyboxImage
  gitImage : (value? env "GIT_IMAGE").getD "alpine/git:latest" = s.gitImage
  stateNs : (value? env "TERRAFORM_BACKEND_NAMESPACE").getD "vela-system" = s.stateNs
  githubBlocked : flag env "GITHUB_BLOCKED" = .ok s.githubBlocked
  amount : ∀ part : Part, quantity env part.name = .ok (s.resources.get part)
  bootstrapDemo : flag env "BOOTSTRAP_DEMO" = .ok s.bootstrapDemo

section Bind

variable {ε α β : Type} {x : Except ε α} {f : α → Except ε β}

theorem bind_eq_ok_iff {b : β} : x >>= f = .ok b ↔ ∃ a, x = .ok a ∧ f a = .ok b := by
  cases x <;> simp [bind, Except.bind]

theorem bind_of_ok {a : α} (read : x = .ok a) : x >>= f = f a := by
  rw [read]
  rfl

theorem bind_of_error {e : ε} (failed : x = .error e) : x >>= f = .error e := by
  rw [failed]
  rfl

end Bind

theorem load_eq_ok_iff : load env = .ok s ↔ Makes env s := by
  simp only [load, bind_eq_ok_iff]
  constructor
  · rintro ⟨_, blocked, _, limitsCpu, _, limitsMemory, _, requestsCpu, _, requestsMemory, _, demo,
      ⟨⟩⟩
    refine ⟨rfl, rfl, rfl, rfl, blocked, fun part => ?_, demo⟩
    cases part with
    | limitsCpu => exact limitsCpu
    | limitsMemory => exact limitsMemory
    | requestsCpu => exact requestsCpu
    | requestsMemory => exact requestsMemory
  · intro made
    refine ⟨_, made.githubBlocked, _, made.amount .limitsCpu, _, made.amount .limitsMemory, _,
      made.amount .requestsCpu, _, made.amount .requestsMemory, _, made.bootstrapDemo, ?_⟩
    rw [made.terraformImage, made.busyboxImage, made.gitImage, made.stateNs]
    rfl

theorem value?_insert (filled : v ≠ "") (name' : String) :
    value? (env.insert name v) name' = if name' = name then some v else value? env name' := by
  unfold value?
  rw [Dict.get?_insert]
  split
  · simp [filled]
  · rfl

theorem value?_erase (name' : String) :
    value? (env.erase name) name' = if name' = name then none else value? env name' := by
  unfold value?
  rw [Dict.get?_erase]
  split <;> rfl

theorem value?_insert_eq_erase (env : Dict String String) (name : String) (filled : v ≠ "")
    (name' : String) (apart : name' ≠ name) :
    value? (env.insert name v) name' = value? (env.erase name) name' := by
  rw [value?_insert filled, value?_erase, if_neg apart, if_neg apart]

theorem quantity_insert (filled : v ≠ "") : quantity (env.insert name v) name =
    if Quantity.isWritten v then .ok (some v) else .error (.quantity name v) := by
  unfold quantity
  rw [value?_insert filled, if_pos rfl]

theorem quantity_erase : quantity (env.erase name) name = .ok none := by
  unfold quantity
  rw [value?_erase, if_pos rfl]

theorem quantity_congr (same : value? env' name = value? env name) :
    quantity env' name = quantity env name := by
  unfold quantity
  rw [same]

theorem flag_congr (same : value? env' name = value? env name) :
    flag env' name = flag env name := by
  unfold flag
  rw [same]

/-- Where only the variable of one amount differs, only that amount does. -/
theorem Makes.withAmount {amount : Option String} (made : Makes env s)
    (elsewhere : ∀ name, name ≠ part.name → value? env' name = value? env name)
    (here : quantity env' part.name = .ok amount) : Makes env' (s.withAmount part amount) where
  terraformImage := by
    rw [elsewhere _ (by cases part <;> decide)]
    exact made.terraformImage
  busyboxImage := by
    rw [elsewhere _ (by cases part <;> decide)]
    exact made.busyboxImage
  gitImage := by
    rw [elsewhere _ (by cases part <;> decide)]
    exact made.gitImage
  stateNs := by
    rw [elsewhere _ (by cases part <;> decide)]
    exact made.stateNs
  githubBlocked := (flag_congr (elsewhere _ (by cases part <;> decide))).trans made.githubBlocked
  amount other := by
    simp only [Settings.withAmount, ComputeResources.get_set]
    split
    · rename_i same
      rw [same, here]
    · rename_i apart
      rw [quantity_congr (elsewhere _ fun same => apart (Part.name_injective same))]
      exact made.amount other
  bootstrapDemo := (flag_congr (elsewhere _ (by cases part <;> decide))).trans made.bootstrapDemo

theorem withAmount_withAmount (amount : Option String) :
    (s.withAmount part amount).withAmount part (s.resources.get part) = s := by
  have same : (s.resources.set amount part).set (s.resources.get part) part = s.resources :=
    ComputeResources.ext_get fun p => by
      simp only [ComputeResources.get_set]
      split <;> simp_all
  simp only [withAmount, same]

/-- Setting an amount makes settings exactly if the text is a quantity and the rest of the
environment makes settings, and then the text is the amount. -/
theorem load_insert_eq_ok_iff (filled : v ≠ "") : load (env.insert part.name v) = .ok s ↔
    Quantity.isWritten v = true ∧
      ∃ rest, load (env.erase part.name) = .ok rest ∧ s = rest.withAmount part (some v) := by
  have elsewhere := value?_insert_eq_erase env part.name filled
  simp only [load_eq_ok_iff]
  constructor
  · intro made
    have here := made.amount part
    rw [quantity_insert filled] at here
    split at here
    · rename_i written
      refine ⟨written, s.withAmount part none,
        made.withAmount (fun name apart => (elsewhere name apart).symm) quantity_erase, ?_⟩
      rw [Except.ok.inj here, withAmount_withAmount]
    · cases here
  · rintro ⟨written, rest, made, rfl⟩
    exact made.withAmount elsewhere (by rw [quantity_insert filled, if_pos written])

/-- A text that is not a quantity is reported with its variable, if that is all that is amiss. -/
theorem load_insert_eq_error (filled : v ≠ "") (loaded : load (env.erase part.name) = .ok rest)
    (malformed : ¬ Quantity.isWritten v = true) :
    load (env.insert part.name v) = .error (.quantity part.name v) := by
  have made := load_eq_ok_iff.mp loaded
  have elsewhere := value?_insert_eq_erase env part.name filled
  have blocked : flag (env.insert part.name v) "GITHUB_BLOCKED" = .ok rest.githubBlocked :=
    (flag_congr (elsewhere _ (by cases part <;> decide))).trans made.githubBlocked
  have here : quantity (env.insert part.name v) part.name = .error (.quantity part.name v) := by
    rw [quantity_insert filled, if_neg malformed]
  have before (q : Part) (apart : q ≠ part) :
      quantity (env.insert part.name v) q.name = .ok (rest.resources.get q) :=
    (quantity_congr (elsewhere _ fun same => apart (Part.name_injective same))).trans
      (made.amount q)
  -- The amounts are read one after the other, so each before the one in question has to be known.
  refine (bind_of_ok blocked).trans ?_
  cases part with
  | limitsCpu => exact bind_of_error here
  | limitsMemory => exact (bind_of_ok (before .limitsCpu nofun)).trans (bind_of_error here)
  | requestsCpu =>
    refine (bind_of_ok (before .limitsCpu nofun)).trans ?_
    exact (bind_of_ok (before .limitsMemory nofun)).trans (bind_of_error here)
  | requestsMemory =>
    refine (bind_of_ok (before .limitsCpu nofun)).trans ?_
    refine (bind_of_ok (before .limitsMemory nofun)).trans ?_
    exact (bind_of_ok (before .requestsCpu nofun)).trans (bind_of_error here)

/-! ### What is accepted -/

/-- A variable with an amount is accepted exactly if its text is a quantity and the rest of the
environment makes settings; the text is then kept as it is. If only the text is amiss it is reported
with its variable. Quantities may have digits of any script, and they are those of the grammar with
the digits of ASCII unless one of their digits is not of ASCII. -/
theorem amount_accepted (env : Dict String String) (part : Part) (filled : v ≠ "") :
    (∀ s, load (env.insert part.name v) = .ok s ↔
      Quantity.Written Text.isDigit v.toList ∧
        ∃ rest, load (env.erase part.name) = .ok rest ∧ s = rest.withAmount part (some v)) ∧
    (∀ rest, load (env.erase part.name) = .ok rest → ¬ Quantity.Written Text.isDigit v.toList →
      load (env.insert part.name v) = .error (.quantity part.name v)) ∧
    (Quantity.Written Char.isDigit v.toList ↔
      Quantity.Written Text.isDigit v.toList ∧ ∀ c ∈ v.toList, Text.isDigit c → c.isDigit) := by
  refine ⟨fun s => ?_, fun rest loaded malformed => ?_, Quantity.written_ascii_iff⟩
  · rw [← Quantity.isWritten_iff]
    exact load_insert_eq_ok_iff filled
  · rw [← Quantity.isWritten_iff] at malformed
    exact load_insert_eq_error filled loaded malformed

/-- A negative fraction with an exponent, and a number with two points. -/
theorem amount_accepted_fractions :
    load (.ofList [("GITHUB_BLOCKED", "true"), ("RESOURCES_REQUESTS_CPU", "-.5E+2")]) =
      .ok { githubBlocked := true, resources := { requestsCpu := some "-.5E+2" } } ∧
    load (.ofList [("GITHUB_BLOCKED", "true"), ("RESOURCES_REQUESTS_CPU", "1..5")]) =
      .error (.quantity "RESOURCES_REQUESTS_CPU" "1..5") := by
  have accepted := amount_accepted (.singleton "GITHUB_BLOCKED" "true") .requestsCpu (v := "-.5E+2")
    (by decide)
  have refused := amount_accepted (.singleton "GITHUB_BLOCKED" "true") .requestsCpu (v := "1..5")
    (by decide)
  have loaded : load ((Dict.singleton "GITHUB_BLOCKED" "true").erase Part.requestsCpu.name) =
      .ok { githubBlocked := true } := by rfl
  refine ⟨(accepted.1 _).mpr ⟨?_, _, loaded, rfl⟩, refused.2.1 _ loaded ?_⟩
  · rw [← Quantity.isWritten_iff]
    decide
  · rw [← Quantity.isWritten_iff]
    decide

/-- A quantity of digits that are not of ASCII. -/
theorem foreign_digits_accepted :
    load (.ofList [("RESOURCES_LIMITS_MEMORY", "\u0662Gi")]) =
        .ok { resources := { limitsMemory := some "\u0662Gi" } } ∧
      ¬ Quantity.Written Char.isDigit "\u0662Gi".toList := by
  refine ⟨by rfl, fun written => ?_⟩
  have ascii := (Quantity.written_ascii_iff.mp written).2 '\u0662' (by decide) (by decide)
  revert ascii
  decide

end Settings

end Provisioner
