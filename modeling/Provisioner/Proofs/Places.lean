import Provisioner.Proofs.WrittenForm

/-!
Places in a document. A path says which members and elements to go down. Setting the value at one
place leaves the values at all others alone, where the places on the way to it and those inside it
do not count as others. In documents with their members in order that says what the document is
afterwards.
-/

namespace Provisioner.Json

/-- One step down in a document. -/
inductive Step
  | member (name : String)
  | element (index : Nat)
  deriving DecidableEq

/-- What stands one step down. -/
def child? : Json → Step → Option Json
  | .obj members, .member name => Dict.lookup name members
  | .arr elements, .element index => elements[index]?
  | _, _ => none

/-- What stands at the end of a path. -/
def at? : Json → List Step → Option Json
  | v, [] => some v
  | v, step :: rest => (v.child? step).bind fun child => child.at? rest

variable {v w w' value : Json} {v? : Option Json} {path : List Step} {step : Step} {name : String}
  {members : List (String × Json)} {elements : List Json}

/-- The document `w` has a value at the end of a path, and at every place that is neither on the way
there nor inside it what `v?` has, if that is a document at all, and nothing else. -/
structure PlacedAt (path : List Step) (value : Json) (v? : Option Json) (w : Json) : Prop where
  here : w.at? path = some value
  elsewhere : ∀ other, ¬ path <+: other → ¬ other <+: path →
    w.at? other = v?.bind fun v => v.at? other

namespace PlacedAt

theorem root (value : Json) (v? : Option Json) : PlacedAt [] value v? value :=
  ⟨rfl, fun _ apart => absurd (List.nil_prefix ..) apart⟩

/-- Setting a value inside a child, and leaving the other children alone. -/
theorem cons (placed : PlacedAt path value (v?.bind fun v => v.child? step) w')
    (child : w.child? step = some w')
    (others : ∀ other, other ≠ step → w.child? other = v?.bind fun v => v.child? other) :
    PlacedAt (step :: path) value v? w where
  here := by
    rw [at?, child]
    exact placed.here
  elsewhere
    | [], _, apart => absurd (List.nil_prefix ..) apart
    | first :: rest, before, after => by
      by_cases same : first = step
      · subst same
        have inside := placed.elsewhere rest
          (fun below => before ((List.prefix_cons_inj first).mpr below))
          (fun above => after ((List.prefix_cons_inj first).mpr above))
        simp only [at?, child, Option.bind_some]
        rw [inside]
        cases v? <;> rfl
      · simp only [at?, others first same]
        cases v? <;> rfl

/-- What stands in a child of the one stands in that child of the other. -/
theorem inside (placed : PlacedAt (step :: path) value v? w) :
    ∃ w', w.child? step = some w' ∧ PlacedAt path value (v?.bind fun v => v.child? step) w' := by
  obtain ⟨w', child, here⟩ := Option.bind_eq_some_iff.mp placed.here
  refine ⟨w', child, here, fun other before after => ?_⟩
  have there := placed.elsewhere (step :: other)
    (fun below => before ((List.prefix_cons_inj step).mp below))
    (fun above => after ((List.prefix_cons_inj step).mp above))
  simp only [at?, child, Option.bind_some] at there
  rw [there]
  cases v? <;> rfl

theorem others (placed : PlacedAt (step :: path) value v? w) {other : Step} (apart : other ≠ step) :
    w.child? other = v?.bind fun v => v.child? other := by
  have there := placed.elsewhere [other]
    (fun before => apart (List.cons_prefix_cons.mp before).1.symm)
    (fun after => apart (List.cons_prefix_cons.mp after).1)
  simpa [at?] using there

/-- An empty object or list has nothing that could be left alone. -/
theorem of_childless (placed : PlacedAt path value (some v) w)
    (childless : ∀ step, v.child? step = none) : PlacedAt path value none w where
  here := placed.here
  elsewhere
    | [], _, apart => absurd (List.nil_prefix ..) apart
    | first :: rest, before, after => by
      simpa [at?, childless first] using placed.elsewhere (first :: rest) before after

theorem setMember (placed : PlacedAt path value (Dict.lookup name members) w) :
    PlacedAt (.member name :: path) value (some (.obj members))
      ((Json.obj members).setMember name w) := by
  refine cons placed ?_ fun other apart => ?_
  · exact (Dict.lookup_place ..).trans (if_pos rfl)
  · cases other with
    | element index => rfl
    | member other =>
      exact (Dict.lookup_place ..).trans (if_neg fun same => apart (congrArg _ same))

theorem setFirst (placed : PlacedAt path value elements.head? w) :
    PlacedAt (.element 0 :: path) value (some (.arr elements)) (.arr (w :: elements.tail)) := by
  have first : PlacedAt path value ((Json.arr elements).child? (.element 0)) w := by
    rwa [child?, ← List.head?_eq_getElem?]
  refine cons first rfl fun other apart => ?_
  cases other with
  | member name => rfl
  | element index =>
    obtain ⟨index, rfl⟩ : ∃ i, index = i + 1 :=
      Nat.exists_eq_succ_of_ne_zero fun zero => apart (congrArg _ zero)
    simp [child?]

end PlacedAt

/-! ### Documents in order -/

/-- In every object of the document the names of the members increase. -/
inductive Ordered : Json → Prop
  | null : Ordered .null
  | bool (b : Bool) : Ordered (.bool b)
  | num (n : Number) : Ordered (.num n)
  | str (s : String) : Ordered (.str s)
  | arr {elements : List Json} (each : ∀ v ∈ elements, Ordered v) : Ordered (.arr elements)
  | obj {members : List (String × Json)}
    (increasing : members.Pairwise fun a b => compare a.1 b.1 = .lt)
    (each : ∀ m ∈ members, Ordered m.2) : Ordered (.obj members)

theorem ordered_ofMembers (each : ∀ m ∈ members, Ordered m.2) : (ofMembers members).Ordered :=
  .obj (Dict.ofList members).increasing fun m listed =>
    each m (Dict.mem_of_get?_ofList (Dict.get?_eq_some_iff.mpr listed))

mutual

theorem ordered_canonical : ∀ v : Json, v.canonical.Ordered
  | .null => .null
  | .bool b => .bool b
  | .num n => .num n
  | .str s => .str s
  | .arr elements => by
    rw [canonical]
    exact .arr (ordered_canonicalElements elements)
  | .obj members => by
    rw [canonical]
    exact ordered_ofMembers (ordered_canonicalMembers members)

private theorem ordered_canonicalElements : ∀ elements, ∀ v ∈ canonicalElements elements, Ordered v
  | v :: rest, w, listed => by
    rcases List.mem_cons.mp listed with rfl | listed
    · exact ordered_canonical v
    · exact ordered_canonicalElements rest w listed

private theorem ordered_canonicalMembers :
    ∀ members, ∀ m ∈ canonicalMembers members, Ordered m.2
  | (_, v) :: rest, m, listed => by
    rcases List.mem_cons.mp listed with rfl | listed
    · exact ordered_canonical v
    · exact ordered_canonicalMembers rest m listed

end

namespace Ordered

theorem child (ordered : v.Ordered) (found : v.child? step = some w) : w.Ordered := by
  cases ordered with
  | arr each =>
    cases step with
    | member name => cases found
    | element index => exact each w (List.mem_of_getElem? found)
  | obj increasing each =>
    cases step with
    | member name => exact each _ ((Dict.lookup_eq_some_iff increasing).mp found)
    | element index => cases found
  | _ => cases step <;> cases found

theorem member (ordered : v.Ordered) (found : v.member? name = some w) : w.Ordered := by
  cases v with
  | obj members =>
    have below : (Json.obj members).child? (.member name) = some w := found
    exact ordered.child below
  | _ => cases found

theorem setMember (ordered : v.Ordered) (other : w.Ordered) : (v.setMember name w).Ordered := by
  cases ordered with
  | obj increasing each =>
    refine .obj (Dict.increasing_place name w increasing) fun m listed => ?_
    rcases Dict.mem_place listed with rfl | listed
    · exact other
    · exact each m listed
  | null => exact .null
  | bool b => exact .bool b
  | num n => exact .num n
  | str s => exact .str s
  | arr each => exact .arr each

/-- Documents that are not empty are told by what stands one step down in them. -/
theorem eq_of_child? (ordered : w.Ordered) (ordered' : w'.Ordered)
    (below : (w.child? step).isSome) (alike : ∀ step, w.child? step = w'.child? step) :
    w = w' := by
  have below' : (w'.child? step).isSome := alike step ▸ below
  cases step with
  | member name =>
    cases ordered with
    | obj increasing each =>
      cases ordered' with
      | obj increasing' each' =>
        have same : (⟨_, increasing⟩ : Dict String Json) = ⟨_, increasing'⟩ :=
          Dict.ext_get? fun name => alike (.member name)
        exact congrArg (fun d : Dict String Json => Json.obj d.entries) same
      | _ => cases below'
    | _ => cases below
  | element index =>
    cases ordered with
    | arr each =>
      cases ordered' with
      | arr each' => exact congrArg _ (List.ext_getElem? fun index => alike (.element index))
      | _ => cases below'
    | _ => cases below

end Ordered

/-- There is only one document in order with the value at the place and the rest as it was. -/
theorem PlacedAt.unique (placed : PlacedAt path value v? w) (placed' : PlacedAt path value v? w')
    (ordered : w.Ordered) (ordered' : w'.Ordered) : w = w' := by
  induction path generalizing v? w w' with
  | nil => exact Option.some.inj (placed.here.trans placed'.here.symm)
  | cons step path ih =>
    obtain ⟨x, child, inside⟩ := placed.inside
    obtain ⟨x', child', inside'⟩ := placed'.inside
    have same : x = x' := ih inside inside' (ordered.child child) (ordered'.child child')
    have below : (w.child? step).isSome := Option.isSome_of_mem child
    refine ordered.eq_of_child? ordered' below fun other => ?_
    by_cases here : other = step
    · rw [here, child, child', same]
    · rw [placed.others here, placed'.others here]

end Provisioner.Json
