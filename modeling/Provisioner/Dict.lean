/-!
# Dictionaries

A dictionary is a list of entries whose keys increase strictly, so equal dictionaries are equal as
values and every traversal goes in the order of the keys. The view of a dictionary is `get?`: the
lemmas at the end say what each operation does to it, and that nothing else tells two dictionaries
apart.
-/

namespace Provisioner

universe u v w

/-- Entries in strictly increasing order of their keys. -/
structure Dict (κ : Type u) (α : Type v) [Ord κ] where
  entries : List (κ × α)
  increasing : entries.Pairwise fun a b => compare a.1 b.1 = .lt

namespace Dict

variable {κ : Type u} {α : Type v} {β : Type w} [Ord κ]

/-- The value of the first entry under `k`. -/
def lookup (k : κ) : List (κ × α) → Option α
  | [] => none
  | (k', a) :: rest => if compare k k' = .eq then some a else lookup k rest

/-- The entries with `k` set to `a`, placed where the order wants it. -/
def place (k : κ) (a : α) : List (κ × α) → List (κ × α)
  | [] => [(k, a)]
  | (k', a') :: rest =>
    match compare k k' with
    | .lt => (k, a) :: (k', a') :: rest
    | .eq => (k, a) :: rest
    | .gt => (k', a') :: place k a rest

def empty : Dict κ α := ⟨[], .nil⟩

instance : EmptyCollection (Dict κ α) := ⟨empty⟩
instance : Inhabited (Dict κ α) := ⟨empty⟩

theorem ext_entries {d e : Dict κ α} (h : d.entries = e.entries) : d = e := by
  cases d; cases e; cases h; rfl

instance [DecidableEq κ] [DecidableEq α] : DecidableEq (Dict κ α) := fun d e =>
  if h : d.entries = e.entries then isTrue (ext_entries h) else isFalse fun he => h (he ▸ rfl)

def get? (d : Dict κ α) (k : κ) : Option α := lookup k d.entries

def contains (d : Dict κ α) (k : κ) : Bool := (d.get? k).isSome

def size (d : Dict κ α) : Nat := d.entries.length

def isEmpty (d : Dict κ α) : Bool := d.entries.isEmpty

def keys (d : Dict κ α) : List κ := d.entries.map (·.1)

def values (d : Dict κ α) : List α := d.entries.map (·.2)

/-- The same keys with `f` applied to each value. -/
def map (f : α → β) (d : Dict κ α) : Dict κ β :=
  ⟨d.entries.map fun e => (e.1, f e.2), List.pairwise_map.2 d.increasing⟩

/-- The entries that `keep` accepts. -/
def filter (keep : κ → α → Bool) (d : Dict κ α) : Dict κ α :=
  ⟨d.entries.filter fun e => keep e.1 e.2, d.increasing.filter _⟩

/-- The dictionary without the entry under `k`. -/
def erase (d : Dict κ α) (k : κ) : Dict κ α := d.filter fun k' _ => compare k k' != .eq

/-- A dictionary with one entry. -/
def singleton (k : κ) (a : α) : Dict κ α := ⟨[(k, a)], List.pairwise_singleton _ _⟩

section Lawful

variable [Std.TransOrd κ]

omit [Std.TransOrd κ] in
theorem mem_place {k : κ} {a : α} {l : List (κ × α)} {e : κ × α} (h : e ∈ place k a l) :
    e = (k, a) ∨ e ∈ l := by
  induction l with
  | nil => simpa [place] using h
  | cons x rest ih =>
    simp only [place] at h
    split at h
    · simpa using h
    · rcases List.mem_cons.1 h with h | h
      · exact .inl h
      · exact .inr (List.mem_cons_of_mem _ h)
    · rcases List.mem_cons.1 h with h | h
      · exact .inr (h ▸ List.mem_cons_self)
      · exact (ih h).imp id (List.mem_cons_of_mem _)

theorem increasing_place (k : κ) (a : α) {l : List (κ × α)}
    (h : l.Pairwise fun a b => compare a.1 b.1 = .lt) :
    (place k a l).Pairwise fun a b => compare a.1 b.1 = .lt := by
  induction l with
  | nil => exact List.pairwise_singleton _ _
  | cons x rest ih =>
    have hx := (List.pairwise_cons.1 h).1
    have hrest := (List.pairwise_cons.1 h).2
    simp only [place]
    split
    · rename_i hlt
      refine List.pairwise_cons.2 ⟨fun e he => ?_, h⟩
      rcases List.mem_cons.1 he with rfl | he
      · exact hlt
      · exact Std.TransCmp.lt_trans hlt (hx e he)
    · rename_i heq
      exact List.pairwise_cons.2
        ⟨fun e he => Std.TransCmp.lt_of_eq_of_lt heq (hx e he), hrest⟩
    · rename_i hgt
      refine List.pairwise_cons.2 ⟨fun e he => ?_, ih hrest⟩
      rcases mem_place he with rfl | he
      · exact Std.OrientedCmp.gt_iff_lt.1 hgt
      · exact hx e he

/-- The dictionary with `k` set to `a`. -/
def insert (d : Dict κ α) (k : κ) (a : α) : Dict κ α :=
  ⟨place k a d.entries, increasing_place k a d.increasing⟩

/-- The dictionary of a list of entries; a later entry replaces an earlier one under its key. -/
def ofList (l : List (κ × α)) : Dict κ α := l.foldl (fun d e => d.insert e.1 e.2) ∅

/-- The entries of both dictionaries, those of `e` winning. -/
def overlay (d e : Dict κ α) : Dict κ α := e.entries.foldl (fun d x => d.insert x.1 x.2) d

end Lawful

section Views

variable [Std.TransOrd κ] [Std.LawfulEqOrd κ] [DecidableEq κ]

omit [Std.TransOrd κ] [DecidableEq κ] in
theorem lookup_eq_some_iff {k : κ} {a : α} {l : List (κ × α)}
    (h : l.Pairwise fun a b => compare a.1 b.1 = .lt) : lookup k l = some a ↔ (k, a) ∈ l := by
  induction l with
  | nil => simp [lookup]
  | cons x rest ih =>
    have hx := (List.pairwise_cons.1 h).1
    obtain ⟨k', a'⟩ := x
    simp only [lookup, List.mem_cons]
    split
    · rename_i heq
      have hk : k = k' := Std.LawfulEqOrd.eq_of_compare heq
      subst hk
      constructor
      · rintro ⟨⟩
        exact .inl rfl
      · rintro (he | he)
        · cases he; rfl
        · have := hx _ he
          simp [Std.ReflCmp.compare_self] at this
    · rename_i hne
      rw [ih (List.pairwise_cons.1 h).2]
      constructor
      · exact .inr
      · rintro (he | he)
        · cases he
          simp [Std.ReflCmp.compare_self] at hne
        · exact he

omit [Std.TransOrd κ] [DecidableEq κ] in
theorem get?_eq_some_iff {d : Dict κ α} {k : κ} {a : α} : d.get? k = some a ↔ (k, a) ∈ d.entries :=
  lookup_eq_some_iff d.increasing

omit [Std.TransOrd κ] [Std.LawfulEqOrd κ] [DecidableEq κ] in
@[simp] theorem get?_empty (k : κ) : (∅ : Dict κ α).get? k = none := rfl

omit [Std.TransOrd κ] in
theorem lookup_place (k k' : κ) (a : α) (l : List (κ × α)) :
    lookup k' (place k a l) = if k' = k then some a else lookup k' l := by
  induction l with
  | nil =>
    by_cases h : k' = k
    · simp [place, lookup, h, Std.ReflCmp.compare_self]
    · simp [place, lookup, h, mt Std.LawfulEqOrd.eq_of_compare h]
  | cons x rest ih =>
    obtain ⟨k₁, a₁⟩ := x
    simp only [place]
    split
    · by_cases h : k' = k
      · simp [lookup, h, Std.ReflCmp.compare_self]
      · simp [lookup, h, mt Std.LawfulEqOrd.eq_of_compare h]
    · rename_i heq
      have hk : k = k₁ := Std.LawfulEqOrd.eq_of_compare heq
      subst hk
      by_cases h : k' = k
      · simp [lookup, h, Std.ReflCmp.compare_self]
      · simp [lookup, h, mt Std.LawfulEqOrd.eq_of_compare h]
    · rename_i hgt
      by_cases h : k' = k
      · subst h
        simp [lookup, hgt, ih]
      · by_cases h₁ : compare k' k₁ = .eq
        · simp [lookup, h₁, h]
        · simp [lookup, h₁, h, ih]

omit [Std.TransOrd κ] in
@[simp] theorem get?_singleton (k k' : κ) (a : α) :
    (singleton k a).get? k' = if k' = k then some a else none :=
  lookup_place k k' a []

@[simp] theorem get?_insert (d : Dict κ α) (k k' : κ) (a : α) :
    (d.insert k a).get? k' = if k' = k then some a else d.get? k' :=
  lookup_place k k' a d.entries

omit [DecidableEq κ] in
/-- Dictionaries that answer every lookup alike are equal. -/
theorem ext_get? {d e : Dict κ α} (h : ∀ k, d.get? k = e.get? k) : d = e := by
  apply ext_entries
  have mem : ∀ x, x ∈ d.entries ↔ x ∈ e.entries := fun ⟨k, a⟩ => by
    rw [← get?_eq_some_iff, ← get?_eq_some_iff, h]
  obtain ⟨l, hl⟩ := d
  obtain ⟨m, hm⟩ := e
  simp only at mem ⊢
  clear h
  have irrefl : ∀ k : κ, compare k k ≠ .lt := fun k => by simp [Std.ReflCmp.compare_self]
  have asymm : ∀ {j k : κ}, compare j k = .lt → compare k j ≠ .lt := fun hjk hkj =>
    irrefl _ (Std.TransCmp.lt_trans hjk hkj)
  induction l generalizing m with
  | nil =>
    cases m with
    | nil => rfl
    | cons y m => exact absurd ((mem y).2 List.mem_cons_self) (by simp)
  | cons x l ih =>
    cases m with
    | nil => exact absurd ((mem x).1 List.mem_cons_self) (by simp)
    | cons y m =>
      have hx := List.pairwise_cons.1 hl
      have hy := List.pairwise_cons.1 hm
      have hxy : x = y := by
        rcases List.mem_cons.1 ((mem x).1 List.mem_cons_self) with h | h
        · exact h
        · rcases List.mem_cons.1 ((mem y).2 List.mem_cons_self) with h' | h'
          · exact h'.symm
          · exact absurd (hy.1 _ h) (asymm (hx.1 _ h'))
      subst hxy
      congr 1
      refine ih hx.2 _ hy.2 fun z => ?_
      constructor
      · intro hz
        rcases List.mem_cons.1 ((mem z).1 (List.mem_cons_of_mem _ hz)) with rfl | h
        · exact absurd (hx.1 _ hz) (irrefl _)
        · exact h
      · intro hz
        rcases List.mem_cons.1 ((mem z).2 (List.mem_cons_of_mem _ hz)) with rfl | h
        · exact absurd (hy.1 _ hz) (irrefl _)
        · exact h

omit [Std.TransOrd κ] in
@[simp] theorem get?_erase (d : Dict κ α) (k k' : κ) :
    (d.erase k).get? k' = if k' = k then none else d.get? k' := by
  apply Option.ext
  intro a
  rw [get?_eq_some_iff]
  by_cases h : k' = k
  · simp [erase, filter, h, Std.ReflCmp.compare_self]
  · simp [erase, filter, h, get?_eq_some_iff, mt (fun e => (Std.LawfulEqOrd.eq_of_compare e).symm) h]

omit [Std.TransOrd κ] [Std.LawfulEqOrd κ] [DecidableEq κ] in
@[simp] theorem get?_map (f : α → β) (d : Dict κ α) (k : κ) :
    (d.map f).get? k = (d.get? k).map f := by
  obtain ⟨l, hl⟩ := d
  simp only [get?, map]
  clear hl
  induction l with
  | nil => rfl
  | cons x rest ih => by_cases h : compare k x.1 = .eq <;> simp [lookup, h, ih]

omit [Std.TransOrd κ] [DecidableEq κ] in
theorem mem_keys_iff {d : Dict κ α} {k : κ} : k ∈ d.keys ↔ (d.get? k).isSome := by
  rw [Option.isSome_iff_exists, keys, List.mem_map]
  constructor
  · rintro ⟨⟨k', a⟩, listed, rfl⟩
    exact ⟨a, get?_eq_some_iff.2 listed⟩
  · rintro ⟨a, held⟩
    exact ⟨(k, a), get?_eq_some_iff.1 held, rfl⟩

omit [Std.LawfulEqOrd κ] [DecidableEq κ] in
theorem nodup_keys (d : Dict κ α) : d.keys.Nodup := by
  refine List.pairwise_map.2 (d.increasing.imp fun {a b} below same => ?_)
  simp [same, Std.ReflCmp.compare_self] at below

end Views

end Dict

end Provisioner
