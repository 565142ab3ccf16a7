import Provisioner.ObjectKey

/-!
The written form of a key. A text is read as a key exactly if it is the written form of one whose
namespace has no slash and whose name is not empty, and of no other such key. A slash in a namespace
would be taken for the one that ends it; slashes in a name are harmless, as the name is all that
comes after the second slash.
-/

namespace Provisioner

variable {s : String} {k : ObjectKey}

theorem Kind.slash_not_mem_name (kind : Kind) : '/' ∉ kind.name.toList := by cases kind <;> decide

namespace ObjectKey

/-- A text is split at the first of its slashes. -/
theorem splitAtSlash_eq_some_iff {cs before after : List Char} :
    splitAtSlash cs = some (before, after) ↔ cs = before ++ '/' :: after ∧ '/' ∉ before := by
  fun_induction splitAtSlash cs generalizing before with
  | case1 => simp
  | case2 rest =>
    cases before with
    | nil => simp [eq_comm]
    | cons c before => simp +contextual [eq_comm]
  | case3 c rest other ih =>
    have other : c ≠ '/' := other
    cases before with
    | nil => simp [other]
    | cons d before =>
      simp only [Option.map_eq_some_iff, Prod.exists, Prod.mk.injEq, List.cons_append,
        List.cons.injEq, List.mem_cons, not_or]
      constructor
      · rintro ⟨_, _, split, ⟨rfl, rfl⟩, rfl⟩
        obtain ⟨whole, plain⟩ := ih.mp split
        exact ⟨⟨rfl, whole⟩, other.symm, plain⟩
      · rintro ⟨⟨rfl, whole⟩, -, plain⟩
        exact ⟨_, _, ih.mpr ⟨whole, plain⟩, ⟨rfl, rfl⟩, rfl⟩

theorem splitAtSlash_append {before : List Char} (after : List Char) (plain : '/' ∉ before) :
    splitAtSlash (before ++ '/' :: after) = some (before, after) :=
  splitAtSlash_eq_some_iff.mpr ⟨rfl, plain⟩

theorem toList_text (k : ObjectKey) :
    k.text.toList = k.kind.name.toList ++ '/' :: (k.ns.toList ++ '/' :: k.name.toList) := by
  simp [text, String.toList_append]

/-- The written form of a key is read as the key, unless its namespace has a slash or its name is
empty. -/
theorem parse_text (plain : '/' ∉ k.ns.toList) (named : k.name ≠ "") : parse k.text = .ok k := by
  have filled : k.name.toList.isEmpty = false := by simpa [List.isEmpty_eq_false_iff] using named
  simp [parse, toList_text, splitAtSlash_append _ k.kind.slash_not_mem_name,
    splitAtSlash_append _ plain, filled, Kind.ofName?_name]

/-- What is read as a key is the written form of that key. -/
theorem eq_text_of_parse (read : parse s = .ok k) :
    s = k.text ∧ '/' ∉ k.ns.toList ∧ k.name ≠ "" := by
  unfold parse at read
  split at read
  · cases read
  · rename_i kind rest atKind
    split at read
    · cases read
    · rename_i ns name atNs
      obtain ⟨whole, -⟩ := splitAtSlash_eq_some_iff.mp atKind
      obtain ⟨rfl, plain⟩ := splitAtSlash_eq_some_iff.mp atNs
      split at read
      · cases read
      · rename_i named
        split at read
        · cases read
        · rename_i known
          cases read
          refine ⟨String.toList_injective ?_, by simpa using plain, fun empty => named ?_⟩
          · rw [toList_text, whole, ← Kind.ofName?_eq_some_iff.mp known]
            simp
          · simpa using empty

theorem parse_eq_ok_iff : parse s = .ok k ↔ s = k.text ∧ '/' ∉ k.ns.toList ∧ k.name ≠ "" := by
  constructor
  · exact eq_text_of_parse
  · rintro ⟨rfl, plain, named⟩
    exact parse_text plain named

/-- Keys with names and without slashes in their namespaces are told apart by their written
forms. -/
theorem eq_of_text {j : ObjectKey} (plain : '/' ∉ j.ns.toList ∧ '/' ∉ k.ns.toList)
    (named : j.name ≠ "" ∧ k.name ≠ "") (same : j.text = k.text) : j = k :=
  Except.ok.inj ((parse_text plain.1 named.1).symm.trans (same ▸ parse_text plain.2 named.2))

/-- Without that condition they are not: a slash in a namespace is taken for the one after it. -/
example : ObjectKey.text ⟨.secret, "a/b", "c"⟩ = ObjectKey.text ⟨.secret, "a", "b/c"⟩ := by decide

/-- Exactly the texts of a kind, a namespace without slashes and a name that is not empty are read
as keys. Writing such a key gives the text back, reading the written form of a key gives the key
back, and nothing but the kind is lost in a request for it. -/
theorem text_round_trip :
    (∀ s, (∃ k, parse s = .ok k) ↔ ∃ (kind : Kind) (ns name : String),
      s = kind.name ++ "/" ++ ns ++ "/" ++ name ∧ '/' ∉ ns.toList ∧ name ≠ "") ∧
    (∀ s k, parse s = .ok k → k.text = s) ∧
    ∀ k : ObjectKey, (parse k.text = .ok k ↔ '/' ∉ k.ns.toList ∧ k.name ≠ "") ∧
      k.request.key k.kind = k := by
  refine ⟨fun s => ?_, fun s k read => (eq_text_of_parse read).1.symm, fun k => ⟨?_, rfl⟩⟩
  · constructor
    · rintro ⟨k, read⟩
      exact ⟨k.kind, k.ns, k.name, eq_text_of_parse read⟩
    · rintro ⟨kind, ns, name, written⟩
      exact ⟨⟨kind, ns, name⟩, parse_eq_ok_iff.mpr written⟩
  · rw [parse_eq_ok_iff, eq_self, true_and]

/-- An object of the whole cluster with slashes in its name. -/
theorem text_round_trip_cluster :
    parse "ClusterRole//system/node" = .ok ⟨.clusterRole, "", "system/node"⟩ ∧
      ObjectKey.text ⟨.clusterRole, "", "system/node"⟩ = "ClusterRole//system/node" := by
  have read : parse "ClusterRole//system/node" = .ok ⟨.clusterRole, "", "system/node"⟩ :=
    (text_round_trip.2.2 ⟨.clusterRole, "", "system/node"⟩).1.mpr ⟨by decide, by decide⟩
  exact ⟨read, text_round_trip.2.1 _ _ read⟩

end ObjectKey

end Provisioner
