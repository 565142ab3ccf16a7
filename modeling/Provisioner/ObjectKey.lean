import Provisioner.Kind

/-!
# Keys of objects

A key names one object: its kind, its namespace (empty for objects of the whole cluster) and its
name. A request names an object without its kind. The written form of a key is its parts with
slashes between them; a name may hold slashes, a kind and a namespace may not.
-/

namespace Provisioner

/-- Namespace and name of the object to look at. -/
structure Request where
  ns : String
  name : String
  deriving DecidableEq, Repr, Inhabited

structure ObjectKey where
  kind : Kind
  ns : String
  name : String
  deriving DecidableEq, Repr, Inhabited

/-- Compares by one part and, where that is equal, by another. -/
def compareThen {α : Type} (first second : α → α → Ordering) (a b : α) : Ordering :=
  (first a b).then (second a b)

theorem transCmp_compareThen {α : Type} (first second : α → α → Ordering)
    [Std.TransCmp first] [Std.TransCmp second] : Std.TransCmp (compareThen first second) :=
  inferInstanceAs (Std.TransCmp (compareLex first second))

namespace Request

def text (r : Request) : String := r.ns ++ "/" ++ r.name

/-- The key of the object of some kind that is asked for. -/
def key (r : Request) (kind : Kind) : ObjectKey := ⟨kind, r.ns, r.name⟩

instance : Ord Request := ⟨compareThen (compareOn ns) (compareOn name)⟩

instance : Std.TransOrd Request := transCmp_compareThen (compareOn ns) (compareOn name)

instance : Std.LawfulEqOrd Request where
  eq_of_compare {a b} h := by
    obtain ⟨h₁, h₂⟩ := Ordering.then_eq_eq.1 h
    have h₁ : a.ns = b.ns := Std.LawfulEqOrd.eq_of_compare h₁
    have h₂ : a.name = b.name := Std.LawfulEqOrd.eq_of_compare h₂
    cases a; cases b
    simp_all

end Request

namespace ObjectKey

def text (k : ObjectKey) : String := k.kind.name ++ "/" ++ k.ns ++ "/" ++ k.name

/-- The request for the object under the key. -/
def request (k : ObjectKey) : Request := ⟨k.ns, k.name⟩

instance : Ord ObjectKey :=
  ⟨compareThen (compareOn kind) (compareThen (compareOn ns) (compareOn name))⟩

instance : Std.TransOrd ObjectKey :=
  have := transCmp_compareThen (compareOn ns) (compareOn ObjectKey.name)
  transCmp_compareThen (compareOn kind) (compareThen (compareOn ns) (compareOn name))

instance : Std.LawfulEqOrd ObjectKey where
  eq_of_compare {a b} h := by
    obtain ⟨h₀, h⟩ := Ordering.then_eq_eq.1 h
    obtain ⟨h₁, h₂⟩ := Ordering.then_eq_eq.1 h
    have h₀ : a.kind = b.kind := Std.LawfulEqOrd.eq_of_compare h₀
    have h₁ : a.ns = b.ns := Std.LawfulEqOrd.eq_of_compare h₁
    have h₂ : a.name = b.name := Std.LawfulEqOrd.eq_of_compare h₂
    cases a; cases b
    simp_all

/-- Why a text is not a key. -/
inductive Fault
  | malformed (text : String)
  | unknownKind (name : String)
  deriving DecidableEq

def Fault.message : Fault → String
  | .malformed text => "malformed object key " ++ Text.quoted text
  | .unknownKind name => Kind.unknownMessage name

/-- The characters before the first slash and those after it. -/
def splitAtSlash : List Char → Option (List Char × List Char)
  | [] => none
  | '/' :: rest => some ([], rest)
  | c :: rest => (splitAtSlash rest).map fun p => (c :: p.1, p.2)

/-- The key of a written form: a kind, a namespace that may be empty and a name that may not. -/
def parse (s : String) : Except Fault ObjectKey :=
  match splitAtSlash s.toList with
  | none => .error (.malformed s)
  | some (kind, rest) =>
    match splitAtSlash rest with
    | none => .error (.malformed s)
    | some (ns, name) =>
      if name.isEmpty then .error (.malformed s)
      else
        match Kind.ofName? (String.ofList kind) with
        | none => .error (.unknownKind (String.ofList kind))
        | some kind => .ok ⟨kind, String.ofList ns, String.ofList name⟩

end ObjectKey

end Provisioner
