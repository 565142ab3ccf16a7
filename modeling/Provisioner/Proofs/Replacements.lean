import Provisioner.Proofs.Encodings
import Provisioner.Terraform.Replacement

/-!
A source on GitHub is replaced once. Whatever segment of a path is put after the address of the
other repositories, the text is a URL of the other host: what ends the host comes before the
segment, and of what comes after it only white space at the end of the text and line breaks are
passed over. So a replacement is not replaced again, and it differs from what it replaces.
-/

namespace Provisioner

namespace Url

section Drop

variable {p : Char → Bool} {front : List Char} (apart : ∀ c ∈ front, p c = false)
include apart

private theorem dropWhile_append_of_none (filled : front ≠ []) (rest : List Char) :
    (front ++ rest).dropWhile p = front ++ rest := by
  obtain ⟨c, cs, rfl⟩ := List.exists_cons_of_ne_nil filled
  rw [List.cons_append, List.dropWhile_cons_of_neg]
  simp [apart c List.mem_cons_self]

private theorem dropWhile_of_none : front.dropWhile p = front := by
  cases front with
  | nil => rfl
  | cons c rest => simp [apart c List.mem_cons_self]

/-- What is dropped from the end of a text does not go beyond what has nothing of the kind. -/
private theorem reverse_dropWhile_append_of_none (rest : List Char) :
    ((front ++ rest).reverse.dropWhile p).reverse = front ++ (rest.reverse.dropWhile p).reverse := by
  have kept : front.reverse.dropWhile p = front.reverse :=
    dropWhile_of_none fun c listed => apart c (List.mem_reverse.mp listed)
  rw [List.reverse_append, List.dropWhile_append, kept]
  split
  · rename_i passed
    simp [List.isEmpty_iff.mp passed]
  · simp

end Drop

/-- What is passed over in a text stands behind a front of it that has nothing of the kind. -/
theorem significant_append {front : String} (filled : front ≠ "")
    (plain : ∀ c ∈ front.toList, 0x20 < c.toNat) (s : String) :
    ∃ rest, significant (front ++ s) = front.toList ++ rest := by
  have apart : ∀ c ∈ front.toList, decide (c.toNat ≤ 0x20) = false := by simpa using plain
  have unbroken : ∀ c ∈ front.toList, (c ≠ '\t' && c ≠ '\n' && c ≠ '\r') = true := by
    intro c listed
    have above := plain c listed
    simp only [Bool.and_eq_true, decide_eq_true_eq]
    refine ⟨⟨?_, ?_⟩, ?_⟩ <;> rintro rfl <;> exact absurd above (by decide)
  refine ⟨(s.toList.reverse.dropWhile fun c => decide (c.toNat ≤ 0x20)).reverse.filter
    fun c => c ≠ '\t' && c ≠ '\n' && c ≠ '\r', ?_⟩
  dsimp only [significant]
  rw [String.toList_append, dropWhile_append_of_none apart (mt String.toList_eq_nil_iff.mp filled),
    reverse_dropWhile_append_of_none apart, List.filter_append, List.filter_eq_self.mpr unbroken]

/-- Nothing is encoded in a text without a percent sign. -/
theorem percentDecoded_of_not_mem {cs : List Char} (plain : '%' ∉ cs) :
    percentDecoded cs = Text.utf8 (String.ofList cs) := by
  induction cs with
  | nil => exact Text.utf8_empty.symm
  | cons c rest ih =>
    rw [List.mem_cons, not_or] at plain
    have step : percentDecoded (c :: rest) = Text.utf8 c.toString ++ percentDecoded rest := by
      rw [percentDecoded]
      rintro a b after rfl
      exact absurd rfl plain.1
    rw [step, ih plain.2, ← Text.utf8_append]
    congr 1
    exact String.toList_injective (by simp)

theorem specialHost_gitee : specialHost "gitee.com".toList = .ok (some "gitee.com") := by
  have name : Text.ofUtf8? (percentDecoded "gitee.com".toList) = some "gitee.com" := by
    rw [percentDecoded_of_not_mem (by decide), Text.ofUtf8?_utf8, String.ofList_toList]
  have form : domainForm? (percentDecoded "gitee.com".toList) = some "gitee.com" := by
    unfold domainForm?
    rw [name]
    rfl
  unfold specialHost
  split
  · rename_i bracket
    simp at bracket
  · rw [form]
    rfl

/-- An authority that is the other host and nothing more. -/
theorem fromAuthority_gitee (rest : List Char) : fromAuthority .web ("gitee.com/".toList ++ rest) =
    .ok (.of (some "gitee.com") (Path.of .web ('/' :: rest))) := by
  have whole : fromAuthority .web ("gitee.com/".toList ++ rest) = (do
      let domain ← specialHost "gitee.com".toList
      return .of (domain.filter (· ≠ "")) (Path.of .web ('/' :: rest))) := rfl
  rw [whole, specialHost_gitee]
  rfl

/-- Every text behind the address of the other host is a URL with that host. -/
theorem parse_gitee (path : String) :
    ∃ u, parse ("https://gitee.com/" ++ path) = .ok u ∧ u.domain = some "gitee.com" := by
  obtain ⟨rest, whole⟩ : ∃ rest, significant ("https://gitee.com/" ++ path) =
      "https://gitee.com/".toList ++ rest := significant_append (by decide) (by simp) path
  refine ⟨.of (some "gitee.com") (Path.of .web ('/' :: rest)), ?_, rfl⟩
  unfold parse
  rw [whole]
  exact fromAuthority_gitee rest

end Url

namespace Terraform

open Url (Parts)

variable {r name : String} {u : Parts}

/-- The last segment of the path that is not empty. -/
def EndsIn (u : Parts) (name : String) : Prop :=
  ∃ before after, u.segments = before ++ name :: after ∧ name ≠ "" ∧ ∀ s ∈ after, s = ""

/-- A source on GitHub, in the repository of some name. -/
def OnGitHub (r name : String) : Prop :=
  ∃ u, Url.parse r = .ok u ∧ u.domain = some "github.com" ∧ EndsIn u name

theorem repository?_eq_some_iff : repository? u = some name ↔ EndsIn u name := by
  unfold repository?
  rw [List.getLast?_eq_some_iff]
  constructor
  · rintro ⟨_, kept⟩
    obtain ⟨first, last, whole, -, kept⟩ := List.filter_eq_append_iff.mp kept
    obtain ⟨between, after, rfl, -, filled, empty⟩ := List.filter_eq_cons_iff.mp kept
    refine ⟨first ++ between, after, ?_, by simpa using filled, fun s listed => ?_⟩
    · rw [whole, List.append_assoc]
    · simpa using List.filter_eq_nil_iff.mp empty s listed
  · rintro ⟨before, after, whole, filled, empty⟩
    exact ⟨before.filter (· ≠ ""), by simpa [whole, filled] using empty⟩

theorem repository?_eq_none_iff : repository? u = none ↔ ∀ s ∈ u.segments, s = "" := by
  simp [repository?]

/-- A path has a last segment that is not empty if it has any. -/
theorem exists_endsIn_iff : (∃ name, EndsIn u name) ↔ ∃ s ∈ u.segments, s ≠ "" := by
  simp only [← repository?_eq_some_iff, ← Option.ne_none_iff_exists', ne_eq,
    repository?_eq_none_iff, Classical.not_forall, exists_prop]

theorem replaceSource_of_onGitHub (found : OnGitHub r name) :
    replaceSource r true = replacementHost ++ "/" ++ name := by
  obtain ⟨u, read, host, ends⟩ := found
  simp [replaceSource, read, host, repository?_eq_some_iff.mpr ends]

theorem replaceSource_of_not_onGitHub (elsewhere : ∀ name, ¬ OnGitHub r name) :
    replaceSource r true = r := by
  unfold replaceSource
  simp only [if_true]
  split
  · rfl
  · rename_i u read
    split
    · rename_i host
      split
      · rename_i name ends
        exact absurd ⟨u, read, host, repository?_eq_some_iff.mp ends⟩ (elsewhere name)
      · rfl
    · rfl

theorem parse_replacement (name : String) : ∃ u,
    Url.parse (replacementHost ++ "/" ++ name) = .ok u ∧ u.domain = some "gitee.com" := by
  have whole : replacementHost ++ "/" ++ name =
      "https://gitee.com/" ++ ("kubevela-terraform-modules/" ++ name) := by
    rw [← String.append_assoc]
    rfl
  rw [whole]
  exact Url.parse_gitee _

/-- A replacement is not on GitHub. -/
theorem not_onGitHub_replacement (name name' : String) :
    ¬ OnGitHub (replacementHost ++ "/" ++ name) name' := by
  rintro ⟨u, read, host, -⟩
  obtain ⟨u', read', host'⟩ := parse_replacement name
  cases read.symm.trans read'
  rw [host] at host'
  revert host'
  decide

theorem replaceSource_ne_iff : replaceSource r true ≠ r ↔ ∃ name, OnGitHub r name := by
  constructor
  · intro replaced
    refine Classical.not_not.mp fun elsewhere => ?_
    exact replaced (replaceSource_of_not_onGitHub (not_exists.mp elsewhere))
  · rintro ⟨name, found⟩ same
    rw [replaceSource_of_onGitHub found] at same
    exact not_onGitHub_replacement name name (same ▸ found)

/-- A source is replaced exactly if it is a URL with the host GitHub and some segment in its path,
by the address of the other repositories and the last such segment, which is a URL with the other
host. A second replacement changes nothing. -/
theorem replaced_once (r : String) :
    replaceSource (replaceSource r true) true = replaceSource r true ∧
    (replaceSource r true ≠ r ↔
      ∃ u, Url.parse r = .ok u ∧ u.domain = some "github.com" ∧ ∃ s ∈ u.segments, s ≠ "") ∧
    (replaceSource r true ≠ r → ∃ u name u', Url.parse r = .ok u ∧ EndsIn u name ∧
      replaceSource r true = replacementHost ++ "/" ++ name ∧
      Url.parse (replaceSource r true) = .ok u' ∧ u'.domain = some "gitee.com") := by
  refine ⟨?_, ?_, fun replaced => ?_⟩
  · by_cases found : ∃ name, OnGitHub r name
    · obtain ⟨name, found⟩ := found
      rw [replaceSource_of_onGitHub found]
      exact replaceSource_of_not_onGitHub (not_onGitHub_replacement name)
    · have kept := replaceSource_of_not_onGitHub (not_exists.mp found)
      rw [kept, kept]
  · rw [replaceSource_ne_iff]
    simp only [OnGitHub, ← exists_endsIn_iff]
    constructor
    · rintro ⟨name, u, read, host, ends⟩
      exact ⟨u, read, host, name, ends⟩
    · rintro ⟨u, read, host, name, ends⟩
      exact ⟨name, u, read, host, ends⟩
  · obtain ⟨name, u, read, host, ends⟩ := replaceSource_ne_iff.mp replaced
    have replacement := replaceSource_of_onGitHub ⟨u, read, host, ends⟩
    obtain ⟨u', read', host'⟩ := parse_replacement name
    exact ⟨u, name, u', read, ends, replacement, by rw [replacement, read'], host'⟩

/-- A source with another scheme, a user, a port and a fragment, and empty segments at its end. -/
theorem replaced_once_segments :
    replaceSource "ssh://git@github.com:22/org/web%20one.git//#main" true =
        "https://gitee.com/kubevela-terraform-modules/web%20one.git" ∧
      ∃ u, Url.parse "https://gitee.com/kubevela-terraform-modules/web%20one.git" = .ok u ∧
        u.domain = some "gitee.com" := by
  have replacement : replaceSource "ssh://git@github.com:22/org/web%20one.git//#main" true =
      "https://gitee.com/kubevela-terraform-modules/web%20one.git" := by rfl
  have replaced : replaceSource "ssh://git@github.com:22/org/web%20one.git//#main" true ≠
      "ssh://git@github.com:22/org/web%20one.git//#main" := by
    rw [replacement]
    decide
  obtain ⟨-, -, u, -, -, -, read, host⟩ := (replaced_once _).2.2 replaced
  exact ⟨replacement, u, replacement ▸ read, host⟩

end Terraform

end Provisioner
