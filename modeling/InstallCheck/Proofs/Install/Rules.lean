import InstallCheck.Install.Rules

/-!
What the rules for a platform section can report: each at most one issue, and where; and when they
report nothing.
-/
namespace InstallCheck.Install

theorem nonEmpty_eq_some_iff {identifier : Option String} {name : String} :
    nonEmpty identifier = some name ↔ identifier = some name ∧ name ≠ "" := by
  simp [nonEmpty, Option.filter_eq_some_iff]

theorem nonEmpty_eq_none_iff {identifier : Option String} :
    nonEmpty identifier = none ↔ identifier.getD "" = "" := by
  cases identifier <;> simp [nonEmpty, Option.filter_eq_none_iff]

namespace Rules

open InstallCheck.Field

variable {regions : Region.Catalog} {name : String} {p : Platform} {path : Path} {i : Issue}

theorem length_region_le_one : (region regions name path).length ≤ 1 := by
  unfold region
  split
  · exact Nat.le_refl 1
  · split <;> simp

theorem path_of_mem_region (member : i ∈ region regions name path) : i.path = path := by
  unfold region at member
  split at member
  · simp only [List.mem_singleton] at member
    rw [member, Issue.required]
  · split at member
    · cases member
    · simp only [List.mem_singleton] at member
      rw [member, Issue.notSupported]

theorem region_eq_nil_iff :
    region regions name path = [] ↔ name ≠ "" ∧ regions.contains name = true := by
  unfold region
  split
  · simp [*]
  · split <;> simp [*]

theorem path_of_mem_osImage (member : i ∈ osImage name path) : i.path = path := by
  unfold osImage at member
  split at member
  · rw [List.mem_singleton.mp member, Issue.required]
  · cases member

theorem osImage_eq_nil_iff : osImage name path = [] ↔ name ≠ "" := by
  unfold osImage
  split <;> simp [*]

theorem path_of_mem_dnsInstanceCrn {crn : String} (member : i ∈ dnsInstanceCrn crn path) :
    i.path = path := by
  unfold dnsInstanceCrn at member
  split at member
  · rw [List.mem_singleton.mp member, Issue.required]
  · split at member
    · cases member
    · rw [List.mem_singleton.mp member, Issue.invalid]

/-- The empty text is no resource name, so it needs no case of its own. -/
theorem dnsInstanceCrn_eq_nil_iff {crn : String} :
    dnsInstanceCrn crn path = [] ↔ (Crn.parse crn).isOk = true := by
  unfold dnsInstanceCrn
  split
  · rename_i empty
    rw [empty]
    simp only [List.cons_ne_self, false_iff]
    decide
  · split <;> simp [*, Except.isOk, Except.toBool]

/-- The two halves of a network are never reported missing together. -/
theorem length_network_le_one : (network p path).length ≤ 1 := by
  unfold network Platform.hasNetwork
  cases p.vpcName <;> cases p.subnets.isEmpty <;> simp

theorem network_eq_nil_iff :
    network p path = [] ↔ ((∃ name, p.vpcName = some name) ↔ p.subnets ≠ []) := by
  unfold network Platform.hasNetwork
  cases p.vpcName <;> cases p.subnets <;> simp

theorem mem_network (member : i ∈ network p path) :
    i = .required (path.child "vpc") networkDetail ∨
      i = .required (path.child "subnets") networkDetail := by
  unfold network at member
  split at member
  · rcases List.mem_append.mp member with missing | missing
    · left
      split at missing
      · exact List.mem_singleton.mp missing
      · cases missing
    · right
      split at missing
      · exact List.mem_singleton.mp missing
      · cases missing
  · cases member

end Rules

end InstallCheck.Install
