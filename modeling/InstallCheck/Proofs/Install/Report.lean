import InstallCheck.Proofs.Field.Path
import InstallCheck.Proofs.Install.Rules
import InstallCheck.Proofs.NameMap
import Mathlib.Data.List.Nodup

/-!
What the rules for a platform section report as a whole: which fields stand in a report, in which order,
and that none stands in it twice.
-/
namespace InstallCheck.Install.Rules

open InstallCheck.Field

/-- The fields that the rules are about, in the order in which they are reported. -/
def fields : List String := ["region", "clusterOSImage", "cisInstanceCRN", "vpc", "subnets"]

/-- A platform section that keeps the rules. An empty identifier counts as an absent one. -/
structure Kept (regions : Region.Catalog) (p : Platform) : Prop where
  region : p.region ≠ "" ∧ p.region ∈ regions.shortNames
  osImage : p.osImage ≠ ""
  dnsInstance : ∃ c, Crn.parse p.dnsInstanceCrn = .ok c
  network : p.vpc.getD "" ≠ "" ↔ p.subnets ≠ []

/-- A field of a platform section breaks a rule. Of a network it is the half that is missing. -/
inductive Breaks (regions : Region.Catalog) (p : Platform) : String → Prop
  | region : ¬ (p.region ≠ "" ∧ p.region ∈ regions.shortNames) → Breaks regions p "region"
  | osImage : p.osImage = "" → Breaks regions p "clusterOSImage"
  | dnsInstance : (¬ ∃ c, Crn.parse p.dnsInstanceCrn = .ok c) → Breaks regions p "cisInstanceCRN"
  | vpc : p.vpc.getD "" = "" → p.subnets ≠ [] → Breaks regions p "vpc"
  | subnets : p.vpc.getD "" ≠ "" → p.subnets = [] → Breaks regions p "subnets"

variable {regions : Region.Catalog} {p : Platform} {path q : Path} {issues : List Issue}
  {name : String}

theorem Breaks.vpc_missing (broken : Breaks regions p name) (half : name = "vpc") :
    p.vpc.getD "" = "" := by
  cases broken with
  | vpc none _ => exact none
  | region | osImage | dnsInstance | subnets => simp at half

theorem Breaks.vpc_given (broken : Breaks regions p name) (half : name = "subnets") :
    p.vpc.getD "" ≠ "" := by
  cases broken with
  | subnets some _ => exact some
  | region | osImage | dnsInstance | vpc => simp at half

theorem contains_iff : regions.contains name = true ↔ name ∈ regions.shortNames :=
  NameMap.contains_iff

theorem isOk_iff {crn : String} : (Crn.parse crn).isOk = true ↔ ∃ c, Crn.parse crn = .ok c := by
  cases Crn.parse crn <;> simp [Except.isOk, Except.toBool]

theorem length_osImage_le_one : (osImage name path).length ≤ 1 := by
  unfold osImage
  split <;> simp

theorem length_dnsInstanceCrn_le_one {crn : String} : (dnsInstanceCrn crn path).length ≤ 1 := by
  unfold dnsInstanceCrn
  split
  · exact Nat.le_refl 1
  · split <;> simp

/-- At most one issue, and that at a known place. -/
theorem sublist_place (one : issues.length ≤ 1) (places : ∀ i ∈ issues, i.path = q) :
    (issues.map (·.path)).Sublist [q] := by
  match issues, one with
  | [], _ => exact List.nil_sublist _
  | [i], _ =>
    rw [List.map_singleton, places i List.mem_cons_self]

theorem mem_places_iff {r : Path} (places : ∀ i ∈ issues, i.path = q) :
    r ∈ issues.map (·.path) ↔ issues ≠ [] ∧ r = q := by
  constructor
  · intro member
    obtain ⟨i, found, rfl⟩ := List.mem_map.mp member
    exact ⟨List.ne_nil_of_mem found, places i found⟩
  · rintro ⟨some, rfl⟩
    obtain ⟨i, found⟩ := List.exists_mem_of_ne_nil issues some
    exact List.mem_map.mpr ⟨i, found, places i found⟩

theorem sublist_network :
    ((network p path).map (·.path)).Sublist [path.child "vpc", path.child "subnets"] := by
  unfold network
  cases p.hasNetwork <;> cases p.vpcName.isNone <;> cases p.subnets.isEmpty <;>
    simp [Issue.required]

theorem sublist_platform :
    ((platform regions p path).map (·.path)).Sublist (fields.map path.child) := by
  simp only [platform, List.map_append]
  exact (((sublist_place length_region_le_one fun _ => path_of_mem_region).append
    (sublist_place length_osImage_le_one fun _ => path_of_mem_osImage)).append
    (sublist_place length_dnsInstanceCrn_le_one fun _ => path_of_mem_dnsInstanceCrn)).append
    sublist_network

theorem vpcName_eq_none_iff : p.vpcName = none ↔ p.vpc.getD "" = "" := nonEmpty_eq_none_iff

theorem mem_network_places_iff :
    q ∈ (network p path).map (·.path) ↔
      (p.vpc.getD "" = "" ∧ p.subnets ≠ []) ∧ q = path.child "vpc" ∨
        (p.vpc.getD "" ≠ "" ∧ p.subnets = []) ∧ q = path.child "subnets" := by
  rw [← vpcName_eq_none_iff, ne_eq, ne_eq, ← vpcName_eq_none_iff]
  unfold network Platform.hasNetwork
  cases p.vpcName <;> cases p.subnets <;> simp [Issue.required]

theorem child_mem_places_iff :
    path.child name ∈ (platform regions p path).map (·.path) ↔ Breaks regions p name := by
  simp only [platform, List.map_append, List.mem_append,
    mem_places_iff fun _ => path_of_mem_region, mem_places_iff fun _ => path_of_mem_osImage,
    mem_places_iff fun _ => path_of_mem_dnsInstanceCrn, mem_network_places_iff, ne_eq,
    region_eq_nil_iff, osImage_eq_nil_iff, dnsInstanceCrn_eq_nil_iff, contains_iff,
    Path.child_eq_child_iff, true_and]
  constructor
  · rintro (((⟨broken, rfl⟩ | ⟨broken, rfl⟩) | ⟨broken, rfl⟩) |
      ⟨⟨none, some⟩, rfl⟩ | ⟨⟨some, none⟩, rfl⟩)
    · exact .region broken
    · exact .osImage (not_not.mp broken)
    · exact .dnsInstance fun read => broken (isOk_iff.mpr read)
    · exact .vpc none some
    · exact .subnets some none
  · rintro (broken | broken | broken | ⟨none, some⟩ | ⟨some, none⟩)
    · exact .inl (.inl (.inl ⟨broken, rfl⟩))
    · exact .inl (.inl (.inr ⟨not_not.mpr broken, rfl⟩))
    · exact .inl (.inr ⟨fun ok => broken (isOk_iff.mp ok), rfl⟩)
    · exact .inr (.inl ⟨⟨none, some⟩, rfl⟩)
    · exact .inr (.inr ⟨⟨some, none⟩, rfl⟩)

theorem platform_eq_nil_iff : platform regions p path = [] ↔ Kept regions p := by
  rw [platform, List.append_eq_nil_iff, List.append_eq_nil_iff, List.append_eq_nil_iff,
    region_eq_nil_iff, osImage_eq_nil_iff, dnsInstanceCrn_eq_nil_iff, network_eq_nil_iff, contains_iff,
    isOk_iff, ← Option.ne_none_iff_exists', ne_eq p.vpcName, vpcName_eq_none_iff]
  constructor
  · rintro ⟨⟨⟨region, osImage⟩, dnsInstance⟩, network⟩
    exact ⟨region, osImage, dnsInstance, network⟩
  · rintro ⟨region, osImage, dnsInstance, network⟩
    exact ⟨⟨⟨region, osImage⟩, dnsInstance⟩, network⟩

/-- **The rules report nothing on a platform section that keeps them, and else just the fields that
break one**, each once and in a fixed order, under paths that differ also as texts. Of a network at most
one half is reported, the one that is missing. Resource groups and machines have no part in this. -/
theorem platform_reports_breaks (regions : Region.Catalog) (p : Platform) (path : Path) :
    let places := (platform regions p path).map (·.path)
    (platform regions p path = [] ↔ Kept regions p) ∧
    (∀ name, path.child name ∈ places ↔ Breaks regions p name) ∧
    places.Sublist (fields.map path.child) ∧
    places.Nodup ∧ (places.map Path.text).Nodup ∧
    ¬ (path.child "vpc" ∈ places ∧ path.child "subnets" ∈ places) ∧
    ∀ resourceGroup vpcResourceGroup defaultMachines,
      platform regions { p with resourceGroup, vpcResourceGroup, defaultMachines } path =
        platform regions p path := by
  have inOrder : ((platform regions p path).map (·.path)).Sublist (fields.map path.child) :=
    sublist_platform
  have distinct : ((fields.map path.child).map Path.text).Nodup := by
    rw [List.map_map]
    exact List.Nodup.map path.text_child_injective (by decide)
  refine ⟨platform_eq_nil_iff, fun _ => child_mem_places_iff, inOrder,
    (List.Nodup.of_map _ distinct).sublist inOrder, distinct.sublist (inOrder.map _), ?_,
    fun _ _ _ => rfl⟩
  rw [child_mem_places_iff, child_mem_places_iff]
  exact fun both => both.2.vpc_given rfl (both.1.vpc_missing rfl)

end InstallCheck.Install.Rules
