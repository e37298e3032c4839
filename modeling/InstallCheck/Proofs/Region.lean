import InstallCheck.Install.Rules
import InstallCheck.Proofs.NameMap
import InstallCheck.Proofs.Text.Utf8
import InstallCheck.ValueError
import Mathlib.Data.List.Dedup

/-!
A catalog of regions that is made of any list of names. Its listings, its lookups and the rule for regions
all speak of the same finite map, in which a name that is listed several times has the last of its display
names.
-/
namespace InstallCheck.Region.Catalog

variable {c : Catalog} {pairs : List (String × String)} {r d : String}

theorem displayName_eq_ok_iff : c.displayName r = .ok d ↔ c.get? r = some d := by
  unfold displayName displayName?
  cases c.get? r <;> simp

theorem exists_displayName_iff : (∃ d, c.displayName r = .ok d) ↔ r ∈ c.shortNames := by
  simp only [displayName_eq_ok_iff, shortNames, NameMap.mem_names_iff]

/-- Each line of the description is about the short name in its place. -/
theorem forall₂_describe :
    List.Forall₂ (fun r line => ∃ d, c.displayName r = .ok d ∧ line = r ++ " (" ++ d ++ ")")
      c.shortNames c.describe := by
  rw [shortNames, NameMap.names, describe, List.forall₂_map_left_iff, List.forall₂_map_right_iff,
    List.forall₂_same]
  intro entry member
  exact ⟨entry.2, displayName_eq_ok_iff.mpr (NameMap.mem_entries_iff.mp member), rfl⟩

/-- Names in ascending order, each once, are as many as there are different names. -/
theorem size_ofList : (NameMap.ofList pairs).size = (pairs.map (·.1)).dedup.length := by
  have rearranged : (NameMap.ofList pairs).names.Perm (pairs.map (·.1)).dedup := by
    rw [List.perm_ext_iff_of_nodup (NameMap.nodup_names _) (List.nodup_dedup _)]
    intro name
    rw [NameMap.mem_names_ofList_iff, List.mem_dedup]
  calc (NameMap.ofList pairs).size
    _ = (NameMap.ofList pairs).names.length := by rw [NameMap.names, List.length_map, NameMap.size]
    _ = (pairs.map (·.1)).dedup.length := rearranged.length_eq

/-- **A catalog is one finite map in all its views.** The short names are the names of the list that it was
made of, in the order of their bytes and each once. A region is contained, listed, and has a display name
together; the display name is the last one that the list gives it. Descriptions follow the short names,
and there are as many as there are different names. The rule for regions accepts just the names of the
list, and where it refuses a region that is given, it shows every short name, quoted and in order. -/
theorem ofList_consistent (pairs : List (String × String)) :
    let c : Catalog := .ofList pairs
    c.shortNames.Pairwise (fun a b => Text.bytes a < Text.bytes b) ∧
    (∀ r, r ∈ c.shortNames ↔ ∃ d, (r, d) ∈ pairs) ∧
    (∀ r, (c.contains r = true ↔ r ∈ c.shortNames) ∧
      ((∃ d, c.displayName r = .ok d) ↔ r ∈ c.shortNames)) ∧
    (∀ r d, c.displayName r = .ok d ↔
      ∃ before after, pairs = before ++ (r, d) :: after ∧ r ∉ after.map (·.1)) ∧
    List.Forall₂ (fun r line => ∃ d, c.displayName r = .ok d ∧ line = r ++ " (" ++ d ++ ")")
      c.shortNames c.describe ∧
    c.size = (pairs.map (·.1)).dedup.length ∧
    ∀ r path, Install.Rules.region c r path =
      if r = "" then [⟨path, .required, "", "region must be specified"⟩]
      else if ∃ pair ∈ pairs, pair.1 = r then []
      else [⟨path, .notSupported, r, "supported values: " ++
        ", ".intercalate (c.shortNames.map fun name => "\"" ++ name ++ "\"")⟩] := by
  intro c
  have listed (r : String) : r ∈ c.shortNames ↔ r ∈ pairs.map (·.1) := NameMap.mem_names_ofList_iff
  have contained (r : String) : c.contains r = true ↔ r ∈ c.shortNames := NameMap.contains_iff
  refine ⟨?_, fun r => ?_, fun r => ⟨contained r, exists_displayName_iff⟩, fun r d => ?_,
    forall₂_describe, size_ofList, fun r path => ?_⟩
  · exact c.pairwise_names.imp Text.bytes_lt_iff.mpr
  · rw [listed]
    simp
  · exact displayName_eq_ok_iff.trans NameMap.get?_ofList_eq_some_iff
  · have among : c.contains r = true ↔ ∃ pair ∈ pairs, pair.1 = r := by
      rw [contained, listed, List.mem_map]
    simp only [Install.Rules.region, among]
    rfl

example : describe (.ofList [("eu-de", "Germany"), ("au-syd", "Sydney"), ("eu-de", "Frankfurt")]) =
    ["au-syd (Sydney)", "eu-de (Frankfurt)"] := by decide

end InstallCheck.Region.Catalog
