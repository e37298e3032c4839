import InstallCheck.Proofs.Check.Places
import InstallCheck.Proofs.Check.Sections
import InstallCheck.Proofs.Json.RoundTrip

/-!
What the text of a path tells in a report. Each issue is found by the check of one section of an install
config and stands at one of the fields of that section; two of them show the same path only if section
and field are the same, however many compute pools there are.
-/
namespace InstallCheck.Check

open InstallCheck.Field (Issue Path)
open Inquiry
open Service (platformPath controlPlanePath computePath)

/-- The sections of an install config that are checked. -/
inductive Section
  /-- The platform section, without the usual settings of machines. -/
  | platform
  | usualMachines
  | controlPlane
  | compute (position : Nat)
  deriving DecidableEq, Repr

namespace Section

/-- The sections of an install config, in the order in which they are checked. -/
def all (c : Install.Config) : List Section :=
  platform :: usualMachines :: controlPlane :: (List.range c.compute.length).map compute

def path : Section → Path
  | platform => platformPath
  | usualMachines => platformPath.child "defaultMachinePlatform"
  | controlPlane => controlPlanePath
  | compute position => computePath position

/-- The fields of a group of machines that issues are reported at, each with the names that lead to it. -/
def machineFields : List (List String) := [["type"], ["zones"], ["bootVolume", "encryptionKey"]]

def fields : Section → List (List String)
  | platform => Service.platformFields.map ([·])
  | usualMachines | controlPlane | compute _ => machineFields

/-- Where a field of a section stands. -/
def place (sec : Section) (field : List String) : Path := field.foldl Path.child sec.path

/-- The check of a section, if the install config has it. -/
def check (regions : Region.Catalog) (c : Install.Config) (p : Install.Platform) :
    Section → Inquiry (List Issue)
  | platform => Platform.platform regions c.baseDomain p.withoutMachines platformPath
  | usualMachines =>
    match p.defaultMachines with
    | some settings => do
      report Platform.checkingDefault
      Machines.pool p.region settings (platformPath.child "defaultMachinePlatform")
    | none => pure []
  | controlPlane => Service.controlPlane p.region c.controlPlane
  | compute position =>
    match c.compute[position]? with
    | some pool => Service.compute p.region pool position
    | none => pure []

/-- A place is that of a field of a section. -/
def Has (sec : Section) (place : Path) : Prop := ∃ field ∈ sec.fields, place = sec.place field

/-- The section in which a place lies, if it is that of a field. -/
def ofPlace? (place : Path) : Option Section :=
  match place.root, place.below with
  -- Fields of machines stand further below the platform than its own do.
  | "platform", [_, _] => some platform
  | "platform", _ => some usualMachines
  | "controlPlane", _ => some controlPlane
  | "compute", .index position :: _ => some (compute position)
  | _, _ => none

variable {regions : Region.Catalog} {c : Install.Config} {p : Install.Platform} {sec other : Section}
  {field otherField : List String} {i : Issue} {fs : List Finding} {f : Finding} {name : String}

section Places

theorem foldl_child (q : Path) (names : List String) :
    names.foldl Path.child q = ⟨q.root, q.below ++ names.map .key⟩ := by
  induction names generalizing q with
  | nil => simp
  | cons name names ih => simp [ih, Path.child]

theorem ofPlace?_place (isField : field ∈ sec.fields) : ofPlace? (sec.place field) = some sec := by
  cases sec with
  | platform =>
    obtain ⟨name, -, rfl⟩ := List.mem_map.mp isField
    rfl
  | usualMachines =>
    simp only [fields, machineFields, List.mem_cons, List.not_mem_nil, or_false] at isField
    rcases isField with rfl | rfl | rfl <;> rfl
  | controlPlane | compute position =>
    rw [place, foldl_child]
    rfl

theorem place_inj (isField : field ∈ sec.fields) (isFieldToo : otherField ∈ other.fields) :
    sec.place field = other.place otherField ↔ sec = other ∧ field = otherField := by
  constructor
  · intro same
    -- The section can be read off a place, and then only what stands below it is left.
    have sameSection : some sec = some other := by
      rw [← ofPlace?_place isField, same, ofPlace?_place isFieldToo]
    cases sameSection
    rw [place, place, foldl_child, foldl_child, Field.Path.mk.injEq, List.append_cancel_left_eq] at same
    exact ⟨rfl, List.map_injective_iff.mpr (fun _ _ => Field.Segment.key.inj) same.2⟩
  · rintro ⟨rfl, rfl⟩
    rfl

theorem plainName_of_mem (isField : field ∈ sec.fields) : ∀ name ∈ field, Path.PlainName name := by
  -- The position of a pool makes no difference, so there are only two lists of fields to look at.
  have all : ∀ field ∈ platform.fields ++ machineFields, ∀ name ∈ field, Path.PlainName name := by
    decide
  cases sec with
  | platform => exact all field (List.mem_append_left _ isField)
  | usualMachines | controlPlane | compute _ => exact all field (List.mem_append_right _ isField)

theorem plain_path : sec.path.Plain := by
  have platform : platformPath.Plain := .child (.top (by decide)) (by decide)
  cases sec with
  | platform => exact platform
  | usualMachines => exact .child platform (by decide)
  | controlPlane => exact .child (.child (.top (by decide)) (by decide)) (by decide)
  | compute position =>
    exact .child (.child (.index position (.top (by decide))) (by decide)) (by decide)

theorem plain_foldl_child {q : Path} (plain : q.Plain) {names : List String}
    (each : ∀ name ∈ names, Path.PlainName name) : (names.foldl Path.child q).Plain := by
  induction names generalizing q with
  | nil => exact plain
  | cons name names ih =>
    rw [List.forall_mem_cons] at each
    exact ih (plain.child each.1) each.2

theorem Has.plain {place : Path} (has : sec.Has place) : place.Plain := by
  obtain ⟨field, isField, rfl⟩ := has
  exact plain_foldl_child plain_path (plainName_of_mem isField)

end Places

section Found

variable {place : Path} {subject : Subject}

theorem has_platform (isField : name ∈ Service.platformFields) : platform.Has (platformPath.child name) :=
  ⟨[name], List.mem_map_of_mem isField, rfl⟩

theorem has_of_asksBasic (asks : AsksBasic c p place subject) : platform.Has place := by
  cases asks <;> exact has_platform (by decide)

theorem has_of_asksVpc (asks : AsksVpc p place subject) : platform.Has place := by
  cases asks <;> exact has_platform (by decide)

theorem has_of_asksSubnets (asks : AsksSubnets p fs place subject) : platform.Has place := by
  cases asks <;> exact has_platform (by decide)

theorem has_of_platform (finds : (platform.check regions c p).Finds i) : platform.Has i.path := by
  obtain ⟨t, _, course, member⟩ := finds
  obtain ⟨basics, resources, areBasics, inOrder, -, rfl⟩ := Platform.platform_dialogue course
  simp only [List.mem_append, List.mem_flatMap] at member
  -- An issue comes from one of the two rules, from a basic lookup or from one for the network.
  rcases member with ((region | ⟨f, among, found⟩) | network) | ⟨f, among, found⟩
  · rw [Install.Rules.path_of_mem_region region]
    exact has_platform (by decide)
  · rw [Finding.path_of_mem_issues found]
    exact has_of_asksBasic (Survey.Basics.asks areBasics among)
  · rcases Install.Rules.mem_network network with rfl | rfl <;> exact has_platform (by decide)
  · rw [Finding.path_of_mem_issues found]
    obtain ⟨kind, isKind, part, holds, here, -⟩ := inOrder.exists_part among
    simp only [List.cons_append, List.nil_append, List.mem_cons, List.not_mem_nil, or_false] at isKind
    rcases isKind with rfl | rfl | rfl
    · obtain ⟨name, named, vpc⟩ := Survey.IfNamed.exists_name holds here
      exact has_of_asksVpc (vpc.asks named here)
    · have subnets := Survey.IfListed.of_mem holds here
      exact has_of_asksSubnets (Survey.Subnets.asks subnets (List.Subset.refl part) here)
    -- There are no settings of machines left in the platform section.
    · obtain ⟨s, set, -⟩ := Survey.IfSet.exists_settings holds here
      cases set

theorem place_of_pool {region : String} {s : Install.PoolSettings} {q : Path}
    (pool : Survey.Pool region s q fs) (member : f ∈ fs) :
    ∃ field ∈ machineFields, f.place = field.foldl Path.child q := by
  obtain ⟨kind, isKind, part, holds, here, -⟩ := pool.exists_part member
  simp only [List.mem_cons, List.not_mem_nil, or_false] at isKind
  rcases isKind with rfl | rfl | rfl
  · obtain ⟨name, -, single⟩ := Survey.IfNamed.exists_name holds here
    exact ⟨["type"], by decide, single.place f here⟩
  · have single := Survey.IfListed.of_mem holds here
    exact ⟨["zones"], by decide, Survey.Single.place single f here⟩
  · obtain ⟨key, -, single⟩ := Survey.IfNamed.exists_name holds here
    exact ⟨["bootVolume", "encryptionKey"], by decide, single.place f here⟩

theorem fields_of_ne_platform (machines : sec ≠ platform) : sec.fields = machineFields := by
  cases sec with
  | platform => exact absurd rfl machines
  | usualMachines | controlPlane | compute _ => rfl

theorem check_yields (regions : Region.Catalog) (c : Install.Config) (p : Install.Platform)
    (machines : sec ≠ platform) :
    ∃ settings, (sec.check regions c p).Yields (Survey.IfSet settings p.region sec.path) := by
  cases sec with
  | platform => exact absurd rfl machines
  | usualMachines => exact ⟨_, yields_ifSet _⟩
  | controlPlane => exact ⟨_, Service.controlPlane_yields p.region c.controlPlane⟩
  | compute position =>
    dsimp only [check]
    cases c.compute[position]? with
    | none => exact ⟨none, yields_nothing⟩
    | some pool => exact ⟨_, Service.compute_yields p.region pool position⟩

/-- The check of a section reports at the fields of that section only. -/
theorem has_of_finds (finds : (sec.check regions c p).Finds i) : sec.Has i.path := by
  by_cases machines : sec = platform
  · subst machines
    exact has_of_platform finds
  · obtain ⟨settings, yields⟩ := check_yields regions c p machines
    obtain ⟨fs, ifSet, f, among, there⟩ := yields.exists_finding finds
    obtain ⟨s, -, pool⟩ := Survey.IfSet.exists_settings ifSet among
    obtain ⟨field, isField, place⟩ := place_of_pool pool among
    exact ⟨field, fields_of_ne_platform machines ▸ isField, there.trans place⟩

theorem finds_platform_iff {domain : String} {path : Path} :
    (Platform.platform regions domain p path).Finds i ↔
      (Platform.platform regions domain p.withoutMachines path).Finds i ∨
        Finds (match p.defaultMachines with
          | some settings => do
            report Platform.checkingDefault
            Machines.pool p.region settings (path.child "defaultMachinePlatform")
          | none => pure []) i := by
  -- All checks but the last one are the same, and without settings the last one finds nothing.
  rw [Platform.platform, Platform.platform, Install.Platform.withoutMachines]
  simp only [finds_concat_iff, List.exists_mem_cons_iff, List.not_mem_nil, false_and, exists_const,
    or_false, finds_nothing, or_assoc]
  exact Iff.rfl

theorem finds_computes_iff :
    (concat (c.compute.mapIdx fun position pool => Service.compute p.region pool position)).Finds i ↔
      ∃ sec ∈ (List.range c.compute.length).map compute, (sec.check regions c p).Finds i := by
  have check_compute {position : Nat} (listed : position < c.compute.length) :
      (compute position).check regions c p =
        Service.compute p.region c.compute[position] position := by
    simp only [check, List.getElem?_eq_getElem listed]
  rw [finds_concat_iff]
  constructor
  · rintro ⟨_, member, finds⟩
    obtain ⟨position, listed, rfl⟩ := List.mem_mapIdx.mp member
    rw [← check_compute listed] at finds
    exact ⟨_, List.mem_map_of_mem (List.mem_range.mpr listed), finds⟩
  · rintro ⟨_, member, finds⟩
    obtain ⟨position, inRange, rfl⟩ := List.mem_map.mp member
    have listed : position < c.compute.length := List.mem_range.mp inRange
    rw [check_compute listed] at finds
    exact ⟨_, List.mem_mapIdx.mpr ⟨position, listed, rfl⟩, finds⟩

/-- Whatever a check of an install config finds, the check of one of its sections does. -/
theorem finds_checks_iff :
    (Service.checks regions c p).Finds i ↔ ∃ sec ∈ all c, (sec.check regions c p).Finds i := by
  rw [all, List.exists_mem_cons_iff, List.exists_mem_cons_iff, List.exists_mem_cons_iff,
    ← finds_computes_iff, Service.checks, finds_report_iff, finds_bind_report_iff,
    finds_concat_cons_iff, finds_concat_cons_iff, finds_platform_iff, or_assoc]
  exact Iff.rfl

end Found

end Section

namespace Service

/-- **The text of a path tells which field it is of.** Paths with plain names have the same text, as it is
and in JSON, only if they are the same. Each issue of a report is found by the check of one section, at
one of its fields, and two issues show the same path exactly when they are about the same field of the
same section. -/
theorem check_paths_tell_fields :
    (∀ p q : Path, p.Plain → q.Plain →
      (p.text = q.text ↔ p = q) ∧
      (Json.compact (.text p.text) = Json.compact (.text q.text) ↔ p = q)) ∧
    ∀ (s : Service) (session : Session) (c : Install.Config) (p : Install.Platform),
      c.platform = some p →
      ∃ report, (s.check session c).1 = .ok report ∧
        (∀ i ∈ report, ∃ sec ∈ Section.all c, (sec.check s.regions c p).Finds i) ∧
        ∀ (sec other : Section) (i j : Issue),
          (sec.check s.regions c p).Finds i → (other.check s.regions c p).Finds j →
          i.path.Plain ∧ ∃ field ∈ sec.fields, ∃ otherField ∈ other.fields,
            i.path = sec.place field ∧ j.path = other.place otherField ∧
            (i.path.text = j.path.text ↔ sec = other ∧ field = otherField) := by
  refine ⟨fun p q plain plainToo => ⟨plain.text_inj plainToo, ?_⟩, fun s session c p given => ?_⟩
  · rw [Json.compact, Json.compact, Json.quote_inj, plain.text_inj plainToo]
  · refine ⟨_, congrArg Prod.fst (check_of_platform given), fun i member => ?_, ?_⟩
    · exact Section.finds_checks_iff.mp (finds_of_mem_run member)
    · intro sec other i j finds findsToo
      have plain : i.path.Plain := (Section.has_of_finds finds).plain
      have plainToo : j.path.Plain := (Section.has_of_finds findsToo).plain
      obtain ⟨field, isField, place⟩ := Section.has_of_finds finds
      obtain ⟨otherField, isFieldToo, otherPlace⟩ := Section.has_of_finds findsToo
      refine ⟨plain, field, isField, otherField, isFieldToo, place, otherPlace, ?_⟩
      rw [plain.text_inj plainToo, place, otherPlace, Section.place_inj isField isFieldToo]

/-- The issue on the zones of a section in an account of which no zones can be listed. -/
def zonesUnknown (sec : Section) : Issue :=
  .internalError (sec.place ["zones"]) (LookupError.transport "vpc_zones" "connection lost").text

/-- In such an account the issues on the control plane and on the second compute pool of the sample config
only differ in their paths, and so do the texts of these. -/
theorem check_paths_tell_fields_zoneless :
    Sample.config.platform = some Sample.platform ∧
    (∃ report, (sampleCheck zoneless).1 = .ok report ∧
      zonesUnknown .controlPlane ∈ report ∧ zonesUnknown (.compute 1) ∈ report) ∧
    (Section.controlPlane.check .builtIn Sample.config Sample.platform).Finds
      (zonesUnknown .controlPlane) ∧
    ((Section.compute 1).check .builtIn Sample.config Sample.platform).Finds
      (zonesUnknown (.compute 1)) ∧
    (zonesUnknown .controlPlane).path.text ≠ (zonesUnknown (.compute 1)).path.text ∧
    Json.compact (.text (zonesUnknown .controlPlane).path.text) ≠
      Json.compact (.text (zonesUnknown (.compute 1)).path.text) := by
  obtain ⟨paths, reports⟩ := check_paths_tell_fields
  obtain ⟨report, checked, -, told⟩ :=
    reports ⟨constantly zoneless, .builtIn, .ofSeconds 60⟩ (.start (.ofSeconds 60) false) Sample.config
      Sample.platform rfl
  have finds : (Section.controlPlane.check .builtIn Sample.config Sample.platform).Finds
      (zonesUnknown .controlPlane) := by
    have found : zonesUnknown .controlPlane ∈
        (Section.controlPlane.check .builtIn Sample.config Sample.platform).value zoneless := by
      decide +kernel
    exact finds_of_mem_value found
  have findsToo : ((Section.compute 1).check .builtIn Sample.config Sample.platform).Finds
      (zonesUnknown (.compute 1)) := by
    have found : zonesUnknown (.compute 1) ∈
        ((Section.compute 1).check .builtIn Sample.config Sample.platform).value zoneless := by
      decide +kernel
    exact finds_of_mem_value found
  obtain ⟨plain, _, _, _, _, _, _, same⟩ := told _ _ _ _ finds findsToo
  obtain ⟨plainToo, -⟩ := told _ _ _ _ findsToo finds
  have differs : (zonesUnknown .controlPlane).path.text ≠ (zonesUnknown (.compute 1)).path.text := by
    intro alike
    cases (same.mp alike).1
  have among : zonesUnknown .controlPlane ∈ (sampleCheck zoneless).1.toOption.getD [] ∧
      zonesUnknown (.compute 1) ∈ (sampleCheck zoneless).1.toOption.getD [] := by
    decide +kernel
  have checked : (sampleCheck zoneless).1 = .ok report := checked
  rw [checked] at among
  refine ⟨rfl, ⟨report, checked, among⟩, finds, findsToo, differs, ?_⟩
  rwa [ne_eq, (paths _ _ plain plainToo).2, ← (paths _ _ plain plainToo).1]

end Service

end InstallCheck.Check
