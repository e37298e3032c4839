import InstallCheck.Proofs.Check.Accounting
import InstallCheck.Proofs.Check.Places

/-!
The lookups of a check, one after the other. Which of them are made and in which order is told by the
install config and by two answers: whether the DNS service instance is there, and which resource group a
private cloud is to be looked up in.
-/
namespace InstallCheck.Check

open Cloud (Query)
open InstallCheck.Field (Path)
open Install (PoolSettings)

/-- What comes of a lookup after those made before it. -/
abbrev Answers := (earlier : List Query) → (q : Query) → q.Result

namespace Lookups

/-- The lookups for a DNS service instance: its zone is asked for only if the instance is there. -/
def dnsInstance (answers : Answers) (earlier : List Query) (domain crn : String) : List Query :=
  .dnsInstance crn ::
    match answers earlier (.dnsInstance crn) with
    | .ok _ => [.zoneId crn domain]
    | .error _ => []

/-- The lookups that are made first. -/
def basics (answers : Answers) (domain : String) (p : Install.Platform) : List Query :=
  dnsInstance answers [] domain p.dnsInstanceCrn ++ [.image p.osImage p.region] ++
    p.groupName.elim [] fun _ => [.resourceGroups]

/-- The lookups for a private cloud: with a resource group of its own it is asked for in that group, and
only if the group is there, and else in the group of the installation, if that has one. -/
def vpc (answers : Answers) (earlier : List Query) (p : Install.Platform) (name : String) :
    List Query :=
  match p.vpcGroupName with
  | none => [.vpc name p.groupName]
  | some group =>
    .resourceGroup group ::
      match answers earlier (.resourceGroup group) with
      | .ok found => [.vpc name (some found.id)]
      | .error _ => []

/-- The lookups for subnets: the zones of the region once, then every subnet. -/
def subnets (region : String) (ids : List String) : List Query :=
  if ids = [] then [] else .vpcZones region :: ids.map .subnet

/-- The lookups for a group of machines. -/
def pool (region : String) (s : PoolSettings) : List Query :=
  (s.typeName.elim [] fun _ => [.instanceProfiles]) ++
    (if s.zones = [] then [] else [.vpcZones region]) ++
    s.keyName.elim [] fun key => [.encryptionKey key]

/-- The settings of all groups of machines, in the order in which they are checked. -/
def machines (c : Install.Config) (p : Install.Platform) : List PoolSettings :=
  p.defaultMachines.toList ++ (c.controlPlane.bind (·.settings)).toList ++
    c.compute.filterMap (·.settings)

/-- All lookups of a check. -/
def all (answers : Answers) (c : Install.Config) (p : Install.Platform) : List Query :=
  let first := basics answers c.baseDomain p
  first ++ p.vpcName.elim [] (vpc answers first p) ++ subnets p.region p.subnets ++
    (machines c p).flatMap (pool p.region)

end Lookups

/-- The lookup of a finding. -/
def Finding.query (f : Finding) : Query := f.subject.query

section Heard

variable {answers : Answers} {cloud : Cloud} {limit : Duration} {earlier calls : List Query}
  {fs gs : List Finding}

end Heard

/-- Which lookups findings of some kind stand for does not depend on what comes of them. -/
def Foreseen (kind : List Finding → Prop) (lookups : List Query) : Prop :=
  ∀ fs, kind fs → fs.map Finding.query = lookups

theorem Foreseen.inOrder {kinds : List (List Finding → Prop)} {parts : List (List Query)}
    (each : List.Forall₂ Foreseen kinds parts) : Foreseen (InOrder kinds) parts.flatten := by
  intro fs inOrder
  induction each generalizing fs with
  | nil =>
    obtain ⟨parts, are, rfl⟩ := inOrder
    cases are
    rfl
  | cons first _ ih =>
    obtain ⟨here, later, isFirst, areRest, rfl⟩ := InOrder.cons_iff.mp inOrder
    rw [List.map_append, first here isFirst, ih later areRest, List.flatten_cons]

namespace Survey

variable {answers : Answers} {earlier : List Query} {fs : List Finding} {path : Path}

end Survey

namespace Service

namespace Sample

end Sample

end Service

end InstallCheck.Check
