import InstallCheck.Proofs.Check.Verdict
import InstallCheck.Proofs.Inquiry.Relation

/-!
How much a check reads of the answers it gets. Answers that are read alike, and errors of the same class,
take a check through the same lookups to the same issues, but for the texts of errors that it quotes.
-/
namespace InstallCheck

open Cloud (Query)
open InstallCheck.Field (Issue Path)

/-- Answers that are read alike. Of a listing only its members count, but of the zones of a region, which
a report lists, also how often each is there; of a group its id, of a subnet its zone, of the id of a zone
whether there is one, and of everything else that it exists. No check lists DNS zones. -/
def Cloud.Query.ReadAlike : (q : Query) → q.Answer → q.Answer → Prop
  | vpcZones _, a, b => a.Perm b
  | resourceGroup _, a, b => a.id = b.id
  | resourceGroups, a, b => ∀ g, g ∈ a ↔ g ∈ b
  | zoneId .., a, b => a = "" ↔ b = ""
  | subnet _, a, b => a.zone = b.zone
  | instanceProfiles, a, b => ∀ m, m ∈ a ↔ m ∈ b
  | dnsInstance _, _, _ | dnsZones, _, _ | image .., _, _ | vpc .., _, _ | encryptionKey _, _, _ => True

theorem Cloud.Query.readAlike_refl {q : Query} (a : q.Answer) : q.ReadAlike a a := by
  cases q <;> simp [ReadAlike]

namespace Check

/-- A relation of errors that holds only within a class: both do or do not say that a resource does not
exist, and both do or do not come of an interruption. -/
structure WithinClasses (errors : LookupError → LookupError → Prop) : Prop where
  isNotFound : ∀ {e e'}, errors e e' → e.isNotFound = e'.isNotFound
  isInterrupted : ∀ {e e'}, errors e e' → e.isInterrupted = e'.isInterrupted

theorem withinClasses_eq : WithinClasses Eq := ⟨fun same => same ▸ rfl, fun same => same ▸ rfl⟩

/-- Results of a lookup that are related errors or answers that are read alike. -/
inductive ResultsAlike (errors : LookupError → LookupError → Prop) (q : Query) :
    q.Result → q.Result → Prop
  | error {e e' : LookupError} : errors e e' → ResultsAlike errors q (.error e) (.error e')
  | ok {a b : q.Answer} : q.ReadAlike a b → ResultsAlike errors q (.ok a) (.ok b)

/-- The same issue, or two that leave the same question open because of related errors. -/
inductive IssuesAlike (errors : LookupError → LookupError → Prop) : Issue → Issue → Prop
  | same (i : Issue) : IssuesAlike errors i i
  | leftOpen {place : Path} {e e' : LookupError} : errors e e' →
    IssuesAlike errors (.internalError place e.text) (.internalError place e'.text)

/-- Checks that report alike on results that are alike. -/
def ReportAlike (errors : LookupError → LookupError → Prop) :
    Inquiry (List Issue) → Inquiry (List Issue) → Prop :=
  Inquiry.Related (ResultsAlike errors) (List.Forall₂ (IssuesAlike errors))

open Inquiry

variable {errors : LookupError → LookupError → Prop} {path : Path}

theorem reportAlike_pure (issues : List Issue) : ReportAlike errors (pure issues) (pure issues) :=
  .pure (List.forall₂_same.mpr fun i _ => .same i)

theorem reportAlike_leftOpen {place : Path} {e e' : LookupError} (related : errors e e') :
    ReportAlike errors (pure [.internalError place e.text]) (pure [.internalError place e'.text]) :=
  .pure (.cons (.leftOpen related) .nil)

theorem reportAlike_ifNamed {identifier : Option String} {check : String → Inquiry (List Issue)}
    (each : ∀ name, ReportAlike errors (check name) (check name)) :
    ReportAlike errors
      (match identifier with
      | some name => check name
      | none => pure [])
      (match identifier with
      | some name => check name
      | none => pure []) := by
  cases identifier with
  | none => exact reportAlike_pure []
  | some name => exact each name

theorem reportAlike_ifListed {items : List String} {check : Inquiry (List Issue)}
    (listed : ReportAlike errors check check) :
    ReportAlike errors (if items.isEmpty then pure [] else check)
      (if items.isEmpty then pure [] else check) := by
  split
  · exact reportAlike_pure []
  · exact listed

theorem reportAlike_concat {checks : List (Inquiry (List Issue))}
    (each : ∀ i ∈ checks, ReportAlike errors i i) :
    ReportAlike errors (concat checks) (concat checks) :=
  Related.concat (List.forall₂_same.mpr each)

theorem any_eq_of_mem_iff {α : Type} {l m : List α} {test : α → Bool}
    (members : ∀ a, a ∈ l ↔ a ∈ m) : l.any test = m.any test := by
  rw [Bool.eq_iff_iff, List.any_eq_true, List.any_eq_true]
  simp only [members]

/-- Lists of the same texts are the same once they are sorted. -/
theorem mergeSort_eq_of_perm {l m : List String} (perm : l.Perm m) :
    l.mergeSort (· ≤ ·) = m.mergeSort (· ≤ ·) := by
  have ascending (l : List String) : (l.mergeSort (· ≤ ·)).Pairwise (· ≤ ·) := by
    have sorted : (l.mergeSort (· ≤ ·)).Pairwise fun a b => decide (a ≤ b) = true :=
      List.pairwise_mergeSort (by simpa using fun a b c => String.le_trans)
        (by simpa using String.le_total) l
    simpa using sorted
  have rearranged : (l.mergeSort (· ≤ ·)).Perm (m.mergeSort (· ≤ ·)) :=
    (List.mergeSort_perm _ _).trans (perm.trans (List.mergeSort_perm _ _).symm)
  exact rearranged.eq_of_pairwise (fun a b _ _ => String.le_antisymm) (ascending l) (ascending m)

section Parts

variable (classes : WithinClasses errors)

include classes

theorem reportAlike_lookupIssue {place : Path} {value : String} {e e' : LookupError}
    (related : errors e e') :
    ReportAlike errors (pure [lookupIssue place value e]) (pure [lookupIssue place value e']) := by
  unfold lookupIssue
  rw [classes.isNotFound related]
  split
  · exact reportAlike_pure _
  · exact reportAlike_leftOpen related

theorem Platform.dnsInstance_alike (domain crn : String) :
    ReportAlike errors (dnsInstance domain crn path) (dnsInstance domain crn path) := by
  apply Related.query_bind
  rintro _ _ (related | -)
  · dsimp only
    rw [classes.isInterrupted related]
    split
    · exact reportAlike_leftOpen related
    · exact .report_bind (reportAlike_pure _)
  -- Which instance it is does not matter to the lookup of the zone.
  · apply Related.query_bind
    rintro _ _ (related | alike)
    · dsimp only
      rw [classes.isInterrupted related]
      split
      · exact reportAlike_leftOpen related
      · exact reportAlike_pure _
    · dsimp only [Query.ReadAlike] at alike ⊢
      simp only [alike]
      split <;> exact reportAlike_pure _

theorem Platform.osImage_alike (image region : String) :
    ReportAlike errors (osImage image region path) (osImage image region path) := by
  apply Related.query_bind
  rintro _ _ (related | -)
  · dsimp only
    rw [classes.isInterrupted related, classes.isNotFound related]
    split
    · exact reportAlike_leftOpen related
    · split
      · exact .report_bind (reportAlike_pure _)
      · exact reportAlike_pure _
  · exact reportAlike_pure []

omit classes in
theorem Platform.resourceGroup_alike (name : String) :
    ReportAlike errors (resourceGroup name path) (resourceGroup name path) := by
  apply Related.query_bind
  rintro _ _ (related | members)
  · exact reportAlike_leftOpen related
  · dsimp only
    rw [any_eq_of_mem_iff members]
    split <;> exact reportAlike_pure _

theorem Network.vpcWithin_alike (scope : Option String) (name : String) :
    ReportAlike errors (vpcWithin scope name path) (vpcWithin scope name path) := by
  apply Related.report_bind
  apply Related.query_bind
  rintro _ _ (related | -)
  · exact reportAlike_lookupIssue classes related
  · exact reportAlike_pure []

theorem Network.vpc_alike (p : Install.Platform) (name : String) :
    ReportAlike errors (vpc p name path) (vpc p name path) := by
  unfold vpc
  split
  · exact vpcWithin_alike classes _ name
  · apply Related.query_bind
    rintro _ _ (related | sameId)
    · exact reportAlike_lookupIssue classes related
    -- The id of the group is all that goes into the second lookup.
    · dsimp only [Query.ReadAlike] at sameId ⊢
      rw [sameId]
      exact vpcWithin_alike classes _ name

/-- The zones of a region that a check works with are the same list however they are listed. -/
inductive ZonesAlike (errors : LookupError → LookupError → Prop) :
    Except LookupError (List String) → Except LookupError (List String) → Prop
  | error {e e' : LookupError} : errors e e' → ZonesAlike errors (.error e) (.error e')
  | ok (zones : List String) : ZonesAlike errors (.ok zones) (.ok zones)

omit classes in
theorem regionZones_alike (region : String) :
    Related (ResultsAlike errors) (ZonesAlike errors) (regionZones region) (regionZones region) := by
  apply Related.query_bind
  rintro _ _ (related | perm)
  · exact .pure (.error related)
  · rename_i zones others
    dsimp only
    rw [mergeSort_eq_of_perm perm]
    exact .pure (.ok _)

theorem Network.subnet_alike (zones : Option (List String)) (id : String) :
    ReportAlike errors (subnet zones id path) (subnet zones id path) := by
  apply Related.query_bind
  rintro _ _ (related | sameZone)
  · exact reportAlike_lookupIssue classes related
  · dsimp only [Query.ReadAlike] at sameZone ⊢
    rw [sameZone]
    split
    · exact reportAlike_pure []
    · split <;> exact reportAlike_pure _

theorem Network.subnets_alike (region : String) (ids : List String) :
    ReportAlike errors (subnets region ids path) (subnets region ids path) := by
  have each (zones : Option (List String)) :
      ReportAlike errors (concat (ids.map fun id => subnet zones id path))
        (concat (ids.map fun id => subnet zones id path)) := by
    apply reportAlike_concat
    rw [List.forall_mem_map]
    exact fun id _ => subnet_alike classes zones id
  apply (regionZones_alike region).bind
  -- Whether the zones are known decides what is said of a subnet, not that it is looked up.
  rintro _ _ (related | zones)
  · refine (each none).bind fun _ _ alike => ?_
    exact .pure (.cons (.leftOpen related) alike)
  · exact each (some zones)

theorem Network.network_alike (p : Install.Platform) :
    ReportAlike errors (network p path) (network p path) := by
  apply reportAlike_concat
  rw [List.forall_mem_cons, List.forall_mem_singleton]
  exact ⟨reportAlike_ifNamed fun name => vpc_alike classes p name,
    reportAlike_ifListed (subnets_alike classes p.region p.subnets)⟩

omit classes in
theorem Machines.instanceType_alike (name : String) :
    ReportAlike errors (instanceType name path) (instanceType name path) := by
  apply Related.query_bind
  rintro _ _ (related | members)
  · exact reportAlike_leftOpen related
  · dsimp only
    rw [any_eq_of_mem_iff members]
    split <;> exact reportAlike_pure _

omit classes in
theorem Machines.zones_alike (region : String) (declared : List String) :
    ReportAlike errors (zones region declared path) (zones region declared path) := by
  apply (regionZones_alike region).bind
  rintro _ _ (related | valid)
  · exact reportAlike_leftOpen related
  · exact reportAlike_pure _

theorem Machines.bootVolumeKey_alike (key : String) :
    ReportAlike errors (bootVolumeKey key path) (bootVolumeKey key path) := by
  apply Related.query_bind
  rintro _ _ (related | -)
  · exact reportAlike_lookupIssue classes related
  · exact reportAlike_pure []

theorem Machines.pool_alike (region : String) (s : Install.PoolSettings) :
    ReportAlike errors (pool region s path) (pool region s path) := by
  apply reportAlike_concat
  rw [List.forall_mem_cons, List.forall_mem_cons, List.forall_mem_singleton]
  exact ⟨reportAlike_ifNamed fun name => instanceType_alike name,
    reportAlike_ifListed (zones_alike region s.zones),
    reportAlike_ifNamed fun key => bootVolumeKey_alike classes key⟩

theorem Platform.platform_alike (regions : Region.Catalog) (domain : String) (p : Install.Platform) :
    ReportAlike errors (platform regions domain p path) (platform regions domain p path) := by
  apply reportAlike_concat
  rw [List.forall_mem_cons, List.forall_mem_cons, List.forall_mem_cons, List.forall_mem_cons,
    List.forall_mem_cons, List.forall_mem_cons, List.forall_mem_singleton]
  refine ⟨reportAlike_pure _, dnsInstance_alike classes domain p.dnsInstanceCrn,
    osImage_alike classes p.osImage p.region,
    reportAlike_ifNamed fun name => resourceGroup_alike name, reportAlike_pure _,
    Network.network_alike classes p, ?_⟩
  split
  · exact .report_bind (Machines.pool_alike classes p.region _)
  · exact reportAlike_pure []

namespace Service

theorem controlPlane_alike (region : String) (pool : Option Install.MachinePool) :
    ReportAlike errors (controlPlane region pool) (controlPlane region pool) := by
  unfold controlPlane
  split
  · exact reportAlike_pure []
  · exact .report_bind (Machines.pool_alike classes region _)

theorem compute_alike (region : String) (pool : Install.MachinePool) (position : Nat) :
    ReportAlike errors (compute region pool position) (compute region pool position) := by
  unfold compute
  split
  · exact reportAlike_pure []
  · exact .report_bind (Machines.pool_alike classes region _)

/-- A whole check reports alike on results that are alike, lookup by lookup and issue by issue. -/
theorem checks_alike (regions : Region.Catalog) (c : Install.Config) (p : Install.Platform) :
    ReportAlike errors (checks regions c p) (checks regions c p) := by
  have each : ReportAlike errors (concat (parts regions c p)) (concat (parts regions c p)) := by
    apply reportAlike_concat
    rw [parts, List.forall_mem_cons, List.forall_mem_cons]
    refine ⟨Platform.platform_alike classes regions c.baseDomain p,
      controlPlane_alike classes p.region c.controlPlane, fun i member => ?_⟩
    obtain ⟨position, listed, rfl⟩ := List.mem_mapIdx.mp member
    exact compute_alike classes p.region c.compute[position] position
  exact .report_bind (each.bind fun _ _ alike => .report_bind (.pure alike))

end Service

end Parts

/-- Answers that are read alike, with the same errors, lead to the same report. -/
theorem Service.value_checks_congr {regions : Region.Catalog} {c : Install.Config}
    {p : Install.Platform} {answers others : (q : Query) → q.Result}
    (alike : ∀ q, ResultsAlike Eq q (answers q) (others q)) :
    (checks regions c p).value answers = (checks regions c p).value others := by
  have issues := (checks_alike withinClasses_eq regions c p).value alike
  rw [← List.forall₂_eq_eq_eq]
  refine issues.imp ?_
  rintro _ _ (i | rfl) <;> rfl

end Check

end InstallCheck
