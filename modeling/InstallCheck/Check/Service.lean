import InstallCheck.Check.Platform
import InstallCheck.CheckError
import InstallCheck.Region

/-!
The whole check of an install config: its platform section, then the control plane, then every compute
pool in order. Every check is made; the report lists the issues in the order of the checks.
-/
namespace InstallCheck.Check

open InstallCheck.Field (Issue Path)
open Logging (Event Span)

/-- A cloud, the regions that are allowed, and the time limit of a lookup. -/
structure Service where
  cloud : Cloud
  regions : Region.Catalog
  limit : Duration

namespace Service

def target : String := "preflight_core::application::services::validation_service"

/-- Where the settings of the platform stand. -/
def platformPath : Path := (Path.top "platform").child "ibmcloud"

/-- Where the settings of the control plane stand. -/
def controlPlanePath : Path := ((Path.top "controlPlane").child "platform").child "ibmcloud"

/-- Where the settings of a compute pool stand. -/
def computePath (position : Nat) : Path :=
  (((Path.top "compute").index position).child "platform").child "ibmcloud"

/-- The checks of the control plane, if it has settings. -/
def controlPlane (region : String) (pool : Option Install.MachinePool) : Inquiry (List Issue) :=
  match pool.bind (·.settings) with
  | none => return []
  | some settings => do
    Inquiry.report (.plain target .debug "validating control plane pool" [])
    Machines.pool region settings controlPlanePath

/-- The checks of a compute pool, if it has settings. -/
def compute (region : String) (pool : Install.MachinePool) (position : Nat) : Inquiry (List Issue) :=
  match pool.settings with
  | none => return []
  | some settings => do
    Inquiry.report (.plain target .debug "validating compute pool"
      [("index", toString position), ("name", pool.name)])
    Machines.pool region settings (computePath position)

/-- Every check of an install config for the given platform. -/
def checks (regions : Region.Catalog) (c : Install.Config) (p : Install.Platform) :
    Inquiry (List Issue) := do
  Inquiry.report (.plain target .info "Validating install config" [])
  let issues ← Inquiry.concat
    (Platform.platform regions c.baseDomain p platformPath ::
      controlPlane p.region c.controlPlane ::
      c.compute.mapIdx fun position pool => compute p.region pool position)
  Inquiry.report (.plain target .info "Validation finished" [("errors", toString issues.length)])
  return issues

/-- The activity of checking an install config, under an identifier of the run. -/
def checkSpan (runId : String) (c : Install.Config) (p : Install.Platform) : Span :=
  ⟨target, "check",
    [("run_id", runId), ("base_domain", c.baseDomain), ("region", Text.quoted p.region)]⟩

/-- The error for an install config without a platform section. -/
def noPlatform : CheckError := .configuration (ValueError.missingPlatform "ibmcloud").text

/-- The issues of an install config, and the state of the run after the check. -/
def check (s : Service) (session : Session) (c : Install.Config) :
    Except CheckError (List Issue) × Session :=
  match c.platform with
  | none => (.error noPlatform, session)
  | some p =>
    let (issues, session) := (checks s.regions c p).run s.cloud session
    (.ok issues, session)

/-- Whether an install config has no issues. -/
def validate (s : Service) (session : Session) (c : Install.Config) :
    Except CheckError Unit × Session :=
  match s.check session c with
  | (.error e, session) => (.error e, session)
  | (.ok [], session) => (.ok (), session)
  | (.ok (i :: rest), session) => (.error (.issues (i :: rest)), session)

/-- A run that has not begun, with the time limit of the service. -/
def newSession (s : Service) : Session := .start s.limit false

/-- The activity of listing zones. -/
def zonesSpan : Span := ⟨target, "dns_zones", []⟩

/-- Asks for every DNS zone, and sorts them by name. -/
def zoneList : Inquiry (Except LookupError (List Cloud.DnsZone)) := do
  match ← Inquiry.query .dnsZones with
  | .error e => return .error e
  | .ok zones =>
    Inquiry.report (.plain target .info "Listed DNS zones" [("count", toString zones.length)])
    return .ok (zones.mergeSort fun a b => a.name ≤ b.name)

/-- Every DNS zone of the account, sorted by name; zones of one name stay in the account's order. -/
def dnsZones (s : Service) : Except CheckError (List Cloud.DnsZone) × Session :=
  match zoneList.run s.cloud s.newSession with
  | (.ok zones, session) => (.ok zones, session)
  | (.error e, session) => (.error (.lookup e), session)

end Service

end InstallCheck.Check
