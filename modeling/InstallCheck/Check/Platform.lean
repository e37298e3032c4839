import InstallCheck.Check.Machines
import InstallCheck.Install.Rules

/-!
Checks of a platform section. Each of them is made whatever comes of the others.
-/
namespace InstallCheck.Check.Platform

open InstallCheck.Field (Issue Path)
open Logging (Event)

/-- The report that a DNS service instance was not found. -/
def unresolvedInstance (crn : String) (e : LookupError) : Event :=
  .plain "preflight_core::application::validators::dns" .debug "CIS instance did not resolve"
    [("error", e.text), ("crn", Text.quoted crn)]

/-- A DNS service instance exists and manages an active zone of the base domain. Only an interrupted
lookup leaves the question open. -/
def dnsInstance (baseDomain crn : String) (path : Path) : Inquiry (List Issue) := do
  let place := path.child "cisInstanceCRN"
  let noZone := Issue.invalid place crn
    ("the CIS instance has no active DNS zone for base domain " ++ baseDomain)
  match ← Inquiry.query (.dnsInstance crn) with
  | .error e =>
    if e.isInterrupted then return [.internalError place e.text]
    else
      Inquiry.report (unresolvedInstance crn e)
      return [.notFound place crn]
  | .ok _ =>
    match ← Inquiry.query (.zoneId crn baseDomain) with
    | .ok id => if id = "" then return [noZone] else return []
    | .error e => if e.isInterrupted then return [.internalError place e.text] else return [noZone]

/-- The report that the lookup of an image failed. -/
def failedImage (image region : String) (e : LookupError) : Event :=
  .plain "preflight_core::application::validators::image" .warn
    "image lookup failed, reporting as not found"
    [("error", e.text), ("image", Text.quoted image), ("region", Text.quoted region)]

/-- An image exists in the region. Only an interrupted lookup leaves the question open. -/
def osImage (image region : String) (path : Path) : Inquiry (List Issue) := do
  let place := path.child "clusterOSImage"
  match ← Inquiry.query (.image image region) with
  | .ok _ => return []
  | .error e =>
    if e.isInterrupted then return [.internalError place e.text]
    else
      if !e.isNotFound then Inquiry.report (failedImage image region e)
      return [.notFound place image]

/-- A resource group is one of the account's. -/
def resourceGroup (name : String) (path : Path) : Inquiry (List Issue) := do
  let place := path.child "resourceGroup"
  match ← Inquiry.query .resourceGroups with
  | .error e => return [.internalError place e.text]
  | .ok groups =>
    if groups.any (·.answersTo name) then return [] else return [.notFound place name]

/-- The report that the usual settings of machines are about to be checked. -/
def checkingDefault : Event :=
  .plain "preflight_core::application::validators::platform" .debug
    "validating default machine platform" []

/-- Every check of a platform section: region, DNS, image, and whatever else is set. -/
def platform (regions : Region.Catalog) (baseDomain : String) (p : Install.Platform) (path : Path) :
    Inquiry (List Issue) :=
  Inquiry.concat
    [return Install.Rules.region regions p.region (path.child "region"),
    dnsInstance baseDomain p.dnsInstanceCrn path,
    osImage p.osImage p.region path,
    match p.groupName with
      | some name => resourceGroup name path
      | none => return [],
    return Install.Rules.network p path,
    Network.network p path,
    match p.defaultMachines with
      | some settings => do
        Inquiry.report checkingDefault
        Machines.pool p.region settings (path.child "defaultMachinePlatform")
      | none => return []]

end InstallCheck.Check.Platform
