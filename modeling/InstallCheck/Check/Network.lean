import InstallCheck.Check.Inquiry
import InstallCheck.Field.Issue
import InstallCheck.Install.Config
import InstallCheck.Text.Quoted

/-!
Checks of the zones of a region and of a network that exists already: its private cloud and its
subnets. The two halves of a network are checked independently of each other.
-/
namespace InstallCheck.Check

open Cloud (Query)
open InstallCheck.Field (Issue Path)
open Logging (Event)

/-- The issue that a failed lookup of a value is: a resource that does not exist is not found, and
anything else leaves the question open. -/
def lookupIssue (path : Path) (value : String) (e : LookupError) : Issue :=
  if e.isNotFound then .notFound path value else .internalError path e.text

/-- The zones of a region, ascending. -/
def regionZones (region : String) : Inquiry (Except LookupError (List String)) := do
  match ← Inquiry.query (.vpcZones region) with
  | .ok zones => return .ok (zones.mergeSort (· ≤ ·))
  | .error e => return .error e

def zoneList (zones : List String) : String := "[" ++ " ".intercalate zones ++ "]"

namespace Network

def target : String := "preflight_core::application::validators::network"

/-- The report that a private cloud is about to be looked up. -/
def resolving (vpc : String) (scope : Option String) : Event :=
  .plain target .debug "resolving VPC"
    [("vpc", Text.quoted vpc), ("resource_group", Text.quotedOption scope)]

/-- A private cloud exists, in the group that limits the search, if there is one. -/
def vpcWithin (scope : Option String) (vpc : String) (path : Path) : Inquiry (List Issue) := do
  Inquiry.report (resolving vpc scope)
  match ← Inquiry.query (.vpc vpc scope) with
  | .ok _ => return []
  | .error e => return [lookupIssue (path.child "vpc") vpc e]

/-- The named private cloud exists. A resource group of its own has to be found first and then limits
the search to that group; otherwise the resource group of the installation does. -/
def vpc (p : Install.Platform) (name : String) (path : Path) : Inquiry (List Issue) :=
  match p.vpcGroupName with
  | none => vpcWithin p.groupName name path
  | some group => do
    match ← Inquiry.query (.resourceGroup group) with
    | .ok found => vpcWithin (some found.id) name path
    | .error e => return [lookupIssue (path.child "vpcResourceGroup") group e]

/-- A subnet exists and lies in one of the given zones, if those are known. -/
def subnet (zones : Option (List String)) (id : String) (path : Path) : Inquiry (List Issue) := do
  match ← Inquiry.query (.subnet id) with
  | .error e => return [lookupIssue (path.child "subnets") id e]
  | .ok found =>
    match zones with
    | none => return []
    | some zones =>
      if zones.contains found.zone then return []
      else return [.invalid (path.child "subnets") id
        ("subnet is not in expected zones: " ++ zoneList zones)]

/-- Every subnet exists and lies in a zone of the region. When the zones cannot be had, that is an
issue of its own, and the subnets only have to exist. -/
def subnets (region : String) (ids : List String) (path : Path) : Inquiry (List Issue) := do
  match ← regionZones region with
  | .ok zones => Inquiry.concat (ids.map fun id => subnet (some zones) id path)
  | .error e =>
    let issues ← Inquiry.concat (ids.map fun id => subnet none id path)
    return .internalError (path.child "subnets") e.text :: issues

/-- The private cloud, if one is named, and the subnets, if any are listed. -/
def network (p : Install.Platform) (path : Path) : Inquiry (List Issue) :=
  Inquiry.concat
    [match p.vpcName with
      | some name => vpc p name path
      | none => return [],
    if p.subnets.isEmpty then return [] else subnets p.region p.subnets path]

end Network

end InstallCheck.Check
