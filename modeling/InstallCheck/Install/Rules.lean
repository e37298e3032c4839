import InstallCheck.Crn
import InstallCheck.Field.Issue
import InstallCheck.Install.Config
import InstallCheck.Region

/-!
The rules that a platform section has to keep whatever the cloud holds: mandatory fields, regions of
the catalog, well-formed resource names, and a network that is given completely or not at all.
-/
namespace InstallCheck.Install.Rules

open InstallCheck.Field

/-- The region is one of the catalog. The path is that of the region. -/
def region (regions : Region.Catalog) (name : String) (path : Path) : List Issue :=
  if name = "" then [.required path "region must be specified"]
  else if regions.contains name then []
  else [.notSupported path name regions.shortNames]

/-- The image is named. The path is that of the image. -/
def osImage (name : String) (path : Path) : List Issue :=
  if name = "" then [.required path "clusterOSImage must be specified"] else []

/-- The DNS service instance is given by a well-formed resource name. The path is that of the name. -/
def dnsInstanceCrn (crn : String) (path : Path) : List Issue :=
  if crn = "" then [.required path "cisInstanceCRN must be specified"]
  else
    match Crn.parse crn with
    | .ok _ => []
    | .error _ => [.invalid path crn "cisInstanceCRN is not a valid IBM CRN"]

/-- Why one half of a network must not be missing. -/
def networkDetail : String :=
  "if either one of the vpc or subnets fields is defined, they both must be defined"

/-- A private cloud and subnets are both given or both absent. The path is that of the platform. -/
def network (p : Platform) (path : Path) : List Issue :=
  if p.hasNetwork then
    (if p.vpcName.isNone then [.required (path.child "vpc") networkDetail] else []) ++
      (if p.subnets.isEmpty then [.required (path.child "subnets") networkDetail] else [])
  else []

/-- Every rule for a platform section. -/
def platform (regions : Region.Catalog) (p : Platform) (path : Path) : List Issue :=
  region regions p.region (path.child "region") ++
    osImage p.osImage (path.child "clusterOSImage") ++
    dnsInstanceCrn p.dnsInstanceCrn (path.child "cisInstanceCRN") ++
    network p path

end InstallCheck.Install.Rules
