import InstallCheck.Cloud.Resource
import InstallCheck.Lookup.Error

/-!
The lookups that can be made against a cloud account. What answers them may depend on everything asked
before; it takes time, and meanwhile the run that asks may be cancelled.
-/
namespace InstallCheck.Cloud

inductive Query
  /-- The zones of a region. -/
  | vpcZones (region : String)
  /-- The resource group with an id or name. -/
  | resourceGroup (idOrName : String)
  /-- Every resource group. -/
  | resourceGroups
  /-- The DNS service instance with a resource name. -/
  | dnsInstance (crn : String)
  /-- The id of the zone of a domain that an instance manages. -/
  | zoneId (crn domain : String)
  /-- Every DNS zone. -/
  | dnsZones
  /-- The image with a name in a region. -/
  | image (name region : String)
  /-- The virtual private cloud with an id or name, in a resource group if one is given. -/
  | vpc (idOrName : String) (scope : Option String)
  /-- The subnet with an id. -/
  | subnet (id : String)
  /-- Every machine type. -/
  | instanceProfiles
  /-- The encryption key with an id. -/
  | encryptionKey (id : String)
  deriving DecidableEq, Repr

namespace Query

/-- What a lookup yields when it succeeds. -/
abbrev Answer : Query → Type
  | vpcZones _ => List String
  | resourceGroup _ => ResourceGroup
  | resourceGroups => List ResourceGroup
  | dnsInstance _ => DnsInstance
  | zoneId .. => String
  | dnsZones => List DnsZone
  | image .. => Image
  | vpc .. => Vpc
  | subnet _ => Subnet
  | instanceProfiles => List InstanceProfile
  | encryptionKey _ => EncryptionKey

def operation : Query → String
  | vpcZones _ => "vpc_zones"
  | resourceGroup _ => "resource_group"
  | resourceGroups => "resource_groups"
  | dnsInstance _ => "cis_instance"
  | zoneId .. => "zone_id_by_name"
  | dnsZones => "dns_zones"
  | image .. => "custom_image_by_name"
  | vpc .. => "vpc"
  | subnet _ => "subnet"
  | instanceProfiles => "instance_profiles"
  | encryptionKey _ => "encryption_key"

/-- The result of a lookup. -/
abbrev Result (q : Query) : Type := Except LookupError q.Answer

end Query

/-- What comes of a lookup: its result, how long it took, and whether the run was cancelled before it
came back. -/
structure Reply (q : Query) where
  result : q.Result
  elapsed : Duration
  cancels : Bool

end InstallCheck.Cloud

namespace InstallCheck

/-- A cloud: what comes of a lookup with a time limit, after the lookups made so far, oldest first. -/
abbrev Cloud := (limit : Duration) → (earlier : List Cloud.Query) → (q : Cloud.Query) → Cloud.Reply q

end InstallCheck
