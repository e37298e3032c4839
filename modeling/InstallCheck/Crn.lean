/-!
Cloud resource names: ten segments joined by `:`, of which the first is `crn` and the second, the
version, is not empty.
-/
namespace InstallCheck

/-- The pieces of a text between the occurrences of a separator; there is always at least one. -/
def splitAt (separator : Char) : List Char → List (List Char)
  | [] => [[]]
  | c :: rest =>
    if c = separator then [] :: splitAt separator rest
    else
      match splitAt separator rest with
      | [] => [[c]]
      | piece :: pieces => (c :: piece) :: pieces

structure Crn where
  version : String
  cloudName : String
  cloudType : String
  serviceName : String
  location : String
  scope : String
  serviceInstance : String
  resourceType : String
  resource : String
  deriving DecidableEq, Repr

namespace Crn

inductive Defect
  | segmentCount (found : Nat)
  | scheme
  | emptyVersion
  deriving DecidableEq, Repr

/-- What a defect says about the text. -/
def Defect.message : Defect → String
  | .segmentCount found => s!"expected 10 segments, found {found}"
  | .scheme => "must start with 'crn'"
  | .emptyVersion => "version segment is empty"

/-- The ten segments of a name, in order. -/
def segments (c : Crn) : List String :=
  ["crn", c.version, c.cloudName, c.cloudType, c.serviceName, c.location, c.scope,
    c.serviceInstance, c.resourceType, c.resource]

def text (c : Crn) : String := ":".intercalate c.segments

def ofSegments? : List String → Except Defect Crn
  | [scheme, version, cloudName, cloudType, serviceName, location, scope, serviceInstance,
      resourceType, resource] =>
    if scheme ≠ "crn" then .error .scheme
    else if version = "" then .error .emptyVersion
    else .ok ⟨version, cloudName, cloudType, serviceName, location, scope, serviceInstance,
      resourceType, resource⟩
  | segments => .error (.segmentCount segments.length)

def parse (s : String) : Except Defect Crn :=
  ofSegments? ((splitAt ':' s.toList).map String.ofList)

end Crn

end InstallCheck
