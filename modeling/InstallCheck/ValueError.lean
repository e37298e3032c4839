import InstallCheck.Category
import InstallCheck.Crn
import InstallCheck.Region

/-!
Values that cannot be made sense of, as opposed to sensible values that break a rule.
-/
namespace InstallCheck

inductive ValueError
  | invalidCrn (crn reason : String)
  | unknownRegion (region : String)
  | missingPlatform (platform : String)
  deriving DecidableEq, Repr

namespace ValueError

def text : ValueError → String
  | invalidCrn crn reason => s!"'{crn}' is not a valid IBM CRN: {reason}"
  | unknownRegion region => s!"unknown region '{region}'"
  | missingPlatform platform => s!"install config has no '{platform}' platform section"

def name : ValueError → String
  | invalidCrn .. => "InvalidCrn"
  | unknownRegion _ => "UnknownRegion"
  | missingPlatform _ => "MissingPlatform"

def category : ValueError → Category
  | invalidCrn .. => .validation
  | unknownRegion _ => .notFound
  | missingPlatform _ => .configuration

def suggestions : ValueError → List String
  | invalidCrn crn _ =>
    [s!"Check the CRN: {crn}",
      "A CRN has ten ':'-separated segments and starts with 'crn:v1:'",
      "Copy it from the CIS instance details page"]
  | unknownRegion region => [s!"'{region}' is not a known region", "Try: preflight regions"]
  | missingPlatform platform => [s!"Add a 'platform.{platform}' section to the install config"]

end ValueError

def Crn.read (s : String) : Except ValueError Crn :=
  match Crn.parse s with
  | .ok crn => .ok crn
  | .error defect => .error (.invalidCrn s defect.message)

def Region.Catalog.displayName (c : Catalog) (region : String) : Except ValueError String :=
  match c.displayName? region with
  | some name => .ok name
  | none => .error (.unknownRegion region)

end InstallCheck
