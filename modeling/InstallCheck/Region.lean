import InstallCheck.NameMap

/-!
The regions an install may target, by short name, with the name shown to people.
-/
namespace InstallCheck.Region

/-- Short names and display names of the regions that are allowed. -/
abbrev Catalog := NameMap String

namespace Catalog

/-- The regions with virtual private clouds. -/
def builtIn : Catalog := .ofList
  [("us-south", "US South (Dallas)"),
    ("us-east", "US East (Washington DC)"),
    ("eu-gb", "United Kingdom (London)"),
    ("eu-de", "EU Germany (Frankfurt)"),
    ("jp-tok", "Japan (Tokyo)"),
    ("jp-osa", "Japan (Osaka)"),
    ("au-syd", "Australia (Sydney)"),
    ("ca-tor", "Canada (Toronto)")]

def shortNames (c : Catalog) : List String := c.names

def displayName? (c : Catalog) (region : String) : Option String := c.get? region

/-- One line for each region, in order of the short names. -/
def describe (c : Catalog) : List String :=
  c.entries.map fun e => e.1 ++ " (" ++ e.2 ++ ")"

end Catalog

end InstallCheck.Region
