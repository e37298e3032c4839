import InstallCheck.NameMap

/-!
The variables that a program is started with.
-/
namespace InstallCheck

/-- Environment variables by name. -/
abbrev Environment := NameMap String

end InstallCheck
