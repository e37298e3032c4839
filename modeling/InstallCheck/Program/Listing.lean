import InstallCheck.Check.Service
import InstallCheck.Cloud.Account
import InstallCheck.Install.Loading
import InstallCheck.Install.Metadata
import InstallCheck.Output.Writer
import InstallCheck.Program.Task
import InstallCheck.Settings.Basic

/-!
Commands that list what is known: the regions that are allowed, the DNS zones of an account, and what a
cluster has to be torn down by.
-/
namespace InstallCheck.Program

open Output (Writer)

/-- Lists the regions that are allowed. -/
def regions (s : Settings) (w : Writer) : Task Unit :=
  Task.write
    (if w.isJson then Writer.document (.ofNameMap .text s.catalog)
    else
      w.header "Supported regions:" ++ s.catalog.describe.flatMap fun line => w.print ("  " ++ line))

namespace Zones

def target : String := "preflight::commands::zones"

/-- What is written about the zones of an account. -/
def report (w : Writer) (zones : List Cloud.DnsZone) : List String :=
  if w.isJson then Writer.document (.list (zones.map (·.toDocument)))
  else if zones.isEmpty then w.warning "No DNS zones found"
  else
    w.header "DNS zones:" ++
      zones.flatMap fun z => w.print s!"  {z.name} ({z.instanceName})"

end Zones

/-- Lists the DNS zones of a recorded account. -/
def zones (s : Settings) (w : Writer) (recordings : List String) : Task Unit :=
  Task.during ⟨Zones.target, "execute", [("snapshots", toString recordings.length)]⟩ do
    let d ← Task.disk
    Task.logAll (Cloud.Recording.reports d recordings)
    match Cloud.Recording.load d recordings with
    | .error e => throw (.recording e)
    | .ok snapshot =>
      let service : Check.Service := ⟨(Cloud.Account.ofSnapshot snapshot).cloud, s.catalog, s.limit⟩
      let (result, session) := service.dnsZones
      Task.logAll (session.events.map (·.within Check.Service.zonesSpan))
      match result with
      | .error e => throw (.check e)
      | .ok zones =>
        Task.log (.plain Zones.target .info "Listing DNS zones" [("count", toString zones.length)])
        Task.write (Zones.report w zones)

/-- Tells what a cluster has to be torn down by. -/
def metadata (config : Files.Given) : Task Unit :=
  Task.during ⟨"preflight::commands::metadata", "execute", [("install_config", config.shown)]⟩ do
    match Install.loadConfig (← Task.disk) config with
    | .error e => throw e
    | .ok c =>
      match Install.Metadata.ofConfig c with
      | none => throw (.check Check.Service.noPlatform)
      | some found => Task.write (Writer.document found.toDocument)

end InstallCheck.Program
