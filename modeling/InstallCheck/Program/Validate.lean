import InstallCheck.Check.Service
import InstallCheck.Cloud.Account
import InstallCheck.Field.Document
import InstallCheck.Install.Loading
import InstallCheck.Output.Writer
import InstallCheck.Program.Task
import InstallCheck.Settings.Basic

/-!
Checking an install config. The checks that need no cloud come first; only if they find nothing are the
recordings loaded and the cloud checks made, so that each issue is reported once.
-/
namespace InstallCheck.Program

open InstallCheck.Field (Issue)
open Logging (Span)
open Output (Writer)

/-- What a run cannot know by itself: the time at which it is, and an identifier of its own. -/
structure Moment where
  time : String
  runId : String

namespace Validate

/-- What is to be checked, and how. -/
structure Options where
  config : Files.Given
  recordings : List String
  offline : Bool

def target : String := "preflight::commands::validate"

/-- The activity of carrying out a command on an install config. -/
def span (target config : String) : Span := ⟨target, "execute", [("install_config", config)]⟩

/-- The issues found in the install config at a path, as a document. -/
def document (m : Moment) (path : String) (offline : Bool) (issues : List Issue) : Document :=
  .record
    [("install_config", .text path), ("valid", .bool issues.isEmpty), ("offline", .bool offline),
      ("errors", .list (issues.map Issue.toDocument)), ("checked_at", .text m.time)]

/-- The failure to make a document of a path that is not a text. -/
def pathNotText : CommandError :=
  let reason := "path contains invalid UTF-8 characters"
  .file reason (.other reason)

/-- The issues found as a list for people. -/
def listing (w : Writer) (o : Options) (issues : List Issue) : List String :=
  if issues.isEmpty then
    w.success
      (if o.offline then s!"{o.config.shown}: offline checks passed" else s!"{o.config.shown} is valid")
  else
    w.header s!"{o.config.shown}: {issues.length} problem(s) found" ++
      issues.flatMap (fun i => w.failure i.text) ++
      (if o.offline then w.warning "Cloud checks were skipped (--offline)" else [])

/-- What is written about the issues found, unless it cannot be. -/
def report (m : Moment) (w : Writer) (o : Options) (issues : List Issue) :
    Except CommandError (List String) :=
  if w.isJson then
    match o.config.text? with
    | some path => .ok (Writer.document (document m path o.offline issues))
    | none => .error pathNotText
  else .ok (listing w o issues)

/-- The issues that the cloud checks find. -/
def crossCheck (m : Moment) (s : Settings) (o : Options) (c : Install.Config) (p : Install.Platform) :
    Task (List Issue) := do
  let d ← Task.disk
  Task.logAll (Cloud.Recording.reports d o.recordings)
  match Cloud.Recording.load d o.recordings with
  | .error e => throw (.recording e)
  | .ok snapshot =>
    let service : Check.Service := ⟨(Cloud.Account.ofSnapshot snapshot).cloud, s.catalog, s.limit⟩
    Task.log (.plain target .info "Cross-validating against cloud"
      [("snapshots", toString o.recordings.length)])
    let (result, session) := service.check service.newSession c
    Task.logAll (session.events.map (·.within (Check.Service.checkSpan m.runId c p)))
    match result with
    | .ok issues => return issues
    | .error e => throw (.check e)

/-- Checks an install config that has been read. -/
def checkConfig (m : Moment) (s : Settings) (w : Writer) (o : Options) (c : Install.Config) :
    Task Unit :=
  match c.platform with
  | none => throw (.check Check.Service.noPlatform)
  | some p => do
    let offlineIssues := Install.Rules.platform s.catalog p Check.Service.platformPath
    Task.log (.plain target .debug "Offline checks finished"
      [("errors", toString offlineIssues.length)])
    let issues ←
      if offlineIssues.isEmpty && !o.offline then crossCheck m s o c p else pure offlineIssues
    match report m w o issues with
    | .error e => throw e
    | .ok pieces =>
      Task.write pieces
      unless issues.isEmpty do throw (.issuesFound issues.length)

end Validate

/-- Checks an install config and reports every issue; it fails if there are any. -/
def validate (m : Moment) (s : Settings) (w : Writer) (o : Validate.Options) : Task Unit :=
  Task.during (Validate.span Validate.target o.config.shown) do
    match Install.loadConfig (← Task.disk) o.config with
    | .error e => throw e
    | .ok c => Validate.checkConfig m s w o c

end InstallCheck.Program
