import InstallCheck.Check.Platform
import InstallCheck.Proofs.Inquiry.Dialogue
import Mathlib

/-!
What a lookup of a check was made for, what came of it, and which issues that is. A failed lookup is
always exactly one issue, whose kind depends on the subject; an answer is an issue for each thing in it
that breaks the config.
-/
namespace InstallCheck.Check

open Cloud (Query)
open InstallCheck.Field (Issue Path)

/-- What a lookup of a check is to decide. -/
inductive Subject
  | dnsInstance (crn : String)
  | dnsZone (crn domain : String)
  | osImage (name region : String)
  | resourceGroup (name : String)
  /-- The group that limits the search for a private cloud. -/
  | vpcGroup (name : String)
  | vpc (name : String) (scope : Option String)
  /-- The zones in which the subnets of a region have to lie. -/
  | subnetZones (region : String)
  /-- A subnet; the zones in which it has to lie may be unknown. -/
  | subnet (id : String) (zones : Option (List String))
  | machineType (name : String)
  /-- The zones of a region, of which the declared ones have to be some. -/
  | machineZones (region : String) (declared : List String)
  | encryptionKey (id : String)
  deriving DecidableEq, Repr

namespace Subject

/-- The lookup that decides a subject. -/
abbrev query : Subject → Query
  | dnsInstance crn => .dnsInstance crn
  | dnsZone crn domain => .zoneId crn domain
  | osImage name region => .image name region
  | resourceGroup _ => .resourceGroups
  | vpcGroup name => .resourceGroup name
  | vpc name scope => .vpc name scope
  | subnetZones region => .vpcZones region
  | subnet id _ => .subnet id
  | machineType _ => .instanceProfiles
  | machineZones region _ => .vpcZones region
  | encryptionKey id => .encryptionKey id

/-- The kind of issue that a failed lookup is: for an instance, an image or a zone only an interrupted
lookup leaves the question open; for what is looked up by its own name a resource that does not exist
is known to; the failure of a listing never says anything. -/
def failureKind (e : LookupError) : Subject → Issue.Kind
  | dnsInstance _ | osImage .. => if e.isInterrupted then .internalError else .notFound
  | dnsZone .. => if e.isInterrupted then .internalError else .invalid
  | vpcGroup _ | vpc .. | subnet .. | encryptionKey _ =>
    if e.isNotFound then .notFound else .internalError
  | resourceGroup _ | subnetZones _ | machineType _ | machineZones .. => .internalError

/-- Why an instance does not serve for a base domain. -/
def noZone (domain : String) : String :=
  "the CIS instance has no active DNS zone for base domain " ++ domain

/-- Why a zone or a subnet does not serve, with the zones that do in ascending order. -/
def notAmong (thing : String) (zones : List String) : String :=
  thing ++ " is not in expected zones: " ++ zoneList (zones.mergeSort (· ≤ ·))

/-- The issue that a failed lookup is. -/
def failure (place : Path) (e : LookupError) : Subject → Issue
  | dnsInstance value | osImage value _ =>
    if e.isInterrupted then .internalError place e.text else .notFound place value
  | dnsZone crn domain =>
    if e.isInterrupted then .internalError place e.text else .invalid place crn (noZone domain)
  | vpcGroup value | vpc value _ | subnet value _ | encryptionKey value =>
    if e.isNotFound then .notFound place value else .internalError place e.text
  | resourceGroup _ | subnetZones _ | machineType _ | machineZones .. =>
    .internalError place e.text

theorem kind_failure (place : Path) (e : LookupError) (s : Subject) :
    (s.failure place e).kind = s.failureKind e := by
  cases s <;> simp [failure, failureKind, apply_ite Issue.kind, Issue.internalError,
    Issue.notFound, Issue.invalid]

theorem path_failure (place : Path) (e : LookupError) (s : Subject) :
    (s.failure place e).path = place := by
  cases s <;> simp [failure, apply_ite Issue.path, Issue.internalError, Issue.notFound,
    Issue.invalid]

/-- The issues that an answer is. -/
def objections (place : Path) : (s : Subject) → s.query.Answer → List Issue
  | dnsZone crn domain, id => if id = "" then [.invalid place crn (noZone domain)] else []
  | resourceGroup name, groups =>
    if ∃ g ∈ groups, g.id = name ∨ g.name = name then [] else [.notFound place name]
  | subnet id (some zones), found =>
    if found.zone ∈ zones then [] else [.invalid place id (notAmong "subnet" zones)]
  | machineType name, profiles =>
    if ∃ m ∈ profiles, m.name = name then [] else [.notFound place name]
  | machineZones _ declared, zones =>
    (declared.filter (· ∉ zones)).map fun zone => .invalid place zone (notAmong "zone" zones)
  -- What is found by its own name cannot be wrong; a subnet cannot be either while zones are unknown.
  | dnsInstance _, _ | osImage .., _ | vpcGroup _, _ | vpc .., _ | subnetZones _, _
  | subnet _ none, _ | encryptionKey _, _ => []

/-- How many things in an answer break the config. -/
def rejections : (s : Subject) → s.query.Answer → Nat
  | dnsZone .., id => if id = "" then 1 else 0
  | resourceGroup name, groups => if ∃ g ∈ groups, g.id = name ∨ g.name = name then 0 else 1
  | subnet _ (some zones), found => if found.zone ∈ zones then 0 else 1
  | machineType name, profiles => if ∃ m ∈ profiles, m.name = name then 0 else 1
  | machineZones _ declared, zones => (declared.filter (· ∉ zones)).length
  | dnsInstance _, _ | osImage .., _ | vpcGroup _, _ | vpc .., _ | subnetZones _, _
  | subnet _ none, _ | encryptionKey _, _ => 0

theorem path_of_mem_objections {place : Path} {s : Subject} {answer : s.query.Answer} :
    ∀ i ∈ s.objections place answer, i.path = place := by
  unfold objections
  split
  · split <;> simp [Issue.invalid]
  · split <;> simp [Issue.notFound]
  · split <;> simp [Issue.invalid]
  · split <;> simp [Issue.notFound]
  · rw [List.forall_mem_map]
    exact fun zone _ => rfl
  all_goals simp

theorem length_objections (place : Path) (s : Subject) (answer : s.query.Answer) :
    (s.objections place answer).length = s.rejections answer := by
  unfold objections rejections
  split <;> simp [apply_ite List.length]

end Subject

/-- What came of the lookup that decides a subject, and where in the config it is reported. -/
structure Finding where
  place : Path
  subject : Subject
  result : subject.query.Result

namespace Finding

/-- The lookup of a finding, with its answer. -/
def exchange (f : Finding) : Exchange := ⟨f.subject.query, f.result⟩

/-- The issues that a finding is. -/
def issues (f : Finding) : List Issue :=
  match f.result with
  | .error e => [f.subject.failure f.place e]
  | .ok answer => f.subject.objections f.place answer

/-- Whether the lookup failed. -/
def failed (f : Finding) : Bool := !f.result.isOk

/-- How many things in the answer break the config; a failed lookup has none. -/
def rejections (f : Finding) : Nat :=
  match f.result with
  | .error _ => 0
  | .ok answer => f.subject.rejections answer

/-- Every issue of a finding is reported at its place. -/
theorem path_of_mem_issues {f : Finding} {i : Issue} (member : i ∈ f.issues) : i.path = f.place := by
  unfold issues at member
  split at member
  · rw [List.mem_singleton.mp member]
    exact f.subject.path_failure f.place _
  · exact Subject.path_of_mem_objections i member

theorem length_issues (f : Finding) :
    f.issues.length = (if f.failed then 1 else 0) + f.rejections := by
  unfold issues failed rejections
  cases f.result with
  | error e => rfl
  | ok answer => simp [Subject.length_objections, Except.isOk, Except.toBool]

/-- The issues of findings number the failed lookups and the rejections together. -/
theorem length_flatMap_issues (fs : List Finding) :
    (fs.flatMap issues).length = fs.countP failed + (fs.map rejections).sum := by
  induction fs with
  | nil => rfl
  | cons f fs ih =>
    rw [List.flatMap_cons, List.length_append, ih, length_issues, List.countP_cons,
      List.map_cons, List.sum_cons]
    omega

end Finding

end InstallCheck.Check
