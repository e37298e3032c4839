import InstallCheck.Decimal.Reading
import InstallCheck.Logging.Event
import InstallCheck.Text.Blank

/-!
Which events are logged. A rule says up to which level events of some part of the program are logged,
or events in the course of some activity. Of the rules for parts, the one that names the part most
exactly decides.
-/
namespace InstallCheck.Logging

namespace Level

def name : Level → String
  | error => "error"
  | warn => "warn"
  | info => "info"
  | debug => "debug"
  | trace => "trace"

end Level

/-- Up to which level events are logged. -/
inductive Limit
  | off
  | upTo (level : Level)
  deriving DecidableEq, Repr

namespace Limit

/-- Whether events of a level are logged. -/
def allows : Limit → Level → Bool
  | off, _ => false
  | upTo limit, level => level.rank ≤ limit.rank

def name : Limit → String
  | off => "off"
  | upTo level => level.name

/-- All limits, in order of the numbers that stand for them. -/
def all : List Limit := [off, upTo .error, upTo .warn, upTo .info, upTo .debug, upTo .trace]

/-- The limit that a number or a name in any case stands for. -/
def ofText? (s : String) : Option Limit :=
  match Decimal.natural? s with
  | some n => all[n]?
  | none => all.find? (·.name = s.toLower)

end Limit

/-- A limit for the parts of the program whose names begin with the given text; if an activity is named,
then only for what happens in the course of it. -/
structure Rule where
  part : String
  activity : Option String
  limit : Limit
  deriving DecidableEq, Repr

namespace Rule

/-- The limit after an equals sign; an empty one is that nothing is left out. -/
def limitAfter? : List Char → Option Limit
  | [] => some (.upTo .trace)
  | '=' :: text => if text.isEmpty then some (.upTo .trace) else Limit.ofText? (String.ofList text)
  | _ => none

/-- The rule for an activity of a part, whose name ends with a bracket. -/
def ofActivity? (part : String) (cs : List Char) : Option Rule :=
  let name := cs.takeWhile (· ≠ ']')
  match cs.drop name.length with
  | [] => none
  | _ :: rest => (limitAfter? rest).map fun limit => ⟨part, some (String.ofList name), limit⟩

/-- The rule for a part without a limit, which may be a limit for all parts instead. -/
def ofName (name : String) : Rule :=
  match Limit.ofText? name with
  | some limit => ⟨"", none, limit⟩
  | none => ⟨name, none, .upTo .trace⟩

/-- Whether the name of a part may begin with a character. -/
def isNameStart (c : Char) : Bool :=
  c.isAlphanum || 128 ≤ c.toNat || ['-', ':', '_'].contains c

/-- The rule that a text stands for. Blanks before it are only part of a name. -/
def ofText? (s : String) : Option Rule :=
  let name := s.toList.takeWhile fun c => c ≠ '=' && c ≠ '['
  match Text.afterBlanks name, s.toList.drop name.length with
  | [], '[' :: rest => ofActivity? "" rest
  | [], _ => none
  | c :: below, rest =>
    if !isNameStart c then none
    else if rest.isEmpty then some (ofName s)
    else if below.length + 1 < name.length then none
    else
      match rest with
      | '[' :: rest => ofActivity? (String.ofList name) rest
      | rest => (limitAfter? rest).map fun limit => ⟨String.ofList name, none, limit⟩

/-- Whether a rule is for what happens in the course of an activity. -/
def covers (r : Rule) (s : Span) : Bool :=
  r.activity = some s.name && s.target.startsWith r.part

def text (r : Rule) : String := r.part ++ "=" ++ r.limit.name

end Rule

/-- Rules for what is logged. -/
structure Filter where
  rules : List Rule
  deriving DecidableEq, Repr

namespace Filter

/-- The parts of the program. -/
def parts : List String := ["preflight", "preflight_core", "preflight_adapters"]

/-- The filter with one limit for every part of the program. -/
def ofLevel (level : Level) : Filter := ⟨parts.map fun part => ⟨part, none, .upTo level⟩⟩

def text (f : Filter) : String := ",".intercalate (f.rules.map (·.text))

/-- The filter where a text holds no rules. -/
def unruled : Filter := ⟨[⟨"", none, .upTo .error⟩]⟩

/-- The filter that a text stands for: rules with commas between them. -/
def ofText? (s : String) : Option Filter := do
  let rules ← ((s.splitOn ",").filter (· ≠ "")).mapM Rule.ofText?
  return if rules.isEmpty then unruled else ⟨rules⟩

/-- The filter of a text if that stands for one, and else the one with a limit for every part. -/
def choose (text : Option String) (level : Level) : Filter :=
  (text.bind ofText?).getD (ofLevel level)

/-- The rule that names a part most exactly; of several for the same name, the last. -/
def ruleFor? (f : Filter) (part : String) : Option Rule :=
  (f.rules.filter fun r => r.activity.isNone && part.startsWith r.part).foldl
    (fun best r =>
      match best with
      | some b => if r.part.length < b.part.length then best else some r
      | none => some r) none

/-- Whether events of a part are logged at a level, in the course of the given activities. -/
def allows (f : Filter) (spans : List Span) (part : String) (level : Level) : Bool :=
  (spans.any fun s => f.rules.any fun r => r.covers s && r.limit.allows level) ||
    ((f.ruleFor? part).map (·.limit.allows level)).getD false

/-- The level of activities. -/
def spanLevel : Level := .info

/-- The activities that are logged, given those around them that are. -/
def shown (f : Filter) (outer : List Span) : List Span → List Span
  | [] => outer
  | s :: rest =>
    if f.rules.any (·.covers s) || f.allows outer s.target spanLevel then
      f.shown (outer ++ [s]) rest
    else f.shown outer rest

/-- An event as it is logged, if it is. -/
def admit? (f : Filter) (e : Event) : Option Event :=
  let spans := f.shown [] e.spans
  if f.allows spans e.target e.level then some { e with spans := spans } else none

end Filter

end InstallCheck.Logging
