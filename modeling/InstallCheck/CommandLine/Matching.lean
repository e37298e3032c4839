import InstallCheck.CommandLine.Refusal
import InstallCheck.Environment
import InstallCheck.Text.Similarity

/-!
Finding the arguments of commands in a command line. Words are taken one after the other; an argument
that takes values takes the words after it, and counts once the next argument begins or the line ends.
-/
namespace InstallCheck.CommandLine

/-- Where an argument was found. -/
inductive Origin
  | environment
  | line
  deriving DecidableEq, Repr

/-- An argument that was found, with its values. -/
structure Found where
  id : String
  origin : Origin
  values : List String
  deriving DecidableEq, Repr

/-- What was found for a command, and for the command below if there is one. -/
inductive Matches
  | command (name : String) (found : List Found) (below : Option Matches)
  deriving Repr

inductive Stop
  | refused (r : Refusal)
  /-- Help is asked for. -/
  | help (s : Site) (long : Bool)
  /-- Nothing is asked for. -/
  | nothing (s : Site)
  | version (name number : String)
  deriving Repr

/-- What has been found so far for a command. -/
structure Progress where
  found : List Found
  /-- The argument that takes the next word, if it can be a value, and the values it has. -/
  pending : Option (Argument × List String)
  /-- Whether the open argument takes further words. -/
  taking : Bool
  /-- How many arguments have been given by their position. -/
  placed : Nat
  /-- Whether names of arguments are no longer looked for. -/
  plain : Bool

namespace Progress

/-- Nothing found. -/
def start : Progress := ⟨[], none, false, 0, false⟩

/-- The identifiers of what has been found. -/
def used (p : Progress) : List String := p.found.map (·.id)

def has (p : Progress) (id : String) : Bool := p.found.any (·.id = id)

/-- The values found for an argument. -/
def values (p : Progress) (id : String) : List String :=
  ((p.found.find? (·.id = id)).map (·.values)).getD []

/-- Notes a set of arguments, unless it has been noted. -/
def noteGroup (origin : Origin) (p : Progress) (group : String) : Progress :=
  if p.has group then p else { p with found := p.found ++ [⟨group, origin, []⟩] }

/-- Notes sets of arguments, unless they have been noted. -/
def noteGroups (p : Progress) (groups : List String) (origin : Origin) : Progress :=
  groups.foldl (noteGroup origin) p

/-- Notes an argument after all that were found before. -/
def note (s : Site) (p : Progress) (a : Argument) (origin : Origin) (values : List String) : Progress :=
  noteGroups { p with found := p.found.filter (·.id ≠ a.id) ++ [⟨a.id, origin, values⟩] }
    (s.groupsOf a) origin

/-- Notes further values of an argument. -/
def noteMore (s : Site) (p : Progress) (a : Argument) (origin : Origin) (values : List String) :
    Progress :=
  if p.has a.id then
    { p with found := p.found.map fun f =>
        if f.id = a.id then { f with values := f.values ++ values } else f }
  else p.note s a origin values

end Progress

/-- A refusal without a word on usage. -/
def refuse {α : Type} (f : Fault) : Except Stop α := .error (.refused ⟨f, none, true⟩)

/-- A refusal with the usage of the command, given the arguments that have been used. -/
def refuseUsage {α : Type} (s : Site) (used : List String) (f : Fault) : Except Stop α :=
  .error (.refused ⟨f, some (Usage.line s used), s.hasHelp⟩)

/-- Checks a value. -/
def checkValue (a : Argument) (value : String) : Except Stop Unit :=
  match a.values with
  | .any => .ok ()
  | .path => if value = "" then refuse (.noValue (a.text a.required) []) else .ok ()
  | .choice options =>
    let words := options.map (·.1)
    if words.contains value then .ok ()
    else refuse (.notAChoice value (a.text a.required) words (Text.mostSimilar? value words))

/-- Counts an argument as given. -/
def give (s : Site) (p : Progress) (a : Argument) (origin : Origin) (long : Bool)
    (values : List String) : Except Stop Progress := do
  if origin = .line && a.takesValues && values.isEmpty then
    refuse (.noValue (a.text a.required) (a.choices.map (·.1)))
  match a.effect with
  | .help => throw (.help s long)
  | .version => throw (.version s.name (s.command.version.getD ""))
  | .count =>
    let times := min 255 ((p.values a.id).length + 1)
    return p.note s a origin (List.replicate times "")
  | .flag =>
    if p.has a.id then refuseUsage s [] (.repeated (a.text a.required))
    return p.note s a origin (if values.isEmpty then ["true"] else values)
  | .one =>
    if p.has a.id then refuseUsage s [] (.repeated (a.text a.required))
    values.forM (checkValue a)
    return p.note s a origin values
  | .many =>
    values.forM (checkValue a)
    return p.noteMore s a origin values

/-- Counts the argument that takes words as given, if there is one. -/
def close (s : Site) (p : Progress) : Except Stop Progress :=
  match p.pending with
  | none => .ok p
  | some (a, values) => give s { p with pending := none, taking := false } a .line true values

/-- Counts an argument as given, after the one that takes words. -/
def closeAndGive (s : Site) (p : Progress) (a : Argument) (long : Bool) (values : List String) :
    Except Stop Progress := do
  give s (← close s p) a .line long values

/-- Begins to take words for an argument, or takes the value that is attached to it. -/
def takeValue (s : Site) (p : Progress) (a : Argument) (attached : Option String) :
    Except Stop Progress := do
  match attached with
  | some value =>
    let p ← closeAndGive s p a true [value]
    return { p with taking := false }
  | none => return { (← close s p) with pending := some (a, []), taking := true }

/-- What has been found when a word cannot be made sense of. -/
def closedOrNot (s : Site) (p : Progress) : Progress :=
  match close s p with
  | .ok p => p
  | .error _ => { p with pending := none }

/-- The tip to give a word that looks like an argument as a value. -/
def valueTip (word : String) : String := s!"to pass '{word}' as a value, use '-- {word}'"

/-- The command below that has an argument like the given one and comes first in the rest of the line,
with that argument. -/
def similarBelow? (s : Site) (name : String) (rest : List String) : Option (String × String) :=
  let candidates := s.command.commands.filterMap fun c => do
    let similar ← Text.mostSimilar? name ((s.below c).arguments.filterMap (·.long))
    let place ← rest.idxOf? c.name
    return (place, c.name, similar)
  (candidates.mergeSort fun a b => a.1 ≤ b.1).head?.map (·.2)

/-- The refusal of a long name that no argument has. -/
def unknownLong {α : Type} (s : Site) (p : Progress) (name : String) (rest : List String) :
    Except Stop α :=
  let p := closedOrNot s p
  let word := "--" ++ name
  match (Text.mostSimilar? name (s.arguments.filterMap (·.long))).bind s.long? with
  | some a =>
    let p := if p.has a.id then p.noteGroups (s.groupsOf a) .line else p.note s a .line []
    refuseUsage s p.used
      (.unknownArgument word (Fault.similarTip "argument" ((a.long.map ("--" ++ ·)).toList)))
  | none =>
    match similarBelow? s name rest with
    | some (command, similar) =>
      refuseUsage s p.used (.unknownArgument word [s!"'{command} --{similar}' exists"])
    | none =>
      refuseUsage s p.used
        (.unknownArgument word (if s.positionals.isEmpty then [] else [valueTip word]))

/-- Takes a long name, with the value attached to it if there is one. -/
def takeLong (s : Site) (p : Progress) (name : String) (attached : Option String)
    (rest : List String) : Except Stop Progress :=
  match s.long? name with
  | none => unknownLong s p name rest
  | some a =>
    if a.takesValues then takeValue s p a attached
    else
      match attached with
      | some value =>
        refuseUsage s (closedOrNot s p).used (.unexpectedValue value (a.text a.required))
      | none => closeAndGive s p a true []

/-- Takes short names that are written together; the first that takes a value takes the rest as it. -/
def takeShorts (s : Site) (p : Progress) : List Char → Except Stop Progress
  | [] => .ok p
  | c :: rest =>
    match s.short? c with
    | none =>
      let word := "-" ++ String.singleton c
      refuseUsage s [] (.unknownArgument word (if s.positionals.isEmpty then [] else [valueTip word]))
    | some a =>
      if a.takesValues then
        takeValue s p a
          (match rest with
            | [] => none
            | '=' :: value => some (String.ofList value)
            | value => some (String.ofList value))
      else do takeShorts s (← closeAndGive s p a false []) rest

/-- Takes a word as the value of the argument that takes words. -/
def takeWord (p : Progress) (a : Argument) (values : List String) (word : String) : Progress :=
  { p with pending := some (a, values ++ [word]), taking := a.effect = .many }

/-- The refusal of a word for which there is no place. -/
def unknownWord {α : Type} (s : Site) (p : Progress) (word : String) : Except Stop α :=
  let isCommand := (s.find? word).isSome || (s.hasCommands && word = helpName)
  if p.plain && isCommand then
    refuseUsage s [] (.unknownArgument word
      [s!"subcommand '{word}' exists; to use it, remove the '--' before it"])
  else if s.hasCommands then
    refuseUsage s [] (.unknownCommand word (Text.similarWords word s.commandNames))
  else
    let tips := if !p.plain && !s.positionals.isEmpty && word.startsWith "-" then [valueTip word] else []
    refuseUsage s [] (.unknownArgument word tips)

/-- Takes a word by its position. -/
def takePosition (s : Site) (p : Progress) (word : String) : Except Stop Progress :=
  match s.positionals[p.placed]? with
  | none => unknownWord s (closedOrNot s p) word
  | some a => do
    let p ← close s p
    return { p with pending := some (a, [word]), taking := false, placed := p.placed + 1 }

/-- The name of an argument that a word begins with, and what is attached to it. -/
def splitAttached (name : List Char) : String × Option String :=
  let before := name.takeWhile (· ≠ '=')
  match name.drop before.length with
  | [] => (String.ofList before, none)
  | _ :: value => (String.ofList before, some (String.ofList value))

/-- Takes a word that is not the name of a command. -/
def take (s : Site) (p : Progress) (word : String) (rest : List String) : Except Stop Progress :=
  let asValue : Except Stop Progress :=
    match p.taking, p.pending with
    | true, some (a, values) => .ok (takeWord p a values word)
    | _, _ => takePosition s p word
  if p.plain then takePosition s p word
  else
    match word.toList with
    | ['-', '-'] => .ok { p with plain := true }
    | '-' :: '-' :: name =>
      let (name, attached) := splitAttached name
      takeLong s p name attached rest
    | ['-'] => asValue
    | '-' :: names => takeShorts s p names
    | _ => asValue

/-- Arguments that come from the environment, unless they have been found in the line. -/
def takeEnvironment (s : Site) (env : Environment) (p : Progress) : Except Stop Progress :=
  s.arguments.foldlM (fun p a =>
    match a.environment.bind env.get? with
    | some value => if p.has a.id then return p else give s p a .environment true [value]
    | none => return p) p

/-- Refuses arguments that do not go together. -/
def checkConflicts (s : Site) (p : Progress) : Except Stop Unit :=
  let present := p.used.filterMap s.argument?
  present.forM fun a =>
    let others := present.filter fun b =>
      b.id ≠ a.id && (a.conflicts.contains b.id || b.conflicts.contains a.id)
    if others.isEmpty then .ok ()
    else
      let kept := p.used.filter fun id => (s.argument? id).isSome && !others.any (·.id = id)
      refuseUsage s kept (.conflict (a.text a.required) (others.map fun b => b.text b.required))

/-- Refuses a command line without the arguments that are required. -/
def checkRequired (s : Site) (p : Progress) : Except Stop Unit :=
  let missing := s.arguments.filter fun a =>
    !p.has a.id && (a.required || (a.requiredUnless.map (!p.has ·)).getD false)
  if missing.isEmpty then .ok ()
  else
    let required := missing.filter (·.required)
    let other := missing.filter (!·.required)
    let given := p.used.filter fun id => (s.argument? id).isSome
    let lines := Usage.parts s ((required ++ other).map (·.id))
    refuseUsage s (given ++ (required ++ other).map (·.id))
      (.missingArguments
        (lines.filter fun line => (required ++ other).any fun a => a.text true = line))

/-- What has been found for a command, once the line has ended. -/
def finish (s : Site) (env : Environment) (p : Progress) (below : Option Matches) :
    Except Stop Matches := do
  let p ← close s p
  let p ← takeEnvironment s env p
  if below.isNone && s.hasCommands then
    if p.found.isEmpty then throw (.nothing s)
    else refuseUsage s [] (.missingCommand s.name s.commandNames)
  checkConflicts s p
  checkRequired s p
  return .command s.command.name p.found below

/-- The command that a word leads to when help is asked for. -/
def topic? (s : Site) (word : String) : Option Site :=
  match s.find? word with
  | some c => some (s.below c)
  | none => if s.hasCommands && word = helpName then some s.explainer else none

/-- Help on the command that words lead to. -/
def explain (s : Site) : List String → Stop
  | [] => .help s true
  | word :: rest =>
    match topic? s word with
    | some below => explain below rest
    | none => .refused ⟨.unknownCommand word [], some (Usage.line s []), s.hasHelp⟩

/-- Takes words until the line ends. -/
def matchWords (env : Environment) : List String → Site → Progress → Except Stop Matches
  | [], s, p => finish s env p none
  | word :: rest, s, p =>
    if !p.plain && !p.taking && s.hasCommands && word = helpName then .error (explain s rest)
    else
      match if p.plain || p.taking then none else s.find? word with
      | some c => do
        let below ← matchWords env rest (s.below c) .start
        finish s env p (some below)
      | none => do matchWords env rest s (← take s p word rest)

end InstallCheck.CommandLine
