import InstallCheck.CommandLine.Request
import Mathlib

/-!
How the words `--config FILE init` are read: a file name that looks like an argument is refused
wherever a value is still missing, and any other one is the settings file of the request.
-/
namespace InstallCheck.CommandLine

open Interface

/-- The words that ask for the default settings in a file, replacing what is there if that is forced. -/
def initWords (file : String) (force : Bool) : List String :=
  ["--config", file, "init"] ++ if force then ["--force"] else []

/-- A word is taken for the name of an argument rather than for a value. -/
def looksLikeArgument (word : String) : Bool :=
  match word.toList with
  | '-' :: _ :: _ => true
  | _ => false

/-- The program, before any word. -/
def top : Site := .top program

/-- What has been found once a value for the settings file is awaited. -/
def awaiting : Progress := { Progress.start with pending := some (settingsFile, []), taking := true }

section Refused

def Refused {α : Type} (r : Except Stop α) : Prop := ∃ refusal, r = .error (.refused refusal)

variable {α β : Type}

theorem Refused.bind {r : Except Stop α} (refused : Refused r) (f : α → Except Stop β) :
    Refused (r >>= f) := by
  obtain ⟨refusal, rfl⟩ := refused
  exact ⟨refusal, rfl⟩

theorem refused_refuseUsage {s : Site} {used : List String} {f : Fault} :
    Refused (refuseUsage s used f : Except Stop α) := ⟨_, rfl⟩

theorem refused_unknownLong {s : Site} {p : Progress} {name : String} {rest : List String} :
    Refused (unknownLong s p name rest : Except Stop α) := by
  unfold unknownLong
  dsimp only
  split
  · exact refused_refuseUsage
  · split <;> exact refused_refuseUsage

theorem refused_unknownWord {s : Site} {p : Progress} {word : String} :
    Refused (unknownWord s p word : Except Stop α) := by
  unfold unknownWord
  dsimp only
  split
  · exact refused_refuseUsage
  · split <;> exact refused_refuseUsage

theorem refused_close_awaiting : Refused (close top awaiting) := ⟨_, rfl⟩

theorem refused_closeAndGive {a : Argument} {long : Bool} {values : List String} :
    Refused (closeAndGive top awaiting a long values) := refused_close_awaiting.bind _

theorem refused_takeValue {a : Argument} {attached : Option String} :
    Refused (takeValue top awaiting a attached) := by
  cases attached with
  | none => exact refused_close_awaiting.bind _
  | some value => exact refused_closeAndGive.bind _

theorem refused_takeLong {name : String} {attached : Option String} {rest : List String} :
    Refused (takeLong top awaiting name attached rest) := by
  unfold takeLong
  split
  · exact refused_unknownLong
  · split
    · exact refused_takeValue
    · split
      · exact refused_refuseUsage
      · exact refused_closeAndGive

theorem refused_takeShorts {name : Char} {rest : List Char} :
    Refused (takeShorts top awaiting (name :: rest)) := by
  unfold takeShorts
  split
  · exact refused_refuseUsage
  · split
    · exact refused_takeValue
    · exact refused_closeAndGive.bind _

variable {env : Environment} {word : String} {rest : List String}

theorem matchWords_awaiting :
    matchWords env (word :: rest) top awaiting =
      take top awaiting word rest >>= matchWords env rest top := rfl

/-- After `--` no word is the name of a command any more, and there is no place for any other. -/
theorem refused_plain :
    Refused (matchWords env ("init" :: rest) top { awaiting with plain := true }) := by
  have stuck : take top { awaiting with plain := true } "init" rest =
      unknownWord top (closedOrNot top { awaiting with plain := true }) "init" := rfl
  have next : matchWords env ("init" :: rest) top { awaiting with plain := true } =
      take top { awaiting with plain := true } "init" rest >>= matchWords env rest top := rfl
  rw [next, stuck]
  exact refused_unknownWord.bind _

/-- A word that looks like an argument does not become the value that is awaited. -/
theorem refused_of_looksLikeArgument (dashed : looksLikeArgument word = true) :
    Refused (matchWords env (word :: "init" :: rest) top awaiting) := by
  rw [matchWords_awaiting, take]
  unfold looksLikeArgument at dashed
  split at dashed
  · rename_i first others chars
    have notPlain : awaiting.plain = false := rfl
    simp only [chars, notPlain, Bool.false_eq_true, if_false]
    split
    -- Two dashes alone are no error yet: what follows them is then no command any more.
    · change Refused (matchWords env ("init" :: rest) top { awaiting with plain := true })
      exact refused_plain
    · exact refused_takeLong.bind _
    -- A dash alone would be a value, and any other word does not begin with one.
    · rename_i single
      cases single
    · rename_i names
      cases names
      exact refused_takeShorts.bind _
    · rename_i notDashed
      exact absurd rfl (notDashed _)
  · cases dashed

end Refused

section Accepted

variable {env : Environment} {file : String} {rest : List String}

/-- What has been found once a file is given. -/
def given (file : String) : Progress := { Progress.start with pending := some (settingsFile, [file]) }

theorem take_awaiting (plain : looksLikeArgument file = false) :
    take top awaiting file rest = .ok (given file) := by
  have notPlain : awaiting.plain = false := rfl
  rw [take]
  unfold looksLikeArgument at plain
  simp only [notPlain, Bool.false_eq_true, if_false]
  split at plain
  · cases plain
  · rename_i short
    split
    · exact absurd ‹_› (short _ _)
    · exact absurd ‹_› (short _ _)
    · rfl
    · rename_i names _ _ single chars
      cases names with
      | nil => exact (single rfl).elim
      | cons first others => exact absurd chars (short first others)
    · rfl

/-- The command that writes the default settings, where it is used. -/
def initSite : Site := top.below Interface.init

/-- An argument taken from the environment, unless it has been found in the line. -/
def fromEnvironment (s : Site) (env : Environment) (p : Progress) (a : Argument) :
    Except Stop Progress :=
  match a.environment.bind env.get? with
  | some value => if p.has a.id then .ok p else give s p a .environment true [value]
  | none => .ok p

theorem foldlM_fromEnvironment {s : Site} {arguments : List Argument} {p : Progress}
    (inLineOnly : ∀ a ∈ arguments, a.environment = none) :
    arguments.foldlM (fromEnvironment s env) p = .ok p := by
  induction arguments with
  | nil => rfl
  | cons a arguments ih =>
    rw [List.forall_mem_cons] at inLineOnly
    rw [List.foldlM_cons, fromEnvironment, inLineOnly.1]
    exact ih inLineOnly.2

/-- If one argument alone may come from the environment, it is that one or nothing. -/
theorem takeEnvironment_eq {s : Site} {a : Argument} {before after : List Argument} {p : Progress}
    (all : s.arguments = before ++ a :: after)
    (inLineOnly : ∀ b ∈ before ++ after, b.environment = none) :
    takeEnvironment s env p = fromEnvironment s env p a := by
  have fold : takeEnvironment s env p = s.arguments.foldlM (fromEnvironment s env) p := rfl
  rw [List.forall_mem_append] at inLineOnly
  rw [fold, all, List.foldlM_append, foldlM_fromEnvironment inLineOnly.1]
  change List.foldlM (fromEnvironment s env) p (a :: after) = _
  rw [List.foldlM_cons]
  cases fromEnvironment s env p a with
  | error stop => rfl
  | ok p => exact foldlM_fromEnvironment inLineOnly.2

theorem fromEnvironment_noColor {s : Site} {p : Progress} :
    fromEnvironment s env p noColor =
      match env.get? "NO_COLOR" with
      | some value =>
        if p.has "no_color" then .ok p else give s p noColor .environment true [value]
      | none => .ok p := rfl

theorem top_arguments :
    top.arguments = [verbose, quiet] ++
      noColor :: [settingsFile, outputFormat, helpArgument true, versionArgument] := rfl

theorem initSite_arguments :
    initSite.arguments = [here, force, verbose, quiet] ++
      noColor :: [settingsFile, outputFormat, helpArgument true] := rfl

/-- What has been found for the command once it is forced. -/
def forced : Progress := Progress.start.note initSite Interface.force .line ["true"]

/-- What has been found for the program once the settings file has been. -/
def settled (file : String) : Progress := Progress.start.note top settingsFile .line [file]

theorem close_given (some : file ≠ "") : close top (given file) = .ok (settled file) := by
  have value : [file].forM (checkValue settingsFile) = .ok () := by
    change checkValue settingsFile file >>= _ = _
    rw [checkValue, show settingsFile.values = .path from rfl]
    simp only [if_neg some]
    rfl
  have close : close top (given file) =
      [file].forM (checkValue settingsFile) >>= fun _ => .ok (settled file) := rfl
  rw [close, value]
  rfl

/-- What the environment says about colours. -/
def uncoloured (env : Environment) : List Found :=
  (env.get? "NO_COLOR").toList.map fun value => ⟨"no_color", .environment, [value]⟩

theorem finish_init {p : Progress} (found : p = .start ∨ p = forced) :
    finish initSite env p none = .ok (.command "init" (p.found ++ uncoloured env) none) := by
  unfold finish uncoloured
  simp only [takeEnvironment_eq initSite_arguments (by decide), fromEnvironment_noColor]
  rcases found with rfl | rfl <;> cases env.get? "NO_COLOR" <;> rfl

theorem finish_top (some : file ≠ "") (below : Matches) :
    finish top env (given file) (.some below) =
      .ok (.command "preflight" ((settled file).found ++ uncoloured env) below) := by
  unfold finish uncoloured
  simp only [close_given some, takeEnvironment_eq top_arguments (by decide), fromEnvironment_noColor]
  cases env.get? "NO_COLOR" <;> rfl

theorem matchWords_initWords (some : file ≠ "") (plain : looksLikeArgument file = false)
    (force : Bool) :
    matchWords env (initWords file force) top .start =
      .ok (.command "preflight" ((settled file).found ++ uncoloured env)
        (.some (.command "init" ((if force then forced.found else []) ++ uncoloured env) none))) := by
  have toFile (tail : List String) : matchWords env ("--config" :: file :: "init" :: tail) top .start =
      matchWords env tail initSite .start >>= fun below => finish top env (given file) (.some below) := by
    have first : matchWords env ("--config" :: file :: "init" :: tail) top .start =
        matchWords env (file :: "init" :: tail) top awaiting := rfl
    rw [first, matchWords_awaiting, take_awaiting plain]
    rfl
  have ended : matchWords env (if force then ["--force"] else []) initSite .start =
      finish initSite env (if force then forced else .start) none := by
    cases force <;> rfl
  have found : (if force then forced else .start) = Progress.start ∨
      (if force then forced else .start) = forced := by
    cases force
    · exact .inl rfl
    · exact .inr rfl
  rw [initWords, List.cons_append, List.cons_append, List.singleton_append, toFile, ended,
    finish_init found]
  change finish top env (given file) _ = _
  rw [finish_top some, apply_ite Progress.found]
  rfl

variable (env) in
theorem ofWords_initWords (some : file ≠ "") (plain : looksLikeArgument file = false) (force : Bool) :
    ∃ r, Request.ofWords env (initWords file force) = .ok r ∧ r.settingsFile = .some file ∧
      r.action = .init false force := by
  have asked : ∃ r, Request.ofMatches? (.command "preflight" ((settled file).found ++ uncoloured env)
      (.some (.command "init" ((if force then forced.found else []) ++ uncoloured env) none))) =
        .some r ∧ r.settingsFile = .some file ∧ r.action = .init false force := by
    unfold uncoloured
    cases force <;> cases env.get? "NO_COLOR" <;> exact ⟨_, rfl, rfl, rfl⟩
  obtain ⟨r, request, asks⟩ := asked
  refine ⟨r, ?_, asks⟩
  have program : Site.top program = top := rfl
  simp only [Request.ofWords, program, matchWords_initWords some plain force, bind, Except.bind,
    request]
  rfl

/-- The words are refused if the file is named as an argument is. -/
theorem refused_initWords (dashed : looksLikeArgument file = true) (force : Bool) :
    Refused (Request.ofWords env (initWords file force)) := by
  have first : matchWords env (initWords file force) top .start =
      matchWords env (file :: "init" :: if force then ["--force"] else []) top awaiting := rfl
  have refused : Refused (matchWords env (initWords file force) top .start) :=
    first ▸ refused_of_looksLikeArgument dashed
  exact refused.bind _

end Accepted

end InstallCheck.CommandLine
