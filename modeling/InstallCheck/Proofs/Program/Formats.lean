import InstallCheck.Proofs.Json.RoundTrip
import InstallCheck.Proofs.Program.Validation
import InstallCheck.Proofs.Text.Lines

/-!
The forms in which the issues of an install config are reported. They differ in what is written around
the issues, but neither in the issues nor in how the run ends. Only a document cannot be written if the
path of the install config is not a text.
-/
namespace InstallCheck

open InstallCheck.Field (Issue Path)
open Files (Disk)
open Install (loadConfig)
open Output (Format Writer)
open Text (SingleLine singleLine_append singleLine_nat)

namespace Field

theorem Issue.lasting_toDocument (i : Issue) : Json.Lasting i.toDocument :=
  .record (by simp [Json.Lasting.text])

end Field

namespace Output.Writer

variable {w : Writer} {asked : Option Format} {setting : String} {quiet noColor settingNoColor terminal : Bool}

/-- Only the form for people has colours. -/
theorem noColor_ofRequest
    (other : (ofRequest asked setting quiet noColor settingNoColor terminal).format ≠ .human) :
    (ofRequest asked setting quiet noColor settingNoColor terminal).noColor = true := by
  have colorless :
      decide ((ofRequest asked setting quiet noColor settingNoColor terminal).format ≠ .human) = true :=
    decide_eq_true other
  rw [ofRequest] at colorless ⊢
  simp only [colorless, Bool.or_true]

theorem marked_of_noColor {mark message : String} {color : Text.Color} (plain : w.noColor = true) :
    w.marked mark color message = mark ++ " " ++ message := by
  rw [marked, if_pos plain]

theorem line_of_loud {message : String} (loud : w.quiet = false) :
    w.line message = [message ++ "\n"] := by
  rw [line, if_neg (by simp [loud])]

theorem line_of_quiet {message : String} (quiet : w.quiet = true) : w.line message = [] := by
  rw [line, if_pos quiet]

end Output.Writer

namespace Program

namespace Validate

/-- What is told if nothing is wrong. -/
def successText (o : Options) : String :=
  "✓ " ++ o.config.shown ++ if o.offline then ": offline checks passed" else " is valid"

/-- What is told of how much is wrong. -/
def countText (o : Options) (count : Nat) : String :=
  o.config.shown ++ ": " ++ toString count ++ " problem(s) found"

/-- The words for a kind of issue in a document. -/
def kindWord : Issue.Kind → String
  | .required => "Required"
  | .invalid => "Invalid"
  | .notFound => "NotFound"
  | .notSupported => "NotSupported"
  | .internalError => "InternalError"

/-- A place as it is written, such as `compute[1].platform.ibmcloud.type`. -/
def placeText (p : Path) : String :=
  p.root ++ String.join (p.below.map fun
    | .key name => "." ++ name
    | .index position => "[" ++ toString position ++ "]")

/-- What is told of an issue, after its place. -/
def defectText (i : Issue) : String :=
  (match i.kind with
    | .required => "Required value"
    | .invalid => "Invalid value: \"" ++ i.value ++ "\""
    | .notFound => "Not found: \"" ++ i.value ++ "\""
    | .notSupported => "Unsupported value: \"" ++ i.value ++ "\""
    | .internalError => "Internal error") ++
  if i.detail = "" then "" else ": " ++ i.detail

def issueLine (i : Issue) : String := "✗ " ++ placeText i.path ++ ": " ++ defectText i ++ "\n"

/-- The line that says that not everything was checked. -/
def skippedLine : String := "⚠ Cloud checks were skipped (--offline)\n"

/-- The whole listing without colours. -/
def plainLines (o : Options) (issues : List Issue) : List String :=
  if issues = [] then [successText o ++ "\n"]
  else
    (countText o issues.length ++ "\n") :: issues.map issueLine ++
      if o.offline then [skippedLine] else []

variable {m : Moment} {w : Writer} {o : Options} {issues : List Issue}

theorem text_path (p : Path) : p.text = placeText p := by
  unfold Path.text placeText
  -- both write each step below a section alike
  congr 2

theorem defectText_eq (i : Issue) :
    defectText i = i.kind.label ++ (if i.kind.showsValue then ": \"" ++ i.value ++ "\"" else "") ++
      (if i.detail = "" then "" else ": " ++ i.detail) := by
  unfold defectText
  congr 1
  cases i.kind with
  | required | internalError => rfl
  | invalid | notFound | notSupported =>
    simp [Issue.Kind.label, Issue.Kind.showsValue, ← String.append_assoc]

theorem issueLine_eq (i : Issue) : issueLine i = "✗" ++ " " ++ i.text ++ "\n" := by
  have mark : "✗ " = "✗" ++ " " := rfl
  rw [issueLine, defectText_eq, Issue.text, text_path, mark]
  simp only [String.append_assoc, -String.reduceAppend]

theorem name_kind (kind : Issue.Kind) : kind.name = kindWord kind := by
  cases kind <;> rfl

theorem lasting_document {path : String} {offline : Bool} :
    Json.Lasting (document m path offline issues) := by
  refine .record fun f member => ?_
  simp only [List.mem_cons, List.not_mem_nil, or_false] at member
  obtain rfl | rfl | rfl | rfl | rfl := member
  · exact .text path
  · exact .bool _
  · exact .bool offline
  · refine .list fun d member => ?_
    obtain ⟨i, -, rfl⟩ := List.mem_map.mp member
    exact i.lasting_toDocument
  · exact .text m.time

theorem flatMap_failure (colorless : w.noColor = true) (issues : List Issue) :
    (issues.flatMap fun i => w.failure i.text) = issues.map issueLine := by
  simp only [Writer.failure, Writer.marked_of_noColor colorless, ← issueLine_eq]
  exact List.map_eq_flatMap.symm

theorem listing_of_loud (colorless : w.noColor = true) (loud : w.quiet = false) :
    listing w o issues = plainLines o issues := by
  simp only [listing, plainLines, Writer.success, Writer.header, Writer.warning,
    Writer.line_of_loud loud, Writer.marked_of_noColor colorless, flatMap_failure colorless,
    List.isEmpty_iff, colorless, if_true]
  -- There are issues or none, and the cloud was left out or not.
  split_ifs with none offline
  · simp only [successText, offline, if_true]
    rfl
  · simp only [successText, offline]
    rfl
  · rfl
  · rfl

/-- Nothing but the path can tear what is told of the issues as a whole. -/
theorem singleLine_of_shown (single : SingleLine o.config.shown) (count : Nat) :
    SingleLine (successText o) ∧ SingleLine (countText o count) := by
  constructor
  · have ending : SingleLine (if o.offline then ": offline checks passed" else " is valid") := by
      cases o.offline <;> decide
    exact singleLine_append.mpr ⟨singleLine_append.mpr ⟨by decide, single⟩, ending⟩
  · have start : SingleLine (o.config.shown ++ ": " ++ toString count) :=
      singleLine_append.mpr ⟨singleLine_append.mpr ⟨single, by decide⟩, singleLine_nat count⟩
    exact singleLine_append.mpr ⟨start, by decide⟩

/-- Of a listing, only the issues themselves are essential. -/
theorem listing_of_quiet (colorless : w.noColor = true) (quiet : w.quiet = true) :
    listing w o issues = issues.map issueLine := by
  simp only [listing, Writer.success, Writer.header, Writer.warning, Writer.line_of_quiet quiet,
    flatMap_failure colorless, List.isEmpty_iff, List.nil_append, ite_self, List.append_nil]
  split_ifs with none
  · rw [none]
    rfl
  · rfl

theorem report_of_plain (plain : w.format = .plain) :
    report m w o issues = .ok (listing w o issues) := by
  rw [report, Writer.isJson, plain]
  rfl

theorem report_of_json {path : String} (json : w.format = .json) (named : o.config = .text path) :
    report m w o issues = .ok [Json.pretty (document m path o.offline issues) ++ "\n"] := by
  rw [report, Writer.isJson, json, named]
  rfl

end Validate

open CommandLine (Request)
open Validate

variable {env : Environment} {d : Files.Disk} {r : Request} {m : Moment} {s : Settings} {o : Options}
  {issues : List Issue}

/-- The exit code of a run tells only whether there are issues. -/
theorem exitCode_endingOf_validate {path : String} {terminal : Bool}
    (loaded : Settings.load env d r.settingsFile = .ok s) (named : o.config = .text path)
    (action : r.action = .validate path o.recordings o.offline) (reports : Reports s d o issues) :
    (endingOf m env d r terminal).exitCode = if issues = [] then 0 else 2 := by
  have performed : perform m env s (writerOf s r terminal) r =
      validate m s (writerOf s r terminal) o := by
    rw [perform, action]
    exact congrArg (fun config => validate m s (writerOf s r terminal) ⟨config, o.recordings, o.offline⟩)
      named.symm
  have result : ((validate m s (writerOf s r terminal) o).runOn (.start d)).1 = verdict issues :=
    (reports.runOn_validate_of_writable (t := .start d) fun _ => ⟨path, named⟩).1
  -- The result is the same for every writer, so that the one which the request asks for drops out.
  rw [Ending.exitCode, (endingOf_of_loaded terminal loaded).1, performed, result]
  cases issues <;> rfl

/-- **However the issues of an install config are reported, they are the same issues.** In the plain
form one message is written if all is well, and else one with their number, one for each of them in order,
and a last one just if the cloud was left out; of these, only the issues themselves are written where only
the essential is asked for. The first message is a single line if the path as it is shown is one. The document, which is written in either case if the path of the install config
is a text, tells the same issues in the same order, whether there are none, and whether the cloud was left
out. The result and the exit code depend on the issues alone. -/
theorem validate_agrees_across_formats (m : Moment) (s : Settings) (o : Options) (t : Trail)
    {issues : List Issue} (asked : Option Format) (quiet noColor terminal : Bool)
    (reports : Reports s t.disk o issues) :
    let w := Writer.ofRequest asked s.format quiet noColor s.noColor terminal
    let run := (validate m s w o).runOn t
    (w.format ≠ .json ∨ (∃ path, o.config = .text path) → run.1 = verdict issues) ∧
    (∀ env r terminal path, Settings.load env t.disk r.settingsFile = .ok s → o.config = .text path →
      r.action = .validate path o.recordings o.offline →
      (endingOf m env t.disk r terminal).exitCode = if issues = [] then 0 else 2) ∧
    (w.format = .plain →
      run.2.written = t.written ++ if quiet then issues.map issueLine else plainLines o issues) ∧
    (SingleLine o.config.shown →
      SingleLine (successText o) ∧ SingleLine (countText o issues.length)) ∧
    (∀ path, w.format = .json → o.config = .text path → ∃ text, run.2.written = t.written ++ [text] ∧
      Json.parse text = some (.record
        [("install_config", .text path), ("valid", .bool issues.isEmpty),
          ("offline", .bool o.offline),
          ("errors", .list (issues.map fun i => .record
            [("path", .text (placeText i.path)), ("kind", .text (kindWord i.kind)),
              ("value", .text i.value), ("detail", .text i.detail)])),
          ("checked_at", .text m.time)])) := by
  intro w run
  have runs {pieces : List String} (written : report m w o issues = .ok pieces) :
      run.1 = verdict issues ∧ run.2.written = t.written ++ pieces := by
    have all := reports.runOn_validate (m := m) (w := w)
    rwa [outcome_of_ok written] at all
  refine ⟨?_, ?_, ?_, fun single => singleLine_of_shown single _, ?_⟩
  · intro can
    have writable : Writable w o := fun json => can.resolve_left fun other => other json
    exact (reports.runOn_validate_of_writable writable).1
  · exact fun _ _ _ _ loaded named action => exitCode_endingOf_validate loaded named action reports
  · intro plain
    have colorless : w.noColor = true := Writer.noColor_ofRequest (by rw [plain]; decide)
    rw [(runs (report_of_plain plain)).2]
    cases loudness : quiet with
    | true => rw [listing_of_quiet colorless loudness, if_pos rfl]
    | false => rw [listing_of_loud colorless loudness, if_neg Bool.false_ne_true]
  · intro path json named
    refine ⟨_, (runs (report_of_json json named)).2, ?_⟩
    rw [Json.parse_pretty_line lasting_document]
    have told : Issue.toDocument = fun i => .record
        [("path", .text (placeText i.path)), ("kind", .text (kindWord i.kind)),
          ("value", .text i.value), ("detail", .text i.detail)] := by
      funext i
      rw [Issue.toDocument, text_path, name_kind]
    rw [document, told]

/-- Against an empty account, both forms tell the same two issues. -/
theorem validate_agrees_across_formats_small :
    Reports .default Sample.recorded Sample.checkOnline Sample.absences ∧
    ((validate Sample.moment .default ⟨.plain, true, true⟩ Sample.checkOnline).runOn
      (.start Sample.recorded)).2.written =
        ["✗ platform.ibmcloud.cisInstanceCRN: Not found: \"crn:1:::internet-svcs:::::\"\n",
          "✗ platform.ibmcloud.clusterOSImage: Not found: \"image\"\n"] ∧
    (∃ text, ((validate Sample.moment .default ⟨.json, true, true⟩ Sample.checkOnline).runOn
        (.start Sample.recorded)).2.written = [text] ∧
      Json.parse text = some (.record
        [("install_config", .text "small.toml"), ("valid", .bool false), ("offline", .bool false),
          ("errors", .list
            [.record [("path", .text "platform.ibmcloud.cisInstanceCRN"), ("kind", .text "NotFound"),
                ("value", .text "crn:1:::internet-svcs:::::"), ("detail", .text "")],
              .record [("path", .text "platform.ibmcloud.clusterOSImage"), ("kind", .text "NotFound"),
                ("value", .text "image"), ("detail", .text "")]]),
          ("checked_at", .text Sample.moment.time)])) := by
  have reports : Reports .default Sample.recorded Sample.checkOnline Sample.absences :=
    .online (Sample.loadConfig_small Sample.small_recorded) rfl (by decide +kernel) rfl
      Sample.hold_recorded (by decide +kernel)
  obtain ⟨-, -, plain, -, -⟩ := validate_agrees_across_formats Sample.moment .default
    Sample.checkOnline (.start Sample.recorded) (some .plain) true false false reports
  obtain ⟨-, -, -, -, json⟩ := validate_agrees_across_formats Sample.moment .default
    Sample.checkOnline (.start Sample.recorded) (some .json) true false false reports
  obtain ⟨text, written, parsed⟩ := json _ rfl rfl
  exact ⟨reports, (plain rfl).trans (by decide +kernel), text, written, parsed.trans (by rfl)⟩

namespace Sample

/-- A path whose first byte is part of no text. -/
def rawPath : Files.RawPath where
  bytes := [0xff, 0x2e, 0x74, 0x6f, 0x6d, 0x6c]
  notText := by decide +kernel
  content := .ok smallText.toUTF8.toList

/-- A check of the install config at that path. -/
def checkRaw : Options := ⟨.raw rawPath, [], true⟩

/-- A directory with the install config in a file whose name has two lines. -/
def torn : Disk := diskOf [("two\nlines.toml", smallText)]

def checkTorn : Options := ⟨"two\nlines.toml", [], true⟩

theorem shown_rawPath : (Files.Given.raw rawPath).shown = "\ufffd.toml" := by decide +kernel

theorem loadConfig_rawPath {d : Disk} : loadConfig d (.raw rawPath) = .ok smallConfig := by
  have legible : Text.ofUtf8? smallText.toUTF8.toList = some smallText := by decide +kernel
  refine loadConfig_of_smallText ?_ ?_
  · rw [shown_rawPath]
    exact extension_toml (by decide) (by decide : "\ufffd" ≠ "") (by decide)
  · simp only [Files.Given.readText, Files.Given.read, rawPath, bind, Except.bind, pure, Except.pure,
      legible]

theorem loadConfig_torn : loadConfig torn "two\nlines.toml" = .ok smallConfig := by
  have there : torn.node "two\nlines.toml" = .ok (.file smallText.toUTF8.toList) :=
    Disk.IsName.node (by decide) rfl
  exact loadConfig_of_smallText (extension_toml (by decide) (by decide : "two\nlines" ≠ "") (by decide))
    (Disk.readText_of_node there (by decide +kernel))

/-- What the check at that path comes to in a form without colours. -/
def rawRun (format : Format) : Except CommandError Unit × Trail :=
  (validate moment .default ⟨format, false, true⟩ checkRaw).runOn (.start recorded)

theorem reports_raw : Reports .default recorded checkRaw [] :=
  .offline (p := smallPlatform) loadConfig_rawPath rfl (.inr rfl)

theorem reports_torn : Reports .default torn checkTorn [] :=
  .offline (p := smallPlatform) loadConfig_torn rfl (.inr rfl)

end Sample

/-- An install config without issues at a path that is not a text: the plain form says so and the run
succeeds, while there is no document at all and the run fails. Where the path is a text of two lines, what
the plain form says is not one line. -/
theorem validate_raw_path_has_no_document :
    Reports .default Sample.recorded Sample.checkRaw [] ∧
    (Sample.rawRun .plain).1 = .ok () ∧
    (Sample.rawRun .plain).2.written = ["✓ \ufffd.toml: offline checks passed\n"] ∧
    (Sample.rawRun .json).1 = .error pathNotText ∧ pathNotText.exitCode = 1 ∧
    (Sample.rawRun .json).2.written = [] ∧
    Reports .default Sample.torn Sample.checkTorn [] ∧
    ((validate Sample.moment .default ⟨.plain, false, true⟩ Sample.checkTorn).runOn
      (.start Sample.torn)).2.written = ["✓ two\nlines.toml: offline checks passed\n"] := by
  have unwritable : ¬ Writable ⟨.json, false, true⟩ Sample.checkRaw := by
    intro writable
    obtain ⟨path, named⟩ := writable rfl
    cases named
  have plain : report Sample.moment ⟨.plain, false, true⟩ Sample.checkRaw [] =
      .ok ["✓ \ufffd.toml: offline checks passed\n"] := by decide +kernel
  have torn : report Sample.moment ⟨.plain, false, true⟩ Sample.checkTorn [] =
      .ok ["✓ two\nlines.toml: offline checks passed\n"] := by decide +kernel
  have said := Sample.reports_raw.runOn_validate (m := Sample.moment) (w := ⟨.plain, false, true⟩)
    (t := .start Sample.recorded)
  have unsaid := Sample.reports_raw.runOn_validate_of_not_writable (m := Sample.moment)
    (t := .start Sample.recorded) unwritable
  have saidToo := Sample.reports_torn.runOn_validate (m := Sample.moment) (w := ⟨.plain, false, true⟩)
    (t := .start Sample.torn)
  rw [outcome_of_ok plain] at said
  rw [outcome_of_ok torn] at saidToo
  exact ⟨Sample.reports_raw, said.1, said.2, unsaid.1, rfl, unsaid.2, Sample.reports_torn, saidToo.2⟩

end Program

end InstallCheck
