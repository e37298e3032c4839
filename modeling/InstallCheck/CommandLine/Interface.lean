import InstallCheck.CommandLine.Grammar
import InstallCheck.Output.Format

/-!
The commands and arguments that the program understands.
-/
namespace InstallCheck.CommandLine.Interface

/-- More or less is logged. -/
def verbose : Argument where
  id := "verbose"
  short := some 'v'
  long := some "verbose"
  effect := .count
  shared := true
  help := "Increase verbosity (-v, -vv, -vvv)"
  longHelp := some
    "Increase logging verbosity.\n\nOnce for INFO (`-v`), twice for DEBUG (`-vv`), three times for TRACE (`-vvv`). `RUST_LOG` overrides this."

/-- Only what has to be said is said. -/
def quiet : Argument where
  id := "quiet"
  short := some 'q'
  long := some "quiet"
  shared := true
  conflicts := ["verbose"]
  help := "Suppress non-error output"
  rank := 1

/-- Nothing is coloured. -/
def noColor : Argument where
  id := "no_color"
  long := some "no-color"
  shared := true
  environment := some "NO_COLOR"
  help := "Disable colored output"
  rank := 2

/-- Where the settings are. -/
def settingsFile : Argument where
  id := "config"
  short := some 'c'
  long := some "config"
  effect := .one
  valueName := "FILE"
  values := .path
  shared := true
  help := "Configuration file path"
  rank := 3

/-- How results are written. -/
def outputFormat : Argument where
  id := "output_format"
  long := some "output-format"
  effect := .one
  valueName := "OUTPUT_FORMAT"
  values := .choice
    [("auto", "Human when stdout is a terminal, plain otherwise"),
      ("human", "Coloured, with symbols"),
      ("plain", "No colours; stable for scripts and logs"),
      ("json", "One JSON document")]
  shared := true
  help := "Output format [default: from config, else auto]"
  rank := 4

/-- The install config that a command is about. -/
def installConfig : Argument where
  id := "install_config"
  effect := .one
  valueName := "INSTALL_CONFIG"
  values := .path
  required := true
  help := "Install config file (JSON or TOML)"

/-- Where the account is recorded. -/
def cloud : Argument where
  id := "cloud"
  long := some "cloud"
  effect := .many
  valueName := "SNAPSHOT"
  values := .path
  help := "Cloud snapshot file or directory (repeatable)"

/-- The cloud is not asked. -/
def offline : Argument where
  id := "offline"
  long := some "offline"
  help := "Skip checks that query the cloud"
  rank := 1

/-- The settings of the current directory are meant. -/
def here : Argument where
  id := "local"
  long := some "local"
  help := "Create local configuration in current directory"

/-- What is there is replaced. -/
def force : Argument where
  id := "force"
  short := some 'f'
  long := some "force"
  help := "Overwrite existing configuration"
  rank := 1

def key : Argument where
  id := "key"
  effect := .one
  valueName := "KEY"
  required := true
  help := "Dotted key path, e.g. `lookup.timeout_secs`"

/-- Examples under a title. -/
def examplesOf (commands : List String) : String :=
  "\n".intercalate ("EXAMPLES:" :: commands.map ("  " ++ ·))

/-- Checks an install config. -/
def validate : Command where
  name := "validate"
  aliases := ["check"]
  about := "Validate an install config"
  examples := examplesOf
    ["preflight validate install-config.json --cloud account.toml",
      "preflight validate install-config.json --cloud base.toml --cloud network.json",
      "preflight validate install-config.json --offline --output-format json"]
  arguments := [installConfig, { cloud with requiredUnless := some "offline" }, offline]
  groups := [("arguments", ["install_config", "cloud", "offline"])]

/-- Tells what a cluster has to be torn down by. -/
def metadata : Command where
  name := "metadata"
  about := "Print cluster metadata as JSON"
  arguments := [installConfig]
  groups := [("arguments", ["install_config"])]

/-- Lists the regions. -/
def regions : Command where
  name := "regions"
  about := "List supported regions"

/-- Lists the DNS zones of an account. -/
def zones : Command where
  name := "zones"
  about := "List DNS zones usable as base domain"
  examples := examplesOf ["preflight zones --cloud account.toml"]
  arguments := [{ cloud with required := true }]
  groups := [("arguments", ["cloud"])]

/-- Writes the default settings. -/
def init : Command where
  name := "init"
  about := "Initialise configuration"
  examples := examplesOf
    ["preflight init                   # default location",
      "preflight init --local           # ./.preflight.toml",
      "preflight --config my.toml init  # explicit path"]
  arguments := [here, force]
  groups := [("arguments", ["local", "force"])]

/-- Tells about the settings. -/
def config : Command where
  name := "config"
  about := "Configuration management"
  examples := examplesOf
    ["preflight config get lookup.timeout_secs",
      "preflight config list",
      "preflight config path"]
  commands :=
    [{ name := "get", about := "Print the value of a configuration key", arguments := [key] },
      { name := "list", about := "Print all configuration values" },
      { name := "path", about := "Print the path of the configuration file in use" }]

/-- The program. -/
def program : Command where
  name := "preflight"
  about := "Check an IBM Cloud install config before installing"
  longAbout := some
    "Preflight cross-checks a cluster install config against an IBM Cloud account: region, DNS zone, image, resource group, VPC, subnets and machine pools. Every problem is reported in one pass."
  examples := examplesOf
    ["preflight validate install-config.json --cloud account.toml",
      "preflight validate install-config.toml --offline",
      "preflight zones --cloud snapshots/",
      "preflight metadata install-config.json"]
  version := some "0.1.0"
  arguments := [verbose, quiet, noColor, settingsFile, outputFormat]
  groups := [("arguments", ["verbose", "quiet", "no_color", "config", "output_format"])]
  commands := [validate, metadata, regions, zones, init, config]

end InstallCheck.CommandLine.Interface
