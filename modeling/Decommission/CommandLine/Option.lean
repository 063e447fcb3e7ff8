import Decommission.Text.Digits
import Decommission.Text.Plain

/-!
# Options and refusals

The options by name, and what the program answers to a command line that it does not carry out.
-/

namespace Decommission.CommandLine

/-- The options that take a value. -/
inductive Setting where
  | config
  | logFile
  | stopTimeout
  | pollInterval
  deriving DecidableEq, Repr

/-- The options that take none. -/
inductive Switch where
  | dryRun
  | verbose
  | help
  | version
  deriving DecidableEq, Repr

namespace Setting

def display : Setting → String
  | .config => "--config <CONFIG>"
  | .logFile => "--log-file <LOG_FILE>"
  | .stopTimeout => "--stop-timeout <STOP_TIMEOUT>"
  | .pollInterval => "--poll-interval-ms <POLL_INTERVAL_MS>"

def ofLong? : String → Option Setting
  | "config" => some .config
  | "log-file" => some .logFile
  | "stop-timeout" => some .stopTimeout
  | "poll-interval-ms" => some .pollInterval
  | _ => none

end Setting

namespace Switch

def display : Switch → String
  | .dryRun => "--dry-run"
  | .verbose => "--verbose"
  | .help => "--help"
  | .version => "--version"

def ofLong? : String → Option Switch
  | "dry-run" => some .dryRun
  | "verbose" => some .verbose
  | "help" => some .help
  | "version" => some .version
  | _ => none

end Switch

/-- Why a command line is not carried out. -/
inductive Refusal where
  | help
  | version
  | missingValue (setting : Setting)
  /-- The option, as it is shown, was given before. -/
  | repeated (option : String)
  | invalidNumber (setting : Setting) (text : String) (fault : Text.NumberFault)
  | unneededValue (switch : Switch) (value : String)
  | unknown (argument : String)
  /-- An argument that has to be text is not. -/
  | notText
  deriving DecidableEq, Repr

def versionText : String := "salt-preinstall 1.0.0\n"

/-- The help text of a program with this name, line by line. -/
def helpLines (program : String) : List String :=
  ["Stop Salt launch daemons and remove a previous installation before new files land",
    "",
    "Usage: " ++ program ++ " [OPTIONS]",
    "",
    "Options:",
    "  -c, --config <CONFIG>",
    "          JSON file overriding the built-in defaults",
    "      --log-file <LOG_FILE>",
    "          Run log file (default: /tmp/preinstall.txt)",
    "      --stop-timeout <STOP_TIMEOUT>",
    "          Seconds to wait for each service to unload (0 waits forever)",
    "      --poll-interval-ms <POLL_INTERVAL_MS>",
    "          Milliseconds between a stop request and the next query",
    "      --dry-run",
    "          Dry-run mode: query services and paths but stop and remove nothing",
    "  -v, --verbose",
    "          Verbose diagnostics on stderr",
    "  -h, --help",
    "          Print help",
    "  -V, --version",
    "          Print version"]

def helpText (program : String) : String :=
  String.join ((helpLines program).map (· ++ "\n"))

namespace Refusal

/-- What a program with this name writes for a refusal, up to the end of its message.  What it was
called with is repeated as plain text. -/
def text (medium : Text.Medium) (program : String) : Refusal → String
  | .help => helpText (Text.plain medium program)
  | .version => versionText
  | .missingValue setting =>
      "error: a value is required for '" ++ setting.display ++ "' but none was supplied"
  | .repeated option => "error: the argument '" ++ option ++ "' cannot be used multiple times"
  | .invalidNumber setting value fault =>
      "error: invalid value '" ++ Text.plain medium value ++ "' for '" ++ setting.display ++
        "': " ++ fault.message
  | .unneededValue switch value =>
      "error: unexpected value '" ++ Text.plain medium value ++ "' for '" ++ switch.display ++
        "' found; no more were expected"
  | .unknown argument =>
      "error: unexpected argument '" ++ Text.plain medium argument ++ "' found"
  | .notText => "error: invalid UTF-8 was detected in one or more arguments"

/-- The program was asked for information and gives it. -/
def isAnswer : Refusal → Bool
  | .help | .version => true
  | _ => false

def status (refusal : Refusal) : Int := if refusal.isAnswer then 0 else 2

end Refusal

end Decommission.CommandLine
