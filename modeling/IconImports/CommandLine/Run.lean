import IconImports.CommandLine.Arguments
import IconImports.Host
import IconImports.Preview
import IconImports.Report.Json

/-!
# The command line

`CommandLine.run` is one run of the program: from a file system and arguments to what is written
and the exit code. A failure writes nothing to the output, so a report there is always complete.
-/

namespace IconImports

namespace CommandLine

structure Result where
  exitCode : Nat
  output : String
  errors : String
  deriving DecidableEq

def programName : String := "maic-helper"

def version : String := "0.1.0"

def helpLines : List String :=
  ["Preview maic import rewriting",
    "",
    "Usage: maic-helper [OPTIONS] <PATTERN>...",
    "",
    "Arguments:",
    "  <PATTERN>...  Source files or glob patterns",
    "",
    "Options:",
    "  -c, --config <FILE>      JSON helper options, e.g. \x7b \"enabled\": true \x7d",
    "      --log-level <LEVEL>  debug, info, warn or error",
    "  -v, --verbose            Shorthand for --log-level debug",
    "  -m, --emit-modules       Also print the generated module for every rewritten import",
    "      --json               Print the report as JSON",
    "  -h, --help               Print help",
    "  -V, --version            Print version"]

def helpText : String := String.join (helpLines.map (· ++ "\n"))

def success (output errors : String) : Result := ⟨0, output, errors⟩

/-- A run that failed, with the messages that it wrote before and the one that says why. -/
def failure (errors message : String) : Result := ⟨1, "", errors ++ message ++ "\n"⟩

def Arguments.level (arguments : Arguments) : Option Level :=
  if arguments.verbose then some .debug else arguments.logLevel

def Arguments.logger (arguments : Arguments) : Logger :=
  match arguments.level with
  | none => .silent
  | some level => .console level pluginName

def Arguments.options (arguments : Arguments) (fs : FileSystem) :
    Except Options.LoadError Options :=
  match arguments.config with
  | none => .ok .default
  | some path => Options.load fs ⟨path⟩

/-- A report as it is written to the output. -/
def Arguments.format (arguments : Arguments) (report : Report) : String :=
  if arguments.json then report.toJson ++ "\n" else report.toText

/-- The preview of the files that the patterns match. -/
def previewPatterns (fs : FileSystem) (arguments : Arguments) (plugin : Plugin) : Result :=
  match fs.expandPatterns arguments.patterns with
  | .error e => failure "" e.report
  | .ok [] => failure "" ("No files matched " ++ ", ".intercalate arguments.patterns)
  | .ok paths =>
    let outcome := plugin.previewFiles fs paths arguments.emitModules
    let errors := plugin.logger.written outcome.calls
    match outcome.answer with
    | .error e => failure errors e.message
    | .ok report => success (arguments.format report) errors

def preview (fs : FileSystem) (arguments : Arguments) : Result :=
  match arguments.options fs with
  | .error e =>
    let path := arguments.config.getD ""
    failure "" s!"Failed to load config {path}: {e.message}"
  | .ok options =>
    match Plugin.ofOptions? options arguments.logger with
    | none => success "" (pluginName ++ " is disabled by configuration; nothing to do.\n")
    | some plugin => previewPatterns fs arguments plugin

def run (fs : FileSystem) (arguments : List String) : Result :=
  match Request.parse arguments with
  | .error cause => ⟨2, "", cause.report⟩
  | .ok .help => success helpText ""
  | .ok .version => success s!"{programName} {version}\n" ""
  | .ok (.preview arguments) => preview fs arguments

end CommandLine

end IconImports
