import CalcBench.Text.Shown

/-!
# CalcBench.CommandLine.Tool — the two tools, their options and their help

`check` runs the cases of an expression file against a device and reports; `answer` writes the
golden answers to an expression file.  Both take a file, a width and flags for the verbosity, and
each has one option for a second file.
-/

namespace CalcBench.CommandLine

inductive Tool where
  | check
  | answer
  deriving DecidableEq

/-- The options that take a value. -/
inductive ValueOption where
  | width
  | file
  deriving DecidableEq

/-- The options that take none. -/
inductive Flag where
  | verbose
  | quiet
  | help
  | version
  deriving DecidableEq

inductive ToolOption where
  | valued (o : ValueOption)
  | flag (f : Flag)
  deriving DecidableEq

namespace Tool

/-- The option of a tool with a one-letter name. -/
def short? : Tool → Char → Option ToolOption
  | _, 'w' => some (.valued .width)
  | .check, 't' => some (.valued .file)
  | .answer, 'o' => some (.valued .file)
  | _, 'v' => some (.flag .verbose)
  | _, 'q' => some (.flag .quiet)
  | _, 'h' => some (.flag .help)
  | _, 'V' => some (.flag .version)
  | _, _ => none

/-- The option of a tool with a long name, which must be given in full. -/
def long? : Tool → String → Option ToolOption
  | _, "width" => some (.valued .width)
  | .check, "trace" => some (.valued .file)
  | .answer, "output" => some (.valued .file)
  | _, "verbose" => some (.flag .verbose)
  | _, "quiet" => some (.flag .quiet)
  | _, "help" => some (.flag .help)
  | _, "version" => some (.flag .version)
  | _, _ => none

/-- An option with the name of its value, as messages show it. -/
def display : Tool → ValueOption → String
  | _, .width => "--width <WIDTH>"
  | .check, .file => "--trace <TRACE>"
  | .answer, .file => "--output <OUTPUT>"

/-- The file that a tool reads if none is named. -/
def defaultInput? : Tool → Option String
  | .check => some "tests/input.txt"
  | .answer => none

end Tool

/-- A flag as messages show it; those that may be repeated have dots. -/
def Flag.display : Flag → String
  | .verbose => "--verbose..."
  | .quiet => "--quiet..."
  | .help => "--help"
  | .version => "--version"

/-- The parts of a help text that have a style of their own. -/
inductive HelpPart where
  | header
  | usage
  | literal
  | placeholder
  | error

/-- The escape sequences that start a part of a help text on a terminal. -/
def HelpPart.style : HelpPart → String
  | .header | .usage => Text.rendition "1" ++ Text.rendition "32"
  | .literal => Text.rendition "1" ++ Text.rendition "36"
  | .placeholder => Text.rendition "36"
  | .error => Text.rendition "1" ++ Text.rendition "31"

/-! ### Help texts -/

def versionText : String := "calc-golden 0.1.0\n"

/-- The blank line within an entry of a long help text. -/
def entryGap : String := "          "

def checkHelpLong : List String :=
  ["Golden reference model and testbench for the hardware calculator core",
   "",
   "Usage: calc-golden [OPTIONS] [INPUT]",
   "",
   "Arguments:",
   "  [INPUT]",
   "          Path to the expression file",
   entryGap,
   "          [default: tests/input.txt]",
   "",
   "Options:",
   "  -t, --trace <TRACE>",
   "          Responses recorded from the device, one per expression",
   entryGap,
   "          Each line is either `fault` or the signed result value (see `cgev`). "
     ++ "Without a trace the built-in software model of the core is checked.",
   "",
   "  -w, --width <WIDTH>",
   "          Width of the result register in bits",
   entryGap,
   "          [default: 32]",
   "",
   "  -v, --verbose...",
   "          Increase logging verbosity",
   "",
   "  -q, --quiet...",
   "          Decrease logging verbosity",
   "",
   "  -h, --help",
   "          Print help (see a summary with '-h')",
   "",
   "  -V, --version",
   "          Print version"]

def checkHelpShort : List String :=
  ["Golden reference model and testbench for the hardware calculator core",
   "",
   "Usage: calc-golden [OPTIONS] [INPUT]",
   "",
   "Arguments:",
   "  [INPUT]  Path to the expression file [default: tests/input.txt]",
   "",
   "Options:",
   "  -t, --trace <TRACE>  Responses recorded from the device, one per expression",
   "  -w, --width <WIDTH>  Width of the result register in bits [default: 32]",
   "  -v, --verbose...     Increase logging verbosity",
   "  -q, --quiet...       Decrease logging verbosity",
   "  -h, --help           Print help (see more with '--help')",
   "  -V, --version        Print version"]

def answerHelp : List String :=
  ["Golden answer generator for the calculator testbench",
   "",
   "Usage: cgev [OPTIONS] <INPUT>",
   "",
   "Arguments:",
   "  <INPUT>  Path to the expression file",
   "",
   "Options:",
   "  -o, --output <OUTPUT>  Output filename (default is input%.golden)",
   "  -w, --width <WIDTH>    Width of the result register in bits [default: 32]",
   "  -v, --verbose...       Increase logging verbosity",
   "  -q, --quiet...         Decrease logging verbosity",
   "  -h, --help             Print help",
   "  -V, --version          Print version"]

/-- The help text of a tool, in full or as a summary. -/
def Tool.helpText (tool : Tool) (long : Bool) : String :=
  let lines :=
    match tool, long with
    | .check, true => checkHelpLong
    | .check, false => checkHelpShort
    | .answer, _ => answerHelp
  String.join (lines.map (· ++ "\n"))

end CalcBench.CommandLine
