import CalcBench.CommandLine.Tool
import CalcBench.Log
import CalcBench.Response
import CalcBench.Text.Shown

/-!
# CalcBench.CommandLine.Request — reading the arguments of a tool

Arguments are read from left to right.  An option that takes a value waits for it, and its value
is looked at when the next argument is known to be an option or the file of the tool, or at the
end; an argument that is neither ends the reading at once.  The first problem, or the first request
for help or the version, decides.
-/

namespace CalcBench.CommandLine

inductive UsageError where
  | unexpected (argument : String)
  | missingValue (o : ValueOption)
  | invalidValue (o : ValueOption) (value : String) (cause : WidthError)
  | unneededValue (f : Flag) (value : String)
  | repeated (o : ValueOption)
  | conflict (first second : Flag)
  | missingInput
  deriving DecidableEq

/-- The complaint; what it repeats of the arguments cannot drive the terminal. -/
def UsageError.message (tool : Tool) : UsageError → String
  | .unexpected argument => "unexpected argument '" ++ Text.stripped argument ++ "' found"
  | .missingValue o =>
    "a value is required for '" ++ tool.display o ++ "' but none was supplied"
  | .invalidValue o value cause =>
    "invalid value '" ++ Text.stripped value ++ "' for '" ++ tool.display o ++ "': "
      ++ cause.message
  | .unneededValue f value =>
    "unexpected value '" ++ Text.stripped value ++ "' for '" ++ f.display
      ++ "' found; no more were expected"
  | .repeated o => "the argument '" ++ tool.display o ++ "' cannot be used multiple times"
  | .conflict first second =>
    "the argument '" ++ first.display ++ "' cannot be used with '" ++ second.display ++ "'"
  | .missingInput => "the following required arguments were not provided:"

/-- Why a tool ends before it starts its work. -/
inductive Stop where
  | help (long : Bool)
  | version
  /-- No argument at all for a tool that needs one. -/
  | nothingGiven
  | usage (e : UsageError)
  deriving DecidableEq

structure Request where
  input : Option String := none
  file : Option String := none
  width : Option Width := none
  verbose : Nat := 0
  quiet : Nat := 0
  /-- Of the two verbosity flags, `quiet` was given last. -/
  quietLast : Bool := false
  /-- An option that is not settled yet, with its value once it is known. -/
  waiting : Option (ValueOption × Option String) := none
  deriving DecidableEq

structure Settings where
  input : String
  file : Option String
  width : Width
  threshold : Log.Level

namespace Request

/-- Gives an option its value, which can be done once. -/
def assign (r : Request) (o : ValueOption) (value : String) : Except Stop Request :=
  match o with
  | .file =>
    if r.file.isSome then .error (.usage (.repeated .file))
    else .ok { r with file := some value }
  | .width =>
    if r.width.isSome then .error (.usage (.repeated .width))
    else
      match Width.parse value with
      | .ok width => .ok { r with width := some width }
      | .error cause => .error (.usage (.invalidValue .width value cause))

def settle (r : Request) : Except Stop Request :=
  match r.waiting with
  | none => .ok r
  | some (o, none) => .error (.usage (.missingValue o))
  | some (o, some value) => { r with waiting := none }.assign o value

/-- Takes a flag; `long` tells which form of its name was used. -/
def raise (r : Request) (f : Flag) (long : Bool) : Except Stop Request :=
  r.settle.bind fun r =>
    match f with
    | .verbose => .ok { r with verbose := r.verbose + 1, quietLast := false }
    | .quiet => .ok { r with quiet := r.quiet + 1, quietLast := true }
    | .help => .error (.help long)
    | .version => .error .version

/-- Takes an option that has its value attached, or waits for the value. -/
def takeValued (r : Request) (o : ValueOption) (value : Option String) : Except Stop Request :=
  r.settle.bind fun r =>
    match value with
    | some v => r.assign o v
    | none => .ok { r with waiting := some (o, none) }

/-- Takes the argument `--` followed by `body`, which may hold a value after an equals sign. -/
def takeLong (tool : Tool) (r : Request) (body : List Char) : Except Stop Request :=
  let name := String.ofList (body.takeWhile (· != '='))
  let value :=
    match body.dropWhile (· != '=') with
    | [] => none
    | _ :: v => some (String.ofList v)
  match tool.long? name, value with
  | none, _ => .error (.usage (.unexpected ("--" ++ name)))
  | some (.valued o), _ => r.takeValued o value
  | some (.flag f), some v => .error (.usage (.unneededValue f v))
  | some (.flag f), none => r.raise f true

/-- Takes one-letter options written together; what follows an option with a value is the value,
less an equals sign in front of it. -/
def takeShorts (tool : Tool) (r : Request) : List Char → Except Stop Request
  | [] => .ok r
  | c :: rest =>
    match tool.short? c with
    | none => .error (.usage (.unexpected (String.ofList ['-', c])))
    | some (.flag f) => (r.raise f false).bind fun r => takeShorts tool r rest
    | some (.valued o) =>
      r.takeValued o <|
        match rest with
        | [] => none
        | '=' :: v => some (String.ofList v)
        | v => some (String.ofList v)

/-- Takes an argument that is no option as the file of the tool. -/
def takeInput (r : Request) (argument : String) : Except Stop Request :=
  match r.input with
  | none => r.settle.map fun r => { r with input := some argument }
  | some _ => .error (.usage (.unexpected argument))

/-- Takes an argument that is no option: the value that is waited for, or else the file. -/
def takePlain (r : Request) (argument : String) : Except Stop Request :=
  match r.waiting with
  | some (o, none) => .ok { r with waiting := some (o, some argument) }
  | _ => r.takeInput argument

/-- Reads arguments of which none is an option. -/
def readInputs (r : Request) : List String → Except Stop Request
  | [] => r.settle
  | argument :: rest => (r.takeInput argument).bind fun r => readInputs r rest

/-- Reads arguments; after `--` none is an option. -/
def read (tool : Tool) (r : Request) : List String → Except Stop Request
  | [] => r.settle
  | argument :: rest =>
    match argument.toList with
    | ['-', '-'] => r.readInputs rest
    | '-' :: '-' :: body => (r.takeLong tool body).bind fun r => read tool r rest
    | '-' :: c :: more => (r.takeShorts tool (c :: more)).bind fun r => read tool r rest
    | _ => (r.takePlain argument).bind fun r => read tool r rest

/-- No argument was given that names anything. -/
def isEmpty (r : Request) : Bool :=
  r.input.isNone && r.file.isNone && r.width.isNone && r.verbose == 0 && r.quiet == 0

/-- Checks the arguments as a whole and fills in what is not given. -/
def settings (tool : Tool) (r : Request) : Except Stop Settings :=
  if r.isEmpty && tool.defaultInput?.isNone then .error .nothingGiven
  else if r.verbose != 0 && r.quiet != 0 then
    .error (.usage (if r.quietLast then .conflict .verbose .quiet else .conflict .quiet .verbose))
  else
    match r.input.or tool.defaultInput? with
    | none => .error (.usage .missingInput)
    | some input =>
      .ok { input
            file := r.file
            width := r.width.getD .standard
            threshold := .ofVerbosity (Log.Level.verbosity r.verbose r.quiet) }

end Request

/-- What the arguments tell a tool to do. -/
def Tool.settings (tool : Tool) (arguments : List String) : Except Stop Settings :=
  (({} : Request).read tool arguments).bind fun r => r.settings tool

end CalcBench.CommandLine
