import Flowline.Text.Cut

/-!
# Command lines

* `Invocation.parse`: what a command line asks for.
-/

namespace Flowline

/-- What a command line asks for. -/
inductive Invocation where
  | serve (logLevel : String)
  | help
  | version
  deriving DecidableEq, Repr, Inhabited

/-- Why a command line cannot be understood. -/
inductive UsageError where
  | unexpected (argument : String)
  | missingValue
  | repeatedOption
  deriving DecidableEq, Repr, Inhabited

def UsageError.message : UsageError → String
  | unexpected argument => "error: unexpected argument '" ++ argument ++ "' found"
  | missingValue => "error: a value is required for '--log-level <LOG_LEVEL>' but none was supplied"
  | repeatedOption => "error: the argument '--log-level <LOG_LEVEL>' cannot be used multiple times"

namespace Invocation

def defaultLevel : String := "info"

/-- Whether a level lets through what is told at the start. -/
def isVerbose (logLevel : String) : Bool :=
  ["info", "debug", "trace"].contains logLevel

/-- The value of an argument of the form `--log-level=value`. -/
def inlineLevel? (argument : String) : Option String :=
  (after? "--log-level=".toList argument.toList).map String.ofList

/-- Takes a value for the level, if none was given before. -/
def setLevel (level : Option String) (value : String) : Except UsageError (Option String) :=
  if level.isSome then .error .repeatedOption else .ok (some value)

/-- Reads arguments, once a level may have been given. -/
def parseFrom (level : Option String) : List String → Except UsageError Invocation
  | [] => .ok (serve (level.getD defaultLevel))
  | "--help" :: _ => .ok help
  | "-h" :: _ => .ok help
  | "--version" :: _ => .ok version
  | "-V" :: _ => .ok version
  | "--log-level" :: value :: rest =>
    match setLevel level value with
    | .error e => .error e
    | .ok level => parseFrom level rest
  | argument :: rest =>
    if argument = "--log-level" then .error .missingValue
    else
      match inlineLevel? argument with
      | none => .error (.unexpected argument)
      | some value =>
        match setLevel level value with
        | .error e => .error e
        | .ok level => parseFrom level rest

/-- What a command line asks for. -/
def parse (arguments : List String) : Except UsageError Invocation :=
  parseFrom none arguments

end Invocation

/-- The name and the version of the program. -/
def programVersion : String := "dataflow-lsp 0.1.0"

def usageLine : String := "Usage: dataflow-lsp [OPTIONS]"

/-- What the program is for and how it is called. -/
def helpText : String :=
  "Language Server Protocol implementation for stream, task and app import definitions\n\n" ++
    usageLine ++ "\n\nOptions:\n" ++
    "      --log-level <LOG_LEVEL>  Log filter [default: info]\n" ++
    "  -h, --help                   Print help\n" ++
    "  -V, --version                Print version"

end Flowline
