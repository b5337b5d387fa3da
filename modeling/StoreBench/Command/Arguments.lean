/-!
The command line.

`bench -s FILE -b FILE [-o OPTION]…` runs a benchmark, `list` names the engines, and there are the
usual requests for help and for the version.  The value of an option is the rest of its argument,
an equals sign before it aside, or the next argument, which must not look like an option.
Arguments are taken from left to right; the first that asks for help or cannot be taken decides.
-/

namespace StoreBench.Command

inductive Request where
  | bench (engineFile settingsFile : String) (options : List String)
  | list
  | help
  | version
  | misuse
  deriving DecidableEq

/-- The options of `bench` taken so far. -/
structure Draft where
  engineFile : Option String
  settingsFile : Option String
  options : List String

namespace Draft

def empty : Draft := ⟨none, none, []⟩

/-- Takes an option; a file is named once. -/
def take? (draft : Draft) (letter : Char) (value : String) : Option Draft :=
  match letter, draft with
  | 's', { engineFile := none, .. } => some { draft with engineFile := some value }
  | 'b', { settingsFile := none, .. } => some { draft with settingsFile := some value }
  | 'o', _ => some { draft with options := draft.options ++ [value] }
  | _, _ => none

/-- Both files are required. -/
def request (draft : Draft) : Request :=
  match draft.engineFile, draft.settingsFile with
  | some engineFile, some settingsFile => .bench engineFile settingsFile draft.options
  | _, _ => .misuse

end Draft

/-- Whether an argument looks like an option: it starts with a hyphen and goes on. -/
def looksLikeOption (argument : String) : Bool :=
  match argument.toList with
  | '-' :: _ :: _ => true
  | _ => false

def attachedValue (rest : List Char) : String :=
  match rest with
  | '=' :: value => String.ofList value
  | value => String.ofList value

def benchRequest (draft : Draft) : List String → Request
  | [] => draft.request
  | ["--"] => draft.request
  | "--help" :: _ => .help
  | argument :: rest =>
    match argument.toList with
    | '-' :: 'h' :: _ => .help
    | ['-', letter] =>
      match rest with
      | [] => .misuse
      | value :: rest =>
        if looksLikeOption value then .misuse
        else
          match draft.take? letter value with
          | none => .misuse
          | some draft => benchRequest draft rest
    | '-' :: letter :: value =>
      match draft.take? letter (attachedValue value) with
      | none => .misuse
      | some draft => benchRequest draft rest
    | _ => .misuse

def listRequest : List String → Request
  | [] => .list
  | ["--"] => .list
  | "--help" :: _ => .help
  | argument :: _ =>
    match argument.toList with
    | '-' :: 'h' :: _ => .help
    | _ => .misuse

def names : List String := ["bench", "list", "help"]

def helpRequest : List String → Request
  | [] => .help
  | [name] => if names.contains name then .help else .misuse
  | _ => .misuse

def request : List String → Request
  | "bench" :: rest => benchRequest .empty rest
  | "list" :: rest => listRequest rest
  | "help" :: rest => helpRequest rest
  | "--help" :: _ => .help
  | "--version" :: _ => .version
  | argument :: _ =>
    match argument.toList with
    | '-' :: 'h' :: _ => .help
    | '-' :: 'V' :: _ => .version
    | _ => .misuse
  | [] => .misuse

def usage : List String :=
  ["Measures key/value stores", "",
   "Usage: storebench bench -s <ENGINE_FILE> -b <SETTINGS_FILE> [-o <OPTION>]...",
   "       storebench list", "",
   "Commands:",
   "  bench  Run a benchmark",
   "  list   List all registered engines",
   "  help   Print this text", "",
   "Options:",
   "  -s <ENGINE_FILE>    The file that describes the engine",
   "  -b <SETTINGS_FILE>  The file that describes the run",
   "  -o <OPTION>         An option for the engine, may be repeated",
   "  -h, --help          Print this text",
   "  -V, --version       Print the version"]

end StoreBench.Command
