/-!
The command line: one file to read and options that say what to print. Arguments are taken in
order and the first that ends the program decides, be it a fault or a request for the version. The
value of an option and the file are checked when the next argument is taken or at the end.
-/

namespace ScriptTree.Command

/-- The formats in which a tree is printed. -/
inductive Format where
  | json
  | tree
  | debug
deriving DecidableEq, Repr

def Format.ofName? : String → Option Format
  | "json" => some json
  | "tree" => some tree
  | "debug" => some debug
  | _ => none

structure Options where
  file : String
  format : Format
  /-- Print the tokens and do not parse. -/
  tokens : Bool
  /-- Browse the tree instead of printing it. -/
  browse : Bool
deriving DecidableEq, Repr

inductive UsageError where
  | unknownOption (name : String)
  | unexpectedValue (option : String)
  | missingValue (option : String)
  | invalidFormat (value : String)
  | repeated (option : String)
  | conflict (first second : String)
  | emptyFile
  | missingFile
  | extraFile (file : String)
deriving DecidableEq, Repr

/-- Reasons to end without reading a file. -/
inductive Exit where
  | version
  | help
  | misuse (error : UsageError)
deriving DecidableEq, Repr

/-- What has been read but not checked: the file, or an option that takes a value. -/
inductive Pending where
  | none
  | file (path : String)
  | format (value : Option String)
deriving DecidableEq, Repr

/-- What the arguments so far have set. -/
structure Settings where
  file : Option String
  format : Option Format
  tokens : Bool
  browse : Bool
  pending : Pending
deriving DecidableEq, Repr

namespace Settings

def initial : Settings :=
  ⟨none, none, false, false, .none⟩

/-- Checks a value for the format. -/
def setFormat (settings : Settings) (value : String) : Except Exit Settings :=
  match Format.ofName? value, settings.format with
  | none, _ => .error (.misuse (.invalidFormat value))
  | some _, some _ => .error (.misuse (.repeated "--format"))
  | some format, none => .ok { settings with format := some format }

/-- Checks what has been read last. -/
def settle (settings : Settings) : Except Exit Settings :=
  let cleared := { settings with pending := .none }
  match settings.pending with
  | .none => .ok cleared
  | .file "" => .error (.misuse .emptyFile)
  | .file path => .ok { cleared with file := some path }
  | .format none => .error (.misuse (.missingValue "--format"))
  | .format (some value) => cleared.setFormat value

/-- Takes an argument that is no option: the value of the option before it, or the file. -/
def plain (settings : Settings) (argument : String) : Except Exit Settings :=
  match settings.pending with
  | .format none => .ok { settings with pending := .format (some argument) }
  | _ => do
    let settled ← settings.settle
    match settled.file with
    | none => .ok { settled with pending := .file argument }
    | some _ => .error (.misuse (.extraFile argument))

/-- Takes an argument behind `--`, which is the file whatever it looks like. -/
def fileOnly (settings : Settings) (argument : String) : Except Exit Settings := do
  let settled ← settings.settle
  settled.plain argument

/-- Takes an option with a long name and perhaps a value behind `=`. -/
def long (settings : Settings) (name : String) (value : Option String) :
    Except Exit Settings := do
  let settled ← settings.settle
  match name, value with
  | "format", some value => settled.setFormat value
  | "format", none => .ok { settled with pending := .format none }
  | "tokens", none =>
    if settled.tokens then .error (.misuse (.repeated "--tokens"))
    else .ok { settled with tokens := true }
  | "tui", none =>
    if settled.browse then .error (.misuse (.repeated "--tui"))
    else .ok { settled with browse := true }
  | "verbose", none => .ok settled
  | "version", none => .error .version
  | "help", none => .error .help
  | "tokens", some _ | "tui", some _ | "verbose", some _ | "version", some _ | "help", some _ =>
    .error (.misuse (.unexpectedValue name))
  | _, _ => .error (.misuse (.unknownOption name))

/-- Takes options of one letter each; what stands behind `f` is its value. -/
def short (settings : Settings) : List Char → Except Exit Settings
  | [] => .ok settings
  | 'v' :: more => do (← settings.long "verbose" none).short more
  | 'V' :: _ => settings.long "version" none
  | 'h' :: _ => settings.long "help" none
  | ['f'] => settings.long "format" none
  | 'f' :: '=' :: value => settings.long "format" (some (String.ofList value))
  | 'f' :: value => settings.long "format" (some (String.ofList value))
  | c :: _ => do
    let _ ← settings.settle
    .error (.misuse (.unknownOption c.toString))

/-- Divides a long option at its first equals sign. -/
def splitValue (option : List Char) : String × Option String :=
  (String.ofList (option.takeWhile (· != '=')),
    match option.dropWhile (· != '=') with
    | [] => none
    | _ :: value => some (String.ofList value))

def takeAll (settings : Settings) : List String → Except Exit Settings
  | [] => settings.settle
  | argument :: more =>
    match argument.toList with
    | ['-', '-'] => more.foldlM fileOnly settings >>= settle
    | '-' :: '-' :: option => do
      let (name, value) := splitValue option
      (← settings.long name value).takeAll more
    | '-' :: c :: letters => do (← settings.short (c :: letters)).takeAll more
    | _ => do (← settings.plain argument).takeAll more

def finish (settings : Settings) : Except Exit Options :=
  if settings.tokens ∧ settings.browse then .error (.misuse (.conflict "--tokens" "--tui"))
  else
    match settings.file with
    | none => .error (.misuse .missingFile)
    | some file =>
      .ok ⟨file, settings.format.getD .json, settings.tokens, settings.browse⟩

end Settings

def readArguments (arguments : List String) : Except Exit Options := do
  (← Settings.initial.takeAll arguments).finish

end ScriptTree.Command
