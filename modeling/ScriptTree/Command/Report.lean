import ScriptTree.Command.Options
import ScriptTree.Grammar.Parser
import ScriptTree.Outline.Row
import ScriptTree.Syntax.Dump
import ScriptTree.Syntax.Json

/-! What the program prints and the code with which it ends. -/

namespace ScriptTree.Command

/-- Why a file cannot be read. -/
inductive ReadFault where
  /-- The system refuses, with a code and its meaning. -/
  | system (code : Nat) (meaning : String)
  /-- The bytes of the file are no text. -/
  | notText
deriving DecidableEq, Repr

def ReadFault.message : ReadFault → String
  | system code meaning => meaning ++ " (os error " ++ toString code ++ ")"
  | notText => "stream did not contain valid UTF-8"

/-- The text that the bytes of a file stand for. -/
def decode (bytes : ByteArray) : Except ReadFault String :=
  match String.fromUTF8? bytes with
  | some text => .ok text
  | none => .error .notText

/-- What is printed, what went wrong, and the code for the caller. -/
structure Report where
  code : Nat
  output : String
  error : Option String
deriving DecidableEq, Repr

def Report.success (output : String) : Report :=
  ⟨0, output, none⟩

/-- A report of a failure, after what was printed before it. -/
def Report.failure (output message : String) : Report :=
  ⟨1, output, some ("Error: " ++ message ++ "\n")⟩

def Exit.report : Exit → Report
  | version => .success "sprig 0.1.0\n"
  | help => .success ""
  | misuse _ => ⟨2, "", none⟩

def Format.print : Format → Program → String
  | json, program => program.toJson.pretty ++ "\n"
  | tree, program => program.treeText
  | debug, program => program.toDump.text ++ "\n"

def tokenLines (tokens : List Token) : String :=
  String.join (tokens.map fun token => token.kind.name ++ "\t" ++ token.text ++ "\n")

/-- The fault of a program that has to be browsed where there is no terminal. -/
def noTerminal : ReadFault :=
  .system 6 "No such device or address"

/-- What the program does with the text of the file. -/
def Options.reportText (options : Options) (source : String) : Report :=
  if options.tokens then
    match lex source with
    | (tokens, none) => .success (tokenLines tokens)
    | (tokens, some error) =>
      .failure (tokenLines tokens) ("failed to tokenize: " ++ error.message)
  else
    match parse source with
    | .error error =>
      .failure "" ("failed to parse '" ++ options.file ++ "': " ++ error.message)
    | .ok program =>
      if options.browse then .failure "" noTerminal.message
      else .success (options.format.print program)

/-- What the program does once it has tried to read the file. -/
def Options.report (options : Options) : Except ReadFault String → Report
  | .ok source => options.reportText source
  | .error fault => .failure "" ("failed to read '" ++ options.file ++ "': " ++ fault.message)

end ScriptTree.Command
