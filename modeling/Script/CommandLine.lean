import Script.Excerpt
import Script.Options

/-!
# The command line

Arguments are read in order.  An option that takes a value finds it in the same
argument or in the next one; two dashes end the options; everything else names
the file to read.  The first thing that is wrong, or the first request for the
version or for help, settles what happens.

Running a command is a function of the text that was read, or of the reason why
none could be read.
-/

namespace Script.CommandLine

/-- Where the source comes from. -/
inductive Input where
  | inline (source : String)
  | file (path : String)
  | standardInput
  deriving DecidableEq, Repr

/-- What to read and how to print it. -/
structure Command where
  input : Input
  mode : Mode
  tokens : Bool
  compact : Bool
  deriving DecidableEq, Repr

/-- What the arguments ask for. -/
inductive Request where
  | run (command : Command)
  | version
  | help
  | misuse
  deriving DecidableEq, Repr

/-! ## Reading arguments -/

/-- What has been said so far. -/
structure Draft where
  expression : Option String
  mode : Option Mode
  file : Option String
  tokens : Bool
  compact : Bool
  deriving DecidableEq, Repr

namespace Draft

/-- Nothing has been said. -/
def blank : Draft :=
  ⟨none, none, none, false, false⟩

/-- The options that take a value. -/
inductive Setting where
  | expression
  | mode
  deriving DecidableEq, Repr

/-- A setting is given a value, unless it has one or the value does not fit. -/
def set? (draft : Draft) : Setting → String → Option Draft
  | .expression, value =>
      if draft.expression.isSome then none else some { draft with expression := some value }
  | .mode, value =>
      if draft.mode.isSome then
        none
      else
        (Mode.ofName? value).map fun mode => { draft with mode := some mode }

/-- A file is named, unless one was named before or the name is empty. -/
def name? (draft : Draft) (path : String) : Option Draft :=
  if draft.file.isSome || path.isEmpty then none else some { draft with file := some path }

/-- What has been said, once nothing more follows.  A file and an expression exclude each other. -/
def finish (draft : Draft) : Request :=
  let run (input : Input) : Request :=
    .run ⟨input, draft.mode.getD .tree, draft.tokens, draft.compact⟩
  match draft.expression, draft.file with
  | some _, some _ => .misuse
  | some source, none => run (.inline source)
  | none, some path => run (.file path)
  | none, none => run .standardInput

end Draft

/-- How one argument reads. -/
inductive Argument where
  /-- All that follows names files. -/
  | endOfOptions
  /-- A setting and its value. -/
  | assigned (setting : Draft.Setting) (value : String)
  /-- A setting whose value follows. -/
  | awaiting (setting : Draft.Setting)
  | tokens
  | compact
  | version
  | help
  | unknown
  /-- The name of a file. -/
  | positional (path : String)
  deriving DecidableEq, Repr

namespace Argument

/-- The text before the first equals sign, and the text after it if there is one. -/
def splitAssignment (text : List Char) : List Char × Option (List Char) :=
  match text.dropWhile (· != '=') with
  | [] => (text, none)
  | _ :: value => (text.takeWhile (· != '='), some value)

/-- An argument that starts with two dashes, which are left out. -/
def ofLong (text : List Char) : Argument :=
  match splitAssignment text with
  | (name, value) =>
      match String.ofList name, value with
      | "expression", some value => .assigned .expression (String.ofList value)
      | "expression", none => .awaiting .expression
      | "mode", some value => .assigned .mode (String.ofList value)
      | "mode", none => .awaiting .mode
      | "tokens", none => .tokens
      | "compact", none => .compact
      | "version", none => .version
      | "help", none => .help
      | _, _ => .unknown

/-- An argument that starts with one dash, which is left out. -/
def ofShort : List Char → Argument
  | ['e'] => .awaiting .expression
  | 'e' :: '=' :: value => .assigned .expression (String.ofList value)
  | 'e' :: value => .assigned .expression (String.ofList value)
  | 'V' :: _ => .version
  | 'h' :: _ => .help
  | _ => .unknown

/-- How an argument reads before the end of options.  A dash alone names a file. -/
def ofText (text : String) : Argument :=
  match text.toList with
  | ['-', '-'] => .endOfOptions
  | '-' :: '-' :: long => ofLong long
  | '-' :: first :: others => ofShort (first :: others)
  | _ => .positional text

end Argument

/-- Whether an argument may be the value of the setting before it. -/
def servesAsValue (text : String) : Bool :=
  match Argument.ofText text with
  | .positional _ => true
  | _ => false

/-- The arguments after the end of options, all of which name files. -/
def readFiles (draft : Draft) : List String → Request
  | [] => draft.finish
  | path :: others =>
      match draft.name? path with
      | none => .misuse
      | some named => readFiles named others

/-- The arguments that are left, after what has been said. -/
def readArguments (draft : Draft) : List String → Request
  | [] => draft.finish
  | argument :: others =>
      match Argument.ofText argument with
      | .endOfOptions => readFiles draft others
      | .version => .version
      | .help => .help
      | .unknown => .misuse
      | .tokens =>
          if draft.tokens then .misuse else readArguments { draft with tokens := true } others
      | .compact =>
          if draft.compact then .misuse else readArguments { draft with compact := true } others
      | .positional path =>
          match draft.name? path with
          | none => .misuse
          | some named => readArguments named others
      | .assigned setting value =>
          match draft.set? setting value with
          | none => .misuse
          | some assigned => readArguments assigned others
      | .awaiting setting =>
          match others with
          | [] => .misuse
          | value :: further =>
              if servesAsValue value then
                match draft.set? setting value with
                | none => .misuse
                | some assigned => readArguments assigned further
              else
                .misuse

/-- What the arguments ask for. -/
def request (arguments : List String) : Request :=
  readArguments .blank arguments

/-! ## Running a command -/

/-- Why no source could be read. -/
inductive ReadFault where
  | missing
  | notDirectory
  | isDirectory
  | nameTooLong
  | notText
  /-- Another fault, in the words of the system. -/
  | other (message : String)
  deriving DecidableEq, Repr

/-- What is said of a source that could not be read. -/
def ReadFault.message : ReadFault → String
  | .missing => "No such file or directory (os error 2)"
  | .notDirectory => "Not a directory (os error 20)"
  | .isDirectory => "Is a directory (os error 21)"
  | .nameTooLong => "File name too long (os error 36)"
  | .notText => "stream did not contain valid UTF-8"
  | .other message => message

/-- The text that bytes stand for. -/
def decode (bytes : ByteArray) : Except ReadFault String :=
  match String.fromUTF8? bytes with
  | some text => .ok text
  | none => .error .notText

/-- What a command prints, and the code it ends with. -/
structure Response where
  code : UInt32
  output : String
  errors : String
  deriving DecidableEq, Repr

/-- The last component of a path, or the whole path if it has none. -/
def lastComponent (path : String) : String :=
  let behind := path.toList.reverse.takeWhile (· != '/')
  if behind.isEmpty then path else String.ofList behind.reverse

/-- The name under which a source is read. -/
def Input.name : Input → String
  | .inline _ => unnamedSource
  | .file path => lastComponent path
  | .standardInput => "stdin"

/-- A JSON value as a command prints it. -/
def Command.jsonText (command : Command) (value : Json) : String :=
  if command.compact then value.compact else value.pretty

/-- What a command prints for a source. -/
def Command.print (command : Command) (source : String) : Except Diagnostic String :=
  let name := some command.input.name
  if command.tokens then
    (tokenize source name).map fun tokens => command.jsonText (Token.listToJson tokens)
  else
    (parse command.mode source name).map fun output =>
      match output with
      | .list expression =>
          if command.compact then command.jsonText expression.toJson else expression.lisp
      | .tree tree => command.jsonText tree.toJson

/-- Run a command on the source that was read. -/
def Command.run (command : Command) (source : Except ReadFault String) : Response :=
  match source with
  | .error fault => ⟨1, "", "Error: " ++ fault.message ++ "\n"⟩
  | .ok text =>
      match command.print text with
      | .ok printed => ⟨0, printed ++ "\n", ""⟩
      | .error diagnostic => ⟨1, "", Excerpt.render diagnostic text⟩

/-- What is printed when the version is asked for. -/
def versionText : String :=
  "descent 0.1.0\n"

/-- The lines that are printed when help is asked for. -/
def helpLines : List String :=
  [ "Tokenize and parse programs into an AST",
    "",
    "Usage: descent [OPTIONS] [FILE]",
    "",
    "Arguments:",
    "  [FILE]  Source file to parse (reads stdin when neither FILE nor -e is given)",
    "",
    "Options:",
    "  -e, --expression <SOURCE>  Parse SOURCE given on the command line",
    "      --mode <MODE>          Node representation of the output [default: default] "
      ++ "[possible values: default, s-expression]",
    "      --tokens               Print the token stream instead of the tree",
    "      --compact              Single-line JSON output; S-expressions are then printed as "
      ++ "JSON arrays",
    "  -h, --help                 Print help",
    "  -V, --version              Print version" ]

/-- What is printed when help is asked for. -/
def helpText : String :=
  String.join (helpLines.map (· ++ "\n"))

end Script.CommandLine
