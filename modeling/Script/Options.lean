import Script.Json.Reader
import Script.Output

/-!
# Options

The mode and the source name of a parser, as they are written in JSON: an object
whose fields may be left out, or an array of the two values from which the last
ones may be left out.
-/

namespace Script

/-- How sources are read. -/
structure Options where
  mode : Mode
  file : Option String
  deriving DecidableEq, Repr

namespace Options

open Script.Json (Document)

/-- What holds where nothing is said. -/
def standard : Options :=
  ⟨.tree, none⟩

/-- A mode: its name, or an object whose only field has that name and holds `null`. -/
def mode? : Document → Option Mode
  | .string (some name) => Mode.ofName? name
  | .object [(some name, .null)] => Mode.ofName? name
  | _ => none

/-- A source name, or `null` for none. -/
def file? : Document → Option (Option String)
  | .null => some none
  | .string (some name) => some (some name)
  | _ => none

/-- The value of a field that may be left out but not repeated. -/
def field? (key : String) (fields : List (Option String × Document)) :
    Option (Option Document) :=
  match fields.filter fun field => field.1 = some key with
  | [] => some none
  | [field] => some (some field.2)
  | _ => none

/-- The options that a document spells out. -/
def ofDocument? : Document → Option Options
  | .object fields =>
      if fields.any fun field => field.1.isNone then
        none
      else do
        let mode ← (← field? "mode" fields).elim (some standard.mode) mode?
        let file ← (← field? "file_name" fields).elim (some standard.file) file?
        return ⟨mode, file⟩
  | .array [] => some standard
  | .array [mode] => (mode? mode).map fun value => ⟨value, standard.file⟩
  | .array [mode, file] => do return ⟨← mode? mode, ← file? file⟩
  | _ => none

/-- The options that a JSON text spells out. -/
def read? (text : String) : Option Options :=
  (Json.read? text).bind ofDocument?

/-- A parser with these options. -/
def session (options : Options) : Session :=
  Session.start options.mode options.file

end Options

end Script
