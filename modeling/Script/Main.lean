import Script.CommandLine

/-!
# The program

Reads the source that the arguments name, and prints what the command prints.
-/

namespace Script.CommandLine

/-- Whether the system reports a given number, which some of its calls negate. -/
def reports (code number : UInt32) : Bool :=
  code = number || code = 0 - number

/-- The fault behind a failure to read. -/
def readFault (error : IO.Error) : ReadFault :=
  match error with
  | .noFileOrDirectory .. => .missing
  | .inappropriateType _ code _ => if reports code 21 then .isDirectory else .notDirectory
  | .invalidArgument _ code _ =>
      if reports code 36 then .nameTooLong else .other (toString error)
  | _ => .other (toString error)

/-- The text of a command's source. -/
def readSource : Input → IO (Except ReadFault String)
  | .inline source => return .ok source
  | .file path => do
      try
        return decode (← IO.FS.readBinFile path)
      catch error =>
        return .error (readFault error)
  | .standardInput => do
      try
        return decode (← (← IO.getStdin).readBinToEnd)
      catch error =>
        return .error (readFault error)

end Script.CommandLine

open Script.CommandLine

/-- Run the program. -/
def main (arguments : List String) : IO UInt32 := do
  match request arguments with
  | .version =>
      IO.print versionText
      return 0
  | .help =>
      IO.print helpText
      return 0
  | .misuse =>
      IO.eprint "error: invalid arguments\n\nFor more information, try '--help'.\n"
      return 2
  | .run command =>
      let response := command.run (← readSource command.input)
      IO.print response.output
      IO.eprint response.errors
      return response.code
