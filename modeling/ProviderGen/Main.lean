import ProviderGen.CommandLine.Program

/-!
The program. It works on the files of the host; it starts no other program, so sources can only be
generated with formatting skipped.
-/

namespace ProviderGen

def IoFailure.ofError : IO.Error → IoFailure
  | .noFileOrDirectory _ _ _ => .notFound
  | .alreadyExists _ _ _ => .alreadyExists
  | .inappropriateType _ code _ => if code = 21 then .isDirectory else .notDirectory
  | .invalidArgument _ code details => if code = 36 then .nameTooLong else .other details
  | error => .other (toString error)

def attempt {α : Type} (action : IO α) : IO (Except IoFailure α) := do
  try
    return .ok (← action)
  catch error =>
    return .error (.ofError error)

def formatterProgram : String := "goimports"

def fileHost : Host IO where
  readText path := do
    match ← attempt (IO.FS.readBinFile path.text) with
    | .error cause => return .error cause
    | .ok content =>
      match String.fromUTF8? content with
      | some text => return .ok text
      | none => return .error .notUtf8
  createDirectories path := attempt (IO.FS.createDirAll path.text)
  writeText path text := attempt do
    match path.parent? with
    | some parent => if parent.text ≠ "" then IO.FS.createDirAll parent.text
    | none => pure ()
    IO.FS.writeFile path.text text
  format directory := return .error (.notStarted formatterProgram directory .notFound)

end ProviderGen

def main (arguments : List String) : IO UInt32 := do
  let environment? ← IO.getEnv ProviderGen.CommandLine.configVariable
  let request := ProviderGen.CommandLine.readArguments environment? {} arguments
  let outcome ← ProviderGen.CommandLine.run ProviderGen.fileHost request
  IO.print outcome.output
  match outcome.report? with
  | some report => IO.eprint report
  | none => pure ()
  return outcome.exitCode
