import SchemaDdl.CommandLine.Run

/-!
# The program

Takes arguments, environment and files from the system, and leaves the rest to `CommandLine`.
-/

open SchemaDdl CommandLine

/-- What the program is called with, in short. -/
def usage : String :=
  "usage: schema-ddl [-d DIALECT] [-v] (dialects | capabilities | sql PLAN |\n" ++
  "         exists-table --database DATABASE --table TABLE)"

/-- The content of a file, or the reason why it cannot be read. -/
def contentOf (path : String) : IO (Except FileError ByteArray) := do
  try
    return .ok (← IO.FS.readBinFile path)
  catch
    | .noFileOrDirectory .. => return .error .notFound
    | .inappropriateType .. => return .error .isDirectory
    | .permissionDenied _ code _ => return .error (.system "Permission denied" code.toNat)
    | error => return .error (.system (toString error) 0)

def main (arguments : List String) : IO UInt32 := do
  let environment ← IO.getEnv "OXIDE_DDL_DIALECT"
  match Invocation.ofArguments? arguments environment with
  | none =>
    IO.eprintln usage
    return 2
  | some invocation =>
    let content ←
      match invocation.command with
      | .sql path => contentOf path
      | _ => pure (.error .notFound)
    let outcome := invocation.run .builtin fun _ => content
    IO.print outcome.output
    if let some error := outcome.error then
      IO.eprintln ("Error: " ++ error.message)
    return outcome.exitCode.toUInt32
