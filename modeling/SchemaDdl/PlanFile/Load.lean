import SchemaDdl.PlanFile.Plan

/-!
# Loading plan files

A file that cannot be read is told apart from one that holds no plan.
-/

namespace SchemaDdl

/-- Why the content of a file is not to be had. -/
inductive FileError where
  /-- The system has its own words and a number for the reason. -/
  | system (reason : String) (code : Nat)
  | notUtf8
deriving DecidableEq, Repr

namespace FileError

def notFound : FileError := system "No such file or directory" 2

def isDirectory : FileError := system "Is a directory" 21

def message : FileError → String
  | system reason code => s!"{reason} (os error {code})"
  | notUtf8 => "stream did not contain valid UTF-8"

end FileError

inductive LoadError where
  | read (path : String) (cause : FileError)
  | parse (path : String)
deriving DecidableEq, Repr

namespace LoadError

def message : LoadError → String
  | read path cause => s!"Failed to read plan '{path}': {cause.message}"
  | parse path => s!"Failed to parse plan '{path}'"

end LoadError

namespace Plan

def fileText (content : Except FileError ByteArray) : Except FileError String := do
  match String.fromUTF8? (← content) with
  | some text => .ok text
  | none => .error .notUtf8

/-- The plan at a path, from what reading the file gives. -/
def load (path : String) (content : Except FileError ByteArray) : Except LoadError Plan :=
  match fileText content with
  | .error cause => .error (.read path cause)
  | .ok text =>
    match ofText? text with
    | some plan => .ok plan
    | none => .error (.parse path)

end Plan

end SchemaDdl
