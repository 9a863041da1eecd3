/-!
# Arguments

The arguments of the program: settings by name, in any order, before and after the name of a
command. Every setting may be given once before the command and once behind it, where the second one
counts; the dialect may also come from the environment.
-/

namespace SchemaDdl.CommandLine

/-- What the program is to do. -/
inductive Command where
  | dialects
  | capabilities
  | sql (path : String)
  /-- Write the query for the number of tables of a name in a database. -/
  | existsTable (database table : String)
deriving DecidableEq, Repr

/-- What the program is called with. -/
structure Invocation where
  command : Command
  dialect : Option String
  verbose : Bool
deriving DecidableEq, Repr

inductive CommandName where
  | dialects
  | capabilities
  | sql
  | existsTable
deriving DecidableEq, Repr

def CommandName.ofText? : String → Option CommandName
  | "dialects" => some dialects
  | "capabilities" => some capabilities
  | "sql" => some sql
  | "exists-table" => some existsTable
  | _ => none

/-- A setting that is given by name. -/
inductive Setting where
  | dialect
  | verbose
  | database
  | table
deriving DecidableEq, Repr

namespace Setting

def hasValue : Setting → Bool
  | verbose => false
  | _ => true

/-- The setting of a name, where database and table belong to one command only. -/
def ofName? (command : Option CommandName) : String → Option Setting
  | "dialect" => some dialect
  | "verbose" => some verbose
  | "database" => if command = some .existsTable then some database else none
  | "table" => if command = some .existsTable then some table else none
  | _ => none

def ofLetter? : Char → Option Setting
  | 'd' => some dialect
  | 'v' => some verbose
  | _ => none

end Setting

/-- Settings with their values, and the operand of the command. -/
structure Given where
  settings : List (Setting × String) := []
  operand : Option String := none
deriving DecidableEq, Repr

namespace Given

def value? (g : Given) (setting : Setting) : Option String := g.settings.lookup setting

/-- One more setting, which must be new. -/
def insert? (g : Given) (setting : Setting) (value : String) : Option Given :=
  if (g.value? setting).isSome then none
  else some { g with settings := (setting, value) :: g.settings }

end Given

/-- The arguments that are read. -/
structure Progress where
  /-- What comes before the command. -/
  outer : Given := {}
  command : Option CommandName := none
  /-- What comes behind the command, or all as long as there is none. -/
  current : Given := {}
  /-- A setting whose value comes next. -/
  pending : Option Setting := none
  /-- Whether settings are over, so that all that follows is an operand. -/
  operandsOnly : Bool := false
deriving DecidableEq, Repr

namespace Progress

def give? (p : Progress) (setting : Setting) (value : String) : Option Progress :=
  (p.current.insert? setting value).map fun given =>
    { p with current := given, pending := none }

/-- A word that is neither a setting nor its value: the name of a command, or the operand of one. -/
def operand? (p : Progress) (word : String) : Option Progress :=
  match p.command with
  | none =>
    if p.operandsOnly then none
    else (CommandName.ofText? word).map fun command =>
      { p with command := some command, outer := p.current, current := {} }
  | some .sql =>
    if p.current.operand.isNone ∧ word ≠ "" then
      some { p with current := { p.current with operand := some word } }
    else none
  | some _ => none

/-- A setting by its full name, with a value behind an equals sign or in the next argument. -/
def longSetting? (p : Progress) (cs : List Char) : Option Progress := do
  let name := cs.takeWhile (· != '=')
  let setting ← Setting.ofName? p.command (String.ofList name)
  match cs.drop name.length with
  | _ :: value => if setting.hasValue then p.give? setting (String.ofList value) else none
  | [] => if setting.hasValue then some { p with pending := some setting } else p.give? setting ""

/-- Settings by their letters. A value is the rest of the argument, behind an equals sign if there
is one, or the next argument. -/
def shortSettings? (p : Progress) : List Char → Option Progress
  | [] => some p
  | letter :: rest => do
    let setting ← Setting.ofLetter? letter
    if setting.hasValue then
      match rest with
      | [] => some { p with pending := some setting }
      | '=' :: value => p.give? setting (String.ofList value)
      | value => p.give? setting (String.ofList value)
    else
      (← p.give? setting "").shortSettings? rest

def step (p : Progress) (argument : String) : Option Progress :=
  if p.operandsOnly then p.operand? argument
  else match p.pending, argument.toList with
    | some _, '-' :: _ :: _ => none
    | some setting, _ => p.give? setting argument
    | none, ['-', '-'] => some { p with operandsOnly := true }
    | none, '-' :: '-' :: name => p.longSetting? name
    | none, '-' :: letter :: rest => p.shortSettings? (letter :: rest)
    | none, _ => p.operand? argument

/-- The invocation, if nothing is missing. -/
def finish? (p : Progress) (environment : Option String) : Option Invocation := do
  let name ← p.command
  if p.pending.isSome then none else
    let command ←
      match name with
      | .dialects => some Command.dialects
      | .capabilities => some .capabilities
      | .sql => p.current.operand.map .sql
      | .existsTable => do
        let database ← p.current.value? .database
        let table ← p.current.value? .table
        some (.existsTable database table)
    let dialect := p.current.value? .dialect <|> p.outer.value? .dialect <|> environment
    let verbose := (p.current.value? .verbose <|> p.outer.value? .verbose).isSome
    return ⟨command, dialect, verbose⟩

end Progress

/-- The invocation of the arguments, with the dialect of the environment. -/
def Invocation.ofArguments? (arguments : List String) (environment : Option String) :
    Option Invocation := do
  (← arguments.foldlM Progress.step {}).finish? environment

end SchemaDdl.CommandLine
