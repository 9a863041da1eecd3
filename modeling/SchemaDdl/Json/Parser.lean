import SchemaDdl.Json.Token

/-!
# Reading JSON

The tokens of a text are read one after the other with a list of the containers that are open.
-/

namespace SchemaDdl.Json

/-- What happens to members of one name in an object. -/
inductive Repeated where
  /-- They are all members of the value. -/
  | kept
  /-- The last one replaces the others. -/
  | lastWins
deriving DecidableEq, Repr

/-- A container that is open. Its items and members are listed last first; the name of a member may
be unreadable, and then so is the object. -/
inductive Frame where
  | array (items : List Json)
  | object (members : List (Option String × Json))
  /-- An object with the name of a member whose value comes next. -/
  | member (members : List (Option String × Json)) (name : Option String)

/-- What may come next. -/
inductive Expected where
  | value
  /-- The first item of an array, or its end. -/
  | itemOrEnd
  /-- The first name in an object, or its end. -/
  | nameOrEnd
  | name
  | colon
  /-- A comma or the end of the container. -/
  | commaOrEnd
deriving DecidableEq, Repr

/-- A text that is read in part: its open containers, the innermost first, or its value. -/
inductive Progress where
  | inside (frames : List Frame) (expected : Expected)
  | complete (value : Json)

namespace Progress

def initial : Progress := inside [] .value

/-- A value has been read. -/
def addValue (value : Json) : List Frame → Option Progress
  | [] => some (complete value)
  | .array items :: outer => some (inside (.array (value :: items) :: outer) .commaOrEnd)
  | .member members name :: outer =>
    some (inside (.object ((name, value) :: members) :: outer) .commaOrEnd)
  | .object _ :: _ => none

/-- The members of an object in their order. -/
def arrange (repeated : Repeated) (members : List (String × Json)) : List (String × Json) :=
  match repeated with
  | .kept => members.reverse
  | .lastWins => (members.eraseDupsBy fun a b => a.1 == b.1).reverse

/-- A container has been read inside others. -/
def close (repeated : Repeated) (frame : Frame) (outer : List Frame) : Option Progress :=
  let value :=
    if maxDepth ≤ outer.length then some Json.unreadable
    else match frame with
      | .array items => some (.array items.reverse)
      | .object members =>
        match members.mapM fun (name, value) => name.map (·, value) with
        | some members => some (.object (arrange repeated members))
        | none => some .unreadable
      | .member .. => none
  value.bind (addValue · outer)

/-- A token where a value begins. -/
def beginValue (frames : List Frame) : Token → Option Progress
  | .word value => addValue value frames
  | .text content => addValue (content.elim .unreadable .string) frames
  | .openArray => some (inside (.array [] :: frames) .itemOrEnd)
  | .openObject => some (inside (.object [] :: frames) .nameOrEnd)
  | _ => none

def step (repeated : Repeated) (progress : Progress) (token : Token) : Option Progress :=
  match progress, token with
  | inside (.array items :: outer) .itemOrEnd, .closeArray
  | inside (.array items :: outer) .commaOrEnd, .closeArray => close repeated (.array items) outer
  | inside (.object members :: outer) .nameOrEnd, .closeObject
  | inside (.object members :: outer) .commaOrEnd, .closeObject =>
    close repeated (.object members) outer
  | inside frames .value, token | inside frames .itemOrEnd, token => beginValue frames token
  | inside (.array items :: outer) .commaOrEnd, .comma =>
    some (inside (.array items :: outer) .value)
  | inside (.object members :: outer) .commaOrEnd, .comma =>
    some (inside (.object members :: outer) .name)
  | inside (.object members :: outer) .nameOrEnd, .text name
  | inside (.object members :: outer) .name, .text name =>
    some (inside (.member members name :: outer) .colon)
  | inside frames .colon, .colon => some (inside frames .value)
  | _, _ => none

end Progress

/-- The value of a text, if it is JSON. -/
def ofText? (repeated : Repeated) (s : String) : Option Json := do
  let tokens ← Token.scan? .between s.toList
  match ← tokens.foldlM (Progress.step repeated) .initial with
  | .complete value => some value
  | .inside .. => none

end SchemaDdl.Json
