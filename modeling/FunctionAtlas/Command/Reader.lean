import FunctionAtlas.Command.Fault
import FunctionAtlas.Command.Help
import FunctionAtlas.Text.Similarity

/-!
Contract: the reading of the arguments of one scope.

Arguments are taken from the left. A value is looked at only when the next parameter begins or the
arguments end, so that an argument which is not known at all is reported before a bad value that
comes ahead of it.

Owns: the shapes of arguments, the parameters and values read so far, and the faults found while
reading.

Does not own: what the parameters are for.
-/

namespace FunctionAtlas.Command

open FunctionAtlas.Decimal
open FunctionAtlas.Run
open FunctionAtlas.Text

/-! ## Values -/

/-- What a parameter was given. -/
inductive Argument where
  | present
  | text (text : String)
  | count (number : Nat)
  | colour (choice : ColourChoice)
deriving DecidableEq, Repr

/-- The argument that a text gives for a parameter. -/
def readValue (parameter : Parameter) (kind : ValueKind) (value : String) :
    Except UsageFault Argument :=
  match kind with
  | .text => .ok (.text value)
  | .path =>
      if value = "" then .error { cause := .missingValue parameter } else .ok (.text value)
  | .count =>
      match readCount value with
      | .ok number => .ok (.count number)
      | .error fault => .error { cause := .invalidCount parameter value fault }
  | .colour =>
      match ColourChoice.ofName? value with
      | some choice => .ok (.colour choice)
      | none =>
          if value = "" then .error { cause := .missingValue parameter }
          else
            let near := closestName? value (ColourChoice.all.map (·.name))
            .error { cause := .invalidChoice parameter value, tip := near.map .similarValue }

/-! ## Shapes -/

/-- What an argument looks like. -/
inductive Shape where
  /-- Two dashes: all that follow are values. -/
  | dashes
  | long (name : String) (value : Option String)
  | short (names : List Char)
  | plain
deriving DecidableEq, Repr

/-- The part before the first equals sign, and the part after it if there is one. -/
def splitEquals : List Char → List Char × Option (List Char)
  | [] => ([], none)
  | '=' :: rest => ([], some rest)
  | character :: rest =>
      let (before, after) := splitEquals rest
      (character :: before, after)

def Shape.of (argument : String) : Shape :=
  match argument.toList with
  | ['-', '-'] => .dashes
  | '-' :: '-' :: rest =>
      let (name, value) := splitEquals rest
      .long (String.ofList name) (value.map String.ofList)
  | '-' :: character :: rest => .short (character :: rest)
  | _ => .plain

/-! ## The state of reading -/

/-- A parameter whose value is still to be looked at, or to come. -/
structure Pending where
  parameter : Parameter
  value : Option String
deriving DecidableEq, Repr

/-- Why reading ended without a task. -/
inductive Stop where
  | fault (fault : UsageFault)
  | help (scope : Scope) (length : Help.Length)
  | version
  /-- There was nothing to read. -/
  | nothingAsked
deriving DecidableEq, Repr

structure Reading where
  /-- The parameters mentioned so far, in their order. -/
  mentioned : List Parameter := []
  values : List (Parameter × Argument) := []
  pending : Option Pending := none
  /-- How many places are filled. -/
  placed : Nat := 0
  /-- Whether two dashes were read. -/
  isTrailing : Bool := false
deriving DecidableEq, Repr

namespace Reading

/-- Takes in a parameter with its value. What was mentioned is kept also if the value is refused,
because later faults show it. -/
def accept (scope : Scope) (reading : Reading) (given : Pending) :
    Reading × Option UsageFault :=
  let parameter := given.parameter
  let argument := match parameter.facts.value, given.value with
    | none, _ => some (Except.ok Argument.present)
    | some (kind, _), some value => some (readValue parameter kind value)
    | some _, none => none
  match argument with
  | none => (reading, some { cause := .missingValue parameter })
  | some argument =>
      if reading.mentioned.contains parameter then
        ({ reading with mentioned := reading.mentioned.erase parameter },
          some { cause := .repeated parameter, usage := some { scope } })
      else
        let mentioning := { reading with mentioned := reading.mentioned ++ [parameter] }
        match argument with
        | .error fault => (mentioning, some fault)
        | .ok value => ({ mentioning with values := reading.values ++ [(parameter, value)] }, none)

/-- Takes in what is pending. -/
def settle (scope : Scope) (reading : Reading) : Reading × Option UsageFault :=
  match reading.pending with
  | none => (reading, none)
  | some pending => { reading with pending := none }.accept scope pending

/-- The state that a step leaves, unless it found a fault. -/
def checked : Reading × Option UsageFault → Except Stop Reading
  | (_, some fault) => .error (.fault fault)
  | (reading, none) => .ok reading

/-- Takes in what is pending and then a parameter with its value. -/
def take (scope : Scope) (reading : Reading) (given : Pending) : Except Stop Reading := do
  let settled ← checked (reading.settle scope)
  checked (settled.accept scope given)

/-- Takes in what is pending, and makes a parameter pending. -/
def await (scope : Scope) (reading : Reading) (given : Pending) : Except Stop Reading := do
  let settled ← checked (reading.settle scope)
  .ok { settled with pending := some given }

/-- The option that waits for its value. -/
def awaiting? (reading : Reading) : Option Parameter :=
  match reading.pending with
  | some ⟨parameter, none⟩ => if reading.isTrailing then none else some parameter
  | _ => none

/-- The mentioned parameters that a usage line would not show anyway. -/
def optional (reading : Reading) : List Parameter :=
  reading.mentioned.filter fun parameter => !parameter.facts.isRequired

/-! ## Options -/

/-- Takes a switch. Asking for help or for the version ends the reading. -/
def takeSwitch (scope : Scope) (reading : Reading) (parameter : Parameter)
    (length : Help.Length) : Except Stop Reading := do
  let settled ← checked (reading.settle scope)
  match parameter with
  | .help => .error (.help scope length)
  | .version => .error .version
  | _ => checked (settled.accept scope { parameter, value := none })

/-- The command among the following words that has an option like a name: the first that is
called. -/
def optionElsewhere? (scope : Scope) (name : String) (following : List String) :
    Option (String × String) :=
  following.findSome? fun word =>
    scope.commands.findSome? fun command =>
      if command.name = word then
        (closestName? name command.longNames).map fun near => (command.name, near)
      else none

/-- The fault of an option with a name that is not known. -/
def unknownLong (scope : Scope) (reading : Reading) (name : String) (following : List String) :
    UsageFault :=
  let used := (reading.settle scope).1.optional
  let cause := Cause.unknownArgument ("--" ++ name)
  match closestName? name scope.longNames with
  | some near =>
      let also := (scope.withLongName? near).toList.filter fun parameter =>
        !used.contains parameter
      { cause, tip := some (.similarOption ("--" ++ near))
        usage := some { scope, used := used ++ also } }
  | none =>
      let tip :=
        match optionElsewhere? scope name following with
        | some (command, near) => some (Tip.optionOf command ("--" ++ near))
        | none =>
            if scope.places.isEmpty then none else some (Tip.passAsValue ("--" ++ name))
      { cause, tip, usage := some { scope, used } }

def readLong (scope : Scope) (reading : Reading) (name : String) (value : Option String)
    (following : List String) : Except Stop Reading :=
  match scope.withLongName? name with
  | none => .error (.fault (unknownLong scope reading name following))
  | some parameter =>
      match parameter.takesValue, value with
      | true, some value => reading.take scope { parameter, value := some value }
      | true, none => reading.await scope { parameter, value := none }
      | false, none => reading.takeSwitch scope parameter .long
      | false, some value =>
          .error (.fault
            { cause := .valueForSwitch parameter value
              usage := some { scope, used := reading.optional ++ [parameter] } })

/-- Reads the letters after one dash. A letter that takes a value takes the rest, without an
equals sign at its start. -/
def readShort (scope : Scope) : Reading → List Char → Except Stop Reading
  | reading, [] => .ok reading
  | reading, name :: rest =>
      match scope.withShortName? name with
      | none =>
          let argument := "-" ++ name.toString
          .error (.fault
            { cause := .unknownArgument argument
              tip := if scope.places.isEmpty then none else some (.passAsValue argument)
              usage := some { scope } })
      | some parameter =>
          if parameter.takesValue then
            match rest with
            | [] => reading.await scope { parameter, value := none }
            | '=' :: value =>
                reading.take scope { parameter, value := some (String.ofList value) }
            | value => reading.take scope { parameter, value := some (String.ofList value) }
          else
            match reading.takeSwitch scope parameter .short with
            | .error stop => .error stop
            | .ok next => readShort scope next rest

/-! ## Values by place -/

/-- The fault of a word for which there is no place. -/
def surplus (scope : Scope) (reading : Reading) (word : String) : UsageFault :=
  let usage := some { scope }
  if reading.isTrailing && (scope.commandNamed? word).isSome then
    { cause := .unknownArgument word, tip := some (.commandAfterDashes word), usage }
  else if scope.commands.isEmpty then { cause := .unknownArgument word, usage }
  else
    match similarNames word (scope.commands.flatMap Scope.allNames) with
    | [] => { cause := .unknownCommand word, usage }
    | near => { cause := .unknownCommand word, tip := some (.similarCommands near), usage }

def readPlain (scope : Scope) (reading : Reading) (word : String) : Except Stop Reading :=
  match scope.places[reading.placed]? with
  | none => .error (.fault (surplus scope reading word))
  | some parameter => do
      let next ← reading.await scope { parameter, value := some word }
      .ok { next with placed := reading.placed + 1 }

/-! ## All arguments of a scope -/

/-- Reads an argument that is not the name of a command. -/
def readArgument (scope : Scope) (reading : Reading) (argument : String)
    (following : List String) : Except Stop Reading :=
  if reading.isTrailing then readPlain scope reading argument
  else
    match Shape.of argument with
    | .dashes => .ok { reading with isTrailing := true }
    | .long name value => readLong scope reading name value following
    | .short names => readShort scope reading names
    | .plain =>
        match reading.awaiting? with
        | some parameter =>
            .ok { reading with pending := some { parameter, value := some argument } }
        | none => readPlain scope reading argument

/-- The command that an argument calls where it stands. -/
def commandCalled? (scope : Scope) (reading : Reading) (argument : String) : Option Scope :=
  if reading.isTrailing || reading.awaiting?.isSome then none
  else scope.commandNamed? argument

/-- Reads arguments up to their end or to a command, which comes with the arguments after it. -/
def readAll (scope : Scope) :
    Reading → List String → Except Stop (Reading × Option (Scope × List String))
  | reading, [] => .ok (reading, none)
  | reading, argument :: following =>
      match commandCalled? scope reading argument with
      | some command => .ok (reading, some (command, following))
      | none =>
          match readArgument scope reading argument following with
          | .error stop => .error stop
          | .ok next => readAll scope next following

/-! ## The end of a scope -/

/-- The two parameters that exclude each other, the earlier first, if both are mentioned. -/
def conflict? (reading : Reading) : Option (Parameter × Parameter) :=
  match reading.mentioned.filter fun parameter => parameter = .verbose || parameter = .quiet with
  | [first, second] => some (first, second)
  | _ => none

/-- Takes in what is pending, and refuses parameters that exclude each other. -/
def finish (scope : Scope) (reading : Reading) : Except Stop Reading := do
  let settled ← checked (reading.settle scope)
  match settled.conflict? with
  | none => .ok settled
  | some (first, second) =>
      .error (.fault
        { cause := .conflict first second
          usage := some { scope, used := settled.mentioned.erase second } })

/-! ## Values read -/

def argument? (reading : Reading) (parameter : Parameter) : Option Argument :=
  reading.values.lookup parameter

def has (reading : Reading) (parameter : Parameter) : Bool := reading.mentioned.contains parameter

def text? (reading : Reading) (parameter : Parameter) : Option String :=
  match reading.argument? parameter with
  | some (.text text) => some text
  | _ => none

/-- The text given for a parameter, or its default. -/
def textOr (reading : Reading) (parameter : Parameter) : String :=
  (reading.text? parameter).getD (parameter.facts.fallback.getD "")

def count? (reading : Reading) (parameter : Parameter) : Option Nat :=
  match reading.argument? parameter with
  | some (.count number) => some number
  | _ => none

def colour? (reading : Reading) : Option ColourChoice :=
  match reading.argument? .colour with
  | some (.colour choice) => some choice
  | _ => none

end Reading

end FunctionAtlas.Command
