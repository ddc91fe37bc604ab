import FunctionAtlas.Command.Reader

/-!
Contract: the whole command line.

Owns: the split into the arguments before and after the command, and the invocation they ask for.

Does not own: carrying out the invocation.
-/

namespace FunctionAtlas.Command

open FunctionAtlas.Run

/-- The help that the words after the help command ask for. -/
def helpOn (scope : Scope) : List String → Stop
  | [] => .help scope .long
  | word :: words =>
      match scope.commandNamed? word with
      | some command => helpOn command words
      | none => .fault { cause := .unknownCommand word, usage := some { scope } }

/-- The task that the arguments after its name describe. -/
def taskOf (name : TaskName) (reading : Reading) : Except Stop Task :=
  match name with
  | .summarize =>
      .ok (.summarize
        { path := reading.textOr .analyzedPath
          config := reading.text? .config
          jobs := reading.count? .jobs
          outputFolder := reading.text? .outputFolder
          combinedFile := reading.text? .combined
          format := reading.textOr .format
          isStrict := reading.has .strict
          hidesProgress := reading.has .noProgress })
  | .search =>
      match reading.text? .pattern with
      | some pattern =>
          .ok (.search
            { pattern
              path := reading.textOr .searchedPath
              config := reading.text? .config
              ignoreCase := reading.has .ignoreCase
              fixedStrings := reading.has .fixedStrings })
      | none =>
          .error (.fault
            { cause := .missingParameter .pattern
              usage := some
                { scope := .task name, used := reading.mentioned ++ [.pattern] } })
  | .init => .ok (.init { output := reading.textOr .output })

/-- An invocation of a task. What is asked after the command wins over what is asked before. -/
def invocationOf (task : Task) (outer inner : Reading) : Invocation :=
  { task
    isVerbose := inner.has .verbose || outer.has .verbose
    isQuiet := inner.has .quiet || outer.has .quiet
    logsDebug := inner.has .debug || outer.has .debug
    colour := (inner.colour?.or outer.colour?).getD .auto }

/-- Why arguments without a command ask for nothing. -/
def withoutCommand (outer : Reading) : Stop :=
  match Reading.checked (outer.settle .program) with
  | .error stop => stop
  | .ok settled =>
      if settled.mentioned.isEmpty then .nothingAsked
      else .fault { cause := .missingCommand, usage := some { scope := .program } }

/-- Reads the arguments of a task, and then checks those before its name. -/
def readTask (name : TaskName) (outer : Reading) (following : List String) :
    Except Stop Invocation := do
  let (reading, _) ← Reading.readAll (.task name) {} following
  let inner ← reading.finish (.task name)
  let task ← taskOf name inner
  let outer ← outer.finish .program
  .ok (invocationOf task outer inner)

/-- Reads the arguments of the program. -/
def read (arguments : List String) : Except Stop Invocation := do
  let (outer, called) ← Reading.readAll .program {} arguments
  match called with
  | none => .error (withoutCommand outer)
  | some (.task name, following) => readTask name outer following
  | some (_, following) => .error (helpOn .program following)

end FunctionAtlas.Command
