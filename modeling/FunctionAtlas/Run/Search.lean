import FunctionAtlas.Run.Inputs
import FunctionAtlas.Run.Request
import FunctionAtlas.Search.Listing

/-!
Contract: the task of searching a source tree.

Owns: the order of its checks, and the exit code.
-/

namespace FunctionAtlas.Run.SearchRequest

open FunctionAtlas.Search
open FunctionAtlas.Storage

/-- The matches that a request asks for, or a reason to refuse. -/
def find (disk : Disk) (request : SearchRequest) : Except Refusal (List FileMatches) :=
  match compile request.pattern
      { ignoreCase := request.ignoreCase, fixedStrings := request.fixedStrings } with
  | .error fault => .error (.pattern fault)
  | .ok program => do
      let config ← loadSettings disk request.config
      let inputs ← resolveInputs disk config request.path
      .ok (searchFiles disk program inputs.base inputs.files)

/-- Searches what a request asks for. Finding nothing is a failure. -/
def run (disk : Disk) (isColoured : Bool) (request : SearchRequest) : Effect :=
  match request.find disk with
  | .error refusal => refused disk refusal
  | .ok found =>
      { disk
        output := listing isColoured found
        ending := .exit (if found.isEmpty then .failed else .success) }

end FunctionAtlas.Run.SearchRequest
