/-!
Contract: the languages that can be analyzed.

Owns: their identifiers and extensions.
-/

namespace FunctionAtlas.Analysis

/-- A language with the extensions of its files, without the dot. -/
structure Language where
  id : String
  extensions : List String
deriving DecidableEq, Repr

namespace Language

def python : Language := { id := "python", extensions := ["py"] }

/-- All languages. -/
def all : List Language := [python]

def handles (language : Language) (extension : String) : Bool :=
  language.extensions.contains extension

/-- The language of files with an extension. -/
def ofExtension? (extension : String) : Option Language := all.find? (·.handles extension)

/-- The language with an identifier. -/
def ofId? (id : String) : Option Language := all.find? (·.id = id)

/-- The extensions of all languages. -/
def knownExtensions : List String := all.flatMap Language.extensions

end Language

end FunctionAtlas.Analysis
