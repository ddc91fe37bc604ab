/-!
Contract: paths as texts.

A path is cut at its slashes. Empty pieces and pieces that are a single dot say nothing, except
that a leading slash means the top folder and a leading dot the working folder. What is left are
the components, and two paths with the same components are the same path.

Owns: pieces, components, and the parts of a path.

Does not own: what a path leads to.
-/

namespace FunctionAtlas.Storage

/-- How a path begins. -/
inductive Anchor where
  /-- With its first piece. -/
  | relative
  /-- With a dot for the working folder. -/
  | here
  /-- With a slash for the top folder. -/
  | top
deriving DecidableEq, Repr

/-- One step of a path. -/
inductive Component where
  | top
  | here
  | up
  | named (name : String)
deriving DecidableEq, Repr

/-- The pieces between slashes; a text without a slash is one piece. -/
def splitSlash : List Char → List (List Char)
  | [] => [[]]
  | character :: rest =>
      if character = '/' then [] :: splitSlash rest
      else
        match splitSlash rest with
        | [] => [[character]]
        | piece :: pieces => (character :: piece) :: pieces

/-- A piece that says nothing. -/
def isSilent (piece : String) : Bool := piece = "" || piece = "."

/-- A path, cut into its beginning and the pieces after it. -/
structure Path where
  anchor : Anchor
  pieces : List String
deriving DecidableEq, Repr

namespace Path

/-- Cuts a text. -/
def ofText (text : String) : Path :=
  match (splitSlash text.toList).map String.ofList with
  | "" :: first :: rest => ⟨.top, first :: rest⟩
  | "." :: rest => ⟨.here, rest⟩
  | pieces => ⟨.relative, if pieces = [""] then [] else pieces⟩

/-- The text of a path. -/
def toText (path : Path) : String :=
  match path.anchor with
  | .relative => String.intercalate "/" path.pieces
  | .top => "/" ++ String.intercalate "/" path.pieces
  | .here => String.intercalate "/" ("." :: path.pieces)

/-- What the beginning contributes to the components. -/
def anchorComponents : Anchor → List Component
  | .relative => []
  | .here => [.here]
  | .top => [.top]

def componentOf (piece : String) : Component := if piece = ".." then .up else .named piece

/-- The steps of a path. -/
def components (path : Path) : List Component :=
  anchorComponents path.anchor ++
    ((path.pieces.filter fun piece => !isSilent piece).map componentOf)

/-- Leaves out the silent pieces at the end. -/
def trimEnd (pieces : List String) : List String :=
  (pieces.reverse.dropWhile isSilent).reverse

/-- Drops the given steps from the front of the pieces. -/
def dropSteps : List Component → List String → Option (List String)
  | [], pieces => some pieces
  | _ :: _, [] => none
  | step :: steps, piece :: pieces =>
      if isSilent piece then dropSteps (step :: steps) pieces
      else if componentOf piece = step then dropSteps steps pieces
      else none
termination_by steps pieces => (steps.length, pieces.length)

/-- The rest of a path after another one, if it begins with the other's steps. -/
def relativeTo (base path : Path) : Option Path :=
  match base.components with
  | [] => some { path with pieces := trimEnd path.pieces }
  | steps =>
      let start := anchorComponents path.anchor
      if steps.take start.length = start then
        (dropSteps (steps.drop start.length) path.pieces).map fun rest =>
          ⟨.relative, trimEnd (rest.dropWhile isSilent)⟩
      else none

/-- The last step, if it is a name. -/
def fileName (path : Path) : Option String :=
  match path.components.getLast? with
  | some (.named name) => some name
  | _ => none

/-- The path before the last step. A path without steps, or with the top folder as its only one,
has none. -/
def parent (path : Path) : Option Path :=
  match trimEnd path.pieces with
  | [] =>
      match path.anchor with
      | .here => some ⟨.relative, []⟩
      | _ => none
  | pieces => some { path with pieces := trimEnd pieces.dropLast }

/-- Whether two paths have the same steps. -/
def same (left right : Path) : Bool := left.components = right.components

end Path

/-! ## Texts of paths -/

/-- The part of a name after its last dot, if something stands before that dot. -/
def nameExtension (name : String) : Option String :=
  if name = ".." then none
  else
    let reversed := name.toList.reverse
    match reversed.dropWhile (· ≠ '.') with
    | [] => none
    | [_] => none
    | _ :: _ => some (String.ofList (reversed.takeWhile (· ≠ '.')).reverse)

/-- The extension of the file that a path names; empty if there is none. -/
def extensionOf (text : String) : String :=
  ((Path.ofText text).fileName.bind nameExtension).getD ""

/-- The path of something below a folder. An absolute path stands for itself. -/
def joinPath (folder name : String) : String :=
  if name.startsWith "/" then name
  else if folder = "" || folder.endsWith "/" then folder ++ name
  else folder ++ "/" ++ name

/-- A path as seen from a base; a path elsewhere is unchanged. -/
def relativeText (base path : String) : String :=
  match (Path.ofText base).relativeTo (Path.ofText path) with
  | some rest => rest.toText
  | none => path

/-- A text with every backslash as a slash. -/
def forwardSlashes (text : String) : String :=
  String.ofList (text.toList.map fun character => if character = '\\' then '/' else character)

/-- How a file is called in reports: its path below the base, or its name if it is the base. -/
def fileId (base path : String) : String :=
  let rest := relativeText base path
  forwardSlashes (if rest = "" then ((Path.ofText path).fileName).getD path else rest)

end FunctionAtlas.Storage
