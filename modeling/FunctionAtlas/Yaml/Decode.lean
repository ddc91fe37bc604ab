import FunctionAtlas.Yaml.Found

/-!
Contract: values from documents.

A value is read from the pieces of a document at an index, and the index behind it is given with
it. A reference is read where the node it refers to begins. A fault is noted with the place of the
piece it is about and with the path of keys and indices that lead there.

Owns: reading texts, truth values, numbers, optional values, sequences and mappings with known
keys.

Does not own: which keys a mapping has.
-/

namespace FunctionAtlas.Yaml

/-! ## Paths and faults -/

/-- Where a value stands in a document. -/
inductive Path where
  | root
  | item (parent : Path) (index : Nat)
  | entry (parent : Path) (key : String)
deriving DecidableEq, Repr

namespace Path

def display : Path → String
  | .root => "."
  | .item parent index => parent.display ++ "[" ++ toString index ++ "]"
  | .entry .root key => key
  | .entry parent key => parent.display ++ "." ++ key

end Path

/-- What is wrong with a value. -/
inductive ValueProblem where
  | unexpectedType (found : Found) (expected : String)
  | unexpectedValue (text expected : String)
  | repeatedField (name : String)
deriving DecidableEq, Repr

def ValueProblem.message : ValueProblem → String
  | .unexpectedType found expected =>
      "invalid type: " ++ found.describe ++ ", expected " ++ expected
  | .unexpectedValue text expected =>
      "invalid value: string " ++ Text.Quoted.quote text ++ ", expected " ++ expected
  | .repeatedField name => "duplicate field \x60" ++ name ++ "\x60"

/-- Why a value cannot be read. -/
inductive DecodeFault where
  | document (fault : DocumentFault)
  | noValue
  | severalDocuments
  | value (problem : ValueProblem) (place : Option (Mark × Path))
deriving DecidableEq, Repr

def DecodeFault.message : DecodeFault → String
  | .document (.unreadable fault) => fault.message
  | .document (.unknownAnchor mark) => "unknown anchor" ++ mark.note
  | .noValue => "EOF while parsing a value"
  | .severalDocuments =>
      "deserializing from YAML containing more than one document is not supported"
  | .value problem none => problem.message
  | .value problem (some (mark, path)) =>
      (if path = .root then "" else path.display ++ ": ") ++ problem.message ++ mark.note

/-- Notes the place of a fault that has none. -/
def DecodeFault.noteAt (mark : Mark) (path : Path) : DecodeFault → DecodeFault
  | .value problem none => .value problem (some (mark, path))
  | fault => fault

/-! ## Values -/

/-- Reading a value at an index, with the index behind it. -/
abbrev ValueReader (α : Type) := Nat → Except DecodeFault (α × Nat)

namespace Document

/-- The piece with an index and its place. -/
def pieceAt (document : Document) (index : Nat) : Except DecodeFault (Piece × Mark) :=
  match document.pieces[index]? with
  | some piece => .ok piece
  | none =>
      match document.fault with
      | some fault => .error (.document fault)
      | none => .error .noValue

/-- Reads what a piece refers to, or the piece itself. -/
def through {α : Type} (document : Document) (index : Nat) (read : ValueReader α) :
    Except DecodeFault (α × Nat) := do
  match ← document.pieceAt index with
  | (.reference target, _) => return ((← read target).1, index + 1)
  | _ => read index

/-- The fault of a piece that is not what is expected. -/
def unexpected (expected : String) : Piece → DecodeFault
  | .scalar scalar =>
      match scalar.meaning with
      | .ok found => .value (.unexpectedType found expected) none
      | .error asked => .value (.unexpectedValue scalar.text asked) none
  | .sequenceStart | .sequenceEnd => .value (.unexpectedType .sequence expected) none
  | .mappingStart | .mappingEnd => .value (.unexpectedType .mapping expected) none
  | .void | .reference _ => .noValue

/-- Reads a value from a single scalar. -/
def readScalar {α : Type} (document : Document) (path : Path) (expected : String)
    (value? : Scalar → Option α) (index : Nat) : Except DecodeFault (α × Nat) :=
  document.through index fun index => do
    let (piece, mark) ← document.pieceAt index
    let found := match piece with
      | .scalar scalar => value? scalar
      | _ => none
    match found with
    | some value => return (value, index + 1)
    | none => throw ((unexpected expected piece).noteAt mark path)

/-- A text; every scalar is one. -/
def readText (document : Document) (path : Path) (expected : String) (index : Nat) :
    Except DecodeFault (String × Nat) :=
  document.readScalar path expected (fun scalar => some scalar.text) index

/-- Whether a scalar can be a number or a truth value: it is plain, or a literal block with the
tag of the type. -/
def isLiteralOf (tag : String) (scalar : Scalar) : Bool :=
  scalar.style = .plain || (scalar.style = .literal && scalar.tag = some tag)

def readBoolean (document : Document) (path : Path) (index : Nat) :
    Except DecodeFault (Bool × Nat) :=
  document.readScalar path "a boolean"
    (fun scalar => if isLiteralOf booleanTag scalar then boolean? scalar.text else none) index

/-- A whole number of 64 bits. -/
def readNatural (document : Document) (path : Path) (index : Nat) :
    Except DecodeFault (Nat × Nat) :=
  document.readScalar path "usize"
    (fun scalar =>
      if isLiteralOf integerTag scalar then (natural? scalar.text).filter (· < Nat.pow 2 64)
      else none)
    index

/-- Whether a piece stands for a value that is there. -/
def isPresent : Piece → Except DecodeFault Bool
  | .scalar scalar =>
      if scalar.style ≠ .plain then .ok true
      else
        match scalar.tag with
        | none => .ok (scalar.text ≠ "" && !isNull scalar.text)
        | some tag =>
            if tag ≠ nullTag then .ok true
            else if isNull scalar.text then .ok false
            else .error (.value (.unexpectedValue scalar.text "null") none)
  | .void => .ok false
  | _ => .ok true

/-- A value that may be missing. -/
def readOption {α : Type} (document : Document) (read : ValueReader α) (index : Nat) :
    Except DecodeFault (Option α × Nat) :=
  document.through index fun index => do
    let (piece, _) ← document.pieceAt index
    if ← isPresent piece then
      let (value, next) ← read index
      return (some value, next)
    return (none, index + 1)

/-! ## Collections -/

/-- Whether a piece counts as a collection without members. -/
def isEmptyCollection : Piece → Bool
  | .void => true
  | .scalar scalar => scalar.text = "" && scalar.style = .plain
  | _ => false

/-- The items of a sequence up to its end. -/
def readItems {α : Type} (document : Document) (path : Path)
    (read : Path → ValueReader α) : Nat → Nat → List α → Except DecodeFault (List α × Nat)
  | 0, index, items => .ok (items, index)
  | fuel + 1, index, items => do
      match ← document.pieceAt index with
      | (.sequenceEnd, _) => return (items, index + 1)
      | _ =>
          let (item, next) ← read (.item path items.length) index
          readItems document path read fuel next (items ++ [item])

/-- A sequence. -/
def readSequence {α : Type} (document : Document) (path : Path) (read : Path → ValueReader α)
    (index : Nat) : Except DecodeFault (List α × Nat) :=
  document.through index fun index => do
    let (piece, mark) ← document.pieceAt index
    let result :=
      if piece = .sequenceStart then
        document.readItems path read document.pieces.size (index + 1) []
      else if isEmptyCollection piece then .ok ([], index + 1)
      else .error (unexpected "a sequence" piece)
    result.mapError (DecodeFault.noteAt mark path)

/-- The index behind a value of any kind, of which some collections are open. -/
def skipValue (document : Document) : Nat → Nat → Nat → Except DecodeFault Nat
  | 0, _, index => .ok index
  | fuel + 1, depth, index => do
      let (piece, _) ← document.pieceAt index
      let depth := match piece with
        | .sequenceStart | .mappingStart => depth + 1
        | .sequenceEnd | .mappingEnd => depth - 1
        | _ => depth
      if depth = 0 then return index + 1 else skipValue document fuel depth (index + 1)

/-- Reads the value of a known key into a record. Other keys have no reader. -/
abbrev FieldReader (σ : Type) := String → Option (Path → σ → ValueReader σ)

/-- The path to the value of a key. A key that is a reference has no text to show. -/
def entryPath (path : Path) (piece : Piece) : Path :=
  match piece with
  | .scalar scalar => .entry path scalar.text
  | _ => .entry path "?"

/-- The entries of a mapping up to its end, as changes of a record. No known key comes twice. -/
def readEntries {σ : Type} (document : Document) (path : Path) (fields : FieldReader σ) :
    Nat → Nat → List String → σ → Except DecodeFault (σ × Nat)
  | 0, index, _, record => .ok (record, index)
  | fuel + 1, index, seen, record => do
      match ← document.pieceAt index with
      | (.mappingEnd, _) => return (record, index + 1)
      | (piece, _) =>
          let (key, valueIndex) ← document.readText path "field identifier" index
          match fields key with
          | none =>
              let next ← document.skipValue (document.pieces.size + 1) 0 valueIndex
              readEntries document path fields fuel next seen record
          | some read =>
              if seen.contains key then throw (.value (.repeatedField key) none)
              let (record, next) ← read (entryPath path piece) record valueIndex
              readEntries document path fields fuel next (key :: seen) record

/-- A mapping with known keys, as changes of a record. -/
def readRecord {σ : Type} (document : Document) (path : Path) (expected : String)
    (fields : FieldReader σ) (record : σ) (index : Nat) : Except DecodeFault (σ × Nat) :=
  document.through index fun index => do
    let (piece, mark) ← document.pieceAt index
    let result :=
      if piece = .mappingStart then
        document.readEntries path fields document.pieces.size (index + 1) [] record
      else if isEmptyCollection piece then .ok (record, index + 1)
      else .error (unexpected expected piece)
    result.mapError (DecodeFault.noteAt mark path)

/-- The value of the only document of a stream. -/
def decode {α : Type} (document : Document) (read : ValueReader α) : Except DecodeFault α := do
  let (value, _) ← read 0
  match document.fault with
  | some fault => throw (.document fault)
  | none => if document.hasMore then throw .severalDocuments else return value

end Document

end FunctionAtlas.Yaml
