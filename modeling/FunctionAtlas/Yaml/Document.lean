import FunctionAtlas.Yaml.Event

/-!
Contract: documents as pieces in a row.

The pieces of a document are its events, with references resolved to the places of what they refer
to. A document that cannot be read to its end keeps the pieces before the fault.

Owns: documents, anchors, and whether a stream holds more than one document.
-/

namespace FunctionAtlas.Yaml

/-- A part of a document. -/
inductive Piece where
  /-- All there is in a stream without documents. -/
  | void
  /-- Another mention of the node that begins at an index. -/
  | reference (target : Nat)
  | scalar (scalar : Scalar)
  | sequenceStart
  | sequenceEnd
  | mappingStart
  | mappingEnd
deriving DecidableEq, Repr

/-- Why a document ends early. -/
inductive DocumentFault where
  | unreadable (fault : Fault)
  | unknownAnchor (mark : Mark)
deriving DecidableEq, Repr

/-- The pieces of a document with their places, and why there are no more. -/
structure Document where
  pieces : Array (Piece × Mark)
  fault : Option DocumentFault
  /-- Whether more documents follow. -/
  hasMore : Bool
deriving DecidableEq, Repr

/-- Whether anything but the end follows a document. -/
def hasMoreAfter (reader : EventReader) : Bool :=
  match readEvent reader with
  | .ok ((.streamEnd, _), _) => false
  | _ => true

/-- Collects the pieces of a document. Anchors map names to the indices of pieces. -/
def collect : Nat → EventReader → List (String × Nat) → Array (Piece × Mark) → Document
  | 0, _, _, pieces => { pieces, fault := none, hasMore := false }
  | fuel + 1, reader, anchors, pieces =>
      match readEvent reader with
      | .error fault => { pieces, fault := some (.unreadable fault), hasMore := false }
      | .ok ((event, mark), reader) =>
          let add := fun (anchor : Option String) (piece : Piece) =>
            let anchors := match anchor with
              | none => anchors
              | some name => (name, pieces.size) :: anchors
            collect fuel reader anchors (pieces.push (piece, mark))
          match event with
          | .streamStart | .documentStart => collect fuel reader anchors pieces
          | .streamEnd =>
              let pieces := if pieces.isEmpty then #[(Piece.void, mark)] else pieces
              { pieces, fault := none, hasMore := false }
          | .documentEnd => { pieces, fault := none, hasMore := hasMoreAfter reader }
          | .reference name =>
              match anchors.lookup name with
              | some target => add none (.reference target)
              | none => { pieces, fault := some (.unknownAnchor mark), hasMore := false }
          | .scalar scalar => add scalar.anchor (.scalar scalar)
          | .sequenceStart anchor => add anchor .sequenceStart
          | .sequenceEnd => add none .sequenceEnd
          | .mappingStart anchor => add anchor .mappingStart
          | .mappingEnd => add none .mappingEnd

/-- The first document of a text. A character gives rise to few events, so the steps are enough. -/
def Document.ofText (text : String) : Document :=
  let characters := text.toList.toArray
  collect (8 * characters.size + 16) { scanner := { text := characters } } [] #[]

end FunctionAtlas.Yaml
