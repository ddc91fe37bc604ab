import FunctionAtlas.Proofs.Syntax.Shown
import FunctionAtlas.Proofs.Text.Delimited

/-!
Contract: the written form of a tree can be read in one way only.

Each part of a written form shows where it ends: a kind before its parenthesis, a field name before
its sign, a number before a comma or a parenthesis, a quoted text at its quote, a list at its
bracket, and a node at its closing parenthesis. So whatever follows two written forms, if the
whole texts are equal then so is what follows, and the two trees agree in all that is shown.

Owns: the names that this rests on, and the reading of each part.
-/

namespace FunctionAtlas.Syntax.Dump

open FunctionAtlas.Text
open FunctionAtlas.Syntax.Node

/-! ## Names -/

/-- The characters of the names of a grammar. -/
def isNameCharacter (character : Char) : Bool := character.isAlphanum || character = '_'

def isName (name : String) : Bool := !name.toList.isEmpty && name.toList.all isNameCharacter

/-- The words that have a meaning of their own in the written form of a kind. -/
def reservedNames (kind : String) : List String :=
  ["lineno", "col_offset", "end_lineno", "end_col_offset", "children"] ++ flagsOf kind

/-- The kinds and fields of a tree are names, and no field has the name of a position, of the list
of children or of a flag of the kind. -/
structure HasReadableNames (root : Node) : Prop where
  kinds : ∀ node ∈ root.preorder, node.isNamed = true → isName node.kind = true
  fields : ∀ node ∈ root.preorder, node.isNamed = true →
    ∀ child ∈ node.children, ∀ name ∈ child.label.field,
      isName name = true ∧ name ∉ reservedNames node.kind

section Names

variable {label : Label} {children : List Node}

theorem HasReadableNames.child (readable : HasReadableNames (.mk label children)) {child : Node}
    (member : child ∈ children) : HasReadableNames child where
  kinds node isInside := readable.kinds node (mem_preorder_of_child member isInside)
  fields node isInside := readable.fields node (mem_preorder_of_child member isInside)

theorem HasReadableNames.solid {node : Node} (readable : HasReadableNames node) {child : Node}
    (member : child ∈ node.solid) : HasReadableNames child := by
  obtain ⟨label, children⟩ := node
  exact readable.child (mem_solid_iff.mp member).1

theorem HasReadableNames.kind {node : Node} (readable : HasReadableNames node)
    (named : node.isNamed = true) : isName node.kind = true :=
  readable.kinds node node.self_mem_preorder named

theorem HasReadableNames.fieldNames {node : Node} (readable : HasReadableNames node)
    (named : node.isNamed = true) {name : String} (member : name ∈ node.fieldNames) :
    isName name = true ∧ name ∉ reservedNames node.kind := by
  obtain ⟨child, isChild, inField⟩ := mem_fieldNames_iff.mp member
  exact readable.fields node node.self_mem_preorder named child (mem_solid_iff.mp isChild).1 name
    inField

end Names

/-- A name ends before the first character that cannot be in one. -/
theorem name_append_inj {first second : String} {firstStop secondStop : Char}
    {firstRest secondRest : List Char}
    (isFirst : isName first = true) (isSecond : isName second = true)
    (firstStops : isNameCharacter firstStop = false)
    (secondStops : isNameCharacter secondStop = false)
    (equal : first.toList ++ firstStop :: firstRest = second.toList ++ secondStop :: secondRest) :
    first = second ∧ firstStop = secondStop ∧ firstRest = secondRest := by
  have characters : ∀ {name : String}, isName name = true →
      ∀ character ∈ name.toList, isNameCharacter character = true := by
    intro name nameIs
    simp only [isName, Bool.and_eq_true, List.all_eq_true] at nameIs
    exact nameIs.2
  obtain ⟨sameName, sameStop, sameRest⟩ := run_append_inj (characters isFirst)
    (characters isSecond) firstStops secondStops equal
  exact ⟨String.toList_inj.mp sameName, sameStop, sameRest⟩

/-- A text whose first character can be in a name. -/
def BeginsWithName (text : List Char) : Prop :=
  ∃ head tail, text = head :: tail ∧ isNameCharacter head = true

theorem beginsWithName_name {name : String} (nameIs : isName name = true) (rest : List Char) :
    BeginsWithName (name.toList ++ rest) := by
  simp only [isName, Bool.and_eq_true, List.all_eq_true, Bool.not_eq_true',
    List.isEmpty_eq_false_iff] at nameIs
  obtain ⟨head, tail, split⟩ := List.exists_cons_of_ne_nil nameIs.1
  exact ⟨head, tail ++ rest, by rw [split]; rfl, nameIs.2 head (by rw [split]; simp)⟩

theorem BeginsWithName.ne_cons {text : List Char} (begins : BeginsWithName text) {character : Char}
    (cannot : isNameCharacter character = false) (rest : List Char) : text ≠ character :: rest := by
  obtain ⟨head, tail, rfl, isHead⟩ := begins
  rintro equal
  obtain ⟨rfl, -⟩ := List.cons.inj equal
  rw [isHead] at cannot
  contradiction

/-- A quoted text does not begin with a name. -/
theorem BeginsWithName.ne_quote {text : List Char} (begins : BeginsWithName text)
    (quoted : String) (rest : List Char) : text ≠ (Quoted.quote quoted).toList ++ rest := by
  rw [Quoted.toList_quote, List.append_assoc, List.cons_append]
  exact begins.ne_cons (by decide) _

/-- Parts that begin with a name, before a text that does, make a text that does. -/
theorem beginsWithName_flatMap {Part : Type} {parts : List Part} {written : Part → List Char}
    {rest : List Char} (each : ∀ part ∈ parts, BeginsWithName (written part))
    (ending : BeginsWithName rest) : BeginsWithName (parts.flatMap written ++ rest) := by
  cases parts with
  | nil => exact ending
  | cons part others =>
      obtain ⟨head, tail, split, isHead⟩ := each part List.mem_cons_self
      exact ⟨head, tail ++ (others.flatMap written ++ rest), by simp [split], isHead⟩

theorem isName_of_mem_flagsOf {kind flag : String} (member : flag ∈ flagsOf kind) :
    isName flag = true := by
  have table : ∀ entry ∈ flagTable, ∀ flag ∈ entry.2, isName flag = true := by decide
  unfold flagsOf at member
  cases found : flagTable.find? (·.1 = kind) with
  | none => simp [found] at member
  | some entry =>
      simp only [found, Option.map_some, Option.getD_some] at member
      exact table entry (List.mem_of_find?_eq_some found) flag member

theorem isName_of_mem_slotsOf {kind : String} {slot : Slot}
    (member : slot ∈ (slotsOf kind).getD []) : isName slot.name = true := by
  have table : ∀ entry ∈ slotTable, ∀ slot ∈ entry.2, isName slot.name = true := by decide
  unfold slotsOf at member
  cases found : slotTable.find? (·.1 = kind) with
  | none => simp [found] at member
  | some entry =>
      simp only [found, Option.map_some, Option.getD_some] at member
      exact table entry (List.mem_of_find?_eq_some found) slot member

/-! ## Positions -/

theorem toList_position (label : Label) (rest : List Char) :
    (position label).toList ++ rest =
      "lineno=".toList ++ ((toString (label.start.rows + 1)).toList ++ ',' ::
        (" col_offset=".toList ++ ((toString label.start.column).toList ++ ',' ::
          (" end_lineno=".toList ++ ((toString (label.stop.rows + 1)).toList ++ ',' ::
            (" end_col_offset=".toList ++ ((toString label.stop.column).toList ++ rest))))))) := by
  have first : ", col_offset=".toList = ',' :: " col_offset=".toList := by decide
  have second : ", end_lineno=".toList = ',' :: " end_lineno=".toList := by decide
  have third : ", end_col_offset=".toList = ',' :: " end_col_offset=".toList := by decide
  simp only [position, String.toList_append, List.append_assoc, first, second, third,
    List.cons_append]

/-- A position is told from what follows its parenthesis. -/
theorem position_append_inj {label other : Label} {rest otherRest : List Char}
    (equal : (position label).toList ++ ')' :: rest =
      (position other).toList ++ ')' :: otherRest) :
    label.shownPlace = other.shownPlace ∧ rest = otherRest := by
  rw [toList_position, toList_position] at equal
  obtain ⟨startRow, -, afterRow⟩ := toString_append_inj (by decide) (by decide)
    (List.append_cancel_left equal)
  obtain ⟨startColumn, -, afterColumn⟩ := toString_append_inj (by decide) (by decide)
    (List.append_cancel_left afterRow)
  obtain ⟨stopRow, -, afterStop⟩ := toString_append_inj (by decide) (by decide)
    (List.append_cancel_left afterColumn)
  obtain ⟨stopColumn, -, sameRest⟩ := toString_append_inj (by decide) (by decide)
    (List.append_cancel_left afterStop)
  refine ⟨?_, sameRest⟩
  simp only [Label.shownPlace, ShownPlace.mk.injEq]
  exact ⟨by omega, startColumn, by omega, stopColumn⟩

/-! ## Lists and fields -/

section Lists

variable {source otherSource : Array Char}

/-- Whatever follows the written form of a node, the node and what follows can be told. -/
def ReadsBack (source otherSource : Array Char) (node : Node) : Prop :=
  ∀ (other : Node) (rest otherRest : List Char), HasReadableNames other →
    (dump source node).toList ++ rest = (dump otherSource other).toList ++ otherRest →
    SameShown source otherSource node other ∧ rest = otherRest

/-- A written node begins with the quote of a token or with the kind of a node. -/
theorem toList_dump_eq_cons (source : Array Char) {node : Node} (readable : HasReadableNames node)
    (rest : List Char) :
    (∃ tail, (dump source node).toList ++ rest = '"' :: tail) ∨
      ∃ tail, (dump source node).toList ++ rest = node.kind.toList ++ '(' :: tail ∧
        isName node.kind = true := by
  cases named : node.isNamed with
  | false =>
      rw [dump_of_anonymous source node named, Quoted.toList_quote]
      exact .inl ⟨_, rfl⟩
  | true =>
      have opening : "(".toList = ['('] := by decide
      rw [dump_of_named source node named]
      simp only [String.toList_append, List.append_assoc, opening, List.cons_append,
        List.nil_append]
      exact .inr ⟨_, rfl, readable.kind named⟩

/-- A written node does not begin with a bracket. -/
theorem dump_ne_cons {source : Array Char} {node : Node} (readable : HasReadableNames node)
    {character : Char} (notQuote : character ≠ '"') (cannot : isNameCharacter character = false)
    (rest after : List Char) : (dump source node).toList ++ rest ≠ character :: after := by
  rcases toList_dump_eq_cons source readable rest with ⟨tail, written⟩ | ⟨tail, written, nameIs⟩
  · rw [written]
    intro equal
    exact notQuote (List.cons.inj equal).1.symm
  · rw [written]
    exact (beginsWithName_name nameIs _).ne_cons cannot _

/-- A written node is not the word for an empty field. -/
theorem dump_ne_none {source : Array Char} {node : Node} (readable : HasReadableNames node)
    (rest after : List Char) :
    (dump source node).toList ++ rest ≠ "None".toList ++ ',' :: after := by
  rcases toList_dump_eq_cons source readable rest with ⟨tail, written⟩ | ⟨tail, written, nameIs⟩
  · rw [written]
    intro equal
    have none : "None".toList = ['N', 'o', 'n', 'e'] := by decide
    simp [none] at equal
  · rw [written]
    intro equal
    obtain ⟨-, stops, -⟩ := name_append_inj nameIs (by decide) (by decide) (by decide) equal
    exact absurd stops (by decide)

theorem toList_writeList_nil : (writeList []).toList = ['[', ']'] := by
  decide

theorem toList_writeList_cons (text : String) (texts : List String) :
    (writeList (text :: texts)).toList =
      '[' :: (text.toList ++ ((texts.flatMap fun other => ',' :: ' ' :: other.toList) ++
        [']'])) := by
  have opening : "[".toList = ['['] := by decide
  have closing : "]".toList = [']'] := by decide
  have comma : ", ".toList = [',', ' '] := by decide
  have joined : [',', ' '].intercalate ((text :: texts).map String.toList) =
      text.toList ++ texts.flatMap fun other => ',' :: ' ' :: other.toList := by
    induction texts generalizing text with
    | nil => simp [List.intercalate]
    | cons next rest inductionHypothesis =>
        rw [List.map_cons, List.map_cons, List.intercalate_cons_cons, ← List.map_cons,
          inductionHypothesis]
        simp
  rw [writeList, String.toList_append, String.toList_append, String.toList_intercalate, opening,
    closing, comma, joined]
  simp

/-- The nodes of a list after its first one are told from what follows the bracket. -/
private theorem items_append_inj {nodes others : List Node} {rest otherRest : List Char}
    (each : ∀ node ∈ nodes, ReadsBack source otherSource node)
    (readable : ∀ other ∈ others, HasReadableNames other)
    (equal : (nodes.flatMap fun node => ',' :: ' ' :: (dump source node).toList) ++ ']' :: rest =
      (others.flatMap fun other => ',' :: ' ' :: (dump otherSource other).toList) ++
        ']' :: otherRest) :
    List.Forall₂ (SameShown source otherSource) nodes others ∧ rest = otherRest := by
  induction nodes generalizing others with
  | nil =>
      cases others with
      | nil => exact ⟨.nil, (List.cons.inj equal).2⟩
      | cons other tail => exact absurd (List.cons.inj equal).1 (by decide)
  | cons node nodes inductionHypothesis =>
      cases others with
      | nil => exact absurd (List.cons.inj equal).1 (by decide)
      | cons other others =>
          simp only [List.flatMap_cons, List.cons_append, List.append_assoc, List.cons.injEq,
            true_and] at equal
          obtain ⟨same, equalTails⟩ := each node List.mem_cons_self other _ _
            (readable other List.mem_cons_self) equal
          obtain ⟨sameTails, sameRest⟩ := inductionHypothesis
            (fun member isMember => each member (List.mem_cons_of_mem _ isMember))
            (fun member isMember => readable member (List.mem_cons_of_mem _ isMember)) equalTails
          exact ⟨.cons same sameTails, sameRest⟩

variable {nodes others : List Node} {rest otherRest : List Char}

/-- A list is told from what follows its bracket. -/
theorem list_append_inj
    (each : ∀ node ∈ nodes, ReadsBack source otherSource node)
    (nodesReadable : ∀ node ∈ nodes, HasReadableNames node)
    (othersReadable : ∀ other ∈ others, HasReadableNames other)
    (equal : (writeList (nodes.map (dump source))).toList ++ rest =
      (writeList (others.map (dump otherSource))).toList ++ otherRest) :
    List.Forall₂ (SameShown source otherSource) nodes others ∧ rest = otherRest := by
  cases nodes with
  | nil =>
      cases others with
      | nil =>
          simp only [List.map_nil, toList_writeList_nil, List.cons_append, List.nil_append,
            List.cons.injEq, true_and] at equal
          exact ⟨.nil, equal⟩
      | cons other others =>
          simp only [List.map_nil, List.map_cons, toList_writeList_nil, toList_writeList_cons,
            List.cons_append, List.nil_append, List.append_assoc, List.cons.injEq,
            true_and] at equal
          exact absurd equal.symm (dump_ne_cons (othersReadable other List.mem_cons_self)
            (by decide) (by decide) _ _)
  | cons node nodes =>
      cases others with
      | nil =>
          simp only [List.map_nil, List.map_cons, toList_writeList_nil, toList_writeList_cons,
            List.cons_append, List.nil_append, List.append_assoc, List.cons.injEq,
            true_and] at equal
          exact absurd equal (dump_ne_cons (nodesReadable node List.mem_cons_self)
            (by decide) (by decide) _ _)
      | cons other others =>
          simp only [List.map_cons, toList_writeList_cons, List.cons_append, List.append_assoc,
            List.nil_append, List.cons.injEq, true_and, List.flatMap_map] at equal
          obtain ⟨same, equalTails⟩ := each node List.mem_cons_self other _ _
            (othersReadable other List.mem_cons_self) equal
          obtain ⟨sameTails, sameRest⟩ := items_append_inj
            (fun member isMember => each member (List.mem_cons_of_mem _ isMember))
            (fun member isMember => othersReadable member (List.mem_cons_of_mem _ isMember))
            equalTails
          exact ⟨.cons same sameTails, sameRest⟩

/-- What is written after the name of a field. -/
def valueText (texts : List String) (isRepeated : Bool) : String :=
  match texts with
  | [] => if isRepeated then "[]" else "None"
  | [single] => if isRepeated then writeList [single] else single
  | several => writeList several

theorem toList_writeField (name : String) (texts : List String) (isRepeated : Bool)
    (after : List Char) :
    (writeField name texts isRepeated).toList ++ after =
      name.toList ++ '=' :: ((valueText texts isRepeated).toList ++ ',' :: ' ' :: after) := by
  have sign : "=".toList = ['='] := by decide
  have comma : ", ".toList = [',', ' '] := by decide
  have split : writeField name texts isRepeated =
      name ++ "=" ++ valueText texts isRepeated ++ ", " := rfl
  simp only [split, String.toList_append, sign, comma, List.append_assoc, List.cons_append,
    List.nil_append]

theorem valueText_true (texts : List String) : valueText texts true = writeList texts := by
  match texts with
  | [] => decide
  | [single] => rfl
  | first :: second :: rest => rfl

theorem valueText_nil : valueText [] false = "None" := rfl

theorem valueText_single (text : String) : valueText [text] false = text := rfl

theorem valueText_several (first second : String) (rest : List String) (isRepeated : Bool) :
    valueText (first :: second :: rest) isRepeated = writeList (first :: second :: rest) := rfl

/-- The nodes of a field are told from what follows them. Of a single field, none, one and several
nodes are written in ways that begin differently. -/
theorem value_append_inj (isRepeated : Bool)
    (each : ∀ node ∈ nodes, ReadsBack source otherSource node)
    (nodesReadable : ∀ node ∈ nodes, HasReadableNames node)
    (othersReadable : ∀ other ∈ others, HasReadableNames other)
    (equal : (valueText (nodes.map (dump source)) isRepeated).toList ++ ',' :: rest =
      (valueText (others.map (dump otherSource)) isRepeated).toList ++ ',' :: otherRest) :
    List.Forall₂ (SameShown source otherSource) nodes others ∧ rest = otherRest := by
  have asLists : (writeList (nodes.map (dump source))).toList ++ ',' :: rest =
        (writeList (others.map (dump otherSource))).toList ++ ',' :: otherRest →
      List.Forall₂ (SameShown source otherSource) nodes others ∧ rest = otherRest := by
    intro equalLists
    obtain ⟨same, sameRest⟩ := list_append_inj each nodesReadable othersReadable equalLists
    exact ⟨same, (List.cons.inj sameRest).2⟩
  cases isRepeated with
  | true =>
      rw [valueText_true, valueText_true] at equal
      exact asLists equal
  | false =>
      have none : "None".toList = ['N', 'o', 'n', 'e'] := by decide
      match nodes, others with
      | [], [] =>
          simp only [List.map_nil, valueText_nil, List.append_cancel_left_eq, List.cons.injEq,
            true_and] at equal
          exact ⟨.nil, equal⟩
      | [], [other] =>
          simp only [List.map_nil, List.map_cons, valueText_nil, valueText_single] at equal
          exact absurd equal.symm (dump_ne_none (othersReadable other List.mem_cons_self) _ _)
      | [], first :: second :: tail =>
          simp only [List.map_nil, List.map_cons, valueText_nil, valueText_several,
            toList_writeList_cons, none, List.cons_append, List.cons.injEq] at equal
          exact absurd equal.1 (by decide)
      | [node], [] =>
          simp only [List.map_nil, List.map_cons, valueText_nil, valueText_single] at equal
          exact absurd equal (dump_ne_none (nodesReadable node List.mem_cons_self) _ _)
      | [node], [other] =>
          simp only [List.map_nil, List.map_cons, valueText_single] at equal
          obtain ⟨same, sameRest⟩ := each node List.mem_cons_self other _ _
            (othersReadable other List.mem_cons_self) equal
          exact ⟨.cons same .nil, (List.cons.inj sameRest).2⟩
      | [node], first :: second :: tail =>
          simp only [List.map_nil, List.map_cons, valueText_single, valueText_several,
            toList_writeList_cons, List.cons_append] at equal
          exact absurd equal (dump_ne_cons (nodesReadable node List.mem_cons_self)
            (by decide) (by decide) _ _)
      | first :: second :: tail, [] =>
          simp only [List.map_nil, List.map_cons, valueText_nil, valueText_several,
            toList_writeList_cons, none, List.cons_append, List.cons.injEq] at equal
          exact absurd equal.1 (by decide)
      | first :: second :: tail, [other] =>
          simp only [List.map_nil, List.map_cons, valueText_single, valueText_several,
            toList_writeList_cons, List.cons_append] at equal
          exact absurd equal.symm (dump_ne_cons (othersReadable other List.mem_cons_self)
            (by decide) (by decide) _ _)
      | first :: second :: tail, otherFirst :: otherSecond :: otherTail =>
          simp only [List.map_cons, valueText_several] at equal
          exact asLists equal

end Lists

/-! ## The inside of a node -/

section Inside

variable {source otherSource : Array Char} {node other : Node} {rest otherRest : List Char}

/-- A flag with its value. -/
def flagText (node : Node) (flag : String) : List Char :=
  flag.toList ++ '=' ::
    ((if node.keywords.contains flag then "True" else "False").toList ++ [',', ' '])

/-- The named children without a field, if there are any. -/
def looseText (source : Array Char) (node : Node) : List Char :=
  if node.loose.isEmpty then []
  else "children".toList ++ '=' ::
    ((writeList (node.loose.map (dump source))).toList ++ [',', ' '])

theorem toList_shownInside (source : Array Char) (node : Node) (rest : List Char) :
    (shownInside source node).toList ++ rest =
      (((slotsOf node.kind).getD []).flatMap fun slot =>
          (writeField slot.name ((node.filling slot.name).map (dump source))
            slot.isRepeated).toList) ++
        ((node.unlistedNames.flatMap fun name =>
            (writeField name ((node.filling name).map (dump source)) false).toList) ++
          (((flagsOf node.kind).flatMap (flagText node)) ++ (looseText source node ++ rest))) := by
  have sign : "=".toList = ['='] := by decide
  have comma : ", ".toList = [',', ' '] := by decide
  have children : "children=".toList = "children".toList ++ ['='] := by decide
  have flags : ((flagsOf node.kind).flatMap fun flag =>
        (flag ++ "=" ++ (if node.keywords.contains flag then "True" else "False") ++
          ", ").toList) =
      (flagsOf node.kind).flatMap (flagText node) := by
    apply List.flatMap_congr
    intro flag _
    simp only [flagText, String.toList_append, sign, comma, List.append_assoc, List.cons_append,
      List.nil_append]
  have loose : ((if node.loose.isEmpty then []
        else ["children=", writeList (node.loose.map (dump source)), ", "]).flatMap
          String.toList) = looseText source node := by
    unfold looseText
    split
    next => rfl
    next => simp [children, comma]
  rw [shownInside, String.toList_join]
  simp only [List.flatMap_append, List.flatMap_map, List.append_assoc, flags, loose]

/-- The nodes in the fields that the table lists are told from what follows. -/
theorem listed_append_inj (slots : List Slot)
    (each : ∀ child ∈ node.solid, ReadsBack source otherSource child)
    (readable : HasReadableNames node) (otherReadable : HasReadableNames other)
    (equal : (slots.flatMap fun slot => (writeField slot.name
          ((node.filling slot.name).map (dump source)) slot.isRepeated).toList) ++ rest =
      (slots.flatMap fun slot => (writeField slot.name
          ((other.filling slot.name).map (dump otherSource)) slot.isRepeated).toList) ++
        otherRest) :
    (∀ slot ∈ slots, List.Forall₂ (SameShown source otherSource)
      (node.filling slot.name) (other.filling slot.name)) ∧ rest = otherRest := by
  induction slots with
  | nil => exact ⟨fun _ member => absurd member List.not_mem_nil, equal⟩
  | cons slot slots inductionHypothesis =>
      simp only [List.flatMap_cons, List.append_assoc, toList_writeField, List.cons_append,
        List.append_cancel_left_eq, List.cons.injEq, true_and] at equal
      obtain ⟨sameValue, equalRests⟩ := value_append_inj slot.isRepeated
        (fun child member => each child (mem_filling_iff.mp member).1)
        (fun child member => readable.solid (mem_filling_iff.mp member).1)
        (fun child member => otherReadable.solid (mem_filling_iff.mp member).1) equal
      obtain ⟨sameOthers, sameRest⟩ := inductionHypothesis (List.cons.inj equalRests).2
      exact ⟨List.forall_mem_cons.mpr ⟨sameValue, sameOthers⟩, sameRest⟩

/-- The other fields end before the first name that is reserved. -/
theorem unlisted_append_inj {names otherNames reserved : List String} {word otherWord : String}
    (each : ∀ child ∈ node.solid, ReadsBack source otherSource child)
    (readable : HasReadableNames node) (otherReadable : HasReadableNames other)
    (free : ∀ name ∈ names, isName name = true ∧ name ∉ reserved)
    (othersFree : ∀ name ∈ otherNames, isName name = true ∧ name ∉ reserved)
    (wordIs : isName word = true ∧ word ∈ reserved)
    (otherWordIs : isName otherWord = true ∧ otherWord ∈ reserved)
    (equal : (names.flatMap fun name => (writeField name
          ((node.filling name).map (dump source)) false).toList) ++ (word.toList ++ '=' :: rest) =
      (otherNames.flatMap fun name => (writeField name
          ((other.filling name).map (dump otherSource)) false).toList) ++
        (otherWord.toList ++ '=' :: otherRest)) :
    names = otherNames ∧
      (∀ name ∈ names, List.Forall₂ (SameShown source otherSource)
        (node.filling name) (other.filling name)) ∧
      word.toList ++ '=' :: rest = otherWord.toList ++ '=' :: otherRest := by
  induction names generalizing otherNames with
  | nil =>
      cases otherNames with
      | nil => exact ⟨rfl, fun _ member => absurd member List.not_mem_nil, equal⟩
      | cons otherName otherNames =>
          obtain ⟨isOther, otherFree⟩ := othersFree otherName List.mem_cons_self
          simp only [List.flatMap_nil, List.nil_append, List.flatMap_cons, List.append_assoc,
            List.cons_append, toList_writeField] at equal
          obtain ⟨rfl, -⟩ := name_append_inj wordIs.1 isOther (by decide) (by decide) equal
          exact absurd wordIs.2 otherFree
  | cons name names inductionHypothesis =>
      obtain ⟨nameIs, nameFree⟩ := free name List.mem_cons_self
      simp only [List.flatMap_cons, List.append_assoc, List.cons_append,
        toList_writeField] at equal
      cases otherNames with
      | nil =>
          simp only [List.flatMap_nil, List.nil_append] at equal
          obtain ⟨rfl, -⟩ := name_append_inj nameIs otherWordIs.1 (by decide) (by decide) equal
          exact absurd otherWordIs.2 nameFree
      | cons otherName otherNames =>
          simp only [List.flatMap_cons, List.append_assoc, List.cons_append,
            toList_writeField] at equal
          obtain ⟨rfl, -, equalValues⟩ := name_append_inj nameIs
            (othersFree otherName List.mem_cons_self).1 (by decide) (by decide) equal
          obtain ⟨sameValue, equalRests⟩ := value_append_inj false
            (fun child member => each child (mem_filling_iff.mp member).1)
            (fun child member => readable.solid (mem_filling_iff.mp member).1)
            (fun child member => otherReadable.solid (mem_filling_iff.mp member).1) equalValues
          obtain ⟨sameNames, sameOthers, sameRest⟩ := inductionHypothesis
            (fun known member => free known (List.mem_cons_of_mem _ member))
            (fun known member => othersFree known (List.mem_cons_of_mem _ member))
            (List.cons.inj equalRests).2
          exact ⟨by rw [sameNames], List.forall_mem_cons.mpr ⟨sameValue, sameOthers⟩, sameRest⟩

/-- The two words for the value of a flag differ in their first character. -/
private theorem truth_append_inj {isSet isOtherSet : Bool}
    (equal : (if isSet then "True" else "False").toList ++ rest =
      (if isOtherSet then "True" else "False").toList ++ otherRest) :
    isSet = isOtherSet ∧ rest = otherRest := by
  have yes : "True".toList = ['T', 'r', 'u', 'e'] := by decide
  have no : "False".toList = ['F', 'a', 'l', 's', 'e'] := by decide
  cases isSet <;> cases isOtherSet <;> simp [yes, no] at equal ⊢ <;> exact equal

/-- The values of the flags are told from what follows. -/
theorem flags_append_inj (flags : List String)
    (equal : flags.flatMap (flagText node) ++ rest =
      flags.flatMap (flagText other) ++ otherRest) :
    (∀ flag ∈ flags, flag ∈ node.keywords ↔ flag ∈ other.keywords) ∧ rest = otherRest := by
  induction flags with
  | nil => exact ⟨fun _ member => absurd member List.not_mem_nil, equal⟩
  | cons flag flags inductionHypothesis =>
      simp only [List.flatMap_cons, flagText, List.append_assoc, List.cons_append,
        List.append_cancel_left_eq, List.cons.injEq, true_and, List.nil_append] at equal
      obtain ⟨sameFlag, equalRests⟩ := truth_append_inj equal
      obtain ⟨sameOthers, sameRest⟩ := inductionHypothesis
        (List.cons.inj (List.cons.inj equalRests).2).2
      refine ⟨List.forall_mem_cons.mpr ⟨?_, sameOthers⟩, sameRest⟩
      rw [← List.contains_iff_mem, sameFlag, List.contains_iff_mem]

/-- The named children without a field are told from the position. -/
theorem loose_append_inj
    (each : ∀ child ∈ node.solid, ReadsBack source otherSource child)
    (readable : HasReadableNames node) (otherReadable : HasReadableNames other)
    (equal : looseText source node ++ ((position node.label).toList ++ rest) =
      looseText otherSource other ++ ((position other.label).toList ++ otherRest)) :
    List.Forall₂ (SameShown source otherSource) node.loose other.loose ∧
      (position node.label).toList ++ rest = (position other.label).toList ++ otherRest := by
  have children : "children".toList = 'c' :: "hildren".toList := by decide
  have lineno : "lineno=".toList = 'l' :: "ineno=".toList := by decide
  unfold looseText at equal
  by_cases isEmpty : node.loose.isEmpty <;> by_cases otherIsEmpty : other.loose.isEmpty
  · rw [if_pos isEmpty, if_pos otherIsEmpty] at equal
    rw [List.nil_append, List.nil_append] at equal
    rw [List.isEmpty_iff.mp isEmpty, List.isEmpty_iff.mp otherIsEmpty]
    exact ⟨.nil, equal⟩
  · rw [if_pos isEmpty, if_neg otherIsEmpty, toList_position, children, lineno] at equal
    simp only [List.nil_append, List.cons_append, List.cons.injEq, Char.reduceEq,
      false_and] at equal
  · rw [if_neg isEmpty, if_pos otherIsEmpty, toList_position other.label, children,
      lineno] at equal
    simp only [List.nil_append, List.cons_append, List.cons.injEq, Char.reduceEq,
      false_and] at equal
  · rw [if_neg isEmpty, if_neg otherIsEmpty] at equal
    simp only [List.append_assoc, List.cons_append, List.append_cancel_left_eq, List.cons.injEq,
      true_and, List.nil_append] at equal
    obtain ⟨same, equalRests⟩ := list_append_inj
      (fun child member => each child (mem_loose_iff.mp member).1)
      (fun child member => readable.solid (mem_loose_iff.mp member).1)
      (fun child member => otherReadable.solid (mem_loose_iff.mp member).1) equal
    exact ⟨same, (List.cons.inj (List.cons.inj equalRests).2).2⟩

/-- After the fields a reserved name follows. -/
theorem exists_reserved_after_fields (source : Array Char) (node : Node) (rest : List Char) :
    ∃ word, isName word = true ∧ word ∈ reservedNames node.kind ∧
      ∃ more, (flagsOf node.kind).flatMap (flagText node) ++
        (looseText source node ++ ((position node.label).toList ++ rest)) =
          word.toList ++ '=' :: more := by
  cases flags : flagsOf node.kind with
  | cons flag others =>
      have isFlag : flag ∈ flagsOf node.kind := by simp [flags]
      refine ⟨flag, isName_of_mem_flagsOf isFlag, List.mem_append_right _ isFlag, ?_⟩
      simp only [List.flatMap_cons, flagText, List.append_assoc, List.cons_append]
      exact ⟨_, rfl⟩
  | nil =>
      rw [List.flatMap_nil, List.nil_append, looseText]
      split
      next =>
        have lineno : "lineno=".toList = "lineno".toList ++ ['='] := by decide
        refine ⟨"lineno", by decide, List.mem_append_left _ (by decide), ?_⟩
        rw [List.nil_append, toList_position, lineno, List.append_assoc, List.cons_append]
        exact ⟨_, rfl⟩
      next =>
        refine ⟨"children", by decide, List.mem_append_left _ (by decide), ?_⟩
        rw [List.append_assoc, List.cons_append]
        exact ⟨_, rfl⟩

/-- The inside of a node begins with a name, unlike the text of a leaf. -/
theorem beginsWithName_shownInside (source : Array Char) (readable : HasReadableNames node)
    (named : node.isNamed = true) (rest : List Char) :
    BeginsWithName ((shownInside source node).toList ++ ((position node.label).toList ++ rest)) := by
  have field : ∀ (name : String) (texts : List String) (isRepeated : Bool), isName name = true →
      BeginsWithName (writeField name texts isRepeated).toList := by
    intro name texts isRepeated nameIs
    have begins := beginsWithName_name nameIs
      ('=' :: ((valueText texts isRepeated).toList ++ [',', ' ']))
    rwa [← toList_writeField, List.append_nil] at begins
  obtain ⟨word, wordIs, -, more, after⟩ := exists_reserved_after_fields source node rest
  rw [toList_shownInside, after]
  refine beginsWithName_flatMap (fun slot member => ?_) (beginsWithName_flatMap
    (fun name member => ?_) (beginsWithName_name wordIs _))
  · exact field _ _ _ (isName_of_mem_slotsOf member)
  · exact field _ _ _ (readable.fieldNames named (unlistedNames_subset member)).1

/-- The inside of a node is told from its position. -/
theorem inside_append_inj
    (each : ∀ child ∈ node.solid, ReadsBack source otherSource child)
    (readable : HasReadableNames node) (otherReadable : HasReadableNames other)
    (named : node.isNamed = true) (otherNamed : other.isNamed = true)
    (sameKind : node.kind = other.kind)
    (equal : (shownInside source node).toList ++ ((position node.label).toList ++ rest) =
      (shownInside otherSource other).toList ++ ((position other.label).toList ++ otherRest)) :
    (∀ name, List.Forall₂ (SameShown source otherSource)
      (node.filling name) (other.filling name)) ∧
    node.unlistedNames = other.unlistedNames ∧
    (∀ flag ∈ flagsOf node.kind, flag ∈ node.keywords ↔ flag ∈ other.keywords) ∧
    List.Forall₂ (SameShown source otherSource) node.loose other.loose ∧
    (position node.label).toList ++ rest = (position other.label).toList ++ otherRest := by
  obtain ⟨word, wordIs, isReserved, more, after⟩ :=
    exists_reserved_after_fields source node rest
  obtain ⟨otherWord, otherWordIs, otherIsReserved, otherMore, otherAfter⟩ :=
    exists_reserved_after_fields otherSource other otherRest
  rw [toList_shownInside, toList_shownInside, after, otherAfter, ← sameKind] at equal
  rw [← sameKind] at otherIsReserved otherAfter
  obtain ⟨sameListed, equalUnlisted⟩ := listed_append_inj _ each readable otherReadable equal
  obtain ⟨sameNames, sameUnlisted, equalFlags⟩ := unlisted_append_inj each readable otherReadable
    (fun name member => readable.fieldNames named (unlistedNames_subset member))
    (fun name member => sameKind ▸ otherReadable.fieldNames otherNamed
      (unlistedNames_subset member))
    ⟨wordIs, isReserved⟩ ⟨otherWordIs, otherIsReserved⟩ equalUnlisted
  rw [← after, ← otherAfter] at equalFlags
  obtain ⟨sameFlags, equalLoose⟩ := flags_append_inj _ equalFlags
  obtain ⟨sameLoose, equalPositions⟩ := loose_append_inj each readable otherReadable equalLoose
  refine ⟨?_, sameNames, sameFlags, sameLoose, equalPositions⟩
  intro name
  by_cases isListed : ∃ slot ∈ (slotsOf node.kind).getD [], slot.name = name
  · obtain ⟨slot, member, rfl⟩ := isListed
    exact sameListed slot member
  · -- A field that is neither listed nor among the other names is empty in both nodes.
    have unlisted : ∀ shown : Node, shown.kind = node.kind →
        (name ∈ shown.unlistedNames ↔ name ∈ shown.fieldNames) := by
      intro shown ofKind
      refine ⟨unlistedNames_subset, fun member => List.mem_filter.mpr ⟨member, ?_⟩⟩
      rw [ofKind]
      simpa using fun slot isSlot isName => isListed ⟨slot, isSlot, isName⟩
    by_cases isUnlisted : name ∈ node.unlistedNames
    · exact sameUnlisted name isUnlisted
    · have otherUnlisted : name ∉ other.unlistedNames := sameNames ▸ isUnlisted
      rw [unlisted node rfl] at isUnlisted
      rw [unlisted other sameKind.symm] at otherUnlisted
      rw [filling_eq_nil_iff.mpr isUnlisted, filling_eq_nil_iff.mpr otherUnlisted]
      exact .nil

end Inside

/-! ## Trees -/

section Trees

variable {source otherSource : Array Char}

theorem toList_dump_of_named (source : Array Char) {node : Node} (named : node.isNamed = true)
    (rest : List Char) :
    (dump source node).toList ++ rest = node.kind.toList ++ '(' ::
      ((if node.isShownByText then
          (Quoted.quote (textOf source node.label)).toList ++
            (',' :: ' ' :: ((position node.label).toList ++ ')' :: rest))
        else (shownInside source node).toList ++
          ((position node.label).toList ++ ')' :: rest))) := by
  have opening : "(".toList = ['('] := by decide
  have closing : ")".toList = [')'] := by decide
  have comma : ", ".toList = [',', ' '] := by decide
  rw [dump_of_named source node named]
  cases node.isShownByText <;>
    simp [String.toList_append, opening, closing, comma]

/-- The written form of a node is told from what follows it. The induction is over the tree: what
holds of the children makes their lists and fields readable. -/
theorem readsBack {node : Node} (readable : HasReadableNames node) :
    ReadsBack source otherSource node := by
  induction node using Node.induction with
  | step label children inductionHypothesis =>
      intro other rest otherRest otherReadable equal
      have each : ∀ child ∈ (Node.mk label children).solid, ReadsBack source otherSource child :=
        fun child member => inductionHypothesis child (mem_solid_iff.mp member).1
          (readable.child (mem_solid_iff.mp member).1)
      cases named : (Node.mk label children).isNamed <;> cases otherNamed : other.isNamed
      · rw [dump_of_anonymous _ _ named, dump_of_anonymous _ _ otherNamed] at equal
        obtain ⟨sameText, sameRest⟩ := Quoted.quote_append_inj equal
        exact ⟨.token named otherNamed sameText, sameRest⟩
      · rw [dump_of_anonymous _ _ named, toList_dump_of_named _ otherNamed] at equal
        exact absurd equal.symm
          ((beginsWithName_name (otherReadable.kind otherNamed) _).ne_quote _ _)
      · rw [dump_of_anonymous _ _ otherNamed, toList_dump_of_named _ named] at equal
        exact absurd equal ((beginsWithName_name (readable.kind named) _).ne_quote _ _)
      · rw [toList_dump_of_named _ named, toList_dump_of_named _ otherNamed] at equal
        obtain ⟨sameKind, -, equalInsides⟩ := name_append_inj (readable.kind named)
          (otherReadable.kind otherNamed) (by decide) (by decide) equal
        cases byText : (Node.mk label children).isShownByText <;>
          cases otherByText : other.isShownByText <;>
          simp only [byText, otherByText, Bool.false_eq_true, if_true, if_false] at equalInsides
        · obtain ⟨sameFields, sameOrder, sameFlags, sameLoose, equalPositions⟩ :=
            inside_append_inj each readable otherReadable named otherNamed sameKind equalInsides
          obtain ⟨samePlace, sameRest⟩ := position_append_inj equalPositions
          exact ⟨.inner named otherNamed byText otherByText sameKind samePlace sameFields sameOrder
            sameFlags sameLoose, sameRest⟩
        · exact absurd equalInsides
            ((beginsWithName_shownInside source readable named _).ne_quote _ _)
        · exact absurd equalInsides.symm
            ((beginsWithName_shownInside otherSource otherReadable otherNamed _).ne_quote _ _)
        · obtain ⟨sameText, equalRests⟩ := Quoted.quote_append_inj equalInsides
          obtain ⟨samePlace, sameRest⟩ := position_append_inj
            (List.cons.inj (List.cons.inj equalRests).2).2
          exact ⟨.text named otherNamed byText otherByText sameKind samePlace sameText, sameRest⟩

/-- Trees that are written alike agree in all that is shown. -/
theorem sameShown_of_dump_eq {node other : Node} (readable : HasReadableNames node)
    (otherReadable : HasReadableNames other)
    (equal : dump source node = dump otherSource other) :
    SameShown source otherSource node other :=
  (readsBack readable other [] [] otherReadable (by rw [equal])).1

end Trees

/-- Two trees are written alike if and only if they agree in all that the written form shows: in
kinds and places, in the texts of tokens and of nodes that are shown by their text, in the nodes of
each field, whether listed or not, in the order of the unlisted fields, in flags, and in the named
children without a field. No text of a leaf can pass for anything else. -/
theorem dump_eq_iff_sameShown
    (source otherSource : Array Char)
    (node other : Node)
    (readable : HasReadableNames node)
    (otherReadable : HasReadableNames other) :
    dump source node = dump otherSource other ↔ SameShown source otherSource node other :=
  ⟨sameShown_of_dump_eq readable otherReadable, dump_eq_of_sameShown⟩

/-- A pair of names, and a name that is spelled like the written form of the pair. -/
theorem dump_pair_ne_dump_imitation :
    let source := "(a, b)".toList.toArray
    let pair := nodeOver source "tuple" none 0 6
      [tokenOver source 0 1, nodeOver source "identifier" none 1 2 [], tokenOver source 2 3,
        nodeOver source "identifier" none 4 5 [], tokenOver source 5 6]
    let text := "a\", lineno=1, col_offset=1, end_lineno=1, end_col_offset=2), identifier(\"b"
    let otherSource := ("(" ++ text ++ ")").toList.toArray
    let imitation := nodeOver otherSource "tuple" none 0 76
      [tokenOver otherSource 0 1, nodeOver otherSource "identifier" none 1 75 [],
        tokenOver otherSource 75 76]
    HasReadableNames pair ∧ HasReadableNames imitation ∧
      textOf otherSource (nodeOver otherSource "identifier" none 1 75 []).label = text ∧
      dump source pair ≠ dump otherSource imitation := by
  intro source pair text otherSource imitation
  have readable : HasReadableNames pair := ⟨by decide, by decide⟩
  have otherReadable : HasReadableNames imitation := ⟨by decide, by decide⟩
  refine ⟨readable, otherReadable, by decide, ?_⟩
  intro equal
  have same := (dump_eq_iff_sameShown source otherSource pair imitation readable
    otherReadable).mp equal
  exact absurd (same.loose rfl).length_eq (by decide)

end FunctionAtlas.Syntax.Dump
