import FunctionAtlas.Proofs.Syntax.UniqueReading

/-!
Contract: the written form of a tree stays on one line.

A written form takes two kinds of text from outside: names, which come from the grammar, and the
texts of leaves, which can hold anything but are quoted. A quoted text shows control characters by
their escapes. So without control characters in its names, the written form of a tree has none.

Owns: texts without control characters, and the written forms that are such texts.

Does not own: the names that a grammar gives to the nodes of a tree.
-/

namespace FunctionAtlas.Text

/-! ## Control characters -/

/-- The control characters of ASCII. -/
def isControl (character : Char) : Bool := character.toNat < 0x20 || character.toNat = 0x7f

/-- A text without control characters. -/
def ControlFree (text : String) : Prop := ∀ character ∈ text.toList, isControl character = false

instance (text : String) : Decidable (ControlFree text) :=
  List.decidableBAll (isControl · = false) text.toList

section Joining

variable {first second : String} {texts : List String}

theorem controlFree_append :
    ControlFree (first ++ second) ↔ ControlFree first ∧ ControlFree second := by
  unfold ControlFree
  rw [String.toList_append, List.forall_mem_append]

theorem controlFree_join (each : ∀ text ∈ texts, ControlFree text) :
    ControlFree (String.join texts) := by
  intro character member
  rw [String.toList_join] at member
  obtain ⟨text, isText, isInside⟩ := List.mem_flatMap.mp member
  exact each text isText character isInside

theorem ControlFree.lineFeed_not_mem (free : ControlFree first) : '\n' ∉ first.toList := by
  intro isInside
  exact absurd (free '\n' isInside) (by decide)

end Joining

theorem isControl_of_isAlphanum {character : Char} (ofName : character.isAlphanum = true) :
    isControl character = false := by
  have all : ∀ code < 128, (Char.ofNat code).isAlphanum = true →
      isControl (Char.ofNat code) = false := by
    decide
  by_cases isAscii : character.toNat < 128
  · rw [← Char.ofNat_toNat character] at ofName ⊢
    exact all character.toNat isAscii ofName
  · simp only [isControl, Bool.or_eq_false_iff, decide_eq_false_iff_not]
    omega

theorem controlFree_toString (number : Nat) : ControlFree (toString number) := by
  intro character member
  apply isControl_of_isAlphanum
  rw [Char.isAlphanum, isDigit_of_mem_toString member, Bool.or_true]

namespace Quoted

theorem isControl_of_isPrintable {character : Char} (shows : isPrintable character = true) :
    isControl character = false := by
  simp only [isControl, Bool.or_eq_false_iff, decide_eq_false_iff_not]
  by_cases isAscii : character.toNat < 0x80
  · rw [isPrintable, if_pos isAscii] at shows
    simp only [Bool.and_eq_true, decide_eq_true_eq] at shows
    omega
  · omega

theorem controlFree_codeEscape (character : Char) : ControlFree (codeEscape character) := by
  have digits : ControlFree (String.ofList (Nat.toDigits 16 character.toNat)) := by
    rw [ControlFree, String.toList_ofList]
    exact forall_mem_toDigits (isControl · = false) (by decide) character.toNat
  rw [codeEscape, controlFree_append, controlFree_append]
  exact ⟨⟨by decide, digits⟩, by decide⟩

/-- A character is written without control characters, whatever it is. -/
theorem controlFree_escape (character : Char) : ControlFree (escape character) := by
  unfold escape
  split
  next => decide
  next => decide
  next => decide
  next => decide
  next => decide
  next => decide
  next =>
    split
    next shows =>
      intro other member
      rw [Char.toString, String.toList_singleton, List.mem_singleton] at member
      rw [member]
      exact isControl_of_isPrintable shows
    next => exact controlFree_codeEscape character

/-- A quoted text has no control characters, whatever the text is. -/
theorem controlFree_quote (text : String) : ControlFree (quote text) := by
  have escapes : ControlFree (String.join (text.toList.map escape)) := by
    apply controlFree_join
    intro written member
    obtain ⟨character, -, rfl⟩ := List.mem_map.mp member
    exact controlFree_escape character
  rw [quote, controlFree_append, controlFree_append]
  exact ⟨⟨by decide, escapes⟩, by decide⟩

end Quoted

end FunctionAtlas.Text

namespace FunctionAtlas.Syntax.Dump

open FunctionAtlas.Text
open FunctionAtlas.Syntax.Node

/-! ## Written forms -/

/-- The kinds of named nodes and the fields of a tree are without control characters. -/
structure HasPlainNames (root : Node) : Prop where
  kinds : ∀ node ∈ root.preorder, node.isNamed = true → ControlFree node.kind
  fields : ∀ node ∈ root.preorder, ∀ name ∈ node.label.field, ControlFree name

theorem HasPlainNames.of_mem {root node : Node} (plain : HasPlainNames root)
    (member : node ∈ root.preorder) : HasPlainNames node where
  kinds inner isInside := plain.kinds inner (mem_preorder_trans member isInside)
  fields inner isInside := plain.fields inner (mem_preorder_trans member isInside)

variable {texts : List String}

theorem controlFree_position (label : Label) : ControlFree (position label) := by
  simp only [position, controlFree_append, controlFree_toString, and_true]
  decide

theorem controlFree_writeList (each : ∀ text ∈ texts, ControlFree text) :
    ControlFree (writeList texts) := by
  cases texts with
  | nil => decide
  | cons first others =>
      obtain ⟨isFirst, areOthers⟩ := List.forall_mem_cons.mp each
      have items : ∀ character ∈ others.flatMap fun other => ',' :: ' ' :: other.toList,
          isControl character = false := by
        intro character member
        obtain ⟨other, isOther, isInside⟩ := List.mem_flatMap.mp member
        rcases List.mem_cons.mp isInside with rfl | isInside
        · decide
        · rcases List.mem_cons.mp isInside with rfl | isInside
          · decide
          · exact areOthers other isOther character isInside
      unfold ControlFree
      rw [toList_writeList_cons, List.forall_mem_cons, List.forall_mem_append,
        List.forall_mem_append]
      exact ⟨by decide, isFirst, items, List.forall_mem_singleton.mpr (by decide)⟩

theorem controlFree_writeField {name : String} (isRepeated : Bool) (named : ControlFree name)
    (each : ∀ text ∈ texts, ControlFree text) :
    ControlFree (writeField name texts isRepeated) := by
  have value : ControlFree (valueText texts isRepeated) := by
    unfold valueText
    split
    next => cases isRepeated <;> decide
    next single =>
      cases isRepeated with
      | true => exact controlFree_writeList each
      | false => exact each single List.mem_cons_self
    next => exact controlFree_writeList each
  have split : writeField name texts isRepeated =
      name ++ "=" ++ valueText texts isRepeated ++ ", " := rfl
  rw [split, controlFree_append, controlFree_append, controlFree_append]
  exact ⟨⟨⟨named, by decide⟩, value⟩, by decide⟩

theorem controlFree_of_isName {name : String} (nameIs : isName name = true) :
    ControlFree name := by
  simp only [isName, Bool.and_eq_true, List.all_eq_true] at nameIs
  intro character member
  have ofName := nameIs.2 character member
  simp only [isNameCharacter, Bool.or_eq_true, decide_eq_true_eq] at ofName
  rcases ofName with isAlphanum | rfl
  · exact isControl_of_isAlphanum isAlphanum
  · decide

/-- What stands inside a node has no control characters if its children and their fields have
none. -/
theorem controlFree_shownInside (source : Array Char) {node : Node}
    (children : ∀ child ∈ node.children, ControlFree (dump source child))
    (fields : ∀ child ∈ node.children, ∀ name ∈ child.label.field, ControlFree name) :
    ControlFree (shownInside source node) := by
  have filling : ∀ name, ∀ text ∈ (node.filling name).map (dump source), ControlFree text := by
    intro name text member
    obtain ⟨child, fills, rfl⟩ := List.mem_map.mp member
    exact children child (mem_solid_iff.mp (mem_filling_iff.mp fills).1).1
  have loose : ∀ text ∈ node.loose.map (dump source), ControlFree text := by
    intro text member
    obtain ⟨child, isLoose, rfl⟩ := List.mem_map.mp member
    exact children child (mem_solid_iff.mp (mem_loose_iff.mp isLoose).1).1
  rw [shownInside]
  apply controlFree_join
  intro text member
  rcases List.mem_append.mp member with isOther | isLoose
  · rcases List.mem_append.mp isOther with isField | isFlag
    · rcases List.mem_append.mp isField with isListed | isUnlisted
      · obtain ⟨slot, isSlot, rfl⟩ := List.mem_map.mp isListed
        exact controlFree_writeField slot.isRepeated
          (controlFree_of_isName (isName_of_mem_slotsOf isSlot)) (filling slot.name)
      · obtain ⟨name, isName, rfl⟩ := List.mem_map.mp isUnlisted
        obtain ⟨child, isSolid, inField⟩ := mem_fieldNames_iff.mp (unlistedNames_subset isName)
        exact controlFree_writeField false
          (fields child (mem_solid_iff.mp isSolid).1 name inField) (filling name)
    · obtain ⟨flag, isKnown, rfl⟩ := List.mem_map.mp isFlag
      have named := controlFree_of_isName (isName_of_mem_flagsOf isKnown)
      have value : ControlFree (if node.keywords.contains flag then "True" else "False") := by
        split <;> decide
      rw [controlFree_append, controlFree_append, controlFree_append]
      exact ⟨⟨⟨named, by decide⟩, value⟩, by decide⟩
  · split at isLoose
    next => cases isLoose
    next =>
      have all : ∀ text ∈ ["children=", writeList (node.loose.map (dump source)), ", "],
          ControlFree text := by
        simp only [List.forall_mem_cons]
        exact ⟨by decide, controlFree_writeList loose, by decide, by simp⟩
      exact all text isLoose

/-- The written form of a tree has no control characters, whatever the text is. -/
theorem controlFree_dump (source : Array Char) {node : Node} (plain : HasPlainNames node) :
    ControlFree (dump source node) := by
  induction node using Node.induction with
  | step label children inductionHypothesis =>
      have isInside : ∀ child ∈ children, child ∈ (Node.mk label children).preorder := by
        intro child member
        exact mem_preorder_of_child member child.self_mem_preorder
      have written : ∀ child ∈ children, ControlFree (dump source child) := by
        intro child member
        exact inductionHypothesis child member (plain.of_mem (isInside child member))
      cases named : (Node.mk label children).isNamed with
      | false =>
          rw [dump_of_anonymous _ _ named]
          exact Quoted.controlFree_quote _
      | true =>
          have inside : ControlFree (if (Node.mk label children).isShownByText then
              Quoted.quote (textOf source label) ++ ", "
              else shownInside source (.mk label children)) := by
            split
            · rw [controlFree_append]
              exact ⟨Quoted.controlFree_quote _, by decide⟩
            · exact controlFree_shownInside source written fun child member =>
                plain.fields child (isInside child member)
          rw [dump_of_named _ _ named]
          simp only [controlFree_append]
          exact ⟨⟨⟨⟨plain.kinds _ (self_mem_preorder _) named, by decide⟩, inside⟩,
            controlFree_position label⟩, by decide⟩

end FunctionAtlas.Syntax.Dump
