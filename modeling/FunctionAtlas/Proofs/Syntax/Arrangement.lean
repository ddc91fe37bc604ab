import FunctionAtlas.Proofs.Syntax.WrittenText

/-!
Contract: the written form of a node holds each of its children once.

Children are written in groups: the fields that the table lists for the kind, in the order of the
table and whether or not they are filled, then all other fields, then the flags, then the named
children without a field. Extras and the other tokens are left out. So what stands inside a node is
written inside the written form of the node, unless an extra or a token hides it.

Owns: the groups of a node, and what is written inside of what.
-/

namespace FunctionAtlas.Syntax

open FunctionAtlas.Syntax.Node
open FunctionAtlas.Text

namespace Dump

/-! ## Groups -/

/-- Children that are written under one name. -/
structure Group where
  name : String
  /-- Written as a list even with one node or none. -/
  isRepeated : Bool
  members : List Node

/-- What is written of the children of a node, in this order. -/
structure Arrangement where
  /-- The fields of the table. -/
  listed : List Group
  /-- The other fields. -/
  unlisted : List Group
  /-- The flags of the kind, and whether they are set. -/
  flags : List (String × Bool)
  /-- The children without a name. -/
  others : List Node

namespace Arrangement

def fields (arrangement : Arrangement) : List Group := arrangement.listed ++ arrangement.unlisted

/-- All children that are written. -/
def members (arrangement : Arrangement) : List Node :=
  arrangement.fields.flatMap Group.members ++ arrangement.others

/-- The written form of a node with the given arrangement of children. -/
def write (source : Array Char) (label : Label) (arrangement : Arrangement) : String :=
  label.kind ++ "(" ++
    String.join
      ((arrangement.fields.map fun group =>
          writeField group.name (group.members.map (dump source)) group.isRepeated) ++
        (arrangement.flags.map fun flag =>
          flag.1 ++ "=" ++ (if flag.2 then "True" else "False") ++ ", ") ++
        if arrangement.others.isEmpty then []
        else ["children=", writeList (arrangement.others.map (dump source)), ", "]) ++
    position label ++ ")"

end Arrangement

/-- The children of a node in their groups. -/
structure Arranges (node : Node) (arrangement : Arrangement) : Prop where
  /-- The fields of the table are all there, in its order. -/
  listed : (arrangement.listed.map fun group => ⟨group.name, group.isRepeated⟩) =
    (slotsOf node.kind).getD []
  /-- The other fields come in the order in which they appear first. -/
  unlisted : (arrangement.unlisted.map fun group => (group.name, group.isRepeated)) =
    ((node.solid.filterMap fun child => child.label.field).eraseDups.filter fun name =>
      ((slotsOf node.kind).getD []).all fun slot => slot.name ≠ name).map fun name => (name, false)
  /-- A field has its children that are no extras, in their order. -/
  fields : ∀ group ∈ arrangement.fields, group.members =
    node.children.filter fun child => !child.isExtra && child.label.field = some group.name
  flags : arrangement.flags.map Prod.fst = flagsOf node.kind
  /-- A flag is set if its keyword is there as a token without a field. -/
  set : ∀ flag ∈ arrangement.flags, flag.2 = true ↔
    ∃ child ∈ node.children, child.isExtra = false ∧ child.label.field = none ∧
      child.isNamed = false ∧ child.kind = flag.1
  others : arrangement.others = node.children.filter fun child =>
    !child.isExtra && (child.label.field = none && child.isNamed)
  /-- Each child that is no extra, and that is named or has a field, is in one group and once. -/
  once : arrangement.members.Perm (node.children.filter fun child =>
    !child.isExtra && (child.label.field.isSome || child.isNamed))

/-- The groups of a node. -/
def arrangementOf (node : Node) : Arrangement where
  listed := ((slotsOf node.kind).getD []).map fun slot =>
    ⟨slot.name, slot.isRepeated, node.filling slot.name⟩
  unlisted := node.unlistedNames.map fun name => ⟨name, false, node.filling name⟩
  flags := (flagsOf node.kind).map fun keyword => (keyword, node.keywords.contains keyword)
  others := node.loose

/-- Only the first one of equal names is kept. -/
theorem firstNames_eq_eraseDups (names : List String) : firstNames names = names.eraseDups := by
  induction names using List.reverseRecOn with
  | nil => rfl
  | append_singleton front last inductionHypothesis =>
      have isKnown : last ∈ front.eraseDups ↔ last ∈ front := by
        rw [← inductionHypothesis, mem_firstNames_iff]
      rw [firstNames_concat, inductionHypothesis, List.eraseDups_append, addName]
      by_cases member : last ∈ front <;>
        simp [isKnown, member, List.removeAll, List.eraseDups_cons]

/-! ## No child twice -/

private theorem nodup_slotTable : ∀ entry ∈ slotTable, (entry.2.map Slot.name).Nodup := by
  decide

/-- The table lists no field of a kind twice. -/
theorem nodup_slotsOf (kind : String) : (((slotsOf kind).getD []).map Slot.name).Nodup := by
  unfold slotsOf
  cases found : slotTable.find? (·.1 = kind) with
  | none => exact List.nodup_nil
  | some entry => exact nodup_slotTable entry (List.mem_of_find?_eq_some found)

/-- Items with one of two properties that exclude each other, those with the first one in front. -/
theorem filter_append_filter_perm {Item : Type} {first second : Item → Bool} {items : List Item}
    (exclude : ∀ item ∈ items, first item = true → second item = false) :
    (items.filter first ++ items.filter second).Perm
      (items.filter fun item => first item || second item) := by
  have split := List.filter_append_perm first
    (items.filter fun item => first item || second item)
  have ofFirst : (items.filter fun item => first item || second item).filter first =
      items.filter first := by
    rw [List.filter_filter]
    exact List.filter_congr fun item _ => by cases first item <;> simp
  have ofSecond : ((items.filter fun item => first item || second item).filter
      fun item => !first item) = items.filter second := by
    rw [List.filter_filter]
    refine List.filter_congr fun item member => ?_
    cases isFirst : first item with
    | true => simp [exclude item member isFirst]
    | false => simp
  rwa [ofFirst, ofSecond] at split

/-- The children in several fields, sorted by field, are the children in any of them. -/
theorem flatMap_filling_perm (node : Node) {names : List String} (nodup : names.Nodup) :
    (names.flatMap node.filling).Perm
      (node.solid.filter fun child => names.any fun name => child.label.field = some name) := by
  induction names with
  | nil => simp
  | cons name rest inductionHypothesis =>
      obtain ⟨isNew, restNodup⟩ := List.nodup_cons.mp nodup
      rw [List.flatMap_cons]
      refine ((inductionHypothesis restNodup).append_left _).trans ?_
      have exclude : ∀ child ∈ node.solid, decide (child.label.field = some name) = true →
          (rest.any fun other => child.label.field = some other) = false := by
        intro child _ inField
        rw [of_decide_eq_true inField]
        simpa using fun other isOther (isSame : name = other) => isNew (isSame ▸ isOther)
      simp only [List.any_cons]
      exact filter_append_filter_perm exclude

section Node

variable (node : Node)

/-- The fields that are written of a node. -/
def writtenNames : List String :=
  ((slotsOf node.kind).getD []).map Slot.name ++ node.unlistedNames

theorem nodup_writtenNames : (writtenNames node).Nodup := by
  rw [writtenNames, List.nodup_append]
  refine ⟨nodup_slotsOf node.kind, (nodup_firstNames _).filter _, ?_⟩
  rintro name isListed other isUnlisted rfl
  obtain ⟨slot, isSlot, isName⟩ := List.mem_map.mp isListed
  have differ := List.all_eq_true.mp (List.mem_filter.mp isUnlisted).2 slot isSlot
  exact of_decide_eq_true differ isName

theorem mem_writtenNames_of_field {child : Node} {name : String} (isSolid : child ∈ node.solid)
    (inField : child.label.field = some name) : name ∈ writtenNames node := by
  rw [writtenNames, List.mem_append]
  by_cases isListed : name ∈ ((slotsOf node.kind).getD []).map Slot.name
  · exact .inl isListed
  · refine .inr (List.mem_filter.mpr ⟨mem_fieldNames_iff.mpr ⟨child, isSolid, inField⟩, ?_⟩)
    rw [List.all_eq_true]
    intro slot isSlot
    exact decide_eq_true fun isName => isListed (List.mem_map.mpr ⟨slot, isSlot, isName⟩)

theorem members_arrangementOf :
    (arrangementOf node).members = (writtenNames node).flatMap node.filling ++ node.loose := by
  simp [Arrangement.members, Arrangement.fields, arrangementOf, writtenNames, List.flatMap_map]

/-- Every child that has a place in the written form is in one group, and once. -/
theorem members_arrangementOf_perm : (arrangementOf node).members.Perm node.shown := by
  rw [members_arrangementOf]
  refine ((flatMap_filling_perm node (nodup_writtenNames node)).append_right _).trans ?_
  have inFields : (node.solid.filter fun child =>
      (writtenNames node).any fun name => child.label.field = some name) =
      node.solid.filter fun child => child.label.field.isSome := by
    refine List.filter_congr fun child isSolid => ?_
    cases inField : child.label.field with
    | none => simp
    | some name => simpa using mem_writtenNames_of_field node isSolid inField
  rw [inFields, loose]
  refine (filter_append_filter_perm ?_).trans (.of_eq (List.filter_congr fun child _ => ?_))
  · intro child _ inField
    obtain ⟨name, isField⟩ := Option.isSome_iff_exists.mp inField
    simp [isField]
  · cases child.label.field <;> simp

theorem filter_solid (property : Node → Bool) :
    node.solid.filter property =
      node.children.filter fun child => !child.isExtra && property child := by
  rw [solid, List.filter_filter]
  exact List.filter_congr fun child _ => Bool.and_comm _ _

theorem arranges_arrangementOf : Arranges node (arrangementOf node) where
  listed := by
    rw [arrangementOf, List.map_map]
    exact List.map_id _
  unlisted := by
    rw [arrangementOf, List.map_map, unlistedNames, fieldNames, firstNames_eq_eraseDups]
    rfl
  fields := by
    intro group member
    rcases List.mem_append.mp member with isListed | isUnlisted
    · obtain ⟨slot, -, rfl⟩ := List.mem_map.mp isListed
      exact filter_solid node _
    · obtain ⟨name, -, rfl⟩ := List.mem_map.mp isUnlisted
      exact filter_solid node _
  flags := by simp [arrangementOf, Function.comp_def]
  set := by
    intro flag member
    obtain ⟨keyword, -, rfl⟩ := List.mem_map.mp member
    rw [List.contains_iff_mem, keywords, List.mem_map]
    constructor
    · rintro ⟨child, isKeyword, isKind⟩
      obtain ⟨isSolid, isToken⟩ := List.mem_filter.mp isKeyword
      obtain ⟨isChild, notExtra⟩ := mem_solid_iff.mp isSolid
      simp only [Bool.and_eq_true, decide_eq_true_eq, Bool.not_eq_true'] at isToken
      exact ⟨child, isChild, notExtra, isToken.1, isToken.2, isKind⟩
    · rintro ⟨child, isChild, notExtra, unfielded, anonymous, isKind⟩
      refine ⟨child, List.mem_filter.mpr ⟨mem_solid_iff.mpr ⟨isChild, notExtra⟩, ?_⟩, isKind⟩
      simp [unfielded, anonymous]
  others := filter_solid node _
  once := by
    rw [← filter_solid]
    exact members_arrangementOf_perm node

/-- A node that is not shown by its text is written as its groups. -/
theorem dump_eq_write (source : Array Char) (named : node.isNamed = true)
    (byChildren : node.isShownByText = false) :
    dump source node = (arrangementOf node).write source node.label := by
  rw [dump_of_named _ _ named, byChildren, if_neg Bool.false_ne_true, Arrangement.write,
    shownInside, Arrangement.fields, arrangementOf]
  simp only [List.map_append, List.map_map]
  rfl

end Node

/-! ## What is written inside of what -/

theorem infix_join {text : String} {texts : List String} (member : text ∈ texts) :
    text.toList <:+: (String.join texts).toList := by
  rw [String.toList_join, List.flatMap_def]
  exact List.infix_of_mem_flatten (List.mem_map_of_mem member)

theorem infix_writeList {text : String} {texts : List String} (member : text ∈ texts) :
    text.toList <:+: (writeList texts).toList := by
  cases texts with
  | nil => exact absurd member List.not_mem_nil
  | cons first rest =>
      rw [toList_writeList_cons]
      rcases List.mem_cons.mp member with rfl | isLater
      · exact List.infix_append' ['['] _ _
      · have afterComma : text.toList <:+ ',' :: ' ' :: text.toList :=
          List.suffix_append [',', ' '] _
        have inRest : (',' :: ' ' :: text.toList) <:+:
            rest.flatMap fun other => ',' :: ' ' :: other.toList :=
          List.infix_of_mem_flatten (List.mem_map_of_mem isLater)
        refine (afterComma.isInfix.trans inRest).trans ⟨'[' :: first.toList, [']'], ?_⟩
        simp

theorem infix_writeField {text name : String} {texts : List String} {isRepeated : Bool}
    (member : text ∈ texts) : text.toList <:+: (writeField name texts isRepeated).toList := by
  have inside : ∀ body : String, text.toList <:+: body.toList →
      text.toList <:+: (name ++ "=" ++ body ++ ", ").toList := by
    intro body isInside
    refine isInside.trans ?_
    rw [String.toList_append, String.toList_append]
    exact List.infix_append _ _ _
  apply inside
  split
  · exact absurd member List.not_mem_nil
  · split
    · exact infix_writeList member
    · obtain rfl := List.mem_singleton.mp member
      exact List.infix_refl _
  · exact infix_writeList member

section Inside

variable {node child : Node} (source : Array Char)

/-- A node with a child that has a place in the written form is not shown by its text. -/
theorem byChildren_of_mem_shown (isShown : child ∈ node.shown) : node.isShownByText = false := by
  by_contra byText
  obtain ⟨isSolid, hasPlace⟩ := List.mem_filter.mp isShown
  obtain ⟨unfielded, anonymous⟩ := tokens_of_isShownByText (by simpa using byText) child isSolid
  simp [unfielded, anonymous] at hasPlace

/-- A child that has a place in the written form of a node is written inside it. -/
theorem dump_infix_of_mem_shown (named : node.isNamed = true) (isShown : child ∈ node.shown) :
    (dump source child).toList <:+: (dump source node).toList := by
  have isMember := (members_arrangementOf_perm node).mem_iff.mpr isShown
  rw [dump_eq_write node source named (byChildren_of_mem_shown isShown), Arrangement.write,
    String.toList_append, String.toList_append, String.toList_append, List.append_assoc,
    List.append_assoc]
  refine List.IsInfix.trans ?_ (List.infix_append' _ _ _)
  rw [Arrangement.members, List.mem_append] at isMember
  rcases isMember with inField | isOther
  · obtain ⟨group, isGroup, inGroup⟩ := List.mem_flatMap.mp inField
    exact (infix_writeField (List.mem_map_of_mem inGroup)).trans
      (infix_join (List.mem_append_left _ (List.mem_append_left _ (List.mem_map_of_mem isGroup))))
  · have some : (arrangementOf node).others.isEmpty = false := by
      simpa using List.ne_nil_of_mem isOther
    refine (infix_writeList (List.mem_map_of_mem isOther)).trans
      (infix_join (List.mem_append_right _ ?_))
    rw [some, if_neg Bool.false_ne_true]
    exact List.mem_cons_of_mem _ List.mem_cons_self

/-- No node of the kind is hidden: none is a token or inside one, and none is an extra or inside
one. -/
structure KindStandsShown (kind : String) (root : Node) : Prop where
  named : KindStandsNamed kind root
  solid : ∀ node ∈ root.preorder, ∀ extra ∈ node.children, extra.isExtra = true →
    ∀ inner ∈ extra.preorder, inner.kind ≠ kind

/-- A node of a kind that is not hidden is written inside the written form of all nodes around
it. -/
theorem dump_infix_of_mem_preorder {kind : String} {root inner : Node}
    (stands : KindStandsShown kind root) (member : node ∈ root.preorder)
    (isInside : inner ∈ node.preorder) (ofKind : inner.kind = kind) :
    (dump source inner).toList <:+: (dump source node).toList := by
  -- By induction on the outer node: the child around the inner one has a place in it.
  induction node using Node.induction with
  | step label children inductionHypothesis =>
      generalize whole : Node.mk label children = node at *
      have named : node.isNamed = true := by
        by_contra anonymous
        exact stands.named node member (by simpa using anonymous) inner isInside ofKind
      have below := isInside
      rw [← whole, preorder_mk, whole, List.mem_cons, List.mem_flatMap] at below
      rcases below with rfl | ⟨child, isChild, inChild⟩
      · exact List.infix_refl _
      · have isMember : child ∈ node.children := by
          rw [← whole]
          exact isChild
        have childMember := mem_preorder_of_mem_children member isMember
        have childNamed : child.isNamed = true := by
          by_contra anonymous
          exact stands.named child childMember (by simpa using anonymous) inner inChild ofKind
        have notExtra : child.isExtra = false := by
          by_contra isExtra
          exact stands.solid node member child isMember (by simpa using isExtra) inner inChild
            ofKind
        have isShown : child ∈ node.shown :=
          List.mem_filter.mpr ⟨mem_solid_iff.mpr ⟨isMember, notExtra⟩, by simp [childNamed]⟩
        exact (inductionHypothesis child isChild childMember inChild).trans
          (dump_infix_of_mem_shown source named isShown)

end Inside

end Dump

end FunctionAtlas.Syntax
