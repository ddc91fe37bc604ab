import FunctionAtlas.Proofs.Syntax.Preorder
import FunctionAtlas.Syntax.Dump
import Mathlib.Data.List.Forall2
import Mathlib.Data.List.Induction

/-!
Contract: what the written form of a tree shows.

Of the children of a node, extras are left out. Those in a field are shown under its name, named
ones without a field in their order, and of the tokens without a field only whether the flags of
the kind are among them. A node that has none of these is shown by its text.

Owns: the children by their role, the agreement of two trees in what is shown, and the proof that
trees that agree are written alike.

Does not own: that trees that are written alike agree; see
`FunctionAtlas.Proofs.Syntax.UniqueReading`.
-/

namespace FunctionAtlas.Syntax

/-! ## Names in order of first appearance -/

/-- Adds a name that is not known yet. -/
def addName (known : List String) (name : String) : List String :=
  if name ∈ known then known else known ++ [name]

/-- The names of a list, each where it appears first. -/
def firstNames (names : List String) : List String := names.foldl addName []

theorem mem_addName_iff {known : List String} {name other : String} :
    other ∈ addName known name ↔ other ∈ known ∨ other = name := by
  unfold addName
  split
  next isKnown =>
    constructor
    · exact .inl
    · rintro (member | rfl)
      · exact member
      · exact isKnown
  next => simp

theorem nodup_addName {known : List String} {name : String} (nodup : known.Nodup) :
    (addName known name).Nodup := by
  unfold addName
  split
  next => exact nodup
  next isNew =>
    rw [List.nodup_append]
    refine ⟨nodup, by simp, ?_⟩
    intro first isFirst second isSecond
    rw [List.mem_singleton] at isSecond
    rintro rfl
    exact isNew (isSecond ▸ isFirst)

theorem firstNames_concat (names : List String) (name : String) :
    firstNames (names ++ [name]) = addName (firstNames names) name := by
  simp [firstNames]

theorem mem_firstNames_iff {names : List String} {name : String} :
    name ∈ firstNames names ↔ name ∈ names := by
  induction names using List.reverseRecOn with
  | nil => simp [firstNames]
  | append_singleton front last inductionHypothesis =>
      rw [firstNames_concat, mem_addName_iff, inductionHypothesis]
      simp

theorem nodup_firstNames (names : List String) : (firstNames names).Nodup := by
  induction names using List.reverseRecOn with
  | nil => simp [firstNames]
  | append_singleton front last inductionHypothesis =>
      rw [firstNames_concat]
      exact nodup_addName inductionHypothesis

namespace Node

/-! ## Children by their role -/

/-- The children that are no extras. -/
def solid (node : Node) : List Node := node.children.filter fun child => !child.isExtra

/-- The children in a field. -/
def filling (node : Node) (name : String) : List Node :=
  node.solid.filter fun child => child.label.field = some name

/-- The named children without a field. -/
def loose (node : Node) : List Node :=
  node.solid.filter fun child => child.label.field = none && child.isNamed

/-- The kinds of the tokens without a field. -/
def keywords (node : Node) : List String :=
  (node.solid.filter fun child => child.label.field = none && !child.isNamed).map kind

/-- The names of the fields, in order of first appearance. -/
def fieldNames (node : Node) : List String :=
  firstNames (node.solid.filterMap fun child => child.label.field)

theorem mem_solid_iff {node child : Node} :
    child ∈ node.solid ↔ child ∈ node.children ∧ child.isExtra = false := by
  simp [solid]

theorem mem_filling_iff {node child : Node} {name : String} :
    child ∈ node.filling name ↔ child ∈ node.solid ∧ child.label.field = some name := by
  simp [filling]

theorem mem_loose_iff {node child : Node} :
    child ∈ node.loose ↔
      child ∈ node.solid ∧ child.label.field = none ∧ child.isNamed = true := by
  simp [loose]

theorem mem_fieldNames_iff {node : Node} {name : String} :
    name ∈ node.fieldNames ↔ ∃ child ∈ node.solid, child.label.field = some name := by
  simp [fieldNames, mem_firstNames_iff]

/-- A field that no child has is empty. -/
theorem filling_eq_nil_iff {node : Node} {name : String} :
    node.filling name = [] ↔ name ∉ node.fieldNames := by
  simp [filling, mem_fieldNames_iff]

/-- Whether a node is shown by its text. -/
def isShownByText (node : Node) : Bool :=
  node.fieldNames.isEmpty && node.loose.isEmpty && (Dump.flagsOf node.kind).isEmpty

theorem isShownByText_iff {node : Node} :
    node.isShownByText = true ↔
      node.fieldNames = [] ∧ node.loose = [] ∧ Dump.flagsOf node.kind = [] := by
  simp [isShownByText, and_assoc]

theorem filling_of_isShownByText {node : Node} (byText : node.isShownByText = true)
    (name : String) : node.filling name = [] := by
  rw [filling_eq_nil_iff, (isShownByText_iff.mp byText).1]
  exact List.not_mem_nil

/-- The fields that the table does not list for the kind, in order of first appearance. -/
def unlistedNames (node : Node) : List String :=
  node.fieldNames.filter fun name =>
    ((Dump.slotsOf node.kind).getD []).all fun slot => slot.name ≠ name

theorem unlistedNames_subset {node : Node} {name : String} (member : name ∈ node.unlistedNames) :
    name ∈ node.fieldNames :=
  List.mem_of_mem_filter member

end Node

open Node

/-! ## Agreement in what is shown -/

/-- Where a node is shown to begin and to end. -/
structure ShownPlace where
  startRow : Nat
  startColumn : Nat
  stopRow : Nat
  stopColumn : Nat
deriving DecidableEq, Repr

def Label.shownPlace (label : Label) : ShownPlace :=
  ⟨label.start.rows, label.start.column, label.stop.rows, label.stop.column⟩

/-- Two nodes, each over its own text, agree in all that their written forms show.

Tokens agree if they cover the same text. Nodes that are shown by their text agree in it, in their
kind and in their place. All others agree in kind and place, in the nodes that fill each field,
which includes how many they are, in the order of the fields that the table does not list, in the
flags of the kind, and in the named children without a field. -/
inductive SameShown (source otherSource : Array Char) : Node → Node → Prop where
  | token {node other : Node}
      (anonymous : node.isNamed = false)
      (otherAnonymous : other.isNamed = false)
      (sameText : textOf source node.label = textOf otherSource other.label) :
      SameShown source otherSource node other
  | text {node other : Node}
      (named : node.isNamed = true)
      (otherNamed : other.isNamed = true)
      (byText : node.isShownByText = true)
      (otherByText : other.isShownByText = true)
      (sameKind : node.kind = other.kind)
      (samePlace : node.label.shownPlace = other.label.shownPlace)
      (sameText : textOf source node.label = textOf otherSource other.label) :
      SameShown source otherSource node other
  | inner {node other : Node}
      (named : node.isNamed = true)
      (otherNamed : other.isNamed = true)
      (byChildren : node.isShownByText = false)
      (otherByChildren : other.isShownByText = false)
      (sameKind : node.kind = other.kind)
      (samePlace : node.label.shownPlace = other.label.shownPlace)
      (sameFields : ∀ name,
        List.Forall₂ (SameShown source otherSource) (node.filling name) (other.filling name))
      (sameOrder : node.unlistedNames = other.unlistedNames)
      (sameFlags : ∀ flag ∈ Dump.flagsOf node.kind,
        flag ∈ node.keywords ↔ flag ∈ other.keywords)
      (sameLoose : List.Forall₂ (SameShown source otherSource) node.loose other.loose) :
      SameShown source otherSource node other

section Agreement

variable {source otherSource : Array Char} {node other : Node}

theorem SameShown.isNamed_eq (same : SameShown source otherSource node other) :
    node.isNamed = other.isNamed := by
  cases same with
  | token anonymous otherAnonymous => rw [anonymous, otherAnonymous]
  | text named otherNamed => rw [named, otherNamed]
  | inner named otherNamed => rw [named, otherNamed]

theorem SameShown.kind_eq (same : SameShown source otherSource node other)
    (named : node.isNamed = true) : node.kind = other.kind := by
  cases same with
  | token anonymous =>
      rw [named] at anonymous
      contradiction
  | text _ _ _ _ sameKind => exact sameKind
  | inner _ _ _ _ sameKind => exact sameKind

/-- A node that is shown by its text covers the same text as any node it agrees with. -/
theorem SameShown.text_eq (same : SameShown source otherSource node other)
    (byText : node.isShownByText = true) :
    textOf source node.label = textOf otherSource other.label := by
  cases same with
  | token _ _ sameText => exact sameText
  | text _ _ _ _ _ _ sameText => exact sameText
  | inner _ _ byChildren =>
      rw [byText] at byChildren
      contradiction

/-- Nodes that agree have agreeing nodes in their fields. -/
theorem SameShown.filling (same : SameShown source otherSource node other)
    (named : node.isNamed = true) (name : String) :
    List.Forall₂ (SameShown source otherSource) (node.filling name) (other.filling name) := by
  cases same with
  | token anonymous =>
      rw [named] at anonymous
      contradiction
  | text _ _ byText otherByText =>
      rw [filling_of_isShownByText byText, filling_of_isShownByText otherByText]
      exact .nil
  | inner _ _ _ _ _ _ sameFields => exact sameFields name

/-- Nodes that agree have agreeing named children without a field. -/
theorem SameShown.loose (same : SameShown source otherSource node other)
    (named : node.isNamed = true) :
    List.Forall₂ (SameShown source otherSource) node.loose other.loose := by
  cases same with
  | token anonymous =>
      rw [named] at anonymous
      contradiction
  | text _ _ byText otherByText =>
      rw [(isShownByText_iff.mp byText).2.1, (isShownByText_iff.mp otherByText).2.1]
      exact .nil
  | inner _ _ _ _ _ _ _ _ _ sameLoose => exact sameLoose

theorem SameShown.mem_keywords_iff (same : SameShown source otherSource node other)
    (named : node.isNamed = true) {flag : String} (isFlag : flag ∈ Dump.flagsOf node.kind) :
    flag ∈ node.keywords ↔ flag ∈ other.keywords := by
  cases same with
  | token anonymous =>
      rw [named] at anonymous
      contradiction
  | text _ _ byText =>
      rw [(isShownByText_iff.mp byText).2.2] at isFlag
      exact absurd isFlag List.not_mem_nil
  | inner _ _ _ _ _ _ _ _ sameFlags => exact sameFlags flag isFlag

end Agreement

/-- Two named nodes in their trees that agree in all that is shown. -/
structure AgreeIn (source otherSource : Array Char) (root otherRoot node other : Node) :
    Prop where
  same : SameShown source otherSource node other
  inTree : node ∈ root.preorder
  otherInTree : other ∈ otherRoot.preorder
  named : node.isNamed = true

section InTrees

variable {source otherSource : Array Char} {root otherRoot node other : Node}

theorem AgreeIn.otherNamed (agree : AgreeIn source otherSource root otherRoot node other) :
    other.isNamed = true := by
  rw [← agree.same.isNamed_eq]
  exact agree.named

theorem AgreeIn.kind_eq (agree : AgreeIn source otherSource root otherRoot node other) :
    node.kind = other.kind :=
  agree.same.kind_eq agree.named

/-- Nodes that agree have agreeing parts where no part is in a field. -/
theorem AgreeIn.loose (agree : AgreeIn source otherSource root otherRoot node other) :
    List.Forall₂ (AgreeIn source otherSource root otherRoot) node.loose other.loose := by
  have each := agree.same.loose agree.named
  refine List.forall₂_iff_get.mpr ⟨each.length_eq, fun index below otherBelow => ?_⟩
  obtain ⟨isSolid, -, isNamed⟩ := mem_loose_iff.mp (List.getElem_mem below)
  have otherSolid := (mem_loose_iff.mp (List.getElem_mem otherBelow)).1
  exact
    { same := each.get below otherBelow
      inTree := mem_preorder_of_mem_children agree.inTree (mem_solid_iff.mp isSolid).1
      otherInTree := mem_preorder_of_mem_children agree.otherInTree (mem_solid_iff.mp otherSolid).1
      named := isNamed }

/-- The first nodes of agreeing lists agree, and one list has a first node if the other has. -/
theorem rel_head?_of_forall₂ {Item Other : Type} {related : Item → Other → Prop}
    {items : List Item} {others : List Other} (each : List.Forall₂ related items others) :
    Option.Rel related items.head? others.head? := by
  cases each with
  | nil => exact .none
  | cons first _ => exact .some first

/-- What is in the second of two related lists has a partner in the first one. -/
theorem exists_of_mem_of_forall₂ {Item Other : Type} {related : Item → Other → Prop}
    {items : List Item} {others : List Other} (each : List.Forall₂ related items others)
    {other : Other} (member : other ∈ others) : ∃ item ∈ items, related item other := by
  induction each with
  | nil => exact absurd member List.not_mem_nil
  | @cons first _ _ _ isPartner _ inductionHypothesis =>
      rcases List.mem_cons.mp member with rfl | isLater
      · exact ⟨first, List.mem_cons_self, isPartner⟩
      · obtain ⟨item, isMember, isRelated⟩ := inductionHypothesis isLater
        exact ⟨item, List.mem_cons_of_mem _ isMember, isRelated⟩

theorem parts_eq_loose (unfielded : ∀ child ∈ node.solid, child.isNamed = true →
    child.label.field = none) : node.parts = node.loose := by
  rw [parts, namedChildren, loose, solid, List.filter_filter, List.filter_filter]
  apply List.filter_congr
  intro child member
  cases extra : child.isExtra with
  | true => simp
  | false =>
      cases named : child.isNamed with
      | false => simp
      | true => simp [unfielded child (mem_solid_iff.mpr ⟨member, extra⟩) named]

end InTrees

/-! ## Written forms by role -/

namespace Dump

open FunctionAtlas.Text

theorem dumpAll_eq_map (source : Array Char) (nodes : List Node) :
    dumpAll source nodes = nodes.map fun node => ⟨node.label, dump source node⟩ := by
  induction nodes with
  | nil => simp [dumpAll]
  | cons node rest inductionHypothesis => simp [dumpAll, inductionHypothesis]

/-- Adding a text to a field changes the texts of this field only. -/
theorem addToField_map (names : List String) (texts : String → List String) (name text : String)
    (nodup : names.Nodup) (isNew : name ∉ names → texts name = []) :
    addToField name text (names.map fun known => (known, texts known)) =
      (addName names name).map fun known =>
        (known, if known = name then texts known ++ [text] else texts known) := by
  have unchanged : ∀ others : List String, name ∉ others →
      (others.map fun known => (known, texts known)) = others.map fun known =>
        (known, if known = name then texts known ++ [text] else texts known) := by
    intro others absent
    apply List.map_congr_left
    intro known member
    rw [if_neg fun (equal : known = name) => absent (equal ▸ member)]
  induction names with
  | nil => simp [addToField, addName, isNew]
  | cons known rest inductionHypothesis =>
      obtain ⟨notInRest, restNodup⟩ := List.nodup_cons.mp nodup
      rw [List.map_cons, addToField]
      by_cases isKnown : known = name
      · subst isKnown
        rw [if_pos rfl, unchanged rest notInRest]
        simp [addName]
      · rw [if_neg isKnown, inductionHypothesis restNodup fun absent =>
          isNew (by simp [absent, Ne.symm isKnown])]
        have same : addName (known :: rest) name = known :: addName rest name := by
          unfold addName
          by_cases member : name ∈ rest
          · simp [member]
          · simp [member, Ne.symm isKnown]
        rw [same, List.map_cons, if_neg isKnown]

/-- Only a named child without a field is added to the others. -/
theorem others_add (roles : Roles) (child : Written) :
    (roles.add child).others = roles.others ++
      if !child.label.isExtra && (child.label.field = none && child.label.isNamed)
      then [child.text] else [] := by
  unfold Roles.add
  cases child.label.isExtra with
  | true => simp
  | false =>
      cases child.label.field with
      | some name => simp
      | none => cases child.label.isNamed <;> simp

/-- Only a token without a field is added to the keywords. -/
theorem keywords_add (roles : Roles) (child : Written) :
    (roles.add child).keywords = roles.keywords ++
      if !child.label.isExtra && (child.label.field = none && !child.label.isNamed)
      then [child.label.kind] else [] := by
  unfold Roles.add
  cases child.label.isExtra with
  | true => simp
  | false =>
      cases child.label.field with
      | some name => simp
      | none => cases child.label.isNamed <;> simp

section Roles

variable (source : Array Char) (label : Label) (children : List Node)

theorem solid_concat (last : Node) :
    (Node.mk label (children ++ [last])).solid =
      (Node.mk label children).solid ++ if last.isExtra then [] else [last] := by
  cases extra : last.isExtra <;> simp [solid, Node.children, extra]

theorem fieldNames_concat (last : Node) :
    (Node.mk label (children ++ [last])).fieldNames =
      if last.isExtra then (Node.mk label children).fieldNames
      else (last.label.field.elim id fun name known => addName known name)
        (Node.mk label children).fieldNames := by
  rw [fieldNames, solid_concat]
  cases last.isExtra with
  | true => simp [fieldNames]
  | false => cases inField : last.label.field <;> simp [fieldNames, inField, firstNames_concat]

theorem filling_concat (last : Node) (name : String) :
    (Node.mk label (children ++ [last])).filling name =
      (Node.mk label children).filling name ++
        if last.isExtra = false ∧ last.label.field = some name then [last] else [] := by
  rw [filling, solid_concat]
  cases last.isExtra with
  | true => simp [filling]
  | false => by_cases isField : last.label.field = some name <;> simp [filling, isField]

theorem rolesOf_concat (last : Node) :
    rolesOf (dumpAll source (children ++ [last])) =
      (rolesOf (dumpAll source children)).add ⟨last.label, dump source last⟩ := by
  simp [rolesOf, dumpAll_eq_map]

theorem others_rolesOf :
    (rolesOf (dumpAll source children)).others =
      (Node.mk label children).loose.map (dump source) := by
  induction children using List.reverseRecOn with
  | nil => rfl
  | append_singleton front last inductionHypothesis =>
      rw [rolesOf_concat, others_add, inductionHypothesis, loose, loose, solid_concat,
        List.filter_append, List.map_append]
      congr 1
      cases extra : last.label.isExtra <;>
        simp [isExtra, isNamed, extra, List.filter_singleton, Bool.cond_eq_ite, apply_ite]

theorem keywords_rolesOf :
    (rolesOf (dumpAll source children)).keywords = (Node.mk label children).keywords := by
  induction children using List.reverseRecOn with
  | nil => rfl
  | append_singleton front last inductionHypothesis =>
      rw [rolesOf_concat, keywords_add, inductionHypothesis, keywords, keywords, solid_concat,
        List.filter_append, List.map_append]
      congr 1
      cases extra : last.label.isExtra <;>
        simp [isExtra, isNamed, kind, extra, List.filter_singleton, Bool.cond_eq_ite, apply_ite]

theorem fields_rolesOf :
    (rolesOf (dumpAll source children)).fields =
      (Node.mk label children).fieldNames.map fun name =>
        (name, ((Node.mk label children).filling name).map (dump source)) := by
  induction children using List.reverseRecOn with
  | nil => rfl
  | append_singleton front last inductionHypothesis =>
      have fills := filling_concat label front last
      rw [rolesOf_concat, fieldNames_concat]
      unfold Roles.add
      change (if last.isExtra then _ else _ : Roles).fields = _
      cases extra : last.isExtra with
      | true => simp [inductionHypothesis, fills, extra]
      | false =>
          cases inField : last.label.field with
          | none =>
              change (if last.isNamed then _ else _ : Roles).fields = _
              cases last.isNamed <;> simp [inductionHypothesis, fills, inField]
          | some name =>
              have added := addToField_map (Node.mk label front).fieldNames
                (fun known => ((Node.mk label front).filling known).map (dump source)) name
                (dump source last) (nodup_firstNames _)
                (fun absent => by rw [filling_eq_nil_iff.mpr absent, List.map_nil])
              simp only [Bool.false_eq_true, if_false, inductionHypothesis, added,
                Option.elim_some]
              apply List.map_congr_left
              intro known _
              by_cases isField : known = name
              · simp [fills, extra, inField, isField]
              · simp [fills, inField, isField, Ne.symm isField]

end Roles

/-! ## Written forms of nodes -/

section Forms

variable (source : Array Char) (node : Node)

/-- What is written between the parentheses of a node that is shown by its children. -/
def shownInside : String :=
  String.join
    ((((slotsOf node.kind).getD []).map fun slot =>
        writeField slot.name ((node.filling slot.name).map (dump source)) slot.isRepeated) ++
      (node.unlistedNames.map fun name =>
        writeField name ((node.filling name).map (dump source)) false) ++
      ((flagsOf node.kind).map fun keyword =>
        keyword ++ "=" ++ (if node.keywords.contains keyword then "True" else "False") ++ ", ") ++
      if node.loose.isEmpty then []
      else ["children=", writeList (node.loose.map (dump source)), ", "])

theorem lookup_map_pair (names : List String) (texts : String → List String) (name : String)
    (absent : name ∉ names → texts name = []) :
    ((names.map fun known => (known, texts known)).lookup name).getD [] = texts name := by
  induction names with
  | nil => simp [absent]
  | cons known rest inductionHypothesis =>
      rw [List.map_cons, List.lookup_cons]
      by_cases isKnown : name = known
      · simp [isKnown]
      · have notKnown : (name == known) = false := by simpa using isKnown
        rw [notKnown]
        exact inductionHypothesis fun notInRest => absent (by simp [isKnown, notInRest])

theorem writeRoles_rolesOf (label : Label) (children : List Node) :
    writeRoles label.kind (rolesOf (dumpAll source children)) =
      shownInside source (.mk label children) := by
  have ofKind : (Node.mk label children).kind = label.kind := rfl
  have found : ∀ name : String,
      (((Node.mk label children).fieldNames.map fun known =>
        (known, ((Node.mk label children).filling known).map (dump source))).lookup name).getD [] =
        ((Node.mk label children).filling name).map (dump source) := by
    intro name
    apply lookup_map_pair
    intro absent
    rw [filling_eq_nil_iff.mpr absent, List.map_nil]
  simp only [writeRoles, shownInside, fields_rolesOf source label, others_rolesOf source label,
    keywords_rolesOf source label, found, ofKind, unlistedNames, List.filter_map, List.map_map,
    List.isEmpty_map]
  rfl

theorem dump_of_anonymous (anonymous : node.isNamed = false) :
    dump source node = Quoted.quote (textOf source node.label) := by
  obtain ⟨label, children⟩ := node
  have isToken : label.isNamed = false := anonymous
  simp [dump, assemble, isToken, Node.label]

theorem dump_of_named (named : node.isNamed = true) :
    dump source node =
      node.kind ++ "(" ++
        (if node.isShownByText then Quoted.quote (textOf source node.label) ++ ", "
        else shownInside source node) ++
        position node.label ++ ")" := by
  obtain ⟨label, children⟩ := node
  have isNamed : label.isNamed = true := named
  have roles : ((rolesOf (dumpAll source children)).fields.isEmpty &&
        (rolesOf (dumpAll source children)).others.isEmpty && (flagsOf label.kind).isEmpty) =
      (Node.mk label children).isShownByText := by
    simp [fields_rolesOf source label, others_rolesOf source label, isShownByText, Node.kind,
      Node.label]
  rw [dump, assemble]
  simp only [isNamed, Bool.not_true, Bool.false_eq_true, if_false, roles, writeRoles_rolesOf]
  rfl

end Forms

/-! ## Trees that agree are written alike -/

theorem position_congr {label other : Label} (same : label.shownPlace = other.shownPlace) :
    position label = position other := by
  simp only [Label.shownPlace, ShownPlace.mk.injEq] at same
  obtain ⟨startRow, startColumn, stopRow, stopColumn⟩ := same
  simp only [position, startRow, startColumn, stopRow, stopColumn]

private theorem map_eq_map_of_forall₂ {Result : Type} {first second : Node → Result}
    {nodes others : List Node}
    (each : List.Forall₂ (fun node other => first node = second other) nodes others) :
    nodes.map first = others.map second := by
  induction each with
  | nil => rfl
  | cons equal _ inductionHypothesis => simp [equal, inductionHypothesis]

/-- The inside of a node is made of the written forms of its children, of its unlisted fields and
of its flags. -/
theorem shownInside_congr {source otherSource : Array Char} {node other : Node}
    (sameKind : node.kind = other.kind)
    (fields : ∀ name,
      (node.filling name).map (dump source) = (other.filling name).map (dump otherSource))
    (sameOrder : node.unlistedNames = other.unlistedNames)
    (sameFlags : ∀ flag ∈ flagsOf node.kind, flag ∈ node.keywords ↔ flag ∈ other.keywords)
    (loose : node.loose.map (dump source) = other.loose.map (dump otherSource)) :
    shownInside source node = shownInside otherSource other := by
  have looseEmpty : node.loose.isEmpty = other.loose.isEmpty := by
    rw [← List.isEmpty_map (f := dump source), loose, List.isEmpty_map]
  have flags : ((flagsOf node.kind).map fun keyword =>
        keyword ++ "=" ++ (if node.keywords.contains keyword then "True" else "False") ++ ", ") =
      (flagsOf other.kind).map fun keyword =>
        keyword ++ "=" ++ (if other.keywords.contains keyword then "True" else "False") ++
          ", " := by
    rw [← sameKind]
    apply List.map_congr_left
    intro flag isFlag
    simp only [List.contains_iff_mem, sameFlags flag isFlag]
  simp only [shownInside, fields, loose, looseEmpty, sameOrder, flags]
  rw [sameKind]

/-- Trees that agree in what is shown are written alike. -/
theorem dump_eq_of_sameShown {source otherSource : Array Char} {node other : Node}
    (same : SameShown source otherSource node other) :
    dump source node = dump otherSource other := by
  induction node using Node.induction generalizing other with
  | step label children inductionHypothesis =>
      have alike : ∀ {nodes others : List Node},
          (∀ child ∈ nodes, child ∈ (Node.mk label children).solid) →
          List.Forall₂ (SameShown source otherSource) nodes others →
          nodes.map (dump source) = others.map (dump otherSource) := by
        intro nodes others inside each
        apply map_eq_map_of_forall₂
        refine (List.forall₂_iff_get.mpr ⟨each.length_eq, fun index below otherBelow => ?_⟩)
        have member := inside _ (List.getElem_mem below)
        exact inductionHypothesis _ (mem_solid_iff.mp member).1 (each.get below otherBelow)
      cases same with
      | token anonymous otherAnonymous sameText =>
          rw [dump_of_anonymous _ _ anonymous, dump_of_anonymous _ _ otherAnonymous, sameText]
      | text named otherNamed byText otherByText sameKind samePlace sameText =>
          rw [dump_of_named _ _ named, dump_of_named _ _ otherNamed, if_pos byText,
            if_pos otherByText, sameKind, sameText, position_congr samePlace]
      | inner named otherNamed byChildren otherByChildren sameKind samePlace sameFields sameOrder
          sameFlags sameLoose =>
          have inside : shownInside source (.mk label children) =
              shownInside otherSource other :=
            shownInside_congr sameKind
              (fun name => alike (fun child member => (mem_filling_iff.mp member).1)
                (sameFields name))
              sameOrder sameFlags
              (alike (fun child member => (mem_loose_iff.mp member).1) sameLoose)
          rw [dump_of_named _ _ named, dump_of_named _ _ otherNamed,
            if_neg (by simp [byChildren]), if_neg (by simp [otherByChildren]), sameKind, inside,
            position_congr samePlace]

end Dump

end FunctionAtlas.Syntax
