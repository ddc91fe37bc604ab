import FunctionAtlas.Proofs.Syntax.Shown

/-!
Contract: trees of the same shape.

Two trees correspond if they have nodes of the same kinds in the same places. What else is known of
two nodes in the same place, such as how their texts are related, is a parameter. All ways to look
at children then find corresponding nodes.

Owns: corresponding trees, their children and their sites.
-/

namespace FunctionAtlas.Syntax

open FunctionAtlas.Syntax.Node

/-- Nodes that appear alike, whose children correspond one by one, and which are related. -/
inductive Corresponds (related : Node → Node → Prop) : Node → Node → Prop where
  | intro {node other : Node}
      (sameKind : node.kind = other.kind)
      (sameName : node.isNamed = other.isNamed)
      (sameExtra : node.isExtra = other.isExtra)
      (sameField : node.label.field = other.label.field)
      (sameError : node.label.hasError = other.label.hasError)
      (areRelated : related node other)
      (sameChildren : List.Forall₂ (Corresponds related) node.children other.children) :
      Corresponds related node other

section Nodes

variable {related : Node → Node → Prop} {node other : Node}

theorem Corresponds.kind_eq (same : Corresponds related node other) : node.kind = other.kind := by
  cases same with
  | intro sameKind => exact sameKind

theorem Corresponds.isNamed_eq (same : Corresponds related node other) :
    node.isNamed = other.isNamed := by
  cases same with
  | intro _ sameName => exact sameName

theorem Corresponds.isExtra_eq (same : Corresponds related node other) :
    node.isExtra = other.isExtra := by
  cases same with
  | intro _ _ sameExtra => exact sameExtra

theorem Corresponds.field_eq (same : Corresponds related node other) :
    node.label.field = other.label.field := by
  cases same with
  | intro _ _ _ sameField => exact sameField

theorem Corresponds.hasError_eq (same : Corresponds related node other) :
    node.label.hasError = other.label.hasError := by
  cases same with
  | intro _ _ _ _ sameError => exact sameError

theorem Corresponds.areRelated (same : Corresponds related node other) : related node other := by
  cases same with
  | intro _ _ _ _ _ areRelated => exact areRelated

theorem Corresponds.children (same : Corresponds related node other) :
    List.Forall₂ (Corresponds related) node.children other.children := by
  cases same with
  | intro _ _ _ _ _ _ sameChildren => exact sameChildren

/-- Every child of the one node corresponds to a child of the other. -/
theorem Corresponds.exists_child (same : Corresponds related node other) {otherChild : Node}
    (isChild : otherChild ∈ other.children) :
    ∃ child ∈ node.children, Corresponds related child otherChild :=
  exists_of_mem_of_forall₂ same.children isChild

/-- What is chosen by how nodes appear corresponds. -/
theorem forall₂_filter_of_corresponds {nodes others : List Node} {keeps : Node → Bool}
    (each : List.Forall₂ (Corresponds related) nodes others)
    (alike : ∀ {node other}, Corresponds related node other → keeps node = keeps other) :
    List.Forall₂ (Corresponds related) (nodes.filter keeps) (others.filter keeps) := by
  refine List.rel_filter ?_ each
  intro node other same
  change keeps node = true ↔ keeps other = true
  rw [alike same]

theorem Corresponds.namedChildren (same : Corresponds related node other) :
    List.Forall₂ (Corresponds related) node.namedChildren other.namedChildren :=
  forall₂_filter_of_corresponds same.children Corresponds.isNamed_eq

theorem Corresponds.parts (same : Corresponds related node other) :
    List.Forall₂ (Corresponds related) node.parts other.parts := by
  refine forall₂_filter_of_corresponds same.namedChildren ?_
  intro child otherChild sameChild
  rw [sameChild.isExtra_eq]

theorem Corresponds.childByField (same : Corresponds related node other) (name : String) :
    Option.Rel (Corresponds related) (node.childByField name) (other.childByField name) := by
  rw [Node.childByField, Node.childByField, ← List.head?_filter, ← List.head?_filter]
  refine rel_head?_of_forall₂ (forall₂_filter_of_corresponds same.children ?_)
  intro child otherChild sameChild
  rw [sameChild.field_eq]

end Nodes

/-! ## Sites -/

/-- Sites in the same place of corresponding trees. -/
structure SitesCorrespond (related : Node → Node → Prop) (site other : Site) : Prop where
  ancestors : List.Forall₂ (Corresponds related) site.ancestors other.ancestors
  node : Corresponds related site.node other.node

theorem SitesCorrespond.line {related : Node → Node → Prop} {site other : Site}
    (same : SitesCorrespond related site other) :
    List.Forall₂ (Corresponds related) site.line other.line :=
  List.rel_append same.ancestors (.cons same.node .nil)

private theorem forall₂_sitesBelow {related : Node → Node → Prop} {parent otherParent : Node}
    (sameParent : Corresponds related parent otherParent) {children others : List Node}
    (each : List.Forall₂ (fun child other =>
      List.Forall₂ (SitesCorrespond related) child.sites other.sites) children others)
    (index otherIndex : Nat) :
    List.Forall₂ (SitesCorrespond related) (sitesBelow parent index children)
      (sitesBelow otherParent otherIndex others) := by
  induction each generalizing index otherIndex with
  | nil => exact .nil
  | @cons child other _ _ ofChild _ inductionHypothesis =>
      rw [sitesBelow, sitesBelow]
      refine List.rel_append ?_ (inductionHypothesis _ _)
      rw [List.forall₂_map_left_iff, List.forall₂_map_right_iff]
      refine ofChild.imp ?_
      intro site otherSite same
      exact ⟨.cons sameParent same.ancestors, same.node⟩

/-- Corresponding trees have corresponding sites, in the same order. -/
theorem Corresponds.sites {related : Node → Node → Prop} {node other : Node}
    (same : Corresponds related node other) :
    List.Forall₂ (SitesCorrespond related) node.sites other.sites := by
  induction node using Node.induction generalizing other with
  | step label children inductionHypothesis =>
      obtain ⟨otherLabel, others⟩ := other
      rw [Node.sites, Node.sites]
      refine .cons ⟨.nil, same⟩ (forall₂_sitesBelow same ?_ 0 0)
      have each : List.Forall₂ (fun child otherChild => child ∈ children ∧
          Corresponds related child otherChild) children others :=
        (List.forall₂_and_left children others).mpr ⟨fun _ isChild => isChild, same.children⟩
      refine each.imp ?_
      intro child otherChild ofChild
      exact inductionHypothesis child ofChild.1 ofChild.2

/-! ## Given trees -/

mutual

/-- Whether two given trees correspond, by a check of every two nodes in the same place. -/
def correspond (check : Node → Node → Bool) : Node → Node → Bool
  | .mk label children, .mk otherLabel others =>
      label.kind = otherLabel.kind && label.isNamed == otherLabel.isNamed &&
        label.isExtra == otherLabel.isExtra && label.field = otherLabel.field &&
        label.hasError == otherLabel.hasError &&
        check (.mk label children) (.mk otherLabel others) && correspondAll check children others

def correspondAll (check : Node → Node → Bool) : List Node → List Node → Bool
  | [], [] => true
  | node :: rest, other :: others => correspond check node other && correspondAll check rest others
  | _, _ => false

end

theorem correspondAll_iff_forall₂ (check : Node → Node → Bool) (nodes others : List Node) :
    correspondAll check nodes others = true ↔
      List.Forall₂ (fun node other => correspond check node other = true) nodes others := by
  induction nodes generalizing others with
  | nil => cases others <;> simp [correspondAll]
  | cons node rest inductionHypothesis =>
      cases others with
      | nil => simp [correspondAll]
      | cons other others => simp [correspondAll, inductionHypothesis]

theorem corresponds_of_check {related : Node → Node → Prop} {check : Node → Node → Bool}
    (sound : ∀ node other, check node other = true → related node other) {node other : Node}
    (checked : correspond check node other = true) : Corresponds related node other := by
  induction node using Node.induction generalizing other with
  | step label children inductionHypothesis =>
      obtain ⟨otherLabel, others⟩ := other
      simp only [correspond, Bool.and_eq_true, decide_eq_true_eq, beq_iff_eq,
        correspondAll_iff_forall₂] at checked
      obtain ⟨⟨⟨⟨⟨⟨sameKind, sameName⟩, sameExtra⟩, sameField⟩, sameError⟩, isRelated⟩, each⟩ :=
        checked
      have ofChildren : List.Forall₂ (fun child otherChild => child ∈ children ∧
          correspond check child otherChild = true) children others :=
        (List.forall₂_and_left children others).mpr ⟨fun _ isChild => isChild, each⟩
      refine .intro sameKind sameName sameExtra sameField sameError (sound _ _ isRelated) ?_
      refine ofChildren.imp ?_
      intro child otherChild ofChild
      exact inductionHypothesis child ofChild.1 ofChild.2

end FunctionAtlas.Syntax
