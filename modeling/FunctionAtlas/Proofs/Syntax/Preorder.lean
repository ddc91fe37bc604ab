import FunctionAtlas.Syntax.Node

/-!
Contract: the nodes of a tree, each with the way that leads to it, in preorder.

A site is a node together with its path, the numbers of the children to follow from the root, and
with the nodes that the path goes through. The sites of a tree are exactly the places that its
paths lead to (`mem_sites_iff`), each once and in the lexicographic order of the paths
(`pairwise_path_sites`).

Owns: induction over trees, sites and preorder, and trees over a given text.
-/

namespace FunctionAtlas.Syntax

namespace Node

/-- What holds of a node if it holds of its children holds of every tree. -/
theorem induction {motive : Node → Prop}
    (step : ∀ label children, (∀ child ∈ children, motive child) → motive (.mk label children))
    (node : Node) : motive node :=
  @Node.rec motive (fun nodes => ∀ child ∈ nodes, motive child)
    step
    (fun _ member => absurd member List.not_mem_nil)
    (fun _ _ first others child member => by
      rcases List.mem_cons.mp member with isFirst | isOther
      · rw [isFirst]
        exact first
      · exact others child isOther)
    node

/-! ## Sites -/

/-- A node with its path from the root and the nodes on this path, outermost first. -/
structure Site where
  path : List Nat
  ancestors : List Node
  node : Node

/-- The node that a site is a child of. -/
def Site.parent (site : Site) : Option Node := site.ancestors.getLast?

/-- A site of a child as a site of its parent. -/
def Site.under (parent : Node) (index : Nat) (site : Site) : Site :=
  { path := index :: site.path, ancestors := parent :: site.ancestors, node := site.node }

/-- The nodes from the root to the node of a site. -/
def Site.line (site : Site) : List Node := site.ancestors ++ [site.node]

@[simp] theorem Site.line_under (parent : Node) (index : Nat) (site : Site) :
    (site.under parent index).line = parent :: site.line := rfl

mutual

/-- All sites of a tree: a node comes before what is inside it. -/
def sites : Node → List Site
  | .mk label children => ⟨[], [], .mk label children⟩ :: sitesBelow (.mk label children) 0 children

/-- The sites of several children of a node, the first of which has the given number. -/
def sitesBelow (parent : Node) (index : Nat) : List Node → List Site
  | [] => []
  | child :: rest =>
      child.sites.map (Site.under parent index) ++ sitesBelow parent (index + 1) rest

end

/-- The nodes of a tree: a node comes before what is inside it. -/
def preorder (node : Node) : List Node := node.sites.map Site.node

theorem map_node_sitesBelow (parent : Node) (index : Nat) (children : List Node) :
    (sitesBelow parent index children).map Site.node = children.flatMap preorder := by
  induction children generalizing index with
  | nil => simp [sitesBelow]
  | cons child rest inductionHypothesis =>
      simp [sitesBelow, inductionHypothesis, preorder, Site.under, Function.comp_def]

@[simp] theorem preorder_mk (label : Label) (children : List Node) :
    (Node.mk label children).preorder = .mk label children :: children.flatMap preorder := by
  rw [preorder, sites, List.map_cons, map_node_sitesBelow]

theorem self_mem_preorder (node : Node) : node ∈ node.preorder := by
  cases node
  simp

theorem mem_preorder_of_child {label : Label} {children : List Node} {child inner : Node}
    (member : child ∈ children) (isInside : inner ∈ child.preorder) :
    inner ∈ (Node.mk label children).preorder := by
  rw [preorder_mk]
  exact List.mem_cons_of_mem _ (List.mem_flatMap.mpr ⟨child, member, isInside⟩)

/-- The first node of a tree with a property is the root or the first one inside a child. -/
theorem find?_preorder_mk (isSought : Node → Bool) (label : Label) (children : List Node) :
    (Node.mk label children).preorder.find? isSought =
      if isSought (.mk label children) then some (.mk label children)
      else children.findSome? fun child => child.preorder.find? isSought := by
  rw [preorder_mk, List.find?_cons, List.find?_flatMap]
  cases isSought (.mk label children) <;> rfl

theorem mem_preorder_trans {root node inner : Node} (member : node ∈ root.preorder)
    (isInside : inner ∈ node.preorder) : inner ∈ root.preorder := by
  induction root using Node.induction with
  | step label children inductionHypothesis =>
      rw [preorder_mk] at member ⊢
      rcases List.mem_cons.mp member with isRoot | isBelow
      · rw [isRoot, preorder_mk] at isInside
        exact isInside
      · obtain ⟨child, isChild, found⟩ := List.mem_flatMap.mp isBelow
        rw [← preorder_mk]
        exact mem_preorder_of_child isChild (inductionHypothesis child isChild found)

theorem mem_preorder_of_mem_children {root node child : Node} (member : node ∈ root.preorder)
    (isChild : child ∈ node.children) : child ∈ root.preorder := by
  obtain ⟨label, children⟩ := node
  exact mem_preorder_trans member (mem_preorder_of_child isChild child.self_mem_preorder)

/-! ## Paths -/

/-- The nodes that a path goes through and the node that it ends at. -/
def walk? (node : Node) : List Nat → Option (List Node × Node)
  | [] => some ([], node)
  | index :: rest =>
      node.children[index]?.bind fun child =>
        (walk? child rest).map fun found => (node :: found.1, found.2)

theorem mem_sitesBelow_iff {parent : Node} {index : Nat} {children : List Node} {site : Site} :
    site ∈ sitesBelow parent index children ↔
      ∃ (position : Nat) (child : Node) (inner : Site), children[position]? = some child ∧
        inner ∈ child.sites ∧ site = inner.under parent (index + position) := by
  induction children generalizing index with
  | nil => simp [sitesBelow]
  | cons first rest inductionHypothesis =>
      rw [sitesBelow, List.mem_append, List.mem_map, inductionHypothesis]
      constructor
      · rintro (⟨inner, member, rfl⟩ | ⟨position, child, inner, found, member, rfl⟩)
        · exact ⟨0, first, inner, rfl, member, rfl⟩
        · exact ⟨position + 1, child, inner, found, member, by congr 1; omega⟩
      · rintro ⟨position, child, inner, found, member, rfl⟩
        cases position with
        | zero =>
            cases found
            exact .inl ⟨inner, member, rfl⟩
        | succ position =>
            exact .inr ⟨position, child, inner, found, member, by congr 1; omega⟩

/-- The sites of a tree are the places that the paths through it lead to. -/
theorem mem_sites_iff (node : Node) (site : Site) :
    site ∈ node.sites ↔ node.walk? site.path = some (site.ancestors, site.node) := by
  induction node using Node.induction generalizing site with
  | step label children inductionHypothesis =>
      rw [sites, List.mem_cons, mem_sitesBelow_iff]
      obtain ⟨path, ancestors, found⟩ := site
      cases path with
      | nil => simp [walk?, Site.under, and_comm, eq_comm]
      | cons index rest =>
          simp only [walk?, Option.bind_eq_some_iff, Option.map_eq_some_iff]
          constructor
          · rintro (atRoot | ⟨position, child, inner, placed, member, equal⟩)
            · cases atRoot
            · rw [Nat.zero_add] at equal
              cases equal
              have walked := (inductionHypothesis child (List.mem_of_getElem? placed) inner).mp
                member
              exact ⟨child, placed, _, walked, rfl⟩
          · rintro ⟨child, placed, ⟨nodes, last⟩, walked, equal⟩
            cases equal
            have member := (inductionHypothesis child (List.mem_of_getElem? placed)
              ⟨rest, nodes, last⟩).mpr walked
            exact .inr ⟨index, child, ⟨rest, nodes, last⟩, placed, member, by simp [Site.under]⟩

/-- The line of a site begins with the root. -/
theorem line_eq_cons_of_mem {root : Node} {site : Site} (member : site ∈ root.sites) :
    site.line = root :: site.line.tail := by
  obtain ⟨label, children⟩ := root
  rw [sites, List.mem_cons, mem_sitesBelow_iff] at member
  rcases member with rfl | ⟨_, _, inner, _, _, rfl⟩
  · rfl
  · rw [Site.line_under, List.tail_cons]

/-- The nodes on the line of a site are in the tree, and the node of the site is inside them. -/
theorem mem_preorder_of_mem_line {root node : Node} {site : Site} (member : site ∈ root.sites)
    (onLine : node ∈ site.line) : node ∈ root.preorder ∧ site.node ∈ node.preorder := by
  have inTree : site.node ∈ root.preorder := List.mem_map_of_mem member
  induction root using Node.induction generalizing site with
  | step label children inductionHypothesis =>
      rw [line_eq_cons_of_mem member] at onLine
      rcases List.mem_cons.mp onLine with rfl | isBelow
      · exact ⟨self_mem_preorder _, inTree⟩
      · rw [sites, List.mem_cons, mem_sitesBelow_iff] at member
        rcases member with rfl | ⟨_, child, inner, placed, isInner, rfl⟩
        · exact absurd isBelow List.not_mem_nil
        · obtain ⟨inChild, inNode⟩ := inductionHypothesis child (List.mem_of_getElem? placed)
            isInner isBelow (List.mem_map_of_mem isInner)
          exact ⟨mem_preorder_of_child (List.mem_of_getElem? placed) inChild, inNode⟩

/-- The order of paths: along the first difference, and a path before those that go on from it. -/
def PathBefore : List Nat → List Nat → Prop := List.Lex fun left right => left < right

private theorem pairwise_path_sitesBelow (parent : Node) (index : Nat) (children : List Node)
    (each : ∀ child ∈ children, (child.sites.map Site.path).Pairwise PathBefore) :
    ((sitesBelow parent index children).map Site.path).Pairwise PathBefore := by
  induction children generalizing index with
  | nil => simp [sitesBelow]
  | cons child rest inductionHypothesis =>
      rw [sitesBelow, List.map_append, List.pairwise_append]
      refine ⟨?_, inductionHypothesis (index + 1) fun other member =>
        each other (List.mem_cons_of_mem _ member), ?_⟩
      · rw [List.map_map, List.pairwise_map]
        exact (List.pairwise_map.mp (each child List.mem_cons_self)).imp List.Lex.cons
      · intro path member otherPath otherMember
        obtain ⟨site, isHere, rfl⟩ := List.mem_map.mp member
        obtain ⟨inner, -, rfl⟩ := List.mem_map.mp isHere
        obtain ⟨other, isLater, rfl⟩ := List.mem_map.mp otherMember
        obtain ⟨position, _, _, _, _, rfl⟩ := mem_sitesBelow_iff.mp isLater
        exact List.Lex.rel (by omega)

/-- No site comes twice, and the sites come in the order of their paths. -/
theorem pairwise_path_sites (node : Node) :
    (node.sites.map Site.path).Pairwise PathBefore := by
  induction node using Node.induction with
  | step label children inductionHypothesis =>
      rw [sites, List.map_cons, List.pairwise_cons]
      refine ⟨?_, pairwise_path_sitesBelow _ _ _ inductionHypothesis⟩
      intro path member
      obtain ⟨site, isBelow, rfl⟩ := List.mem_map.mp member
      obtain ⟨_, _, _, _, _, rfl⟩ := mem_sitesBelow_iff.mp isBelow
      exact List.Lex.nil

/-! ## Kinds of named nodes -/

/-- No node of the kind is an anonymous node or inside one. This is so for every kind of named
nodes where anonymous nodes have no named nodes inside; see `kindStandsNamed_of_tokens`. -/
def KindStandsNamed (kind : String) (root : Node) : Prop :=
  ∀ token ∈ root.preorder, token.isNamed = false → ∀ inner ∈ token.preorder, inner.kind ≠ kind

theorem KindStandsNamed.child {kind : String} {label : Label} {children : List Node}
    (standsNamed : KindStandsNamed kind (.mk label children)) {child : Node}
    (member : child ∈ children) : KindStandsNamed kind child := by
  intro token isInside
  exact standsNamed token (mem_preorder_of_child member isInside)

theorem KindStandsNamed.ne_of_anonymous {kind : String} {root : Node}
    (standsNamed : KindStandsNamed kind root) (anonymous : root.isNamed = false) :
    ∀ inner ∈ root.preorder, inner.kind ≠ kind :=
  standsNamed root root.self_mem_preorder anonymous

/-- Tokens without named nodes inside hold no node of a kind that only named nodes have. -/
theorem kindStandsNamed_of_tokens {kind : String} {root : Node}
    (named : ∀ node ∈ root.preorder, node.kind = kind → node.isNamed = true)
    (tokens : ∀ token ∈ root.preorder, token.isNamed = false →
      ∀ inner ∈ token.preorder, inner.isNamed = false) :
    KindStandsNamed kind root := by
  intro token member anonymous inner isInside ofKind
  have isNamed := named inner (mem_preorder_trans member isInside) ofKind
  rw [tokens token member anonymous inner isInside] at isNamed
  contradiction

/-! ## Trees over a given text -/

/-- The place after the first characters of a text. -/
def placeAfter (source : Array Char) (count : Nat) : Text.Extent :=
  (source.toList.take count).foldl Text.Extent.after .zero

/-- A named node over the characters between two places. -/
def nodeOver (source : Array Char) (kind : String) (field : Option String) (start stop : Nat)
    (children : List Node) : Node :=
  .mk
    { kind
      isNamed := true
      isExtra := false
      field
      defect := none
      hasError := false
      start := placeAfter source start
      stop := placeAfter source stop }
    children

/-- An anonymous node over the characters between two places; its kind is its text. -/
def tokenOver (source : Array Char) (start stop : Nat) : Node :=
  .mk
    { kind := String.ofList (source.extract start stop).toList
      isNamed := false
      isExtra := false
      field := none
      defect := none
      hasError := false
      start := placeAfter source start
      stop := placeAfter source stop }
    []

mutual

/-- Trees can be compared. -/
def decideEq : (node other : Node) → Decidable (node = other)
  | .mk label children, .mk otherLabel otherChildren =>
      match decEq label otherLabel, decideEqAll children otherChildren with
      | .isTrue sameLabel, .isTrue sameChildren => .isTrue (by rw [sameLabel, sameChildren])
      | .isFalse differ, _ => .isFalse fun same => differ (Node.mk.inj same).1
      | .isTrue _, .isFalse differ => .isFalse fun same => differ (Node.mk.inj same).2

def decideEqAll : (nodes others : List Node) → Decidable (nodes = others)
  | [], [] => .isTrue rfl
  | [], _ :: _ => .isFalse nofun
  | _ :: _, [] => .isFalse nofun
  | node :: rest, other :: others =>
      match decideEq node other, decideEqAll rest others with
      | .isTrue same, .isTrue sameRest => .isTrue (by rw [same, sameRest])
      | .isFalse differ, _ => .isFalse fun same => differ (List.cons.inj same).1
      | .isTrue _, .isFalse differ => .isFalse fun same => differ (List.cons.inj same).2

end

instance : DecidableEq Node := decideEq

end Node

end FunctionAtlas.Syntax
