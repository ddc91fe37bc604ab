import FunctionAtlas.Parse.Parser
import FunctionAtlas.Proofs.Parse.Covering

/-!
Contract: the trees on the parse stack cover the text without gaps.

Every node of the stack stands at a place of the text, and the tree on a link back covers what
lies between the two nodes. Nodes never move: new ones are added, and joining versions changes
links between nodes that stand at the same place. So what a version has read is known by the place
where its top stands.

Owns: sound stacks, where versions stand, and what every change of a stack but popping does to
both.
-/

namespace FunctionAtlas.Parse

open FunctionAtlas.Parse.Subtree
open FunctionAtlas.Text

/-! ## Sound stacks -/

/-- Where a node of the stack stands. -/
def placeAt (nodes : Array StackNode) (index : Nat) : Extent :=
  (nodes.getD index Stack.startNode).position

/-- A link leads back from a place over the text that its tree covers. -/
structure Link.Sound (source : Array Char) (nodes : Array StackNode) (place : Extent)
    (link : Link) : Prop where
  inBounds : link.node < nodes.size
  row : Row source (placeAt nodes link.node) place link.tree.toList

/-- A node stands at a place of the text; only a node at the beginning has no way back. -/
structure StackNode.Sound (source : Array Char) (nodes : Array StackNode) (node : StackNode) :
    Prop where
  isPlace : IsPlace source node.position
  links : ∀ link ∈ node.links, link.Sound source nodes node.position
  ends : node.links = [] → node.position = .zero

/-- A head points to a node; a token that it waits with covers the text from there on. -/
structure Head.Sound (source : Array Char) (nodes : Array StackNode) (head : Head) : Prop where
  inBounds : head.node < nodes.size
  waits : ∀ lookahead, head.status = .paused lookahead →
    Covers source (placeAt nodes head.node) lookahead

structure Stack.Sound (source : Array Char) (stack : Stack) : Prop where
  nonempty : 0 < stack.nodes.size
  nodes : ∀ node ∈ stack.nodes, node.Sound source stack.nodes
  heads : ∀ head ∈ stack.heads, head.Sound source stack.nodes

namespace Stack

section Sound

variable {source : Array Char} {stack : Stack} {nodes extended : Array StackNode}

theorem sound_startNode (nodes : Array StackNode) : startNode.Sound source nodes where
  isPlace := isPlace_zero
  links := by simp [startNode]
  ends := fun _ => rfl

theorem Sound.node (sound : stack.Sound source) (index : Nat) :
    (stack.node index).Sound source stack.nodes := by
  rw [Stack.node, Array.getD_eq_getD_getElem?]
  cases found : stack.nodes[index]? with
  | none => exact sound_startNode _
  | some node => exact sound.nodes node (Array.mem_of_getElem? found)

theorem Sound.head (sound : stack.Sound source) (version : Nat) :
    (stack.head version).Sound source stack.nodes := by
  rw [Stack.head, Array.getD_eq_getD_getElem?]
  cases found : stack.heads[version]? with
  | none => exact ⟨sound.nonempty, by simp [startHead]⟩
  | some head => exact sound.heads head (Array.mem_of_getElem? found)

theorem Sound.isPlace (sound : stack.Sound source) (version : Nat) :
    IsPlace source (stack.position version) :=
  (sound.node _).isPlace

theorem sound_start : start.Sound source where
  nonempty := by decide
  nodes := by
    intro node member
    rw [Array.mem_singleton.mp member]
    exact sound_startNode _
  heads := by
    intro head member
    rw [Array.mem_singleton.mp member]
    exact ⟨by decide, by simp [startHead]⟩

/-! ## Nodes do not move -/

/-- Nodes are added, and those that were there stand where they stood. -/
structure Extends (nodes extended : Array StackNode) : Prop where
  size_le : nodes.size ≤ extended.size
  placeAt_eq : ∀ index < nodes.size, placeAt extended index = placeAt nodes index

theorem Extends.trans {further : Array StackNode} (first : Extends nodes extended)
    (second : Extends extended further) : Extends nodes further where
  size_le := Nat.le_trans first.size_le second.size_le
  placeAt_eq := fun index inBounds => by
    rw [second.placeAt_eq index (Nat.lt_of_lt_of_le inBounds first.size_le),
      first.placeAt_eq index inBounds]

theorem Extends.link (extends_ : Extends nodes extended) {place : Extent} {link : Link}
    (sound : link.Sound source nodes place) : link.Sound source extended place where
  inBounds := Nat.lt_of_lt_of_le sound.inBounds extends_.size_le
  row := by
    rw [extends_.placeAt_eq link.node sound.inBounds]
    exact sound.row

theorem Extends.node (extends_ : Extends nodes extended) {node : StackNode}
    (sound : node.Sound source nodes) : node.Sound source extended where
  isPlace := sound.isPlace
  links := fun link member => extends_.link (sound.links link member)
  ends := sound.ends

theorem Extends.head (extends_ : Extends nodes extended) {head : Head}
    (sound : head.Sound source nodes) : head.Sound source extended where
  inBounds := Nat.lt_of_lt_of_le sound.inBounds extends_.size_le
  waits := by
    rw [extends_.placeAt_eq head.node sound.inBounds]
    exact sound.waits

theorem extends_push (made : StackNode) : Extends nodes (nodes.push made) where
  size_le := by simp
  placeAt_eq := fun index inBounds => by
    have isOld : index ≠ nodes.size := Nat.ne_of_lt inBounds
    simp [placeAt, Array.getD_eq_getD_getElem?, Array.getElem?_push, isOld]

theorem mem_modify {α : Type} {items : Array α} {index : Nat} {change : α → α} {item : α}
    (member : item ∈ items.modify index change) :
    item ∈ items ∨ ∃ old, items[index]? = some old ∧ item = change old := by
  obtain ⟨place, found⟩ := Array.mem_iff_getElem?.mp member
  rw [Array.getElem?_modify] at found
  split_ifs at found with isHere
  · obtain ⟨old, isOld, rfl⟩ := Option.map_eq_some_iff.mp found
    exact .inr ⟨old, isHere ▸ isOld, rfl⟩
  · exact .inl (Array.mem_of_getElem? found)

end Sound

/-! ## Where versions stand -/

/-- Where a head stands, unless it waits. -/
def headPlace? (nodes : Array StackNode) (head : Head) : Option Extent :=
  match head.status with
  | .paused _ => none
  | _ => some (placeAt nodes head.node)

/-- Where a version stands, unless it waits. -/
def place? (stack : Stack) (version : Nat) : Option Extent :=
  stack.heads[version]?.bind (headPlace? stack.nodes)

/-- The versions before a number stand where they stood. -/
def Keeps (count : Nat) (stack changed : Stack) : Prop :=
  ∀ version < count, ∀ place, stack.place? version = some place →
    changed.place? version = some place

section Standing

variable {source : Array Char} {stack changed : Stack} {version : Nat} {place : Extent}

theorem Keeps.refl (count : Nat) (stack : Stack) : Keeps count stack stack :=
  fun _ _ _ stands => stands

theorem Keeps.trans {count : Nat} {further : Stack} (first : Keeps count stack changed)
    (second : Keeps count changed further) : Keeps count stack further :=
  fun version inBounds place stands =>
    second version inBounds place (first version inBounds place stands)

theorem Keeps.of_le {count fewer : Nat} (keeps : Keeps count stack changed)
    (fewer_le : fewer ≤ count) : Keeps fewer stack changed :=
  fun version inBounds => keeps version (Nat.lt_of_lt_of_le inBounds fewer_le)

theorem lt_of_place? (stands : stack.place? version = some place) :
    version < stack.versionCount := by
  obtain ⟨head, found, -⟩ := Option.bind_eq_some_iff.mp stands
  exact (Array.getElem?_eq_some_iff.mp found).1

/-- All versions are kept if those that are there are. -/
theorem Keeps.all (keeps : Keeps stack.versionCount stack changed) (count : Nat) :
    Keeps count stack changed :=
  fun version _ place stands => keeps version (lt_of_place? stands) place stands

theorem head_eq {head : Head} (found : stack.heads[version]? = some head) :
    stack.head version = head := by
  rw [Stack.head, Array.getD_eq_getD_getElem?, found, Option.getD_some]

theorem position_of_place? (stands : stack.place? version = some place) :
    stack.position version = place ∧
      ∀ lookahead, (stack.head version).status ≠ .paused lookahead := by
  obtain ⟨head, found, isPlace⟩ := Option.bind_eq_some_iff.mp stands
  rw [Stack.position, Stack.top, head_eq found]
  unfold headPlace? at isPlace
  split at isPlace
  next => cases isPlace
  next isReady => exact ⟨Option.some.inj isPlace, isReady⟩

theorem place?_of_isActive (inBounds : version < stack.versionCount)
    (isActive : stack.isActive version = true) :
    stack.place? version = some (stack.position version) := by
  have found : stack.heads[version]? = some stack.heads[version] :=
    Array.getElem?_eq_getElem inBounds
  unfold Stack.isActive at isActive
  rw [head_eq found] at isActive
  rw [place?, found, Stack.position, Stack.top, head_eq found, Option.bind_some, headPlace?]
  split at isActive
  next status =>
    rw [status]
    rfl
  next => cases isActive

end Standing

/-! ## Heads -/

section Heads

variable {source : Array Char} {stack : Stack} {version : Nat} {change : Head → Head}

theorem sound_modifyHead (sound : stack.Sound source)
    (kept : ∀ head, stack.heads[version]? = some head → (change head).Sound source stack.nodes) :
    (stack.modifyHead version change).Sound source where
  nonempty := sound.nonempty
  nodes := sound.nodes
  heads := by
    intro head member
    rcases mem_modify member with isOld | ⟨old, found, rfl⟩
    · exact sound.heads head isOld
    · exact kept old found

theorem place?_modifyHead (other : Nat) :
    (stack.modifyHead version change).place? other =
      if version = other then
        (stack.heads[version]?.map change).bind (headPlace? stack.nodes)
      else stack.place? other := by
  unfold place? modifyHead
  rw [Array.getElem?_modify]
  split_ifs with isSame
  · rw [isSame]
  · rfl

/-- A change of what else a head remembers moves nothing. -/
theorem rests_modifyHead (sound : stack.Sound source)
    (sameNode : ∀ head, (change head).node = head.node)
    (sameStatus : ∀ head, (change head).status = head.status) :
    (stack.modifyHead version change).Sound source ∧
      ∀ other, (stack.modifyHead version change).place? other = stack.place? other := by
  constructor
  · refine sound_modifyHead sound fun head found => ?_
    have isSound := sound.heads head (Array.mem_of_getElem? found)
    refine ⟨by rw [sameNode]; exact isSound.inBounds, ?_⟩
    rw [sameNode, sameStatus]
    exact isSound.waits
  · intro other
    have samePlace : headPlace? stack.nodes ∘ change = headPlace? stack.nodes := by
      funext head
      simp only [Function.comp, headPlace?, sameNode, sameStatus]
    rw [place?_modifyHead, Option.bind_map, samePlace]
    split_ifs with isSame
    · rw [isSame, place?]
    · rfl

theorem sound_halt (sound : stack.Sound source) : (stack.halt version).Sound source :=
  sound_modifyHead sound fun head found =>
    ⟨(sound.heads head (Array.mem_of_getElem? found)).inBounds, by simp⟩

theorem keeps_halt (count : Nat) : Keeps count stack (stack.halt version) := by
  intro other _ place stands
  rw [halt, place?_modifyHead]
  split_ifs with isSame
  · subst isSame
    obtain ⟨head, found, isPlace⟩ := Option.bind_eq_some_iff.mp stands
    unfold headPlace? at isPlace
    split at isPlace
    next => cases isPlace
    next => rw [found, ← isPlace]; rfl
  · exact stands

theorem sound_pause (sound : stack.Sound source) {lookahead : Subtree}
    (covers : Covers source (stack.position version) lookahead) :
    (stack.pause version lookahead).Sound source := by
  refine sound_modifyHead sound fun head found => ?_
  refine ⟨(sound.heads head (Array.mem_of_getElem? found)).inBounds, ?_⟩
  rintro _ ⟨⟩
  rw [Stack.position, Stack.top, head_eq found] at covers
  exact covers

theorem sound_resume (sound : stack.Sound source) : (stack.resume version).Sound source :=
  sound_modifyHead sound fun head found =>
    ⟨(sound.heads head (Array.mem_of_getElem? found)).inBounds, by simp⟩

theorem place?_resume (inBounds : version < stack.versionCount) :
    (stack.resume version).place? version = some (stack.position version) := by
  have found : stack.heads[version]? = some stack.heads[version] :=
    Array.getElem?_eq_getElem inBounds
  rw [resume, place?_modifyHead, if_pos rfl, found, Stack.position, Stack.top, head_eq found]
  rfl

@[simp] theorem versionCount_modifyHead :
    (stack.modifyHead version change).versionCount = stack.versionCount :=
  Array.size_modify

end Heads

/-! ## Adding and removing versions -/

section Versions

variable {source : Array Char} {stack : Stack} {version : Nat}

theorem sound_of_heads (sound : stack.Sound source) {heads : Array Head}
    (isSound : ∀ head ∈ heads, head ∈ stack.heads ∨ head.Sound source stack.nodes) :
    Stack.Sound source { stack with heads } where
  nonempty := sound.nonempty
  nodes := sound.nodes
  heads := fun head member => (isSound head member).elim (sound.heads head) id

theorem getElem?_eraseIdxIfInBounds {α : Type} (items : Array α) (index other : Nat) :
    (items.eraseIdxIfInBounds index)[other]? =
      if other < index then items[other]? else items[other + 1]? := by
  rw [← Array.getElem?_toList, Array.toList_eraseIdxIfInBounds, List.getElem?_eraseIdx]
  simp only [Array.getElem?_toList]

theorem mem_of_mem_eraseIdxIfInBounds {α : Type} {items : Array α} {index : Nat} {item : α}
    (member : item ∈ items.eraseIdxIfInBounds index) : item ∈ items := by
  obtain ⟨place, found⟩ := Array.mem_iff_getElem?.mp member
  rw [getElem?_eraseIdxIfInBounds] at found
  split_ifs at found <;> exact Array.mem_of_getElem? found

theorem sound_remove (sound : stack.Sound source) : (stack.remove version).Sound source :=
  sound_of_heads sound fun _ member => .inl (mem_of_mem_eraseIdxIfInBounds member)

theorem place?_remove (other : Nat) :
    (stack.remove version).place? other =
      if other < version then stack.place? other else stack.place? (other + 1) := by
  unfold place? remove
  rw [getElem?_eraseIdxIfInBounds]
  split_ifs <;> rfl

theorem size_eraseIdxIfInBounds {α : Type} {items : Array α} {index : Nat}
    (inBounds : index < items.size) : (items.eraseIdxIfInBounds index).size + 1 = items.size := by
  rw [Array.eraseIdxIfInBounds, dif_pos inBounds, Array.size_eraseIdx]
  omega

theorem versionCount_remove (inBounds : version < stack.versionCount) :
    (stack.remove version).versionCount + 1 = stack.versionCount :=
  size_eraseIdxIfInBounds inBounds

theorem keeps_remove : Keeps version stack (stack.remove version) := by
  intro other before place stands
  rw [place?_remove, if_pos before]
  exact stands

theorem sound_truncateVersions (sound : stack.Sound source) (count : Nat) :
    (truncateVersions count stack).Sound source := by
  refine sound_of_heads sound fun head member => .inl ?_
  obtain ⟨index, found⟩ := Array.mem_iff_getElem?.mp member
  rw [Array.take_eq_extract, Array.getElem?_extract] at found
  split_ifs at found
  exact Array.mem_of_getElem? found

theorem place?_truncateVersions {count other : Nat} (before : other < count) :
    (truncateVersions count stack).place? other = stack.place? other := by
  unfold place? truncateVersions
  rw [Array.take_eq_extract, Array.getElem?_extract]
  split_ifs with inBounds
  · rw [Nat.zero_add]
  · rw [Array.getElem?_eq_none (by omega)]

theorem sound_swap (sound : stack.Sound source) (left right : Nat) :
    (stack.swap left right).Sound source := by
  refine sound_of_heads sound fun head member => ?_
  rcases Array.mem_or_eq_of_mem_setIfInBounds member with member | rfl
  · rcases Array.mem_or_eq_of_mem_setIfInBounds member with member | rfl
    · exact .inl member
    · exact .inr (sound.head right)
  · exact .inr (sound.head left)

theorem sound_copy (sound : stack.Sound source) : (stack.copy version).2.Sound source := by
  refine sound_of_heads sound fun head member => ?_
  rcases Array.mem_push.mp member with member | rfl
  · exact .inl member
  · exact .inr ⟨(sound.head version).inBounds, (sound.head version).waits⟩

theorem keeps_copy : Keeps stack.versionCount stack (stack.copy version).2 := by
  intro other inBounds place stands
  have isOld : other ≠ stack.heads.size := Nat.ne_of_lt inBounds
  unfold copy place?
  rw [Array.getElem?_push, if_neg isOld]
  exact stands

theorem sound_renumber (sound : stack.Sound source) (from_ target : Nat) :
    (stack.renumber from_ target).Sound source := by
  unfold renumber
  split_ifs
  · exact sound
  · refine sound_of_heads sound fun head member => ?_
    rcases Array.mem_or_eq_of_mem_setIfInBounds
      (mem_of_mem_eraseIdxIfInBounds member) with member | rfl
    · exact .inl member
    · exact .inr ⟨(sound.head from_).inBounds, (sound.head from_).waits⟩

/-- A version takes the place of an earlier one. -/
theorem place?_renumber {from_ target other : Nat} (isEarlier : target < from_)
    (inBounds : from_ < stack.versionCount) (before : other < from_) :
    (stack.renumber from_ target).place? other =
      if other = target then stack.place? from_ else stack.place? other := by
  have found : stack.heads[from_]? = some stack.heads[from_] := Array.getElem?_eq_getElem inBounds
  have inBoundsTarget : target < stack.heads.size := Nat.lt_trans isEarlier inBounds
  unfold renumber place?
  rw [if_neg (Nat.ne_of_gt isEarlier), head_eq found, getElem?_eraseIdxIfInBounds, if_pos before,
    Array.set!_eq_setIfInBounds, Array.getElem?_setIfInBounds, found, if_pos inBoundsTarget]
  by_cases isTarget : other = target
  · rw [if_pos isTarget.symm, if_pos isTarget]
    rfl
  · rw [if_neg (Ne.symm isTarget), if_neg isTarget]

theorem versionCount_renumber {from_ target : Nat} (isEarlier : target < from_)
    (inBounds : from_ < stack.versionCount) :
    (stack.renumber from_ target).versionCount + 1 = stack.versionCount := by
  have sameSize : ∀ head, (stack.heads.set! target head).size = stack.versionCount :=
    fun _ => Array.size_setIfInBounds
  rw [renumber, if_neg (Nat.ne_of_gt isEarlier)]
  exact (size_eraseIdxIfInBounds (by rwa [sameSize])).trans (sameSize _)

end Versions

/-! ## Pushing -/

/-- What the tree on a link covers. -/
def treeExtent : Option Subtree → Extent
  | none => .zero
  | some tree => tree.totalSize

section Push

variable {source : Array Char} {stack : Stack} {version state : Nat} {tree : Option Subtree}

theorem push_parts (stack : Stack) (version : Nat) (tree : Option Subtree) (state : Nat) :
    ∃ made : StackNode, (stack.push version tree state).nodes = stack.nodes.push made ∧
      made.position = (stack.position version).add (treeExtent tree) ∧
      made.links = [⟨(stack.head version).node, tree⟩] := by
  cases tree with
  | none => exact ⟨_, rfl, (Extent.add_zero _).symm, rfl⟩
  | some tree => exact ⟨_, rfl, rfl, rfl⟩

theorem push_heads (stack : Stack) (version : Nat) (tree : Option Subtree) (state : Nat) :
    ∃ change : Head → Head, (stack.push version tree state).heads =
        stack.heads.modify version change ∧
      ∀ head, (change head).node = stack.nodes.size ∧ (change head).status = head.status := by
  refine ⟨fun head => { head with
      node := stack.nodes.size
      countAtError :=
        if tree.isNone then (stack.push version tree state).node stack.nodes.size |>.nodeCount
        else head.countAtError }, ?_, fun head => ⟨rfl, rfl⟩⟩
  cases tree with
  | none => simp [push, Stack.node]
  | some tree => rfl

theorem extends_push_nodes : Extends stack.nodes (stack.push version tree state).nodes := by
  obtain ⟨made, nodes, -⟩ := push_parts stack version tree state
  rw [nodes]
  exact extends_push made

theorem placeAt_push :
    placeAt (stack.push version tree state).nodes stack.nodes.size =
      (stack.position version).add (treeExtent tree) := by
  obtain ⟨made, nodes, position, -⟩ := push_parts stack version tree state
  rw [nodes, placeAt, Array.getD_eq_getD_getElem?, Array.getElem?_push, if_pos rfl, ← position]
  rfl

theorem stop_eq_add_treeExtent {origin stop : Extent}
    (row : Row source origin stop tree.toList) : stop = origin.add (treeExtent tree) := by
  cases tree with
  | none => exact Eq.trans (Eq.symm row.covers) (Extent.add_zero _).symm
  | some tree => exact (coverBetween_singleton.mp row.covers).2.symm

theorem sound_push (sound : stack.Sound source) {stop : Extent}
    (row : Row source (stack.position version) stop tree.toList)
    (ready : treeExtent tree = .zero ∨
      ∀ lookahead, (stack.head version).status ≠ .paused lookahead) :
    (stack.push version tree state).Sound source := by
  obtain ⟨made, nodes, position, links⟩ := push_parts stack version tree state
  have extends_ : Extends stack.nodes (stack.push version tree state).nodes := extends_push_nodes
  have isStop : made.position = stop := position.trans (stop_eq_add_treeExtent row).symm
  have madeSound : made.Sound source stack.nodes := by
    rw [← isStop] at row
    refine ⟨row.covers.isPlace (sound.isPlace version), ?_, ?_⟩
    · intro link member
      rw [links, List.mem_singleton] at member
      rw [member]
      exact ⟨(sound.head version).inBounds, row⟩
    · intro isEmpty
      rw [links] at isEmpty
      cases isEmpty
  refine ⟨?_, ?_, ?_⟩
  · exact Nat.lt_of_lt_of_le sound.nonempty extends_.size_le
  · intro node member
    rw [nodes] at member
    rcases Array.mem_push.mp member with isOld | rfl
    · exact extends_.node (sound.nodes node isOld)
    · exact extends_.node madeSound
  · intro head member
    obtain ⟨change, heads, changed⟩ := push_heads stack version tree state
    rw [heads] at member
    rcases mem_modify member with isOld | ⟨old, found, rfl⟩
    · exact extends_.head (sound.heads head isOld)
    · refine ⟨?_, fun lookahead isPaused => ?_⟩
      · rw [(changed old).1, nodes, Array.size_push]
        exact Nat.lt_succ_self _
      · rw [(changed old).2] at isPaused
        rw [(changed old).1, placeAt_push]
        rcases ready with isEmpty | isReady
        · have waits := (sound.head version).waits lookahead (head_eq found ▸ isPaused)
          rw [isEmpty, Extent.add_zero]
          exact waits
        · exact absurd isPaused (head_eq found ▸ isReady lookahead)

theorem headPlace?_extend {nodes extended : Array StackNode} (extends_ : Extends nodes extended)
    {head : Head} (inBounds : head.node < nodes.size) :
    headPlace? extended head = headPlace? nodes head := by
  rw [headPlace?, headPlace?, extends_.placeAt_eq head.node inBounds]

/-- A version that reads a tree moves to the end of the tree; no other one moves. -/
theorem place?_push (sound : stack.Sound source) (other : Nat) :
    (stack.push version tree state).place? other =
      if version = other then
        (stack.place? version).map fun place => place.add (treeExtent tree)
      else stack.place? other := by
  obtain ⟨change, heads, changed⟩ := push_heads stack version tree state
  have moved : placeAt (stack.push version tree state).nodes stack.nodes.size = _ := placeAt_push
  unfold place?
  rw [heads, Array.getElem?_modify]
  split_ifs with isSame
  · subst isSame
    cases found : stack.heads[version]? with
    | none => rfl
    | some head =>
        rw [Stack.position, Stack.top, head_eq found] at moved
        simp only [Option.map_some, Option.bind_some, headPlace?]
        rw [(changed head).1, (changed head).2, moved]
        cases head.status <;> rfl
  · cases found : stack.heads[other]? with
    | none => rfl
    | some head =>
        exact headPlace?_extend extends_push_nodes
          (sound.heads head (Array.mem_of_getElem? found)).inBounds

/-- A version that reads a row of one tree, or none, goes on to where the row ends. -/
theorem push_row (sound : stack.Sound source) {origin stop : Extent}
    (stands : stack.place? version = some origin) (row : Row source origin stop tree.toList) :
    (stack.push version tree state).Sound source ∧
      (stack.push version tree state).place? version = some stop ∧
      ∀ other ≠ version, (stack.push version tree state).place? other = stack.place? other := by
  obtain ⟨isOrigin, isReady⟩ := position_of_place? stands
  refine ⟨sound_push sound (isOrigin ▸ row) (.inr isReady), ?_, fun other isOther => ?_⟩
  · rw [place?_push sound, if_pos rfl, stands, stop_eq_add_treeExtent row]
    rfl
  · rw [place?_push sound, if_neg (Ne.symm isOther)]

@[simp] theorem versionCount_push :
    (stack.push version tree state).versionCount = stack.versionCount := by
  obtain ⟨change, heads, -⟩ := push_heads stack version tree state
  rw [versionCount, heads, Array.size_modify, versionCount]

/-- A version that reads a row of trees goes on to where the row ends. -/
theorem foldl_push_row {trees : List Subtree} {origin stop : Extent} (state : Nat)
    (sound : stack.Sound source) (stands : stack.place? version = some origin) (row : Row source origin stop trees) :
    let pushed := trees.foldl (fun stack tree => stack.push version (some tree) state) stack
    pushed.Sound source ∧ pushed.place? version = some stop ∧
      (∀ other ≠ version, pushed.place? other = stack.place? other) ∧
      pushed.versionCount = stack.versionCount := by
  induction trees generalizing stack origin with
  | nil => exact ⟨sound, stands.trans (congrArg some row.covers), fun _ _ => rfl, rfl⟩
  | cons tree rest inductionHypothesis =>
      obtain ⟨middle, first, later⟩ := row_cons.mp row
      obtain ⟨pushed, moved, others⟩ :=
        @push_row source stack version state (some tree) sound origin middle stands first
      obtain ⟨lastSound, lastMoved, lastOthers, lastCount⟩ := inductionHypothesis pushed moved later
      refine ⟨lastSound, lastMoved, fun other isOther => ?_, lastCount.trans versionCount_push⟩
      exact (lastOthers other isOther).trans (others other isOther)

/-- Pushing over no text moves no version. -/
theorem keeps_push_of_empty (sound : stack.Sound source) (isEmpty : treeExtent tree = .zero)
    (count : Nat) : Keeps count stack (stack.push version tree state) := by
  intro other _ place stands
  rw [place?_push sound]
  split_ifs with isSame
  · subst isSame
    rw [stands, isEmpty, Option.map_some, Extent.add_zero]
  · exact stands

end Push

/-! ## Joining -/

section Join

variable {source : Array Char} {stack changed : Stack}

/-- Links change between nodes that stand where they stood. -/
structure Joined (source : Array Char) (stack changed : Stack) : Prop where
  sound : changed.Sound source
  extends_ : Extends stack.nodes changed.nodes
  heads : changed.heads = stack.heads

theorem Joined.refl (sound : stack.Sound source) : Joined source stack stack :=
  ⟨sound, ⟨Nat.le_refl _, fun _ _ => rfl⟩, rfl⟩

theorem Joined.trans {further : Stack} (first : Joined source stack changed)
    (second : Joined source changed further) : Joined source stack further :=
  ⟨second.sound, first.extends_.trans second.extends_, second.heads.trans first.heads⟩

theorem Joined.place? (joined : Joined source stack changed) (sound : stack.Sound source)
    (version : Nat) : changed.place? version = stack.place? version := by
  unfold Stack.place?
  rw [joined.heads]
  cases found : stack.heads[version]? with
  | none => rfl
  | some head =>
      exact headPlace?_extend joined.extends_
        (sound.heads head (Array.mem_of_getElem? found)).inBounds

theorem joined_modifyNode (sound : stack.Sound source) {index : Nat}
    {change : StackNode → StackNode} (samePosition : ∀ node, (change node).position = node.position)
    (kept : ∀ node, stack.nodes[index]? = some node → (change node).Sound source stack.nodes) :
    Joined source stack { stack with nodes := stack.nodes.modify index change } := by
  have extends_ : Extends stack.nodes (stack.nodes.modify index change) := by
    refine ⟨Nat.le_of_eq Array.size_modify.symm, fun other _ => ?_⟩
    simp only [placeAt, Array.getD_eq_getD_getElem?, Array.getElem?_modify]
    split_ifs
    · cases stack.nodes[other]? with
      | none => rfl
      | some node => exact samePosition node
    · rfl
  refine ⟨⟨?_, ?_, ?_⟩, extends_, rfl⟩
  · exact Nat.lt_of_lt_of_le sound.nonempty extends_.size_le
  · intro node member
    rcases mem_modify member with isOld | ⟨old, found, rfl⟩
    · exact extends_.node (sound.nodes node isOld)
    · exact extends_.node (kept old found)
  · exact fun head member => extends_.head (sound.heads head member)

theorem joining_replace {link : Link} {before links joined : List Link} {precedence : Option Int}
    (found : joining stack link before links = .replace joined precedence) :
    joined ≠ [] ∧ ∀ other ∈ joined, other ∈ before ∨ other ∈ links ∨ other = link := by
  induction links generalizing before with
  | nil => cases found
  | cons known rest inductionHypothesis =>
      have later : joining stack link (known :: before) rest = .replace joined precedence →
          joined ≠ [] ∧
            ∀ other ∈ joined, other ∈ before ∨ other ∈ known :: rest ∨ other = link := by
        intro found
        obtain ⟨nonempty, members⟩ := inductionHypothesis found
        refine ⟨nonempty, fun other member => ?_⟩
        have cases_ := members other member
        simp only [List.mem_cons] at cases_ ⊢
        tauto
      rw [joining] at found
      split_ifs at found with matches_ sameNode isLess
      · cases found
        refine ⟨by simp, fun other member => ?_⟩
        have isLink : ({ known with tree := link.tree } : Link) = link := by
          rw [sameNode]
        rw [isLink] at member
        simp only [List.mem_append, List.mem_reverse, List.mem_cons] at member ⊢
        tauto
      · cases found
        refine ⟨by simp, fun other member => ?_⟩
        simp only [List.mem_append, List.mem_reverse, List.mem_cons] at member ⊢
        tauto
      · dsimp only at found
        split_ifs at found
        exact later found
      · exact later found

theorem joining_descend {link : Link} {before links : List Link} {target : Nat}
    (found : joining stack link before links = .descend target) :
    (∃ known ∈ links, known.node = target) ∧
      (stack.node target).position.bytes = (stack.node link.node).position.bytes := by
  induction links generalizing before with
  | nil => cases found
  | cons known rest inductionHypothesis =>
      have later : joining stack link (known :: before) rest = .descend target →
          (∃ other ∈ known :: rest, other.node = target) ∧
            (stack.node target).position.bytes = (stack.node link.node).position.bytes := by
        intro found
        obtain ⟨⟨other, member, isTarget⟩, sameBytes⟩ := inductionHypothesis found
        exact ⟨⟨other, List.mem_cons_of_mem known member, isTarget⟩, sameBytes⟩
      rw [joining] at found
      split_ifs at found
      · dsimp only at found
        split_ifs at found with isAlike
        · cases found
          simp only [Bool.and_eq_true, decide_eq_true_eq] at isAlike
          exact ⟨⟨known, List.mem_cons_self, rfl⟩, isAlike.1.2⟩
        · exact later found
      · exact later found

theorem node_eq {index : Nat} {node : StackNode} (found : stack.nodes[index]? = some node) :
    stack.node index = node := by
  rw [Stack.node, Array.getD_eq_getD_getElem?, found, Option.getD_some]

theorem joined_foldl {add : Stack → Link → Stack} {target : Nat}
    (step : ∀ (stack : Stack) (link : Link), stack.Sound source → target < stack.nodes.size →
      link.Sound source stack.nodes (placeAt stack.nodes target) →
      Joined source stack (add stack link))
    (sound : stack.Sound source) (inBounds : target < stack.nodes.size) (links : List Link)
    (linksSound : ∀ link ∈ links, link.Sound source stack.nodes (placeAt stack.nodes target)) :
    Joined source stack (links.foldl add stack) := by
  induction links generalizing stack with
  | nil => exact .refl sound
  | cons link rest inductionHypothesis =>
      have first := step stack link sound inBounds (linksSound link List.mem_cons_self)
      refine first.trans (inductionHypothesis first.sound ?_ fun other member => ?_)
      · exact Nat.lt_of_lt_of_le inBounds first.extends_.size_le
      · rw [first.extends_.placeAt_eq target inBounds]
        exact first.extends_.link (linksSound other (List.mem_cons_of_mem link member))

/-- A link is added to the node at whose place it ends. -/
theorem joined_addLink (fuel : Nat) {index : Nat} {link : Link} (sound : stack.Sound source)
    (inBounds : index < stack.nodes.size)
    (linkSound : link.Sound source stack.nodes (placeAt stack.nodes index)) :
    Joined source stack (addLink fuel stack index link) := by
  induction fuel generalizing stack index link with
  | zero => exact .refl sound
  | succ fuel inductionHypothesis =>
      have atIndex : ∀ node, stack.nodes[index]? = some node → stack.node index = node := by
        intro node found
        rw [Stack.node, Array.getD_eq_getD_getElem?, found, Option.getD_some]
      rw [addLink]
      split
      next => exact .refl sound
      next =>
        dsimp only
        split
        next links changed isReplace =>
          obtain ⟨nonempty, members⟩ := joining_replace isReplace
          refine joined_modifyNode sound (fun _ => rfl) fun node found => ?_
          rw [placeAt, ← Stack.node, node_eq found] at linkSound
          have nodeSound := sound.nodes node (Array.mem_of_getElem? found)
          refine ⟨nodeSound.isPlace, fun other member => ?_, fun isEmpty => absurd isEmpty nonempty⟩
          rcases members other member with isBefore | isLink | rfl
          · cases isBefore
          · exact nodeSound.links other (node_eq found ▸ isLink)
          · exact linkSound
        next target isDescend =>
          obtain ⟨⟨known, member, rfl⟩, sameBytes⟩ := joining_descend isDescend
          have behindSound := sound.node link.node
          have samePlace : placeAt stack.nodes known.node = (stack.node link.node).position :=
            (sound.node known.node).isPlace.eq_of_bytes behindSound.isPlace sameBytes
          have inBoundsKnown := ((sound.node index).links known member).inBounds
          have joined := joined_foldl (fun stack inner sound inBounds => inductionHypothesis sound inBounds)
            sound inBoundsKnown (stack.node link.node).links fun inner isInner =>
              samePlace ▸ behindSound.links inner isInner
          refine joined.trans (joined_modifyNode joined.sound (fun _ => rfl) fun node found => ?_)
          have nodeSound := joined.sound.nodes node (Array.mem_of_getElem? found)
          exact ⟨nodeSound.isPlace, nodeSound.links, nodeSound.ends⟩
        next =>
          split_ifs
          · exact .refl sound
          · refine joined_modifyNode sound (fun _ => rfl) fun node found => ?_
            rw [placeAt, ← Stack.node, node_eq found] at linkSound
            have nodeSound := sound.nodes node (Array.mem_of_getElem? found)
            refine ⟨nodeSound.isPlace, fun other member => ?_, by simp⟩
            rcases List.mem_append.mp member with isOld | isLink
            · exact nodeSound.links other isOld
            · rw [List.mem_singleton.mp isLink]
              exact linkSound

/-- Joining a version into another one removes it, and no other one moves. -/
theorem sound_merge? {left right : Nat} (sound : stack.Sound source)
    (merged : stack.merge? left right = some changed) :
    changed.Sound source ∧
      (∀ other, changed.place? other = (stack.remove right).place? other) ∧
      changed.versionCount = (stack.remove right).versionCount := by
  unfold merge? at merged
  split_ifs at merged with fits
  cases merged
  have samePlace : placeAt stack.nodes (stack.head left).node = (stack.top right).position := by
    simp only [canMerge, Bool.and_eq_true, decide_eq_true_eq] at fits
    exact (sound.isPlace left).eq_of_bytes (sound.isPlace right) fits.1.1.2
  have joined := joined_foldl
    (fun stack _ sound inBounds => joined_addLink (stack.nodes.size + 1) sound inBounds)
    sound (sound.head left).inBounds (stack.top right).links fun link member =>
      samePlace ▸ (sound.node (stack.head right).node).links link member
  generalize (List.foldl _ stack _) = joinedStack at joined ⊢
  have rests : ∀ after : Stack,
      (after.Sound source ∧ ∀ other, after.place? other = joinedStack.place? other) →
      after.versionCount = joinedStack.versionCount →
      (after.remove right).Sound source ∧
        (∀ other, (after.remove right).place? other = (stack.remove right).place? other) ∧
        (after.remove right).versionCount = (stack.remove right).versionCount := by
    rintro after ⟨afterSound, same⟩ sameCount
    refine ⟨sound_remove afterSound, fun other => ?_, ?_⟩
    · simp only [place?_remove, same, joined.place? sound]
    · rw [versionCount, versionCount, joined.heads] at sameCount
      simp only [versionCount, remove, Array.eraseIdxIfInBounds, sameCount]
      split_ifs <;> simp [sameCount]
  split_ifs
  · exact rests _ (rests_modifyHead joined.sound (fun _ => rfl) fun _ => rfl)
      versionCount_modifyHead
  · exact rests _ ⟨joined.sound, fun _ => rfl⟩ rfl

end Join

end Stack

end FunctionAtlas.Parse
