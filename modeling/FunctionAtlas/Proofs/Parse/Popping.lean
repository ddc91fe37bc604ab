import FunctionAtlas.Proofs.Parse.StackPlaces

/-!
Contract: the trees that are popped from the parse stack cover the text up to where they are
popped.

A walk back follows links from node to node. The trees passed so far cover the text between the
node that was reached and the top, and a version is made at each node where a path ends. So
popping adds versions after all others, in the order of the slices, and moves none.

Owns: walks along all paths, and what each way of popping gives.
-/

namespace FunctionAtlas.Parse.Stack

open FunctionAtlas.Parse.Subtree
open FunctionAtlas.Text

/-! ## Paths -/

/-- The trees that a path has passed cover the text between its node and where it began. -/
structure Path.Sound (source : Array Char) (nodes : Array StackNode) (stop : Extent)
    (path : Path) : Prop where
  inBounds : path.node < nodes.size
  row : Row source (placeAt nodes path.node) stop path.trees

theorem trees_follow (path : Path) (link : Link) :
    (path.follow link).trees = link.tree.toList ++ path.trees := by
  unfold Path.follow
  split <;> rename_i isTree <;> rw [isTree] <;> rfl

theorem node_follow (path : Path) (link : Link) : (path.follow link).node = link.node := by
  unfold Path.follow
  split <;> rfl

section Walks

variable {source : Array Char} {stack : Stack}

theorem Path.Sound.follow {nodes : Array StackNode} {stop : Extent} {path : Path} {link : Link}
    (pathSound : path.Sound source nodes stop)
    (linkSound : link.Sound source nodes (placeAt nodes path.node)) :
    (path.follow link).Sound source nodes stop where
  inBounds := by
    rw [node_follow]
    exact linkSound.inBounds
  row := by
    rw [node_follow, trees_follow]
    exact row_append.mpr ⟨_, linkSound.row, pathSound.row⟩

/-! ## Slices -/

/-- What a walk has taken: a version, after those that were there, for each node where a path
ended, and slices in the order of their versions. -/
structure Popped (stack : Stack) (taken : Path → Prop) (slices : List Slice) (popped : Stack) :
    Prop where
  nodes : popped.nodes = stack.nodes
  count_le : stack.versionCount ≤ popped.versionCount
  kept : ∀ version < stack.versionCount, popped.heads[version]? = stack.heads[version]?
  fresh : ∀ version head, stack.versionCount ≤ version → popped.heads[version]? = some head →
    head.status = .active ∧ ∃ slice ∈ slices, slice.version = version
  ordered : slices.Pairwise fun left right => left.version ≤ right.version
  ends : ∀ slice ∈ slices, stack.versionCount ≤ slice.version ∧
    ∃ path head, taken path ∧ path.trees = slice.trees ∧
      popped.heads[slice.version]? = some head ∧ head.node = path.node

theorem Popped.refl (taken : Path → Prop) : Popped stack taken [] stack where
  nodes := rfl
  count_le := Nat.le_refl _
  kept := fun _ _ => rfl
  fresh := fun version head after found =>
    absurd (Array.getElem?_eq_some_iff.mp found).1 (Nat.not_lt.mpr after)
  ordered := .nil
  ends := by simp

theorem insertSlice_eq_some {node : Nat} {trees : List Subtree} {slices inserted : List Slice}
    (found : insertSlice stack node trees slices = some inserted) :
    ∃ before slice after, slices = before ++ slice :: after ∧
      inserted = before ++ slice :: ⟨trees, slice.version⟩ :: after ∧
      (stack.head slice.version).node = node := by
  induction slices generalizing inserted with
  | nil => cases found
  | cons first rest inductionHypothesis =>
      rw [insertSlice] at found
      split at found
      next later isLater =>
        cases found
        obtain ⟨before, slice, after, rfl, rfl, isNode⟩ := inductionHypothesis isLater
        exact ⟨first :: before, slice, after, rfl, rfl, isNode⟩
      next =>
        split_ifs at found with isNode
        cases found
        exact ⟨[], first, rest, rfl, rfl, isNode⟩

section Slices

variable {taken : Path → Prop} {slices : List Slice} {popped : Stack} {path : Path}

/-- A path that ends where another one ended shares its version. -/
theorem Popped.sharedVersion (isPopped : Popped stack taken slices popped) (isTaken : taken path)
    {inserted : List Slice}
    (found : insertSlice popped path.node path.trees slices = some inserted) :
    Popped stack taken inserted popped := by
  obtain ⟨before, slice, after, rfl, rfl, isNode⟩ := insertSlice_eq_some found
  have isSlice : slice ∈ before ++ slice :: after := by simp
  refine { isPopped with fresh := ?_, ordered := ?_, ends := ?_ }
  · intro version head isFresh found
    obtain ⟨isActive, other, member, isVersion⟩ := isPopped.fresh version head isFresh found
    refine ⟨isActive, other, ?_, isVersion⟩
    simp only [List.mem_append, List.mem_cons] at member ⊢
    tauto
  · have ordered := isPopped.ordered
    simp only [List.pairwise_append, List.pairwise_cons, List.mem_cons] at ordered ⊢
    obtain ⟨first, ⟨second, third⟩, between⟩ := ordered
    refine ⟨first, ⟨?_, second, third⟩, ?_⟩
    · rintro other (rfl | member)
      · exact Nat.le_refl _
      · exact second other member
    · rintro left isLeft right (rfl | rfl | member)
      · exact between left isLeft right (.inl rfl)
      · exact between left isLeft slice (.inl rfl)
      · exact between left isLeft right (.inr member)
  · intro other member
    simp only [List.mem_append, List.mem_cons] at member
    rcases member with isOld | rfl | rfl | isOld
    · exact isPopped.ends other (by simp [isOld])
    · exact isPopped.ends other isSlice
    · obtain ⟨isFresh, -, head, -, -, found, -⟩ := isPopped.ends slice isSlice
      exact ⟨isFresh, path, head, isTaken, rfl, found, by rw [← isNode, head_eq found]⟩
    · exact isPopped.ends other (by simp [isOld])

/-- A version is made where a path ends. -/
theorem Popped.ownVersion (isPopped : Popped stack taken slices popped) (isTaken : taken path)
    {made : Head} (isActive : made.status = .active) (isNode : made.node = path.node) :
    Popped stack taken (slices ++ [⟨path.trees, popped.versionCount⟩])
      { popped with heads := popped.heads.push made } where
  nodes := isPopped.nodes
  count_le := Nat.le_trans isPopped.count_le (by simp [versionCount])
  kept := fun version inBounds => by
    have isOld : version ≠ popped.heads.size :=
      Nat.ne_of_lt (Nat.lt_of_lt_of_le inBounds isPopped.count_le)
    rw [Array.getElem?_push, if_neg isOld]
    exact isPopped.kept version inBounds
  fresh := fun version head isFresh found => by
    rw [Array.getElem?_push] at found
    split_ifs at found with isMade
    · cases found
      exact ⟨isActive, ⟨path.trees, popped.versionCount⟩, by simp, isMade.symm⟩
    · obtain ⟨isActive, slice, member, isVersion⟩ := isPopped.fresh version head isFresh found
      exact ⟨isActive, slice, List.mem_append_left _ member, isVersion⟩
  ordered := by
    refine List.pairwise_append.mpr ⟨isPopped.ordered, List.pairwise_singleton _ _, ?_⟩
    rintro slice member last isLast
    obtain ⟨-, -, head, -, -, found, -⟩ := isPopped.ends slice member
    rw [List.mem_singleton.mp isLast]
    exact Nat.le_of_lt (Array.getElem?_eq_some_iff.mp found).1
  ends := fun slice member => by
    rcases List.mem_append.mp member with isOld | isLast
    · obtain ⟨isFresh, path, head, isTaken, sameTrees, found, isNode⟩ := isPopped.ends slice isOld
      refine ⟨isFresh, path, head, isTaken, sameTrees, ?_, isNode⟩
      rw [Array.getElem?_push, if_neg (Nat.ne_of_lt (Array.getElem?_eq_some_iff.mp found).1)]
      exact found
    · rw [List.mem_singleton.mp isLast]
      exact ⟨isPopped.count_le, path, made, isTaken, rfl, Array.getElem?_push_size, isNode⟩

theorem Popped.addSlice (isPopped : Popped stack taken slices popped) (version : Nat)
    (isTaken : taken path) :
    Popped stack taken (addSlice version popped slices path).2
      (addSlice version popped slices path).1 := by
  unfold Stack.addSlice
  split
  next inserted found => exact isPopped.sharedVersion isTaken found
  next => exact isPopped.ownVersion isTaken rfl rfl

end Slices

/-! ## Walking back -/

section Visits

variable {μ : Type} {visitor : μ → Stack → Path → Verdict × μ} {going taken : Path → Prop}

theorem mem_branch {path : Path} {links : List Link} {size : Nat} {branched : List Path}
    {other : Path} (member : other ∈ (branch path links size branched).1) :
    other ∈ branched ∨ ∃ link ∈ links, other = path.follow link := by
  induction links generalizing size branched with
  | nil => exact .inl member
  | cons link rest inductionHypothesis =>
      rw [branch] at member
      split_ifs at member
      · rcases inductionHypothesis member with isOld | ⟨later, isLater, rfl⟩
        · exact .inl isOld
        · exact .inr ⟨later, List.mem_cons_of_mem link isLater, rfl⟩
      · rcases inductionHypothesis member with isOld | ⟨later, isLater, rfl⟩
        · rcases List.mem_cons.mp isOld with rfl | isOld
          · exact .inr ⟨link, List.mem_cons_self, rfl⟩
          · exact .inl isOld
        · exact .inr ⟨later, List.mem_cons_of_mem link isLater, rfl⟩

/-- A visitor that takes and follows only paths of the given kinds. -/
structure Guides (stack : Stack) (visitor : μ → Stack → Path → Verdict × μ)
    (going taken : Path → Prop) : Prop where
  takes : ∀ memory walked path, walked.nodes = stack.nodes → going path →
    (visitor memory walked path).1.takes = true → taken path
  follows : ∀ memory walked path, going path → (visitor memory walked path).1.stops = false →
    ∀ link ∈ (stack.node path.node).links, going (path.follow link)

/-- What holds during a walk. -/
structure Walk.Sound (stack : Stack) (going taken : Path → Prop) (walk : Walk μ) : Prop where
  popped : Popped stack taken walk.slices walk.stack
  advanced : ∀ path ∈ walk.advanced, going path
  branched : ∀ path ∈ walk.branched, going path

theorem Walk.Sound.visit (guides : Guides stack visitor going taken) {walk : Walk μ}
    (walkSound : walk.Sound stack going taken) (version : Nat) {path : Path} (isGoing : going path) :
    (walk.visit version visitor path).Sound stack going taken := by
  have sameNode : walk.stack.node path.node = stack.node path.node := by
    rw [Stack.node, Stack.node, walkSound.popped.nodes]
  unfold Walk.visit
  generalize isVisited : visitor walk.memory walk.stack path = visited
  have taken_ : Popped stack taken
      (if visited.1.takes then addSlice version walk.stack walk.slices path
        else (walk.stack, walk.slices)).2
      (if visited.1.takes then addSlice version walk.stack walk.slices path
        else (walk.stack, walk.slices)).1 := by
    split_ifs with takes
    · exact walkSound.popped.addSlice version
        (guides.takes _ _ _ walkSound.popped.nodes isGoing (isVisited ▸ takes))
    · exact walkSound.popped
  dsimp only
  generalize (if visited.1.takes = true then addSlice version walk.stack walk.slices path
    else (walk.stack, walk.slices)) = made at taken_ ⊢
  split
  next => exact ⟨taken_, walkSound.advanced, walkSound.branched⟩
  next first others isLinks =>
    rw [sameNode] at isLinks
    split_ifs with stops
    · exact ⟨taken_, walkSound.advanced, walkSound.branched⟩
    · have follows := guides.follows walk.memory walk.stack path isGoing
        (by rw [isVisited]; exact Bool.eq_false_iff.mpr stops)
      rw [isLinks] at follows
      refine ⟨taken_, ?_, ?_⟩
      · intro other member
        rcases List.mem_cons.mp member with rfl | isOld
        · exact follows first List.mem_cons_self
        · exact walkSound.advanced other isOld
      · intro other member
        rcases mem_branch member with isOld | ⟨link, isLink, rfl⟩
        · exact walkSound.branched other isOld
        · exact follows link (List.mem_cons_of_mem first isLink)

theorem Walk.Sound.visitAll (guides : Guides stack visitor going taken) (version : Nat)
    {paths : List Path} {walk : Walk μ} (walkSound : walk.Sound stack going taken)
    (areGoing : ∀ path ∈ paths, going path) :
    (paths.foldl (Walk.visit version visitor) walk).Sound stack going taken := by
  induction paths generalizing walk with
  | nil => exact walkSound
  | cons path rest inductionHypothesis =>
      refine inductionHypothesis ?_ fun other member =>
        areGoing other (List.mem_cons_of_mem path member)
      exact walkSound.visit guides version (areGoing path List.mem_cons_self)

theorem popped_walkPaths (guides : Guides stack visitor going taken) (version fuel : Nat)
    {paths : List Path} {walk : Walk μ} (walkSound : walk.Sound stack going taken)
    (areGoing : ∀ path ∈ paths, going path) :
    Popped stack taken (walkPaths version visitor fuel walk paths).slices
      (walkPaths version visitor fuel walk paths).stack := by
  induction fuel generalizing walk paths with
  | zero => exact walkSound.popped
  | succ fuel inductionHypothesis =>
      cases paths with
      | nil => exact walkSound.popped
      | cons path rest =>
        have begins : Walk.Sound stack going taken { walk with advanced := [], branched := [] } :=
          ⟨walkSound.popped, by simp, by simp⟩
        have walked := begins.visitAll guides version areGoing
        refine inductionHypothesis walked fun path member => ?_
        simp only [List.mem_append, List.mem_reverse] at member
        exact member.elim (walked.advanced path) (walked.branched path)

/-- What a walk back takes. -/
theorem popped_walkBack (guides : Guides stack visitor going taken) (version : Nat) (memory : μ)
    (begins : going ⟨(stack.head version).node, [], 0⟩) :
    Popped stack taken (stack.walkBack version memory visitor).slices
      (stack.walkBack version memory visitor).stack :=
  popped_walkPaths guides version _ ⟨.refl taken, by simp, by simp⟩ (by simpa using begins)

end Visits

/-! ## Ways of popping -/

section Pops

variable {taken : Path → Prop} {slices : List Slice} {popped : Stack} {stop : Extent}

theorem Popped.sound (isPopped : Popped stack taken slices popped) (sound : stack.Sound source)
    (inBounds : ∀ path, taken path → path.node < stack.nodes.size) : popped.Sound source where
  nonempty := isPopped.nodes ▸ sound.nonempty
  nodes := by
    rw [isPopped.nodes]
    exact sound.nodes
  heads := by
    intro head member
    rw [isPopped.nodes]
    obtain ⟨version, found⟩ := Array.mem_iff_getElem?.mp member
    by_cases isOld : version < stack.versionCount
    · rw [isPopped.kept version isOld] at found
      exact sound.heads head (Array.mem_of_getElem? found)
    · obtain ⟨isActive, slice, isSlice, rfl⟩ :=
        isPopped.fresh version head (Nat.not_lt.mp isOld) found
      obtain ⟨-, path, other, isTaken, -, foundOther, isNode⟩ := isPopped.ends slice isSlice
      rw [foundOther] at found
      cases found
      refine ⟨isNode ▸ inBounds path isTaken, ?_⟩
      rw [isActive]
      simp

theorem Popped.keeps (isPopped : Popped stack taken slices popped) :
    Keeps stack.versionCount stack popped := by
  intro version inBounds place stands
  rw [place?, isPopped.kept version inBounds, isPopped.nodes]
  exact stands

/-- The trees of a slice cover the text from where its version stands. -/
theorem Popped.slice (isPopped : Popped stack taken slices popped)
    (takenSound : ∀ path, taken path → path.Sound source stack.nodes stop) {slice : Slice}
    (member : slice ∈ slices) :
    ∃ origin, popped.place? slice.version = some origin ∧
      Row source origin stop slice.trees := by
  obtain ⟨isFresh, path, head, isTaken, sameTrees, found, isNode⟩ := isPopped.ends slice member
  refine ⟨placeAt stack.nodes path.node, ?_, sameTrees ▸ (takenSound path isTaken).row⟩
  rw [place?, found, Option.bind_some, headPlace?, (isPopped.fresh _ head isFresh found).1,
    isPopped.nodes, isNode]

/-- A path that has not passed a tree. -/
theorem sound_emptyPath (sound : stack.Sound source) (version count : Nat) :
    Path.Sound source stack.nodes (stack.position version)
      ⟨(stack.head version).node, [], count⟩ :=
  ⟨(sound.head version).inBounds, row_nil source _⟩

theorem popped_popCount (sound : stack.Sound source) (version count : Nat) :
    Popped stack (Path.Sound source stack.nodes (stack.position version))
      (stack.popCount version count).1 (stack.popCount version count).2 := by
  refine popped_walkBack ⟨fun _ _ _ _ isGoing _ => isGoing, ?_⟩ version ()
    (sound_emptyPath sound version 0)
  intro _ _ path isGoing _ link member
  exact isGoing.follow ((sound.node path.node).links link member)

/-- Popping everything goes back to the beginning of the text. -/
theorem popped_popAll (sound : stack.Sound source) (version : Nat) :
    Popped stack (fun path => path.Sound source stack.nodes (stack.position version) ∧
      placeAt stack.nodes path.node = .zero)
      (stack.popAll version).1 (stack.popAll version).2 := by
  refine popped_walkBack ⟨?_, ?_⟩ version () (sound_emptyPath sound version 0)
  · intro _ walked path sameNodes isGoing takes
    refine ⟨isGoing, (sound.node path.node).ends ?_⟩
    rw [Stack.node, sameNodes] at takes
    exact List.isEmpty_iff.mp takes
  · intro _ _ path isGoing _ link member
    exact isGoing.follow ((sound.node path.node).links link member)

theorem popped_error (sound : stack.Sound source) (version : Nat) :
    let walked := stack.walkBack version false fun found _ path =>
      match path.trees with
      | [] => (⟨false, false⟩, found)
      | tree :: _ => if !found && tree.isError then (⟨true, true⟩, true) else (⟨false, true⟩, found)
    Popped stack (fun path => path.Sound source stack.nodes (stack.position version) ∧
      ∃ tree, path.trees = [tree] ∧ tree.isError = true) walked.slices walked.stack := by
  refine @popped_walkBack stack Bool _
    (fun path => path.Sound source stack.nodes (stack.position version) ∧ path.trees.length ≤ 1) _
    ⟨?_, ?_⟩ version false ⟨sound_emptyPath sound version 0, Nat.zero_le 1⟩
  · rintro found walked path - ⟨isSound, isShort⟩ takes
    refine ⟨isSound, ?_⟩
    split at takes
    next => cases takes
    next tree rest isTrees =>
      rw [isTrees] at isShort
      split_ifs at takes with isError
      have isAlone : rest = [] := List.eq_nil_of_length_eq_zero (by simpa using isShort)
      exact ⟨tree, isAlone ▸ isTrees, (Bool.and_eq_true_iff.mp isError).2⟩
  · rintro found walked path ⟨isSound, isShort⟩ goesOn link member
    refine ⟨isSound.follow ((sound.node path.node).links link member), ?_⟩
    split at goesOn
    next isEmpty =>
      rw [trees_follow, isEmpty, List.append_nil]
      cases link.tree <;> simp
    next => split_ifs at goesOn

/-- A version goes back over a node of wrong text, if there is one, and the parts of that node
cover what it went back over. -/
theorem popError_spec (sound : stack.Sound source) {version : Nat} {place : Extent}
    (stands : stack.place? version = some place) :
    (stack.popError version).2.Sound source ∧
      (∀ other ≠ version, ∀ otherPlace, stack.place? other = some otherPlace →
        (stack.popError version).2.place? other = some otherPlace) ∧
      ∃ origin, (stack.popError version).2.place? version = some origin ∧
        Row source origin place ((stack.popError version).1.elim [] Subtree.children) := by
  have isPopped := popped_error sound version
  unfold popError
  dsimp only at isPopped ⊢
  generalize stack.walkBack version false _ = walked at isPopped ⊢
  have walkedSound := isPopped.sound sound fun path isTaken => isTaken.1.inBounds
  split_ifs
  · split
    next slice others isSlices =>
      have isSlice : slice ∈ walked.slices := isSlices ▸ List.mem_cons_self
      obtain ⟨isFresh, path, -, ⟨-, tree, isOne, isError⟩, sameTrees, -, -⟩ :=
        isPopped.ends slice isSlice
      obtain ⟨origin, standsSlice, row⟩ := isPopped.slice (fun path isTaken => isTaken.1) isSlice
      rw [← sameTrees, isOne, (position_of_place? stands).1] at row
      rw [← sameTrees, isOne]
      have isEarlier : version < slice.version := Nat.lt_of_lt_of_le (lt_of_place? stands) isFresh
      have renumbered := fun other before =>
        @place?_renumber walked.stack slice.version version other isEarlier
          (lt_of_place? standsSlice) before
      refine ⟨sound_renumber walkedSound _ _, ?_, origin, ?_, row.parts isError⟩
      · intro other isOther otherPlace standsOther
        have inBounds := lt_of_place? standsOther
        rw [renumbered other (Nat.lt_of_lt_of_le inBounds isFresh), if_neg isOther]
        exact isPopped.keeps other inBounds otherPlace standsOther
      · rw [renumbered version isEarlier, if_pos rfl]
        exact standsSlice
    next =>
      refine ⟨walkedSound, ?_, place, isPopped.keeps _ (lt_of_place? stands) _ stands,
        row_nil source place⟩
      exact fun other _ otherPlace standsOther =>
        isPopped.keeps other (lt_of_place? standsOther) otherPlace standsOther
  · exact ⟨sound, fun _ _ _ standsOther => standsOther, place, stands, row_nil source place⟩

end Pops

end Walks

end FunctionAtlas.Parse.Stack
