import FunctionAtlas.Proofs.Discovery.Visit
import FunctionAtlas.Proofs.Text.ByteOrder
import Mathlib

/-!
Contract: which files a visit finds, and in which order.

A visit that succeeds finds the files that can be reached from the top folder by names, links being
followed, if they are selected and every folder on the way is one to enter. It finds them in the
order of their components, so none is found twice. Rules that enter fewer folders and select fewer
files find a part of what was found before, in the same order.

Owns: what is reached by names, and what a visit finds of it.
-/

namespace FunctionAtlas.Discovery

open FunctionAtlas.Settings
open FunctionAtlas.Storage
open FunctionAtlas.Text

/-! ## What names lead to -/

/-- What an entry is when links are followed; nothing if it leads nowhere. -/
def sightAt (disk : Disk) (root : String) (names : Names) (location : Location) : Option Sight :=
  match disk.entryAt location with
  | none => none
  | some (.file _) => some .file
  | some .folder => some (.folder location)
  | some (.link _) =>
      match disk.canonical (pathBelow root names) with
      | .error _ => none
      | .ok target => some (if disk.isFolderAt target then .folder target else .file)

/-- What is reached from the top folder name by name. -/
inductive Reaches (disk : Disk) (root : String) (top : Location) : Names → Sight → Prop where
  | top : Reaches disk root top [] (.folder top)
  | inner {names : Names} {location : Location} {name : String} {sight : Sight}
      (outer : Reaches disk root top names (.folder location))
      (seen : sightAt disk root (names ++ [name]) (location ++ [name]) = some sight) :
      Reaches disk root top (names ++ [name]) sight

section Reached

variable {disk : Disk} {rules : Rules} {root : String} {top : Location}

theorem sightAt_of_look {ancestors : List Ancestor} {names : Names} {location : Location}
    {sight : Sight} (seen : look disk root ancestors names location = .ok sight) :
    sightAt disk root names location = some sight := by
  cases look_eq_ok_iff.mp seen with
  | file held => rw [sightAt, held]
  | folder held => rw [sightAt, held]
  | linkToFile held leads isFile => simp [sightAt, held, leads, isFile]
  | linkToFolder held leads isFolder isFresh => simp [sightAt, held, leads, isFolder]

theorem mem_namesIn_of_sightAt {names : Names} {folder : Location} {name : String} {sight : Sight}
    (seen : sightAt disk root names (folder ++ [name]) = some sight) :
    name ∈ disk.namesIn folder := by
  unfold sightAt at seen
  cases entry : disk.entryAt (folder ++ [name]) with
  | none =>
      rw [entry] at seen
      cases seen
  | some held => exact Disk.mem_namesIn_iff.mpr ⟨held, Disk.mem_entries_of_entryAt (by simp) entry⟩

/-- A trail leads into folders that are reached, and enters each of them. -/
theorem Trail.reaches {names : Names} {location : Location} {above : List Ancestor}
    (trail : Trail disk rules root top (⟨names, location⟩ :: above)) :
    Reaches disk root top names (.folder location) ∧
      ∀ outer, outer ≠ [] → outer <+: names → rules.enters root outer = true := by
  generalize isTrail : (⟨names, location⟩ :: above : List Ancestor) = whole at trail
  induction trail generalizing names location above with
  | top =>
      cases isTrail
      exact ⟨.top, fun outer isInner isPrefix => absurd (List.prefix_nil.mp isPrefix) isInner⟩
  | inner outer member seen entered inductionHypothesis =>
      cases isTrail
      obtain ⟨reached, allEntered⟩ := inductionHypothesis rfl
      refine ⟨reached.inner (sightAt_of_look seen), fun outer isInner isPrefix => ?_⟩
      rcases List.prefix_concat_iff.mp isPrefix with rfl | isOuter
      · exact entered
      · exact allEntered outer isInner isOuter

/-- In a visit that succeeds, a trail leads into every folder that is reached through folders to
enter. -/
theorem Reaches.exists_trail (isFolder : disk.isFolderAt top = true)
    {all : List Names} (visited : filesIn disk rules root (depthBound disk) [] [] top = .ok all)
    {names : Names} {location : Location}
    (reached : Reaches disk root top names (.folder location))
    (allEntered : ∀ outer, outer ≠ [] → outer <+: names → rules.enters root outer = true) :
    ∃ above, Trail disk rules root top (⟨names, location⟩ :: above) := by
  generalize isSight : Sight.folder location = sight at reached
  induction reached generalizing location with
  | top =>
      cases isSight
      exact ⟨[], .top⟩
  | @inner names outerLocation name sight outer seen inductionHypothesis =>
      subst isSight
      obtain ⟨above, trail⟩ := inductionHypothesis
        (fun inner isInner isPrefix => allEntered inner isInner
          (isPrefix.trans (List.prefix_append _ _))) rfl
      have member := mem_namesIn_of_sightAt seen
      obtain ⟨sight, looked⟩ := (exists_visit_eq_ok_iff isFolder).mp ⟨all, visited⟩ _ _ trail name
        member
      rw [sightAt_of_look looked] at seen
      cases seen
      exact ⟨_, trail.inner member looked (allEntered _ (by simp) (List.prefix_refl _))⟩

end Reached

/-! ## What is found -/

section Found

variable {disk : Disk} {rules : Rules} {root : String} {top : Location}

/-- What a visit finds is a file in a folder that a trail leads into. -/
theorem exists_trail_of_mem_filesIn {fuel : Nat} {names : Names} {location : Location}
    {above : List Ancestor} (trail : Trail disk rules root top (⟨names, location⟩ :: above))
    {found : List Names}
    (visited : filesIn disk rules root fuel above names location = .ok found)
    {way : Names} (isFound : way ∈ found) :
    ∃ outer location above name, way = outer ++ [name] ∧
      Trail disk rules root top (⟨outer, location⟩ :: above) ∧
      sightAt disk root way (location ++ [name]) = some .file ∧ rules.selects root way = true := by
  induction fuel using Nat.strongRecOn generalizing names location above found with
  | ind fuel inductionHypothesis =>
      obtain ⟨less, name, part, isLess, member, isPart, contributes⟩ :=
        exists_filesAt_of_mem_filesIn visited isFound
      obtain ⟨looked, rfl⟩ | ⟨target, looked, entered, inner⟩ | ⟨-, -, -, rfl⟩ :=
        filesAt_cases contributes
      · split_ifs at isPart with selected
        · rw [List.mem_singleton.mp isPart]
          exact ⟨names, location, above, name, rfl, trail, sightAt_of_look looked, selected⟩
        · cases isPart
      · exact inductionHypothesis less isLess (trail.inner member looked entered) inner isPart
      · cases isPart

/-- A visit that succeeds finds the selected files that are reached through folders to enter. -/
theorem mem_visit_iff (isFolder : disk.isFolderAt top = true) {all : List Names}
    (visited : filesIn disk rules root (depthBound disk) [] [] top = .ok all) {way : Names} :
    way ∈ all ↔ Reaches disk root top way .file ∧ rules.selects root way = true ∧
      ∀ outer, outer ≠ [] → outer <+: way → outer ≠ way → rules.enters root outer = true := by
  constructor
  · intro isFound
    obtain ⟨outer, location, above, name, rfl, trail, seen, selected⟩ :=
      exists_trail_of_mem_filesIn .top visited isFound
    obtain ⟨reached, allEntered⟩ := trail.reaches
    refine ⟨reached.inner seen, selected, fun inner isInner isPrefix isProper => ?_⟩
    exact allEntered inner isInner ((List.prefix_concat_iff.mp isPrefix).resolve_left isProper)
  · rintro ⟨reached, selected, allEntered⟩
    generalize isSight : Sight.file = sight at reached
    cases reached with
    | top => cases isSight
    | @inner names location name sight outer seen =>
        subst isSight
        obtain ⟨above, trail⟩ := outer.exists_trail isFolder visited
          fun inner isInner isPrefix => by
            refine allEntered inner isInner (isPrefix.trans (List.prefix_append _ _)) ?_
            rintro rfl
            simpa using isPrefix.length_le
        obtain ⟨fuel, found, -, headVisited, isFound⟩ := trail.exists_filesIn_eq_ok isFolder visited
        have member := mem_namesIn_of_sightAt seen
        obtain ⟨part, rfl, contributed⟩ := filesIn_succ_eq_ok_iff.mp headVisited
        obtain ⟨sight, looked⟩ := (exists_visit_eq_ok_iff isFolder).mp ⟨all, visited⟩ _ _ trail name
          member
        rw [sightAt_of_look looked] at seen
        cases seen
        have contributes := contributed name member
        rw [filesAt, looked] at contributes
        simp only [selected, if_true, Except.ok.injEq] at contributes
        refine isFound (List.mem_flatMap.mpr ⟨name, member, ?_⟩)
        rw [← contributes]
        exact List.mem_singleton_self _

/-- What an entry contributes lies at or below it. -/
theorem isPrefix_of_mem_filesAt {fuel : Nat} {ancestors : List Ancestor} {names : Names}
    {location : Location} {name : String} {part : List Names}
    (contributes : filesAt disk rules root fuel ancestors names location name = .ok part)
    {way : Names} (isPart : way ∈ part) : names ++ [name] <+: way := by
  induction fuel using Nat.strongRecOn generalizing ancestors names location name part with
  | ind fuel inductionHypothesis =>
      obtain ⟨-, rfl⟩ | ⟨target, -, -, inner⟩ | ⟨-, -, -, rfl⟩ := filesAt_cases contributes
      · split_ifs at isPart
        · obtain rfl := List.mem_singleton.mp isPart
          exact List.prefix_refl _
        · cases isPart
      · obtain ⟨less, innerName, innerPart, isLess, -, isInnerPart, innerContributes⟩ :=
          exists_filesAt_of_mem_filesIn inner isPart
        exact (List.prefix_append _ _).trans
          (inductionHypothesis less isLess innerContributes isInnerPart)
      · cases isPart

/-- Files are found in the order of the names on the way to them. -/
theorem pairwise_filesIn (wellFormed : disk.WellFormed) {fuel : Nat} {above : List Ancestor}
    {names : Names} {location : Location} {found : List Names}
    (visited : filesIn disk rules root fuel above names location = .ok found) :
    found.Pairwise (List.Lex ByteBefore) := by
  induction fuel generalizing above names location found with
  | zero =>
      rw [filesIn] at visited
      cases visited
      exact .nil
  | succ fuel inductionHypothesis =>
      obtain ⟨part, rfl, contributed⟩ := filesIn_succ_eq_ok_iff.mp visited
      refine List.pairwise_flatMap.mpr ⟨fun name member => ?_, ?_⟩
      · obtain ⟨-, isIf⟩ | ⟨target, -, -, inner⟩ | ⟨-, -, -, isEmpty⟩ :=
          filesAt_cases (contributed name member)
        · rw [isIf]
          split_ifs <;> simp
        · exact inductionHypothesis inner
        · rw [isEmpty]
          exact .nil
      · refine (wellFormed.pairwise_namesIn location).imp_of_mem ?_
        intro first second isFirst isSecond ordered left isLeft right isRight
        -- The two ways part at the names of the two entries.
        obtain ⟨leftRest, rfl⟩ := isPrefix_of_mem_filesAt (contributed first isFirst) isLeft
        obtain ⟨rightRest, rfl⟩ := isPrefix_of_mem_filesAt (contributed second isSecond) isRight
        rw [List.append_assoc, List.append_assoc]
        exact List.Lex.append_left _ (.rel (byteBefore_of_lt ordered)) _

theorem nodup_filesIn (wellFormed : disk.WellFormed) {fuel : Nat} {above : List Ancestor}
    {names : Names} {location : Location} {found : List Names}
    (visited : filesIn disk rules root fuel above names location = .ok found) : found.Nodup :=
  (pairwise_filesIn wellFormed visited).imp fun before => ne_of_irrefl before

/-- Rules that enter fewer folders and select fewer files find less, in the same order. -/
theorem exists_filesIn_sublist {stricter : Rules}
    (entersLess : ∀ names, stricter.enters root names = true → rules.enters root names = true)
    (selectsLess : ∀ names, stricter.selects root names = true → rules.selects root names = true)
    {fuel : Nat} {above : List Ancestor} {names : Names} {location : Location}
    {found : List Names}
    (visited : filesIn disk rules root fuel above names location = .ok found) :
    ∃ fewer, filesIn disk stricter root fuel above names location = .ok fewer ∧
      fewer.Sublist found := by
  induction fuel generalizing above names location found with
  | zero =>
      rw [filesIn] at visited ⊢
      exact ⟨[], rfl, List.nil_sublist _⟩
  | succ fuel inductionHypothesis =>
      obtain ⟨part, rfl, contributed⟩ := filesIn_succ_eq_ok_iff.mp visited
      have partly : ∀ name ∈ disk.namesIn location, ∃ less,
          filesAt disk stricter root fuel (⟨names, location⟩ :: above) names location name =
            .ok less ∧ less.Sublist (part name) := by
        intro name member
        obtain ⟨looked, isIf⟩ | ⟨target, looked, entered, inner⟩ | ⟨target, looked, entered, isEmpty⟩
          := filesAt_cases (contributed name member)
        · rw [filesAt, looked, isIf]
          refine ⟨_, rfl, ?_⟩
          split_ifs with isSelected wasSelected
          · exact List.Sublist.refl _
          · exact absurd (selectsLess _ isSelected) wasSelected
          · exact List.nil_sublist _
          · exact List.nil_sublist _
        · rw [filesAt, looked]
          dsimp only
          split_ifs
          · exact inductionHypothesis inner
          · exact ⟨[], rfl, List.nil_sublist _⟩
        · have isLeftOut : stricter.enters root (names ++ [name]) = false := by
            by_contra isEntered
            rw [entersLess _ (by simpa using isEntered)] at entered
            cases entered
          rw [filesAt, looked]
          exact ⟨[], by simp [isLeftOut], List.nil_sublist _⟩
      choose! less contributedLess isLess using partly
      refine ⟨_, filesIn_succ_eq_ok_iff.mpr ⟨less, rfl, contributedLess⟩, ?_⟩
      exact List.Sublist.flatMap_right _ isLess

end Found

/-! ## Paths -/

/-- The order of components by the bytes of their names. -/
def ComponentBefore : Component → Component → Prop
  | .named left, .named right => ByteBefore left right
  | _, _ => False

theorem ComponentBefore.ne {left right : Component} (before : ComponentBefore left right) :
    left ≠ right := by
  rintro rfl
  cases left with
  | named name =>
      have differs := List.Lex.imp (fun _ _ => UInt8.ne_of_lt) _ _ before
      exact List.Lex.to_ne differs rfl
  | _ => exact before

theorem lex_map_named {left right : Names} (before : List.Lex ByteBefore left right) :
    List.Lex ComponentBefore (left.map .named) (right.map .named) := by
  induction before with
  | nil => exact .nil
  | rel isBefore => exact .rel isBefore
  | cons _ inductionHypothesis => exact .cons inductionHypothesis

section Paths

variable {disk : Disk} {root : String} {top : Location}

/-- The components of a path below the root are those of the root and the names. -/
theorem components_pathBelow (nonempty : root ≠ "") {names : Names}
    (allNames : ∀ name ∈ names, IsName name) :
    (Path.ofText (pathBelow root names)).components =
      (Path.ofText root).components ++ names.map .named := by
  unfold pathBelow
  induction names generalizing root with
  | nil => simp
  | cons name rest inductionHypothesis =>
      obtain ⟨isName, restNames⟩ := List.forall_mem_cons.mp allNames
      rw [List.foldl_cons, inductionHypothesis (joinPath_ne_empty nonempty isName) restNames,
        components_joinPath nonempty isName, List.map_cons, List.append_assoc]
      rfl

theorem Reaches.isName (wellFormed : disk.WellFormed) {names : Names} {sight : Sight}
    (reached : Reaches disk root top names sight) : ∀ name ∈ names, IsName name := by
  induction reached with
  | top => simp
  | inner outer seen inductionHypothesis =>
      intro name member
      rcases List.mem_append.mp member with isOuter | isLast
      · exact inductionHypothesis name isOuter
      · rw [List.mem_singleton.mp isLast]
        exact wellFormed.isName (mem_namesIn_of_sightAt seen)

theorem ne_empty_of_canonical (leads : disk.canonical root = .ok top) : root ≠ "" := by
  rintro rfl
  simp [Disk.canonical, Disk.locate, Disk.resolve] at leads

end Paths

/-! ## Settings -/

/-- The patterns are those that the texts stand for. -/
theorem mem_readPatterns_iff {texts : List String} {patterns : List (List Glob.Token)}
    (compiles : readPatterns texts = .ok patterns) {pattern : List Glob.Token} :
    pattern ∈ patterns ↔ ∃ text ∈ texts, Glob.read text = .ok pattern := by
  induction texts generalizing patterns with
  | nil =>
      cases compiles
      simp
  | cons text texts inductionHypothesis =>
      rw [readPatterns] at compiles
      cases isRead : Glob.read text with
      | error fault =>
          rw [isRead] at compiles
          cases compiles
      | ok tokens =>
          rw [isRead] at compiles
          cases others : readPatterns texts with
          | error fault =>
              rw [others] at compiles
              cases compiles
          | ok rest =>
              rw [others] at compiles
              cases compiles
              rw [List.mem_cons, inductionHypothesis others]
              simp [isRead, eq_comm]

namespace Rules

variable {rules : Rules} {root : String} {names : Names}

theorem enters_iff : rules.enters root names = true ↔
    (rules.config.includeHidden = true ∨ (names.getLastD "").startsWith "." = false) ∧
      names.getLastD "" ∉ skippedFolders ∧ rules.excludes root names = false := by
  simp [enters, and_assoc]

theorem selects_iff : rules.selects root names = true ↔
    rules.config.selectsExtension (extensionOf (pathBelow root names)) = true ∧
      rules.excludes root names = false := by
  simp [selects]

/-- More patterns exclude more. -/
theorem excludes_mono {stricter : Rules} (morePatterns : rules.exclusions ⊆ stricter.exclusions)
    (excluded : rules.excludes root names = true) : stricter.excludes root names = true := by
  have anyMatches_mono : ∀ path, Glob.anyMatches rules.exclusions path = true →
      Glob.anyMatches stricter.exclusions path = true := by
    intro path
    simp only [Glob.anyMatches, List.any_eq_true]
    rintro ⟨pattern, member, matched⟩
    exact ⟨pattern, morePatterns member, matched⟩
  unfold excludes at excluded ⊢
  rw [Bool.or_eq_true] at excluded ⊢
  exact excluded.imp (anyMatches_mono _) (anyMatches_mono _)

end Rules

/-! ## The files of a project -/

section Project

variable {disk : Disk} {config : Config} {exclusions : List (List Glob.Token)} {root : String}
  {top : Location} {paths : List String}
  (compiles : config.exclusions = .ok exclusions)
  (leads : disk.canonical root = .ok top) (isFolder : disk.isFolderAt top = true)

include compiles leads isFolder

theorem filesUnder_eq_ok_iff :
    filesUnder disk config root = .ok paths ↔
      ∃ all, filesIn disk ⟨config, exclusions⟩ root (depthBound disk) [] [] top = .ok all ∧
        paths = all.map (pathBelow root) := by
  rw [filesUnder, compiles]
  dsimp only
  rw [namesUnder, leads]
  dsimp only
  rw [if_pos isFolder]
  cases filesIn disk ⟨config, exclusions⟩ root (depthBound disk) [] [] top with
  | error fault => simp [Except.map]
  | ok all => simp [Except.map, eq_comm]

/-- The paths come in the order of their components. -/
theorem pairwise_filesUnder (wellFormed : disk.WellFormed)
    (visited : filesUnder disk config root = .ok paths) :
    paths.Pairwise fun left right =>
      List.Lex ComponentBefore (Path.ofText left).components (Path.ofText right).components := by
  obtain ⟨all, found, rfl⟩ := (filesUnder_eq_ok_iff compiles leads isFolder).mp visited
  have nonempty := ne_empty_of_canonical leads
  have allNames : ∀ names ∈ all, ∀ name ∈ names, IsName name := fun names isFound =>
    ((mem_visit_iff isFolder found).mp isFound).1.isName wellFormed
  refine List.pairwise_map.mpr ((pairwise_filesIn wellFormed found).imp_of_mem ?_)
  intro left right isLeft isRight before
  rw [components_pathBelow nonempty (allNames left isLeft),
    components_pathBelow nonempty (allNames right isRight)]
  exact List.Lex.append_left _ (lex_map_named before) _

/-- Stricter settings give fewer paths. -/
theorem exists_filesUnder_sublist {stricter : Config} {patterns : List (List Glob.Token)}
    (sameExtensions : stricter.extensions = config.extensions)
    (moreExcluded : config.excludedPaths ⊆ stricter.excludedPaths)
    (lessHidden : stricter.includeHidden = true → config.includeHidden = true)
    (alsoCompiles : stricter.exclusions = .ok patterns)
    (visited : filesUnder disk config root = .ok paths) :
    ∃ fewer, filesUnder disk stricter root = .ok fewer ∧ fewer.Sublist paths := by
  obtain ⟨all, found, rfl⟩ := (filesUnder_eq_ok_iff compiles leads isFolder).mp visited
  have morePatterns : exclusions ⊆ patterns := by
    intro pattern isPattern
    obtain ⟨text, member, isRead⟩ := (mem_readPatterns_iff compiles).mp isPattern
    exact (mem_readPatterns_iff alsoCompiles).mpr ⟨text, moreExcluded member, isRead⟩
  have lessLeft : ∀ names, Rules.excludes ⟨stricter, patterns⟩ root names = false →
      Rules.excludes ⟨config, exclusions⟩ root names = false := by
    intro names isKept
    by_contra isExcluded
    have excluded : Rules.excludes ⟨stricter, patterns⟩ root names = true :=
      Rules.excludes_mono morePatterns (by simpa using isExcluded)
    rw [isKept] at excluded
    cases excluded
  have entersLess : ∀ names, Rules.enters ⟨stricter, patterns⟩ root names = true →
      Rules.enters ⟨config, exclusions⟩ root names = true := by
    intro names entered
    rw [Rules.enters_iff] at entered ⊢
    exact ⟨entered.1.imp_left lessHidden, entered.2.1, lessLeft names entered.2.2⟩
  have selectsLess : ∀ names, Rules.selects ⟨stricter, patterns⟩ root names = true →
      Rules.selects ⟨config, exclusions⟩ root names = true := by
    intro names selected
    rw [Rules.selects_iff] at selected ⊢
    refine ⟨?_, lessLeft names selected.2⟩
    simpa [Config.selectsExtension, sameExtensions] using selected.1
  obtain ⟨fewer, foundFewer, isSublist⟩ := exists_filesIn_sublist entersLess selectsLess found
  refine ⟨fewer.map (pathBelow root), ?_, isSublist.map _⟩
  exact (filesUnder_eq_ok_iff alsoCompiles leads isFolder).mpr ⟨fewer, foundFewer, rfl⟩

end Project

/-- A visit of a folder without faults gives the paths of the files below it that have a wanted
extension and are not excluded, if no folder between is hidden, a folder of tools or excluded.
Each path is given once, in the order of components. With more patterns or without hidden folders
it gives a part of them. -/
theorem filesUnder_exact_and_ordered {disk : Disk} {config : Config}
    {exclusions : List (List Glob.Token)} {root : String} {top : Location} {paths : List String}
    (wellFormed : disk.WellFormed) (compiles : config.exclusions = .ok exclusions)
    (leads : disk.canonical root = .ok top) (isFolder : disk.isFolderAt top = true)
    (visited : filesUnder disk config root = .ok paths) :
    (∀ path, path ∈ paths ↔ ∃ names, path = pathBelow root names ∧
      Reaches disk root top names .file ∧
      config.selectsExtension (extensionOf path) = true ∧
      Rules.excludes ⟨config, exclusions⟩ root names = false ∧
      ∀ folder, folder ≠ [] → folder <+: names → folder ≠ names →
        (config.includeHidden = true ∨ (folder.getLastD "").startsWith "." = false) ∧
        folder.getLastD "" ∉ ["__pycache__", "node_modules", "site-packages"] ∧
        Rules.excludes ⟨config, exclusions⟩ root folder = false) ∧
    paths.Nodup ∧
    paths.Pairwise (fun left right =>
      List.Lex ComponentBefore (Path.ofText left).components (Path.ofText right).components) ∧
    ∀ stricter : Config, stricter.extensions = config.extensions →
      config.excludedPaths ⊆ stricter.excludedPaths →
      (stricter.includeHidden = true → config.includeHidden = true) →
      (∃ patterns, stricter.exclusions = .ok patterns) →
      ∃ fewer, filesUnder disk stricter root = .ok fewer ∧ fewer.Sublist paths := by
  have ordered := pairwise_filesUnder compiles leads isFolder wellFormed visited
  refine ⟨?_, ordered.imp fun before isSame => ?_, ordered, ?_⟩
  · intro path
    obtain ⟨all, found, rfl⟩ := (filesUnder_eq_ok_iff compiles leads isFolder).mp visited
    simp only [List.mem_map, mem_visit_iff isFolder found, Rules.selects_iff, Rules.enters_iff]
    constructor
    · rintro ⟨names, ⟨reached, ⟨isWanted, isKept⟩, allEntered⟩, rfl⟩
      exact ⟨names, rfl, reached, isWanted, isKept, allEntered⟩
    · rintro ⟨names, rfl, reached, isWanted, isKept, allEntered⟩
      exact ⟨names, ⟨reached, ⟨isWanted, isKept⟩, allEntered⟩, rfl⟩
  · rw [isSame] at before
    exact List.Lex.to_ne (List.Lex.imp (fun _ _ => ComponentBefore.ne) _ _ before) rfl
  · rintro stricter sameExtensions moreExcluded lessHidden ⟨patterns, alsoCompiles⟩
    exact exists_filesUnder_sublist compiles leads isFolder sameExtensions moreExcluded lessHidden
      alsoCompiles visited

/-- A folder with two files, and a third in a hidden folder. -/
def smallProject : Disk where
  entries :=
    [(["p"], .folder), (["p", "b.py"], .file ByteArray.empty),
      (["p", "a.py"], .file ByteArray.empty), (["p", ".h"], .folder),
      (["p", ".h", "c.py"], .file ByteArray.empty)]
  working := []

theorem filesUnder_smallProject :
    filesUnder smallProject {} "p" = .ok ["p/a.py", "p/b.py"] ∧
      ∃ fewer, filesUnder smallProject { excludedPaths := ["b.*"] } "p" = .ok fewer ∧
        fewer.Sublist ["p/a.py", "p/b.py"] := by
  have visited : filesUnder smallProject {} "p" = .ok ["p/a.py", "p/b.py"] := by cbv
  have wellFormed : smallProject.WellFormed := ⟨by decide, by decide⟩
  obtain ⟨-, -, -, stricter⟩ := filesUnder_exact_and_ordered wellFormed rfl
    (show smallProject.canonical "p" = .ok ["p"] by cbv) (by decide) visited
  exact ⟨visited, stricter _ rfl (by simp) id ⟨_, rfl⟩⟩

end FunctionAtlas.Discovery
