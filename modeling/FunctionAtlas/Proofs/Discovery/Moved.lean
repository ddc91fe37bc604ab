import FunctionAtlas.Proofs.Discovery.Found
import FunctionAtlas.Proofs.Glob.FirstCharacter
import Mathlib

/-!
Contract: what the place of a project has to do with the files that a visit finds in it.

Two projects have the same contents if the same names lead to the same sorts of things in both, and
to one folder in the one if they do so in the other. A visit of the one then goes through the same
folders as a visit of the other, as long as both leave out the same. What is left out may depend on
the place, since patterns are also matched with whole paths: a file that is found in one place is
missing in the other exactly if a pattern matches the whole path of it, or of a folder on the way to
it, in the other place. Patterns that begin with a character that stands for itself match no path
from the top folder, and with those the place does not matter.

Owns: projects with the same contents, and what their visits have in common.

Does not own: links that lead to different things in different places.
-/

namespace FunctionAtlas.Discovery

open FunctionAtlas.Settings
open FunctionAtlas.Storage
open FunctionAtlas.Text

/-! ## Projects -/

/-- A project: a path that leads to a folder of a disk. -/
structure Checkout where
  disk : Disk
  root : String
  top : Location
  wellFormed : disk.WellFormed
  leads : disk.canonical root = .ok top
  isFolder : disk.isFolderAt top = true

namespace Checkout

/-- The paths of the files of a project. -/
def files (checkout : Checkout) (config : Config) : Except WalkFault (List String) :=
  filesUnder checkout.disk config checkout.root

/-- What names lead to in a project. -/
def Reaches (checkout : Checkout) (names : Names) (sight : Sight) : Prop :=
  Discovery.Reaches checkout.disk checkout.root checkout.top names sight

/-- The folders that a visit of a project is inside of. -/
def Trail (checkout : Checkout) (rules : Rules) (trail : List Ancestor) : Prop :=
  Discovery.Trail checkout.disk rules checkout.root checkout.top trail

/-- A visit of the whole project. -/
def visit (checkout : Checkout) (rules : Rules) : Except WalkFault (List Names) :=
  filesIn checkout.disk rules checkout.root (depthBound checkout.disk) [] [] checkout.top

theorem files_eq_ok_iff {checkout : Checkout} {config : Config}
    {exclusions : List (List Glob.Token)} {paths : List String}
    (compiles : config.exclusions = .ok exclusions) :
    checkout.files config = .ok paths ↔
      ∃ found, checkout.visit ⟨config, exclusions⟩ = .ok found ∧
        paths = found.map (pathBelow checkout.root) :=
  filesUnder_eq_ok_iff compiles checkout.leads checkout.isFolder

theorem exists_files_eq_error {checkout : Checkout} {config : Config}
    {exclusions : List (List Glob.Token)} {fault : WalkFault}
    (compiles : config.exclusions = .ok exclusions)
    (failed : checkout.visit ⟨config, exclusions⟩ = .error fault) :
    ∃ fault, checkout.files config = .error fault := by
  cases visited : checkout.files config with
  | error fault => exact ⟨fault, rfl⟩
  | ok paths =>
      obtain ⟨found, succeeded, -⟩ := (files_eq_ok_iff compiles).mp visited
      rw [failed] at succeeded
      cases succeeded

theorem Trail.reaches_of_mem {checkout : Checkout} {rules : Rules} {trail : List Ancestor}
    (isTrail : checkout.Trail rules trail) :
    ∀ ancestor ∈ trail, checkout.Reaches ancestor.names (.folder ancestor.location) := by
  unfold Trail at isTrail
  induction isTrail with
  | top =>
      rintro ancestor member
      rw [List.mem_singleton.mp member]
      exact .top
  | inner outer member seen entered inductionHypothesis =>
      refine List.forall_mem_cons.mpr ⟨?_, inductionHypothesis⟩
      exact (inductionHypothesis _ List.mem_cons_self).inner (sightAt_of_look seen)

/-- A file is reached by a last name. -/
theorem Reaches.exists_concat {checkout : Checkout} {names : Names}
    (reached : checkout.Reaches names .file) : ∃ outer name, names = outer ++ [name] := by
  unfold Reaches at reached
  generalize isSight : Sight.file = sight at reached
  cases reached with
  | top => cases isSight
  | inner outer seen => exact ⟨_, _, rfl⟩

/-- On the way to what is reached, all is reached. -/
theorem Reaches.of_prefix {checkout : Checkout} {names way : Names} {sight : Sight}
    (reached : checkout.Reaches names sight) (isPrefix : way <+: names) :
    ∃ other, checkout.Reaches way other := by
  unfold Reaches at reached
  induction reached with
  | top =>
      rw [List.prefix_nil.mp isPrefix]
      exact ⟨_, .top⟩
  | inner outer seen inductionHypothesis =>
      rcases List.prefix_concat_iff.mp isPrefix with rfl | isOuter
      · exact ⟨_, outer.inner seen⟩
      · exact inductionHypothesis isOuter

/-- What is found is not excluded, nor is a folder on the way to it. -/
theorem excludes_of_mem {checkout : Checkout} {rules : Rules} {found : List Names} {names : Names}
    (visited : checkout.visit rules = .ok found) (isFound : names ∈ found) :
    ∀ way, way ≠ [] → way <+: names → rules.excludes checkout.root way = false := by
  intro way isInner isPrefix
  obtain ⟨-, selected, allEntered⟩ := (mem_visit_iff checkout.isFolder visited).mp isFound
  by_cases isWhole : way = names
  · rw [isWhole]
    exact (Rules.selects_iff.mp selected).2
  · exact (Rules.enters_iff.mp (allEntered way isInner isPrefix isWhole)).2.2

end Checkout

/-! ## The same contents -/

def isLink : Entry → Bool
  | .link _ => true
  | _ => false

def Sight.isFolder : Sight → Bool
  | .folder _ => true
  | .file => false

/-- Two projects show the same to a visit: in the folders that the same names lead to, there are
links by the same names and other entries by the same names, these lead to the same sorts of
things, and two ways that lead to one folder in the one do so in the other. -/
structure SameContents (first second : Checkout) : Prop where
  entries : ∀ {names : Names} {here there : Location}, first.Reaches names (.folder here) →
    second.Reaches names (.folder there) → ∀ name,
      (first.disk.entryAt (here ++ [name])).map isLink =
        (second.disk.entryAt (there ++ [name])).map isLink
  sights : ∀ {names : Names} {here there : Location}, first.Reaches names (.folder here) →
    second.Reaches names (.folder there) → ∀ name,
      (sightAt first.disk first.root (names ++ [name]) (here ++ [name])).map Sight.isFolder =
        (sightAt second.disk second.root (names ++ [name]) (there ++ [name])).map Sight.isFolder
  folders : ∀ {names others : Names} {here hereElse there thereElse : Location},
    first.Reaches names (.folder here) → first.Reaches others (.folder hereElse) →
    second.Reaches names (.folder there) → second.Reaches others (.folder thereElse) →
      (here = hereElse ↔ there = thereElse)

theorem SameContents.symm {first second : Checkout} (same : SameContents first second) :
    SameContents second first where
  entries isHere isThere name := (same.entries isThere isHere name).symm
  sights isHere isThere name := (same.sights isThere isHere name).symm
  folders isHere isElse isThere isElseThere :=
    (same.folders isThere isElseThere isHere isElse).symm

section NoLinks

variable {first second : Checkout}

theorem Checkout.Reaches.location_eq
    (noLinks : ∀ names target, first.disk.entryAt (first.top ++ names) ≠ some (.link target))
    {names : Names} {here : Location} (reached : first.Reaches names (.folder here)) :
    here = first.top ++ names := by
  unfold Reaches at reached
  generalize isSight : Sight.folder here = sight at reached
  induction reached generalizing here with
  | top =>
      cases isSight
      rw [List.append_nil]
  | @inner names location name sight outer seen inductionHypothesis =>
      obtain rfl := inductionHypothesis rfl
      subst isSight
      rw [List.append_assoc] at seen
      unfold sightAt at seen
      split at seen
      next => cases seen
      next => cases seen
      next =>
        cases seen
        rfl
      next isLinked => exact absurd isLinked (noLinks _ _)

/-- Folders without links that hold the same have the same contents. -/
theorem sameContents_of_sameEntries
    (noLinks : ∀ names target, first.disk.entryAt (first.top ++ names) ≠ some (.link target))
    (sameEntries : ∀ names, first.disk.entryAt (first.top ++ names) =
      second.disk.entryAt (second.top ++ names)) : SameContents first second := by
  have noLinksThere : ∀ names target,
      second.disk.entryAt (second.top ++ names) ≠ some (.link target) := by
    intro names target
    rw [← sameEntries]
    exact noLinks names target
  constructor
  · intro names here there isHere isThere name
    rw [isHere.location_eq noLinks, isThere.location_eq noLinksThere, List.append_assoc,
      List.append_assoc, sameEntries]
  · intro names here there isHere isThere name
    rw [isHere.location_eq noLinks, isThere.location_eq noLinksThere, List.append_assoc,
      List.append_assoc, sightAt, sightAt, ← sameEntries]
    cases held : first.disk.entryAt (first.top ++ (names ++ [name])) with
    | none => rfl
    | some entry =>
        cases entry with
        | file => rfl
        | folder => rfl
        | link target => exact absurd held (noLinks _ _)
  · intro names others here hereElse there thereElse isHere isHereElse isThere isThereElse
    rw [isHere.location_eq noLinks, isHereElse.location_eq noLinks,
      isThere.location_eq noLinksThere, isThereElse.location_eq noLinksThere]
    simp

end NoLinks

/-! ## Visits side by side -/

section Looks

variable {disk : Disk} {root : String} {ancestors : List Ancestor} {names : Names}
  {location : Location}

/-- A link that is seen as a folder does not lead back. -/
theorem location_ne_of_look {target : Location}
    (linked : (disk.entryAt location).map isLink = some true)
    (seen : look disk root ancestors names location = .ok (.folder target)) :
    ∀ ancestor ∈ ancestors, ancestor.location ≠ target := by
  cases look_eq_ok_iff.mp seen with
  | folder held =>
      rw [held] at linked
      cases linked
  | linkToFolder held leads isFolder isFresh => exact isFresh

/-- What is seen can be looked at, if it is no link that leads back. -/
theorem look_of_sightAt {sight : Sight} (seen : sightAt disk root names location = some sight)
    (isFresh : ∀ target, sight = .folder target →
      (disk.entryAt location).map isLink = some true →
        ∀ ancestor ∈ ancestors, ancestor.location ≠ target) :
    look disk root ancestors names location = .ok sight := by
  rw [look_eq_ok_iff]
  unfold sightAt at seen
  split at seen
  next => cases seen
  next held =>
    cases seen
    exact .file held
  next held =>
    cases seen
    exact .folder held
  next held =>
    rw [held] at isFresh
    split at seen
    next => cases seen
    next leads =>
      split_ifs at seen with isFolder <;> cases seen
      · exact .linkToFolder held leads isFolder (isFresh _ rfl rfl)
      · exact .linkToFile held leads (by simpa using isFolder)

end Looks

section SideBySide

variable {first second : Checkout} {rules : Rules}

/-- Both projects leave out the same of what is reached. -/
def SameExclusions (rules : Rules) (first second : Checkout) : Prop :=
  ∀ names sight, names ≠ [] → first.Reaches names sight →
    rules.excludes first.root names = rules.excludes second.root names

namespace SameContents

theorem exists_reaches (same : SameContents first second) {names : Names} {sight : Sight}
    (reached : first.Reaches names sight) :
    ∃ other, second.Reaches names other ∧ other.isFolder = sight.isFolder := by
  unfold Checkout.Reaches at reached
  induction reached with
  | top => exact ⟨.folder second.top, .top, rfl⟩
  | @inner names here name sight outer seen inductionHypothesis =>
      obtain ⟨there | there, isThere, sameSort⟩ := inductionHypothesis
      · cases sameSort
      · have sameSights := same.sights outer isThere name
        rw [seen] at sameSights
        obtain ⟨other, seenThere, sameSort⟩ := Option.map_eq_some_iff.mp sameSights.symm
        exact ⟨other, isThere.inner seenThere, sameSort⟩

theorem reaches_file (same : SameContents first second) {names : Names}
    (reached : first.Reaches names .file) : second.Reaches names .file := by
  obtain ⟨other | other, isThere, sameSort⟩ := same.exists_reaches reached
  · exact isThere
  · cases sameSort

theorem sameExclusions_symm (same : SameContents first second)
    (agree : SameExclusions rules first second) : SameExclusions rules second first := by
  intro names sight isInner reached
  obtain ⟨other, isThere, -⟩ := same.symm.exists_reaches reached
  exact (agree names other isInner isThere).symm

/-- Inside of the same folders, what can be looked at in the one project can be looked at in the
other. -/
theorem exists_look (same : SameContents first second) {head other : Ancestor}
    {above aboveOther : List Ancestor} (trail : first.Trail rules (head :: above))
    (otherTrail : second.Trail rules (other :: aboveOther))
    (sameNames : (head :: above).map Ancestor.names = (other :: aboveOther).map Ancestor.names)
    {name : String} {sight : Sight}
    (seen : look first.disk first.root (head :: above) (head.names ++ [name])
      (head.location ++ [name]) = .ok sight) :
    ∃ otherSight, look second.disk second.root (other :: aboveOther) (other.names ++ [name])
      (other.location ++ [name]) = .ok otherSight ∧ otherSight.isFolder = sight.isFolder := by
  have isHere := trail.reaches_of_mem head List.mem_cons_self
  have isThere := otherTrail.reaches_of_mem other List.mem_cons_self
  rw [← (List.cons.inj sameNames).1] at isThere ⊢
  have seenHere := sightAt_of_look seen
  have sameSights := same.sights isHere isThere name
  rw [seenHere] at sameSights
  obtain ⟨otherSight, seenThere, sameSort⟩ := Option.map_eq_some_iff.mp sameSights.symm
  refine ⟨otherSight, look_of_sightAt seenThere ?_, sameSort⟩
  rintro target rfl linked ancestor isAncestor
  cases sight with
  | file => cases sameSort
  | folder place =>
      -- The ancestor has a twin by the same names, and the link does not lead to the twin.
      obtain ⟨twin, isTwin, twinNames⟩ : ∃ twin ∈ head :: above, twin.names = ancestor.names := by
        rw [← List.mem_map, sameNames]
        exact List.mem_map_of_mem isAncestor
      rw [← same.entries isHere isThere name] at linked
      have isApart := location_ne_of_look linked seen twin isTwin
      have twinReached := trail.reaches_of_mem twin isTwin
      rw [twinNames] at twinReached
      have oneFolder := same.folders twinReached (isHere.inner seenHere)
        (otherTrail.reaches_of_mem ancestor isAncestor) (isThere.inner seenThere)
      exact oneFolder.not.mp isApart

/-- A visit of the other project comes into the same folders. -/
theorem exists_trail (same : SameContents first second)
    (agree : SameExclusions rules first second) {trail : List Ancestor}
    (isTrail : first.Trail rules trail) :
    ∃ others, second.Trail rules others ∧
      trail.map Ancestor.names = others.map Ancestor.names := by
  unfold Checkout.Trail at isTrail
  induction isTrail with
  | top => exact ⟨[⟨[], second.top⟩], .top, rfl⟩
  | @inner above names here target name outer member seen entered inductionHypothesis =>
      obtain ⟨others, otherTrail, sameNames⟩ := inductionHypothesis
      match others with
      | [] => cases sameNames
      | ⟨otherNames, there⟩ :: aboveOther =>
          obtain ⟨sight, looked, sameSort⟩ := same.exists_look outer otherTrail sameNames seen
          obtain rfl : names = otherNames := (List.cons.inj sameNames).1
          cases sight with
          | file => cases sameSort
          | folder place =>
              have isReached := (Trail.inner outer member seen entered).reaches.1
              have enteredThere : rules.enters second.root (names ++ [name]) = true := by
                rw [Rules.enters_iff] at entered ⊢
                rw [← agree _ _ (by simp) isReached]
                exact entered
              have memberThere := mem_namesIn_of_sightAt (sightAt_of_look looked)
              refine ⟨_, otherTrail.inner memberThere looked enteredThere, ?_⟩
              rw [List.map_cons, sameNames]
              rfl

theorem mem_namesIn_iff (same : SameContents first second) {names : Names} {here there : Location}
    (isHere : first.Reaches names (.folder here)) (isThere : second.Reaches names (.folder there))
    {name : String} : name ∈ first.disk.namesIn here ↔ name ∈ second.disk.namesIn there := by
  have sameEntries := congrArg Option.isSome (same.entries isHere isThere name)
  rw [Option.isSome_map, Option.isSome_map] at sameEntries
  rw [first.wellFormed.mem_namesIn_iff_isSome, second.wellFormed.mem_namesIn_iff_isSome,
    sameEntries]

/-- A visit of the other project succeeds too. -/
theorem exists_visit_eq_ok (same : SameContents first second)
    (agree : SameExclusions rules first second) {found : List Names}
    (visited : first.visit rules = .ok found) : ∃ others, second.visit rules = .ok others := by
  refine (exists_visit_eq_ok_iff second.isFolder).mpr fun head above trail name member => ?_
  obtain ⟨others, otherTrail, sameNames⟩ :=
    same.symm.exists_trail (same.sameExclusions_symm agree) trail
  match others with
  | [] => cases sameNames
  | other :: aboveOther =>
      have isThere := Checkout.Trail.reaches_of_mem trail head List.mem_cons_self
      have isHere := otherTrail.reaches_of_mem other List.mem_cons_self
      rw [(List.cons.inj sameNames).1] at isThere
      obtain ⟨sight, seen⟩ := (exists_visit_eq_ok_iff first.isFolder).mp ⟨found, visited⟩ other
        aboveOther otherTrail name ((same.mem_namesIn_iff isHere isThere).mpr member)
      obtain ⟨otherSight, looked, -⟩ := same.exists_look otherTrail trail sameNames.symm seen
      exact ⟨otherSight, looked⟩

end SameContents

end SideBySide

/-! ## What is found -/

/-- The extension of a file is that of its name, wherever it lies. -/
theorem extensionOf_pathBelow {root : String} (nonempty : root ≠ "") {names : Names} {name : String}
    (allNames : ∀ other ∈ names ++ [name], IsName other) :
    extensionOf (pathBelow root (names ++ [name])) = (nameExtension name).getD "" := by
  have isLast : (Path.ofText (pathBelow root (names ++ [name]))).fileName = some name := by
    rw [Path.fileName, components_pathBelow nonempty allNames]
    simp
  rw [extensionOf, isLast]
  rfl

section Findings

variable {first second : Checkout} {rules : Rules}

/-- Whether a file has a wanted extension does not depend on where it lies. -/
theorem Checkout.Reaches.selects_iff {names : Names} (reached : first.Reaches names .file) :
    rules.selects second.root names = true ↔
      rules.config.selectsExtension (extensionOf (pathBelow first.root names)) = true ∧
        rules.excludes second.root names = false := by
  have allNames := Discovery.Reaches.isName first.wellFormed reached
  obtain ⟨outer, name, rfl⟩ := reached.exists_concat
  rw [Rules.selects_iff, extensionOf_pathBelow (ne_empty_of_canonical second.leads) allNames,
    extensionOf_pathBelow (ne_empty_of_canonical first.leads) allNames]

namespace SameContents

/-- What is found in one project is found in the other if that excludes nothing on the way. -/
theorem mem_of_mem (same : SameContents first second) {found others : List Names}
    (visited : first.visit rules = .ok found) (otherVisited : second.visit rules = .ok others)
    {names : Names} (isFound : names ∈ found)
    (isKept : ∀ way, way ≠ [] → way <+: names → rules.excludes second.root way = false) :
    names ∈ others := by
  obtain ⟨reached, selected, allEntered⟩ := (mem_visit_iff first.isFolder visited).mp isFound
  have isHere : first.Reaches names .file := reached
  have isSome : names ≠ [] := by
    obtain ⟨outer, name, rfl⟩ := isHere.exists_concat
    simp
  refine (mem_visit_iff second.isFolder otherVisited).mpr ⟨same.reaches_file isHere, ?_, ?_⟩
  · exact isHere.selects_iff.mpr
      ⟨(Rules.selects_iff.mp selected).1, isKept names isSome (List.prefix_refl _)⟩
  · intro way isSome isPrefix isProper
    have entered := Rules.enters_iff.mp (allEntered way isSome isPrefix isProper)
    exact Rules.enters_iff.mpr ⟨entered.1, entered.2.1, isKept way isSome isPrefix⟩

/-- Projects with the same contents that leave out the same give the same files. -/
theorem found_eq (same : SameContents first second) (agree : SameExclusions rules first second)
    {found others : List Names} (visited : first.visit rules = .ok found)
    (otherVisited : second.visit rules = .ok others) : found = others := by
  have isPart : ∀ {left right : Checkout} {here there : List Names}, SameContents left right →
      SameExclusions rules left right → left.visit rules = .ok here →
      right.visit rules = .ok there → ∀ names ∈ here, names ∈ there := by
    -- Stated for both directions, as the two projects play the same part.
    intro left right here there sameSides agreeing visitedHere visitedThere names isFound
    refine sameSides.mem_of_mem visitedHere visitedThere isFound fun way isSome isPrefix => ?_
    obtain ⟨reached, -, -⟩ := (mem_visit_iff left.isFolder visitedHere).mp isFound
    obtain ⟨sight, wayReached⟩ := Checkout.Reaches.of_prefix reached isPrefix
    rw [← agreeing way sight isSome wayReached]
    exact left.excludes_of_mem visitedHere isFound way isSome isPrefix
  have sameMembers : found.Perm others := by
    refine (List.perm_ext_iff_of_nodup (nodup_filesIn first.wellFormed visited)
      (nodup_filesIn second.wellFormed otherVisited)).mpr fun names => ⟨?_, ?_⟩
    · exact isPart same agree visited otherVisited names
    · exact isPart same.symm (same.sameExclusions_symm agree) otherVisited visited names
  refine List.Perm.eq_of_pairwise ?_ (pairwise_filesIn first.wellFormed visited)
    (pairwise_filesIn second.wellFormed otherVisited) sameMembers
  intro left right _ _ before after
  exact absurd after (asymm_of (List.Lex ByteBefore) before)

/-- A file that is found in one project is found in the other exactly if no pattern matches a whole
path on the way to it there. -/
theorem mem_iff_of_mem (same : SameContents first second) {found others : List Names}
    (visited : first.visit rules = .ok found) (otherVisited : second.visit rules = .ok others)
    {names : Names} (isFound : names ∈ found) :
    names ∈ others ↔ ∀ way, way ≠ [] → way <+: names →
      Glob.anyMatches rules.exclusions (pathBelow second.root way) = false := by
  constructor
  · intro isOther way isSome isPrefix
    have isKept := second.excludes_of_mem otherVisited isOther way isSome isPrefix
    exact (Bool.or_eq_false_iff.mp isKept).2
  · intro notMatched
    refine same.mem_of_mem visited otherVisited isFound fun way isSome isPrefix => ?_
    have isKept := first.excludes_of_mem visited isFound way isSome isPrefix
    exact Bool.or_eq_false_iff.mpr
      ⟨(Bool.or_eq_false_iff.mp isKept).1, notMatched way isSome isPrefix⟩

end SameContents

end Findings

/-! ## Patterns that begin with a character -/

theorem head?_pathBelow {root : String} (isAbsolute : root.toList.head? = some '/')
    (names : Names) : (pathBelow root names).toList.head? = some '/' := by
  unfold pathBelow
  induction names generalizing root with
  | nil => exact isAbsolute
  | cons name rest inductionHypothesis =>
      rw [List.foldl_cons]
      refine inductionHypothesis ?_
      unfold joinPath
      split_ifs with isTop
      · rw [String.startsWith_string_iff] at isTop
        obtain ⟨others, isName⟩ := isTop
        rw [← isName]
        rfl
      · rw [String.toList_append, List.head?_append, isAbsolute]
        rfl
      · rw [String.toList_append, String.toList_append, List.append_assoc, List.head?_append,
          isAbsolute]
        rfl

/-- Patterns that begin with a character that stands for itself match no absolute path. -/
theorem anyMatches_eq_false_of_absolute {texts : List String}
    {patterns : List (List Glob.Token)} (compiles : readPatterns texts = .ok patterns)
    (ordinary : ∀ text ∈ texts, ∃ character, text.toList.head? = some character ∧
      character ∉ Glob.specialCharacters)
    {path : String} (isAbsolute : path.toList.head? = some '/') :
    Glob.anyMatches patterns path = false := by
  rw [Glob.anyMatches, List.any_eq_false]
  intro pattern isPattern matched
  obtain ⟨text, isText, isRead⟩ := (mem_readPatterns_iff compiles).mp isPattern
  obtain ⟨character, starts, isOrdinary⟩ := ordinary text isText
  obtain ⟨tokens, rfl⟩ := Glob.exists_tokens_of_read isOrdinary starts isRead
  obtain ⟨rest, begins⟩ := Glob.exists_toList_of_matches matched
  rw [begins] at isAbsolute
  cases isAbsolute
  exact isOrdinary (by decide)

/-! ## Two places -/

/-- The files of both projects have the same names below the roots, or neither can be visited. -/
def SameFiles (config : Config) (first second : Checkout) : Prop :=
  (∃ found : List Names, first.files config = .ok (found.map (pathBelow first.root)) ∧
    second.files config = .ok (found.map (pathBelow second.root))) ∨
  ((∃ fault, first.files config = .error fault) ∧ ∃ fault, second.files config = .error fault)

theorem SameContents.sameFiles {first second : Checkout} (same : SameContents first second)
    {config : Config} (agree : ∀ exclusions, config.exclusions = .ok exclusions →
      SameExclusions ⟨config, exclusions⟩ first second) : SameFiles config first second := by
  cases compiles : config.exclusions with
  | error fault =>
      refine .inr ⟨⟨.settings fault, ?_⟩, ⟨.settings fault, ?_⟩⟩
      · rw [Checkout.files, filesUnder, compiles]
      · rw [Checkout.files, filesUnder, compiles]
  | ok exclusions =>
      have agreeing := agree exclusions compiles
      cases visited : first.visit ⟨config, exclusions⟩ with
      | ok found =>
          obtain ⟨others, otherVisited⟩ := same.exists_visit_eq_ok agreeing visited
          have isSame := same.found_eq agreeing visited otherVisited
          exact .inl ⟨found, (Checkout.files_eq_ok_iff compiles).mpr ⟨found, visited, rfl⟩,
            (Checkout.files_eq_ok_iff compiles).mpr ⟨others, otherVisited, by rw [isSame]⟩⟩
      | error fault =>
          refine .inr ⟨Checkout.exists_files_eq_error compiles visited, ?_⟩
          cases otherVisited : second.visit ⟨config, exclusions⟩ with
          | error fault => exact Checkout.exists_files_eq_error compiles otherVisited
          | ok others =>
              obtain ⟨found, succeeded⟩ := same.symm.exists_visit_eq_ok
                (same.sameExclusions_symm agreeing) otherVisited
              rw [visited] at succeeded
              cases succeeded

/-- Two projects with the same contents give the same files, wherever they are, if the patterns
leave out the same of both; so they do if the patterns begin with characters that stand for
themselves and the roots are absolute. In general, of the files that are found in one place, the
other gives those for which no pattern matches a whole path on the way to them there. -/
theorem files_of_sameContents {first second : Checkout} (same : SameContents first second)
    (config : Config) :
    ((∀ exclusions, config.exclusions = .ok exclusions →
        SameExclusions ⟨config, exclusions⟩ first second) → SameFiles config first second) ∧
    ((∀ text ∈ config.excludedPaths, ∃ character, text.toList.head? = some character ∧
        character ∉ Glob.specialCharacters) →
      first.root.toList.head? = some '/' → second.root.toList.head? = some '/' →
        SameFiles config first second) ∧
    ∀ paths otherPaths, first.files config = .ok paths → second.files config = .ok otherPaths →
      ∃ (exclusions : List (List Glob.Token)) (found others : List Names),
        config.exclusions = .ok exclusions ∧
        paths = found.map (pathBelow first.root) ∧
        otherPaths = others.map (pathBelow second.root) ∧
        (∀ names ∈ found, names ∈ others ↔ ∀ way, way ≠ [] → way <+: names →
          Glob.anyMatches exclusions (pathBelow second.root way) = false) ∧
        ∀ names ∈ others, names ∈ found ↔ ∀ way, way ≠ [] → way <+: names →
          Glob.anyMatches exclusions (pathBelow first.root way) = false := by
  refine ⟨same.sameFiles, ?_, ?_⟩
  · intro ordinary isAbsolute isAbsoluteThere
    refine same.sameFiles fun exclusions compiles names sight isSome reached => ?_
    have notMatched : ∀ root : String, root.toList.head? = some '/' →
        Glob.anyMatches exclusions (pathBelow root names) = false := fun root isRoot =>
      anyMatches_eq_false_of_absolute compiles ordinary (head?_pathBelow isRoot names)
    rw [Rules.excludes, Rules.excludes, notMatched _ isAbsolute, notMatched _ isAbsoluteThere]
  · intro paths otherPaths isPaths isOtherPaths
    cases compiles : config.exclusions with
    | error fault =>
        rw [Checkout.files, filesUnder, compiles] at isPaths
        cases isPaths
    | ok exclusions =>
        obtain ⟨found, visited, isFound⟩ := (Checkout.files_eq_ok_iff compiles).mp isPaths
        obtain ⟨others, otherVisited, isOther⟩ :=
          (Checkout.files_eq_ok_iff compiles).mp isOtherPaths
        refine ⟨exclusions, found, others, rfl, isFound, isOther, ?_, ?_⟩
        · intro names member
          exact same.mem_iff_of_mem visited otherVisited member
        · intro names member
          exact same.symm.mem_iff_of_mem otherVisited visited member

/-! ## One project in two places -/

/-- A visit of a folder with one file finds that file if it is selected. -/
theorem Checkout.visit_of_single {checkout : Checkout} {rules : Rules} {name : String}
    (isOnly : checkout.disk.namesIn checkout.top = [name])
    (isFile : look checkout.disk checkout.root [⟨[], checkout.top⟩] [name]
      (checkout.top ++ [name]) = .ok .file) :
    checkout.visit rules = .ok (if rules.selects checkout.root [name] then [[name]] else []) := by
  obtain ⟨fuel, isFuel⟩ : ∃ fuel, depthBound checkout.disk = fuel + 1 :=
    Nat.exists_eq_succ_of_ne_zero (by simp [depthBound])
  rw [visit, isFuel, filesIn_succ_eq_ok_iff]
  refine ⟨fun _ => if rules.selects checkout.root [name] then [[name]] else [], ?_, ?_⟩
  · rw [isOnly, List.flatMap_singleton]
  · rw [isOnly]
    intro only isName
    obtain rfl := List.mem_singleton.mp isName
    rw [filesAt, List.nil_append, isFile]

/-- A disk with a project in two places, one of them a folder for results. -/
def twoPlaces : Disk where
  entries :=
    [(["home"], .folder), (["home", "a.py"], .file ByteArray.empty),
      (["build"], .folder), (["build", "a.py"], .file ByteArray.empty)]
  working := []

theorem wellFormed_twoPlaces : twoPlaces.WellFormed := ⟨by decide, by decide⟩

theorem canonical_twoPlaces {path name : String} (isPath : path.toList = '/' :: name.toList)
    (undivided : '/' ∉ name.toList) (noZero : '\x00' ∉ path.toList)
    (isShort : path.utf8ByteSize < Disk.pathLimit)
    (walked : twoPlaces.walk true Disk.linkLimit [] [name] = .ok (.found [name])) :
    twoPlaces.canonical path = .ok [name] := by
  have isAbsolute : path.startsWith "/" = true := by
    rw [String.startsWith_string_iff, isPath]
    exact ⟨name.toList, rfl⟩
  have pieces : splitSlash path.toList = [[], name.toList] := by
    rw [isPath, ← List.nil_append ('/' :: _), splitSlash_append, splitSlash_of_not_mem undivided]
    rfl
  have starts : Disk.startOf twoPlaces.working path = ([], [name]) := by
    simp [Disk.startOf, isAbsolute, pieces]
  have isSome : path ≠ "" := by
    rintro rfl
    cases isPath
  simp [Disk.canonical, Disk.locate, Disk.resolve, noZero, isSome, Nat.not_le.mpr isShort, starts,
    walked]

theorem entryAt_twoPlaces {place : String} (isPlace : place = "home" ∨ place = "build")
    (names : Names) :
    twoPlaces.entryAt ([place] ++ names) =
      if names = [] then some .folder
      else if names = ["a.py"] then some (.file ByteArray.empty) else none := by
  by_cases isTop : names = []
  · subst isTop
    rcases isPlace with rfl | rfl <;> rfl
  · by_cases isFile : names = ["a.py"]
    · subst isFile
      rcases isPlace with rfl | rfl <;> rfl
    · rcases isPlace with rfl | rfl <;>
        simp [Disk.entryAt, twoPlaces, Ne.symm isTop, Ne.symm isFile, isTop, isFile]

/-- The project in the one place. -/
def homeProject : Checkout where
  disk := twoPlaces
  root := "/home"
  top := ["home"]
  wellFormed := wellFormed_twoPlaces
  leads := canonical_twoPlaces rfl (by decide) (by decide) (by decide) (by cbv)
  isFolder := by decide

/-- The project in the other place. -/
def buildProject : Checkout where
  disk := twoPlaces
  root := "/build"
  top := ["build"]
  wellFormed := wellFormed_twoPlaces
  leads := canonical_twoPlaces rfl (by decide) (by decide) (by decide) (by cbv)
  isFolder := by decide

theorem sameContents_twoPlaces : SameContents homeProject buildProject := by
  refine sameContents_of_sameEntries (fun names target => ?_) fun names => ?_
  · change twoPlaces.entryAt (["home"] ++ names) ≠ _
    rw [entryAt_twoPlaces (.inl rfl)]
    split_ifs <;> simp
  · change twoPlaces.entryAt (["home"] ++ names) = twoPlaces.entryAt (["build"] ++ names)
    rw [entryAt_twoPlaces (.inl rfl), entryAt_twoPlaces (.inr rfl)]

theorem sameFiles_of_twoPlaces :
    SameContents homeProject buildProject ∧
      SameFiles { excludedPaths := ["build/**", "venv"] } homeProject buildProject := by
  refine ⟨sameContents_twoPlaces, ?_⟩
  refine (files_of_sameContents sameContents_twoPlaces _).2.1 ?_ rfl rfl
  simp only [List.forall_mem_cons]
  exact ⟨⟨'b', rfl, by decide⟩, ⟨'v', rfl, by decide⟩, by simp⟩

/-- The patterns that settings are made with at first. -/
def templateConfig : Config where
  excludedPaths := ["**/venv/**", "**/.tox/**", "**/build/**"]

/-- What those patterns are read as. -/
def templatePatterns : List (List Glob.Token) :=
  ["venv", ".tox", "build"].map fun name =>
    .leadingPieces :: name.toList.map .literal ++ [.trailingPieces]

theorem files_differ_in_twoPlaces :
    SameContents homeProject buildProject ∧
      (∀ text ∈ templateConfig.excludedPaths, text.toList.head? ≠ some '/') ∧
      homeProject.files templateConfig = .ok ["/home/a.py"] ∧
      buildProject.files templateConfig = .ok [] ∧
      ¬ SameFiles templateConfig homeProject buildProject := by
  have compiles : templateConfig.exclusions = .ok templatePatterns := rfl
  have inHome : homeProject.files templateConfig = .ok ["/home/a.py"] := by
    refine (Checkout.files_eq_ok_iff compiles).mpr ⟨[["a.py"]], ?_, by cbv⟩
    have isSelected : Rules.selects ⟨templateConfig, templatePatterns⟩ "/home" ["a.py"] = true := by
      cbv
    rw [Checkout.visit_of_single (by cbv) (by cbv)]
    simp [homeProject, isSelected]
  have inBuild : buildProject.files templateConfig = .ok [] := by
    refine (Checkout.files_eq_ok_iff compiles).mpr ⟨[], ?_, rfl⟩
    have isLeftOut :
        Rules.selects ⟨templateConfig, templatePatterns⟩ "/build" ["a.py"] = false := by
      cbv
    rw [Checkout.visit_of_single (by cbv) (by cbv)]
    simp [buildProject, isLeftOut]
  refine ⟨sameContents_twoPlaces, by decide, inHome, inBuild, ?_⟩
  rintro (⟨found, foundHome, foundBuild⟩ | ⟨⟨fault, failed⟩, -⟩)
  · rw [inHome] at foundHome
    rw [inBuild] at foundBuild
    cases found with
    | nil => cases foundHome
    | cons names rest => cases foundBuild
  · rw [inHome] at failed
    cases failed

end FunctionAtlas.Discovery
