import FunctionAtlas.Proofs.Storage.Components
import FunctionAtlas.Storage.Disk
import Mathlib.Data.List.Nodup
import Mathlib.Tactic.ByContra
import Mathlib.Tactic.SplitIfs

/-!
Contract: what a disk holds, and what a new entry changes of it.

On a disk that holds one entry for each location, the names in a folder are exactly those at which
it has an entry, in strictly increasing order. Where all entries are kept, up to the contents of
files, a path that led somewhere leads there still. A link at a vacant location leaves all other
entries as they are.

Owns: disks with one entry for each location, the locations of folders, disks that keep what
another one holds, and disks with one more link.
-/

namespace FunctionAtlas.Storage

namespace Disk

/-- A disk with one entry for each location, whose names are names. -/
structure WellFormed (disk : Disk) : Prop where
  single : (disk.entries.map Prod.fst).Nodup
  named : ∀ entry ∈ disk.entries, ∀ name ∈ entry.1, IsName name

/-- Locations of folders, with that of the top folder in front. -/
def folderLocations (disk : Disk) : List Location :=
  [] :: (disk.entries.filter fun entry => match entry.2 with | .folder => true | _ => false).map
    Prod.fst

section Entries

variable {disk : Disk} {folder location : Location} {name : String} {entry : Entry}

theorem length_folderLocations : disk.folderLocations.length = disk.folderCount + 1 := by
  rw [folderLocations, List.length_cons, List.length_map]
  rfl

theorem length_le_of_folders {places : List Location} (distinct : places.Nodup)
    (held : places ⊆ disk.folderLocations) : places.length ≤ disk.folderCount + 1 := by
  rw [← length_folderLocations]
  exact distinct.length_le_of_subset held

theorem mem_entries_of_entryAt (isInner : location ≠ [])
    (found : disk.entryAt location = some entry) : (location, entry) ∈ disk.entries := by
  rw [entryAt, if_neg isInner, Option.map_eq_some_iff] at found
  obtain ⟨⟨place, held⟩, isFound, rfl⟩ := found
  have isPlace : place = location := by simpa using List.find?_some isFound
  exact isPlace ▸ List.mem_of_find?_eq_some isFound

theorem mem_folderLocations (isFolder : disk.isFolderAt location = true) :
    location ∈ disk.folderLocations := by
  by_cases isTop : location = []
  · rw [isTop]
    exact List.mem_cons_self
  · have found : disk.entryAt location = some .folder := by
      unfold isFolderAt at isFolder
      split at isFolder
      · assumption
      · cases isFolder
    refine List.mem_cons_of_mem _ (List.mem_map.mpr ⟨(location, .folder), ?_, rfl⟩)
    exact List.mem_filter.mpr ⟨mem_entries_of_entryAt isTop found, rfl⟩

theorem mem_namesIn_iff :
    name ∈ disk.namesIn folder ↔ ∃ entry, (folder ++ [name], entry) ∈ disk.entries := by
  simp only [namesIn, List.mem_mergeSort, List.mem_filterMap, Option.ite_none_right_eq_some]
  constructor
  · rintro ⟨⟨place, entry⟩, member, rfl, isLast⟩
    refine ⟨entry, ?_⟩
    rwa [List.dropLast_append_getLast? name isLast]
  · rintro ⟨entry, member⟩
    exact ⟨_, member, by simp, by simp⟩

theorem WellFormed.entryAt_eq_some (wellFormed : disk.WellFormed) (isInner : location ≠ [])
    (member : (location, entry) ∈ disk.entries) : disk.entryAt location = some entry := by
  rw [entryAt, if_neg isInner, Option.map_eq_some_iff]
  have isThere : (disk.entries.find? fun held => held.1 = location).isSome := by
    rw [List.find?_isSome]
    exact ⟨_, member, by simp⟩
  obtain ⟨found, isFound⟩ := Option.isSome_iff_exists.mp isThere
  have samePlace : found.1 = location := by simpa using List.find?_some isFound
  have same : found = (location, entry) :=
    List.inj_on_of_nodup_map wellFormed.single (List.mem_of_find?_eq_some isFound) member samePlace
  exact ⟨found, isFound, by rw [same]⟩

theorem WellFormed.mem_namesIn_iff_isSome (wellFormed : disk.WellFormed) :
    name ∈ disk.namesIn folder ↔ (disk.entryAt (folder ++ [name])).isSome := by
  rw [mem_namesIn_iff, Option.isSome_iff_exists]
  refine exists_congr fun entry => ⟨wellFormed.entryAt_eq_some (by simp), ?_⟩
  exact mem_entries_of_entryAt (by simp)

theorem WellFormed.isName (wellFormed : disk.WellFormed) (member : name ∈ disk.namesIn folder) :
    IsName name := by
  obtain ⟨entry, isHeld⟩ := mem_namesIn_iff.mp member
  exact wellFormed.named _ isHeld name (by simp)

/-- The names in a folder come in strictly increasing order. -/
theorem WellFormed.pairwise_namesIn (wellFormed : disk.WellFormed) (folder : Location) :
    (disk.namesIn folder).Pairwise (· < ·) := by
  have ascending : (disk.namesIn folder).Pairwise fun left right => ¬ right < left := by
    refine (List.pairwise_mergeSort ?_ ?_ _).imp fun ordered => by simpa using ordered
    · intro first second third ordered following
      simp only [Bool.not_eq_true', decide_eq_false_iff_not, String.not_lt] at ordered following ⊢
      exact String.le_trans ordered following
    · intro left right
      simpa only [Bool.or_eq_true, Bool.not_eq_true', decide_eq_false_iff_not, String.not_lt]
        using String.le_total left right
  have distinct : (disk.namesIn folder).Nodup := by
    refine (List.mergeSort_perm _ _).nodup_iff.mpr ?_
    have places : disk.entries.Pairwise fun left right => left.1 ≠ right.1 :=
      List.pairwise_map.mp wellFormed.single
    refine List.pairwise_filterMap.mpr (places.imp fun differ name isName other isOther => ?_)
    simp only [Option.ite_none_right_eq_some] at isName isOther
    rintro rfl
    apply differ
    rw [← List.dropLast_append_getLast? name isName.2,
      ← List.dropLast_append_getLast? name isOther.2, isName.1, isOther.1]
  refine (ascending.and distinct).imp fun {left right} ⟨notAfter, differ⟩ => ?_
  by_contra notBefore
  exact differ (String.le_antisymm (String.not_lt.mp notAfter) (String.not_lt.mp notBefore))

end Entries

/-! ## Entries that are put -/

section Put

variable {disk : Disk} {location other : Location} {entry : Entry}

theorem entryAt_put_self (isInner : location ≠ []) :
    (disk.put location entry).entryAt location = some entry := by
  have notBefore : (disk.entries.filter fun old => old.1 ≠ location).find?
      (fun old => old.1 = location) = none := by
    rw [List.find?_eq_none]
    intro old member
    simpa using (List.mem_filter.mp member).2
  rw [entryAt, if_neg isInner, put, List.find?_append, notBefore]
  simp

theorem entryAt_put_of_ne (isOther : other ≠ location) :
    (disk.put location entry).entryAt other = disk.entryAt other := by
  have sameOthers : (disk.entries.filter fun old => old.1 ≠ location).find?
      (fun old => old.1 = other) = disk.entries.find? fun old => old.1 = other := by
    rw [List.find?_filter]
    congr 1
    funext old
    by_cases isThere : old.1 = other <;> simp [isThere, isOther]
  rw [entryAt, entryAt, put, List.find?_append, sameOthers]
  simp [Ne.symm isOther]

end Put

/-! ## Disks that keep what another one holds -/

/-- What is on the one disk is on the other too, except that files may have another content. -/
structure Keeps (before after : Disk) : Prop where
  working : after.working = before.working
  folders : ∀ {location : Location}, before.entryAt location = some .folder →
    after.entryAt location = some .folder
  links : ∀ {location : Location} {target : String},
    before.entryAt location = some (.link target) → after.entryAt location = some (.link target)
  files : ∀ {location : Location} {content : ByteArray},
    before.entryAt location = some (.file content) →
      ∃ other, after.entryAt location = some (.file other)

section Keeps

variable {before middle after : Disk}

theorem Keeps.refl (disk : Disk) : Keeps disk disk :=
  ⟨rfl, id, id, fun held => ⟨_, held⟩⟩

theorem Keeps.trans (first : Keeps before middle) (second : Keeps middle after) :
    Keeps before after where
  working := second.working.trans first.working
  folders held := second.folders (first.folders held)
  links held := second.links (first.links held)
  files held := by
    obtain ⟨other, isThere⟩ := first.files held
    exact second.files isThere

theorem isFolderAt_iff {disk : Disk} {location : Location} :
    disk.isFolderAt location = true ↔ disk.entryAt location = some .folder := by
  unfold isFolderAt
  split
  next held => simp [held]
  next notFolder => simpa using notFolder

theorem Keeps.isFolderAt (keeps : Keeps before after) {location : Location}
    (isFolder : before.isFolderAt location = true) : after.isFolderAt location = true :=
  isFolderAt_iff.mpr (keeps.folders (isFolderAt_iff.mp isFolder))

/-- A walk that is not stopped for want of a folder is not stopped on the other disk. -/
theorem Keeps.not_stopped (keeps : Keeps before after) {location : Location}
    (isFolder : ¬ (!before.isFolderAt location) = true) :
    ¬ (!after.isFolderAt location) = true := by
  simpa using keeps.isFolderAt (by simpa using isFolder)

/-- A walk that gets somewhere never meets a vacant location, so it is not changed. -/
theorem Keeps.walk (keeps : Keeps before after) {follow : Bool} {links : Nat}
    {current found : Location} {pieces : List String}
    (walked : before.walk follow links current pieces = .ok (.found found)) :
    after.walk follow links current pieces = .ok (.found found) := by
  fun_induction before.walk follow links current pieces with
  | case1 =>
      rw [Disk.walk]
      exact walked
  | case2 => cases walked
  | case3 _ current piece rest isFolder silent inductionHypothesis =>
      rw [Disk.walk, if_neg (keeps.not_stopped isFolder), if_pos silent]
      exact inductionHypothesis walked
  | case4 _ current rest isFolder speaks inductionHypothesis =>
      rw [Disk.walk, if_neg (keeps.not_stopped isFolder), if_neg speaks, if_pos rfl]
      exact inductionHypothesis walked
  | case5 => cases walked
  | case6 => cases walked
  | case7 => cases walked
  | case8 _ current piece rest isFolder speaks inwards fits text held isLast =>
      rw [Disk.walk, if_neg (keeps.not_stopped isFolder), if_neg speaks, if_neg inwards,
        if_neg fits, keeps.links held]
      simp only [isLast, if_true]
      exact walked
  | case9 => cases walked
  | case10 current piece rest isFolder speaks inwards fits text held goesOn links start pieces
      started inductionHypothesis =>
      rw [Disk.walk, if_neg (keeps.not_stopped isFolder), if_neg speaks, if_neg inwards,
        if_neg fits, keeps.links held]
      simp only [goesOn, Bool.false_eq_true, if_false, started]
      exact inductionHypothesis walked
  | case11 _ current piece rest isFolder speaks inwards fits entry isNoLink held
      inductionHypothesis =>
      rw [Disk.walk, if_neg (keeps.not_stopped isFolder), if_neg speaks, if_neg inwards, if_neg fits]
      cases entry with
      | link text => exact absurd rfl (isNoLink text)
      | file content =>
          obtain ⟨other, isThere⟩ := keeps.files held
          rw [isThere]
          exact inductionHypothesis walked
      | folder =>
          rw [keeps.folders held]
          exact inductionHypothesis walked

/-- A path that leads somewhere leads there still. -/
theorem Keeps.canonical (keeps : Keeps before after) {path : String} {location : Location}
    (leads : before.canonical path = .ok location) : after.canonical path = .ok location := by
  unfold Disk.canonical locate resolve at leads ⊢
  rw [keeps.working]
  split_ifs at leads ⊢
  dsimp only at leads ⊢
  split at leads
  next => cases leads
  next => cases leads
  next found walked =>
    rw [keeps.walk walked]
    exact leads

end Keeps

/-! ## One more link -/

/-- The disk with a link at a location. -/
def withLink (disk : Disk) (place : Location) (target : String) : Disk :=
  disk.put place (.link target)

section WithLink

variable {disk : Disk} {place location folder : Location} {target : String}
  (isInner : place ≠ []) (vacant : disk.entryAt place = none)

include isInner vacant

theorem entries_withLink :
    (disk.withLink place target).entries = disk.entries ++ [(place, .link target)] := by
  have untouched : (disk.entries.filter fun old => old.1 ≠ place) = disk.entries := by
    refine List.filter_eq_self.mpr fun old member => ?_
    rw [entryAt, if_neg isInner, Option.map_eq_none_iff, List.find?_eq_none] at vacant
    simpa using vacant old member
  change (disk.entries.filter fun old => old.1 ≠ place) ++ _ = _
  rw [untouched]

omit vacant in
theorem entryAt_withLink_self :
    (disk.withLink place target).entryAt place = some (.link target) :=
  entryAt_put_self isInner

omit isInner vacant in
theorem entryAt_withLink_of_ne (isOther : location ≠ place) :
    (disk.withLink place target).entryAt location = disk.entryAt location :=
  entryAt_put_of_ne isOther

/-- No folder comes or goes. -/
theorem isFolderAt_withLink :
    (disk.withLink place target).isFolderAt location = disk.isFolderAt location := by
  unfold isFolderAt
  by_cases isPlace : location = place
  · rw [isPlace, entryAt_withLink_self isInner, vacant]
  · rw [entryAt_withLink_of_ne isPlace]

theorem folderCount_withLink :
    (disk.withLink place target).folderCount = disk.folderCount := by
  unfold folderCount
  rw [entries_withLink isInner vacant, List.filter_append]
  simp

theorem namesIn_withLink_of_ne (isOther : folder ≠ place.dropLast) :
    (disk.withLink place target).namesIn folder = disk.namesIn folder := by
  unfold namesIn
  rw [entries_withLink isInner vacant, List.filterMap_append]
  simp [Ne.symm isOther]

theorem mem_namesIn_withLink {name : String} :
    name ∈ (disk.withLink place target).namesIn folder ↔
      name ∈ disk.namesIn folder ∨ folder ++ [name] = place := by
  simp only [mem_namesIn_iff, entries_withLink isInner vacant, List.mem_append,
    List.mem_singleton, Prod.mk.injEq]
  constructor
  · rintro ⟨entry, member | ⟨isPlace, -⟩⟩
    · exact .inl ⟨entry, member⟩
    · exact .inr isPlace
  · rintro (⟨entry, member⟩ | isPlace)
    · exact ⟨entry, .inl member⟩
    · exact ⟨_, .inr ⟨isPlace, rfl⟩⟩

theorem WellFormed.withLink (wellFormed : disk.WellFormed)
    (named : ∀ name ∈ place, IsName name) : (disk.withLink place target).WellFormed where
  single := by
    rw [entries_withLink isInner vacant, List.map_append]
    refine List.Nodup.append wellFormed.single (by simp) ?_
    intro held member isPlace
    rw [List.map_singleton, List.mem_singleton] at isPlace
    subst isPlace
    obtain ⟨⟨held, entry⟩, isHeld, rfl⟩ := List.mem_map.mp member
    rw [wellFormed.entryAt_eq_some isInner isHeld] at vacant
    cases vacant
  named := by
    intro entry member name isName
    rw [entries_withLink isInner vacant, List.mem_append, List.mem_singleton] at member
    rcases member with isHeld | rfl
    · exact wellFormed.named entry isHeld name isName
    · exact named name isName

theorem entryAt_withLink {entry : Entry} (held : disk.entryAt location = some entry) :
    (disk.withLink place target).entryAt location = some entry := by
  have isOther : location ≠ place := by
    rintro rfl
    rw [vacant] at held
    cases held
  rw [entryAt_withLink_of_ne isOther, held]

theorem keeps_withLink : Keeps disk (disk.withLink place target) where
  working := rfl
  folders held := entryAt_withLink isInner vacant held
  links held := entryAt_withLink isInner vacant held
  files held := ⟨_, entryAt_withLink isInner vacant held⟩

/-- A path that leads somewhere leads there still. -/
theorem canonical_withLink {path : String} (leads : disk.canonical path = .ok location) :
    (disk.withLink place target).canonical path = .ok location :=
  (keeps_withLink isInner vacant).canonical leads

end WithLink

end Disk

end FunctionAtlas.Storage
