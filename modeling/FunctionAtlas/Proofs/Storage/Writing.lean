import FunctionAtlas.Proofs.Storage.Entries

/-!
Contract: what is on a disk after a file is written.

The walk to the place of a file goes the way that a walk to a file goes: once the file is there, the
same path leads to it. Nothing else changes, so all paths that led somewhere lead there still, and
reading the path gives what was written. Two paths that end in different names of one folder lead
to different places, unless they are links.

Owns: what one write does, and reading after it.

Does not own: folders that are made on the way.
-/

namespace FunctionAtlas.Storage

namespace Disk

/-! ## The place of a file -/

/-- The place of a file holds a file or nothing. -/
theorem vacant_or_file_of_walkToFile {disk : Disk} {links : Nat} {current location : Location}
    {pieces : List String} (walked : disk.walkToFile links current pieces = .ok location) :
    location ≠ [] ∧ (disk.entryAt location = none ∨
      ∃ content, disk.entryAt location = some (.file content)) := by
  fun_induction disk.walkToFile links current pieces with
  | case3 _ _ _ _ _ _ inductionHypothesis => exact inductionHypothesis walked
  | case4 _ _ _ _ _ inductionHypothesis => exact inductionHypothesis walked
  | case7 _ current piece _ _ _ _ vacant =>
      cases walked
      exact ⟨by simp, .inl vacant⟩
  | case9 _ current piece _ _ _ _ content held =>
      cases walked
      exact ⟨by simp, .inr ⟨content, held⟩⟩
  | case11 _ _ _ _ _ _ _ _ _ _ inductionHypothesis => exact inductionHypothesis walked
  | case13 _ _ _ _ _ _ _ _ _ _ _ _ _ _ inductionHypothesis => exact inductionHypothesis walked
  | case1 | case2 | case5 | case6 | case8 | case10 | case12 => cases walked

/-- Once there is a file at its place, the walk to the place leads to the file. -/
theorem walk_of_walkToFile {disk after : Disk} (keeps : Keeps disk after) {links : Nat}
    {current location : Location} {pieces : List String} {content : ByteArray}
    (walked : disk.walkToFile links current pieces = .ok location)
    (held : after.entryAt location = some (.file content)) :
    after.walk true links current pieces = .ok (.found location) := by
  -- Both walks make the same steps up to the last name, which the other disk holds in any case.
  fun_induction disk.walkToFile links current pieces with
  | case3 _ current piece rest isFolder silent inductionHypothesis =>
      rw [walk, if_neg (keeps.not_stopped isFolder), if_pos silent]
      exact inductionHypothesis walked
  | case4 _ current rest isFolder speaks inductionHypothesis =>
      rw [walk, if_neg (keeps.not_stopped isFolder), if_neg speaks, if_pos rfl]
      exact inductionHypothesis walked
  | case7 _ current piece isFolder speaks inwards fits
  | case9 _ current piece isFolder speaks inwards fits =>
      cases walked
      rw [walk, if_neg (keeps.not_stopped isFolder), if_neg speaks, if_neg inwards, if_neg fits,
        held]
      simp only [walk]
  | case11 _ current piece rest isFolder speaks inwards _ fits isThere inductionHypothesis =>
      rw [walk, if_neg (keeps.not_stopped isFolder), if_neg speaks, if_neg inwards, if_neg fits,
        keeps.folders isThere]
      exact inductionHypothesis walked
  | case13 current piece rest isFolder speaks inwards _ fits target isThere links start pieces
      started inductionHypothesis =>
      rw [walk, if_neg (keeps.not_stopped isFolder), if_neg speaks, if_neg inwards, if_neg fits,
        keeps.links isThere]
      simp only [Bool.not_true, Bool.and_false, Bool.false_eq_true, if_false, started]
      exact inductionHypothesis walked
  | case1 | case2 | case5 | case6 | case8 | case10 | case12 => cases walked

/-! ## One write -/

/-- A disk after a file was written: its path leads to it, and nothing else is changed. -/
structure Wrote (before : Disk) (path : String) (content : ByteArray) (after : Disk)
    (location : Location) : Prop where
  leads : after.canonical path = .ok location
  holds : after.entryAt location = some (.file content)
  others : ∀ other, other ≠ location → after.entryAt other = before.entryAt other
  keeps : Keeps before after

/-- A file in the place of a file or of nothing takes no entry away. -/
theorem keeps_put {disk : Disk} {location : Location} (isInner : location ≠ [])
    (noLoss : disk.entryAt location = none ∨
      ∃ content, disk.entryAt location = some (.file content)) (content : ByteArray) :
    Keeps disk (disk.put location (.file content)) := by
  have elsewhere : ∀ {other entry}, disk.entryAt other = some entry → (∀ old, entry ≠ .file old) →
      (disk.put location (.file content)).entryAt other = some entry := by
    intro other entry held noFile
    rw [entryAt_put_of_ne, held]
    rintro rfl
    rcases noLoss with vacant | ⟨old, isFile⟩
    · rw [vacant] at held
      cases held
    · rw [isFile] at held
      exact noFile old (Option.some.inj held).symm
  constructor
  · rfl
  · intro other held
    exact elsewhere held (by simp)
  · intro other target held
    exact elsewhere held (by simp)
  · intro other old held
    by_cases isHere : other = location
    · subst isHere
      exact ⟨content, entryAt_put_self isInner⟩
    · exact ⟨old, by rw [entryAt_put_of_ne isHere, held]⟩

/-- The place of a file holds a file or nothing. -/
theorem vacant_or_file_of_locateFile {disk : Disk} {path : String} {location : Location}
    (isPlace : disk.locateFile path = .ok location) :
    location ≠ [] ∧ (disk.entryAt location = none ∨
      ∃ content, disk.entryAt location = some (.file content)) := by
  unfold locateFile at isPlace
  split_ifs at isPlace
  exact vacant_or_file_of_walkToFile isPlace

/-- Once there is a file at its place, the path leads to the file. -/
theorem canonical_of_locateFile {before after : Disk} (keeps : Keeps before after) {path : String}
    {location : Location} {content : ByteArray} (isPlace : before.locateFile path = .ok location)
    (held : after.entryAt location = some (.file content)) :
    after.canonical path = .ok location := by
  unfold locateFile at isPlace
  split_ifs at isPlace with hasZero isEmpty isLong
  dsimp only at isPlace
  have walked := walk_of_walkToFile keeps isPlace held
  rw [canonical, locate, resolve, if_neg hasZero, if_neg isEmpty, if_neg isLong, keeps.working]
  dsimp only
  rw [walked]

/-- A write puts the content at one place. -/
theorem exists_wrote_of_writeBytes {before after : Disk} {path : String} {content : ByteArray}
    (written : before.writeBytes path content = .ok after) :
    ∃ location, Wrote before path content after location := by
  unfold writeBytes at written
  split at written
  next => cases written
  next location isPlace =>
    cases written
    obtain ⟨isInner, noLoss⟩ := vacant_or_file_of_locateFile isPlace
    have keeps := keeps_put isInner noLoss content
    have held : (before.put location (.file content)).entryAt location = some (.file content) :=
      entryAt_put_self isInner
    exact ⟨location, canonical_of_locateFile keeps isPlace held, held,
      fun other isOther => entryAt_put_of_ne isOther, keeps⟩

/-- If a write replaced a file, its path led to that file before. -/
theorem canonical_of_writeBytes {before after : Disk} {path : String} {content old : ByteArray}
    {location : Location} (written : before.writeBytes path content = .ok after)
    (leads : after.canonical path = .ok location)
    (held : before.entryAt location = some (.file old)) :
    before.canonical path = .ok location := by
  unfold writeBytes at written
  split at written
  next => cases written
  next place isPlace =>
    cases written
    obtain ⟨isInner, noLoss⟩ := vacant_or_file_of_locateFile isPlace
    have leadsToPlace := canonical_of_locateFile (keeps_put isInner noLoss content) isPlace
      (entryAt_put_self isInner)
    obtain rfl := Except.ok.inj (leads.symm.trans leadsToPlace)
    exact canonical_of_locateFile (.refl before) isPlace held

/-- Reading gives what is at the place that a path leads to. -/
theorem readText_of_canonical {disk : Disk} {path text : String} {location : Location}
    (leads : disk.canonical path = .ok location)
    (held : disk.entryAt location = some (.file text.toUTF8)) : disk.readText path = .ok text := by
  have isText : String.fromUTF8? text.toUTF8 = some text := dif_pos text.isValidUTF8
  rw [readText, readBytes, leads]
  dsimp only
  rw [held]
  dsimp only
  rw [isText]

/-! ## Different names in one folder -/

theorem getLast?_of_cons {piece name : String} {rest : List String}
    (ends : (piece :: rest).getLast? = some name) :
    rest = [] ∧ piece = name ∨ rest.getLast? = some name := by
  cases rest with
  | nil => exact .inl ⟨rfl, Option.some.inj ends⟩
  | cons next others => exact .inr (by rwa [List.getLast?_cons_cons] at ends)

/-- A walk that does not follow its last name ends at that name. -/
theorem getLast?_of_walk {disk : Disk} {links : Nat} {current location : Location}
    {pieces : List String} {name : String} (isName : IsName name)
    (ends : pieces.getLast? = some name)
    (walked : disk.walk false links current pieces = .ok (.found location)) :
    location.getLast? = some name := by
  generalize isFollow : false = follow at walked
  fun_induction disk.walk follow links current pieces with
  | case1 => cases ends
  | case3 _ current piece rest _ silent inductionHypothesis =>
      rcases getLast?_of_cons ends with ⟨-, rfl⟩ | endsLater
      · simp [isName.nonempty, isName.notHere] at silent
      · exact inductionHypothesis endsLater walked
  | case4 _ current rest _ _ inductionHypothesis =>
      rcases getLast?_of_cons ends with ⟨-, rfl⟩ | endsLater
      · exact absurd rfl isName.notUp
      · exact inductionHypothesis endsLater walked
  | case8 _ current piece rest _ _ _ _ text held isLast =>
      subst isFollow
      rcases getLast?_of_cons ends with ⟨-, rfl⟩ | endsLater
      · cases walked
        simp
      · obtain rfl : rest = [] := by simpa using isLast
        cases endsLater
  | case10 current piece rest _ _ _ _ text held goesOn links start targetPieces started
      inductionHypothesis =>
      subst isFollow
      rcases getLast?_of_cons ends with ⟨rfl, rfl⟩ | endsLater
      · simp at goesOn
      · refine inductionHypothesis ?_ walked
        rw [List.getLast?_append, endsLater]
        rfl
  | case11 _ current piece rest _ _ _ _ entry isNoLink held inductionHypothesis =>
      rcases getLast?_of_cons ends with ⟨rfl, rfl⟩ | endsLater
      · rw [walk] at walked
        cases walked
        simp
      · exact inductionHypothesis endsLater walked
  | case2 | case5 | case6 | case7 | case9 => cases walked

/-- The pieces of a path that is joined to a name end in that name. -/
theorem getLast?_startOf_joinPath {folder name : String} (isName : IsName name)
    (from_ : Location) : (startOf from_ (joinPath folder name)).2.getLast? = some name := by
  rw [startOf]
  by_cases isEmpty : folder = ""
  · rw [isEmpty, joinPath_empty isName.startsWith_slash, isName.startsWith_slash,
      splitSlash_of_not_mem isName.undivided]
    simp
  · rw [toList_joinPath isEmpty isName, splitSlash_append, splitSlash_of_not_mem isName.undivided,
      List.map_append]
    obtain ⟨first, rest, isStem⟩ := List.exists_cons_of_ne_nil (splitSlash_ne_nil (stemOf folder))
    rw [isStem]
    split_ifs <;> simp [List.getLast?_cons]

theorem getLast?_of_locate {disk : Disk} {folder name : String} {location : Location}
    (isName : IsName name) (leads : disk.locate false (joinPath folder name) = .ok location) :
    location.getLast? = some name := by
  unfold locate resolve at leads
  split_ifs at leads
  dsimp only at leads
  split at leads
  next => cases leads
  next => cases leads
  next walked =>
    cases leads
    exact getLast?_of_walk isName (getLast?_startOf_joinPath isName _) walked

end Disk

end FunctionAtlas.Storage
