import FunctionAtlas.Automaton.Table
import FunctionAtlas.Proofs.Grammar.Names

/-!
Contract: the table of a grammar has the names of the grammar.

Inlining puts productions into each other, but makes up no steps. So the shapes of productions
give the names and fields that steps of the grammar give, and symbols are described by their names.

Owns: the names and fields in a table.

Does not own: the names of the trees that a parser makes with the table.
-/

namespace FunctionAtlas.Automaton

open FunctionAtlas.Grammar

variable {holds : String → Prop} {grammar : Prepared}

/-! ## Inlining -/

theorem namesHold_splice {production inner : Production} (outerHolds : production.NamesHold holds)
    (innerHolds : inner.NamesHold holds) (position : Nat) :
    (splice production position inner).NamesHold holds := by
  unfold splice
  split
  next => exact outerHolds
  next removed isRemoved =>
    have ofRemoved := outerHolds removed (List.mem_of_getElem? isRemoved)
    extract_lets inserted
    have ofInserted : ∀ step ∈ inserted, step.NamesHold holds := by
      intro step member
      obtain ⟨⟨original, index⟩, isEntry, rfl⟩ := List.mem_map.mp member
      have ofOriginal := innerHolds original (List.fst_mem_of_mem_zipIdx isEntry)
      exact ⟨forall_mem_or ofRemoved.rename ofOriginal.rename,
        forall_mem_or ofRemoved.field ofOriginal.field⟩
    intro step member
    rcases List.mem_append.mp member with isEarlier | isLater
    · rcases List.mem_append.mp isEarlier with isBefore | isInserted
      · exact outerHolds step (List.mem_of_mem_take isBefore)
      · exact ofInserted step isInserted
    · exact outerHolds step (List.mem_of_mem_drop isLater)

theorem mem_categories_of_inlinedCategoryAt {production : Production} {position : Nat}
    {category : Category}
    (isInlined : inlinedCategoryAt grammar production position = some category) :
    category ∈ grammar.categories := by
  unfold inlinedCategoryAt at isInlined
  split at isInlined
  next =>
    split at isInlined
    · exact Array.mem_of_getElem? isInlined
    · cases isInlined
  next => cases isInlined

/-- Inlining leads to productions whose names and fields come from the grammar. -/
theorem namesHold_expandAt (names : grammar.NamesHold holds) (position fuel : Nat)
    {production : Production} (each : production.NamesHold holds) :
    ∀ expanded ∈ expandAt grammar position fuel production, expanded.NamesHold holds := by
  induction fuel generalizing production with
  | zero => exact List.forall_mem_singleton.mpr each
  | succ fuel inductionHypothesis =>
      rw [expandAt]
      split
      next => exact List.forall_mem_singleton.mpr each
      next category isInlined =>
        intro expanded member
        obtain ⟨inner, isInner, isExpanded⟩ := List.mem_flatMap.mp member
        have ofInner := names.productions category (mem_categories_of_inlinedCategoryAt isInlined)
          inner isInner
        exact inductionHypothesis (namesHold_splice each ofInner position) expanded isExpanded

/-- The productions of a pool have names and fields with a property. -/
def PoolHolds (holds : String → Prop) (pool : Array OwnedProduction) : Prop :=
  ∀ owned ∈ pool, owned.production.NamesHold holds

theorem poolHolds_push {pool : Array OwnedProduction} (known : PoolHolds holds pool)
    {owned : OwnedProduction} (each : owned.production.NamesHold holds) :
    PoolHolds holds (pool.push owned) :=
  Array.forall_mem_push.mpr ⟨each, known⟩

theorem poolHolds_modify {pool : Array OwnedProduction} (known : PoolHolds holds pool)
    (index : Nat) (change : OwnedProduction → OwnedProduction)
    (keeps : ∀ owned, (change owned).production = owned.production) :
    PoolHolds holds (pool.modify index change) := by
  intro owned member
  obtain ⟨place, isThere⟩ := Array.mem_iff_getElem?.mp member
  rw [Array.getElem?_modify] at isThere
  split at isThere
  next =>
    obtain ⟨original, isOriginal, rfl⟩ := Option.map_eq_some_iff.mp isThere
    rw [keeps]
    exact known original (Array.mem_of_getElem? isOriginal)
  next => exact known owned (Array.mem_of_getElem? isThere)

theorem poolHolds_addProduction {pool : Array OwnedProduction} (known : PoolHolds holds pool)
    (category : Nat) {production : Production} (each : production.NamesHold holds) :
    PoolHolds holds (addProduction pool category production).2 := by
  unfold addProduction
  split
  · exact known
  · exact poolHolds_push known each

theorem poolHolds_closePool (names : grammar.NamesHold holds) (fuel index : Nat)
    {pool : Array OwnedProduction} (known : PoolHolds holds pool) :
    PoolHolds holds (closePool grammar fuel index pool) := by
  induction fuel generalizing index pool with
  | zero => exact known
  | succ fuel inductionHypothesis =>
      rw [closePool]
      split
      next => exact known
      next owned isOwned =>
        split
        next => exact inductionHypothesis (index + 1) known
        next position isFirst =>
          have ofOwned := known owned (Array.mem_of_getElem? isOwned)
          refine inductionHypothesis (index + 1) (poolHolds_modify ?_ index _ fun _ => rfl)
          refine List.foldlRecOn (expandAt grammar position 8 owned.production) _
            (motive := fun state : List Nat × _ => PoolHolds holds state.2) known ?_
          intro state known production member
          exact poolHolds_addProduction known owned.category
            (namesHold_expandAt names position 8 ofOwned production member)

theorem poolHolds_productionPool (names : grammar.NamesHold holds) :
    PoolHolds holds (productionPool grammar) := by
  apply poolHolds_closePool names
  intro owned member
  obtain ⟨⟨category, index⟩, isCategory, isDeclared⟩ :=
    List.mem_flatMap.mp (List.mem_toArray.mp member)
  obtain ⟨production, isProduction, rfl⟩ := List.mem_map.mp isDeclared
  exact names.productions category
    (Array.mem_toList_iff.mp (List.fst_mem_of_mem_zipIdx isCategory)) production isProduction

/-! ## Shapes -/

/-- The names and fields that a production gives to its children have a property. -/
structure ProductionShape.NamesHold (holds : String → Prop) (shape : ProductionShape) : Prop where
  renames : ∀ rename ∈ shape.renames, ∀ name ∈ rename, holds name.text
  fields : ∀ field ∈ shape.fields, ∀ name ∈ field, holds name

theorem mem_of_mem_dropTrailing {Item : Type} {entries : List (Option Item)} {entry : Option Item}
    (member : entry ∈ dropTrailing entries) : entry ∈ entries := by
  have isKept := List.mem_reverse.mp member
  exact List.mem_reverse.mp (List.dropWhile_subset _ isKept)

theorem namesHold_ofProduction {production : Production} (each : production.NamesHold holds)
    (names : Array (List String)) :
    (ProductionShape.ofProduction grammar names production).NamesHold holds where
  renames rename member := by
    obtain ⟨step, isStep, rfl⟩ := List.mem_map.mp (mem_of_mem_dropTrailing member)
    exact (each step isStep).rename
  fields field member := by
    obtain ⟨step, isStep, rfl⟩ := List.mem_map.mp (mem_of_mem_dropTrailing member)
    exact (each step isStep).field

/-- The shapes of a table give names and fields with a property. -/
def ShapesHold (holds : String → Prop) (shapes : Array ProductionShape) : Prop :=
  ∀ shape ∈ shapes, shape.NamesHold holds

theorem shapesHold_addShape {shapes : Array ProductionShape} (known : ShapesHold holds shapes)
    {shape : ProductionShape} (each : shape.NamesHold holds) :
    ShapesHold holds (addShape shapes shape).2 := by
  unfold addShape
  split
  next => exact known
  next => exact Array.forall_mem_push.mpr ⟨each, known⟩

/-- Every shape in the table of items is that of a production, or gives nothing. -/
theorem shapesHold_ofGrammar (names : grammar.NamesHold holds) :
    ShapesHold holds (ItemTable.ofGrammar grammar).shapes := by
  unfold ItemTable.ofGrammar
  extract_lets numbering startProduction pool bases marked items fields allSteps nodeNames allFields
    keys ranks firstSets symbolAt readStep replacements firstOf declaredCount additions
  have ofStart : startProduction.NamesHold holds :=
    List.forall_mem_singleton.mpr ⟨by simp, by simp⟩
  have ofPool : PoolHolds holds pool := poolHolds_push (poolHolds_productionPool names) ofStart
  have ofPlain : ShapesHold holds #[ProductionShape.plain] := by
    intro shape member
    rw [Array.mem_singleton.mp member]
    exact ⟨by simp [ProductionShape.plain], by simp [ProductionShape.plain]⟩
  have ofFold := List.foldlRecOn pool.toList
    (fun (state : Array Nat × Array ProductionShape) owned =>
      let added := addShape state.2 (ProductionShape.ofProduction grammar fields owned.production)
      (state.1.push added.1, added.2))
    (b := (#[], #[ProductionShape.plain])) (motive := fun state => ShapesHold holds state.2)
    ofPlain (by
      intro state known owned member
      exact shapesHold_addShape known
        (namesHold_ofProduction (ofPool owned (Array.mem_toList_iff.mp member)) fields))
  rw [Array.foldl_toList] at ofFold
  exact ofFold

/-! ## Tables -/

/-- The names in a table have a property: those of symbols, and those that shapes give. -/
structure Table.NamesHold (holds : String → Prop) (table : Table) : Prop where
  symbols : ∀ info ∈ table.symbols, holds info.name
  renames : ∀ shape ∈ table.shapes, ∀ rename ∈ shape.renames, ∀ name ∈ rename, holds name.text
  fields : ∀ shape ∈ table.shapes, ∀ field ∈ shape.fields, ∀ name ∈ field, holds name

theorem holds_symbolInfo (names : grammar.NamesHold holds) (symbol : Sym) {name : String}
    (named : holds name) (kind : SymbolKind) : holds (symbolInfo grammar symbol name kind).name := by
  unfold symbolInfo
  split
  next entry shown found => exact names.defaults _ (List.mem_of_find?_eq_some found)
  next => exact named

theorem holds_symbolInfos (names : grammar.NamesHold holds) (unnamed : holds "")
    (ending : holds "end") (numbering : Numbering) (order : List Nat) :
    ∀ info ∈ symbolInfos grammar numbering order, holds info.name := by
  unfold symbolInfos
  rw [List.forall_mem_append]
  constructor
  · intro info member
    obtain ⟨token, -, rfl⟩ := List.mem_map.mp member
    split
    next => exact ending
    next =>
      split
      next =>
        split
        next terminal isTerminal =>
          have named := names.terminals terminal (Array.mem_of_getElem? isTerminal)
          exact holds_symbolInfo names _ named _
        next => exact unnamed
      next =>
        split
        next external isExternal =>
          have named := names.externals external (Array.mem_of_getElem? isExternal)
          exact holds_symbolInfo names _ named _
        next => exact unnamed
  · intro info member
    obtain ⟨⟨category, index⟩, isEntry, rfl⟩ := List.mem_map.mp member
    apply holds_symbolInfo names
    exact names.categories category (Array.mem_toList_iff.mp (List.fst_mem_of_mem_zipIdx isEntry))

/-- The table of a grammar has the names of the grammar. -/
theorem namesHold_ofGrammar (names : grammar.NamesHold holds) (unnamed : holds "")
    (ending : holds "end") : (Table.ofGrammar grammar).NamesHold holds := by
  have ofShapes := shapesHold_ofGrammar names
  have ofSymbols := holds_symbolInfos names unnamed ending (ItemTable.ofGrammar grammar).numbering
    (tokenOrder grammar (ItemTable.ofGrammar grammar).numbering)
  constructor
  · exact fun info member => ofSymbols info (List.mem_toArray.mp member)
  · intro shape member
    obtain ⟨original, isOriginal, rfl⟩ := Array.mem_map.mp member
    exact fun rename isRename => (ofShapes original isOriginal).renames rename
      (List.mem_toArray.mp isRename)
  · intro shape member
    obtain ⟨original, isOriginal, rfl⟩ := Array.mem_map.mp member
    exact fun field isField => (ofShapes original isOriginal).fields field
      (List.mem_toArray.mp isField)

end FunctionAtlas.Automaton
