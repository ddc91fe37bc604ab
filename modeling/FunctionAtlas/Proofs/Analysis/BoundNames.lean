import FunctionAtlas.Proofs.Analysis.DumpedRecord
import FunctionAtlas.Proofs.Grammar.FixedRows

/-!
Contract: the names that a list of parameters binds.

Extras aside, a parameter is an identifier, one with a type, a default value or both, or stars and
an identifier, with or without a type; marks between groups of parameters bind nothing. The names of
a definition are those of the identifiers of its parameters, in order. Extras can stand between any
two tokens and do not change them, with one exception: after stars, the first extra is taken for
what they bind, and the definition has no record.

Owns: bound identifiers, extras after stars, and lists that differ in extras only.

Does not own: parameters without an identifier; see `FunctionAtlas.Proofs.Analysis.Parameters`.
-/

namespace FunctionAtlas.Analysis

open FunctionAtlas.FirstFailure
open FunctionAtlas.Grammar
open FunctionAtlas.Grammar.Python
open FunctionAtlas.Syntax
open FunctionAtlas.Syntax.Node

/-! ## Parameters -/

/-- The identifier that a parameter binds, extras aside. -/
inductive Binds : Node → Node → Prop where
  | plain {parameter : Node} (isIdentifier : parameter.kind = "identifier") :
      Binds parameter parameter
  | defaulted {parameter name : Node} {others : List Node}
      (ofKind : parameter.kind ∈ defaultKinds)
      (inRow : parameter.solid = name :: others)
      (isIdentifier : name.kind = "identifier") :
      Binds parameter name
  | starred {parameter stars name : Node}
      (ofKind : parameter.kind ∈ splatKinds)
      (inRow : parameter.solid = [stars, name])
      (isIdentifier : name.kind = "identifier") :
      Binds parameter name
  | typed {parameter inner name : Node} {others : List Node}
      (ofKind : parameter.kind = "typed_parameter")
      (inRow : parameter.solid = inner :: others)
      (inside : Binds inner name) :
      Binds parameter name

/-- An extra stands between the stars of a parameter and what comes after them. -/
inductive HasStarGap : Node → Prop where
  | starred {parameter stars extra : Node} {rest : List Node}
      (ofKind : parameter.kind ∈ splatKinds)
      (inRow : parameter.children = stars :: extra :: rest)
      (isExtra : extra.isExtra = true) :
      HasStarGap parameter
  | typed {parameter inner : Node} {others : List Node}
      (ofKind : parameter.kind = "typed_parameter")
      (inRow : parameter.solid = inner :: others)
      (inside : HasStarGap inner) :
      HasStarGap parameter

/-- Parameters that bind the given identifiers, one each; the marks between them bind none. -/
def BindAll (parameters identifiers : List Node) : Prop :=
  List.Forall₂ Binds (parameters.filter fun parameter => !isSeparator parameter.kind) identifiers

theorem Binds.kind {parameter name : Node} (binds : Binds parameter name) :
    parameter.kind ∈ boundKinds := by
  cases binds with
  | plain isIdentifier => simp [boundKinds, isIdentifier]
  | defaulted ofKind =>
      have included : ∀ kind ∈ defaultKinds, kind ∈ boundKinds := by decide
      exact included parameter.kind ofKind
  | starred ofKind =>
      have included : ∀ kind ∈ splatKinds, kind ∈ boundKinds := by decide
      exact included parameter.kind ofKind
  | typed ofKind => simp [boundKinds, ofKind]

theorem Binds.isIdentifier {parameter name : Node} (binds : Binds parameter name) :
    name.kind = "identifier" := by
  induction binds with
  | plain isIdentifier => exact isIdentifier
  | defaulted _ _ isIdentifier => exact isIdentifier
  | starred _ _ isIdentifier => exact isIdentifier
  | typed _ _ _ inductionHypothesis => exact inductionHypothesis

/-- Only stars can have such a gap. -/
theorem HasStarGap.kind {parameter : Node} (gap : HasStarGap parameter) :
    parameter.kind ∈ "typed_parameter" :: splatKinds := by
  cases gap with
  | starred ofKind => exact List.mem_cons_of_mem _ ofKind
  | typed ofKind => simp [ofKind]

theorem not_hasStarGap_of_kind {parameter : Node}
    (notStarred : parameter.kind ∉ "typed_parameter" :: splatKinds) : ¬ HasStarGap parameter :=
  fun gap => notStarred gap.kind

section InTree

variable {source : Array Char} {root node name : Node} (tree : PythonTree source root)

include tree

/-- The first node of a row is the first child. -/
theorem children_of_row (member : node ∈ root.preorder) {first : Node} {others : List Node}
    (shows : node.kind ∉ hiddenStartKinds) (inRow : node.solid = first :: others) :
    ∃ rest, node.children = first :: rest ∧ rest.filter (fun child => !child.isExtra) = others := by
  have isFirst := tree.head?_solid member shows
  rw [inRow, List.head?_cons, eq_comm] at isFirst
  obtain ⟨rest, split⟩ := List.head?_eq_some_iff.mp isFirst
  have isSolid : first.isExtra = false :=
    tree.begins node member shows first (Option.mem_def.mpr isFirst)
  rw [solid, split, List.filter_cons, isSolid] at inRow
  exact ⟨rest, split, (List.cons.inj inRow).2⟩

/-- The child in the field of the name is the first one in the row. -/
theorem boundIdentifier_of_fielded (member : node ∈ root.preorder) {others : List Node}
    (byField : bindsByField node.kind = true) (inRow : node.solid = name :: others)
    (inField : name.label.field = some "name") (isIdentifier : name.kind = "identifier") :
    boundIdentifier node = some name.label := by
  have found : node.childByField "name" = some name := by
    rw [(tree.conforms node member).childByField_eq, filling, inRow, List.filter_cons]
    simp [inField]
  rw [boundIdentifier_byField byField found, boundIdentifier_of_identifier isIdentifier]

/-- Stars take the first node after them for what they bind, even if it is an extra. -/
theorem boundIdentifier_of_starred (member : node ∈ root.preorder) (named : node.isNamed = true)
    (ofKind : node.kind ∈ splatKinds) {stars : Node} (inRow : node.solid = [stars, name])
    (isIdentifier : name.kind = "identifier") :
    (HasStarGap node → boundIdentifier node = none) ∧
      (¬ HasStarGap node → boundIdentifier node = some name.label) := by
  have facts : ∀ kind ∈ splatKinds, kind ∉ hiddenStartKinds ∧ kind ≠ "identifier" ∧
      kind ≠ "typed_parameter" ∧ bindsByField kind = false ∧ bindsByFirst kind = true := by
    decide
  obtain ⟨shows, notIdentifier, notTyped, noField, byFirst⟩ := facts node.kind ofKind
  obtain ⟨sameStars, sameName, sameRow, anonymous, nameNamed⟩ :=
    tree.row_of_splat member named ofKind
  obtain ⟨rfl, tail⟩ := List.cons.inj (inRow.symm.trans sameRow)
  obtain ⟨rfl, -⟩ := List.cons.inj tail
  obtain ⟨rest, split, others⟩ := children_of_row tree member shows inRow
  cases rest with
  | nil => cases others
  | cons second more =>
      have bound : second.isNamed = true → boundIdentifier node = boundIdentifier second := by
        intro isNamed
        rw [boundIdentifier_eq, if_neg notIdentifier, noField, byFirst, namedChildren, split]
        simp [anonymous, isNamed]
      cases extra : second.isExtra with
      | true =>
          have ofExtra : ∀ kind ∈ grammar.extras, kind ≠ "identifier" ∧
              bindsByField kind = false ∧ bindsByFirst kind = false := by
            decide
          have isChild : second ∈ node.children := by simp [split]
          obtain ⟨isExtraKind, isNamed, -⟩ :=
            (tree.conforms node member).extras second isChild extra
          obtain ⟨notName, notByField, notByFirst⟩ := ofExtra second.kind isExtraKind
          have gap : HasStarGap node := .starred ofKind split extra
          refine ⟨fun _ => ?_, fun noGap => absurd gap noGap⟩
          rw [bound isNamed, boundIdentifier_eq, if_neg notName, notByField, notByFirst]
          rfl
      | false =>
          have isName : second = name := by
            rw [List.filter_cons, extra] at others
            exact (List.cons.inj others).1
          have noGap : ¬ HasStarGap node := by
            intro gap
            cases gap with
            | starred _ otherRow isExtra =>
                rw [split] at otherRow
                obtain ⟨rfl, -⟩ := List.cons.inj (List.cons.inj otherRow).2
                rw [extra] at isExtra
                cases isExtra
            | typed isTyped => exact notTyped isTyped
          refine ⟨fun gap => absurd gap noGap, fun _ => ?_⟩
          rw [isName] at bound
          rw [bound nameNamed, boundIdentifier_of_identifier isIdentifier]

/-- A parameter has its identifier unless an extra stands after its stars. -/
theorem boundIdentifier_of_binds (member : node ∈ root.preorder) (named : node.isNamed = true)
    (binds : Binds node name) :
    (HasStarGap node → boundIdentifier node = none) ∧
      (¬ HasStarGap node → boundIdentifier node = some name.label) := by
  induction binds with
  | @plain parameter isIdentifier =>
      have noGap : ¬ HasStarGap parameter :=
        not_hasStarGap_of_kind (by rw [isIdentifier]; decide)
      exact ⟨fun gap => absurd gap noGap, fun _ => boundIdentifier_of_identifier isIdentifier⟩
  | @defaulted parameter name others ofKind inRow isIdentifier =>
      have facts : ∀ kind ∈ defaultKinds, bindsByField kind = true ∧
          kind ∉ "typed_parameter" :: splatKinds := by
        decide
      obtain ⟨byField, notStarred⟩ := facts parameter.kind ofKind
      obtain ⟨first, _, sameRow, -, inField⟩ := tree.row_of_defaulted member named ofKind
      obtain ⟨rfl, -⟩ := List.cons.inj (inRow.symm.trans sameRow)
      refine ⟨fun gap => absurd gap (not_hasStarGap_of_kind notStarred), fun _ => ?_⟩
      exact boundIdentifier_of_fielded tree member byField inRow inField isIdentifier
  | starred ofKind inRow isIdentifier =>
      exact boundIdentifier_of_starred tree member named ofKind inRow isIdentifier
  | @typed parameter inner name others ofKind inRow inside inductionHypothesis =>
      -- The type comes after what is bound, so a gap is one of the pattern at the beginning.
      obtain ⟨first, _, sameRow, innerNamed⟩ := tree.row_of_typed member named ofKind
      obtain ⟨rfl, -⟩ := List.cons.inj (inRow.symm.trans sameRow)
      have isSolid : inner ∈ parameter.solid := by simp [inRow]
      have ofInner := inductionHypothesis (tree.mem_of_solid member isSolid) innerNamed
      have gapIff : HasStarGap parameter ↔ HasStarGap inner := by
        constructor
        · intro gap
          cases gap with
          | starred isStarred =>
              rw [ofKind] at isStarred
              exact absurd isStarred (by decide)
          | typed _ otherRow insideGap =>
              obtain ⟨rfl, -⟩ := List.cons.inj (inRow.symm.trans otherRow)
              exact insideGap
        · exact HasStarGap.typed ofKind inRow
      obtain ⟨rest, split, -⟩ :=
        children_of_row tree member (by rw [ofKind]; decide) inRow
      have bound : boundIdentifier parameter = boundIdentifier inner := by
        rw [boundIdentifier_eq, ofKind, namedChildren, split]
        simp [innerNamed, bindsByField, bindsByFirst]
      rw [gapIff, bound]
      exact ofInner

/-- A parameter with an identifier has a problem only if an extra stands after its stars. -/
theorem bindsNoName_iff_of_binds (member : node ∈ root.preorder) (named : node.isNamed = true)
    (isParameter : node.kind ∈ parameterKinds) (binds : Binds node name) :
    BindsNoName node ↔ HasStarGap node := by
  have notSeparators : ∀ kind ∈ boundKinds, isSeparator kind = false := by decide
  have notSeparator := notSeparators node.kind binds.kind
  obtain ⟨ofGap, ofNone⟩ := boundIdentifier_of_binds tree member named binds
  rw [← boundIdentifier_eq_none_iff tree member named isParameter notSeparator]
  constructor
  · intro unbound
    by_contra noGap
    rw [ofNone noGap] at unbound
    cases unbound
  · exact ofGap

theorem Binds.inTree (binds : Binds node name) (member : node ∈ root.preorder)
    (named : node.isNamed = true) : name ∈ root.preorder ∧ name.isNamed = true := by
  induction binds with
  | plain => exact ⟨member, named⟩
  | defaulted ofKind inRow =>
      obtain ⟨first, _, sameRow, isNamed, -⟩ := tree.row_of_defaulted member named ofKind
      obtain ⟨rfl, -⟩ := List.cons.inj (inRow.symm.trans sameRow)
      exact ⟨tree.mem_of_solid member (by simp [inRow]), isNamed⟩
  | starred ofKind inRow =>
      obtain ⟨_, second, sameRow, -, isNamed⟩ := tree.row_of_splat member named ofKind
      obtain ⟨rfl, -⟩ := List.cons.inj (List.cons.inj (inRow.symm.trans sameRow)).2
      exact ⟨tree.mem_of_solid member (by simp [inRow]), isNamed⟩
  | typed ofKind inRow _ inductionHypothesis =>
      obtain ⟨first, _, sameRow, isNamed⟩ := tree.row_of_typed member named ofKind
      obtain ⟨rfl, -⟩ := List.cons.inj (inRow.symm.trans sameRow)
      exact inductionHypothesis (tree.mem_of_solid member (by simp [inRow])) isNamed

/-- The names of a list of parameters are those of the bound identifiers, in order. -/
theorem parameterNames_of_bindAll {file : String} {parameters identifiers : List Node}
    {names : List String}
    (inTree : ∀ parameter ∈ parameters, parameter ∈ root.preorder ∧ parameter.isNamed = true)
    (binds : BindAll parameters identifiers)
    (succeeds : parameterNames file source parameters = .ok names) :
    names = identifiers.map fun identifier => textOf source identifier.label := by
  induction parameters generalizing identifiers names with
  | nil =>
      obtain rfl : [] = names := Except.ok.inj succeeds
      cases binds
      rfl
  | cons parameter rest inductionHypothesis =>
      obtain ⟨⟨member, named⟩, others⟩ := List.forall_mem_cons.mp inTree
      rw [parameterNames] at succeeds
      cases first : parameterName file source parameter with
      | error problem => simp [first] at succeeds
      | ok name =>
          cases later : parameterNames file source rest with
          | error problem => simp [first, later, Except.map] at succeeds
          | ok found =>
              rw [first, later] at succeeds
              obtain rfl : name.toList ++ found = names := Except.ok.inj succeeds
              rw [BindAll, List.filter_cons] at binds
              rcases parameterName_eq_ok first with
                ⟨separates, rfl⟩ | ⟨notSeparator, label, bound, rfl⟩
              · rw [separates] at binds
                exact inductionHypothesis others binds later
              · rw [notSeparator] at binds
                cases binds with
                | @cons _ identifier _ identifiers bindsFirst bindsRest =>
                    obtain ⟨ofGap, ofNone⟩ := boundIdentifier_of_binds tree member named bindsFirst
                    have noGap : ¬ HasStarGap parameter := by
                      intro gap
                      rw [ofGap gap] at bound
                      cases bound
                    obtain rfl : identifier.label = label :=
                      Option.some.inj ((ofNone noGap).symm.trans bound)
                    rw [inductionHypothesis others bindsRest later]
                    rfl

end InTree

/-! ## Lists that differ in extras only -/

/-- Two nodes that, extras aside, are made of the same tokens in the same way. -/
inductive SameTokens (source otherSource : Array Char) : Node → Node → Prop where
  | intro {node other : Node}
      (sameKind : node.kind = other.kind)
      (sameText : node.solid = [] → textOf source node.label = textOf otherSource other.label)
      (sameParts : List.Forall₂ (SameTokens source otherSource) node.solid other.solid) :
      SameTokens source otherSource node other

section SameTokens

variable {source otherSource : Array Char} {root node other name : Node}

theorem SameTokens.kind_eq (same : SameTokens source otherSource node other) :
    node.kind = other.kind := by
  cases same with
  | intro sameKind => exact sameKind

theorem SameTokens.parts (same : SameTokens source otherSource node other) :
    List.Forall₂ (SameTokens source otherSource) node.solid other.solid := by
  cases same with
  | intro _ _ sameParts => exact sameParts

theorem SameTokens.text_of_identifier (same : SameTokens source otherSource node other)
    (noParts : node.solid = []) : textOf source node.label = textOf otherSource other.label := by
  cases same with
  | intro _ sameText => exact sameText noParts

/-- Nodes of the same tokens bind identifiers of the same tokens. -/
theorem Binds.exists_of_sameTokens (binds : Binds node name)
    (same : SameTokens source otherSource node other) :
    ∃ otherName, Binds other otherName ∧ SameTokens source otherSource name otherName := by
  induction binds generalizing other with
  | plain isIdentifier => exact ⟨other, .plain (same.kind_eq ▸ isIdentifier), same⟩
  | defaulted ofKind inRow isIdentifier =>
      have row := same.parts
      rw [inRow, List.forall₂_cons_left_iff] at row
      obtain ⟨otherName, _, sameName, -, otherRow⟩ := row
      exact ⟨otherName, .defaulted (same.kind_eq ▸ ofKind) otherRow
        (sameName.kind_eq ▸ isIdentifier), sameName⟩
  | starred ofKind inRow isIdentifier =>
      have row := same.parts
      rw [inRow] at row
      match otherRow : other.solid, row with
      | [_, otherName], .cons _ (.cons sameName .nil) =>
          exact ⟨otherName, .starred (same.kind_eq ▸ ofKind) otherRow
            (sameName.kind_eq ▸ isIdentifier), sameName⟩
  | typed ofKind inRow _ inductionHypothesis =>
      have row := same.parts
      rw [inRow, List.forall₂_cons_left_iff] at row
      obtain ⟨otherInner, _, sameInner, -, otherRow⟩ := row
      obtain ⟨otherName, otherBinds, sameName⟩ := inductionHypothesis sameInner
      exact ⟨otherName, .typed (same.kind_eq ▸ ofKind) otherRow otherBinds, sameName⟩

/-- Lists of the same tokens bind the same names. -/
theorem BindAll.exists_of_sameTokens (tree : PythonTree source root)
    {parameters others identifiers : List Node}
    (inTree : ∀ parameter ∈ parameters, parameter ∈ root.preorder ∧ parameter.isNamed = true)
    (binds : BindAll parameters identifiers)
    (same : List.Forall₂ (SameTokens source otherSource) parameters others) :
    ∃ otherIdentifiers, BindAll others otherIdentifiers ∧
      (otherIdentifiers.map fun identifier => textOf otherSource identifier.label) =
        identifiers.map fun identifier => textOf source identifier.label := by
  induction same generalizing identifiers with
  | nil =>
      cases binds
      exact ⟨[], .nil, rfl⟩
  | @cons parameter other _ others sameFirst _ inductionHypothesis =>
      obtain ⟨⟨member, named⟩, restInTree⟩ := List.forall_mem_cons.mp inTree
      unfold BindAll at binds ⊢
      rw [List.filter_cons] at binds
      rw [List.filter_cons, ← sameFirst.kind_eq]
      cases separates : isSeparator parameter.kind with
      | true =>
          rw [separates] at binds
          exact inductionHypothesis restInTree binds
      | false =>
          rw [separates] at binds
          cases binds with
          | @cons _ identifier _ identifiers bindsFirst bindsRest =>
              obtain ⟨otherName, otherBinds, sameName⟩ :=
                bindsFirst.exists_of_sameTokens sameFirst
              obtain ⟨otherIdentifiers, otherRest, sameTexts⟩ :=
                inductionHypothesis restInTree bindsRest
              obtain ⟨nameMember, nameNamed⟩ := bindsFirst.inTree tree member named
              have sameText := sameName.text_of_identifier
                (tree.solid_of_identifier nameMember nameNamed bindsFirst.isIdentifier)
              refine ⟨otherName :: otherIdentifiers, .cons otherBinds otherRest, ?_⟩
              rw [List.map_cons, List.map_cons, sameTexts, sameText]

end SameTokens

/-! ## Definitions -/

/-- A parameter that is no mark between others binds an identifier. -/
theorem BindAll.exists_binds {parameters identifiers : List Node}
    (valid : BindAll parameters identifiers) :
    ∀ parameter ∈ parameters, isSeparator parameter.kind = false →
      ∃ identifier, Binds parameter identifier := by
  intro parameter isParameter notSeparator
  obtain ⟨identifier, -, binds⟩ := exists_of_mem_of_forall₂ valid.flip
    (List.mem_filter.mpr ⟨isParameter, by simp [notSeparator]⟩)
  exact ⟨identifier, binds⟩

section Definitions

variable {parsed : ParsedModule} {site : Site} {identifiers : List Node}
  (tree : PythonTree parsed.source parsed.root) (member : site ∈ definitionSites parsed.root)

include tree member

/-- The parameters of a definition are named nodes of the tree. -/
theorem named_of_mem_parametersOf :
    ∀ parameter ∈ parametersOf site.node,
      parameter ∈ parsed.root.preorder ∧ parameter.isNamed = true := by
  intro parameter isParameter
  obtain ⟨inTree, defines⟩ := definition_of_mem_definitionSites member
  obtain ⟨isMember, isNamed, -⟩ := parameter_of_mem_parametersOf tree inTree defines isParameter
  exact ⟨isMember, isNamed⟩

variable (valid : BindAll (parametersOf site.node) identifiers)

include valid

/-- In a list whose parameters bind identifiers, only extras after stars are a problem. -/
theorem bindsNoName_iff_hasStarGap {parameter : Node}
    (isParameter : parameter ∈ parametersOf site.node) :
    BindsNoName parameter ↔ HasStarGap parameter := by
  obtain ⟨inTree, defines⟩ := definition_of_mem_definitionSites member
  obtain ⟨isMember, isNamed, ofKind⟩ :=
    parameter_of_mem_parametersOf tree inTree defines isParameter
  cases separates : isSeparator parameter.kind with
  | false =>
      obtain ⟨identifier, binds⟩ := valid.exists_binds parameter isParameter separates
      exact bindsNoName_iff_of_binds tree isMember isNamed ofKind binds
  | true =>
      have notSeparators : ∀ kind ∈ bindingKinds, isSeparator kind = false := by decide
      have starred : ∀ kind ∈ "typed_parameter" :: splatKinds, kind ∈ bindingKinds := by decide
      have notBinding : parameter.kind ∉ bindingKinds := by
        intro isBinding
        rw [notSeparators parameter.kind isBinding] at separates
        cases separates
      exact ⟨fun bindsNone => absurd bindsNone.kind notBinding,
        fun gap => absurd (starred parameter.kind gap.kind) notBinding⟩

/-- A record names the identifiers that its parameters bind. -/
theorem parameters_of_bindAll {record : FunctionRecord}
    (made : siteRecord parsed.file parsed.source site = .ok record) :
    record.parameters = identifiers.map fun identifier =>
      textOf parsed.source identifier.label := by
  obtain ⟨name, parameters, -, signed, -, rfl⟩ := recordOf_eq_ok_iff.mp made
  obtain ⟨-, list, -, -, found, succeeds⟩ := exists_of_signatureOf signed
  have listIs : list.parts = parametersOf site.node := by
    rw [parametersOf, found]
    rfl
  rw [listIs] at succeeds
  exact parameterNames_of_bindAll tree (named_of_mem_parametersOf tree member) valid succeeds

/-- The problem of such a definition is that of the first parameter with an extra after its
stars. -/
theorem siteRecord_eq_problem_iff_hasStarGap (problem : Problem) :
    siteRecord parsed.file parsed.source site = .error (.problem problem) ↔
      ∃ earlier parameter later, parametersOf site.node = earlier ++ parameter :: later ∧
        (∀ other ∈ earlier, ¬ HasStarGap other) ∧ HasStarGap parameter ∧
        problem = .malformed parsed.file (placeOf parameter.label) parameter.kind .noIdentifier := by
  obtain ⟨inTree, defines⟩ := definition_of_mem_definitionSites member
  have notTuples : ∀ kind ∈ "typed_parameter" :: splatKinds, kind ≠ "tuple_pattern" := by decide
  have ofGap : ∀ {parameter : Node}, HasStarGap parameter →
      parameterProblem parsed.file parameter =
        .malformed parsed.file (placeOf parameter.label) parameter.kind .noIdentifier := by
    intro parameter gap
    rw [parameterProblem, if_neg (notTuples parameter.kind gap.kind)]
  rw [siteRecord_eq_problem_iff, signatureOf_eq_error_iff tree inTree defines]
  constructor
  · intro fails
    obtain ⟨earlier, parameter, later, split, before, bindsNone, isProblem⟩ := fails
    have gap := (bindsNoName_iff_hasStarGap tree member valid (by simp [split])).mp bindsNone
    refine ⟨earlier, parameter, later, split, ?_, gap, isProblem.trans (ofGap gap)⟩
    intro other isEarlier
    rw [← bindsNoName_iff_hasStarGap tree member valid (by simp [split, isEarlier])]
    exact before other isEarlier
  · intro fails
    obtain ⟨earlier, parameter, later, split, before, gap, isProblem⟩ := fails
    refine ⟨earlier, parameter, later, split, ?_, ?_, isProblem.trans (ofGap gap).symm⟩
    · intro other isEarlier
      rw [bindsNoName_iff_hasStarGap tree member valid (by simp [split, isEarlier])]
      exact before other isEarlier
    · exact (bindsNoName_iff_hasStarGap tree member valid (by simp [split])).mpr gap

/-- Such a definition has a record unless an extra stands after stars or its docstring cannot be
read. -/
theorem exists_siteRecord_eq_ok_iff :
    (∃ record, siteRecord parsed.file parsed.source site = .ok record) ↔
      (∀ parameter ∈ parametersOf site.node, ¬ HasStarGap parameter) ∧
        ¬ CutsDocstring parsed.file parsed.source site.node := by
  have decided : (∃ record, siteRecord parsed.file parsed.source site = .ok record) ↔
      ¬ ∃ failure, siteRecord parsed.file parsed.source site = .error failure := by
    cases siteRecord parsed.file parsed.source site <;> simp
  have gaps : (∃ parameter ∈ parametersOf site.node, BindsNoName parameter) ↔
      ∃ parameter ∈ parametersOf site.node, HasStarGap parameter := by
    apply exists_congr
    intro parameter
    exact and_congr_right (bindsNoName_iff_hasStarGap tree member valid)
  rw [decided, exists_siteRecord_eq_error_iff tree member, gaps, not_or]
  simp only [not_exists, not_and]

end Definitions

/-- A definition whose parameters all bind identifiers, apart from the marks between them, has a
record exactly if no extra stands directly after stars (and its docstring can be read). The record
names these identifiers, one for each parameter and in order. Otherwise the first parameter with
such an extra comes out as a malformed node. A definition whose list of parameters is made of the
same tokens, with extras at other places, binds the same names; it has the same record of them
unless one of its extras stands directly after stars. -/
theorem parameters_of_validList
    (parsed : ParsedModule)
    (tree : PythonTree parsed.source parsed.root)
    (site : Site)
    (member : site ∈ definitionSites parsed.root)
    (identifiers : List Node)
    (valid : BindAll (parametersOf site.node) identifiers) :
    let names := identifiers.map fun identifier => textOf parsed.source identifier.label
    ((∃ record, siteRecord parsed.file parsed.source site = .ok record) ↔
      (∀ parameter ∈ parametersOf site.node, ¬ HasStarGap parameter) ∧
        ¬ CutsDocstring parsed.file parsed.source site.node) ∧
    (∀ record, siteRecord parsed.file parsed.source site = .ok record →
      record.parameters = names) ∧
    (∀ problem, siteRecord parsed.file parsed.source site = .error (.problem problem) ↔
      ∃ earlier parameter later, parametersOf site.node = earlier ++ parameter :: later ∧
        (∀ other ∈ earlier, ¬ HasStarGap other) ∧ HasStarGap parameter ∧
        problem = .malformed parsed.file (placeOf parameter.label) parameter.kind
          .noIdentifier) ∧
    (∀ (other : ParsedModule) (otherSite : Site),
      PythonTree other.source other.root → otherSite ∈ definitionSites other.root →
      List.Forall₂ (SameTokens parsed.source other.source)
        (parametersOf site.node) (parametersOf otherSite.node) →
      ((∃ record, siteRecord other.file other.source otherSite = .ok record) ↔
        (∀ parameter ∈ parametersOf otherSite.node, ¬ HasStarGap parameter) ∧
          ¬ CutsDocstring other.file other.source otherSite.node) ∧
      ∀ record, siteRecord other.file other.source otherSite = .ok record →
        record.parameters = names) := by
  intro names
  refine ⟨exists_siteRecord_eq_ok_iff tree member valid, ?_,
    siteRecord_eq_problem_iff_hasStarGap tree member valid, ?_⟩
  · intro record made
    exact parameters_of_bindAll tree member valid made
  · intro other otherSite otherTree otherMember same
    obtain ⟨otherIdentifiers, otherValid, sameNames⟩ :=
      valid.exists_of_sameTokens tree (named_of_mem_parametersOf tree member) same
    refine ⟨exists_siteRecord_eq_ok_iff otherTree otherMember otherValid, ?_⟩
    intro record made
    rw [parameters_of_bindAll otherTree otherMember otherValid made]
    exact sameNames

/-- A text with something between a star and the name after it. -/
def starredText (between : String) : Array Char :=
  ("def f(*".toList ++ between.toList ++ "args):\n    pass\n".toList).toArray

def starredName (between : String) : Node :=
  nodeOver (starredText between) "identifier" none (7 + between.length) (11 + between.length) []

/-- The parameter in it; what comes between is a joined line. -/
def starredParameter (between : String) : Node :=
  let source := starredText between
  let join := Node.mk { (nodeOver source "line_continuation" none 7 9 []).label with
    isExtra := true } []
  nodeOver source "list_splat_pattern" none 6 (11 + between.length)
    (tokenOver source 6 7 :: (if between.isEmpty then [] else [join]) ++ [starredName between])

def starredDefinition (between : String) : Node :=
  let source := starredText between
  let stop := 11 + between.length
  nodeOver source "function_definition" none 0 (stop + 11)
    [tokenOver source 0 3, nodeOver source "identifier" (some "name") 4 5 [],
      nodeOver source "parameters" (some "parameters") 5 (stop + 1)
        [tokenOver source 5 6, starredParameter between, tokenOver source stop (stop + 1)],
      tokenOver source (stop + 1) (stop + 2),
      nodeOver source "block" (some "body") (stop + 7) (stop + 11)
        [nodeOver source "pass_statement" none (stop + 7) (stop + 11)
          [tokenOver source (stop + 7) (stop + 11)]]]

def starredModule (between : String) : ParsedModule :=
  let source := starredText between
  ⟨"m.py", source, nodeOver source "module" none 0 (23 + between.length)
    [starredDefinition between]⟩

def starredSite (between : String) : Site :=
  ⟨[0], [(starredModule between).root], starredDefinition between⟩

/-- Both texts are valid and made of the same tokens. The one without a joined line has a record
with the name of its parameter, and the other comes out as a malformed node. -/
theorem parameters_of_starredText :
    PythonTree (starredText "") (starredModule "").root ∧
    PythonTree (starredText "\\\n ") (starredModule "\\\n ").root ∧
    (∃ record, (starredModule "").functions = .ok [record] ∧ record.parameters = ["args"]) ∧
    (starredModule "\\\n ").functions =
      .error (.problem (.malformed "m.py" ⟨1, 7⟩ "list_splat_pattern" .noIdentifier)) ∧
    ¬ ∃ record, siteRecord "m.py" (starredText "\\\n ") (starredSite "\\\n ") = .ok record := by
  have tree : PythonTree (starredText "") (starredModule "").root :=
    .of_checked (by decide +kernel) (by decide) (by decide) (by decide) (by decide)
  have otherTree : PythonTree (starredText "\\\n ") (starredModule "\\\n ").root :=
    .of_checked (by decide +kernel) (by decide) (by decide) (by decide) (by decide)
  have valid : BindAll (parametersOf (starredDefinition "")) [starredName ""] :=
    .cons (.starred (by decide) rfl rfl) .nil
  have otherValid : BindAll (parametersOf (starredDefinition "\\\n ")) [starredName "\\\n "] :=
    .cons (.starred (by decide) rfl rfl) .nil
  have same : List.Forall₂ (SameTokens (starredText "") (starredText "\\\n "))
      (parametersOf (starredDefinition "")) (parametersOf (starredDefinition "\\\n ")) :=
    .cons (.intro rfl (fun noParts => nomatch noParts)
      (.cons (.intro rfl (fun _ => rfl) .nil) (.cons (.intro rfl (fun _ => rfl) .nil) .nil))) .nil
  have noGap : ∀ parameter ∈ parametersOf (starredDefinition ""), ¬ HasStarGap parameter := by
    intro parameter isParameter gap
    obtain rfl : parameter = starredParameter "" := List.mem_singleton.mp isParameter
    cases gap with
    | starred _ inRow isExtra =>
        obtain ⟨rfl, -⟩ := List.cons.inj (List.cons.inj inRow).2
        cases isExtra
    | typed isTyped => exact absurd isTyped (by decide)
  have gap : HasStarGap (starredParameter "\\\n ") := .starred (by decide) rfl rfl
  have readable : ¬ CutsDocstring "m.py" (starredText "") (starredDefinition "") := by
    intro cuts
    obtain ⟨body, found, cut⟩ := cuts.cut
    obtain rfl := Option.some.inj found
    exact Docstring.not_cutsOne_nil _ cut
  obtain ⟨makes, names, -, ofSame⟩ := parameters_of_validList (starredModule "") tree
    (starredSite "") List.mem_cons_self _ valid
  obtain ⟨-, -, fails, -⟩ := parameters_of_validList (starredModule "\\\n ") otherTree
    (starredSite "\\\n ") List.mem_cons_self _ otherValid
  obtain ⟨record, made⟩ := makes.mpr ⟨noGap, readable⟩
  have failed := (fails _).mpr ⟨[], starredParameter "\\\n ", [], rfl, by simp, gap, rfl⟩
  refine ⟨tree, otherTree, ⟨record, functions_eq_singleton tree.standsNamed rfl made,
    names record made⟩, ?_, ?_⟩
  · rw [functions_eq_mapM _ otherTree.standsNamed, mapM_eq_error_iff]
    exact ⟨[], starredSite "\\\n ", [], rfl, by simp, failed⟩
  · intro makesOther
    obtain ⟨noOtherGap, -⟩ :=
      (ofSame (starredModule "\\\n ") (starredSite "\\\n ") otherTree List.mem_cons_self
        same).1.mp makesOther
    exact noOtherGap _ (List.mem_singleton.mpr rfl) gap

end FunctionAtlas.Analysis
