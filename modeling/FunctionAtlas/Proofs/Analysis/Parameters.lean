import FunctionAtlas.Proofs.Analysis.Abort
import FunctionAtlas.Proofs.Grammar.PythonTree

/-!
Contract: which parameters leave a definition without a record.

In the tree of a valid text every definition has a name and a list of parameters. So a definition
fails by a problem exactly if one of its parameters binds no identifier: a tuple, a tuple with a
default value, or stars before anything that is not an identifier. Only the tuple that stands by
itself is called a mistake in the text; the others come out as malformed nodes.

Owns: the parameters that bind no name, the problem of each, and the failures of extraction.

Does not own: failures by a literal; see `FunctionAtlas.Proofs.Analysis.Abort`.
-/

namespace FunctionAtlas.Analysis

open FunctionAtlas.Docstring
open FunctionAtlas.FirstFailure
open FunctionAtlas.Grammar
open FunctionAtlas.Grammar.Python
open FunctionAtlas.Syntax
open FunctionAtlas.Syntax.Node

/-! ## Bound identifiers -/

theorem boundByName_eq_find? (children : List Node) :
    boundByName children =
      (children.find? fun child => child.label.field = some "name").bind boundIdentifier := by
  induction children with
  | nil => simp [boundByName]
  | cons child rest inductionHypothesis =>
      rw [boundByName, List.find?_cons]
      by_cases isName : child.label.field = some "name"
      · simp [isName]
      · simp [isName, inductionHypothesis]

theorem boundByFirst_eq_find? (children : List Node) :
    boundByFirst children = (children.find? isNamed).bind boundIdentifier := by
  induction children with
  | nil => simp [boundByFirst]
  | cons child rest inductionHypothesis =>
      rw [boundByFirst, List.find?_cons]
      cases child.isNamed with
      | true => simp
      | false => simp [inductionHypothesis]

/-- The identifier that a node binds, by its kind. -/
theorem boundIdentifier_eq (node : Node) :
    boundIdentifier node =
      if node.kind = "identifier" then some node.label
      else if bindsByField node.kind then (node.childByField "name").bind boundIdentifier
      else if bindsByFirst node.kind then node.namedChildren.head?.bind boundIdentifier
      else none := by
  obtain ⟨label, children⟩ := node
  rw [boundIdentifier, boundByName_eq_find?, boundByFirst_eq_find?, namedChildren,
    List.head?_filter]
  rfl

theorem boundIdentifier_of_identifier {node : Node} (isIdentifier : node.kind = "identifier") :
    boundIdentifier node = some node.label := by
  rw [boundIdentifier_eq, if_pos isIdentifier]

/-! ## Parameters that bind no name -/

/-- A parameter without an identifier to bind. -/
inductive BindsNoName (parameter : Node) : Prop where
  | tuple (isTuple : parameter.kind = "tuple_pattern")
  | defaultTuple {name : Node}
      (hasDefault : parameter.kind = "default_parameter")
      (found : parameter.childByField "name" = some name)
      (isTuple : name.kind = "tuple_pattern")
  | splat {target : Node}
      (isSplat : parameter.kind ∈ splatKinds)
      (first : parameter.namedChildren.head? = some target)
      (notIdentifier : target.kind ≠ "identifier")
  | typedSplat {inner target : Node}
      (hasType : parameter.kind = "typed_parameter")
      (outer : parameter.namedChildren.head? = some inner)
      (isSplat : inner.kind ∈ splatKinds)
      (first : inner.namedChildren.head? = some target)
      (notIdentifier : target.kind ≠ "identifier")

/-- The kinds of parameters that are meant to bind a name and can fail to. -/
def bindingKinds : List String :=
  ["tuple_pattern", "default_parameter", "typed_parameter"] ++ splatKinds

theorem BindsNoName.kind {parameter : Node} (bindsNone : BindsNoName parameter) :
    parameter.kind ∈ bindingKinds := by
  cases bindsNone with
  | tuple isTuple => simp [bindingKinds, isTuple]
  | defaultTuple hasDefault => simp [bindingKinds, hasDefault]
  | splat isSplat => exact List.mem_append_right _ isSplat
  | typedSplat hasType => simp [bindingKinds, hasType]

/-- The problem of such a parameter. -/
def parameterProblem (file : String) (parameter : Node) : Problem :=
  if parameter.kind = "tuple_pattern" then
    .invalid file (placeOf parameter.label) .tupleParameter
  else .malformed file (placeOf parameter.label) parameter.kind .noIdentifier

section InTree

variable {source : Array Char} {root node parameter : Node}

/-- Stars bind the identifier after them if nothing comes before it. -/
theorem boundIdentifier_splat_eq_none_iff (tree : PythonTree source root)
    (member : node ∈ root.preorder) (named : node.isNamed = true)
    (isSplat : node.kind ∈ splatKinds) :
    boundIdentifier node = none ↔
      ∃ target, node.namedChildren.head? = some target ∧ target.kind ≠ "identifier" := by
  have byFirst : ∀ kind ∈ splatKinds, kind ≠ "identifier" ∧ bindsByField kind = false ∧
      bindsByFirst kind = true := by
    decide
  have others : ∀ kind ∈ targetKinds ++ grammar.extras, kind ≠ "identifier" →
      bindsByField kind = false ∧ bindsByFirst kind = false := by
    decide
  obtain ⟨notIdentifier, noField, binds⟩ := byFirst node.kind isSplat
  obtain ⟨target, first, kinds⟩ := tree.first_of_splat member named isSplat
  have bound : boundIdentifier node = boundIdentifier target := by
    rw [boundIdentifier_eq, if_neg notIdentifier, noField, binds, first]
    rfl
  rw [bound, first]
  simp only [Option.some.injEq, exists_eq_left']
  constructor
  · intro unbound isIdentifier
    rw [boundIdentifier_of_identifier isIdentifier] at unbound
    cases unbound
  · intro isOther
    obtain ⟨targetField, targetFirst⟩ := others target.kind (List.mem_append.mpr kinds) isOther
    rw [boundIdentifier_eq, if_neg isOther, targetField, targetFirst]
    rfl

/-- What a parameter with a type binds is what it begins with binds. -/
theorem boundIdentifier_typed (tree : PythonTree source root) (member : node ∈ root.preorder)
    (named : node.isNamed = true) (hasType : node.kind = "typed_parameter") :
    ∃ first ∈ root.preorder, first.isNamed = true ∧ node.namedChildren.head? = some first ∧
      (first.kind = "identifier" ∨ first.kind ∈ splatKinds) ∧
      boundIdentifier node = boundIdentifier first := by
  obtain ⟨first, isSolid, isFirst, kinds⟩ := tree.first_of_typed member named hasType
  have firstNamed := (List.mem_filter.mp (List.mem_of_head? isFirst)).2
  refine ⟨first, tree.mem_of_solid member isSolid, firstNamed, isFirst, kinds, ?_⟩
  rw [boundIdentifier_eq, hasType, isFirst]
  rfl

/-- What a parameter with a default value binds is what its name binds. -/
theorem boundIdentifier_byField {name : Node} (byField : bindsByField node.kind = true)
    (found : node.childByField "name" = some name) :
    boundIdentifier node = boundIdentifier name := by
  have notIdentifier : node.kind ≠ "identifier" := by
    intro isIdentifier
    rw [isIdentifier] at byField
    exact absurd byField (by decide)
  rw [boundIdentifier_eq, if_neg notIdentifier, if_pos byField, found]
  rfl

/-- The parameters without an identifier are the tuples, with or without a default value, and the
stars, with or without a type, that are not directly before an identifier. -/
theorem boundIdentifier_eq_none_iff (tree : PythonTree source root)
    (member : parameter ∈ root.preorder) (named : parameter.isNamed = true)
    (isParameter : parameter.kind ∈ parameterKinds)
    (binds : isSeparator parameter.kind = false) :
    boundIdentifier parameter = none ↔ BindsNoName parameter := by
  have tupleUnbound : ∀ node : Node, node.kind = "tuple_pattern" → boundIdentifier node = none := by
    intro node isTuple
    rw [boundIdentifier_eq, isTuple]
    rfl
  constructor
  · intro unbound
    have notIdentifier : ∀ {node : Node}, boundIdentifier node = none →
        node.kind ≠ "identifier" := by
      intro node unbound isIdentifier
      rw [boundIdentifier_of_identifier isIdentifier] at unbound
      cases unbound
    have stars : parameter.kind ∈ splatKinds → BindsNoName parameter := by
      intro isSplat
      obtain ⟨target, first, isOther⟩ :=
        (boundIdentifier_splat_eq_none_iff tree member named isSplat).mp unbound
      exact .splat isSplat first isOther
    simp only [parameterKinds, List.mem_cons, List.not_mem_nil, or_false] at isParameter
    rcases isParameter with isKind | isKind | isKind | isKind | isKind | isKind | isKind | isKind |
      isKind
    · exact absurd isKind (notIdentifier unbound)
    · obtain ⟨first, inTree, firstNamed, isFirst, kinds, bound⟩ :=
        boundIdentifier_typed tree member named isKind
      rw [bound] at unbound
      have isSplat := kinds.resolve_left (notIdentifier unbound)
      obtain ⟨target, targetFirst, isOther⟩ :=
        (boundIdentifier_splat_eq_none_iff tree inTree firstNamed isSplat).mp unbound
      exact .typedSplat isKind isFirst isSplat targetFirst isOther
    · obtain ⟨name, -, found, kinds, -⟩ := tree.name_of_default member named isKind
      rw [boundIdentifier_byField (by rw [isKind]; decide) found] at unbound
      exact .defaultTuple isKind found (kinds.resolve_left (notIdentifier unbound))
    · obtain ⟨name, -, found, isIdentifier, -⟩ := tree.name_of_typedDefault member named isKind
      rw [boundIdentifier_byField (by rw [isKind]; decide) found] at unbound
      exact absurd isIdentifier (notIdentifier unbound)
    · exact stars (by simp [splatKinds, isKind])
    · exact .tuple isKind
    · rw [isKind] at binds
      exact absurd binds (by decide)
    · rw [isKind] at binds
      exact absurd binds (by decide)
    · exact stars (by simp [splatKinds, isKind])
  · intro bindsNone
    cases bindsNone with
    | tuple isTuple => exact tupleUnbound parameter isTuple
    | defaultTuple hasDefault found isTuple =>
        rw [boundIdentifier_byField (by rw [hasDefault]; decide) found]
        exact tupleUnbound _ isTuple
    | splat isSplat first isOther =>
        exact (boundIdentifier_splat_eq_none_iff tree member named isSplat).mpr
          ⟨_, first, isOther⟩
    | typedSplat hasType outer isSplat first isOther =>
        obtain ⟨inner, inTree, innerNamed, isFirst, -, bound⟩ :=
          boundIdentifier_typed tree member named hasType
        obtain rfl := Option.some.inj (outer.symm.trans isFirst)
        rw [bound]
        exact (boundIdentifier_splat_eq_none_iff tree inTree innerNamed isSplat).mpr
          ⟨_, first, isOther⟩

theorem parameterName_eq_error_iff (tree : PythonTree source root)
    (member : parameter ∈ root.preorder) (named : parameter.isNamed = true)
    (isParameter : parameter.kind ∈ parameterKinds) (file : String) (problem : Problem) :
    parameterName file source parameter = .error problem ↔
      BindsNoName parameter ∧ problem = parameterProblem file parameter := by
  have unbound := boundIdentifier_eq_none_iff tree member named isParameter
  unfold parameterName parameterProblem
  change (if isSeparator parameter.kind then _ else if parameter.kind = _ then _ else _) = _ ↔ _
  cases separates : isSeparator parameter.kind with
  | true =>
      have bindsOne : ¬ BindsNoName parameter := by
        intro bindsNone
        have notSeparators : ∀ kind ∈ bindingKinds, isSeparator kind = false := by decide
        rw [notSeparators parameter.kind bindsNone.kind] at separates
        cases separates
      simp [bindsOne]
  | false =>
      by_cases isTuple : parameter.kind = "tuple_pattern"
      · simp [isTuple, BindsNoName.tuple isTuple, eq_comm]
      · rw [← unbound separates]
        cases boundIdentifier parameter with
        | some identifier => simp [isTuple]
        | none =>
            simp only [Bool.false_eq_true, if_false, isTuple, Except.error.injEq, true_and]
            exact eq_comm

end InTree

/-! ## Definitions -/

/-- The parameters in the list of a definition. -/
def parametersOf (definition : Node) : List Node :=
  ((definition.childByField "parameters").map parts).getD []

theorem parameterNames_eq_map_mapM (file : String) (source : Array Char)
    (parameters : List Node) :
    parameterNames file source parameters =
      (parameters.mapM (parameterName file source)).map fun names =>
        names.flatMap Option.toList := by
  induction parameters with
  | nil => rfl
  | cons parameter rest inductionHypothesis =>
      rw [parameterNames, mapM_cons_eq_match, inductionHypothesis]
      cases parameterName file source parameter with
      | error problem => rfl
      | ok name => cases rest.mapM (parameterName file source) <;> simp [Except.map]

section Definitions

variable {file : String} {source : Array Char} {root definition : Node}

theorem parameter_of_mem_parametersOf (tree : PythonTree source root)
    (member : definition ∈ root.preorder) (defines : definition.kind = "function_definition")
    {parameter : Node} (isParameter : parameter ∈ parametersOf definition) :
    parameter ∈ root.preorder ∧ parameter.isNamed = true ∧ parameter.kind ∈ parameterKinds := by
  obtain ⟨list, isSolid, found, ofKind, named⟩ := tree.exists_parameters member defines
  have inTree := tree.mem_of_solid member isSolid
  rw [parametersOf, found] at isParameter
  obtain ⟨isNamedChild, notExtra⟩ := List.mem_filter.mp isParameter
  obtain ⟨isChild, isNamed⟩ := List.mem_filter.mp isNamedChild
  have isPart : parameter ∈ list.solid :=
    mem_solid_iff.mpr ⟨isChild, by simpa using notExtra⟩
  exact ⟨tree.mem_of_solid inTree isPart, isNamed,
    (tree.parameter inTree named ofKind isPart isNamed).2⟩

/-- A definition has a name and a list of parameters, so only its parameters can fail. -/
theorem signatureOf_eq_map (file : String) (tree : PythonTree source root)
    (member : definition ∈ root.preorder) (defines : definition.kind = "function_definition") :
    ∃ name, signatureOf file source definition =
      (parameterNames file source (parametersOf definition)).map fun names => (name, names) := by
  obtain ⟨name, nameIsSolid, nameFound, isIdentifier, -⟩ := tree.exists_name member defines
  obtain ⟨list, -, listFound, -, -⟩ := tree.exists_parameters member defines
  have notEmpty : (textOf source name.label).isEmpty = false := by
    simpa using tree.words name (tree.mem_of_solid member nameIsSolid) isIdentifier
  refine ⟨textOf source name.label, ?_⟩
  simp [signatureOf, nameFound, notEmpty, parametersOf, listFound]

/-- A parameter of a definition has a problem exactly if it binds no name. -/
theorem parameterName_of_mem_parametersOf (tree : PythonTree source root)
    (member : definition ∈ root.preorder) (defines : definition.kind = "function_definition")
    {parameter : Node} (isParameter : parameter ∈ parametersOf definition) (problem : Problem) :
    parameterName file source parameter = .error problem ↔
      BindsNoName parameter ∧ problem = parameterProblem file parameter := by
  obtain ⟨inTree, named, ofKind⟩ := parameter_of_mem_parametersOf tree member defines isParameter
  exact parameterName_eq_error_iff tree inTree named ofKind file problem

theorem exists_signatureOf_eq_error_iff (file : String) (tree : PythonTree source root)
    (member : definition ∈ root.preorder) (defines : definition.kind = "function_definition") :
    (∃ problem, signatureOf file source definition = .error problem) ↔
      ∃ parameter ∈ parametersOf definition, BindsNoName parameter := by
  obtain ⟨name, signed⟩ := signatureOf_eq_map file tree member defines
  simp only [signed, map_eq_error_iff, parameterNames_eq_map_mapM, exists_mapM_eq_error_iff]
  constructor
  · rintro ⟨parameter, isParameter, problem, fails⟩
    exact ⟨parameter, isParameter,
      ((parameterName_of_mem_parametersOf tree member defines isParameter problem).mp fails).1⟩
  · rintro ⟨parameter, isParameter, bindsNone⟩
    exact ⟨parameter, isParameter, parameterProblem file parameter,
      (parameterName_of_mem_parametersOf tree member defines isParameter _).mpr ⟨bindsNone, rfl⟩⟩

/-- A definition has the problem of its first parameter that binds no name. -/
theorem signatureOf_eq_error_iff (tree : PythonTree source root)
    (member : definition ∈ root.preorder) (defines : definition.kind = "function_definition")
    (problem : Problem) :
    signatureOf file source definition = .error problem ↔
      ∃ earlier parameter later, parametersOf definition = earlier ++ parameter :: later ∧
        (∀ other ∈ earlier, ¬ BindsNoName other) ∧
        BindsNoName parameter ∧ problem = parameterProblem file parameter := by
  have fails : ∀ parameter ∈ parametersOf definition, ∀ problem,
      parameterName file source parameter = .error problem ↔
        BindsNoName parameter ∧ problem = parameterProblem file parameter :=
    fun _ => parameterName_of_mem_parametersOf tree member defines
  have succeeds : ∀ parameter ∈ parametersOf definition,
      (∃ name, parameterName file source parameter = .ok name) ↔ ¬ BindsNoName parameter := by
    intro parameter isParameter
    have ofProblem := fails parameter isParameter
    cases named : parameterName file source parameter with
    | ok name =>
        rw [named] at ofProblem
        simpa using fun bindsNone => nomatch (ofProblem _).mpr ⟨bindsNone, rfl⟩
    | error problem =>
        simpa using ((ofProblem problem).mp named).1
  obtain ⟨name, signed⟩ := signatureOf_eq_map file tree member defines
  rw [signed, map_eq_error_iff, parameterNames_eq_map_mapM, map_eq_error_iff, mapM_eq_error_iff]
  constructor
  · rintro ⟨earlier, parameter, later, split, before, failure⟩
    refine ⟨earlier, parameter, later, split, ?_, ?_⟩
    · intro other isEarlier
      exact (succeeds other (by simp [split, isEarlier])).mp (before other isEarlier)
    · exact (fails parameter (by simp [split]) problem).mp failure
  · rintro ⟨earlier, parameter, later, split, before, failure⟩
    refine ⟨earlier, parameter, later, split, ?_, ?_⟩
    · intro other isEarlier
      exact (succeeds other (by simp [split, isEarlier])).mpr (before other isEarlier)
    · exact (fails parameter (by simp [split]) problem).mpr failure

end Definitions

/-! ## Modules -/

section Modules

variable {parsed : ParsedModule}

theorem definition_of_mem_definitionSites {root : Node} {site : Site}
    (member : site ∈ definitionSites root) :
    site.node ∈ root.preorder ∧ site.node.kind = "function_definition" := by
  obtain ⟨isSite, defines⟩ := List.mem_filter.mp member
  exact ⟨List.mem_map_of_mem isSite, of_decide_eq_true defines⟩

theorem siteRecord_eq_problem_iff (site : Site) (problem : Problem) :
    siteRecord parsed.file parsed.source site = .error (.problem problem) ↔
      signatureOf parsed.file parsed.source site.node = .error problem := by
  unfold siteRecord recordOf
  cases signatureOf parsed.file parsed.source site.node with
  | error found => simp
  | ok signature => cases docstringOf parsed.source site.node <;> simp

/-- A definition has no record if a parameter binds no name or a literal would be cut. -/
theorem exists_siteRecord_eq_error_iff (tree : PythonTree parsed.source parsed.root) {site : Site}
    (member : site ∈ definitionSites parsed.root) :
    (∃ failure, siteRecord parsed.file parsed.source site = .error failure) ↔
      (∃ parameter ∈ parametersOf site.node, BindsNoName parameter) ∨
        CutsDocstring parsed.file parsed.source site.node := by
  obtain ⟨inTree, defines⟩ := definition_of_mem_definitionSites member
  rw [← exists_signatureOf_eq_error_iff parsed.file tree inTree defines,
    ← exists_recordOf_eq_literal_iff parsed.file parsed.source (enclosingNames parsed.source site)
      site.parent]
  simp only [← siteRecord_eq_problem_iff]
  constructor
  · rintro ⟨failure, fails⟩
    cases failure with
    | problem problem => exact .inl ⟨problem, fails⟩
    | literal fault => exact .inr ⟨fault, fails⟩
  · rintro (⟨problem, fails⟩ | ⟨fault, fails⟩)
    · exact ⟨.problem problem, fails⟩
    · exact ⟨.literal fault, fails⟩

end Modules

/-- Extraction fails if and only if a definition has a parameter that binds no name or a docstring
that cannot be read. A problem is that of the first such parameter of the first definition without
a record: a tuple that stands by itself is reported as a mistake in the text at its place, and a
tuple with a default value, or stars before anything but an identifier, as a malformed node. No
definition lacks a name or a list of parameters. -/
theorem functions_fail_at_parameters
    (parsed : ParsedModule)
    (tree : PythonTree parsed.source parsed.root) :
    let sites := definitionSites parsed.root
    let record := siteRecord parsed.file parsed.source
    ((∃ failure, parsed.functions = .error failure) ↔
      ∃ site ∈ sites,
        (∃ parameter ∈ parametersOf site.node, BindsNoName parameter) ∨
          CutsDocstring parsed.file parsed.source site.node) ∧
    (∀ problem, parsed.functions = .error (.problem problem) ↔
      ∃ before site after earlier parameter later,
        sites = before ++ site :: after ∧
        (∀ other ∈ before, ∃ made, record other = .ok made) ∧
        parametersOf site.node = earlier ++ parameter :: later ∧
        (∀ other ∈ earlier, ¬ BindsNoName other) ∧
        BindsNoName parameter ∧
        problem =
          if parameter.kind = "tuple_pattern" then
            .invalid parsed.file (placeOf parameter.label) .tupleParameter
          else .malformed parsed.file (placeOf parameter.label) parameter.kind .noIdentifier) := by
  intro sites record
  have extracted : parsed.functions = sites.mapM record :=
    functions_eq_mapM parsed tree.standsNamed
  refine ⟨?_, ?_⟩
  · rw [extracted, exists_mapM_eq_error_iff]
    constructor
    · rintro ⟨site, member, fails⟩
      exact ⟨site, member, (exists_siteRecord_eq_error_iff tree member).mp fails⟩
    · rintro ⟨site, member, reason⟩
      exact ⟨site, member, (exists_siteRecord_eq_error_iff tree member).mpr reason⟩
  · intro problem
    rw [extracted, mapM_eq_error_iff]
    constructor
    · rintro ⟨before, site, after, split, made, fails⟩
      have member : site ∈ sites := by simp [split]
      obtain ⟨inTree, defines⟩ := definition_of_mem_definitionSites member
      obtain ⟨earlier, parameter, later, parameters, bound, bindsNone, isProblem⟩ :=
        (signatureOf_eq_error_iff tree inTree defines problem).mp
          ((siteRecord_eq_problem_iff site problem).mp fails)
      exact ⟨before, site, after, earlier, parameter, later, split, made, parameters, bound,
        bindsNone, isProblem⟩
    · rintro ⟨before, site, after, earlier, parameter, later, split, made, parameters, bound,
        bindsNone, isProblem⟩
      have member : site ∈ sites := by simp [split]
      obtain ⟨inTree, defines⟩ := definition_of_mem_definitionSites member
      refine ⟨before, site, after, split, made, (siteRecord_eq_problem_iff site problem).mpr ?_⟩
      exact (signatureOf_eq_error_iff tree inTree defines problem).mpr
        ⟨earlier, parameter, later, parameters, bound, bindsNone, isProblem⟩

/-- A definition whose only parameter is a tuple with a default value. -/
def tupleDefault : ParsedModule :=
  let source := "def f((a, b)=1):\n    pass\n".toList.toArray
  let tuple := nodeOver source "tuple_pattern" (some "name") 6 12
    [tokenOver source 6 7, nodeOver source "identifier" none 7 8 [], tokenOver source 8 9,
      nodeOver source "identifier" none 10 11 [], tokenOver source 11 12]
  let parameter := nodeOver source "default_parameter" none 6 14
    [tuple, tokenOver source 12 13, nodeOver source "integer" (some "value") 13 14 []]
  let definition := nodeOver source "function_definition" none 0 25
    [tokenOver source 0 3, nodeOver source "identifier" (some "name") 4 5 [],
      nodeOver source "parameters" (some "parameters") 5 15
        [tokenOver source 5 6, parameter, tokenOver source 14 15],
      tokenOver source 15 16,
      nodeOver source "block" (some "body") 21 25
        [nodeOver source "pass_statement" none 21 25 [tokenOver source 21 25]]]
  ⟨"m.py", source, nodeOver source "module" none 0 26 [definition]⟩

/-- It is a valid text, and it comes out as a malformed node. -/
theorem functions_of_tupleDefault :
    PythonTree tupleDefault.source tupleDefault.root ∧
      parseWith (fun _ => some tupleDefault.root) "m.py" "def f((a, b)=1):\n    pass\n" =
        .ok tupleDefault ∧
      tupleDefault.functions =
        .error (.problem (.malformed "m.py" ⟨1, 7⟩ "default_parameter" .noIdentifier)) := by
  have tree : PythonTree tupleDefault.source tupleDefault.root :=
    .of_checked (by decide +kernel) (by decide) (by decide) (by decide) (by decide)
  refine ⟨tree, rfl, ?_⟩
  refine ((functions_fail_at_parameters tupleDefault tree).2 _).mpr
    ⟨[], _, [], [], _, [], rfl, by simp, rfl, by simp, ?_, by decide⟩
  exact .defaultTuple rfl rfl rfl

end FunctionAtlas.Analysis
