import FunctionAtlas.Analysis.Function
import FunctionAtlas.Proofs.FirstFailure
import FunctionAtlas.Proofs.Syntax.Preorder
import Mathlib.Tactic.ByContra

/-!
Contract: the functions of a module are the records of its definition sites.

The walk through a tree carries the names of the scopes around the current node and its parent.
Both are read off the ancestors of a site, so the walk comes to one record for each site of a
definition, in preorder, or to the failure of the first of them that has no record.

Owns: the sites of definitions, the names around a site, and what a record takes from them.
-/

namespace FunctionAtlas.Analysis

open FunctionAtlas.Syntax
open FunctionAtlas.Syntax.Node
open FunctionAtlas.FirstFailure

/-! ## Sites of definitions -/

def isDefinition (site : Site) : Bool := site.node.kind = "function_definition"

/-- The sites of the definitions in a tree, in preorder. -/
def definitionSites (root : Node) : List Site := root.sites.filter isDefinition

/-- Definitions that are found by looking into named nodes only. -/
def isReached (site : Site) : Bool := isDefinition site && site.line.tail.all isNamed

/-- The sites of the definitions that are found by looking into named nodes, in preorder. -/
def reachedSites (root : Node) : List Site := root.sites.filter isReached

/-- The name of a class or a function. -/
def definedName? (source : Array Char) (node : Node) : Option String :=
  if node.kind = "function_definition" ∨ node.kind = "class_definition" then
    (node.childByField "name").map fun name => textOf source name.label
  else none

/-- The names of the classes and functions around a site, outermost first. -/
def enclosingNames (source : Array Char) (site : Site) : List String :=
  site.ancestors.filterMap (definedName? source)

/-- The record of the definition at a site. -/
def siteRecord (file : String) (source : Array Char) (site : Site) :
    Except ExtractionFailure FunctionRecord :=
  recordOf file source (enclosingNames source site) site.parent site.node

/-! ## The walk -/

section Walk

variable {file : String} {source : Array Char}

theorem openedScope_eq (node : Node) :
    openedScope source node = (definedName? source node).toList := by
  unfold openedScope definedName?
  by_cases opens : node.kind = "function_definition" ∨ node.kind = "class_definition"
  · cases node.childByField "name" <;> simp [opens]
  · simp [opens]

/-- The record of a site in a tree that itself stands inside scopes and below a parent. -/
def recordWithin (file : String) (source : Array Char) (scopes : List String)
    (parent : Option Node) (site : Site) : Except ExtractionFailure FunctionRecord :=
  recordOf file source (scopes ++ enclosingNames source site) (site.parent.or parent) site.node

/-- Seen from a child, its parent is one more scope around. -/
theorem recordWithin_under (scopes : List String) (outer : Option Node) (parent : Node)
    (index : Nat) (site : Site) :
    recordWithin file source scopes outer (site.under parent index) =
      recordWithin file source (scopes ++ openedScope source parent) (some parent) site := by
  have names : enclosingNames source (site.under parent index) =
      openedScope source parent ++ enclosingNames source site := by
    rw [openedScope_eq]
    unfold enclosingNames Site.under
    rw [List.filterMap_cons]
    cases definedName? source parent <;> rfl
  have above : (site.under parent index).parent.or outer = site.parent.or (some parent) := by
    unfold Site.under Site.parent
    rw [List.getLast?_cons]
    cases site.ancestors.getLast? <;> rfl
  unfold recordWithin
  rw [names, above, List.append_assoc]
  rfl

/-- The walk goes into a child if it is named. -/
theorem filter_reached_under (parent child : Node) (index : Nat) :
    (child.sites.map (Site.under parent index)).filter isReached =
      if child.isNamed then (child.sites.filter isReached).map (Site.under parent index)
      else [] := by
  have moved : child.sites.filter (isReached ∘ Site.under parent index) =
      child.sites.filter fun site => child.isNamed && isReached site := by
    apply List.filter_congr
    intro site member
    rw [Function.comp_apply, isReached, isReached, Site.line_under, List.tail_cons,
      line_eq_cons_of_mem member, List.all_cons, List.tail_cons, Bool.and_left_comm]
    rfl
  rw [List.filter_map, moved]
  cases child.isNamed <;> simp

/-- The records of several children, given those of each. -/
private theorem recordsOfAll_eq_mapM (scopes : List String) (outer : Option Node) (parent : Node)
    (index : Nat) (children : List Node)
    (each : ∀ child ∈ children,
      recordsOf file source (scopes ++ openedScope source parent) (some parent) child =
        (child.sites.filter isReached).mapM
          (recordWithin file source (scopes ++ openedScope source parent) (some parent))) :
    recordsOfAll file source (scopes ++ openedScope source parent) parent children =
      ((sitesBelow parent index children).filter isReached).mapM
        (recordWithin file source scopes outer) := by
  have seen : ∀ index, recordWithin file source scopes outer ∘ Site.under parent index =
      recordWithin file source (scopes ++ openedScope source parent) (some parent) :=
    fun index => funext (recordWithin_under scopes outer parent index)
  induction children generalizing index with
  | nil => simp [recordsOfAll, sitesBelow, pure, Except.pure]
  | cons child rest inductionHypothesis =>
      have others := inductionHypothesis (index + 1)
        (fun other member => each other (List.mem_cons_of_mem _ member))
      rw [recordsOfAll, sitesBelow, List.filter_append, filter_reached_under,
        mapM_append_eq_match, others]
      by_cases isNamed : child.isNamed
      · rw [if_pos isNamed, if_pos isNamed, List.mapM_map, seen, each child List.mem_cons_self]
        cases (child.sites.filter isReached).mapM
          (recordWithin file source (scopes ++ openedScope source parent) (some parent)) <;> rfl
      · rw [if_neg isNamed, if_neg isNamed]
        cases ((sitesBelow parent (index + 1) rest).filter isReached).mapM
          (recordWithin file source scopes outer) <;> rfl

/-- The walk through a tree gives the records of the definitions that it reaches. -/
theorem recordsOf_eq_mapM (scopes : List String) (outer : Option Node) (root : Node) :
    recordsOf file source scopes outer root =
      (root.sites.filter isReached).mapM (recordWithin file source scopes outer) := by
  induction root using Node.induction generalizing scopes outer with
  | step label children inductionHypothesis =>
      have below := recordsOfAll_eq_mapM scopes outer (.mk label children) 0 children
        (fun child member => inductionHypothesis child member _ _)
      have atRoot : recordWithin file source scopes outer ⟨[], [], .mk label children⟩ =
          recordOf file source scopes outer (.mk label children) := by
        simp [recordWithin, enclosingNames, Site.parent]
      have reaches : isReached ⟨[], [], .mk label children⟩ =
          decide (label.kind = "function_definition") :=
        Bool.and_true _
      rw [recordsOf, sites]
      by_cases defines : label.kind = "function_definition"
      · rw [if_pos defines, List.filter_cons_of_pos (by rw [reaches, decide_eq_true defines]),
          mapM_cons_eq_match, atRoot, below]
        cases recordOf file source scopes outer (.mk label children) <;> rfl
      · rw [if_neg defines, List.filter_cons_of_neg (by simp [reaches, defines]), below]

end Walk

theorem functions_eq_mapM_reached (parsed : ParsedModule) :
    parsed.functions =
      (reachedSites parsed.root).mapM (siteRecord parsed.file parsed.source) := by
  unfold ParsedModule.functions
  rw [recordsOf_eq_mapM [] none parsed.root, reachedSites]
  congr 1
  funext site
  simp [recordWithin, siteRecord]

/-- Where no definition stands inside an anonymous node, the walk reaches all of them. -/
theorem reachedSites_eq_definitionSites {root : Node}
    (standsNamed : KindStandsNamed "function_definition" root) :
    reachedSites root = definitionSites root := by
  apply List.filter_congr
  intro site member
  cases defines : isDefinition site with
  | false => simp [isReached, defines]
  | true =>
      have named : ∀ node ∈ site.line.tail, node.isNamed = true := by
        intro node isBelow
        obtain ⟨inTree, holds⟩ := mem_preorder_of_mem_line member (List.mem_of_mem_tail isBelow)
        by_contra anonymous
        exact standsNamed node inTree (by simpa using anonymous) site.node holds
          (of_decide_eq_true defines)
      simpa [isReached, defines] using named

theorem functions_eq_mapM (parsed : ParsedModule)
    (standsNamed : KindStandsNamed "function_definition" parsed.root) :
    parsed.functions =
      (definitionSites parsed.root).mapM (siteRecord parsed.file parsed.source) := by
  rw [functions_eq_mapM_reached, reachedSites_eq_definitionSites standsNamed]

/-- A module with a single definition gives its record. -/
theorem functions_eq_singleton {parsed : ParsedModule}
    (standsNamed : KindStandsNamed "function_definition" parsed.root) {site : Site}
    (only : definitionSites parsed.root = [site]) {record : FunctionRecord}
    (made : siteRecord parsed.file parsed.source site = .ok record) :
    parsed.functions = .ok [record] := by
  rw [functions_eq_mapM parsed standsNamed, only, mapM_eq_ok_iff]
  exact .cons made .nil

/-! ## Records -/

/-- What it takes to make a record, and what the record then says. -/
theorem recordOf_eq_ok_iff {file : String} {source : Array Char} {scopes : List String}
    {parent : Option Node} {node : Node} {record : FunctionRecord} :
    recordOf file source scopes parent node = .ok record ↔
      ∃ name parameters docstring,
        signatureOf file source node = .ok (name, parameters) ∧
        docstringOf source node = .ok docstring ∧
        record =
          { name
            qualifiedName := qualify scopes name
            parameters
            docstring
            sourceText := some (textOf source node.label)
            treeDump := Dump.dump source node
            isAsync := isAsyncDefinition node
            decorators := decoratorsIn source parent
            span := .ofLabel node.label } := by
  unfold recordOf
  cases signatureOf file source node with
  | error problem => simp
  | ok signature =>
      obtain ⟨name, parameters⟩ := signature
      cases docstringOf source node with
      | error fault => simp
      | ok docstring => simp [@eq_comm _ record]

/-- The names around a site and the decorators of its parent show in its record. -/
theorem siteRecord_names {file : String} {source : Array Char} {site : Site}
    {record : FunctionRecord} (made : siteRecord file source site = .ok record) :
    record.qualifiedName =
        String.intercalate "." (enclosingNames source site ++ [record.name]) ∧
      record.decorators = decoratorsIn source site.parent := by
  obtain ⟨name, parameters, docstring, -, -, rfl⟩ := recordOf_eq_ok_iff.mp made
  exact ⟨rfl, rfl⟩

theorem treeDump_of_siteRecord {file : String} {source : Array Char} {site : Site}
    {record : FunctionRecord} (made : siteRecord file source site = .ok record) :
    record.treeDump = Dump.dump source site.node := by
  obtain ⟨name, parameters, docstring, -, -, rfl⟩ := recordOf_eq_ok_iff.mp made
  rfl

/-- Extraction succeeds if every definition has a record. It then gives the records of the sites
of definitions, each once and in preorder, that is, in the order of their paths; the qualified
name of a record is made of the names of all classes and functions around it and its own name, and
its decorators are those of the decorated definition that is its parent. Otherwise extraction
fails in the way of the first definition without a record. -/
theorem functions_of_sites
    (parsed : ParsedModule)
    (standsNamed : KindStandsNamed "function_definition" parsed.root) :
    let sites := definitionSites parsed.root
    let record := siteRecord parsed.file parsed.source
    (∀ site, site ∈ sites ↔
      parsed.root.walk? site.path = some (site.ancestors, site.node) ∧
        site.node.kind = "function_definition") ∧
    (sites.map Site.path).Pairwise PathBefore ∧
    ((∃ records, parsed.functions = .ok records) ↔ ∀ site ∈ sites, ∃ made, record site = .ok made) ∧
    (∀ records, parsed.functions = .ok records →
      List.Forall₂
        (fun site made =>
          record site = .ok made ∧
          made.qualifiedName =
            String.intercalate "." (enclosingNames parsed.source site ++ [made.name]) ∧
          (∀ parent, site.parent = some parent → parent.kind = "decorated_definition" →
            made.decorators = (parent.namedChildren.filter (·.kind = "decorator")).map
              (decoratorText parsed.source)) ∧
          ((∀ parent, site.parent = some parent → parent.kind ≠ "decorated_definition") →
            made.decorators = []))
        sites records) ∧
    (∀ failure, parsed.functions = .error failure ↔
      ∃ before site after, sites = before ++ site :: after ∧
        (∀ earlier ∈ before, ∃ made, record earlier = .ok made) ∧
        record site = .error failure) := by
  intro sites record
  have extracted : parsed.functions = sites.mapM record := functions_eq_mapM parsed standsNamed
  refine ⟨?_, ?_, ?_, ?_, ?_⟩
  · intro site
    rw [← mem_sites_iff]
    exact List.mem_filter.trans (and_congr_right fun _ => decide_eq_true_iff)
  · exact (pairwise_path_sites parsed.root).sublist (List.filter_sublist.map Site.path)
  · rw [extracted]
    exact exists_mapM_eq_ok_iff sites
  · intro records succeeded
    rw [extracted, mapM_eq_ok_iff] at succeeded
    refine succeeded.imp fun site made isMade => ?_
    obtain ⟨qualified, decorated⟩ := siteRecord_names isMade
    refine ⟨isMade, qualified, ?_, ?_⟩
    · intro parent isParent decorates
      simp [decorated, decoratorsIn, isParent, decorates]
    · intro undecorated
      cases isParent : site.parent with
      | none => simp [decorated, decoratorsIn, isParent]
      | some parent => simp [decorated, decoratorsIn, isParent, undecorated parent isParent]
  · intro failure
    rw [extracted]
    exact mapM_eq_error_iff sites failure

/-- A class with a decorated method that has a function inside. -/
def decoratedMethod : ParsedModule :=
  let source := "class C:\n @d\n def f(x):\n  def g(): pass\n".toList.toArray
  let inner := nodeOver source "function_definition" none 26 39
    [tokenOver source 26 29, nodeOver source "identifier" (some "name") 30 31 [],
      nodeOver source "parameters" (some "parameters") 31 33
        [tokenOver source 31 32, tokenOver source 32 33],
      tokenOver source 33 34,
      nodeOver source "block" (some "body") 35 39
        [nodeOver source "pass_statement" none 35 39 [tokenOver source 35 39]]]
  let method := nodeOver source "function_definition" (some "definition") 14 39
    [tokenOver source 14 17, nodeOver source "identifier" (some "name") 18 19 [],
      nodeOver source "parameters" (some "parameters") 19 22
        [tokenOver source 19 20, nodeOver source "identifier" none 20 21 [],
          tokenOver source 21 22],
      tokenOver source 22 23, nodeOver source "block" (some "body") 26 39 [inner]]
  let decorated := nodeOver source "decorated_definition" none 10 39
    [nodeOver source "decorator" none 10 12
      [tokenOver source 10 11, nodeOver source "identifier" none 11 12 []], method]
  let classNode := nodeOver source "class_definition" none 0 39
    [tokenOver source 0 5, nodeOver source "identifier" (some "name") 6 7 [], tokenOver source 7 8,
      nodeOver source "block" (some "body") 10 39 [decorated]]
  ⟨"c.py", source, nodeOver source "module" none 0 40 [classNode]⟩

/-- The method and the function inside it, with the names around them. -/
theorem functions_of_decoratedMethod :
    KindStandsNamed "function_definition" decoratedMethod.root ∧
      (definitionSites decoratedMethod.root).map Site.path = [[0, 3, 0, 1], [0, 3, 0, 1, 4, 0]] ∧
      (definitionSites decoratedMethod.root).map (enclosingNames decoratedMethod.source) =
        [["C"], ["C", "f"]] ∧
      ∃ records, decoratedMethod.functions = .ok records ∧ records.length = 2 := by
  have standsNamed : KindStandsNamed "function_definition" decoratedMethod.root :=
    kindStandsNamed_of_tokens (by decide) (by decide)
  obtain ⟨-, -, succeeds, described, -⟩ := functions_of_sites decoratedMethod standsNamed
  have allMade : ∀ site ∈ definitionSites decoratedMethod.root,
      (siteRecord decoratedMethod.file decoratedMethod.source site).isOk := by
    decide
  obtain ⟨records, extracted⟩ := succeeds.mpr fun site member => by
    have isMade := allMade site member
    cases made : siteRecord decoratedMethod.file decoratedMethod.source site with
    | error failure => simp [made, Except.isOk, Except.toBool] at isMade
    | ok record => exact ⟨record, rfl⟩
  have counted := (described records extracted).length_eq
  exact ⟨standsNamed, by decide, by decide, records, extracted, counted.symm⟩

end FunctionAtlas.Analysis
