import FunctionAtlas.Proofs.Analysis.Spans
import FunctionAtlas.Proofs.Syntax.Arrangement

/-!
Contract: the written form of a definition holds those of all definitions inside it.

A node is written with each of its children once, if they are shown at all. Definitions always are:
in the trees of the grammar, tokens and extras have no definition inside. So whatever the depth, the
written form of an inner definition is a part of the written form of an outer one.

Owns: the written forms in the records of nested definitions.
-/

namespace FunctionAtlas.Analysis

open FunctionAtlas.FirstFailure
open FunctionAtlas.Grammar
open FunctionAtlas.Grammar.Python
open FunctionAtlas.Syntax
open FunctionAtlas.Syntax.Dump
open FunctionAtlas.Syntax.Node

/-! ## Extras -/

section Trees

variable {source : Array Char} {root node inner : Node} (tree : PythonTree source root)

include tree

/-- Inside an extra there are extras only. -/
theorem kind_of_mem_extra (member : node ∈ root.preorder) (named : node.isNamed = true)
    (ofKind : node.kind ∈ grammar.extras) (isInside : inner ∈ node.preorder) :
    inner.kind ∈ grammar.extras := by
  induction node using Node.induction with
  | step label children inductionHypothesis =>
      have noPart := (tree.conforms _ member).every_child named rfl (tokens_shape.2.2.2 _ ofKind)
      have below := isInside
      rw [preorder_mk, List.mem_cons, List.mem_flatMap] at below
      rcases below with rfl | ⟨child, isChild, inChild⟩
      · exact ofKind
      · have isExtra : child.isExtra = true := by
          by_contra isSolid
          exact noPart child (mem_solid_iff.mpr ⟨isChild, by simpa using isSolid⟩)
        obtain ⟨childKind, childNamed, -⟩ := (tree.conforms _ member).extras child isChild isExtra
        exact inductionHypothesis child isChild (mem_preorder_of_mem_children member isChild)
          childNamed childKind inChild

/-- In the trees of the grammar no definition is hidden. -/
theorem kindStandsShown_of_tree : KindStandsShown "function_definition" root where
  named := tree.standsNamed
  solid node member extra isChild isExtra inner isInside defines := by
    obtain ⟨ofKind, named, -⟩ := (tree.conforms node member).extras extra isChild isExtra
    have isExtraKind := kind_of_mem_extra tree (mem_preorder_of_mem_children member isChild) named
      ofKind isInside
    rw [defines] at isExtraKind
    exact absurd isExtraKind (by decide)

end Trees

/-! ## Records -/

/-- What a path leads to is inside of everything on the way. -/
theorem mem_preorder_of_isPrefix {root : Node} {outer inner : Site} (isOuter : outer ∈ root.sites)
    (isInner : inner ∈ root.sites) (onTheWay : outer.path <+: inner.path) :
    inner.node ∈ outer.node.preorder := by
  obtain ⟨rest, isPath⟩ := onTheWay
  rw [mem_sites_iff] at isOuter isInner
  rw [← isPath, walk?_append, isOuter, Option.bind_some, Option.map_eq_some_iff] at isInner
  obtain ⟨⟨ancestors, last⟩, walked, isLast⟩ := isInner
  have isSite : (⟨rest, ancestors, last⟩ : Site) ∈ outer.node.sites :=
    (mem_sites_iff _ _).mpr walked
  rw [← (Prod.mk.inj isLast).2]
  exact mem_preorder_of_site isSite

/-- A node that is not written by its text is written as its children in groups: each of them that
is no extra, and that is named or has a field, in one group and once. So its written form holds
those of all these children. Where no definition is hidden in a token or an extra, the written form
of each record is a part of that of every record whose definition is around. -/
theorem dumps_hold_children :
    (∀ (source : Array Char) (node : Node), node.isNamed = true → node.isShownByText = false →
      ∃ arrangement, Arranges node arrangement ∧
        dump source node = arrangement.write source node.label ∧
        ∀ child ∈ arrangement.members,
          (dump source child).toList <:+: (dump source node).toList) ∧
    ∀ parsed : ParsedModule, KindStandsShown "function_definition" parsed.root →
      ∀ records, parsed.functions = .ok records →
        let sites := definitionSites parsed.root
        sites.length = records.length ∧
        ∀ outer ∈ sites.zip records, ∀ inner ∈ sites.zip records,
          outer.1.path <+: inner.1.path →
            inner.2.treeDump.toList <:+: outer.2.treeDump.toList := by
  refine ⟨?_, ?_⟩
  · intro source node named byChildren
    refine ⟨arrangementOf node, arranges_arrangementOf node,
      dump_eq_write node source named byChildren, ?_⟩
    intro child isMember
    exact dump_infix_of_mem_shown source named
      ((members_arrangementOf_perm node).mem_iff.mp isMember)
  · intro parsed stands records extracted sites
    rw [functions_eq_mapM _ stands.named, mapM_eq_ok_iff] at extracted
    refine ⟨extracted.length_eq, ?_⟩
    rintro ⟨outer, record⟩ isOuter ⟨inner, other⟩ isInner onTheWay
    obtain ⟨outerSite, -⟩ := List.mem_filter.mp (List.of_mem_zip isOuter).1
    obtain ⟨innerSite, defines⟩ := List.mem_filter.mp (List.of_mem_zip isInner).1
    rw [treeDump_of_siteRecord (List.forall₂_zip extracted isOuter),
      treeDump_of_siteRecord (List.forall₂_zip extracted isInner)]
    exact dump_infix_of_mem_preorder parsed.source stands (mem_preorder_of_site outerSite)
      (mem_preorder_of_isPrefix outerSite innerSite onTheWay) (of_decide_eq_true defines)

/-- The written form of a definition inside another one, and the groups of the outer one. -/
theorem dumps_hold_children_nested :
    (∃ arrangement, Arranges nestedModule.root arrangement ∧
      dump nestedModule.source nestedModule.root =
        arrangement.write nestedModule.source nestedModule.root.label) ∧
    ∃ outer inner, nestedModule.functions = .ok [outer, inner] ∧
      outer.name = "f" ∧ inner.name = "g" ∧
      inner.treeDump.toList <:+: outer.treeDump.toList := by
  obtain ⟨complete, nested⟩ := dumps_hold_children
  have tree : PythonTree nestedModule.source nestedModule.root :=
    .of_checked (by decide +kernel) (by decide) (by decide) (by decide) (by decide)
  have paths : (definitionSites nestedModule.root).map Site.path = [[0], [0, 4, 0]] := by decide
  obtain ⟨arrangement, arranges, written, -⟩ :=
    complete nestedModule.source nestedModule.root rfl (by decide)
  obtain ⟨records, extracted, names⟩ := exists_functions_nestedModule
  obtain ⟨-, inside⟩ := nested nestedModule (kindStandsShown_of_tree tree) records extracted
  obtain ⟨outer, others, rfl, isOuter, otherNames⟩ := List.map_eq_cons_iff.mp names
  obtain ⟨inner, none, rfl, isInner, noNames⟩ := List.map_eq_cons_iff.mp otherNames
  obtain rfl := List.map_eq_nil_iff.mp noNames
  obtain ⟨first, otherSites, split, firstPath, otherPaths⟩ := List.map_eq_cons_iff.mp paths
  obtain ⟨second, noSite, rfl, secondPath, -⟩ := List.map_eq_cons_iff.mp otherPaths
  refine ⟨⟨arrangement, arranges, written⟩, outer, inner, extracted, isOuter, isInner, ?_⟩
  rw [split] at inside
  refine inside (first, outer) (by simp) (second, inner) (by simp) ?_
  rw [firstPath, secondPath]
  exact ⟨[4, 0], rfl⟩

end FunctionAtlas.Analysis
