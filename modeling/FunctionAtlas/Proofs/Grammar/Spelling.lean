import FunctionAtlas.Grammar.Rule
import FunctionAtlas.Proofs.Syntax.Shown

/-!
Contract: what the children of a node look like under a grammar.

A rule spells a row of nodes, each seen by its kind and its field only. A symbol shows as a node
of its own unless it is hidden; then what its rule spells stands in its place. Decorations rename
nodes and put them into fields. A node conforms to a grammar if its children, without extras, are
spelled by the rule of a symbol that appears as its kind.

Owns: the rows that a rule spells, checks of all these rows at once, and a search for a spelling.

Does not own: the trees of a particular parser.
-/

namespace FunctionAtlas.Grammar

open FunctionAtlas.Syntax
open FunctionAtlas.Syntax.Node

/-- How a node appears among the children of its parent. -/
structure Appearance where
  kind : String
  isNamed : Bool
  field : Option String
deriving DecidableEq, Repr

/-- What the decorations around a rule say about how its nodes appear. -/
structure Guise where
  rename : Option NodeName
  field : Option String
deriving DecidableEq, Repr

namespace Guise

/-- No decoration. -/
def plain : Guise := ⟨none, none⟩

/-- Inner decorations win over outer ones. -/
def under (guise : Guise) (decoration : Decoration) : Guise :=
  ⟨decoration.rename.or guise.rename, decoration.fieldName.or guise.field⟩

/-- How something with a name of its own appears; without any name it does not. -/
def show? (guise : Guise) (own : Option NodeName) : Option Appearance :=
  (guise.rename.or own).map fun name => ⟨name.text, name.isNamed, guise.field⟩

end Guise

/-- Tokens of fixed text are named by it. -/
def TokenKind.ownName (kind : TokenKind) : Option NodeName :=
  kind.literal.map fun literal => ⟨literal, false⟩

namespace Definition

variable (language : Definition)

/-- The rule of a symbol; symbols that the layout scanner reports have none. -/
def ruleOf (name : String) : Rule := (language.rules.lookup name).getD .blank

/-- Symbols that leave no node of their own. -/
def isHidden (name : String) : Bool :=
  name.startsWith "_" || language.supertypes.contains name || language.inlined.contains name

def ownName (name : String) : Option NodeName :=
  if language.isHidden name then none else some ⟨name, true⟩

/-- The names of all symbols. -/
def symbolNames : List String :=
  language.rules.map (·.1) ++ language.externals.filterMap fun external =>
    match external with
    | .scanned name => some name
    | .shared _ => none

end Definition

namespace Rule

mutual

/-- The symbols inside a rule that appear under another name. -/
def renamings (rename : Option NodeName) : Rule → List (NodeName × String)
  | blank | token _ => []
  | symbol name => rename.toList.map fun shown => (shown, name)
  | choice alternatives => renamingsIn rename alternatives
  | sequence parts => renamingsIn rename parts
  | repeat1 body => renamings rename body
  | decorated decoration body => renamings (decoration.rename.or rename) body

def renamingsIn (rename : Option NodeName) : List Rule → List (NodeName × String)
  | [] => []
  | rule :: rest => renamings rename rule ++ renamingsIn rename rest

end

mutual

/-- The names of the fields inside a rule. -/
def fieldNames : Rule → List String
  | blank | token _ | symbol _ => []
  | choice alternatives => fieldNamesIn alternatives
  | sequence parts => fieldNamesIn parts
  | repeat1 body => fieldNames body
  | decorated decoration body => decoration.fieldName.toList ++ fieldNames body

def fieldNamesIn : List Rule → List String
  | [] => []
  | rule :: rest => fieldNames rule ++ fieldNamesIn rest

end

theorem fieldNamesIn_eq_flatMap (rules : List Rule) :
    fieldNamesIn rules = rules.flatMap fieldNames := by
  induction rules with
  | nil => rfl
  | cons rule rest inductionHypothesis =>
      rw [fieldNamesIn, List.flatMap_cons, inductionHypothesis]

end Rule

namespace Definition

variable (language : Definition)

/-- The symbols that appear under another name. -/
def renamings : List (NodeName × String) := language.rules.flatMap fun rule => rule.2.renamings none

/-- The names of all fields. -/
def fieldNames : List String := language.rules.flatMap fun rule => rule.2.fieldNames

/-- The symbols that appear as named nodes of a kind. -/
def symbolsOf (kind : String) : List String :=
  (language.symbolNames.filter fun name => name = kind && !language.isHidden name) ++
    (language.renamings.filter (·.1 = ⟨kind, true⟩)).map (·.2)

/-- The symbols that appear as named nodes, each with the kind of these nodes. -/
def kindsOfSymbols : List (String × String) :=
  ((language.symbolNames.filter fun name => !language.isHidden name).map fun name => (name, name)) ++
    (language.renamings.filter (·.1.isNamed)).map fun entry => (entry.1.text, entry.2)

theorem mem_kindsOfSymbols {kind symbol : String} (member : symbol ∈ language.symbolsOf kind) :
    (kind, symbol) ∈ language.kindsOfSymbols := by
  rcases List.mem_append.mp member with isOwn | isOther
  · obtain ⟨isName, accepted⟩ := List.mem_filter.mp isOwn
    obtain ⟨isKind, notHidden⟩ := Bool.and_eq_true_iff.mp accepted
    obtain rfl := of_decide_eq_true isKind
    exact List.mem_append_left _
      (List.mem_map.mpr ⟨symbol, List.mem_filter.mpr ⟨isName, notHidden⟩, rfl⟩)
  · obtain ⟨⟨shown, name⟩, isEntry, rfl⟩ := List.mem_map.mp isOther
    obtain ⟨isMember, shows⟩ := List.mem_filter.mp isEntry
    obtain rfl : shown = ⟨kind, true⟩ := of_decide_eq_true shows
    exact List.mem_append_right _
      (List.mem_map.mpr ⟨_, List.mem_filter.mpr ⟨isMember, rfl⟩, rfl⟩)

theorem mem_fieldNames_of_ruleOf {symbol name : String}
    (isInside : name ∈ (language.ruleOf symbol).fieldNames) : name ∈ language.fieldNames := by
  unfold ruleOf at isInside
  cases found : language.rules.lookup symbol with
  | none =>
      rw [found] at isInside
      exact absurd isInside List.not_mem_nil
  | some rule =>
      rw [found] at isInside
      obtain ⟨before, after, split, -⟩ := List.lookup_eq_some_iff.mp found
      exact List.mem_flatMap.mpr ⟨(symbol, rule), by simp [split], isInside⟩

/-- A kind of named nodes is the name of a symbol or one that a symbol appears under. -/
theorem kind_of_mem_symbolsOf {kind symbol : String} (member : symbol ∈ language.symbolsOf kind) :
    kind ∈ language.symbolNames ∨ ∃ entry ∈ language.renamings, entry.1 = ⟨kind, true⟩ := by
  rcases List.mem_append.mp member with isOwn | isOther
  · obtain ⟨isName, accepted⟩ := List.mem_filter.mp isOwn
    obtain ⟨isKind, -⟩ := Bool.and_eq_true_iff.mp accepted
    exact .inl (of_decide_eq_true isKind ▸ isName)
  · obtain ⟨entry, isEntry, -⟩ := List.mem_map.mp isOther
    obtain ⟨isMember, shows⟩ := List.mem_filter.mp isEntry
    exact .inr ⟨entry, isMember, of_decide_eq_true shows⟩

end Definition

/-! ## Spelling -/

/-- The rows of nodes that a rule spells in a guise. -/
inductive Spells (language : Definition) : Rule → Guise → List Appearance → Prop where
  | blank {guise : Guise} : Spells language .blank guise []
  | token {guise : Guise} (kind : TokenKind) :
      Spells language (.token kind) guise (guise.show? kind.ownName).toList
  | shown {guise : Guise} {name : String} {appearance : Appearance}
      (shows : guise.show? (language.ownName name) = some appearance) :
      Spells language (.symbol name) guise [appearance]
  | hidden {guise : Guise} {name : String} {row : List Appearance}
      (hides : guise.show? (language.ownName name) = none)
      (spelled : Spells language (language.ruleOf name) guise row) :
      Spells language (.symbol name) guise row
  | choice {guise : Guise} {alternatives : List Rule} {alternative : Rule} {row : List Appearance}
      (member : alternative ∈ alternatives)
      (spelled : Spells language alternative guise row) :
      Spells language (.choice alternatives) guise row
  | sequenceNil {guise : Guise} : Spells language (.sequence []) guise []
  | sequenceCons {guise : Guise} {part : Rule} {parts : List Rule} {row rest : List Appearance}
      (first : Spells language part guise row)
      (others : Spells language (.sequence parts) guise rest) :
      Spells language (.sequence (part :: parts)) guise (row ++ rest)
  | once {guise : Guise} {body : Rule} {row : List Appearance}
      (spelled : Spells language body guise row) :
      Spells language (.repeat1 body) guise row
  | again {guise : Guise} {body : Rule} {row rest : List Appearance}
      (first : Spells language body guise row)
      (others : Spells language (.repeat1 body) guise rest) :
      Spells language (.repeat1 body) guise (row ++ rest)
  | decorated {guise : Guise} {decoration : Decoration} {body : Rule} {row : List Appearance}
      (spelled : Spells language body (guise.under decoration) row) :
      Spells language (.decorated decoration body) guise row

/-- The nodes that a rule spells are in the field around it or in one that a rule names. -/
theorem Spells.field {language : Definition} {rule : Rule} {guise : Guise}
    {row : List Appearance} (spelled : Spells language rule guise row)
    (inRule : ∀ name ∈ rule.fieldNames, name ∈ language.fieldNames) :
    ∀ appearance ∈ row, ∀ name ∈ appearance.field,
      name ∈ guise.field ∨ name ∈ language.fieldNames := by
  have ofShown : ∀ {guise : Guise} {own : Option NodeName} {appearance : Appearance},
      guise.show? own = some appearance → appearance.field = guise.field := by
    intro guise own appearance shows
    obtain ⟨name, -, rfl⟩ := Option.map_eq_some_iff.mp shows
    rfl
  induction spelled with
  | blank => simp
  | token kind =>
      intro appearance member name inField
      rw [Option.mem_toList] at member
      exact .inl (ofShown member ▸ inField)
  | shown shows =>
      intro appearance member name inField
      rw [List.mem_singleton] at member
      rw [member] at inField
      exact .inl (ofShown shows ▸ inField)
  | hidden _ _ inductionHypothesis =>
      exact inductionHypothesis fun _ => language.mem_fieldNames_of_ruleOf
  | choice member _ inductionHypothesis =>
      apply inductionHypothesis
      intro fieldName isInside
      rw [Rule.fieldNames, Rule.fieldNamesIn_eq_flatMap] at inRule
      exact inRule fieldName (List.mem_flatMap.mpr ⟨_, member, isInside⟩)
  | sequenceNil => simp
  | sequenceCons _ _ ofFirst ofOthers =>
      rw [Rule.fieldNames, Rule.fieldNamesIn, ← Rule.fieldNames, List.forall_mem_append] at inRule
      exact List.forall_mem_append.mpr ⟨ofFirst inRule.1, ofOthers inRule.2⟩
  | once _ inductionHypothesis => exact inductionHypothesis inRule
  | again _ _ ofFirst ofOthers =>
      exact List.forall_mem_append.mpr ⟨ofFirst inRule, ofOthers inRule⟩
  | decorated _ inductionHypothesis =>
      rw [Rule.fieldNames, List.forall_mem_append] at inRule
      intro appearance member name inField
      rcases inductionHypothesis inRule.2 appearance member name inField with isAround | isInside
      · rcases Option.or_eq_some_iff.mp isAround with ownName | ⟨-, outer⟩
        · exact .inr (inRule.1 name (Option.mem_toList.mpr ownName))
        · exact .inl outer
      · exact .inr isInside

/-! ## Judgements on all rows -/

/-- What is known of every row that a rule spells, with regard to a class of nodes. -/
structure Verdict where
  /-- All nodes are in the class. -/
  every : Bool
  /-- Some node is. -/
  some : Bool
  /-- There is a first node, and it is. -/
  first : Bool
  /-- All nodes after the first are. -/
  later : Bool
  /-- Some node is, or there is none. -/
  someOrNone : Bool
  /-- Some node is, or there is at most one. -/
  someOrLone : Bool
deriving DecidableEq, Repr

namespace Verdict

/-- Nothing is known. -/
def unknown : Verdict := ⟨false, false, false, false, false, false⟩

/-- There is at most one node. -/
def ofShown (accepts : Appearance → Bool) (shown : Option Appearance) : Verdict :=
  ⟨shown.all accepts, shown.any accepts, shown.any accepts, true, shown.all accepts, true⟩

/-- One row after another. -/
def append (front back : Verdict) : Verdict where
  every := front.every && back.every
  some := front.some || back.some
  first := front.first || (front.every && back.first)
  later := front.later && back.every
  someOrNone := front.some || back.some || (front.someOrNone && back.someOrNone)
  someOrLone := front.some || back.some || (front.someOrNone && back.someOrLone) ||
    (front.someOrLone && back.someOrNone)

/-- A row of one of several rules. -/
def oneOf (verdicts : List Verdict) : Verdict :=
  ⟨verdicts.all (·.every), verdicts.all (·.some), verdicts.all (·.first), verdicts.all (·.later),
    verdicts.all (·.someOrNone), verdicts.all (·.someOrLone)⟩

/-- What a verdict says of a row. -/
structure Holds (accepts : Appearance → Bool) (verdict : Verdict) (row : List Appearance) :
    Prop where
  every : verdict.every = true → ∀ appearance ∈ row, accepts appearance = true
  some : verdict.some = true → ∃ appearance ∈ row, accepts appearance = true
  first : verdict.first = true → ∃ head ∈ row.head?, accepts head = true
  later : verdict.later = true → ∀ appearance ∈ row.tail, accepts appearance = true
  someOrNone : verdict.someOrNone = true →
    (∃ appearance ∈ row, accepts appearance = true) ∨ row = []
  someOrLone : verdict.someOrLone = true →
    (∃ appearance ∈ row, accepts appearance = true) ∨ row.length ≤ 1

section Combine

variable {accepts : Appearance → Bool} {front back : Verdict} {row rest : List Appearance}

theorem holds_unknown : Holds accepts unknown row where
  every isFalse := by cases isFalse
  some isFalse := by cases isFalse
  first isFalse := by cases isFalse
  later isFalse := by cases isFalse
  someOrNone isFalse := by cases isFalse
  someOrLone isFalse := by cases isFalse

theorem holds_ofShown (shown : Option Appearance) :
    Holds accepts (ofShown accepts shown) shown.toList where
  every accepted := by
    cases shown with
    | none => exact fun _ member => absurd member List.not_mem_nil
    | some appearance => exact List.forall_mem_singleton.mpr accepted
  some accepted := by
    cases shown with
    | none => cases accepted
    | some appearance => exact ⟨appearance, List.mem_singleton_self _, accepted⟩
  first accepted := by
    cases shown with
    | none => cases accepted
    | some appearance => exact ⟨appearance, rfl, accepted⟩
  later _ := by
    cases shown <;> simp
  someOrNone accepted := by
    cases shown with
    | none => exact .inr rfl
    | some appearance => exact .inl ⟨appearance, List.mem_singleton_self _, accepted⟩
  someOrLone _ := by
    cases shown <;> simp

/-- A node of the class in one of two rows is in both together. -/
theorem exists_append {first second : List Appearance}
    (either : (∃ appearance ∈ first, accepts appearance = true) ∨
      ∃ appearance ∈ second, accepts appearance = true) :
    ∃ appearance ∈ first ++ second, accepts appearance = true := by
  rcases either with ⟨appearance, member, accepted⟩ | ⟨appearance, member, accepted⟩
  · exact ⟨appearance, List.mem_append_left _ member, accepted⟩
  · exact ⟨appearance, List.mem_append_right _ member, accepted⟩

theorem Holds.append (ofFront : Holds accepts front row) (ofBack : Holds accepts back rest) :
    Holds accepts (front.append back) (row ++ rest) where
  every both := by
    obtain ⟨frontEvery, backEvery⟩ := Bool.and_eq_true_iff.mp both
    exact List.forall_mem_append.mpr ⟨ofFront.every frontEvery, ofBack.every backEvery⟩
  some either :=
    exists_append ((Bool.or_eq_true_iff.mp either).imp ofFront.some ofBack.some)
  first either := by
    rcases Bool.or_eq_true_iff.mp either with frontFirst | inEither
    · obtain ⟨head, isHead, accepted⟩ := ofFront.first frontFirst
      exact ⟨head, by rw [List.head?_append, isHead]; rfl, accepted⟩
    · -- The first node is one of the front row, or that row is empty.
      obtain ⟨frontEvery, backFirst⟩ := Bool.and_eq_true_iff.mp inEither
      cases row with
      | nil => exact ofBack.first backFirst
      | cons head others =>
          exact ⟨head, rfl, ofFront.every frontEvery head List.mem_cons_self⟩
  later both := by
    obtain ⟨frontLater, backEvery⟩ := Bool.and_eq_true_iff.mp both
    intro appearance member
    cases row with
    | nil => exact ofBack.every backEvery appearance (List.mem_of_mem_tail member)
    | cons head others =>
        rcases List.mem_append.mp member with inFront | inBack
        · exact ofFront.later frontLater appearance inFront
        · exact ofBack.every backEvery appearance inBack
  someOrNone any := by
    rcases Bool.or_eq_true_iff.mp any with either | both
    · exact .inl (exists_append ((Bool.or_eq_true_iff.mp either).imp ofFront.some ofBack.some))
    · obtain ⟨frontIs, backIs⟩ := Bool.and_eq_true_iff.mp both
      rcases ofFront.someOrNone frontIs with inFront | rfl
      · exact .inl (exists_append (.inl inFront))
      · simpa using ofBack.someOrNone backIs
  someOrLone any := by
    rcases Bool.or_eq_true_iff.mp any with others | both
    · rcases Bool.or_eq_true_iff.mp others with either | both
      · exact .inl (exists_append ((Bool.or_eq_true_iff.mp either).imp ofFront.some ofBack.some))
      · obtain ⟨frontIs, backIs⟩ := Bool.and_eq_true_iff.mp both
        rcases ofFront.someOrNone frontIs with inFront | rfl
        · exact .inl (exists_append (.inl inFront))
        · simpa using ofBack.someOrLone backIs
    · obtain ⟨frontIs, backIs⟩ := Bool.and_eq_true_iff.mp both
      rcases ofBack.someOrNone backIs with inBack | rfl
      · exact .inl (exists_append (.inr inBack))
      · simpa using ofFront.someOrLone frontIs

theorem Holds.oneOf {verdicts : List Verdict} {verdict : Verdict} (member : verdict ∈ verdicts)
    (ofOne : Holds accepts verdict row) : Holds accepts (oneOf verdicts) row where
  every all := ofOne.every (List.all_eq_true.mp all verdict member)
  some all := ofOne.some (List.all_eq_true.mp all verdict member)
  first all := ofOne.first (List.all_eq_true.mp all verdict member)
  later all := ofOne.later (List.all_eq_true.mp all verdict member)
  someOrNone all := ofOne.someOrNone (List.all_eq_true.mp all verdict member)
  someOrLone all := ofOne.someOrLone (List.all_eq_true.mp all verdict member)

/-- What is known of one round is weakened for several rounds. -/
theorem Holds.once (ofFront : Holds accepts front row) :
    Holds accepts { front with later := front.every, someOrLone := front.someOrNone } row where
  every := ofFront.every
  some := ofFront.some
  first := ofFront.first
  later all appearance member := ofFront.every all appearance (List.mem_of_mem_tail member)
  someOrNone := ofFront.someOrNone
  someOrLone any := (ofFront.someOrNone any).imp_right fun isEmpty => by simp [isEmpty]

/-- What is known of several rounds holds with one round more. -/
theorem Holds.again (ofFront : Holds accepts front row)
    (ofRest : Holds accepts { front with later := front.every, someOrLone := front.someOrNone }
      rest) :
    Holds accepts { front with later := front.every, someOrLone := front.someOrNone }
      (row ++ rest) := by
  have joined := ofFront.append ofRest
  have every : front.every = true → ∀ appearance ∈ row ++ rest, accepts appearance = true :=
    fun all => joined.every (Bool.and_eq_true_iff.mpr ⟨all, all⟩)
  have someOrNone : front.someOrNone = true →
      (∃ appearance ∈ row ++ rest, accepts appearance = true) ∨ row ++ rest = [] :=
    fun any => joined.someOrNone
      (Bool.or_eq_true_iff.mpr (.inr (Bool.and_eq_true_iff.mpr ⟨any, any⟩)))
  exact {
    every := every
    some := fun one => joined.some (Bool.or_eq_true_iff.mpr (.inl one))
    first := fun one => joined.first (Bool.or_eq_true_iff.mpr (.inl one))
    later := fun all appearance member => every all appearance (List.mem_of_mem_tail member)
    someOrNone := someOrNone
    someOrLone := fun any => (someOrNone any).imp_right fun isEmpty => by simp [isEmpty] }

end Combine

end Verdict

/-- What is known of every row that a rule spells. The number bounds how deep rules are looked
into. -/
def judge (language : Definition) (accepts : Appearance → Bool) : Nat → Rule → Guise → Verdict
  | 0, _, _ => .unknown
  | _ + 1, .blank, _ => .ofShown accepts none
  | _ + 1, .token kind, guise => .ofShown accepts (guise.show? kind.ownName)
  | depth + 1, .symbol name, guise =>
      match guise.show? (language.ownName name) with
      | some appearance => .ofShown accepts (some appearance)
      | none => judge language accepts depth (language.ruleOf name) guise
  | depth + 1, .choice alternatives, guise =>
      .oneOf (alternatives.map fun alternative => judge language accepts depth alternative guise)
  | depth + 1, .sequence parts, guise =>
      (parts.map fun part => judge language accepts depth part guise).foldr .append
        (.ofShown accepts none)
  | depth + 1, .repeat1 body, guise =>
      let once := judge language accepts depth body guise
      { once with later := once.every, someOrLone := once.someOrNone }
  | depth + 1, .decorated decoration body, guise =>
      judge language accepts depth body (guise.under decoration)

section Judged

variable {language : Definition} {rule : Rule} {guise : Guise} {row : List Appearance}
  {accepts : Appearance → Bool}

/-- Where no rule is looked into, nothing is known. -/
theorem judged_of_succ
    (deeper : ∀ depth, (judge language accepts (depth + 1) rule guise).Holds accepts row)
    (depth : Nat) : (judge language accepts depth rule guise).Holds accepts row := by
  cases depth with
  | zero => exact Verdict.holds_unknown
  | succ depth => exact deeper depth

/-- What is known of every row holds of each. The induction is on the spelling; the depth goes
down with the rule, except along a sequence and a repetition, which are judged as a whole. -/
theorem Spells.judged (spelled : Spells language rule guise row) (accepts : Appearance → Bool)
    (depth : Nat) : (judge language accepts depth rule guise).Holds accepts row := by
  induction spelled generalizing depth with
  | blank => exact judged_of_succ (fun _ => Verdict.holds_ofShown none) depth
  | token kind => exact judged_of_succ (fun _ => Verdict.holds_ofShown _) depth
  | @shown _ _ appearance shows =>
      refine judged_of_succ (fun depth => ?_) depth
      simp only [judge, shows]
      exact Verdict.holds_ofShown (some appearance)
  | hidden hides _ inductionHypothesis =>
      refine judged_of_succ (fun depth => ?_) depth
      simp only [judge, hides]
      exact inductionHypothesis depth
  | choice member _ inductionHypothesis =>
      refine judged_of_succ (fun depth => ?_) depth
      exact (inductionHypothesis depth).oneOf (List.mem_map_of_mem member)
  | sequenceNil => exact judged_of_succ (fun _ => Verdict.holds_ofShown none) depth
  | sequenceCons _ _ ofFirst ofOthers =>
      refine judged_of_succ (fun depth => ?_) depth
      exact (ofFirst depth).append (ofOthers (depth + 1))
  | once _ inductionHypothesis =>
      refine judged_of_succ (fun depth => ?_) depth
      exact (inductionHypothesis depth).once
  | again _ _ ofFirst ofOthers =>
      refine judged_of_succ (fun depth => ?_) depth
      exact (ofFirst depth).again (ofOthers (depth + 1))
  | decorated _ inductionHypothesis =>
      refine judged_of_succ (fun depth => ?_) depth
      exact inductionHypothesis depth

end Judged

/-! ## Search for a spelling -/

/-- What remains of a row after its first node, if this is the given one. -/
def afterNode (expected : Appearance) : List Appearance → List (List Appearance)
  | [] => []
  | head :: rest => if head = expected then [rest] else []

/-- What can remain of a row after a part of it that a rule spells. -/
def remainders (language : Definition) :
    Nat → Rule → Guise → List Appearance → List (List Appearance)
  | 0, _, _, _ => []
  | _ + 1, .blank, _, row => [row]
  | _ + 1, .token kind, guise, row =>
      match guise.show? kind.ownName with
      | some appearance => afterNode appearance row
      | none => [row]
  | depth + 1, .symbol name, guise, row =>
      match guise.show? (language.ownName name) with
      | some appearance => afterNode appearance row
      | none => remainders language depth (language.ruleOf name) guise row
  | depth + 1, .choice alternatives, guise, row =>
      alternatives.flatMap fun alternative => remainders language depth alternative guise row
  | _ + 1, .sequence [], _, row => [row]
  | depth + 1, .sequence (part :: parts), guise, row =>
      (remainders language depth part guise row).flatMap
        (remainders language depth (.sequence parts) guise)
  | depth + 1, .repeat1 body, guise, row =>
      (remainders language depth body guise row).flatMap fun rest =>
        rest :: (if rest.length < row.length
          then remainders language depth (.repeat1 body) guise rest else [])
  | depth + 1, .decorated decoration body, guise, row =>
      remainders language depth body (guise.under decoration) row

theorem mem_afterNode_iff {expected : Appearance} {row rest : List Appearance} :
    rest ∈ afterNode expected row ↔ row = expected :: rest := by
  cases row with
  | nil => simp [afterNode]
  | cons head others =>
      rw [afterNode]
      by_cases isHead : head = expected
      · simp [isHead, eq_comm]
      · simp [isHead]

/-- Whatever the search leaves over, the rule spells what comes before it. -/
theorem spells_of_mem_remainders {language : Definition} {depth : Nat} {rule : Rule}
    {guise : Guise} {row rest : List Appearance}
    (member : rest ∈ remainders language depth rule guise row) :
    ∃ front, row = front ++ rest ∧ Spells language rule guise front := by
  induction depth generalizing rule guise row rest with
  | zero => exact absurd member List.not_mem_nil
  | succ depth inductionHypothesis =>
      cases rule with
      | blank =>
          obtain rfl := List.mem_singleton.mp member
          exact ⟨[], rfl, .blank⟩
      | token kind =>
          have spelled : Spells language (.token kind) guise _ := .token kind
          cases shows : guise.show? kind.ownName with
          | none =>
              simp only [remainders, shows, List.mem_singleton] at member
              rw [shows] at spelled
              exact ⟨[], member.symm, spelled⟩
          | some appearance =>
              simp only [remainders, shows, mem_afterNode_iff] at member
              rw [shows] at spelled
              exact ⟨[appearance], member, spelled⟩
      | symbol name =>
          cases shows : guise.show? (language.ownName name) with
          | none =>
              simp only [remainders, shows] at member
              obtain ⟨front, split, spelled⟩ := inductionHypothesis member
              exact ⟨front, split, .hidden shows spelled⟩
          | some appearance =>
              simp only [remainders, shows, mem_afterNode_iff] at member
              exact ⟨[appearance], member, .shown shows⟩
      | choice alternatives =>
          obtain ⟨alternative, isOne, found⟩ := List.mem_flatMap.mp member
          obtain ⟨front, split, spelled⟩ := inductionHypothesis found
          exact ⟨front, split, .choice isOne spelled⟩
      | sequence parts =>
          cases parts with
          | nil =>
              obtain rfl := List.mem_singleton.mp member
              exact ⟨[], rfl, .sequenceNil⟩
          | cons part parts =>
              obtain ⟨middle, isMiddle, found⟩ := List.mem_flatMap.mp member
              obtain ⟨front, rfl, spelledFront⟩ := inductionHypothesis isMiddle
              obtain ⟨back, rfl, spelledBack⟩ := inductionHypothesis found
              exact ⟨front ++ back, (List.append_assoc ..).symm,
                .sequenceCons spelledFront spelledBack⟩
      | repeat1 body =>
          obtain ⟨middle, isMiddle, found⟩ := List.mem_flatMap.mp member
          obtain ⟨front, rfl, spelledFront⟩ := inductionHypothesis isMiddle
          rcases List.mem_cons.mp found with rfl | goesOn
          · exact ⟨front, rfl, .once spelledFront⟩
          · split at goesOn
            next =>
              obtain ⟨back, rfl, spelledBack⟩ := inductionHypothesis goesOn
              exact ⟨front ++ back, (List.append_assoc ..).symm, .again spelledFront spelledBack⟩
            next => exact absurd goesOn List.not_mem_nil
      | decorated decoration body =>
          rw [remainders] at member
          obtain ⟨front, split, spelled⟩ := inductionHypothesis member
          exact ⟨front, split, .decorated spelled⟩

/-! ## Conforming nodes -/

/-- How a node appears. -/
def appearanceOf (node : Node) : Appearance := ⟨node.kind, node.isNamed, node.label.field⟩

def Rule.isToken : Rule → Bool
  | token _ => true
  | _ => false

/-- The rows of children of a node for a symbol: what its rule spells. A symbol that is a single
token can also have none, namely if the token stands for itself in no other rule. -/
def SpellsInside (language : Definition) (symbol : String) (row : List Appearance) : Prop :=
  ((language.ruleOf symbol).isToken = true ∧ row = []) ∨
    Spells language (language.ruleOf symbol) .plain row

/-- A node as the grammar says: its children, without extras, are spelled by a symbol that appears
as its kind. Extras are named, and they are in no field. -/
structure Conforms (language : Definition) (node : Node) : Prop where
  spelled : node.isNamed = true → ∃ symbol ∈ language.symbolsOf node.kind,
    SpellsInside language symbol (node.solid.map appearanceOf)
  extras : ∀ child ∈ node.children, child.isExtra = true →
    child.kind ∈ language.extras ∧ child.isNamed = true ∧ child.label.field = none

/-- What is known of the children of every node for a symbol. -/
def judgeSymbol (language : Definition) (accepts : Appearance → Bool) (depth : Nat)
    (symbol : String) : Verdict :=
  let rule := language.ruleOf symbol
  let spelled := judge language accepts depth rule .plain
  if rule.isToken then .oneOf [.ofShown accepts none, spelled] else spelled

/-- What is known of the children of every node of a kind. -/
def judgeKind (language : Definition) (accepts : Appearance → Bool) (depth : Nat)
    (kind : String) : Verdict :=
  .oneOf ((language.symbolsOf kind).map (judgeSymbol language accepts depth))

theorem SpellsInside.judged {language : Definition} {symbol : String} {row : List Appearance}
    (spelled : SpellsInside language symbol row) (accepts : Appearance → Bool) (depth : Nat) :
    (judgeSymbol language accepts depth symbol).Holds accepts row := by
  unfold judgeSymbol
  rcases spelled with ⟨isToken, isEmpty⟩ | spelled
  · rw [if_pos isToken, isEmpty]
    exact (Verdict.holds_ofShown none).oneOf List.mem_cons_self
  · have judged := spelled.judged accepts depth
    by_cases isToken : (language.ruleOf symbol).isToken = true
    · rw [if_pos isToken]
      exact judged.oneOf (List.mem_cons_of_mem _ List.mem_cons_self)
    · rw [if_neg isToken]
      exact judged

/-- What is known of the children of every node of a kind holds of those of a conforming node. -/
theorem Conforms.judged {language : Definition} {node : Node} (conforms : Conforms language node)
    (named : node.isNamed = true) (accepts : Appearance → Bool) (depth : Nat) :
    (judgeKind language accepts depth node.kind).Holds accepts (node.solid.map appearanceOf) := by
  obtain ⟨symbol, isSymbol, spelled⟩ := conforms.spelled named
  exact (spelled.judged accepts depth).oneOf (List.mem_map_of_mem isSymbol)

section Children

variable {language : Definition} {node child : Node}

theorem Conforms.mem_solid_of_field (conforms : Conforms language node)
    (member : child ∈ node.children) {name : String} (inField : child.label.field = some name) :
    child ∈ node.solid := by
  refine mem_solid_iff.mpr ⟨member, ?_⟩
  cases extra : child.isExtra with
  | false => rfl
  | true =>
      rw [(conforms.extras child member extra).2.2] at inField
      cases inField

/-- The child in a field is the first node that fills it. -/
theorem Conforms.childByField_eq (conforms : Conforms language node) (name : String) :
    node.childByField name = (node.filling name).head? := by
  have fills : node.filling name =
      node.children.filter fun child => child.label.field = some name := by
    rw [filling, solid, List.filter_filter]
    apply List.filter_congr
    intro child member
    by_cases inField : child.label.field = some name
    · have isSolid := (mem_solid_iff.mp (conforms.mem_solid_of_field member inField)).2
      simp [inField, isSolid]
    · simp [inField]
  rw [childByField, fills, List.head?_filter]

/-- The fields of the children of a conforming node are fields of the grammar. -/
theorem Conforms.mem_fieldNames (conforms : Conforms language node) (named : node.isNamed = true)
    (member : child ∈ node.children) {name : String} (inField : child.label.field = some name) :
    name ∈ language.fieldNames := by
  have isSolid : child ∈ node.solid := conforms.mem_solid_of_field member inField
  obtain ⟨symbol, -, spelled⟩ := conforms.spelled named
  rcases spelled with ⟨-, isEmpty⟩ | spelled
  · rw [List.map_eq_nil_iff.mp isEmpty] at isSolid
    exact absurd isSolid List.not_mem_nil
  · have ofRow := spelled.field (fun _ => language.mem_fieldNames_of_ruleOf)
      (appearanceOf child) (List.mem_map_of_mem isSolid) name inField
    exact ofRow.resolve_left fun outer => nomatch outer

variable {shape : Appearance → Prop} [DecidablePred shape] {depth : Nat} {kind : String}

theorem Conforms.every_child (conforms : Conforms language node) (named : node.isNamed = true)
    (ofKind : node.kind = kind)
    (checked : (judgeKind language (fun child => shape child) depth kind).every = true) :
    ∀ child ∈ node.solid, shape (appearanceOf child) := by
  subst ofKind
  intro child member
  exact of_decide_eq_true
    ((conforms.judged named _ depth).every checked _ (List.mem_map_of_mem member))

theorem Conforms.exists_child (conforms : Conforms language node) (named : node.isNamed = true)
    (ofKind : node.kind = kind)
    (checked : (judgeKind language (fun child => shape child) depth kind).some = true) :
    ∃ child ∈ node.solid, shape (appearanceOf child) := by
  subst ofKind
  obtain ⟨appearance, member, accepted⟩ := (conforms.judged named _ depth).some checked
  obtain ⟨child, isChild, rfl⟩ := List.mem_map.mp member
  exact ⟨child, isChild, of_decide_eq_true accepted⟩

theorem Conforms.first_child (conforms : Conforms language node) (named : node.isNamed = true)
    (ofKind : node.kind = kind)
    (checked : (judgeKind language (fun child => shape child) depth kind).first = true) :
    ∃ child, node.solid.head? = some child ∧ shape (appearanceOf child) := by
  subst ofKind
  obtain ⟨appearance, isHead, accepted⟩ := (conforms.judged named _ depth).first checked
  rw [Option.mem_def, List.head?_map, Option.map_eq_some_iff] at isHead
  obtain ⟨child, isChild, rfl⟩ := isHead
  exact ⟨child, isChild, of_decide_eq_true accepted⟩

theorem Conforms.later_child (conforms : Conforms language node) (named : node.isNamed = true)
    (ofKind : node.kind = kind)
    (checked : (judgeKind language (fun child => shape child) depth kind).later = true) :
    ∀ child ∈ node.solid.tail, shape (appearanceOf child) := by
  subst ofKind
  intro child member
  refine of_decide_eq_true ((conforms.judged named _ depth).later checked _ ?_)
  rw [← List.map_tail]
  exact List.mem_map_of_mem member

/-- What every node in a field is, the child in this field is. -/
theorem Conforms.shape_of_childByField (conforms : Conforms language node)
    (named : node.isNamed = true) (ofKind : node.kind = kind) {name : String}
    (shaped : (judgeKind language (fun child => child.field = some name → shape child) depth
      kind).every = true)
    (found : node.childByField name = some child) :
    child ∈ node.solid ∧ shape (appearanceOf child) := by
  rw [conforms.childByField_eq] at found
  obtain ⟨isSolid, inField⟩ := mem_filling_iff.mp (List.mem_of_head? found)
  exact ⟨isSolid, conforms.every_child named ofKind shaped child isSolid inField⟩

/-- A field that is filled in every node of a kind has a child. -/
theorem Conforms.exists_childByField (conforms : Conforms language node)
    (named : node.isNamed = true) (ofKind : node.kind = kind) {name : String}
    (filled : (judgeKind language (fun child => child.field = some name) depth kind).some = true)
    (shaped : (judgeKind language (fun child => child.field = some name → shape child) depth
      kind).every = true) :
    ∃ child ∈ node.solid, node.childByField name = some child ∧ shape (appearanceOf child) := by
  obtain ⟨filler, isSolid, inField⟩ := conforms.exists_child named ofKind filled
  have fills : filler ∈ node.filling name := mem_filling_iff.mpr ⟨isSolid, inField⟩
  cases split : node.filling name with
  | nil =>
      rw [split] at fills
      exact absurd fills List.not_mem_nil
  | cons child others =>
      have found : node.childByField name = some child := by
        rw [conforms.childByField_eq, split]
        rfl
      obtain ⟨isChild, isShaped⟩ := conforms.shape_of_childByField named ofKind shaped found
      exact ⟨child, isChild, found, isShaped⟩

end Children

/-- Whether the search finds that a node conforms. -/
def checkNode (language : Definition) (depth : Nat) (node : Node) : Bool :=
  let row := node.solid.map appearanceOf
  (!node.isNamed || (language.symbolsOf node.kind).any fun symbol =>
    let rule := language.ruleOf symbol
    (rule.isToken && row.isEmpty) || (remainders language depth rule .plain row).contains []) &&
  node.children.all fun child => !child.isExtra ||
    (language.extras.contains child.kind && child.isNamed && child.label.field.isNone)

theorem conforms_of_checkNode {language : Definition} {depth : Nat} {node : Node}
    (checked : checkNode language depth node = true) : Conforms language node := by
  obtain ⟨inside, extras⟩ := Bool.and_eq_true_iff.mp checked
  refine ⟨?_, ?_⟩
  · intro named
    simp only [named, Bool.not_true, Bool.false_or, List.any_eq_true] at inside
    obtain ⟨symbol, isSymbol, found⟩ := inside
    refine ⟨symbol, isSymbol, ?_⟩
    rcases Bool.or_eq_true_iff.mp found with isToken | isSpelled
    · obtain ⟨isToken, isEmpty⟩ := Bool.and_eq_true_iff.mp isToken
      exact .inl ⟨isToken, List.isEmpty_iff.mp isEmpty⟩
    · obtain ⟨front, split, spelled⟩ :=
        spells_of_mem_remainders (List.contains_iff_mem.mp isSpelled)
      rw [List.append_nil] at split
      rw [split]
      exact .inr spelled
  · intro child member isExtra
    have ofChild := List.all_eq_true.mp extras child member
    simpa [isExtra, and_assoc] using ofChild

end FunctionAtlas.Grammar
