import FunctionAtlas.Grammar.Prepared

/-!
Contract: preparing a grammar makes up no names.

The names of a prepared grammar are those of its rules and scanner tokens, the texts of its fixed
tokens, the names and the fields that decorations give, and the names of repetitions, which are
made of the names of rules. So what holds of all texts of a grammar holds of these names.

Owns: the texts of a grammar, and the names of its normal form.

Does not own: the names in the table of a grammar.
-/

namespace FunctionAtlas.Grammar

/-! ## Texts of a grammar -/

/-- The name and the field that a decoration gives. -/
def Decoration.texts (decoration : Decoration) : List String :=
  (decoration.rename.map NodeName.text).toList ++ decoration.fieldName.toList

mutual

/-- The texts of fixed tokens and of decorations in a rule. -/
def Rule.texts : Rule → List String
  | .blank | .symbol _ => []
  | .token kind => kind.literal.toList
  | .choice alternatives => Rule.textsOfAll alternatives
  | .sequence parts => Rule.textsOfAll parts
  | .repeat1 body => body.texts
  | .decorated decoration body => decoration.texts ++ body.texts

def Rule.textsOfAll : List Rule → List String
  | [] => []
  | rule :: rest => rule.texts ++ Rule.textsOfAll rest

end

mutual

/-- The texts of decorations in a body. -/
def Body.texts : Body → List String
  | .blank | .symbol _ => []
  | .choice alternatives => Body.textsOfAll alternatives
  | .sequence parts => Body.textsOfAll parts
  | .repeat1 body => body.texts
  | .decorated decoration body => decoration.texts ++ body.texts

def Body.textsOfAll : List Body → List String
  | [] => []
  | body :: rest => body.texts ++ Body.textsOfAll rest

end

/-- All texts of a grammar: its names and the texts in its rules. -/
def Definition.texts (definition : Definition) : List String :=
  definition.rules.map (·.1) ++ definition.rules.flatMap (fun rule => rule.2.texts) ++
    definition.externals.flatMap fun external =>
      match external with
      | .scanned name => [name]
      | .shared rule => rule.texts

variable {holds : String → Prop}

/-- A property of all texts of a body. -/
def Body.TextsHold (holds : String → Prop) (body : Body) : Prop := ∀ text ∈ body.texts, holds text

section Texts

variable {body : Body} {bodies : List Body} {decoration : Decoration}

theorem textsHold_blank : Body.blank.TextsHold holds := by
  intro text member
  cases member

theorem textsHold_symbol (reference : Sym) : (Body.symbol reference).TextsHold holds := by
  intro text member
  cases member

theorem forall_mem_textsOfAll :
    (∀ text ∈ Body.textsOfAll bodies, holds text) ↔ ∀ body ∈ bodies, body.TextsHold holds := by
  induction bodies with
  | nil => simp [Body.textsOfAll]
  | cons body rest inductionHypothesis =>
      rw [Body.textsOfAll, List.forall_mem_append, inductionHypothesis, List.forall_mem_cons]
      rfl

theorem textsHold_choice :
    (Body.choice bodies).TextsHold holds ↔ ∀ body ∈ bodies, body.TextsHold holds :=
  forall_mem_textsOfAll

theorem textsHold_sequence :
    (Body.sequence bodies).TextsHold holds ↔ ∀ body ∈ bodies, body.TextsHold holds :=
  forall_mem_textsOfAll

theorem textsHold_repeat1 : (Body.repeat1 body).TextsHold holds ↔ body.TextsHold holds := Iff.rfl

theorem textsHold_decorated :
    (Body.decorated decoration body).TextsHold holds ↔
      (∀ text ∈ decoration.texts, holds text) ∧ body.TextsHold holds :=
  List.forall_mem_append

end Texts

/-! ## Bodies -/

mutual

/-- Resolving the names of a rule keeps its decorations. -/
theorem textsHold_resolve (resolution : Resolution) : ∀ (rule : Rule),
    (∀ text ∈ rule.texts, holds text) → (rule.resolve resolution).TextsHold holds
  | .blank, _ => textsHold_blank
  | .symbol _, _ => textsHold_symbol _
  | .token _, _ => textsHold_symbol _
  | .choice alternatives, each => by
      rw [Rule.texts] at each
      exact textsHold_choice.mpr (textsHold_resolveAll resolution alternatives each)
  | .sequence parts, each => by
      rw [Rule.texts] at each
      exact textsHold_sequence.mpr (textsHold_resolveAll resolution parts each)
  | .repeat1 body, each => by
      rw [Rule.texts] at each
      exact textsHold_repeat1.mpr (textsHold_resolve resolution body each)
  | .decorated decoration body, each => by
      rw [Rule.texts, List.forall_mem_append] at each
      exact textsHold_decorated.mpr ⟨each.1, textsHold_resolve resolution body each.2⟩

theorem textsHold_resolveAll (resolution : Resolution) : ∀ (rules : List Rule),
    (∀ text ∈ Rule.textsOfAll rules, holds text) →
      ∀ body ∈ Rule.resolveAll resolution rules, body.TextsHold holds
  | [], _ => by
      rw [Rule.resolveAll]
      simp
  | rule :: rest, each => by
      rw [Rule.textsOfAll, List.forall_mem_append] at each
      rw [Rule.resolveAll, List.forall_mem_cons]
      exact ⟨textsHold_resolve resolution rule each.1, textsHold_resolveAll resolution rest each.2⟩

end

/-- The repetitions made so far have owners and bodies with a property. -/
def Repetitions.TextsHold (holds : String → Prop) (repetitions : Repetitions) : Prop :=
  ∀ made ∈ repetitions.made, holds made.1 ∧ made.2.TextsHold holds

theorem textsHold_repetition {body : Body} (category : Nat) (each : body.TextsHold holds) :
    (body.repetition category).TextsHold holds := by
  have twice : (Body.sequence
      [.symbol (.nonterminal category), .symbol (.nonterminal category)]).TextsHold holds := by
    rw [textsHold_sequence]
    simp [textsHold_symbol]
  unfold Body.repetition
  split
  next alternatives =>
    rw [textsHold_choice] at each ⊢
    exact List.forall_mem_cons.mpr ⟨twice, each⟩
  next =>
    rw [textsHold_choice]
    simp [twice, each]

theorem Repetitions.textsHold_categoryFor {repetitions : Repetitions} {owner : String} {body : Body}
    (made : repetitions.TextsHold holds) (owned : holds owner) (each : body.TextsHold holds) :
    (repetitions.categoryFor owner body).2.TextsHold holds := by
  unfold categoryFor
  split
  next => exact made
  next =>
    intro other member
    rcases List.mem_append.mp member with isEarlier | isNew
    · exact made other isEarlier
    · rw [List.mem_singleton.mp isNew]
      exact ⟨owned, textsHold_repetition _ each⟩

mutual

/-- Repetitions become categories with the texts of what is repeated. -/
theorem textsHold_expandRepeats {owner : String} (owned : holds owner) :
    ∀ (body : Body) (repetitions : Repetitions), repetitions.TextsHold holds →
      body.TextsHold holds →
        (body.expandRepeats owner repetitions).1.TextsHold holds ∧
          (body.expandRepeats owner repetitions).2.TextsHold holds
  | .blank, repetitions, made, each => by
      rw [Body.expandRepeats]
      exact ⟨each, made⟩
  | .symbol _, repetitions, made, each => by
      rw [Body.expandRepeats]
      exact ⟨each, made⟩
  | .choice alternatives, repetitions, made, each => by
      rw [Body.expandRepeats]
      exact (textsHold_expandRepeatsOfAll owned alternatives repetitions made
        (textsHold_choice.mp each)).imp textsHold_choice.mpr id
  | .sequence parts, repetitions, made, each => by
      rw [Body.expandRepeats]
      exact (textsHold_expandRepeatsOfAll owned parts repetitions made
        (textsHold_sequence.mp each)).imp textsHold_sequence.mpr id
  | .repeat1 body, repetitions, made, each => by
      rw [Body.expandRepeats]
      obtain ⟨inner, after⟩ := textsHold_expandRepeats owned body repetitions made
        (textsHold_repeat1.mp each)
      exact ⟨textsHold_symbol _, Repetitions.textsHold_categoryFor after owned inner⟩
  | .decorated decoration body, repetitions, made, each => by
      rw [Body.expandRepeats]
      obtain ⟨own, ofBody⟩ := textsHold_decorated.mp each
      obtain ⟨inner, after⟩ := textsHold_expandRepeats owned body repetitions made ofBody
      exact ⟨textsHold_decorated.mpr ⟨own, inner⟩, after⟩

theorem textsHold_expandRepeatsOfAll {owner : String} (owned : holds owner) :
    ∀ (bodies : List Body) (repetitions : Repetitions), repetitions.TextsHold holds →
      (∀ body ∈ bodies, body.TextsHold holds) →
        (∀ body ∈ (Body.expandRepeatsOfAll owner repetitions bodies).1, body.TextsHold holds) ∧
          (Body.expandRepeatsOfAll owner repetitions bodies).2.TextsHold holds
  | [], repetitions, made, _ => by
      rw [Body.expandRepeatsOfAll]
      exact ⟨by simp, made⟩
  | body :: rest, repetitions, made, each => by
      rw [Body.expandRepeatsOfAll]
      obtain ⟨isFirst, areOthers⟩ := List.forall_mem_cons.mp each
      obtain ⟨head, after⟩ := textsHold_expandRepeats owned body repetitions made isFirst
      obtain ⟨tail, final⟩ := textsHold_expandRepeatsOfAll owned rest _ after areOthers
      exact ⟨List.forall_mem_cons.mpr ⟨head, tail⟩, final⟩

end

/-! ## Choices -/

mutual

/-- A choice has no texts but those of what is chosen from. -/
theorem textsHold_choices : ∀ (body : Body), body.TextsHold holds →
    ∀ choice ∈ body.choices, choice.TextsHold holds
  | .blank, each => by
      rw [Body.choices]
      exact List.forall_mem_singleton.mpr each
  | .symbol _, each => by
      rw [Body.choices]
      exact List.forall_mem_singleton.mpr each
  | .choice alternatives, each => by
      rw [Body.choices]
      exact textsHold_choicesOfAny alternatives (textsHold_choice.mp each)
  | .sequence parts, each => by
      rw [Body.choices]
      exact textsHold_choicesOfAll parts (textsHold_sequence.mp each) [.blank]
        (List.forall_mem_singleton.mpr textsHold_blank)
  | .repeat1 _, each => by
      rw [Body.choices]
      exact List.forall_mem_singleton.mpr each
  | .decorated decoration body, each => by
      rw [Body.choices]
      obtain ⟨own, ofBody⟩ := textsHold_decorated.mp each
      intro choice member
      obtain ⟨inner, isInner, rfl⟩ := List.mem_map.mp member
      exact textsHold_decorated.mpr ⟨own, textsHold_choices body ofBody inner isInner⟩

theorem textsHold_choicesOfAny : ∀ (bodies : List Body),
    (∀ body ∈ bodies, body.TextsHold holds) →
      ∀ choice ∈ Body.choicesOfAny bodies, choice.TextsHold holds
  | [], _ => by
      rw [Body.choicesOfAny]
      simp
  | body :: rest, each => by
      rw [Body.choicesOfAny, List.forall_mem_append]
      obtain ⟨isFirst, areOthers⟩ := List.forall_mem_cons.mp each
      exact ⟨textsHold_choices body isFirst, textsHold_choicesOfAny rest areOthers⟩

theorem textsHold_choicesOfAll : ∀ (bodies : List Body),
    (∀ body ∈ bodies, body.TextsHold holds) →
      ∀ beginnings : List Body, (∀ beginning ∈ beginnings, beginning.TextsHold holds) →
        ∀ choice ∈ Body.choicesOfAll beginnings bodies, choice.TextsHold holds
  | [], _, beginnings, begun => by
      rw [Body.choicesOfAll]
      exact begun
  | body :: rest, each, beginnings, begun => by
      rw [Body.choicesOfAll]
      obtain ⟨isFirst, areOthers⟩ := List.forall_mem_cons.mp each
      apply textsHold_choicesOfAll rest areOthers
      intro longer member
      obtain ⟨beginning, isBeginning, isLonger⟩ := List.mem_flatMap.mp member
      obtain ⟨option, isOption, rfl⟩ := List.mem_map.mp isLonger
      rw [textsHold_sequence]
      simp [begun beginning isBeginning, textsHold_choices body isFirst option isOption]

end

/-! ## Productions -/

/-- The name and the field of a step have a property. -/
structure Step.NamesHold (holds : String → Prop) (step : Step) : Prop where
  rename : ∀ name ∈ step.rename, holds name.text
  field : ∀ name ∈ step.fieldName, holds name

/-- The name and the field that are given from outside have a property. -/
structure Surroundings.NamesHold (holds : String → Prop) (around : Surroundings) : Prop where
  rename : ∀ name ∈ around.rename, holds name.text
  field : ∀ name ∈ around.fieldName, holds name

def Flattening.NamesHold (holds : String → Prop) (flattening : Flattening) : Prop :=
  ∀ step ∈ flattening.reversed, step.NamesHold holds

theorem forall_mem_or {Item : Type} {accepts : Item → Prop} {first second : Option Item}
    (ofFirst : ∀ item ∈ first, accepts item) (ofSecond : ∀ item ∈ second, accepts item) :
    ∀ item ∈ first.or second, accepts item := by
  intro item member
  rcases Option.or_eq_some_iff.mp member with isFirst | ⟨-, isSecond⟩
  · exact ofFirst item isFirst
  · exact ofSecond item isSecond

theorem Surroundings.NamesHold.inside {around : Surroundings} (outer : around.NamesHold holds)
    {decoration : Decoration} (own : ∀ text ∈ decoration.texts, holds text)
    (precedence : Option Int) (associativity : Option Associativity) :
    Surroundings.NamesHold holds
      ⟨precedence, associativity, decoration.rename.or around.rename,
        decoration.fieldName.or around.fieldName⟩ where
  rename := by
    apply forall_mem_or _ outer.rename
    intro name isOwn
    apply own name.text
    exact List.mem_append_left _ (Option.mem_toList.mpr (Option.mem_map_of_mem _ isOwn))
  field := by
    apply forall_mem_or _ outer.field
    intro name isOwn
    exact own name (List.mem_append_right _ (Option.mem_toList.mpr isOwn))

theorem Flattening.namesHold_leave {flattening : Flattening} (each : flattening.NamesHold holds)
    (decoration : Decoration) (outer : Surroundings) (atEnd : Bool) :
    (flattening.leave decoration outer atEnd).NamesHold holds := by
  unfold leave
  split
  next =>
    split
    next => exact each
    next last earlier isSplit =>
      rw [NamesHold, isSplit, List.forall_mem_cons] at each
      refine List.forall_mem_cons.mpr ⟨?_, each.2⟩
      -- Only the precedence and the associativity of the last step change.
      split <;> split <;> exact ⟨each.1.rename, each.1.field⟩
  next => exact each

mutual

/-- The steps of a production take their names and fields from the decorations around them. -/
theorem namesHold_flattenInto : ∀ (body : Body), body.TextsHold holds →
    ∀ (around : Surroundings), around.NamesHold holds → ∀ (atEnd : Bool) (flattening : Flattening),
      flattening.NamesHold holds → (body.flattenInto around atEnd flattening).NamesHold holds
  | .symbol reference, _, around, outer, atEnd, flattening, before => by
      rw [Body.flattenInto]
      exact List.forall_mem_cons.mpr ⟨⟨outer.rename, outer.field⟩, before⟩
  | .sequence parts, each, around, outer, atEnd, flattening, before => by
      rw [Body.flattenInto]
      exact namesHold_flattenAllInto parts (textsHold_sequence.mp each) around outer atEnd _ before
  | .decorated decoration body, each, around, outer, atEnd, flattening, before => by
      rw [Body.flattenInto]
      obtain ⟨own, ofBody⟩ := textsHold_decorated.mp each
      apply Flattening.namesHold_leave
      exact namesHold_flattenInto body ofBody _ (outer.inside own _ _) atEnd _ before
  | .blank, _, around, outer, atEnd, flattening, before => by
      rw [Body.flattenInto]
      exact before
  | .choice _, _, around, outer, atEnd, flattening, before => by
      rw [Body.flattenInto]
      exact before
  | .repeat1 _, _, around, outer, atEnd, flattening, before => by
      rw [Body.flattenInto]
      exact before

theorem namesHold_flattenAllInto : ∀ (bodies : List Body),
    (∀ body ∈ bodies, body.TextsHold holds) →
      ∀ (around : Surroundings), around.NamesHold holds →
        ∀ (atEnd : Bool) (flattening : Flattening), flattening.NamesHold holds →
          (Body.flattenAllInto around atEnd flattening bodies).NamesHold holds
  | [], _, around, outer, atEnd, flattening, before => by
      rw [Body.flattenAllInto]
      exact before
  | body :: rest, each, around, outer, atEnd, flattening, before => by
      rw [Body.flattenAllInto]
      obtain ⟨isFirst, areOthers⟩ := List.forall_mem_cons.mp each
      exact namesHold_flattenAllInto rest areOthers around outer atEnd _
        (namesHold_flattenInto body isFirst around outer _ flattening before)

end

/-- All steps of a production have names and fields with a property. -/
def Production.NamesHold (holds : String → Prop) (production : Production) : Prop :=
  ∀ step ∈ production.steps, step.NamesHold holds

theorem namesHold_production {body : Body} (each : body.TextsHold holds) :
    body.production.NamesHold holds := by
  intro step member
  have outer : Surroundings.NamesHold holds ⟨none, none, none, none⟩ := ⟨by simp, by simp⟩
  have flattened := namesHold_flattenInto body each _ outer true ⟨[], 0, false⟩ (by
    intro step member
    cases member)
  exact flattened step (List.mem_reverse.mp member)

theorem namesHold_productions {body : Body} (each : body.TextsHold holds) :
    ∀ production ∈ body.productions, production.NamesHold holds := by
  unfold Body.productions
  refine List.foldlRecOn body.choices _ (b := [])
    (motive := fun found => ∀ production ∈ found, Production.NamesHold holds production)
    (by simp) ?_
  intro found known choice isChoice
  dsimp only
  split
  · exact known
  · rw [List.forall_mem_append, List.forall_mem_singleton]
    exact ⟨known, namesHold_production (textsHold_choices body each choice isChoice)⟩

/-! ## Tokens -/

theorem holds_name_add {uses : List TokenUse} {ruleName : String} {token : TokenKind}
    (known : ∀ use ∈ uses, holds use.name) (named : holds ruleName)
    (ofToken : ∀ text ∈ token.literal, holds text) :
    ∀ use ∈ TokenUse.add uses ruleName token, holds use.name := by
  intro use member
  unfold TokenUse.add at member
  split at member
  next =>
    obtain ⟨other, isOther, rfl⟩ := List.mem_map.mp member
    split
    · exact known other isOther
    · exact known other isOther
  next =>
    rcases List.mem_append.mp member with isKnown | isNew
    · exact known use isKnown
    · rw [List.mem_singleton.mp isNew]
      cases isLiteral : token.literal with
      | none => exact named
      | some literal => exact ofToken literal isLiteral

mutual

/-- Tokens are named by their texts or by the rule in which they appear first. -/
theorem holds_name_collectTokens {ruleName : String} (named : holds ruleName) :
    ∀ (rule : Rule), (∀ text ∈ rule.texts, holds text) →
      ∀ uses : List TokenUse, (∀ use ∈ uses, holds use.name) →
        ∀ use ∈ rule.collectTokens ruleName uses, holds use.name
  | .blank, _, uses, known => by
      rw [Rule.collectTokens]
      exact known
  | .symbol _, _, uses, known => by
      rw [Rule.collectTokens]
      exact known
  | .token kind, each, uses, known => by
      rw [Rule.collectTokens]
      rw [Rule.texts] at each
      exact holds_name_add known named fun text isLiteral =>
        each text (Option.mem_toList.mpr isLiteral)
  | .choice alternatives, each, uses, known => by
      rw [Rule.collectTokens]
      rw [Rule.texts] at each
      exact holds_name_collectTokensOfAll named alternatives each uses known
  | .sequence parts, each, uses, known => by
      rw [Rule.collectTokens]
      rw [Rule.texts] at each
      exact holds_name_collectTokensOfAll named parts each uses known
  | .repeat1 body, each, uses, known => by
      rw [Rule.collectTokens]
      rw [Rule.texts] at each
      exact holds_name_collectTokens named body each uses known
  | .decorated decoration body, each, uses, known => by
      rw [Rule.collectTokens]
      rw [Rule.texts, List.forall_mem_append] at each
      exact holds_name_collectTokens named body each.2 uses known

theorem holds_name_collectTokensOfAll {ruleName : String} (named : holds ruleName) :
    ∀ (rules : List Rule), (∀ text ∈ Rule.textsOfAll rules, holds text) →
      ∀ uses : List TokenUse, (∀ use ∈ uses, holds use.name) →
        ∀ use ∈ Rule.collectTokensOfAll ruleName uses rules, holds use.name
  | [], _, uses, known => by
      rw [Rule.collectTokensOfAll]
      exact known
  | rule :: rest, each, uses, known => by
      rw [Rule.collectTokensOfAll]
      rw [Rule.textsOfAll, List.forall_mem_append] at each
      exact holds_name_collectTokensOfAll named rest each.2 _
        (holds_name_collectTokens named rule each.1 uses known)

end

/-! ## Default names -/

theorem holds_names_ofSteps {steps : List Step} (each : ∀ step ∈ steps, step.NamesHold holds) :
    ∀ entry ∈ (NameUse.ofSteps steps).names, holds entry.1.text := by
  unfold NameUse.ofSteps
  refine List.foldlRecOn steps _
    (motive := fun use : NameUse => ∀ entry ∈ use.names, holds entry.1.text) (by simp) ?_
  intro use known step isStep
  split
  next => exact known
  next name isName =>
    split
    · intro entry member
      obtain ⟨other, isOther, rfl⟩ := List.mem_map.mp member
      split
      · exact known other isOther
      · exact known other isOther
    · rw [List.forall_mem_append, List.forall_mem_singleton]
      exact ⟨known, (each step isStep).rename name isName⟩

/-- The usual name of a symbol is one that some step gives it. -/
theorem holds_usual {use : NameUse} (each : ∀ entry ∈ use.names, holds entry.1.text) :
    ∀ name ∈ use.usual, holds name.text := by
  intro name isUsual
  obtain ⟨best, isBest, rfl⟩ := Option.map_eq_some_iff.mp isUsual
  -- the best entry so far is one of the names
  refine List.foldlRecOn use.names _ (b := none)
    (motive := fun best => ∀ entry ∈ best, holds entry.1.text) (by simp) ?_ best isBest
  intro found known entry isEntry chosen isChosen
  split at isChosen
  next => exact Option.some.inj isChosen ▸ each entry isEntry
  next =>
    split at isChosen
    · exact Option.some.inj isChosen ▸ each entry isEntry
    · exact known chosen isChosen

theorem holds_defaultNameOf {steps : List Step} (each : ∀ step ∈ steps, step.NamesHold holds)
    (extras inlined : List Nat) (symbol : Sym) :
    ∀ name ∈ defaultNameOf steps extras inlined symbol, holds name.text := by
  have own : ∀ step ∈ steps.filter (·.symbol = symbol), step.NamesHold holds := by
    intro step member
    exact each step (List.mem_filter.mp member).1
  intro name isDefault
  simp only [defaultNameOf, Option.mem_def, Option.ite_none_left_eq_some] at isDefault
  exact holds_usual (holds_names_ofSteps own) name isDefault.2.2

theorem namesHold_dropDefaultName {step : Step} (each : step.NamesHold holds)
    (defaults : Sym → Option NodeName) (others : List Production) (position : Nat) :
    (dropDefaultName defaults others position step).NamesHold holds := by
  unfold dropDefaultName
  split
  next =>
    split
    · exact ⟨by simp, each.field⟩
    · exact each
  next => exact each

theorem namesHold_dropDefaultNames {category : Category}
    (each : ∀ production ∈ category.productions, production.NamesHold holds)
    (defaults : Sym → Option NodeName) :
    ∀ production ∈ (category.dropDefaultNames defaults).productions,
      production.NamesHold holds := by
  intro changed isChanged step isStep
  obtain ⟨⟨production, index⟩, isEntry, rfl⟩ := List.mem_map.mp isChanged
  obtain ⟨⟨original, position⟩, isOriginal, rfl⟩ := List.mem_map.mp isStep
  apply namesHold_dropDefaultName
  exact each production (List.fst_mem_of_mem_zipIdx isEntry) original
    (List.fst_mem_of_mem_zipIdx isOriginal)

/-! ## Preparation -/

/-- The names of a prepared grammar have a property: those of its symbols, and those that its
steps give. -/
structure Prepared.NamesHold (holds : String → Prop) (grammar : Prepared) : Prop where
  terminals : ∀ terminal ∈ grammar.terminals, holds terminal.name
  externals : ∀ external ∈ grammar.externals, holds external.name
  categories : ∀ category ∈ grammar.categories, holds category.name
  productions : ∀ category ∈ grammar.categories, ∀ production ∈ category.productions,
    production.NamesHold holds
  defaults : ∀ entry ∈ grammar.defaultNames, holds entry.2.text

section Preparing

variable {definition : Definition} (each : ∀ text ∈ definition.texts, holds text)

include each

theorem holds_ruleName : ∀ rule ∈ definition.rules, holds rule.1 := by
  intro rule isRule
  apply each
  exact List.mem_append_left _ (List.mem_append_left _ (List.mem_map_of_mem isRule))

theorem holds_ruleText : ∀ rule ∈ definition.rules, ∀ text ∈ rule.2.texts, holds text := by
  intro rule isRule text isText
  apply each
  refine List.mem_append_left _ (List.mem_append_right _ ?_)
  exact List.mem_flatMap.mpr ⟨rule, isRule, isText⟩

theorem holds_externalText : ∀ external ∈ definition.externals,
    match external with
    | .scanned name => holds name
    | .shared rule => ∀ text ∈ rule.texts, holds text := by
  intro external isExternal
  have inside : ∀ text, text ∈ (match external with
      | .scanned name => [name]
      | .shared rule => rule.texts) → holds text := by
    intro text isText
    apply each
    exact List.mem_append_right _ (List.mem_flatMap.mpr ⟨external, isExternal, isText⟩)
  cases external with
  | scanned name => exact inside name (List.mem_singleton.mpr rfl)
  | shared rule => exact inside

/-- The tokens of a grammar are named by its texts, or not at all. -/
theorem holds_name_uses (unnamed : holds "") :
    ∀ use ∈ definition.externals.foldl
      (fun uses external =>
        match external with
        | .scanned _ => uses
        | .shared rule => rule.collectTokens "" uses)
      (definition.rules.foldl (fun uses (name, rule) => rule.collectTokens name uses) []),
      holds use.name := by
  refine List.foldlRecOn definition.externals _
    (motive := fun uses : List TokenUse => ∀ use ∈ uses, holds use.name) ?_ ?_
  · refine List.foldlRecOn definition.rules _
      (motive := fun uses : List TokenUse => ∀ use ∈ uses, holds use.name) (by simp) ?_
    intro uses known rule isRule
    exact holds_name_collectTokens (holds_ruleName each rule isRule) rule.2
      (holds_ruleText each rule isRule) uses known
  · intro uses known external isExternal
    have ofExternal := holds_externalText each external isExternal
    cases external with
    | scanned => exact known
    | shared rule => exact holds_name_collectTokens unnamed rule ofExternal uses known

/-- The bodies of rules, and the repetitions in them, keep the texts of the rules. -/
theorem textsHold_expandRules (resolution : Resolution) {rules : List (String × Rule)}
    (areRules : ∀ rule ∈ rules, rule ∈ definition.rules) (firstIndex : Nat) :
    let expanded := rules.foldl
      (fun (state : List (String × Body) × Repetitions) (name, rule) =>
        let (body, after) := (rule.resolve resolution).expandRepeats name state.2
        (state.1 ++ [(name, body)], after))
      ([], ⟨firstIndex, [], []⟩)
    (∀ entry ∈ expanded.1, holds entry.1 ∧ entry.2.TextsHold holds) ∧
      expanded.2.TextsHold holds := by
  refine List.foldlRecOn rules _
    (motive := fun state : List (String × Body) × Repetitions =>
      (∀ entry ∈ state.1, holds entry.1 ∧ entry.2.TextsHold holds) ∧ state.2.TextsHold holds)
    ⟨by simp, by intro made member; cases member⟩ ?_
  rintro ⟨known, made⟩ ⟨areKnown, areMade⟩ ⟨name, rule⟩ member
  have isRule := areRules _ member
  have named := holds_ruleName each _ isRule
  obtain ⟨ofBody, after⟩ := textsHold_expandRepeats named (rule.resolve resolution) made areMade
    (textsHold_resolve resolution rule (holds_ruleText each _ isRule))
  refine ⟨?_, after⟩
  rw [List.forall_mem_append, List.forall_mem_singleton]
  exact ⟨areKnown, named, ofBody⟩

/-- Preparing a grammar makes up no names but those of repetitions. -/
theorem namesHold_prepare (unnamed : holds "")
    (repeats : ∀ name, holds name → holds (name ++ "_repeat")) :
    definition.prepare.NamesHold holds := by
  have ruleName := holds_ruleName each
  unfold Definition.prepare
  extract_lets uses tokenRules isTokenRuleName terminalOf categoryRules categoryNames scannedNames
    symbolOf terminals resolution externals extras indicesOf inlined
  have useName : ∀ use ∈ uses, holds use.name := holds_name_uses each unnamed
  have areRules : ∀ rule ∈ categoryRules, rule ∈ definition.rules := by
    intro rule member
    exact (List.mem_filter.mp member).1
  have bodies := textsHold_expandRules each resolution areRules categoryNames.length
  split
  next expanded repetitions folded =>
    extract_lets categories allSteps symbols defaultNames defaults
    dsimp only at bodies
    rw [folded] at bodies
    have ofCategories : ∀ category ∈ categories, holds category.name ∧
        ∀ production ∈ category.productions, production.NamesHold holds := by
      rw [List.forall_mem_append]
      constructor
      · intro category member
        obtain ⟨⟨name, body⟩, isEntry, rfl⟩ := List.mem_map.mp member
        obtain ⟨named, ofBody⟩ := bodies.1 _ isEntry
        exact ⟨named, namesHold_productions ofBody⟩
      · intro category member
        obtain ⟨⟨owner, body⟩, isMade, rfl⟩ := List.mem_map.mp member
        obtain ⟨named, ofBody⟩ := bodies.2 _ isMade
        exact ⟨repeats owner named, namesHold_productions ofBody⟩
    constructor
    · intro terminal member
      obtain ⟨use, isUse, rfl⟩ := List.mem_map.mp (List.mem_toArray.mp member)
      split
      next name rule found =>
        have isTokenRule := List.mem_of_find?_eq_some found
        exact ruleName _ (List.mem_of_mem_drop (List.mem_filter.mp isTokenRule).1)
      next => split <;> exact useName use isUse
    · intro external member
      obtain ⟨own, isOwn, rfl⟩ := List.mem_map.mp (List.mem_toArray.mp member)
      have ofExternal := holds_externalText each own isOwn
      cases own with
      | scanned name => exact ofExternal
      | shared rule =>
          dsimp only
          split <;> exact unnamed
    · intro category member
      obtain ⟨own, isOwn, rfl⟩ := List.mem_map.mp (List.mem_toArray.mp member)
      exact (ofCategories own isOwn).1
    · intro category member
      obtain ⟨own, isOwn, rfl⟩ := List.mem_map.mp (List.mem_toArray.mp member)
      exact namesHold_dropDefaultNames (ofCategories own isOwn).2 defaults
    · intro entry member
      have ofSteps : ∀ step ∈ allSteps, step.NamesHold holds := by
        intro step isStep
        obtain ⟨category, isCategory, isInside⟩ := List.mem_flatMap.mp isStep
        obtain ⟨production, isProduction, isStep⟩ := List.mem_flatMap.mp isInside
        exact (ofCategories category isCategory).2 production isProduction step isStep
      obtain ⟨symbol, -, isDefault⟩ := List.mem_filterMap.mp member
      obtain ⟨name, isName, rfl⟩ := Option.map_eq_some_iff.mp isDefault
      exact holds_defaultNameOf ofSteps extras inlined symbol name isName

end Preparing

end FunctionAtlas.Grammar
