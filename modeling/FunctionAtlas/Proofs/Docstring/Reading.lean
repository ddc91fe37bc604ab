import FunctionAtlas.Docstring.Body
import FunctionAtlas.Proofs.Docstring.LiteralEnd
import FunctionAtlas.Proofs.FirstFailure

/-!
Contract: which literals are read for the docstring of a body.

Literals in a row are read one after the other. The reading stops at a part that is no plain
string, and it fails at the first literal that would be cut inside a character.

Owns: the literals of a docstring and the failure to read them.

Does not own: the value of a docstring.
-/

namespace FunctionAtlas.Docstring

open FunctionAtlas.Syntax
open FunctionAtlas.FirstFailure

/-! ## The literals of a docstring -/

/-- The string literals that an expression begins with. -/
def literalsOf (expression : Node) : List Node :=
  if expression.kind = "string" then [expression]
  else if expression.kind = "concatenated_string" then
    expression.parts.takeWhile fun part => part.kind = "string"
  else []

/-- The string literals that the docstring of a body is made of. -/
def docstringLiterals (body : Node) : List Node :=
  match body.parts.head? with
  | none => []
  | some first =>
      if first.kind ≠ "expression_statement" then []
      else
        match first.parts with
        | [expression] => literalsOf (unwrapParentheses expression)
        | _ => []

/-- Among literals that are read up to the first that is no plain string, one would be cut inside
a character. -/
def CutsOne (source : Array Char) (literals : List Node) : Prop :=
  ∃ before literal after, literals = before ++ literal :: after ∧
    (∀ earlier ∈ before, ∃ value, decode (textOf source earlier.label) = .ok (some value)) ∧
    CutsCharacter (textOf source literal.label).toList

variable (source : Array Char)

theorem not_cutsOne_nil : ¬ CutsOne source [] := by
  rintro ⟨before, literal, after, split, -⟩
  simp at split

/-- The first literal fails, or it is plain and the others fail. -/
theorem cutsOne_cons_iff (literal : Node) (rest : List Node) :
    CutsOne source (literal :: rest) ↔
      CutsCharacter (textOf source literal.label).toList ∨
        ((∃ value, decode (textOf source literal.label) = .ok (some value)) ∧
          CutsOne source rest) := by
  constructor
  · rintro ⟨before, found, after, split, plain, cuts⟩
    cases before with
    | nil =>
        obtain ⟨rfl, -⟩ := List.cons.inj split
        exact .inl cuts
    | cons head others =>
        obtain ⟨rfl, rfl⟩ := List.cons.inj split
        obtain ⟨first, remaining⟩ := List.forall_mem_cons.mp plain
        exact .inr ⟨first, others, found, after, rfl, remaining, cuts⟩
  · rintro (cuts | ⟨first, before, found, after, rfl, plain, cuts⟩)
    · exact ⟨[], literal, rest, rfl, by simp, cuts⟩
    · exact ⟨literal :: before, found, after, rfl, List.forall_mem_cons.mpr ⟨first, plain⟩, cuts⟩

theorem cutsOne_singleton_iff (literal : Node) :
    CutsOne source [literal] ↔ CutsCharacter (textOf source literal.label).toList := by
  rw [cutsOne_cons_iff]
  simp [not_cutsOne_nil source]

/-! ## Failures -/

/-- A row of literals is read up to the first part that is no string. -/
theorem exists_joinedValue_eq_error_iff (parts : List Node) :
    (∃ fault, joinedValue source parts = .error fault) ↔
      CutsOne source (parts.takeWhile fun part => part.kind = "string") := by
  induction parts with
  | nil => simp [joinedValue, not_cutsOne_nil source]
  | cons part rest inductionHypothesis =>
      by_cases isString : part.kind = "string"
      · rw [joinedValue, if_neg (not_not_intro isString),
          List.takeWhile_cons_of_pos (by simpa using isString), cutsOne_cons_iff,
          ← inductionHypothesis, ← exists_decode_eq_error_iff]
        cases decode (textOf source part.label) with
        | error fault => simp
        | ok value =>
            cases value with
            | none => simp
            | some value => simp [map_eq_error_iff]
      · simp [joinedValue, isString, not_cutsOne_nil source]

theorem exists_literalValue_eq_error_iff (expression : Node) :
    (∃ fault, literalValue source expression = .error fault) ↔
      CutsOne source (literalsOf expression) := by
  unfold literalValue literalsOf
  by_cases isString : expression.kind = "string"
  · rw [if_pos isString, if_pos isString, exists_decode_eq_error_iff, cutsOne_singleton_iff]
  · rw [if_neg isString, if_neg isString]
    by_cases isRow : expression.kind = "concatenated_string"
    · rw [if_pos isRow, if_pos isRow]
      exact exists_joinedValue_eq_error_iff source expression.parts
    · simp [isRow, not_cutsOne_nil source]

/-- The docstring of a body cannot be read exactly if one of its literals would be cut inside a
character. -/
theorem exists_ofBody_eq_error_iff (body : Node) :
    (∃ fault, ofBody source body = .error fault) ↔ CutsOne source (docstringLiterals body) := by
  unfold ofBody docstringLiterals
  cases body.parts.head? with
  | none => simp [not_cutsOne_nil source]
  | some first =>
      by_cases isOther : first.kind ≠ "expression_statement"
      · simp [isOther, not_cutsOne_nil source]
      · simp only [if_neg isOther]
        cases first.parts with
        | nil => simp [not_cutsOne_nil source]
        | cons expression others =>
            cases others with
            | nil =>
                simp only [map_eq_error_iff]
                exact exists_literalValue_eq_error_iff source (unwrapParentheses expression)
            | cons second more => simp [not_cutsOne_nil source]

end FunctionAtlas.Docstring
