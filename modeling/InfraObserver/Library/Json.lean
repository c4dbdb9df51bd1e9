import Mathlib.Data.List.Basic
import Mathlib.Order.Lattice

/-!
# JSON values

A JSON value is a tree over a type of strings and a type of numbers. Its strings and
numbers are texts, each accepted by an automaton of its own; what they mean is left to
the reader of the tree.
-/

namespace Json

/-! ## Trees -/

/-- A JSON value over a type of strings and a type of numbers. -/
inductive Tree (S N : Type)
  | null
  | bool (flag : Bool)
  | number (number : N)
  | string (text : S)
  | array (items : List (Tree S N))
  | object (members : List (S × Tree S N))

namespace Tree

section Same

variable {S N : Type} [DecidableEq S] [DecidableEq N]

mutual

/-- Whether two trees are equal. -/
def same : Tree S N → Tree S N → Bool
  | .null, .null => true
  | .bool left, .bool right => left = right
  | .number left, .number right => left = right
  | .string left, .string right => left = right
  | .array left, .array right => sameItems left right
  | .object left, .object right => sameMembers left right
  | _, _ => false

/-- Whether two lists of trees are equal. -/
def sameItems : List (Tree S N) → List (Tree S N) → Bool
  | [], [] => true
  | left :: lefts, right :: rights => left.same right && sameItems lefts rights
  | _, _ => false

/-- Whether two lists of members are equal. -/
def sameMembers : List (S × Tree S N) → List (S × Tree S N) → Bool
  | [], [] => true
  | (key, left) :: lefts, (other, right) :: rights =>
      key = other && left.same right && sameMembers lefts rights
  | _, _ => false

end

mutual

theorem same_iff : (left right : Tree S N) → (left.same right = true ↔ left = right)
  | .null, right => by cases right <;> simp [same]
  | .bool _, right => by cases right <;> simp [same]
  | .number _, right => by cases right <;> simp [same]
  | .string _, right => by cases right <;> simp [same]
  | .array items, right => by cases right <;> simp [same, sameItems_iff items]
  | .object members, right => by cases right <;> simp [same, sameMembers_iff members]

theorem sameItems_iff :
    (left right : List (Tree S N)) → (sameItems left right = true ↔ left = right)
  | [], right => by cases right <;> simp [sameItems]
  | item :: items, right => by
      cases right <;> simp [sameItems, same_iff item, sameItems_iff items]

theorem sameMembers_iff :
    (left right : List (S × Tree S N)) → (sameMembers left right = true ↔ left = right)
  | [], right => by cases right <;> simp [sameMembers]
  | (_, value) :: members, right => by
      cases right <;>
        simp [sameMembers, same_iff value, sameMembers_iff members, Prod.ext_iff]

end

instance : DecidableEq (Tree S N) := fun left right =>
  decidable_of_iff _ (same_iff left right)

end Same

variable {S N : Type}

mutual

/-- The number of arrays and objects around the innermost value. -/
def depth : Tree S N → ℕ
  | .null | .bool _ | .number _ | .string _ => 0
  | .array items => depthItems items + 1
  | .object members => depthMembers members + 1

/-- The depth of the deepest item. -/
def depthItems : List (Tree S N) → ℕ
  | [] => 0
  | item :: items => max item.depth (depthItems items)

/-- The depth of the deepest member. -/
def depthMembers : List (S × Tree S N) → ℕ
  | [] => 0
  | (_, value) :: members => max value.depth (depthMembers members)

end

end Tree

/-! ## Tokens -/

/-- A finite automaton that reads characters. -/
structure Automaton (σ : Type) where
  start : σ
  step : σ → Char → Option σ
  final : σ → Bool

namespace Automaton

variable {σ : Type} (automaton : Automaton σ)

/-- The state after a text. -/
def run (state : σ) : List Char → Option σ
  | [] => some state
  | char :: rest => (automaton.step state char).bind fun next => run next rest

/-- Whether a text leads from the start to a final state. -/
def accepts (chars : List Char) : Bool :=
  (automaton.run automaton.start chars).any automaton.final

/-- A text that an automaton accepts. -/
@[ext] structure Token where
  chars : List Char
  accepted : automaton.accepts chars = true
  deriving DecidableEq

end Automaton

/-- Where a number can stand after some of its characters. -/
inductive NumberState
  | start
  | sign
  | zero
  | digits
  | point
  | fraction
  | exponent
  | exponentSign
  | exponentDigits
  deriving DecidableEq

/-- The state after one more character of a number. -/
def NumberState.step : NumberState → Char → Option NumberState
  | .start, char =>
      if char = '-' then some .sign
      else if char = '0' then some .zero
      else if char.isDigit then some .digits
      else none
  | .sign, char =>
      if char = '0' then some .zero else if char.isDigit then some .digits else none
  | .zero, char =>
      if char = '.' then some .point
      else if char = 'e' ∨ char = 'E' then some .exponent
      else none
  | .digits, char =>
      if char.isDigit then some .digits
      else if char = '.' then some .point
      else if char = 'e' ∨ char = 'E' then some .exponent
      else none
  | .point, char => if char.isDigit then some .fraction else none
  | .fraction, char =>
      if char.isDigit then some .fraction
      else if char = 'e' ∨ char = 'E' then some .exponent
      else none
  | .exponent, char =>
      if char = '+' ∨ char = '-' then some .exponentSign
      else if char.isDigit then some .exponentDigits
      else none
  | .exponentSign, char | .exponentDigits, char =>
      if char.isDigit then some .exponentDigits else none

/-- The grammar of numbers. -/
def numberAutomaton : Automaton NumberState where
  start := .start
  step := NumberState.step
  final
    | .zero | .digits | .fraction | .exponentDigits => true
    | _ => false

/-- The text of a number. -/
abbrev Literal := numberAutomaton.Token

/-- Where the inside of a string can stand. -/
inductive StringState
  | plain
  | escape
  | hex (left : ℕ)
  deriving DecidableEq

/-- The characters `[0-9A-Fa-f]`. -/
def isHex (char : Char) : Bool :=
  char.isDigit || ('a' ≤ char && char ≤ 'f') || ('A' ≤ char && char ≤ 'F')

/-- The state after one more character of a string. There is none after the
quotation mark at its end. -/
def StringState.step : StringState → Char → Option StringState
  | .plain, char =>
      if char = '\\' then some .escape
      else if char = '"' ∨ char.toNat < 0x20 then none
      else some .plain
  | .escape, char =>
      if char ∈ ['b', 'f', 'n', 'r', 't', '\\', '/', '"'] then some .plain
      else if char = 'u' then some (.hex 3)
      else none
  | .hex left, char =>
      if isHex char then some (if left = 0 then .plain else .hex (left - 1)) else none

/-- The grammar of what stands between the quotation marks of a string. -/
def stringAutomaton : Automaton StringState where
  start := .plain
  step := StringState.step
  final := (· = .plain)

/-- What stands between the quotation marks of a string. -/
abbrev Quoted := stringAutomaton.Token

/-- A JSON value as it is written. -/
abbrev Written := Tree Quoted Literal

/-- The deepest nesting that is read. -/
def maxNestingDepth : ℕ := 10000

/-- A value that can be read even inside of another one. -/
structure Shallow where
  tree : Written
  bounded : tree.depth < maxNestingDepth
  deriving DecidableEq

end Json
