import Mathlib.Data.String.Basic

/-!
# Text functions

Simultaneous replacement of several patterns, the blank texts, texts that are
drawn from character classes, and lists that are joined with separators.
-/

namespace Text

/-- Replace patterns in a list of characters. At each position the first
pattern in argument order that matches is replaced, and the characters it
covers are skipped. -/
def replaceChars (pairs : List (List Char × List Char)) :
    (skip : ℕ) → List Char → List Char
  | _, [] => []
  | skip + 1, _ :: rest => replaceChars pairs skip rest
  | 0, char :: rest =>
      match pairs.find? fun pair => pair.1.isPrefixOf (char :: rest) with
      | some pair => pair.2 ++ replaceChars pairs (pair.1.length - 1) rest
      | none => char :: replaceChars pairs 0 rest

/-- `strings.NewReplacer(pairs...).Replace(text)` for patterns that are not
empty. -/
def replace (pairs : List (String × String)) (text : String) : String :=
  String.ofList
    (replaceChars (pairs.map fun pair => (pair.1.toList, pair.2.toList)) 0 text.toList)

/-- `unicode.IsSpace`. -/
def isSpace (char : Char) : Bool :=
  let code := char.toNat
  (0x09 ≤ code && code ≤ 0x0D) || code == 0x20 || code == 0x85 || code == 0xA0 ||
    code == 0x1680 || (0x2000 ≤ code && code ≤ 0x200A) || code == 0x2028 ||
    code == 0x2029 || code == 0x202F || code == 0x205F || code == 0x3000

/-- `strings.TrimSpace(text) == ""`. -/
def blank (text : String) : Bool :=
  text.toList.all isSpace

/-- A text of a first class of characters followed by a bounded number of
characters of a second class, as the anchored expression
`^[first][rest]{0,limit}$` describes it. -/
def classPattern (first rest : Char → Bool) (limit : ℕ) (text : String) : Bool :=
  match text.toList with
  | [] => false
  | head :: tail => first head && tail.all rest && tail.length ≤ limit

/-- A text of between `least` and `limit` characters of one class, as the
anchored expression `^[class]{least,limit}$` describes it. -/
def runPattern (allowed : Char → Bool) (least limit : ℕ) (text : String) : Bool :=
  text.toList.all allowed && least ≤ text.toList.length && text.toList.length ≤ limit

/-! ## Separators -/

variable {α : Type} {separator : α}

section Pieces

variable [DecidableEq α] {parts left right : List (List α)}

end Pieces

end Text
