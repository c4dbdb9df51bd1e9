import InfraObserver.Domain.Records

/-!
# What the model takes from Go's standard library

Two classes collect the library functions that the model leaves abstract:
arithmetic and formatting of `float64`, and the formatting, hashing, encoding
and time-zone functions. Nothing is assumed about them beyond the order of the
numbers; a theorem that needs more names it as a hypothesis.
-/

namespace InfraObserver

/-- The operations on `float64` that the code uses. Values are linearly
ordered; rounding is left open. -/
class GoFloat (F : Type) extends LinearOrder F, Zero F, One F, Add F, Div F, NatCast F where
  /-- `strconv.FormatFloat(x, 'f', -1, 64)`. -/
  formatShortest : F → String
  /-- `strconv.FormatFloat(x, 'g', 6, 64)`. -/
  formatGeneral : F → String

/-- Library functions on texts and instants. -/
class Platform where
  /-- `StableID`: the hexadecimal digest of its parts. -/
  stableID : List String → String
  /-- `strconv.Quote`, the verb `%q`. -/
  quote : String → String
  /-- `Format(time.RFC3339)` of the instant in UTC. -/
  rfc3339 : Time → String
  /-- `Duration.String`, the verb `%s` of a duration. -/
  durationText : Duration → String
  jsonFailure : String → String
  /-- `schema.Encode` of an event. -/
  encodeEvent : Event → Except Error String
  encodeRequest : AutomationRequest → Except Error String
  encodeResult : AutomationResult → Except Error String
  /-- Weekday (Sunday is 0) and minute of the day of an instant in a named
  zone, when the zone database has the zone. -/
  localClock : String → Time → Option (ℕ × ℕ)

export Platform (stableID quote)

/-- `numeric`: booleans are deliberately not numbers here. -/
def Value.numeric {F : Type} : Value F → Option F
  | .float64 number | .float32 number | .int number | .int64 number => some number
  | _ => none

/-- `Observation.Float`: the value when it is numeric or boolean. -/
def Value.float {F : Type} [GoFloat F] : Value F → Option F
  | .float64 number | .int number | .int64 number => some number
  | .bool true => some 1
  | .bool false => some 0
  | _ => none

/-- The value when it is boolean. -/
def Value.asBool {F : Type} : Value F → Option Bool
  | .bool flag => some flag
  | _ => none

/-- `fmtValue`. -/
def Value.format {F : Type} [GoFloat F] : Value F → String
  | .float64 number => GoFloat.formatShortest number
  | .bool flag => if flag then "true" else "false"
  | .string text => text
  | _ => ""

/-- The sum of `fnv.New32a` over a text. -/
def fnv32a (text : String) : UInt32 :=
  text.toUTF8.data.toList.foldl (fun hash byte => (hash ^^^ byte.toUInt32) * 16777619) 2166136261

/-! ## Plain instances

Concrete instances on which definitions can be evaluated. The digest keeps its
parts apart, so it is injective. -/

/-- The characters of a text, with a mark before full stops and marks. -/
def marked (chars : List Char) : List Char :=
  chars.flatMap fun char => if char = '.' ∨ char = '!' then ['!', char] else [char]

/-- A digest that keeps its parts: each one ends with a full stop of its own. -/
def plainDigest (parts : List String) : String :=
  String.ofList (parts.flatMap fun part => marked part.toList ++ ['.'])

/-- The first full stop without a mark separates a marked text from what follows
it. -/
theorem marked_append_inj
    {left right after beyond : List Char}
    (same : marked left ++ '.' :: after = marked right ++ '.' :: beyond) :
    left = right ∧ after = beyond := by
  induction left generalizing right with
  | nil =>
      cases right with
      | nil => simpa [marked] using same
      | cons char rest =>
          simp only [marked, List.flatMap_nil, List.nil_append, List.flatMap_cons] at same
          split_ifs at same with special <;> grind
  | cons char rest ih =>
      cases right with
      | nil =>
          simp only [marked, List.flatMap_nil, List.nil_append, List.flatMap_cons] at same
          split_ifs at same with special <;> grind
      | cons other more =>
          have heads : char = other ∧
              marked rest ++ '.' :: after = marked more ++ '.' :: beyond := by
            simp only [marked, List.flatMap_cons] at same ⊢
            split_ifs at same <;> grind
          obtain ⟨rfl, rfl⟩ := ih heads.2
          exact ⟨by rw [heads.1], rfl⟩

theorem plainDigest_injective : Function.Injective plainDigest := by
  intro left right same
  rw [plainDigest, plainDigest, String.ofList_inj] at same
  induction left generalizing right with
  | nil =>
      cases right with
      | nil => rfl
      | cons part rest => simp at same
  | cons part rest ih =>
      cases right with
      | nil => simp at same
      | cons other more =>
          simp only [List.flatMap_cons, List.append_assoc, List.singleton_append] at same
          obtain ⟨head, tails⟩ := marked_append_inj same
          rw [String.toList_inj.mp head, ih tails]

/-- Library functions that keep their arguments readable. -/
@[reducible] def Platform.plain : Platform where
  stableID := plainDigest
  quote text := "\"" ++ text ++ "\""
  rfc3339 := toString
  durationText duration := toString duration.ns
  jsonFailure text := text
  encodeEvent event := .ok event.eventID
  encodeRequest request := .ok request.requestID
  encodeResult result := .ok result.requestID
  localClock _ _ := some (0, 0)

/-- Integers in the place of `float64`. -/
@[reducible] def GoFloat.integer : GoFloat ℤ where
  formatShortest := toString
  formatGeneral := toString

end InfraObserver
