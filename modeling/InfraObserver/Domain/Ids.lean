import InfraObserver.Domain.Platform
import InfraObserver.Library.Text

/-!
# Label keys and templates

`labelsKey` renders a label set as one canonical text, with sorted names. It can be
read back as long as no separator stands where it should not.
-/

namespace InfraObserver

variable (labels : StringMap String)

/-- `LabelsKey`: labels as `k=v,k=v` with sorted names. -/
def labelsKey : String :=
  String.intercalate "," (labels.toSortedList.map fun entry => entry.1 ++ "=" ++ entry.2)

/-- `NewObservationID`. -/
def newObservationID [Platform]
    (cycleID deviceID metric : String)
    (labels : StringMap String) : String :=
  stableID ["obs", cycleID, deviceID, metric, labelsKey labels]

/-- The replacement pairs `{name}` of a label set, in order of the names. -/
def labelPairs : List (String × String) :=
  labels.toSortedList.map fun entry => ("\x7b" ++ entry.1 ++ "\x7d", entry.2)

/-- The labels as pairs of characters, in order of the names. -/
def labelChars : List (List Char × List Char) :=
  labels.toSortedList.map fun entry => (entry.1.toList, entry.2.toList)

/-- No separator stands in the names, and no comma in the values. -/
def Readable : Prop :=
  ∀ name value, labels.lookup name = some value →
    '=' ∉ name.toList ∧ ',' ∉ name.toList ∧ ',' ∉ value.toList

theorem Readable.pair
    {labels : StringMap String}
    (readable : Readable labels) :
    ∀ pair ∈ labelChars labels, '=' ∉ pair.1 ∧ ',' ∉ pair.1 ∧ ',' ∉ pair.2 := by
  intro pair member
  obtain ⟨⟨name, value⟩, listed, rfl⟩ := List.mem_map.mp member
  exact readable name value ((StringMap.mem_toSortedList ..).mp listed)

end InfraObserver
