import InfraObserver.Schema.Limits

/-!
# Normalization

A mapping table turns source-specific observations into canonical ones. The maps of an
observation are references into a heap, so that what a call writes, and where, is part
of the model. Go iterates over a map in no particular order; the order in which the
label mapping is visited is a parameter.
-/

namespace InfraObserver

/-- What normalization needs of `float64`. -/
class ScaledFloat (F : Type) extends GoFloat F, Mul F where
  /-- The verb `%v`. -/
  formatValue : F → String

/-! ## Maps in memory -/

/-- The maps that a program has made, each under its reference. -/
abbrev Heap : Type := List (StringMap String)

namespace Heap

/-- The entries of a map; the nil map has none. -/
def read (heap : Heap) (ref : Option ℕ) : StringMap String :=
  (ref.bind fun index => heap[index]?).getD ∅

/-- Assign to a key. -/
def write (heap : Heap) (ref : ℕ) (key value : String) : Heap :=
  heap.modify ref fun entries => entries.insert key value

/-- `cloneMap`. -/
def clone (heap : Heap) : Option ℕ → Option ℕ × Heap
  | none => (none, heap)
  | some ref => (some heap.length, heap ++ [heap.read (some ref)])

/-- A map that is not nil. -/
def ensure (heap : Heap) : Option ℕ → ℕ × Heap
  | none => (heap.length, heap ++ [∅])
  | some ref => (ref, heap)

variable {base heap : Heap}

theorem read_of_grown
    (grown : base <+: heap)
    {ref : Option ℕ}
    (known : ∀ index ∈ ref, index < base.length) :
    heap.read ref = base.read ref := by
  obtain ⟨added, rfl⟩ := grown
  cases ref with
  | none => rfl
  | some index => simp [read, List.getElem?_append_left (known index rfl)]

theorem getElem?_write
    {ref index : ℕ}
    (different : ref ≠ index)
    (key value : String) :
    (heap.write ref key value)[index]? = heap[index]? := by
  simp [write, different]

theorem grown_write
    (grown : base <+: heap)
    {ref : ℕ}
    (new : base.length ≤ ref)
    (key value : String) :
    base <+: heap.write ref key value := by
  rw [List.prefix_iff_getElem?] at grown ⊢
  intro index within
  rw [getElem?_write (by omega), grown index within]

theorem grown_clone
    (grown : base <+: heap)
    (ref : Option ℕ) :
    base <+: (heap.clone ref).2 ∧ ∀ index ∈ (heap.clone ref).1, base.length ≤ index := by
  cases ref with
  | none => exact ⟨grown, nofun⟩
  | some ref =>
      refine ⟨grown.trans (List.prefix_append _ _), ?_⟩
      rintro _ ⟨⟩
      exact grown.length_le

theorem grown_ensure
    (grown : base <+: heap)
    {ref : Option ℕ}
    (new : ∀ index ∈ ref, base.length ≤ index) :
    base <+: (heap.ensure ref).2 ∧ base.length ≤ (heap.ensure ref).1 := by
  cases ref with
  | none => exact ⟨grown.trans (List.prefix_append _ _), grown.length_le⟩
  | some ref => exact ⟨grown, new ref rfl⟩

theorem modify_newest
    (heap : Heap)
    (entries : StringMap String)
    (change : StringMap String → StringMap String) :
    (heap ++ [entries]).modify heap.length change = heap ++ [change entries] := by
  induction heap with
  | nil => rfl
  | cons first rest ih => simp [ih]

end Heap

/-! ## Mapping tables -/

/-- The kinds of value conversion; a kind that is not given is empty. -/
inductive ConvertKind
  | identity
  | scale
  | bool
  | enum
  | unknown (text : String)
  deriving DecidableEq

/-- `Convert`. -/
structure Convert (F : Type) where
  kind : ConvertKind
  factor : F
  trueValues : List F
  map : StringMap String
  deriving DecidableEq

/-- `Mapping`: one raw-to-canonical rule. -/
structure Mapping (F : Type) where
  raw : String
  metric : String
  unit : String
  convert : Convert F
  /-- From raw labels to canonical ones; when set, unlisted labels are dropped. -/
  labels : Option (StringMap String)
  deriving DecidableEq

/-- `Normalizer`. -/
structure Normalizer (F : Type) where
  byRaw : StringMap (Mapping F)

/-- `metricRe`, the expression `^[a-z][a-z0-9_]*(\.[a-z0-9_]+)*$`. -/
def canonicalMetric (metric : String) : Bool :=
  metricPattern metric && metric.toList.all fun char => !char.isUpper

variable {F : Type}

section Tables

variable [ScaledFloat F] [Platform]

/-- What `Parse` finds wrong with the mapping at a position of the document. -/
def Mapping.problems (seen : StringMap (Mapping F)) (position : ℕ) (mapping : Mapping F) :
    List String :=
  let place := "mappings[" ++ toString position ++ "]"
  let spot := place ++ " (" ++ mapping.raw ++ ")"
  (if mapping.raw = "" then [place ++ ": raw is required"]
    else problemIf (!canonicalMetric mapping.metric)
      (spot ++ ": canonical metric must be lower-case dotted, e.g. system.cpu.utilization")) ++
    problemIf (seen.lookup mapping.raw).isSome (spot ++ ": duplicate mapping for raw metric") ++
    match mapping.convert.kind with
    | .identity => []
    | .scale => problemIf (mapping.convert.factor = 0) (spot ++ ": scale needs a non-zero factor")
    | .bool => problemIf mapping.convert.trueValues.isEmpty (spot ++ ": bool needs true_values")
    | .enum => problemIf (mapping.convert.map = ∅) (spot ++ ": enum needs a map")
    | .unknown text => [spot ++ ": unknown convert kind " ++ quote text]

/-- The kind of a conversion that gives none. -/
def Mapping.withDefaults (mapping : Mapping F) : Mapping F :=
  if mapping.convert.kind = .unknown "" then
    { mapping with convert := { mapping.convert with kind := .identity } }
  else mapping

namespace Normalizer

/-- The loop of `Parse` over the decoded mappings. -/
def collect : List (Mapping F) → ℕ → StringMap (Mapping F) → List String × StringMap (Mapping F)
  | [], _, seen => ([], seen)
  | mapping :: rest, position, seen =>
      let mapping := mapping.withDefaults
      let (found, byRaw) := collect rest (position + 1) (seen.insert mapping.raw mapping)
      (mapping.problems seen position ++ found, byRaw)

/-- `Parse`, once the document is decoded. -/
def parse (mappings : List (Mapping F)) : Except Error (Normalizer F) :=
  match collect mappings 0 ∅ with
  | ([], byRaw) => .ok ⟨byRaw⟩
  | (problems, _) => .error (Error.errorf .validation (String.intercalate "; " problems))

end Normalizer

end Tables

/-! ## Values -/

/-- The verb `%T`. -/
def Value.typeName : Value F → String
  | .float64 _ => "float64"
  | .float32 _ => "float32"
  | .int _ => "int"
  | .int32 _ => "int32"
  | .int64 _ => "int64"
  | .uint32 _ => "uint32"
  | .uint64 _ => "uint64"
  | .bool _ => "bool"
  | .string _ => "string"
  | .null => "<nil>"
  | .other name _ => name

/-- `number`. -/
def Value.number : Value F → Option F
  | .float64 number | .float32 number | .int number | .int32 number | .int64 number
  | .uint32 number | .uint64 number => some number
  | _ => none

/-- `convert`; an error is a text. -/
def Convert.apply [ScaledFloat F] [Platform] (convert : Convert F) (value : Value F) :
    Except String (Value F) :=
  match convert.kind with
  | .identity => .ok value
  | .scale =>
      match value.number with
      | none => .error ("scale needs a numeric value, got " ++ value.typeName)
      | some number => .ok (.float64 (number * convert.factor))
  | .bool =>
      match value.asBool, value.number with
      | some flag, _ => .ok (.bool flag)
      | none, none => .error ("bool conversion needs a numeric value, got " ++ value.typeName)
      | none, some number => .ok (.bool (convert.trueValues.contains number))
  | .enum =>
      match value.number with
      | none => .error ("enum needs a numeric value, got " ++ value.typeName)
      | some number =>
          match convert.map.lookup (GoFloat.formatShortest number) with
          | none => .error ("enum has no entry for " ++ ScaledFloat.formatValue number)
          | some text => .ok (.string text)
  | .unknown text => .error ("unknown convert kind " ++ quote text)

/-- An observation, with references to its maps. -/
structure ObservationRef (F : Type) where
  observationID : String
  correlationID : String
  deviceID : String
  source : String
  metric : String
  value : Value F
  labels : Option ℕ
  observedAt : Time
  receivedAt : Time
  metadata : Option ℕ
  deriving DecidableEq

/-- The maps of the observation are in memory. -/
def ObservationRef.In (observation : ObservationRef F) (heap : Heap) : Prop :=
  (∀ ref ∈ observation.labels, ref < heap.length) ∧
    ∀ ref ∈ observation.metadata, ref < heap.length

/-- `Observation.Clone`. -/
def ObservationRef.clone (observation : ObservationRef F) (heap : Heap) :
    ObservationRef F × Heap :=
  let (labels, heap) := heap.clone observation.labels
  let (metadata, heap) := heap.clone observation.metadata
  ({ observation with labels, metadata }, heap)

/-! ## Normalize -/

/-- `Result`. -/
inductive NormalizeResult
  | mapped
  | passthrough
  deriving DecidableEq

/-- The order in which Go iterates over maps. -/
abbrev LabelOrder : Type := StringMap String → List (String × String)

/-- Every entry is visited once. -/
def LabelOrder.Complete (visit : LabelOrder) : Prop :=
  ∀ table, (visit table).Perm table.toSortedList

/-- One turn of the loop over the label mapping. -/
def carryLabel (carried labels : StringMap String) (entry : String × String) : StringMap String :=
  match carried.lookup entry.1 with
  | none => labels
  | some value => labels.insert entry.2 value

/-- The labels of the canonical observation. -/
def Mapping.mapLabels
    (mapping : Mapping F)
    (visit : LabelOrder)
    (raw cloned : Option ℕ)
    (heap : Heap) : Option ℕ × Heap :=
  match mapping.labels with
  | none => (cloned, heap)
  | some table =>
      (some heap.length, (visit table).foldl
        (fun current entry => current.modify heap.length fun labels =>
          carryLabel (current.read raw) labels entry)
        (heap ++ [∅]))

/-- `Normalize`. -/
def Normalizer.normalize [ScaledFloat F] [Platform]
    (normalizer : Normalizer F)
    (visit : LabelOrder)
    (observation : ObservationRef F)
    (heap : Heap) : Except Error (ObservationRef F × NormalizeResult) × Heap :=
  match normalizer.byRaw.lookup observation.metric with
  | none => (.ok (observation, .passthrough), heap)
  | some mapping =>
      let (out, heap) := observation.clone heap
      match mapping.convert.apply observation.value with
      | .error problem =>
          (.error (Error.errorf .validation ("normalize " ++ observation.metric ++ " (" ++
            observation.observationID ++ "): " ++ problem)), heap)
      | .ok value =>
          let (labels, heap) := mapping.mapLabels visit observation.labels out.labels heap
          let (metadata, heap) := heap.ensure out.metadata
          let heap := heap.write metadata "raw_metric" observation.metric
          let heap := if mapping.unit = "" then heap
            else heap.write metadata "unit" mapping.unit
          (.ok ({ out with metric := mapping.metric, value, labels, metadata := some metadata },
            .mapped), heap)

/-! ## The result -/

theorem Mapping.mapLabels_eq
    {mapping : Mapping F}
    {table : StringMap String}
    (mapped : mapping.labels = some table)
    (visit : LabelOrder)
    {raw : Option ℕ}
    (cloned : Option ℕ)
    {heap : Heap}
    (known : ∀ index ∈ raw, index < heap.length) :
    mapping.mapLabels visit raw cloned heap =
      (some heap.length, heap ++ [(visit table).foldl (carryLabel (heap.read raw)) ∅]) := by
  have loop : ∀ (entries : List (String × String)) (labels : StringMap String),
      entries.foldl (fun current entry => current.modify heap.length fun labels =>
          carryLabel (current.read raw) labels entry) (heap ++ [labels]) =
        heap ++ [entries.foldl (carryLabel (heap.read raw)) labels] := by
    intro entries
    induction entries with
    | nil => exact fun labels => rfl
    | cons entry rest ih =>
        intro labels
        rw [List.foldl_cons, List.foldl_cons, ← ih, Heap.modify_newest,
          Heap.read_of_grown (List.prefix_append _ _) known]
  simp only [mapLabels, mapped, loop]

theorem Mapping.grown_mapLabels
    (mapping : Mapping F)
    (visit : LabelOrder)
    {raw : Option ℕ}
    (cloned : Option ℕ)
    {base heap : Heap}
    (grown : base <+: heap)
    (known : ∀ index ∈ raw, index < base.length) :
    base <+: (mapping.mapLabels visit raw cloned heap).2 := by
  cases mapped : mapping.labels with
  | none => simpa [mapLabels, mapped] using grown
  | some table =>
      rw [mapLabels_eq mapped visit cloned fun index member =>
        (known index member).trans_le grown.length_le]
      exact grown.trans (List.prefix_append _ _)

/-- Labels that do not contradict each other can be carried in any order. -/
theorem foldl_carryLabel_of_perm
    {carried : StringMap String}
    {left right : List (String × String)}
    (permutation : left.Perm right)
    (separate : ∀ first ∈ left, ∀ second ∈ left, ∀ value other, first.2 = second.2 →
      carried.lookup first.1 = some value → carried.lookup second.1 = some other →
        value = other) :
    left.foldl (carryLabel carried) ∅ = right.foldl (carryLabel carried) ∅ := by
  refine permutation.foldl_eq' (fun first member second member' labels => ?_) ∅
  unfold carryLabel
  cases found : carried.lookup first.1 with
  | none => rfl
  | some value =>
      cases found' : carried.lookup second.1 with
      | none => rfl
      | some other =>
          by_cases same : first.2 = second.2
          · rw [same, separate first member second member' value other same found found']
          · exact Finmap.insert_insert_of_ne _ same

/-- No two labels that are carried have different values for one canonical label. -/
def Mapping.Separate (mapping : Mapping F) (carried : StringMap String) : Prop :=
  ∀ table ∈ mapping.labels, ∀ first second target value other,
    table.lookup first = some target → table.lookup second = some target →
    carried.lookup first = some value → carried.lookup second = some other → value = other

/-- The canonical labels do not depend on the order of the visits. -/
theorem Mapping.mapLabels_eq_of_complete
    {mapping : Mapping F}
    {visit revisit : LabelOrder}
    (complete : visit.Complete)
    (complete' : revisit.Complete)
    {base heap : Heap}
    (grown : base <+: heap)
    {raw : Option ℕ}
    (known : ∀ index ∈ raw, index < base.length)
    (separate : mapping.Separate (base.read raw))
    (cloned : Option ℕ) :
    mapping.mapLabels visit raw cloned heap = mapping.mapLabels revisit raw cloned heap := by
  cases mapped : mapping.labels with
  | none => simp only [mapLabels, mapped]
  | some table =>
      have later : ∀ index ∈ raw, index < heap.length := fun index member =>
        (known index member).trans_le grown.length_le
      have listed : ∀ entry ∈ visit table, table.lookup entry.1 = some entry.2 :=
        fun entry member =>
          (table.mem_toSortedList entry.1 entry.2).mp ((complete table).mem_iff.mp member)
      rw [mapLabels_eq mapped visit cloned later, mapLabels_eq mapped revisit cloned later,
        foldl_carryLabel_of_perm ((complete table).trans (complete' table).symm)]
      intro first member second member' value other same
      rw [Heap.read_of_grown grown known]
      exact separate table mapped first.1 second.1 second.2 value other
        (same ▸ listed first member) (listed second member')

namespace LabelOrder

/-- An order that visits one entry last. -/
def lastly (entry : String × String) : LabelOrder := fun table =>
  if entry ∈ table.toSortedList then table.toSortedList.erase entry ++ [entry]
  else table.toSortedList

theorem complete_lastly (entry : String × String) : (lastly entry).Complete := by
  intro table
  unfold lastly
  split_ifs with listed
  · exact (List.perm_append_singleton ..).trans (List.perm_cons_erase listed).symm
  · exact .refl _

theorem lookup_lastly
    {carried table : StringMap String}
    {name target value : String}
    (listed : table.lookup name = some target)
    (found : carried.lookup name = some value) :
    ((lastly (name, target) table).foldl (carryLabel carried) ∅).lookup target = some value := by
  rw [lastly, if_pos ((table.mem_toSortedList name target).mpr listed), List.foldl_concat,
    carryLabel]
  simp only [found]
  exact Finmap.lookup_insert _

end LabelOrder

namespace Normalizer

variable [ScaledFloat F] [Platform] {normalizer : Normalizer F} {observation : ObservationRef F}
variable {heap : Heap} {mapping : Mapping F}

/-- Where the canonical labels are after a call. -/
theorem normalize_labels
    (held : observation.In heap)
    (found : normalizer.byRaw.lookup observation.metric = some mapping)
    {value : Value F}
    (converted : mapping.convert.apply observation.value = .ok value)
    {table : StringMap String}
    (mapped : mapping.labels = some table)
    (visit : LabelOrder) :
    (normalizer.normalize visit observation heap).2[(observation.clone heap).2.length]? =
      some ((visit table).foldl (carryLabel (heap.read observation.labels)) ∅) := by
  have labelsGrown := (Heap.grown_clone (List.prefix_refl heap) observation.labels).1
  have grown : heap <+: (observation.clone heap).2 :=
    (Heap.grown_clone labelsGrown observation.metadata).1
  have later : ∀ index ∈ observation.labels, index < (observation.clone heap).2.length :=
    fun index member => (held.1 index member).trans_le grown.length_le
  have filled := Mapping.mapLabels_eq mapped visit (observation.clone heap).1.labels later
  rw [Heap.read_of_grown grown held.1] at filled
  -- The metadata are in another map.
  have elsewhere : ∀ labels,
      (((observation.clone heap).2 ++ [labels]).ensure (observation.clone heap).1.metadata).1 ≠
          (observation.clone heap).2.length ∧
        (((observation.clone heap).2 ++ [labels]).ensure
          (observation.clone heap).1.metadata).2[(observation.clone heap).2.length]? =
            some labels := by
    intro labels
    cases stored : observation.metadata <;>
      simp [ObservationRef.clone, stored, Heap.clone, Heap.ensure]
  simp only [normalize, found, converted, filled]
  obtain ⟨different, kept⟩ :=
    elsewhere ((visit table).foldl (carryLabel (heap.read observation.labels)) ∅)
  split_ifs
  · rw [Heap.getElem?_write different, kept]
  · rw [Heap.getElem?_write different, Heap.getElem?_write different, kept]

/-- Normalization is a function of the raw observation exactly when the value cannot be
converted or the labels that are carried do not contradict each other: then, and only
then, it does not depend on the order in which the label mapping is visited. It keeps the
identity, the source and the times of the observation, and changes no map that existed
before. -/
theorem normalize_function
    (normalizer : Normalizer F)
    (held : observation.In heap) :
    ((∀ visit revisit, visit.Complete → revisit.Complete →
        normalizer.normalize visit observation heap =
          normalizer.normalize revisit observation heap) ↔
      ∀ mapping ∈ normalizer.byRaw.lookup observation.metric,
        (∃ problem, mapping.convert.apply observation.value = .error problem) ∨
          mapping.Separate (heap.read observation.labels)) ∧
    ∀ visit,
      (∀ out result, (normalizer.normalize visit observation heap).1 = .ok (out, result) →
        out.observationID = observation.observationID ∧
          out.correlationID = observation.correlationID ∧
          out.deviceID = observation.deviceID ∧ out.source = observation.source ∧
          out.observedAt = observation.observedAt ∧ out.receivedAt = observation.receivedAt) ∧
      heap <+: (normalizer.normalize visit observation heap).2 := by
  have labelsGrown := (Heap.grown_clone (List.prefix_refl heap) observation.labels).1
  obtain ⟨grown, new⟩ := Heap.grown_clone labelsGrown observation.metadata
  refine ⟨⟨fun independent mapping found => ?_, fun agree visit revisit complete complete' => ?_⟩,
    fun visit => ?_⟩
  · cases converted : mapping.convert.apply observation.value with
    | error problem => exact .inl ⟨problem, rfl⟩
    | ok _ =>
        right
        intro table mapped first second target value other one two carried carried'
        have same := independent _ _ (LabelOrder.complete_lastly (first, target))
          (LabelOrder.complete_lastly (second, target))
        have labels := normalize_labels held found converted mapped
          (LabelOrder.lastly (first, target))
        rw [same, normalize_labels held found converted mapped, Option.some.injEq] at labels
        have values := LabelOrder.lookup_lastly one carried
        rw [← labels, LabelOrder.lookup_lastly two carried'] at values
        exact (Option.some.inj values).symm
  · cases found : normalizer.byRaw.lookup observation.metric with
    | none => simp only [normalize, found]
    | some mapping =>
        simp only [normalize, found, ObservationRef.clone]
        rcases agree mapping found with ⟨problem, refused⟩ | separate
        · simp only [refused]
        · have same := Mapping.mapLabels_eq_of_complete complete complete' grown held.1 separate
            (heap.clone observation.labels).1
          simp only [same]
  · cases found : normalizer.byRaw.lookup observation.metric with
    | none =>
        simp only [normalize, found]
        refine ⟨?_, List.prefix_rfl⟩
        rintro _ _ ⟨⟩
        exact ⟨rfl, rfl, rfl, rfl, rfl, rfl⟩
    | some mapping =>
        have mapped := mapping.grown_mapLabels visit (heap.clone observation.labels).1 grown held.1
        obtain ⟨ensured, fresh⟩ := Heap.grown_ensure mapped new
        have named := Heap.grown_write ensured fresh "raw_metric" observation.metric
        simp only [normalize, found, ObservationRef.clone]
        cases mapping.convert.apply observation.value with
        | error problem => exact ⟨by simp, grown⟩
        | ok value =>
            refine ⟨?_, ?_⟩
            · rintro _ _ ⟨⟩
              exact ⟨rfl, rfl, rfl, rfl, rfl, rfl⟩
            · dsimp only
              split_ifs
              · exact named
              · exact Heap.grown_write named fresh "unit" mapping.unit

end Normalizer

end InfraObserver

namespace InfraObserver.Normalization

attribute [local instance] Platform.plain

/-- Integers in the place of `float64`. -/
@[reducible] def integer : ScaledFloat ℤ where
  toGoFloat := GoFloat.integer
  mul := Int.mul
  formatValue := toString

attribute [local instance] integer

/-- Label mappings are visited in the order of the raw labels. -/
def forwards : LabelOrder := StringMap.toSortedList

/-- Label mappings are visited in the opposite order. -/
def backwards : LabelOrder := fun table => table.toSortedList.reverse

/-- A table that maps two raw labels. -/
def portMapping (first second : String) : Mapping ℤ where
  raw := "ifInOctets"
  metric := "interface.in"
  unit := "bit"
  convert := ⟨.scale, 8, [], ∅⟩
  labels := some (((∅ : StringMap String).insert "port" first).insert "slot" second)

/-- A reading of a port. -/
def portReading : ObservationRef ℤ :=
  ⟨"o1", "c1", "sw-1", "snmp", "ifInOctets", .int 5, some 0, 1, 2, none⟩

/-- The labels of the reading. -/
def portHeap : Heap := [((∅ : StringMap String).insert "port" "7").insert "slot" "2"]

/-- Two raw labels for two canonical ones: the order does not matter. -/
theorem port_normalized :
    (Normalizer.mk ((∅ : StringMap (Mapping ℤ)).insert "ifInOctets"
        (portMapping "interface" "module"))).normalize forwards portReading portHeap =
      (Normalizer.mk ((∅ : StringMap (Mapping ℤ)).insert "ifInOctets"
        (portMapping "interface" "module"))).normalize backwards portReading portHeap := by
  refine (Normalizer.normalize_function _ ⟨?_, fun _ none => by cases none⟩).1.mpr ?_ _ _
    (fun _ => .refl _) fun table => table.toSortedList.reverse_perm
  · rintro _ ⟨⟩
    decide
  · intro mapping found
    refine .inr fun table listed first second target value other one two carried carried' => ?_
    obtain rfl : portMapping "interface" "module" = mapping := by
      simpa [portReading] using found
    obtain rfl := Option.some.inj listed
    have origin : ∀ name, Finmap.lookup name (((∅ : StringMap String).insert "port"
        "interface").insert "slot" "module") = some target →
          name = if target = "module" then "slot" else "port" := by
      intro name known
      simp only [StringMap.lookup_insert_ite] at known
      split_ifs at known with slot port
      · cases known
        simpa using slot
      · cases known
        simpa using port
      · cases known
    rw [origin first one] at carried
    rw [origin second two, carried] at carried'
    exact Option.some.inj carried'

/-- Two raw labels for one canonical label: the table is accepted, and the order of the
visits decides which value is kept. -/
theorem port_ambiguous :
    ∃ normalizer, Normalizer.parse [portMapping "interface" "interface"] = .ok normalizer ∧
      ((normalizer.normalize forwards portReading portHeap).2.read (some 2)).lookup "interface" =
        some "2" ∧
      ((normalizer.normalize backwards portReading portHeap).2.read (some 2)).lookup
        "interface" = some "7" := by
  refine ⟨⟨(∅ : StringMap (Mapping ℤ)).insert "ifInOctets"
    (portMapping "interface" "interface")⟩, rfl, ?_, ?_⟩
  · decide +kernel
  · decide +kernel

end InfraObserver.Normalization
