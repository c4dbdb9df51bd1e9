import InfraObserver.Library.DepthFirst
import InfraObserver.Library.Keyed
import InfraObserver.State.Definition

/-!
# SNMP profiles

A profile is a set of metrics, each a scalar or a column of a table, and can
include other profiles. `ParseProfiles` validates the decoded documents and
resolves the includes depth first; on a name clash the including profile wins.

The source goes through the profiles in no particular order, so the order is a
parameter here.
-/

namespace InfraObserver

/-! ## Documents -/

/-- `ValueType`: how a raw value is decoded. -/
inductive ValueType
  | integer
  | gauge
  | counter
  | duration
  | string
  | unknown (text : String)
  deriving DecidableEq

/-- `TableSpec`: a walk over a column. -/
structure TableSpec where
  oid : String
  indexLabel : String
  labels : StringMap String
  deriving DecidableEq

/-- `Metric`: a scalar or a column of a table. -/
structure Metric where
  name : String
  oid : String
  table : Option TableSpec
  type : ValueType
  deriving DecidableEq

/-- `Profile`. -/
structure Profile where
  id : String
  includes : List String
  sysObjectIDPrefix : String
  metrics : List Metric
  deriving DecidableEq

/-- `oidPattern`, the expression `^\.?[0-9]+(\.[0-9]+)*$`: numbers with full stops
between them, and perhaps one in front. -/
def oidPattern (oid : String) : Bool :=
  let chars := match oid.toList with
    | '.' :: rest => rest
    | chars => chars
  (chars.splitOn '.').all fun part => !part.isEmpty && part.all Char.isDigit

/-- `normOID`: without a full stop in front. -/
def normOID (oid : String) : String :=
  match oid.toList with
  | '.' :: rest => String.ofList rest
  | _ => oid

section Validation

variable [Platform]

/-- What `validate` finds wrong with where a metric comes from. -/
def Metric.originProblems (metric : Metric) (place : String) : List String :=
  if decide (metric.oid = "") = metric.table.isNone then
    [place ++ ": exactly one of oid or table is required"]
  else if metric.oid ≠ "" ∧ oidPattern metric.oid = false then [place ++ ": malformed oid"]
  else
    match metric.table with
    | none => []
    | some table =>
        problemIf (!oidPattern table.oid) (place ++ ": malformed table.oid") ++
          table.labels.toSortedList.flatMap fun label =>
            problemIf (!oidPattern label.2)
              (place ++ ": malformed label oid for " ++ quote label.1)

/-- What `validate` finds wrong with a metric, given the names before it. -/
def Metric.problems (metric : Metric) (index : ℕ) (seen : List String) : List String :=
  let place := "metrics[" ++ toString index ++ "] (" ++ metric.name ++ ")"
  problemIf (metric.name = "") ("metrics[" ++ toString index ++ "]: name is required") ++
    problemIf (metric.name ≠ "" && seen.contains metric.name)
      (place ++ ": duplicate metric name") ++
    (match metric.type with
      | .unknown text => [place ++ ": unknown type " ++ quote text]
      | _ => []) ++
    metric.originProblems place

/-- The loop of `validate` over the metrics. -/
def metricsProblems : ℕ → List String → List Metric → List String
  | _, _, [] => []
  | index, seen, metric :: rest =>
      metric.problems index seen ++ metricsProblems (index + 1) (metric.name :: seen) rest

/-- What is wrong with a profile. -/
def Profile.problems (profile : Profile) : List String :=
  problemIf (profile.id = "") "id is required" ++ metricsProblems 0 [] profile.metrics

/-- `Profile.validate`. -/
def Profile.validate (profile : Profile) : Except Error Unit :=
  if profile.problems = [] then .ok ()
  else .error (.errorf .validation ("profile " ++ quote profile.id ++ ": " ++
    String.intercalate "; " profile.problems))

end Validation

/-! ## Merging -/

/-- The maps `merged` and `order` of `flatten`. -/
structure Merged where
  byName : StringMap Metric
  order : List String

namespace Merged

/-- Nothing was merged yet. -/
def empty : Merged := ⟨∅, []⟩

/-- Merge a metric over those before it. -/
def add (merged : Merged) (metric : Metric) : Merged where
  byName := merged.byName.insert metric.name metric
  order :=
    if (merged.byName.lookup metric.name).isSome then merged.order
    else merged.order ++ [metric.name]

/-- The metrics in the order of their names. -/
def metrics (merged : Merged) : List Metric :=
  merged.order.map fun name => (merged.byName.lookup name).getD ⟨"", "", none, .unknown ""⟩

end Merged

/-- What `flatten` makes of a profile and the flattened profiles it includes. -/
def Profile.merge (profile : Profile) (included : List Profile) : Profile :=
  let merged := included.foldl (fun merged sub => sub.metrics.foldl Merged.add merged) Merged.empty
  { profile with metrics := (profile.metrics.foldl Merged.add merged).metrics }

/-! ## Includes -/

section Parsing

variable [Platform]

/-- Profiles and their includes. -/
def includeGraph (raw : StringMap Profile) : DepthFirst.Graph String Profile Profile Error where
  find id := raw.lookup id
  children := Profile.includes
  combine := Profile.merge
  missing id stack := .errorf .validation ("profile " ++ quote id ++
    " not found (included from [" ++ String.intercalate " " stack ++ "])")
  cyclic id stack := .errorf .validation ("profile include cycle: " ++
    String.intercalate " -> " stack ++ " -> " ++ id)

/-- `flatten`: merge includes depth first. The first argument bounds the nesting
of the calls. -/
def flatten (fuel : ℕ) (raw : StringMap Profile) (stack : List String) (id : String) :
    Option (Except Error Profile) :=
  (includeGraph raw).eval fuel stack id

/-- The first loop of `ParseProfiles`, over the decoded documents. -/
def collectProfiles : List Profile → StringMap Profile → Except Error (StringMap Profile)
  | [], raw => .ok raw
  | profile :: rest, raw =>
      match profile.validate with
      | .error failure => .error failure
      | .ok () =>
          if (raw.lookup profile.id).isSome then
            .error (.errorf .validation ("duplicate profile id " ++ quote profile.id))
          else collectProfiles rest (raw.insert profile.id profile)

/-- The second loop of `ParseProfiles`, over the ids in some order. -/
def resolveProfiles (fuel : ℕ) (raw : StringMap Profile) :
    List String → StringMap Profile → Option (Except Error (StringMap Profile))
  | [], resolved => some (.ok resolved)
  | id :: rest, resolved =>
      match flatten fuel raw [] id with
      | none => none
      | some (.error failure) => some (.error failure)
      | some (.ok flat) => resolveProfiles fuel raw rest (resolved.insert id flat)

/-- `ParseProfiles` of decoded documents, with the order in which the ids of a map
are gone through. -/
def parseProfiles
    (fuel : ℕ)
    (order : StringMap Profile → List String)
    (documents : List Profile) : Option (Except Error (StringMap Profile)) :=
  match collectProfiles documents ∅ with
  | .error failure => some (.error failure)
  | .ok raw => resolveProfiles fuel raw (order raw) ∅

end Parsing

/-! ## What merging does -/

/-- The metric of a profile with a name. -/
def Profile.metric (profile : Profile) (name : String) : Option Metric :=
  profile.metrics.find? fun metric => metric.name = name

/-- The names of the metrics of a profile. -/
def Profile.names (profile : Profile) : List String :=
  profile.metrics.map Metric.name

theorem eraseDups_concat (names : List String) (name : String) :
    (names ++ [name]).eraseDups =
      if name ∈ names then names.eraseDups else names.eraseDups ++ [name] := by
  rw [List.eraseDups_append]
  split_ifs with listed <;> simp [List.removeAll, listed, List.eraseDups_cons]

theorem nodup_eraseDups (names : List String) : names.eraseDups.Nodup := by
  induction names using List.reverseRecOn with
  | nil => exact List.nodup_nil
  | append_singleton names name ih =>
      rw [eraseDups_concat]
      split_ifs with listed
      · exact ih
      · rw [List.nodup_append_comm]
        exact List.nodup_cons.mpr
          ⟨fun member => listed (List.mem_eraseDups.mp member), ih⟩

namespace Merged

theorem foldl_add (metrics : List Metric) :
    (∀ name, (metrics.foldl add empty).byName.lookup name =
        metrics.reverse.find? fun metric => metric.name = name) ∧
      (metrics.foldl add empty).order = (metrics.map Metric.name).eraseDups := by
  induction metrics using List.reverseRecOn with
  | nil => exact ⟨fun _ => rfl, rfl⟩
  | append_singleton metrics metric ih =>
      obtain ⟨found, order⟩ := ih
      rw [List.foldl_append, List.foldl_cons, List.foldl_nil]
      constructor
      · intro name
        rw [add, StringMap.lookup_insert_ite, List.reverse_append, List.reverse_singleton,
          List.singleton_append, List.find?_cons, found]
        by_cases same : name = metric.name
        · rw [if_pos same, decide_eq_true same.symm]
        · rw [if_neg same, decide_eq_false (Ne.symm same)]
      · have seen : ((metrics.foldl add empty).byName.lookup metric.name).isSome ↔
            metric.name ∈ metrics.map Metric.name := by
          rw [found, List.find?_isSome]
          simp
        rw [add, List.map_append, List.map_singleton, eraseDups_concat, order]
        exact if_congr seen rfl rfl

end Merged

section Merge

variable (profile : Profile) (included : List Profile)

/-- The metrics that are merged, in the order in which the source goes through
them. -/
def Profile.sources (profile : Profile) (included : List Profile) : List Metric :=
  included.flatMap Profile.metrics ++ profile.metrics

theorem Profile.merge_metrics :
    (profile.merge included).metrics =
      ((profile.sources included).foldl Merged.add Merged.empty).metrics := by
  have nested : ∀ start, included.foldl (fun merged sub => sub.metrics.foldl Merged.add merged)
      start = (included.flatMap Profile.metrics).foldl Merged.add start := by
    intro start
    induction included generalizing start with
    | nil => rfl
    | cons sub rest ih =>
        rw [List.foldl_cons, List.flatMap_cons, List.foldl_append, ih]
  rw [merge, nested, sources, List.foldl_append]

theorem Profile.merge_listed
    {name : String}
    (listed : name ∈ ((profile.sources included).map Metric.name).eraseDups) :
    ∃ metric, (profile.sources included).reverse.find? (fun metric => metric.name = name) =
      some metric ∧ metric.name = name := by
  obtain ⟨source, member, rfl⟩ := List.mem_map.mp (List.mem_eraseDups.mp listed)
  have some : ((profile.sources included).reverse.find?
      fun metric => metric.name = source.name).isSome := by
    rw [List.find?_isSome]
    exact ⟨source, List.mem_reverse.mpr member, decide_eq_true rfl⟩
  obtain ⟨metric, found⟩ := Option.isSome_iff_exists.mp some
  have named := List.find?_some found
  exact ⟨metric, found, by simpa using named⟩

theorem Profile.names_merge :
    (profile.merge included).names = ((profile.sources included).map Metric.name).eraseDups := by
  obtain ⟨found, order⟩ := Merged.foldl_add (profile.sources included)
  rw [names, merge_metrics, Merged.metrics, order, List.map_map]
  refine (List.map_congr_left fun name listed => ?_).trans (List.map_id _)
  obtain ⟨metric, last, named⟩ := profile.merge_listed included listed
  simp [found, last, named]

theorem Profile.metric_merge (name : String) :
    (profile.merge included).metric name =
      (profile.sources included).reverse.find? fun metric => metric.name = name := by
  have distinct : ((profile.merge included).metrics.map Metric.name).Nodup := by
    rw [← names, names_merge]
    exact nodup_eraseDups _
  obtain ⟨found, order⟩ := Merged.foldl_add (profile.sources included)
  refine Option.ext fun candidate => ?_
  rw [metric, Keyed.find?_eq_some_iff distinct, merge_metrics, Merged.metrics, order]
  simp only [found, List.mem_map]
  constructor
  · rintro ⟨⟨listedName, listed, rfl⟩, rfl⟩
    obtain ⟨metric, last, named⟩ := profile.merge_listed included listed
    rw [last, Option.getD_some, named, last]
  · intro last
    have named : candidate.name = name := by
      simpa using List.find?_some last
    refine ⟨⟨name, List.mem_eraseDups.mpr (List.mem_map.mpr ⟨candidate, ?_, named⟩), ?_⟩, named⟩
    · exact List.mem_reverse.mp (List.mem_of_find?_eq_some last)
    · rw [last, Option.getD_some]

end Merge

/-! ## Validated profiles -/

section Valid

variable [Platform]

theorem names_of_metricsProblems
    {index : ℕ}
    {seen : List String}
    {metrics : List Metric}
    (sound : metricsProblems index seen metrics = []) :
    (metrics.map Metric.name).Nodup ∧ ∀ metric ∈ metrics, metric.name ∉ seen := by
  induction metrics generalizing index seen with
  | nil => exact ⟨List.nodup_nil, nofun⟩
  | cons metric rest ih =>
      rw [metricsProblems, List.append_eq_nil_iff, Metric.problems] at sound
      simp only [List.append_eq_nil_iff, problemIf_eq_nil, Bool.and_eq_false_iff,
        decide_eq_false_iff_not, ne_eq, not_not] at sound
      obtain ⟨⟨⟨⟨named, fresh⟩, -⟩, -⟩, later⟩ := sound
      obtain ⟨distinct, unseen⟩ := ih later
      have new : metric.name ∉ seen := by
        simpa using fresh.resolve_left named
      refine ⟨List.nodup_cons.mpr ⟨fun listed => ?_, distinct⟩, ?_⟩
      · obtain ⟨other, member, same⟩ := List.mem_map.mp listed
        exact unseen other member (by simp [same])
      · rw [List.forall_mem_cons]
        exact ⟨new, fun other member listed =>
          unseen other member (List.mem_cons_of_mem _ listed)⟩

theorem Profile.nodup_of_validate
    {profile : Profile}
    (accepted : profile.validate = .ok ()) :
    profile.names.Nodup := by
  unfold validate at accepted
  split_ifs at accepted with sound
  rw [problems, List.append_eq_nil_iff] at sound
  exact (names_of_metricsProblems sound.2).1

end Valid

/-! ## What a resolved profile is -/

/-- The flattened form of a profile, given those of the profiles that it
includes. -/
structure Profile.ResolvedFrom
    (profile : Profile)
    (resolved : StringMap Profile)
    (flat : Profile) : Prop where
  kept : flat = { profile with metrics := flat.metrics }
  distinct : flat.names.Nodup
  metric : ∀ name, flat.metric name =
    (profile.metric name).or (profile.includes.reverse.findSome? fun id =>
      (resolved.lookup id).bind fun included => included.metric name)
  /-- Included profiles first, each name where it appears first. -/
  order : flat.names =
    ((profile.includes.flatMap fun id => ((resolved.lookup id).map Profile.names).getD []) ++
      profile.names).eraseDups

theorem find?_reverse_of_nodup
    {metrics : List Metric}
    (distinct : (metrics.map Metric.name).Nodup)
    (name : String) :
    metrics.reverse.find? (fun metric => metric.name = name) =
      metrics.find? fun metric => metric.name = name := by
  have reversed : (metrics.reverse.map Metric.name).Nodup := by
    rw [List.map_reverse]
    exact List.nodup_reverse.mpr distinct
  refine Option.ext fun candidate => ?_
  rw [Keyed.find?_eq_some_iff reversed, Keyed.find?_eq_some_iff distinct, List.mem_reverse]

section Included

variable {resolved : StringMap Profile} {ids : List String} {included : List Profile}

theorem find?_included
    (found : List.Forall₂ (fun id sub => resolved.lookup id = some sub ∧ sub.names.Nodup)
      ids included)
    (name : String) :
    (included.flatMap Profile.metrics).reverse.find? (fun metric => metric.name = name) =
      ids.reverse.findSome? fun id =>
        (resolved.lookup id).bind fun included => included.metric name := by
  induction found with
  | nil => rfl
  | cons head _ ih =>
      rw [List.flatMap_cons, List.reverse_append, List.find?_append, ih,
        find?_reverse_of_nodup head.2, List.reverse_cons, List.findSome?_append,
        List.findSome?_singleton, head.1]
      rfl

theorem names_included
    (found : List.Forall₂ (fun id sub => resolved.lookup id = some sub ∧ sub.names.Nodup)
      ids included) :
    (included.flatMap Profile.metrics).map Metric.name =
      ids.flatMap fun id => ((resolved.lookup id).map Profile.names).getD [] := by
  induction found with
  | nil => rfl
  | cons head _ ih =>
      rw [List.flatMap_cons, List.map_append, ih, List.flatMap_cons, head.1]
      rfl

end Included

/-- Merging the resolved forms of the includes resolves a profile. -/
theorem Profile.resolvedFrom_merge
    {profile : Profile}
    {resolved : StringMap Profile}
    {included : List Profile}
    (distinct : profile.names.Nodup)
    (found : List.Forall₂ (fun id sub => resolved.lookup id = some sub ∧ sub.names.Nodup)
      profile.includes included) :
    profile.ResolvedFrom resolved (profile.merge included) where
  kept := rfl
  distinct := by
    rw [names_merge]
    exact nodup_eraseDups _
  metric name := by
    rw [metric_merge, sources, List.reverse_append, List.find?_append,
      find?_reverse_of_nodup distinct, find?_included found]
    rfl
  order := by
    rw [names_merge, sources, List.map_append, names_included found]
    rfl

/-! ## Parsing -/

/-- A document names another one. -/
def IncludesDirectly (documents : List Profile) (id included : String) : Prop :=
  ∃ profile ∈ documents, profile.id = id ∧ included ∈ profile.includes

/-- A document that does not exist or a cycle can be reached. -/
def BrokenInclude (documents : List Profile) (id : String) : Prop :=
  ∃ target, Relation.ReflTransGen (IncludesDirectly documents) id target ∧
    ((∀ profile ∈ documents, profile.id ≠ target) ∨
      Relation.TransGen (IncludesDirectly documents) target target)

section Parse

variable [Platform] {documents : List Profile}

/-- The documents by their ids. -/
def profileMap (documents : List Profile) : StringMap Profile :=
  (∅ : StringMap Profile).insertAll (documents.map fun profile => (profile.id, profile))

omit [Platform] in
theorem lookup_profileMap
    (distinct : (documents.map Profile.id).Nodup)
    (id : String)
    (profile : Profile) :
    (profileMap documents).lookup id = some profile ↔ profile ∈ documents ∧ profile.id = id := by
  have keys : (documents.map fun profile => (profile.id, profile)).map Prod.fst =
      documents.map Profile.id := by
    simp
  have listed : (documents.map fun profile => (profile.id, profile)).lookup id =
      documents.find? fun profile => profile.id = id := by
    clear distinct keys
    induction documents with
    | nil => rfl
    | cons head rest ih =>
        rw [List.map_cons, List.lookup_cons, List.find?_cons, ih]
        by_cases same : id = head.id
        · rw [beq_iff_eq.mpr same, decide_eq_true same.symm]
        · rw [beq_eq_false_iff_ne.mpr same, decide_eq_false (Ne.symm same)]
  rw [profileMap, StringMap.lookup_insertAll _ (keys ▸ distinct), listed, Finmap.lookup_empty,
    Option.or_none, Keyed.find?_eq_some_iff distinct]

variable {raw : StringMap Profile}

theorem collectProfiles_eq
    (valid : ∀ profile ∈ documents, profile.validate = .ok ())
    (distinct : (documents.map Profile.id).Nodup)
    (fresh : ∀ profile ∈ documents, raw.lookup profile.id = none) :
    collectProfiles documents raw =
      .ok (raw.insertAll (documents.map fun profile => (profile.id, profile))) := by
  induction documents generalizing raw with
  | nil => rfl
  | cons head rest ih =>
      rw [List.forall_mem_cons] at valid fresh
      rw [List.map_cons, List.nodup_cons] at distinct
      rw [collectProfiles, valid.1]
      simp only [fresh.1, Option.isSome_none, Bool.false_eq_true, if_false]
      refine ih valid.2 distinct.2 fun profile listed => ?_
      have different : profile.id ≠ head.id := fun same =>
        distinct.1 (same ▸ List.mem_map_of_mem listed)
      rw [Finmap.lookup_insert_of_ne _ different]
      exact fresh.2 profile listed

theorem broken_iff
    (distinct : (documents.map Profile.id).Nodup)
    (id : String) :
    (includeGraph (profileMap documents)).Broken id ↔ BrokenInclude documents id := by
  have edges : (includeGraph (profileMap documents)).Edge = IncludesDirectly documents := by
    funext node child
    simp only [DepthFirst.Graph.Edge, includeGraph, IncludesDirectly,
      lookup_profileMap distinct, and_assoc]
  have absent : ∀ target, (includeGraph (profileMap documents)).find target = none ↔
      ∀ profile ∈ documents, profile.id ≠ target := by
    intro target
    simp only [includeGraph, Option.eq_none_iff_forall_ne_some, ne_eq,
      lookup_profileMap distinct, not_and]
  simp only [DepthFirst.Graph.Broken, BrokenInclude, edges, absent]

theorem resolveProfiles_eq_ok
    {fuel : ℕ}
    {start resolved : StringMap Profile}
    {ids : List String}
    (done : resolveProfiles fuel raw ids start = some (.ok resolved)) :
    (∀ id ∈ ids, ∃ flat, flatten fuel raw [] id = some (.ok flat) ∧
      resolved.lookup id = some flat) ∧
      ∀ id ∉ ids, resolved.lookup id = start.lookup id := by
  induction ids generalizing start with
  | nil =>
      cases done
      exact ⟨nofun, fun _ _ => rfl⟩
  | cons id rest ih =>
      unfold resolveProfiles at done
      rcases flattened : flatten fuel raw [] id with - | (failure | flat)
      · simp [flattened] at done
      · simp [flattened] at done
      · rw [flattened] at done
        obtain ⟨inside, outside⟩ := ih done
        refine ⟨?_, fun other unlisted => ?_⟩
        · rw [List.forall_mem_cons]
          refine ⟨?_, inside⟩
          by_cases again : id ∈ rest
          · exact inside id again
          · exact ⟨flat, flattened, by rw [outside id again, Finmap.lookup_insert]⟩
        · rw [List.mem_cons, not_or] at unlisted
          rw [outside other unlisted.2, Finmap.lookup_insert_of_ne _ unlisted.1]

theorem resolveProfiles_cases
    {fuel : ℕ}
    {ids : List String}
    (ended : ∀ id ∈ ids, flatten fuel raw [] id ≠ none)
    (start : StringMap Profile) :
    resolveProfiles fuel raw ids start ≠ none ∧
      ((∃ failure, resolveProfiles fuel raw ids start = some (.error failure)) ↔
        ∃ id ∈ ids, ∃ failure, flatten fuel raw [] id = some (.error failure)) := by
  induction ids generalizing start with
  | nil => simp [resolveProfiles]
  | cons id rest ih =>
      rw [List.forall_mem_cons] at ended
      unfold resolveProfiles
      rcases flattened : flatten fuel raw [] id with - | (failure | flat)
      · exact absurd flattened ended.1
      · simp [flattened]
      · simpa [flattened] using ih ended.2 (start.insert id flat)

theorem nodup_of_flatten
    {fuel : ℕ}
    {stack : List String}
    {id : String}
    {flat : Profile}
    (flattened : flatten fuel raw stack id = some (.ok flat)) :
    flat.names.Nodup := by
  cases fuel with
  | zero => cases flattened
  | succ fuel =>
      obtain ⟨-, profile, included, -, rfl, -⟩ := (includeGraph raw).eval_eq_ok flattened
      refine (profile.names_merge included).symm ▸ nodup_eraseDups _

section Documents

variable (valid : ∀ profile ∈ documents, profile.validate = .ok ())
variable (distinct : (documents.map Profile.id).Nodup)
variable {order : StringMap Profile → List String}
variable (complete : ∀ raw id, id ∈ order raw ↔ id ∈ raw)
variable {fuel : ℕ} (enough : documents.length < fuel)

omit [Platform] in
include distinct in
theorem mem_profileMap {id : String} :
    id ∈ profileMap documents ↔ ∃ profile ∈ documents, profile.id = id := by
  rw [← Finmap.lookup_isSome, Option.isSome_iff_exists]
  simp only [lookup_profileMap distinct]

include valid distinct in
theorem parseProfiles_eq :
    parseProfiles fuel order documents =
      resolveProfiles fuel (profileMap documents) (order (profileMap documents)) ∅ := by
  rw [parseProfiles, collectProfiles_eq valid distinct fun _ _ => rfl]
  rfl

include distinct in
theorem find_known :
    ∀ node, (includeGraph (profileMap documents)).find node ≠ none →
      node ∈ (documents.map Profile.id).toFinset := by
  intro node present
  obtain ⟨profile, found⟩ := Option.ne_none_iff_exists'.mp present
  obtain ⟨listed, rfl⟩ := (lookup_profileMap distinct node profile).mp found
  exact List.mem_toFinset.mpr (List.mem_map_of_mem listed)

omit [Platform] in
include enough in
theorem card_lt : (documents.map Profile.id).toFinset.card < fuel := by
  refine lt_of_le_of_lt (List.toFinset_card_le _) ?_
  rwa [List.length_map]

include distinct enough in
theorem flatten_ne_none (id : String) : flatten fuel (profileMap documents) [] id ≠ none :=
  (includeGraph (profileMap documents)).eval_ne_none (find_known distinct) List.nodup_nil nofun
    (by simpa using card_lt enough)

include valid distinct complete enough in
theorem parseProfiles_cases :
    parseProfiles fuel order documents ≠ none ∧
      ((∃ failure, parseProfiles fuel order documents = some (.error failure)) ↔
        ∃ profile ∈ documents, BrokenInclude documents profile.id) := by
  obtain ⟨ended, failing⟩ := resolveProfiles_cases
    (fun id (_ : id ∈ order (profileMap documents)) => flatten_ne_none distinct enough id) ∅
  have broken : ∀ id, (∃ failure, flatten fuel (profileMap documents) [] id =
      some (.error failure)) ↔ BrokenInclude documents id := fun id =>
    ((includeGraph (profileMap documents)).eval_error_iff (find_known distinct)
      (card_lt enough) id).trans (broken_iff distinct id)
  rw [parseProfiles_eq valid distinct]
  refine ⟨ended, failing.trans ?_⟩
  simp only [broken, complete, mem_profileMap distinct]
  constructor
  · rintro ⟨id, ⟨profile, listed, rfl⟩, why⟩
    exact ⟨profile, listed, why⟩
  · rintro ⟨profile, listed, why⟩
    exact ⟨profile.id, ⟨profile, listed, rfl⟩, why⟩

variable {resolved : StringMap Profile}

include valid distinct complete in
theorem lookup_of_parse
    (done : parseProfiles fuel order documents = some (.ok resolved))
    (id : String) :
    id ∈ profileMap documents ∧ (∃ flat, flatten fuel (profileMap documents) [] id =
        some (.ok flat) ∧ resolved.lookup id = some flat) ∨
      id ∉ profileMap documents ∧ resolved.lookup id = none := by
  rw [parseProfiles_eq valid distinct] at done
  obtain ⟨inside, outside⟩ := resolveProfiles_eq_ok done
  by_cases listed : id ∈ profileMap documents
  · exact .inl ⟨listed, inside id ((complete _ _).mpr listed)⟩
  · exact .inr ⟨listed, (outside id (mt (complete _ _).mp listed)).trans
      (Finmap.lookup_empty id)⟩

include valid distinct complete in
theorem resolvedFrom_of_parse
    (done : parseProfiles fuel order documents = some (.ok resolved))
    {profile : Profile}
    (listed : profile ∈ documents) :
    ∃ flat, resolved.lookup profile.id = some flat ∧ profile.ResolvedFrom resolved flat := by
  have lookup := lookup_of_parse valid distinct complete done
  have present := (mem_profileMap distinct).mpr ⟨profile, listed, rfl⟩
  obtain ⟨-, flat, flattened, found⟩ := (lookup profile.id).resolve_right fun absent =>
    absent.1 present
  refine ⟨flat, found, ?_⟩
  cases fuel with
  | zero => cases flattened
  | succ fuel =>
      obtain ⟨-, data, included, raw, rfl, children⟩ :=
        (includeGraph (profileMap documents)).eval_eq_ok flattened
      obtain rfl : profile = data := by
        have own := (lookup_profileMap distinct profile.id profile).mpr ⟨listed, rfl⟩
        exact Option.some.inj (own.symm.trans raw)
      refine Profile.resolvedFrom_merge (Profile.nodup_of_validate (valid _ listed))
        (children.imp fun child value evaluated => ⟨?_, nodup_of_flatten evaluated⟩)
      -- An include that was evaluated below the profile exists and was also resolved by itself.
      have existing := ((includeGraph (profileMap documents)).sound_of_ok evaluated .refl).1
      rcases lookup child with ⟨-, other, flattenedAlone, foundAlone⟩ | ⟨absent, -⟩
      · rw [foundAlone, (includeGraph (profileMap documents)).eval_unique evaluated flattenedAlone]
      · exact absurd (Finmap.lookup_eq_none.mpr absent) existing

include valid distinct complete in
/-- The result does not depend on the order. -/
theorem parse_unique
    {other : StringMap Profile → List String}
    (alsoComplete : ∀ raw id, id ∈ other raw ↔ id ∈ raw)
    {again : StringMap Profile}
    (done : parseProfiles fuel order documents = some (.ok resolved))
    (doneAgain : parseProfiles fuel other documents = some (.ok again)) :
    resolved = again := by
  refine Finmap.ext_lookup fun id => ?_
  rcases lookup_of_parse valid distinct complete done id with
    ⟨listed, flat, flattened, found⟩ | ⟨unlisted, absent⟩ <;>
  rcases lookup_of_parse valid distinct alsoComplete doneAgain id with
    ⟨listedAgain, other, flattenedAgain, foundAgain⟩ | ⟨unlistedAgain, absentAgain⟩
  · rw [found, foundAgain, (includeGraph (profileMap documents)).eval_unique flattened
      flattenedAgain]
  · exact absurd listed unlistedAgain
  · exact absurd listedAgain unlisted
  · rw [absent, absentAgain]

end Documents

/-- Includes are resolved: parsing ends, fails exactly at documents that are not
there and at cycles, and otherwise gives each profile its resolved form, in whatever
order the profiles are gone through. -/
theorem includes_resolved
    (documents : List Profile)
    (valid : ∀ profile ∈ documents, profile.validate = .ok ())
    (distinct : (documents.map Profile.id).Nodup)
    (order : StringMap Profile → List String)
    (complete : ∀ raw id, id ∈ order raw ↔ id ∈ raw)
    (fuel : ℕ)
    (enough : documents.length < fuel) :
    parseProfiles fuel order documents ≠ none ∧
      ((∃ failure, parseProfiles fuel order documents = some (.error failure)) ↔
        ∃ profile ∈ documents, BrokenInclude documents profile.id) ∧
      ∀ resolved, parseProfiles fuel order documents = some (.ok resolved) →
        (∀ profile ∈ documents, ∃ flat, resolved.lookup profile.id = some flat ∧
          profile.ResolvedFrom resolved flat) ∧
        (∀ id, id ∈ resolved ↔ ∃ profile ∈ documents, profile.id = id) ∧
        ∀ other, (∀ raw id, id ∈ other raw ↔ id ∈ raw) →
          parseProfiles fuel other documents = some (.ok resolved) := by
  obtain ⟨ended, failing⟩ := parseProfiles_cases valid distinct complete enough
  refine ⟨ended, failing, fun resolved done => ⟨fun profile listed =>
    resolvedFrom_of_parse valid distinct complete done listed, fun id => ?_,
    fun other alsoComplete => ?_⟩⟩
  · rw [← mem_profileMap distinct, ← Finmap.lookup_isSome]
    rcases lookup_of_parse valid distinct complete done id with
      ⟨listed, flat, -, found⟩ | ⟨unlisted, absent⟩
    · simp [listed, found]
    · simp [unlisted, absent]
  · obtain ⟨endedAgain, failingAgain⟩ := parseProfiles_cases valid distinct alsoComplete enough
    rcases result : parseProfiles fuel other documents with - | (failure | again)
    · exact absurd result endedAgain
    · obtain ⟨failure, failed⟩ := failing.mpr (failingAgain.mp ⟨failure, result⟩)
      rw [done] at failed
      cases failed
    · rw [parse_unique valid distinct complete alsoComplete done result]

end Parse

end InfraObserver

/-! ## A profile with two includes -/

namespace InfraObserver.Includes

attribute [local instance] Platform.plain

/-- A scalar metric. -/
def scalar (name oid : String) : Metric := ⟨name, oid, none, .gauge⟩

/-- Two profiles that both define `cpu`, and one that includes them. -/
def documents : List Profile :=
  [⟨"switch", ["system", "vendor"], "", [scalar "temp" "1.3"]⟩,
    ⟨"system", [], "", [scalar "up" "1.1", scalar "cpu" "1.2"]⟩,
    ⟨"vendor", [], "", [scalar "cpu" "1.4"]⟩]

/-- The resolved profiles. -/
def resolved : StringMap Profile :=
  match parseProfiles 4 StringMap.sortedKeys documents with
  | some (.ok resolved) => resolved
  | _ => ∅

/-- The later include wins on `cpu`, which stays where it appeared first. -/
theorem switch_resolved :
    parseProfiles 4 StringMap.sortedKeys documents = some (.ok resolved) ∧
      (resolved.lookup "switch").map Profile.metrics =
        some [scalar "up" "1.1", scalar "cpu" "1.4", scalar "temp" "1.3"] ∧
      ∀ profile ∈ documents, ∃ flat, resolved.lookup profile.id = some flat ∧
        profile.ResolvedFrom resolved flat := by
  have done : parseProfiles 4 StringMap.sortedKeys documents = some (.ok resolved) := by
    decide +kernel
  have meaning := includes_resolved documents (by decide +kernel) (by decide) StringMap.sortedKeys
    (fun raw id => raw.mem_sortedKeys id) 4 (by decide)
  exact ⟨done, by decide +kernel, (meaning.2.2 resolved done).1⟩

end InfraObserver.Includes
