import InfraObserver.Domain.Records
import Mathlib.Data.Prod.Lex

/-!
# Paging through the devices

The device listing of the API asks the store for all devices, filters them and cuts a
page out of the list. The cursor is the last id of a page, and the next page starts
at the first device whose id is greater, by bytes.

The store sorts the devices: the in-memory store by bytes, PostgreSQL by the collation
of the database. The order is a parameter.
-/

namespace InfraObserver

/-! ## The store -/

/-- A total order by which a store sorts ids. -/
structure Collation where
  order : LinearOrder String

namespace Collation

/-- By bytes. -/
def bytes : Collation := ⟨inferInstance⟩

/-- By a key, and by bytes where the keys are equal. -/
def byKey {κ : Type} [LinearOrder κ] (key : String → κ) : Collation :=
  ⟨LinearOrder.lift' (fun text => toLex (key text, text)) fun _ _ same =>
    congrArg Prod.snd (toLex.injective same)⟩

/-- The order of devices by their ids. -/
def sorts (collation : Collation) (first second : Device) : Prop :=
  collation.order.le first.id second.id

variable (collation : Collation)

instance : DecidableRel collation.sorts := fun first second =>
  collation.order.toDecidableLE first.id second.id

instance : Std.Total collation.sorts :=
  ⟨fun first second => collation.order.le_total first.id second.id⟩

instance : IsTrans Device collation.sorts := ⟨fun _ _ _ => collation.order.le_trans _ _ _⟩

end Collation

/-- The devices of a store. Their ids are distinct, and `Device.Validate` asks for an
id. -/
structure DeviceTable where
  devices : List Device
  distinct : (devices.map Device.id).Nodup
  named : ∀ device ∈ devices, device.id ≠ ""

/-- `ListDevices`. -/
def DeviceTable.listDevices (table : DeviceTable) (collation : Collation) : List Device :=
  table.devices.insertionSort collation.sorts

/-! ## The handler -/

/-- The query of a listing. -/
structure DeviceQuery where
  site : String
  type : String
  tag : String
  enabled : String
  /-- The text of `limit`, if it is not empty, as `strconv.Atoi` reads it. -/
  limit : Option (Option ℤ)
  cursor : String

/-- The filters of the query. -/
def DeviceQuery.admits (query : DeviceQuery) (device : Device) : Bool :=
  !((query.site ≠ "" && device.site ≠ query.site) ||
    (query.type ≠ "" && device.deviceType.name ≠ query.type) ||
    (query.tag ≠ "" && !device.hasTag query.tag) ||
    (query.enabled ≠ "" && (if device.enabled then "true" else "false") ≠ query.enabled))

/-- `Page`. -/
structure ApiPage where
  items : List Device
  nextCursor : Option String
  deriving DecidableEq

/-- The page sizes of the server. -/
structure ApiServer where
  defaultPageSize : ℤ
  maxPageSize : ℤ

namespace ApiServer

/-- `pageParams`: the limit. -/
def pageParams (server : ApiServer) (query : DeviceQuery) : Except Error ℕ :=
  let default_ := if server.defaultPageSize ≤ 0 then 50 else server.defaultPageSize
  let max := if server.maxPageSize ≤ 0 then 500 else server.maxPageSize
  let invalid : Error :=
    .errorf .validation ("limit must be an integer between 1 and " ++ toString max)
  match query.limit with
  | none => .ok default_.toNat
  | some none => .error invalid
  | some (some number) => if number < 1 ∨ number > max then .error invalid else .ok number.toNat

/-- The page of the filtered devices after a cursor. -/
def pageAfter (cursor : String) (limit : ℕ) (filtered : List Device) : ApiPage :=
  let start := if cursor ≠ "" then filtered.findIdx fun device => cursor < device.id else 0
  let stop := min (start + limit) filtered.length
  let next := if stop < filtered.length then ((filtered[stop - 1]?).map Device.id).getD "" else ""
  { items := (filtered.drop start).take (stop - start)
    nextCursor := if next ≠ "" then some next else none }

/-- `listDevices`, with the answer of the store. -/
def listDevices (server : ApiServer) (stored : Except Error (List Device)) (query : DeviceQuery) :
    Except Error ApiPage :=
  match stored with
  | .error failure => .error failure
  | .ok devices =>
      match server.pageParams query with
      | .error failure => .error failure
      | .ok limit => .ok (pageAfter query.cursor limit (devices.filter query.admits))

/-- What a client has seen when it follows the cursors from a cursor on for a number of
pages, if the listing has ended by then. -/
def follow (server : ApiServer) (devices : List Device) (query : DeviceQuery) :
    ℕ → String → Option (List Device)
  | 0, _ => none
  | pages + 1, cursor =>
      match server.listDevices (.ok devices) { query with cursor := cursor } with
      | .error _ => none
      | .ok page =>
          match page.nextCursor with
          | none => some page.items
          | some next => (follow server devices query pages next).map (page.items ++ ·)

end ApiServer

/-! ## Every device once -/

theorem DeviceTable.listDevices_sorted
    {table : DeviceTable}
    {collation : Collation}
    (agrees : ∀ first ∈ table.devices, ∀ second ∈ table.devices,
      collation.sorts first second → first.id ≤ second.id) :
    (table.listDevices collation).Pairwise fun first second => first.id < second.id := by
  have perm : (table.listDevices collation).Perm table.devices := List.perm_insertionSort _ _
  have ordered := List.pairwise_insertionSort collation.sorts table.devices
  have distinct : (table.listDevices collation).Pairwise fun first second =>
      first.id ≠ second.id :=
    List.pairwise_map.mp ((perm.map Device.id).nodup_iff.mpr table.distinct)
  refine (ordered.and distinct).imp_of_mem fun first second before => ?_
  exact lt_of_le_of_ne (agrees _ (perm.mem_iff.mp first) _ (perm.mem_iff.mp second) before.1)
    before.2

namespace ApiServer

variable {filtered : List Device} {limit place : ℕ} {cursor : String}

/-- By bytes, the list is cut at a place: the device before it has the greatest id up to
there, and the device at it has a greater one. -/
def CutAt (filtered : List Device) (place : ℕ) : Prop :=
  ∃ last next, filtered[place - 1]? = some last ∧ filtered[place]? = some next ∧
    last.id < next.id ∧ ∀ device ∈ filtered.take place, device.id ≤ last.id

theorem cutAt_of_sorted
    (sorted : filtered.Pairwise fun first second => first.id < second.id)
    (positive : 0 < place)
    (inside : place < filtered.length) :
    CutAt filtered place := by
  have increasing := List.pairwise_iff_getElem.mp sorted
  have before : place - 1 < filtered.length := by omega
  refine ⟨_, _, List.getElem?_eq_getElem before, List.getElem?_eq_getElem inside,
    increasing _ _ before inside (by omega), fun device member => ?_⟩
  obtain ⟨index, bound, rfl⟩ := List.mem_take_iff_getElem.mp member
  rcases Nat.lt_or_ge index (place - 1) with earlier | last
  · exact (increasing index (place - 1) (by omega) before earlier).le
  · exact le_of_eq (by congr; omega)

/-- The place at which the page after a cursor starts. -/
def pageStart (cursor : String) (filtered : List Device) : ℕ :=
  if cursor ≠ "" then filtered.findIdx fun device => cursor < device.id else 0

theorem pageStart_eq_iff
    (named : ∀ device ∈ filtered, device.id ≠ "")
    (inside : place < filtered.length)
    {last : Device}
    (found : filtered[place - 1]? = some last) :
    pageStart last.id filtered = place ↔ CutAt filtered place := by
  rw [pageStart, if_pos (named last (List.mem_of_getElem? found)), List.findIdx_eq inside]
  simp only [decide_eq_true_eq, decide_eq_false_iff_not, not_lt]
  constructor
  · rintro ⟨next, below⟩
    refine ⟨last, _, found, List.getElem?_eq_getElem inside, next, fun device member => ?_⟩
    obtain ⟨index, bound, rfl⟩ := List.mem_take_iff_getElem.mp member
    exact below index (by omega)
  · rintro ⟨_, _, sameLast, at_, next, below⟩
    obtain rfl := Option.some.inj (found.symm.trans sameLast)
    obtain ⟨_, rfl⟩ := List.getElem?_eq_some_iff.mp at_
    exact ⟨next, fun index earlier =>
      below _ (List.mem_take_iff_getElem.mpr ⟨index, by omega, rfl⟩)⟩

theorem pageAfter_items (cursor : String) (limit : ℕ) (filtered : List Device) :
    (pageAfter cursor limit filtered).items =
      (filtered.drop (pageStart cursor filtered)).take limit := by
  change (filtered.drop (pageStart cursor filtered)).take
    (min (pageStart cursor filtered + limit) filtered.length - pageStart cursor filtered) = _
  rcases Nat.le_total (pageStart cursor filtered + limit) filtered.length with more | last
  · rw [min_eq_left more, Nat.add_sub_cancel_left]
  · rw [min_eq_right last, List.take_of_length_le (by simp),
      List.take_of_length_le (by simp; omega)]

theorem start_mem_items
    (positive : 0 < limit)
    (inside : pageStart cursor filtered < filtered.length) :
    filtered[pageStart cursor filtered] ∈ (pageAfter cursor limit filtered).items := by
  rw [pageAfter_items, List.drop_eq_getElem_cons inside, ← Nat.succ_pred_eq_of_pos positive]
  exact List.mem_cons_self ..

theorem start_le_of_mem_items
    (distinct : filtered.Nodup)
    (inside : place < filtered.length)
    (member : filtered[place] ∈ (pageAfter cursor limit filtered).items) :
    pageStart cursor filtered ≤ place := by
  rw [pageAfter_items] at member
  obtain ⟨index, _, same⟩ := List.getElem_of_mem (List.mem_of_mem_take member)
  rw [List.getElem_drop] at same
  have := distinct.getElem_inj_iff.mp same
  omega

theorem pageAfter_next
    (cursor : String)
    (named : ∀ device ∈ filtered, device.id ≠ "")
    (positive : 0 < limit) :
    (filtered.length ≤ pageStart cursor filtered + limit ∧
        (pageAfter cursor limit filtered).nextCursor = none) ∨
      ∃ last, pageStart cursor filtered + limit < filtered.length ∧
        filtered[pageStart cursor filtered + limit - 1]? = some last ∧
        (pageAfter cursor limit filtered).nextCursor = some last.id := by
  have next : (pageAfter cursor limit filtered).nextCursor =
      (let stop := min (pageStart cursor filtered + limit) filtered.length
       let next :=
         if stop < filtered.length then ((filtered[stop - 1]?).map Device.id).getD "" else ""
       if next ≠ "" then some next else none) := rfl
  rw [next]
  dsimp only
  rcases Nat.lt_or_ge (pageStart cursor filtered + limit) filtered.length with more | last
  · have bound : pageStart cursor filtered + limit - 1 < filtered.length := by omega
    rw [min_eq_left more.le, if_pos more, List.getElem?_eq_getElem bound]
    exact .inr ⟨_, more, rfl, if_pos (named _ (List.getElem_mem bound))⟩
  · rw [min_eq_right last, if_neg (lt_irrefl _)]
    exact .inl ⟨last, rfl⟩

section Follow

variable {server : ApiServer} {devices visited : List Device} {query : DeviceQuery} {pages : ℕ}

theorem follow_succ
    (valid : server.pageParams query = .ok limit)
    (pages : ℕ)
    (cursor : String) :
    server.follow devices query (pages + 1) cursor =
      match (pageAfter cursor limit (devices.filter query.admits)).nextCursor with
      | none => some (pageAfter cursor limit (devices.filter query.admits)).items
      | some next =>
          (server.follow devices query pages next).map
            ((pageAfter cursor limit (devices.filter query.admits)).items ++ ·) := by
  have listed : server.listDevices (.ok devices) { query with cursor := cursor } =
      .ok (pageAfter cursor limit (devices.filter query.admits)) := by
    rw [listDevices, show server.pageParams { query with cursor := cursor } = .ok limit from valid]
    rfl
  rw [follow, listed]

variable (named : ∀ device ∈ devices.filter query.admits, device.id ≠ "")
variable (valid : server.pageParams query = .ok limit) (positive : 0 < limit)

include named valid positive

/-- Following the cursors from a place on gives what is left of the list, if it is cut
wherever a page ends. -/
theorem follow_eq
    (cuts : ∀ place, limit ∣ place → 0 < place → place < (devices.filter query.admits).length →
      CutAt (devices.filter query.admits) place)
    (pages : ℕ)
    (multiple : limit ∣ place)
    (start : pageStart cursor (devices.filter query.admits) = place)
    (inside : place = 0 ∨ place < (devices.filter query.admits).length)
    (enough : (devices.filter query.admits).length < place + pages) :
    server.follow devices query pages cursor = some ((devices.filter query.admits).drop place) := by
  induction pages generalizing cursor place with
  | zero => rcases inside with rfl | inside <;> omega
  | succ pages ih =>
      rw [follow_succ valid, pageAfter_items]
      rcases pageAfter_next cursor named positive with ⟨all, none⟩ | ⟨last, more, found, next⟩
      · rw [none, start, List.take_of_length_le (by simp; omega)]
      · rw [start] at more found
        have cut := cuts (place + limit) (Nat.dvd_add multiple (Nat.dvd_refl _)) (by omega) more
        have restart := (pageStart_eq_iff named more found).mpr cut
        rw [next, start]
        dsimp only
        rw [ih (Nat.dvd_add multiple (Nat.dvd_refl _)) restart (.inr more) (by omega),
          Option.map_some,
          ← List.drop_drop, List.take_append_drop]

theorem mem_follow
    (nonempty : cursor ≠ "")
    (ends : server.follow devices query pages cursor = some visited)
    {device : Device}
    (member : device ∈ visited) :
    ∃ other, other ≠ "" ∧ device ∈ (pageAfter other limit (devices.filter query.admits)).items ∧
      ∀ item ∈ (pageAfter other limit (devices.filter query.admits)).items, item ∈ visited := by
  induction pages generalizing cursor visited with
  | zero => cases ends
  | succ pages ih =>
      rw [follow_succ valid] at ends
      rcases pageAfter_next cursor named positive with ⟨-, none⟩ | ⟨last, -, found, next⟩
      · rw [none] at ends
        cases ends
        exact ⟨cursor, nonempty, member, fun _ => id⟩
      · rw [next] at ends
        obtain ⟨rest, ended, rfl⟩ := Option.map_eq_some_iff.mp ends
        rcases List.mem_append.mp member with here | later
        · exact ⟨cursor, nonempty, here, fun _ => List.mem_append_left _⟩
        · obtain ⟨other, some, on, all⟩ := ih (named last (List.mem_of_getElem? found)) ended later
          exact ⟨other, some, on, fun item among => List.mem_append_right _ (all item among)⟩

omit named positive in
theorem items_follow
    (ends : server.follow devices query pages cursor = some visited) :
    ∀ item ∈ (pageAfter cursor limit (devices.filter query.admits)).items, item ∈ visited := by
  cases pages with
  | zero => cases ends
  | succ pages =>
      rw [follow_succ valid] at ends
      split at ends
      · cases ends
        exact fun _ => id
      · obtain ⟨rest, -, rfl⟩ := Option.map_eq_some_iff.mp ends
        exact fun _ => List.mem_append_left _

theorem follow_step
    (start : pageStart cursor (devices.filter query.admits) = place)
    (more : place + limit < (devices.filter query.admits).length)
    (ends : server.follow devices query pages cursor = some visited) :
    ∃ fewer rest last, (devices.filter query.admits)[place + limit - 1]? = some last ∧
      server.follow devices query fewer last.id = some rest ∧
      visited = ((devices.filter query.admits).drop place).take limit ++ rest := by
  cases pages with
  | zero => cases ends
  | succ pages =>
      rw [follow_succ valid, pageAfter_items, start] at ends
      rcases pageAfter_next cursor named positive with ⟨all, -⟩ | ⟨last, -, found, next⟩
      · omega
      · rw [next] at ends
        obtain ⟨rest, ended, rfl⟩ := Option.map_eq_some_iff.mp ends
        exact ⟨pages, rest, last, start ▸ found, ended, rfl⟩

theorem follow_until
    (count : ℕ)
    (cuts : ∀ earlier < count, CutAt (devices.filter query.admits) ((earlier + 1) * limit))
    (more : (count + 1) * limit < (devices.filter query.admits).length)
    (ends : server.follow devices query pages "" = some visited) :
    ∃ fewer rest last, (devices.filter query.admits)[(count + 1) * limit - 1]? = some last ∧
      server.follow devices query fewer last.id = some rest ∧
      visited = (devices.filter query.admits).take ((count + 1) * limit) ++ rest := by
  induction count with
  | zero =>
      have start : pageStart "" (devices.filter query.admits) = 0 := rfl
      obtain ⟨fewer, rest, last, found, ended, seen⟩ :=
        follow_step named valid positive start (by omega) ends
      exact ⟨fewer, rest, last, by simpa using found, ended, by simpa using seen⟩
  | succ count ih =>
      have size : (count + 1 + 1) * limit = (count + 1) * limit + limit := Nat.succ_mul ..
      obtain ⟨fewer, rest, last, found, ended, rfl⟩ :=
        ih (fun earlier before => cuts earlier (by omega)) (by omega)
      have start := (pageStart_eq_iff named (by omega) found).mpr (cuts count (Nat.lt_succ_self _))
      obtain ⟨less, later, final, finally_, endedLater, rfl⟩ :=
        follow_step named valid positive start (by omega) ended
      refine ⟨less, later, final, by rwa [size], endedLater, ?_⟩
      rw [size, List.take_add, List.append_assoc]

theorem cutAt_of_follow
    (distinct : (devices.filter query.admits).Nodup)
    (ends : server.follow devices query pages "" = some visited)
    (perm : visited.Perm (devices.filter query.admits))
    (count : ℕ)
    (more : (count + 1) * limit < (devices.filter query.admits).length) :
    CutAt (devices.filter query.admits) ((count + 1) * limit) := by
  induction count using Nat.strong_induction_on with
  | h count ih =>
      obtain ⟨fewer, rest, last, found, ended, rfl⟩ := follow_until named valid positive count
        (fun earlier before => ih earlier before
          ((Nat.mul_le_mul_right _ (by omega)).trans_lt more)) more ends
      have disjoint := (List.nodup_append.mp (perm.nodup_iff.mpr distinct)).2.2
      have earliest : ∀ cursor, (∀ item ∈ (pageAfter cursor limit
          (devices.filter query.admits)).items, item ∈ rest) →
            (count + 1) * limit ≤ pageStart cursor (devices.filter query.admits) := by
        intro cursor seen
        by_contra before
        have inside : pageStart cursor (devices.filter query.admits) <
            (devices.filter query.admits).length := by omega
        exact disjoint _ (List.mem_take_iff_getElem.mpr ⟨_, lt_min (by omega) inside, rfl⟩) _
          (seen _ (start_mem_items positive inside)) rfl
      -- The device at the place is on a page that starts there.
      have left : rest.Perm ((devices.filter query.admits).drop ((count + 1) * limit)) := by
        refine (List.perm_append_left_iff
          ((devices.filter query.admits).take ((count + 1) * limit))).mp ?_
        rwa [List.take_append_drop]
      have present := left.mem_iff.mpr
        (List.drop_eq_getElem_cons more ▸ List.mem_cons_self ..)
      have lastNamed := named last (List.mem_of_getElem? found)
      obtain ⟨other, some, on, all⟩ := mem_follow named valid positive lastNamed ended present
      have exactly := (start_le_of_mem_items distinct more on).antisymm (earliest other all)
      rw [pageStart, if_pos some, List.findIdx_eq more] at exactly
      obtain ⟨greater, below⟩ := exactly
      have behind : pageStart last.id (devices.filter query.admits) ≤ (count + 1) * limit := by
        rw [pageStart, if_pos lastNamed]
        by_contra later
        obtain ⟨bound, rfl⟩ := List.getElem?_eq_some_iff.mp found
        have place : 0 < (count + 1) * limit := Nat.mul_pos (Nat.succ_pos _) positive
        have atMost := of_decide_eq_false (below _ (Nat.sub_one_lt place.ne'))
        refine absurd ((not_lt.mp atMost).trans_lt (of_decide_eq_true greater)) ?_
        exact of_decide_eq_false (List.not_of_lt_findIdx (not_le.mp later))
      exact (pageStart_eq_iff named more found).mp
        (behind.antisymm (earliest _ (items_follow valid ended)))

end Follow

theorem pageParams_pos
    {server : ApiServer}
    {query : DeviceQuery}
    (valid : server.pageParams query = .ok limit) :
    0 < limit := by
  unfold pageParams at valid
  dsimp only at valid
  generalize (if server.maxPageSize ≤ 0 then 500 else server.maxPageSize) = max at valid
  cases text : query.limit with
  | none =>
      rw [text] at valid
      cases valid
      split_ifs <;> omega
  | some read =>
      rw [text] at valid
      cases read with
      | none => cases valid
      | some number =>
          dsimp only at valid
          split at valid
          · cases valid
          · cases valid
            omega

/-- For every set of devices, every order of the store, every filter and every limit:
following the cursors from the first page ends and returns every matching device exactly
once if and only if, by bytes, the matching devices are cut wherever a page ends. If it
ends so, then at the latest one page after as many pages as there are devices. -/
theorem devices_listed_once
    (server : ApiServer)
    (table : DeviceTable)
    (collation : Collation)
    (query : DeviceQuery)
    (valid : server.pageParams query = .ok limit) :
    let listed := fun pages => ∃ visited,
      server.follow (table.listDevices collation) query pages "" = some visited ∧
        visited.Perm (table.devices.filter query.admits)
    ((∃ pages, listed pages) ↔
      ∀ place, limit ∣ place → 0 < place →
        place < ((table.listDevices collation).filter query.admits).length →
          CutAt ((table.listDevices collation).filter query.admits) place) ∧
      ((∃ pages, listed pages) → listed (table.devices.length + 1)) := by
  intro listed
  have perm : (table.listDevices collation).Perm table.devices := List.perm_insertionSort _ _
  have named : ∀ device ∈ (table.listDevices collation).filter query.admits, device.id ≠ "" :=
    fun device member => table.named device (perm.mem_iff.mp (List.mem_of_mem_filter member))
  have positive := pageParams_pos valid
  have distinct : ((table.listDevices collation).filter query.admits).Nodup :=
    (perm.nodup_iff.mpr table.distinct.of_map).filter _
  have cut : (∃ pages, listed pages) → ∀ place, limit ∣ place → 0 < place →
      place < ((table.listDevices collation).filter query.admits).length →
        CutAt ((table.listDevices collation).filter query.admits) place := by
    rintro ⟨pages, visited, ends, seen⟩ _ ⟨count, rfl⟩ some more
    cases count with
    | zero => omega
    | succ count =>
        rw [Nat.mul_comm] at more ⊢
        exact cutAt_of_follow named valid positive distinct ends (seen.trans (perm.filter _).symm)
          count more
  have bounded : (∀ place, limit ∣ place → 0 < place →
      place < ((table.listDevices collation).filter query.admits).length →
        CutAt ((table.listDevices collation).filter query.admits) place) →
      listed (table.devices.length + 1) := by
    intro cuts
    have bound := List.length_filter_le query.admits (table.listDevices collation)
    rw [perm.length_eq] at bound
    exact ⟨_, follow_eq named valid positive cuts _ (Nat.dvd_zero _) rfl (.inl rfl) (by omega),
      perm.filter _⟩
  exact ⟨⟨cut, fun cuts => ⟨_, bounded cuts⟩⟩, fun ends => bounded (cut ends)⟩

end ApiServer

/-! ## A collation that ignores the case -/

/-- A switch with an id. -/
def switchNamed (id : String) : Device :=
  ⟨id, "host", .switch, "", "", "", [], [], true, 0, "snmp", ∅⟩

/-- Three switches, one with capital letters. -/
def mixedCase : DeviceTable where
  devices := [switchNamed "AC", switchNamed "ab", switchNamed "ad"]
  distinct := by decide
  named := by decide

/-- Letters are compared without their case first. -/
def ignoringCase : Collation := .byKey fun text => text.toList.map Char.toLower

def everyDevice : DeviceQuery := ⟨"", "", "", "", some (some 2), ""⟩

namespace ApiServer

theorem bytes_list_every_switch :
    ∃ visited, (ApiServer.mk 0 0).follow (mixedCase.listDevices .bytes) everyDevice 4 "" =
        some visited ∧
      visited.Perm (mixedCase.devices.filter everyDevice.admits) := by
  have limit : (ApiServer.mk 0 0).pageParams everyDevice = .ok 2 := rfl
  have sorted : (mixedCase.listDevices .bytes).Pairwise fun first second => first.id < second.id :=
    DeviceTable.listDevices_sorted fun _ _ _ _ le => le
  have once := devices_listed_once (ApiServer.mk 0 0) mixedCase .bytes everyDevice limit
  exact once.2 (once.1.mpr fun place _ positive inside =>
    cutAt_of_sorted (sorted.filter _) positive inside)

/-- The list is `ab`, `AC`, `ad`. The first page ends with `AC`, and the first id that
is greater by bytes is `ab`: every page is the first one. -/
theorem ignoring_case_never_ends :
    ¬∃ pages, ((ApiServer.mk 0 0).follow (mixedCase.listDevices ignoringCase) everyDevice pages
      "").isSome = true := by
  have repeats : ∀ cursor ∈ ["", "AC"], (ApiServer.mk 0 0).listDevices
      (.ok (mixedCase.listDevices ignoringCase)) { everyDevice with cursor := cursor } =
        .ok ⟨[switchNamed "ab", switchNamed "AC"], some "AC"⟩ := by decide +kernel
  have never : ∀ pages, ∀ cursor ∈ ["", "AC"], (ApiServer.mk 0 0).follow
      (mixedCase.listDevices ignoringCase) everyDevice pages cursor = none := by
    intro pages
    induction pages with
    | zero => exact fun _ _ => rfl
    | succ pages ih =>
        intro cursor member
        rw [follow, repeats cursor member]
        dsimp only
        rw [ih "AC" (by simp), Option.map_none]
  rintro ⟨pages, ends⟩
  rw [never pages "" (by simp)] at ends
  cases ends

end ApiServer

end InfraObserver
