import InfraObserver.Messaging.Bus
import InfraObserver.Messaging.Order

/-!
# No message is lost

A message is lost if it was not handled, is not in the dead-letter stream, nobody has
it and it will not be delivered again. The server closes a message only when that is
not so, as long as some watcher stores the letter it is asked for; and the last allowed
delivery of a message is in somebody's hands, as long as no worker is lost with it.
-/

namespace InfraObserver

/-! ## Where a message is -/

namespace Bus

variable {worker : Worker} {bus after : Bus worker} {action : BusAction worker.shards}
variable {sequence target : ℕ}

section

variable (bus : Bus worker) (sequence : ℕ)

/-- A worker that has not crashed has a message. -/
def Holds (message : Message) : Prop :=
  ∃ (index : ℕ) (state : WorkerState worker.shards),
    bus.workers[index]? = some (some state) ∧ message ∈ state.held

/-- The dead-letter stream has a letter of the message. -/
def Lettered : Prop :=
  ∃ letter ∈ bus.letters,
    letter.stream = worker.stream ∧ letter.consumer = worker.durable ∧ letter.sequence = sequence

/-- The message was handled successfully, or is in the dead-letter stream. -/
def Done : Prop := sequence ∈ bus.handled ∨ bus.Lettered sequence

/-- A watcher works on the message. -/
def Rescuing : Prop := ∃ rescue ∈ bus.rescues, rescue.sequence = sequence

/-- A worker or a watcher has the message. -/
def BeingHandled : Prop :=
  (∃ message, bus.Holds message ∧ message.streamSeq = sequence) ∨ bus.Rescuing sequence

/-- The server may deliver the message again. -/
def Eligible : Prop :=
  ∃ entry, bus.stored sequence = some entry ∧ entry.isOpen ∧ entry.deliveries < worker.maxDeliver

/-- The message is not lost. -/
def Kept : Prop :=
  sequence ∈ bus.handled ∨ bus.Lettered sequence ∨ bus.BeingHandled sequence ∨
    bus.Eligible sequence

/-- A worker has the last allowed delivery of the message. -/
def HoldsLast : Prop :=
  ∃ message, bus.Holds message ∧ message.streamSeq = sequence ∧
    worker.maxDeliver ≤ message.attempt

/-- A worker does not have the message on its last allowed delivery. -/
def Early (index : ℕ) : Prop :=
  match bus.workers[index]? with
  | some (some state) => ∀ message ∈ state.held, message.streamSeq = sequence →
      message.attempt < worker.maxDeliver
  | _ => True

/-- If the last allowed delivery of the message ends, a watcher is told of it, unless the
message is done. -/
def Heard : Prop :=
  ∀ entry ∈ bus.stored sequence, entry.status = .outstanding →
    worker.maxDeliver ≤ entry.deliveries → bus.Done sequence ∨ bus.watchers ≠ []

end

/-- Watchers are told when the last allowed delivery of the message ends. A watcher that
crashes or does not store the letter leaves the message to another one, if it is not
done. -/
def Watched (target : ℕ) (bus : Bus worker) : BusAction worker.shards → Prop
  | .expire sequence => sequence = target → bus.Heard target
  | .work _ _ true => bus.Heard target
  | .crashWatcher watcher => bus.Rescuing target → bus.Done target ∨
      ∃ rescue ∈ bus.rescues, rescue.sequence = target ∧ rescue.watcher ≠ watcher
  | .rescue position outcome => outcome.isStored = true ∨ bus.Done target ∨
      (bus.Rescuing target → ∃ rescue ∈ bus.rescues.eraseIdx position, rescue.sequence = target)
  | _ => True

/-- A worker crashes, and what it says is lost, only while it does not have the message on
its last allowed delivery, or the message is done. -/
def Attentive (target : ℕ) (bus : Bus worker) : BusAction worker.shards → Prop
  | .crash index => bus.Done target ∨ bus.Early target index
  | .work index _ false => bus.Done target ∨ bus.Early target index
  | _ => True

/-- What has to be true of a message in the state that the server has it in. -/
def SafeAt (bus : Bus worker) (sequence : ℕ) (entry : Stored) : Prop :=
  match entry.status with
  | .waiting => entry.deliveries < worker.maxDeliver
  | .outstanding => True
  | .acknowledged | .terminated => bus.Done sequence
  | .exhausted => bus.Done sequence ∨ bus.Rescuing sequence

/-- The server has not closed the message if it is lost. -/
def Safe (bus : Bus worker) (target : ℕ) : Prop :=
  ∀ entry, bus.stored target = some entry → bus.SafeAt target entry

variable {entry : Stored}

theorem SafeAt.mono
    (safe : bus.SafeAt sequence entry)
    (done : bus.Done sequence → after.Done sequence)
    (rescuing : bus.Rescuing sequence → after.Done sequence ∨ after.Rescuing sequence) :
    after.SafeAt sequence entry := by
  unfold SafeAt at safe ⊢
  split at safe
  · exact safe
  · trivial
  · exact done safe
  · exact done safe
  · exact safe.elim (fun before => Or.inl (done before)) rescuing

theorem Safe.alter
    (safe : bus.Safe target)
    (change : Stored → Stored)
    (same : after.stored = (bus.alter change sequence).stored)
    (done : bus.Done target → after.Done target)
    (rescuing : bus.Rescuing target → after.Rescuing target)
    (here : sequence = target → ∀ entry, bus.stored target = some entry →
      bus.SafeAt target entry → after.SafeAt target (change entry)) :
    after.Safe target := by
  intro entry found
  rw [same, stored_alter] at found
  split_ifs at found with equal
  · obtain ⟨before, foundBefore, rfl⟩ := Option.map_eq_some_iff.mp found
    exact here equal.symm before foundBefore (safe before foundBefore)
  · exact (safe entry found).mono done fun before => Or.inr (rescuing before)

theorem Safe.redeliver
    (safe : bus.Safe target)
    (heard : sequence = target → bus.Heard target) :
    (bus.redeliver sequence).Safe target := by
  unfold Bus.redeliver
  split
  · exact safe
  · next entry found =>
      split_ifs with outstanding again
      · refine safe.alter _ rfl ?_ ?_ ?_
        · simp [withStatus, Done, Lettered]
        · simp [withStatus, Rescuing]
        · rintro rfl other same _
          rw [found, Option.some.injEq] at same
          subst same
          exact again
      · have done : bus.Done target → Bus.Done { bus.withStatus .exhausted sequence with
            rescues := bus.rescues ++ bus.watchers.map fun watcher =>
              ⟨watcher, sequence, entry.deliveries⟩ } target := by
          simp [withStatus, Done, Lettered]
        refine safe.alter _ rfl done ?_ ?_
        · rintro ⟨rescue, old, same⟩
          exact ⟨rescue, List.mem_append_left _ old, same⟩
        · rintro rfl other _ _
          rcases heard rfl entry found outstanding (Nat.le_of_not_lt again) with before | some
          · exact Or.inl (done before)
          · obtain ⟨watcher, member⟩ := List.exists_mem_of_ne_nil _ some
            refine Or.inr ⟨⟨watcher, sequence, entry.deliveries⟩, ?_, rfl⟩
            exact List.mem_append_right _ (List.mem_map_of_mem member)
      · exact safe

theorem Done.lodge (done : bus.Done sequence) (letter : DeadLetter) :
    (bus.lodge letter).Done sequence := by
  rcases done with handled | ⟨old, member, same⟩
  · exact Or.inl handled
  · exact Or.inr ⟨old, List.mem_append_left _ member, same⟩

theorem Done.record
    (done : bus.Done sequence)
    (message : Message)
    (settlement : Settlement) :
    (bus.record message settlement).Done sequence := by
  cases settlement with
  | ack => exact done.imp (List.mem_append_left _) id
  | nak delay => exact done
  | term letter => exact done.lodge letter

theorem Safe.record
    (safe : bus.Safe target)
    (message : Message)
    (settlement : Settlement) :
    (bus.record message settlement).Safe target := by
  intro entry found
  rw [stored_record] at found
  refine (safe entry found).mono (fun done => done.record message settlement) ?_
  exact fun rescuing => Or.inr (by rwa [Rescuing, record_rescues])

variable {status : DeliveryStatus}

theorem Safe.close
    (safe : bus.Safe target)
    (done : bus.Done sequence)
    (final : status = .acknowledged ∨ status = .terminated) :
    (bus.close status sequence).Safe target := by
  have same : (bus.close status sequence).Done target ↔ bus.Done target := by
    simp [Bus.close, Done, Lettered]
  refine safe.alter _ rfl same.mpr ?_ ?_
  · simp [Bus.close, Rescuing]
  · rintro rfl entry _ before
    split_ifs
    · rcases final with rfl | rfl <;> exact same.mpr done
    · refine before.mono same.mpr fun rescuing => Or.inr ?_
      simpa [Bus.close, Rescuing] using rescuing

variable {message : Message} {settlement : Settlement}

theorem done_record
    [Platform]
    (letters : ∀ letter, settlement = .term letter → ∃ cause reason failedAt,
      letter = worker.letterFor message cause reason failedAt)
    (final : ∀ delay, settlement ≠ .nak delay) :
    (bus.record message settlement).Done message.streamSeq := by
  cases settlement with
  | ack => exact Or.inl (List.mem_append_right _ (List.mem_singleton_self _))
  | nak delay => exact absurd rfl (final delay)
  | term letter =>
      obtain ⟨cause, reason, failedAt, rfl⟩ := letters letter rfl
      exact Or.inr ⟨_, List.mem_append_right _ (List.mem_singleton_self _), rfl, rfl, rfl⟩

theorem Safe.apply
    [Platform]
    (safe : bus.Safe target)
    (arrives : Bool)
    (heard : arrives = true → bus.Heard target)
    (letters : ∀ letter, settlement = .term letter → ∃ cause reason failedAt,
      letter = worker.letterFor message cause reason failedAt) :
    (Bus.apply arrives bus (.settled message settlement)).Safe target := by
  have recorded := safe.record message settlement
  cases arrives with
  | false => exact recorded
  | true =>
      cases settlement with
      | ack => exact recorded.close (done_record letters fun _ => nofun) (Or.inl rfl)
      | nak delay => exact safe.redeliver fun _ => heard rfl
      | term letter => exact recorded.close (done_record letters fun _ => nofun) (Or.inr rfl)

theorem Safe.rescued
    [Platform]
    {position : ℕ}
    {rescue : Rescue}
    {outcome : RescueOutcome}
    (safe : bus.Safe target)
    (found : bus.rescues[position]? = some rescue)
    (watched : bus.Watched target (.rescue position outcome)) :
    ({ bus with rescues := bus.rescues.eraseIdx position }.rescued rescue outcome).Safe
      target := by
  set rest : Bus worker := { bus with rescues := bus.rescues.eraseIdx position }
  -- Unless the letter is for the message, what is known of it stays.
  have left : (bus.Rescuing target → bus.Done target ∨ rest.Rescuing target) →
      rest.Safe target := fun still entry present => (safe entry present).mono id still
  have remaining : rescue.sequence ≠ target → bus.Rescuing target → rest.Rescuing target := by
    obtain ⟨within, rfl⟩ := List.getElem?_eq_some_iff.mp found
    rintro different ⟨other, member, same⟩
    rw [← (List.getElem_cons_eraseIdx_perm within).mem_iff, List.mem_cons] at member
    rcases member with rfl | member
    · exact absurd same different
    · exact ⟨other, member, same⟩
  have kept : outcome.isStored ≠ true → rest.Safe target := fun lost =>
    left fun rescuing => (watched.resolve_left lost).imp id fun others => others rescuing
  cases outcome with
  | unread => exact kept nofun
  | unpublished => exact kept nofun
  | stored failedAt =>
      intro entry
      cases read : rest.stored rescue.sequence with
      | none =>
          simp only [Bus.rescued, read]
          refine fun present => left (fun rescuing => Or.inr (remaining ?_ rescuing)) entry present
          rintro rfl
          rw [read] at present
          cases present
      | some original =>
          simp only [Bus.rescued, read]
          refine fun present => (safe entry present).mono (fun done => done.lodge _) ?_
          by_cases here : rescue.sequence = target
          · exact fun _ => Or.inl (Or.inr
              ⟨_, List.mem_append_right _ (List.mem_singleton_self _), rfl, rfl, here⟩)
          · exact fun rescuing => Or.inr (remaining here rescuing)

theorem stored_publish
    {new : Stored}
    (found : { bus with stream := bus.stream ++ [new] }.stored sequence = some entry) :
    bus.stored sequence = some entry ∨ entry = new := by
  cases sequence with
  | zero => cases found
  | succ position =>
      simp only [stored, List.getElem?_append] at found
      split_ifs at found with within
      · exact Or.inl found
      · exact Or.inr (List.mem_singleton.mp (List.mem_of_getElem? found))

theorem Safe.moves
    [Platform]
    (safe : bus.Safe target)
    (watched : bus.Watched target action)
    (moves : bus.Moves action after) :
    after.Safe target := by
  cases moves with
  | published subject header data =>
      intro entry found
      rcases stored_publish found with old | rfl
      · exact safe entry old
      · exact worker.maxDeliverPos
  | delivered sequence index entry state found live =>
      refine safe.alter delivered rfl ?_ ?_ fun _ _ _ _ => trivial
      · simp [withWorker, Done, Lettered]
      · simp [withWorker, Rescuing]
  | settled index action arrives state next message settlement live lost letters =>
      have safeNext : (bus.withWorker index (some next)).Safe target := safe
      refine safeNext.apply arrives ?_ letters
      rintro rfl
      exact watched
  | lodged index shard letter =>
      exact fun entry found => (safe entry found).mono (fun done => done.lodge letter) Or.inr
  | expired sequence => exact safe.redeliver watched
  | watcherCrashed watcher =>
      refine fun entry found => (safe entry found).mono id fun rescuing => ?_
      refine (watched rescuing).imp id ?_
      rintro ⟨rescue, member, same, different⟩
      exact ⟨rescue, List.mem_filter.mpr ⟨member, by simpa using different⟩, same⟩
  | rescued position outcome rescue found => exact safe.rescued found watched
  | launched | worked | crashed | subscribed | unsubscribed => exact safe

/-! ## The last allowed delivery -/

/-- If the last allowed delivery of a message is outstanding, it is done or a worker
has it. -/
def Attended (bus : Bus worker) (sequence : ℕ) : Prop :=
  ∀ entry, bus.stored sequence = some entry → entry.status = .outstanding →
    entry.deliveries < worker.maxDeliver ∨ bus.Done sequence ∨ bus.HoldsLast sequence

theorem Done.attended
    (done : bus.Done sequence) :
    bus.Attended sequence :=
  fun _ _ _ => Or.inr (Or.inl done)

theorem Attended.mono
    (attended : bus.Attended sequence)
    (same : ∀ entry, after.stored sequence = some entry → entry.status = .outstanding →
      bus.stored sequence = some entry)
    (done : bus.Done sequence → after.Done sequence)
    (last : bus.HoldsLast sequence → after.HoldsLast sequence) :
    after.Attended sequence := by
  intro entry found outstanding
  exact (attended entry (same entry found outstanding) outstanding).imp_right (Or.imp done last)

variable {index : ℕ} {next state : WorkerState worker.shards}

theorem Holds.withWorker
    (live : bus.workers[index]? = some (some state))
    (held : bus.Holds message) :
    (bus.withWorker index (some next)).Holds message ∨
      message ∈ state.held ∧ message ∉ next.held := by
  obtain ⟨other, owner, found, member⟩ := held
  by_cases here : index = other
  · subst here
    rw [live, Option.some.injEq, Option.some.injEq] at found
    subst found
    by_cases kept : message ∈ next.held
    · have within := (List.getElem?_eq_some_iff.mp live).1
      exact Or.inl ⟨index, next, by simp [Bus.withWorker, within], kept⟩
    · exact Or.inr ⟨member, kept⟩
  · exact Or.inl ⟨other, owner, by simpa [Bus.withWorker, here] using found, member⟩

theorem HoldsLast.withWorker
    (live : bus.workers[index]? = some (some state))
    (kept : ∀ message ∈ state.held, message.streamSeq = sequence →
      worker.maxDeliver ≤ message.attempt → message ∈ next.held)
    (last : bus.HoldsLast sequence) :
    (bus.withWorker index (some next)).HoldsLast sequence := by
  obtain ⟨message, held, same, final⟩ := last
  rcases held.withWorker live with still | ⟨member, gone⟩
  · exact ⟨message, still, same, final⟩
  · exact absurd (kept message member same final) gone

theorem stored_redeliver
    {other : ℕ}
    (found : (bus.redeliver sequence).stored other = some entry)
    (outstanding : entry.status = .outstanding) :
    bus.stored other = some entry ∧ other ≠ sequence := by
  have altered : ∀ status, status ≠ .outstanding →
      (bus.withStatus status sequence).stored other = some entry →
      bus.stored other = some entry ∧ other ≠ sequence := by
    intro status different present
    rw [withStatus, stored_alter] at present
    split_ifs at present with here
    · obtain ⟨before, -, rfl⟩ := Option.map_eq_some_iff.mp present
      exact absurd outstanding different
    · exact ⟨present, here⟩
  unfold Bus.redeliver at found
  split at found
  · next missing =>
      refine ⟨found, ?_⟩
      rintro rfl
      rw [missing] at found
      cases found
  · next before present =>
      split_ifs at found with delivered again
      · exact altered .waiting (fun same => by cases same) found
      · exact altered .exhausted (fun same => by cases same) found
      · refine ⟨found, ?_⟩
        rintro rfl
        rw [present, Option.some.injEq] at found
        subst found
        exact absurd outstanding delivered

theorem stored_close
    {other : ℕ}
    (final : status ≠ .outstanding)
    (found : (bus.close status sequence).stored other = some entry)
    (outstanding : entry.status = .outstanding) :
    bus.stored other = some entry := by
  rw [Bus.close, stored_alter] at found
  split_ifs at found with here
  · obtain ⟨before, present, rfl⟩ := Option.map_eq_some_iff.mp found
    split_ifs at outstanding with unsettled
    · exact absurd outstanding final
    · rw [if_neg unsettled]
      exact present
  · exact found

theorem attended_redeliver
    (elsewhere : target ≠ sequence → bus.Attended target) :
    (bus.redeliver sequence).Attended target := by
  intro entry found outstanding
  have before := stored_redeliver found outstanding
  refine (elsewhere before.2).mono (fun _ _ _ => ?_) ?_ ?_ entry found outstanding
  · exact (stored_redeliver ‹_› ‹_›).1
  · simp [Done, Lettered]
  · simp [HoldsLast, Holds]

theorem Attended.close
    (attended : bus.Attended target)
    (final : status ≠ .outstanding) :
    (bus.close status sequence).Attended target := by
  refine attended.mono (fun _ => stored_close final) ?_ ?_
  · simp [Bus.close, Done, Lettered]
  · simp [Bus.close, HoldsLast, Holds]

theorem Attended.apply
    [Platform]
    {arrives : Bool}
    (attended : bus.Attended target)
    (live : bus.workers[index]? = some (some state))
    (lost : next.held + [message] = state.held)
    (letters : ∀ letter, settlement = .term letter → ∃ cause reason failedAt,
      letter = worker.letterFor message cause reason failedAt)
    (attentive : arrives = false → bus.Done target ∨
      (message.streamSeq = target → message.attempt < worker.maxDeliver)) :
    (Bus.apply arrives (bus.withWorker index (some next))
      (.settled message settlement)).Attended target := by
  -- Only the message that is settled leaves the worker.
  have elsewhere : (message.streamSeq = target → message.attempt < worker.maxDeliver) →
      (bus.withWorker index (some next)).Attended target := by
    intro early
    refine attended.mono (fun _ found _ => found) id fun last => ?_
    refine last.withWorker live fun copy member same final => ?_
    rw [← lost, Multiset.mem_add] at member
    refine member.resolve_right fun equal => ?_
    rw [Multiset.mem_coe, List.mem_singleton] at equal
    subst equal
    exact absurd (early same) (Nat.not_lt.mpr final)
  have recorded : (∀ delay, settlement ≠ .nak delay) →
      ((bus.withWorker index (some next)).record message settlement).Attended target := by
    intro final
    by_cases here : message.streamSeq = target
    · subst here
      exact (done_record letters final).attended
    · refine (elsewhere fun same => absurd same here).mono ?_
        (fun done => done.record message settlement) ?_
      · intro entry found _
        simpa using found
      · simp [HoldsLast, Holds]
  cases arrives with
  | false =>
      cases settlement with
      | nak delay => exact (attentive rfl).elim (fun done => Done.attended done) elsewhere
      | ack => exact recorded fun _ => nofun
      | term letter => exact recorded fun _ => nofun
  | true =>
      cases settlement with
      | nak delay =>
          exact attended_redeliver fun different =>
            elsewhere fun same => absurd same.symm different
      | ack => exact (recorded fun _ => nofun).close nofun
      | term letter => exact (recorded fun _ => nofun).close nofun

theorem Early.attempt_lt
    (early : bus.Early sequence index)
    (live : bus.workers[index]? = some (some state))
    (member : message ∈ state.held) :
    message.streamSeq = sequence → message.attempt < worker.maxDeliver := by
  rw [Early, live] at early
  exact early message member

theorem Attended.delivered
    (attended : bus.Attended target)
    (found : bus.stored sequence = some entry)
    (live : bus.workers[index]? = some (some state)) :
    ((bus.alter Bus.delivered sequence).withWorker index
      (some { state with
        callbacks := state.callbacks ++ [nextDelivery entry sequence] })).Attended target := by
  by_cases here : target = sequence
  · subst here
    intro changed present _
    simp only [stored_withWorker, stored_alter, found, if_true, Option.map_some,
      Option.some.injEq] at present
    subst present
    rcases Nat.lt_or_ge (entry.deliveries + 1) worker.maxDeliver with again | final
    · exact Or.inl again
    · have within := (List.getElem?_eq_some_iff.mp live).1
      refine Or.inr (Or.inr ⟨nextDelivery entry target, ⟨index,
        { state with callbacks := state.callbacks ++ [nextDelivery entry target] }, ?_, ?_⟩,
        rfl, final⟩)
      · simp [withWorker, within]
      · simp [WorkerState.held]
  · refine attended.mono ?_ ?_ ?_
    · intro entry present _
      simpa [stored_alter, here] using present
    · simp [withWorker, Done, Lettered]
    · intro last
      have alike : (bus.alter Bus.delivered sequence).HoldsLast target := by
        simpa [HoldsLast, Holds] using last
      refine alike.withWorker (by rwa [alter_workers]) fun message member _ _ => ?_
      simp only [WorkerState.held, Multiset.mem_add] at member ⊢
      exact member.imp_left (List.mem_append_left _)

theorem Attended.crashed
    (attended : bus.Attended target)
    (attentive : bus.Attentive target (.crash index)) :
    (bus.withWorker index none).Attended target := by
  rcases attentive with done | early
  · exact Done.attended done
  · refine attended.mono (fun _ found _ => found) id ?_
    rintro ⟨message, ⟨other, state, live, member⟩, same, final⟩
    have different : index ≠ other := by
      rintro rfl
      exact absurd (early.attempt_lt live member same) (Nat.not_lt.mpr final)
    exact ⟨message, ⟨other, state, by simpa [withWorker, different] using live, member⟩,
      same, final⟩

theorem Attended.moves
    [Platform]
    (attended : bus.Attended target)
    (attentive : bus.Attentive target action)
    (moves : bus.Moves action after) :
    after.Attended target := by
  cases moves with
  | published subject header data =>
      intro entry found outstanding
      rcases stored_publish found with old | rfl
      · exact attended entry old outstanding
      · cases outstanding
  | launched =>
      refine attended.mono (fun _ found _ => found) id ?_
      rintro ⟨message, ⟨index, state, live, member⟩, last⟩
      refine ⟨message, ⟨index, state, ?_, member⟩, last⟩
      exact List.getElem?_append_left (List.getElem?_eq_some_iff.mp live).1 ▸ live
  | delivered sequence index entry state found live => exact attended.delivered found live
  | worked index action arrives state next live same =>
      refine attended.mono (fun _ found _ => found) id ?_
      exact HoldsLast.withWorker live fun message member _ _ => same ▸ member
  | settled index action arrives state next message settlement live lost letters =>
      refine attended.apply live lost letters ?_
      rintro rfl
      have member : message ∈ state.held := by
        rw [← lost]
        exact Multiset.mem_add.mpr (Or.inr (List.mem_singleton_self message))
      exact attentive.imp id fun early => Early.attempt_lt early live member
  | lodged index shard letter =>
      exact attended.mono (fun _ found _ => found) (fun done => done.lodge letter) id
  | crashed index => exact attended.crashed attentive
  | expired sequence => exact attended_redeliver fun _ => attended
  | rescued position outcome rescue found =>
      rcases rescued_eq { bus with rescues := bus.rescues.eraseIdx position } rescue outcome with
        same | ⟨letter, same⟩
      · rw [same]
        exact attended
      · rw [same]
        exact attended.mono (fun _ found _ => found) (fun done => done.lodge letter) id
  | subscribed | unsubscribed | watcherCrashed => exact attended

/-! ## No message is lost -/

theorem SafeAt.kept
    (safe : bus.SafeAt sequence entry)
    (found : bus.stored sequence = some entry)
    (attended : entry.status = .outstanding →
      entry.deliveries < worker.maxDeliver ∨ bus.Done sequence ∨ bus.HoldsLast sequence) :
    bus.Kept sequence := by
  have ofDone : bus.Done sequence → bus.Kept sequence := by
    rintro (handled | lettered)
    · exact Or.inl handled
    · exact Or.inr (Or.inl lettered)
  unfold SafeAt at safe
  split at safe
  · next waiting =>
      exact Or.inr (Or.inr (Or.inr ⟨entry, found, by simp [Stored.isOpen, waiting], safe⟩))
  · next outstanding =>
      rcases attended outstanding with again | done | ⟨message, held, same, -⟩
      · exact Or.inr (Or.inr (Or.inr ⟨entry, found, by simp [Stored.isOpen, outstanding], again⟩))
      · exact ofDone done
      · exact Or.inr (Or.inr (Or.inl (Or.inl ⟨message, held, same⟩)))
  · exact ofDone safe
  · exact ofDone safe
  · rcases safe with done | rescuing
    · exact ofDone done
    · exact Or.inr (Or.inr (Or.inl (Or.inr rescuing)))

variable [Platform] {trace : List Empty}

theorem safe_of_reaches
    {allowed : Bus worker → BusAction worker.shards → Prop}
    (watched : ∀ bus action, allowed bus action → Watched sequence bus action)
    (reached : (machine worker).Reaches allowed .initial bus trace) :
    bus.Safe sequence := by
  refine reached.invariant ?_ ?_
  · intro entry found
    cases sequence <;> cases found
  · intro bus action after _ _ _ safe permitted taken
    exact safe.moves (watched bus action permitted) (moves_of_taken taken)

/-- With watchers, a message is handled, stored as a dead letter, being handled or
eligible, or the server waits for the end of its last delivery. -/
theorem kept_or_outstanding
    (reached : (machine worker).Reaches (Watched sequence) .initial bus trace)
    (entry : Stored)
    (found : bus.stored sequence = some entry) :
    bus.Kept sequence ∨ entry.status = .outstanding := by
  have safe := safe_of_reaches (fun _ _ => id) reached entry found
  by_cases outstanding : entry.status = .outstanding
  · exact Or.inr outstanding
  · exact Or.inl (safe.kept found fun still => absurd still outstanding)

/-- With watchers, and if no worker is lost on its last allowed delivery, a message of the
stream was handled successfully, is in the dead-letter stream, is being handled, or is
eligible for another delivery. -/
theorem no_message_lost
    (sequence : ℕ)
    (reached : (machine worker).Reaches
      (fun bus action => Watched sequence bus action ∧ Attentive sequence bus action)
      .initial bus trace)
    (positive : 0 < sequence)
    (published : sequence ≤ bus.stream.length) :
    bus.Kept sequence := by
  have safe := safe_of_reaches (fun _ _ => And.left) reached
  have attended : bus.Attended sequence := by
    refine reached.invariant ?_ ?_
    · intro entry found
      cases sequence <;> cases found
    · intro bus action after _ _ _ attended permitted taken
      exact attended.moves permitted.2 (moves_of_taken taken)
  obtain ⟨position, rfl⟩ := Nat.exists_eq_add_of_lt positive
  rw [Nat.zero_add] at published safe attended ⊢
  obtain ⟨entry, found⟩ : ∃ entry, bus.stored (position + 1) = some entry :=
    ⟨_, List.getElem?_eq_getElem published⟩
  exact (safe entry found).kept found (attended entry found)

end Bus

end InfraObserver

/-! ## Concrete deliveries -/

namespace InfraObserver

attribute [local instance] Platform.plain

section

variable {worker : Worker} (bus : Bus worker) (target : ℕ)

instance (index : ℕ) : Decidable (bus.Early target index) := by
  unfold Bus.Early
  split <;> infer_instance

instance : Decidable (bus.Done target) :=
  inferInstanceAs (Decidable (_ ∨ ∃ letter ∈ bus.letters, _))

instance : Decidable (bus.Rescuing target) :=
  inferInstanceAs (Decidable (∃ rescue ∈ bus.rescues, _))

instance : Decidable (bus.Heard target) :=
  inferInstanceAs (Decidable (∀ entry ∈ bus.stored target, _))

instance : DecidablePred (bus.Watched target) := fun action => by
  unfold Bus.Watched
  split <;> infer_instance

instance : DecidablePred (bus.Attentive target) := fun action => by
  unfold Bus.Attentive
  split <;> infer_instance

end

/-- The worker crashes on the only allowed delivery, and the server waits for its end. -/
theorem crashed_delivery_outstanding :
    ∃ (bus : Bus (newWorker (tightOptions 1 1))) (entry : Stored),
      bus.stored 1 = some entry ∧ entry.deliveries = 1 ∧
      (bus.Kept 1 ∨ entry.status = .outstanding) := by
  let crashed : List (BusAction (newWorker (tightOptions 1 1)).shards) :=
    [.subscribe 0, .publish "a" ∅ "", .launch, .deliver 1 0, .crash 0]
  have ended : ((Bus.machine (newWorker (tightOptions 1 1))).run .initial crashed).map
      (fun final => final.1.stored 1) = some (some ⟨"a", ∅, "", 1, .outstanding⟩) := by
    decide +kernel
  have permits : (Bus.machine (newWorker (tightOptions 1 1))).Permits (Bus.Watched 1)
      .initial crashed := by
    decide +kernel
  obtain ⟨⟨bus, shown⟩, ran, found⟩ := Option.map_eq_some_iff.mp ended
  exact ⟨bus, _, found, rfl,
    Bus.kept_or_outstanding (Transition.Machine.reaches_run permits ran) _ found⟩

/-- A handler fails for good, and the dead letter cannot be published. -/
def failTwice (index attempt : ℕ) (maxDeliver : ℤ) :
    List (BusAction (newWorker (tightOptions 1 maxDeliver)).shards) :=
  [.deliver 1 index, .work index (.send ⟨"a", ∅, "", 1, attempt⟩) true,
    .work index (.take (0 : Fin 1)) true, .work index (.begin (0 : Fin 1)) true,
    .work index (.finish (0 : Fin 1) (.returned (some (.errorf .permanent "no"))) id 7) true,
    .work index (.published (0 : Fin 1) (some (.errorf .dependency "down")) id) true]

/-- The first delivery ends with the crash of the worker. On the second and last one
the handler fails and the dead letter cannot be published, and the watcher stores
it. -/
def rescuedRun : List (BusAction (newWorker (tightOptions 1 2)).shards) :=
  [.subscribe 0, .publish "a" ∅ "", .launch, .deliver 1 0, .crash 0, .expire 1, .launch] ++
    failTwice 1 2 2 ++ [.rescue 0 (.stored 9)]

/-- The message is in the dead-letter stream. -/
theorem rescued_run_kept :
    ∃ bus, (Bus.machine (newWorker (tightOptions 1 2))).run .initial rescuedRun =
        some (bus, []) ∧
      bus.stream.length = 1 ∧ bus.letters.map DeadLetter.reason = ["max_deliveries"] ∧
      bus.Kept 1 := by
  have ended : ((Bus.machine (newWorker (tightOptions 1 2))).run .initial rescuedRun).map
      (fun final => (final.1.stream.length, final.1.letters.map DeadLetter.reason)) =
        some (1, ["max_deliveries"]) := by decide +kernel
  have permits : (Bus.machine (newWorker (tightOptions 1 2))).Permits
      (fun bus action => bus.Watched 1 action ∧ bus.Attentive 1 action) .initial
      rescuedRun := by
    decide +kernel
  obtain ⟨⟨bus, shown⟩, ran, same⟩ := Option.map_eq_some_iff.mp ended
  simp only [Prod.mk.injEq] at same
  have silent : shown = [] := by
    cases shown with
    | nil => rfl
    | cons event => exact event.elim
  subst silent
  exact ⟨bus, ran, same.1, same.2, Bus.no_message_lost 1
    (Transition.Machine.reaches_run permits ran) Nat.one_pos same.1.ge⟩

/-- With one allowed delivery, the handler fails, the dead letter cannot be published,
and neither can that of the watcher. -/
def lostRun : List (BusAction (newWorker (tightOptions 1 1)).shards) :=
  [.subscribe 0, .publish "a" ∅ "", .launch] ++ failTwice 0 1 1 ++ [.rescue 0 .unpublished]

/-- The message was not handled, there is no dead letter, nobody has it, and it will
not be delivered again. -/
theorem message_lost :
    ∃ bus, (Bus.machine (newWorker (tightOptions 1 1))).run .initial lostRun = some (bus, []) ∧
      bus.stream.length = 1 ∧ ¬ bus.Kept 1 := by
  have ended : ((Bus.machine (newWorker (tightOptions 1 1))).run .initial lostRun).map
      (fun final => ((final.1.stream, final.1.handled, final.1.letters), final.1.rescues,
        final.1.workers.map fun state => state.map fun state => state.held.card)) =
        some (([⟨"a", ∅, "", 1, .exhausted⟩], [], []), [], [some 0]) := by decide +kernel
  obtain ⟨⟨bus, shown⟩, ran, same⟩ := Option.map_eq_some_iff.mp ended
  simp only [Prod.mk.injEq] at same
  obtain ⟨⟨stream, handled, letters⟩, rescues, workers⟩ := same
  have silent : shown = [] := by
    cases shown with
    | nil => rfl
    | cons event => exact event.elim
  subst silent
  refine ⟨bus, ran, by rw [stream]; rfl, ?_⟩
  rintro (done | ⟨letter, member, -⟩ | (⟨message, ⟨index, state, live, member⟩, -⟩ |
    ⟨rescue, member, -⟩) | ⟨entry, found, again, -⟩)
  · simp [handled] at done
  · simp [letters] at member
  · have empty : some state.held.card ∈ [some 0] := by
      rw [← workers]
      exact List.mem_map.mpr ⟨some state, List.mem_of_getElem? live, rfl⟩
    simp only [List.mem_singleton, Option.some.injEq, Multiset.card_eq_zero] at empty
    simp [empty] at member
  · simp [rescues] at member
  · simp only [Bus.stored, stream, List.getElem?_cons_zero, Option.some.injEq] at found
    subst found
    cases again

end InfraObserver
