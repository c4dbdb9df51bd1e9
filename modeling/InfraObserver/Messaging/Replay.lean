import InfraObserver.Domain.Records
import InfraObserver.Library.Prog
import Mathlib.Order.Interval.Finset.Nat

/-!
# Replay of a stream

`ReplayStream` reads a window of a stream and publishes its messages again, into the
stream that it reads. It asks the server for the last sequence number before it
begins and stops at the first message behind it, so that it does not find its own
output.

The server is described by a contract: what others append to the stream, and how many
messages a fetch returns, is open.
-/

namespace InfraObserver

/-- `domain.Wrap`. -/
def Error.wrap (category : Category) (operation : String) (failure : Error) : Error :=
  ⟨category, category.name ++ ": " ++ operation ++ ": " ++ failure.text⟩

/-! ## Messages -/

/-- The header `HeaderMsgID`. -/
def headerMsgID : String := "Nats-Msg-Id"

/-- What is passed to `Publish`. -/
structure Publication where
  subject : String
  msgID : String
  payload : String
  headers : StringMap String
  deriving DecidableEq

/-- A message as the replay consumer delivers it. -/
structure ReplayMessage where
  /-- Its sequence number and time in the stream, if `Metadata` returns them. -/
  metadata : Option (ℕ × Time)
  subject : String
  header : StringMap (List String)
  data : String
  deriving DecidableEq

namespace ReplayMessage

/-- The headers of the message that is published again. -/
def replayHeaders (message : ReplayMessage) : StringMap String :=
  StringMap.insertAll ((∅ : StringMap String).insert "X-Replay" "true")
    (message.header.toSortedList.filterMap fun entry =>
      if entry.1 = headerMsgID then none else entry.2.head?.map fun value => (entry.1, value))

/-- The message id without the time of the replay. -/
def replayID (message : ReplayMessage) (sequence : ℕ) : String :=
  let id := (((message.header.lookup headerMsgID).getD []).head?).getD ""
  if id = "" then "seq-" ++ toString sequence else id

/-- The message that is published again. -/
def publication (message : ReplayMessage) (sequence : ℕ) (stamp : String) : Publication where
  subject := message.subject
  msgID := message.replayID sequence ++ ".replay." ++ stamp
  payload := message.data
  headers := message.replayHeaders

end ReplayMessage

/-- What `batch.Error()` returns after the messages of a fetch. -/
inductive BatchEnd
  | complete
  | timeout
  | failed (failure : Error)

/-- What a fetch returns. -/
structure FetchedBatch where
  messages : List ReplayMessage
  ending : BatchEnd

/-! ## The replay -/

/-- What `ReplayStream` asks of the server. -/
inductive ReplayRequest
  | openStream (name : String)
  | info
  | createConsumer (since : Time) (filter : String)
  | fetchNoWait (limit : ℕ)
  | publish (publication : Publication)

/-- What the server answers. -/
def ReplayAnswer : ReplayRequest → Type
  | .info => Except Error ℕ
  | .fetchNoWait _ => Except Error FetchedBatch
  | _ => Except Error Unit

/-- The arguments of `ReplayStream`, with the time at which it begins, in base 36. -/
structure Replay where
  streamName : String
  filter : String
  since : Time
  /-- Zero for no bound. -/
  before : Time
  dryRun : Bool
  stamp : String

/-- How the loop over the messages of a batch ends. -/
inductive BatchOutcome
  | returned (count : ℕ) (failure : Option Error)
  | finished (count : ℕ)

namespace Replay

/-- The loop over the messages of a batch, with the number of replayed messages. -/
def batch (replay : Replay) (horizon : ℕ) :
    List ReplayMessage → ℕ → Prog ReplayRequest ReplayAnswer BatchOutcome
  | [], count => .ret (.finished count)
  | message :: rest, count =>
      match message.metadata with
      | none => replay.batch horizon rest count
      | some (sequence, timestamp) =>
          if horizon < sequence ∨ (replay.before ≠ 0 ∧ replay.before ≤ timestamp) then
            .ret (.returned count none)
          else if replay.dryRun then replay.batch horizon rest (count + 1)
          else
            .call (.publish (message.publication sequence replay.stamp)) fun
              | .error failure => .ret (.returned (count + 1) (some failure))
              | .ok () => replay.batch horizon rest (count + 1)

/-- The loop over the batches. The source has no bound for it; the model gives up
after a number of rounds. -/
def rounds (replay : Replay) (horizon : ℕ) :
    ℕ → ℕ → Prog ReplayRequest ReplayAnswer (Option (ℕ × Option Error))
  | 0, _ => .ret none
  | bound + 1, count =>
      .call (.fetchNoWait 200) fun
        | .error failure => .ret (some (count, some (.wrap .dependency "fetch for replay" failure)))
        | .ok fetched =>
            (replay.batch horizon fetched.messages count).bind fun
              | .returned count failure => .ret (some (count, failure))
              | .finished count =>
                  match fetched.ending with
                  | .failed failure =>
                      .ret (some (count, some (.wrap .dependency "replay batch" failure)))
                  | .complete | .timeout =>
                      if fetched.messages.isEmpty then .ret (some (count, none))
                      else replay.rounds horizon bound count

/-- `ReplayStream`: the number of replayed messages and the error, unless it goes on
for more than as many rounds as the stream has sequence numbers. -/
def stream (replay : Replay) : Prog ReplayRequest ReplayAnswer (Option (ℕ × Option Error)) :=
  .call (.openStream replay.streamName) fun
    | .error failure =>
        .ret (some (0, some (.wrap .dependency ("open stream " ++ replay.streamName) failure)))
    | .ok () =>
        .call .info fun
          | .error failure => .ret (some (0, some (.wrap .dependency "stream info" failure)))
          | .ok horizon =>
              .call (.createConsumer replay.since replay.filter) fun
                | .error failure =>
                    .ret (some (0, some (.wrap .dependency "create replay consumer" failure)))
                | .ok () => replay.rounds horizon (horizon + 1) 0

end Replay

/-! ## The server -/

/-- A message of the stream. -/
structure StreamMessage where
  sequence : ℕ
  timestamp : Time
  subject : String
  header : StringMap (List String)
  data : String
  deriving DecidableEq

/-- A message of the stream as a consumer delivers it. -/
def StreamMessage.delivery (message : StreamMessage) : ReplayMessage where
  metadata := some (message.sequence, message.timestamp)
  subject := message.subject
  header := message.header
  data := message.data

/-- The consumer of a replay. -/
structure ReplayConsumer where
  since : Time
  filter : String
  delivered : ℕ
  deriving DecidableEq

/-- The consumer after it has delivered messages. -/
def ReplayConsumer.advance (consumer : ReplayConsumer) (messages : List StreamMessage) :
    ReplayConsumer :=
  { consumer with
    delivered := (messages.getLast?.map StreamMessage.sequence).getD consumer.delivered }

/-- The server, with the messages that the replay has published and those that there
were when it began. -/
structure StreamServer where
  stream : List StreamMessage
  lastSeq : ℕ
  consumer : Option ReplayConsumer
  published : List Publication
  began : List StreamMessage

namespace StreamServer

/-- Sequence numbers increase, and times do not decrease. -/
structure Ordered (server : StreamServer) : Prop where
  sequences : server.stream.Pairwise fun earlier later => earlier.sequence < later.sequence
  times : server.stream.Pairwise fun earlier later => earlier.timestamp ≤ later.timestamp
  numbered : ∀ message ∈ server.stream, 0 < message.sequence ∧ message.sequence ≤ server.lastSeq

/-- Messages were appended to the stream. -/
structure Appended (server : StreamServer) (new : List StreamMessage) (after : StreamServer) :
    Prop where
  stream : after.stream = server.stream ++ new
  ordered : after.Ordered
  later : ∀ message ∈ new, server.lastSeq < message.sequence
  last : server.lastSeq ≤ after.lastSeq
  consumer : after.consumer = server.consumer
  published : after.published = server.published
  began : after.began = server.began

variable (subjectMatches : String → String → Bool)

/-- What a consumer has not delivered yet. -/
def pending (server : StreamServer) (consumer : ReplayConsumer) : List StreamMessage :=
  server.stream.filter fun message =>
    subjectMatches consumer.filter message.subject && consumer.since ≤ message.timestamp &&
      consumer.delivered < message.sequence

/-- What the server does with the requests of a replay, while others append to the
stream: nothing fails, and a fetch returns at least one message if there is one. -/
def contract : Prog.Contract ReplayRequest ReplayAnswer StreamServer where
  pre server request := server.Ordered ∧
    match request with
    | .fetchNoWait limit => server.consumer ≠ none ∧ 0 < limit
    | _ => True
  post server request answer after := ∃ new grown, server.Appended new grown ∧
    match request, answer with
    | .openStream _, answer => answer = .ok () ∧ after = grown
    | .info, answer => answer = .ok grown.lastSeq ∧ after = { grown with began := grown.stream }
    | .createConsumer since filter, answer =>
        answer = .ok () ∧ after = { grown with consumer := some ⟨since, filter, 0⟩ }
    | .fetchNoWait limit, answer => ∃ consumer taken left ending,
        grown.consumer = some consumer ∧
        grown.pending subjectMatches consumer = taken ++ left ∧ taken.length ≤ limit ∧
        (grown.pending subjectMatches consumer ≠ [] → taken ≠ []) ∧
        (∀ failure, ending ≠ .failed failure) ∧
        answer = .ok ⟨taken.map StreamMessage.delivery, ending⟩ ∧
        after = { grown with consumer := some (consumer.advance taken) }
    | .publish publication, answer =>
        answer = .ok () ∧
        (∃ own ∈ new, own.subject = publication.subject ∧ own.data = publication.payload) ∧
        after = { grown with published := grown.published ++ [publication] }

end StreamServer

/-! ## What a replay has to publish -/

namespace Replay

variable (subjectMatches : String → String → Bool) (replay : Replay)

/-- The messages from the begin of the window on. -/
def selects (message : StreamMessage) : Bool :=
  subjectMatches replay.filter message.subject && replay.since ≤ message.timestamp

/-- The messages before the end of the window. -/
def covers (message : StreamMessage) : Bool :=
  replay.before = 0 || message.timestamp < replay.before

/-- The messages of the window. -/
def window (stream : List StreamMessage) : List StreamMessage :=
  stream.filter fun message => replay.selects subjectMatches message && replay.covers message

/-- The message that is published again. -/
def republished (message : StreamMessage) : Publication :=
  message.delivery.publication message.sequence replay.stamp

/-- What was published, given the messages that were replayed. -/
def output (messages : List StreamMessage) : List Publication :=
  if replay.dryRun then [] else messages.map replay.republished

/-- The replay has replayed its window. -/
def Complete (server : StreamServer) (count : ℕ) : Prop :=
  count = (replay.window subjectMatches server.began).length ∧
    server.published = replay.output (replay.window subjectMatches server.began)

/-- How far a replay is: what it has replayed, what is left of the messages that there
were when it began, and what it has fetched and not looked at. -/
structure Progress
    (replay : Replay)
    (horizon : ℕ)
    (server : StreamServer)
    (done rest fetched : List StreamMessage) : Prop where
  ordered : server.Ordered
  began : ∀ message ∈ server.began, message.sequence ≤ horizon
  reached : horizon ≤ server.lastSeq
  times : server.began.Pairwise fun earlier later => earlier.timestamp ≤ later.timestamp
  split : server.began.filter (replay.selects subjectMatches) = done ++ rest
  covered : ∀ message ∈ done, replay.covers message = true
  published : server.published = replay.output done
  coming : ∃ consumer later, server.consumer = some consumer ∧
    consumer.filter = replay.filter ∧ consumer.since = replay.since ∧
    rest ++ later = fetched ++ server.pending subjectMatches consumer ∧
    ∀ message ∈ later, horizon < message.sequence

variable {subjectMatches replay} {horizon : ℕ} {server after : StreamServer}
variable {done rest fetched : List StreamMessage}

section

variable (progress : replay.Progress subjectMatches horizon server done rest fetched)
include progress

theorem Progress.complete
    (ended : ∀ message, rest.head? = some message → replay.covers message = false) :
    replay.Complete subjectMatches server done.length := by
  have left : ∀ message ∈ rest, replay.covers message = false := by
    have sorted : rest.Pairwise fun earlier later => earlier.timestamp ≤ later.timestamp := by
      have selected := progress.times.filter (replay.selects subjectMatches)
      rw [progress.split] at selected
      exact selected.sublist (List.sublist_append_right _ _)
    cases rest with
    | nil => nofun
    | cons first others =>
        have beyond := ended first rfl
        rw [List.forall_mem_cons]
        refine ⟨beyond, fun message listed => ?_⟩
        have later := (List.pairwise_cons.mp sorted).1 message listed
        simp only [covers, Bool.or_eq_false_iff, decide_eq_false_iff_not, not_lt] at beyond ⊢
        exact ⟨beyond.1, beyond.2.trans later⟩
  have whole : replay.window subjectMatches server.began = done := by
    have both : replay.window subjectMatches server.began =
        (server.began.filter (replay.selects subjectMatches)).filter replay.covers := by
      rw [window, List.filter_filter]
      exact List.filter_congr fun message _ => Bool.and_comm _ _
    rw [both, progress.split, List.filter_append, List.filter_eq_self.mpr progress.covered,
      List.filter_eq_nil_iff.mpr (by simpa using left), List.append_nil]
  exact ⟨by rw [whole], by rw [whole, progress.published]⟩

theorem Progress.appended
    {new : List StreamMessage}
    (grown : server.Appended new after) :
    replay.Progress subjectMatches horizon after done rest fetched := by
  obtain ⟨consumer, later, known, filter, since, order, behind⟩ := progress.coming
  refine ⟨grown.ordered, ?_, progress.reached.trans grown.last, ?_, ?_, progress.covered, ?_,
    consumer, later ++ new.filter (fun message =>
      subjectMatches consumer.filter message.subject && consumer.since ≤ message.timestamp &&
        consumer.delivered < message.sequence), ?_, filter, since, ?_, ?_⟩
  · rw [grown.began]
    exact progress.began
  · rw [grown.began]
    exact progress.times
  · rw [grown.began]
    exact progress.split
  · rw [grown.published]
    exact progress.published
  · rw [grown.consumer, known]
  · rw [← List.append_assoc, order, StreamServer.pending, StreamServer.pending, grown.stream,
      List.filter_append, List.append_assoc]
  · rw [List.forall_mem_append]
    refine ⟨behind, fun message listed => ?_⟩
    exact progress.reached.trans_lt (grown.later message (List.mem_of_mem_filter listed))

end

theorem Progress.head
    {message : StreamMessage}
    (progress : replay.Progress subjectMatches horizon server done rest (message :: fetched)) :
    (rest = [] ∧ horizon < message.sequence) ∨
      ∃ others, rest = message :: others ∧ message.sequence ≤ horizon := by
  obtain ⟨consumer, later, -, -, -, order, behind⟩ := progress.coming
  cases rest with
  | nil =>
      rw [List.nil_append, List.cons_append] at order
      exact .inl ⟨rfl, behind message (by rw [order]; exact List.mem_cons_self ..)⟩
  | cons first others =>
      rw [List.cons_append, List.cons_append] at order
      obtain ⟨rfl, -⟩ := List.cons.inj order
      refine .inr ⟨others, rfl, progress.began first ?_⟩
      refine List.mem_of_mem_filter (p := replay.selects subjectMatches) ?_
      rw [progress.split]
      simp

theorem Progress.next
    {message : StreamMessage}
    {others : List StreamMessage}
    (progress : replay.Progress subjectMatches horizon server done (message :: others)
      (message :: fetched))
    (covered : replay.covers message = true)
    (publishes : after.published = replay.output (done ++ [message]))
    (same : after = { server with published := after.published }) :
    replay.Progress subjectMatches horizon after (done ++ [message]) others fetched := by
  obtain ⟨consumer, later, known, filter, since, order, behind⟩ := progress.coming
  rw [same]
  refine ⟨⟨progress.ordered.sequences, progress.ordered.times, progress.ordered.numbered⟩,
    progress.began, progress.reached, progress.times, ?_, ?_, publishes,
    consumer, later, known, filter, since, ?_, behind⟩
  · rw [progress.split, List.append_assoc, List.singleton_append]
  · rw [List.forall_mem_append, List.forall_mem_singleton]
    exact ⟨progress.covered, covered⟩
  · exact (List.cons.inj order).2

/-- What looking at a fetched batch can lead to. -/
def AfterBatch
    (subjectMatches : String → String → Bool)
    (replay : Replay)
    (horizon : ℕ)
    (targets : List StreamMessage)
    (size : ℕ) : BatchOutcome → StreamServer → Prop
  | .returned count failure, server =>
      failure = none ∧ replay.Complete subjectMatches server count
  | .finished count, server => ∃ done rest, count = done.length ∧ size ≤ count ∧
      done ++ rest = targets ∧ replay.Progress subjectMatches horizon server done rest []

theorem wp_batch
    (progress : replay.Progress subjectMatches horizon server done rest fetched) :
    (replay.batch horizon (fetched.map StreamMessage.delivery) done.length).wp
      (StreamServer.contract subjectMatches)
      (AfterBatch subjectMatches replay horizon (done ++ rest) (done.length + fetched.length))
      server := by
  induction fetched generalizing server done rest with
  | nil => exact ⟨done, rest, rfl, le_rfl, rfl, progress⟩
  | cons message fetched ih =>
      rw [List.map_cons, batch]
      simp only [StreamMessage.delivery]
      rcases progress.head with ⟨rfl, behind⟩ | ⟨others, rfl, within⟩
      · rw [if_pos (.inl behind)]
        exact ⟨rfl, progress.complete nofun⟩
      · have continued : ∀ after, replay.Progress subjectMatches horizon after (done ++ [message])
            others fetched → (replay.batch horizon (fetched.map StreamMessage.delivery)
              (done.length + 1)).wp (StreamServer.contract subjectMatches)
              (AfterBatch subjectMatches replay horizon (done ++ message :: others)
                (done.length + (message :: fetched).length)) after := by
          intro after goesOn
          have rest := ih goesOn
          rwa [List.length_append, List.append_assoc, List.length_singleton,
            List.singleton_append, Nat.add_assoc, Nat.add_comm 1 fetched.length] at rest
        by_cases ended : replay.before ≠ 0 ∧ replay.before ≤ message.timestamp
        · rw [if_pos (.inr ended)]
          refine ⟨rfl, progress.complete ?_⟩
          rintro first ⟨⟩
          simpa [covers] using ended
        · rw [if_neg (not_or.mpr ⟨Nat.not_lt.mpr within, ended⟩)]
          have covered : replay.covers message = true := by
            simpa [covers, or_iff_not_imp_left] using ended
          by_cases dry : replay.dryRun = true
          · rw [if_pos dry]
            refine continued server (progress.next covered ?_ rfl)
            rw [progress.published, output, output, if_pos dry, if_pos dry]
          · rw [if_neg dry, Prog.wp_call]
            refine ⟨⟨progress.ordered, trivial⟩, ?_⟩
            rintro answer after ⟨new, grown, appended, rfl, -, rfl⟩
            refine continued _ ((progress.appended appended).next covered ?_ rfl)
            rw [(progress.appended appended).published, output, output, if_neg dry, if_neg dry,
              List.map_append]
            rfl

theorem pending_advance
    {consumer : ReplayConsumer}
    {taken left : List StreamMessage}
    (ordered : server.Ordered)
    (split : server.pending subjectMatches consumer = taken ++ left) :
    server.pending subjectMatches (consumer.advance taken) = left := by
  rcases List.eq_nil_or_concat taken with rfl | ⟨before, last, rfl⟩
  · exact split
  rw [List.concat_eq_append] at split ⊢
  have listed : last ∈ server.pending subjectMatches consumer := by
    rw [split]
    simp
  have further : consumer.delivered < last.sequence := by
    have selected := (List.mem_filter.mp listed).2
    simp only [Bool.and_eq_true, decide_eq_true_eq] at selected
    exact selected.2
  have again : server.pending subjectMatches (consumer.advance (before ++ [last])) =
      (server.pending subjectMatches consumer).filter fun message =>
        last.sequence < message.sequence := by
    rw [StreamServer.pending, StreamServer.pending, List.filter_filter]
    refine List.filter_congr fun message _ => ?_
    rw [Bool.eq_iff_iff]
    simp only [ReplayConsumer.advance, List.getLast?_append, List.getLast?_singleton,
      Option.some_or, Option.map_some, Option.getD_some, Bool.and_eq_true, decide_eq_true_eq]
    constructor
    · rintro ⟨selected, behind⟩
      exact ⟨behind, selected, further.trans behind⟩
    · rintro ⟨behind, selected, -⟩
      exact ⟨selected, behind⟩
  have sorted : (before ++ [last] ++ left).Pairwise fun earlier later =>
      earlier.sequence < later.sequence := by
    rw [← split]
    exact ordered.sequences.filter _
  rw [List.append_assoc, List.pairwise_append, List.singleton_append, List.pairwise_cons] at sorted
  obtain ⟨-, ⟨behind, -⟩, earlier⟩ := sorted
  rw [again, split, List.append_assoc, List.filter_append, List.singleton_append,
    List.filter_eq_nil_iff.mpr, List.nil_append, List.filter_cons_of_neg, List.filter_eq_self]
  · simpa using behind
  · simp
  · intro message member
    simpa using (earlier message member last (List.mem_cons_self ..)).le

theorem Progress.fetch
    (progress : replay.Progress subjectMatches horizon server done rest [])
    {consumer : ReplayConsumer}
    {taken left : List StreamMessage}
    (known : server.consumer = some consumer)
    (split : server.pending subjectMatches consumer = taken ++ left)
    (same : after = { server with consumer := some (consumer.advance taken) }) :
    replay.Progress subjectMatches horizon after done rest taken := by
  obtain ⟨other, later, alsoKnown, filter, since, order, behind⟩ := progress.coming
  obtain rfl := Option.some.inj (known.symm.trans alsoKnown)
  subst same
  refine ⟨⟨progress.ordered.sequences, progress.ordered.times, progress.ordered.numbered⟩,
    progress.began, progress.reached, progress.times, progress.split, progress.covered,
    progress.published, consumer.advance taken, later, rfl, filter, since, ?_, behind⟩
  have remaining := pending_advance progress.ordered split
  rw [order, List.nil_append, split]
  exact congrArg (taken ++ ·) remaining.symm

/-- The loop over the batches replays the window, if it may go on for one round more
than there are messages left. -/
theorem wp_rounds
    {bound : ℕ}
    (progress : replay.Progress subjectMatches horizon server done rest [])
    (enough : rest.length < bound) :
    (replay.rounds horizon bound done.length).wp (StreamServer.contract subjectMatches)
      (fun result after => ∃ count, result = some (count, none) ∧
        replay.Complete subjectMatches after count) server := by
  induction bound generalizing server done rest with
  | zero => omega
  | succ bound ih =>
      obtain ⟨consumer, -, known, -⟩ := progress.coming
      rw [rounds, Prog.wp_call]
      refine ⟨⟨progress.ordered, by simp [known], by decide⟩, ?_⟩
      rintro answer after ⟨new, grown, appended, reader, taken, left, ending, readerKnown, split,
        -, some, sound, rfl, rfl⟩
      have grownProgress := progress.appended appended
      by_cases nothing : taken = []
      · -- Nothing was there to be fetched, so nothing is left.
        have empty : grown.pending subjectMatches reader = [] := by
          by_contra filled
          exact some filled nothing
        obtain ⟨other, later, otherKnown, -, -, order, -⟩ := grownProgress.coming
        obtain rfl := Option.some.inj (readerKnown.symm.trans otherKnown)
        rw [List.nil_append, empty, List.append_eq_nil_iff] at order
        obtain ⟨rfl, -⟩ := order
        have complete := (grownProgress.fetch readerKnown split rfl).complete nofun
        subst nothing
        cases ending with
        | failed failure => exact absurd rfl (sound failure)
        | complete => exact ⟨done.length, rfl, complete⟩
        | timeout => exact ⟨done.length, rfl, complete⟩
      · refine (Prog.wp_bind _ _ _).mpr (Prog.wp_mono ?_
          (wp_batch (grownProgress.fetch readerKnown split rfl)))
        rintro (⟨count, failure⟩ | count) server' reached
        · obtain ⟨rfl, complete⟩ := reached
          exact ⟨count, rfl, complete⟩
        · obtain ⟨done', rest', rfl, further, targets, progress'⟩ := reached
          have fewer : rest'.length < bound := by
            have lengths := congrArg List.length targets
            have positive := List.length_pos_iff.mpr nothing
            simp only [List.length_append] at lengths
            omega
          have next := ih progress' fewer
          cases ending with
          | failed failure => exact absurd rfl (sound failure)
          | complete => simpa [nothing] using next
          | timeout => simpa [nothing] using next

theorem length_le_of_ordered
    {messages : List StreamMessage}
    (sorted : messages.Pairwise fun earlier later => earlier.sequence < later.sequence)
    (numbered : ∀ message ∈ messages, 0 < message.sequence ∧ message.sequence ≤ horizon) :
    messages.length ≤ horizon := by
  have distinct : (messages.map StreamMessage.sequence).Nodup := by
    rw [List.Nodup, List.pairwise_map]
    exact sorted.imp fun less => less.ne
  have within : (messages.map StreamMessage.sequence).toFinset ⊆ Finset.Icc 1 horizon := by
    intro sequence listed
    obtain ⟨message, member, rfl⟩ := List.mem_map.mp (List.mem_toFinset.mp listed)
    exact Finset.mem_Icc.mpr (numbered message member)
  have count := Finset.card_le_card within
  rwa [List.toFinset_card_of_nodup distinct, List.length_map, Nat.card_Icc,
    Nat.add_sub_cancel] at count

/-- `ReplayStream` replays the window of the stream that it finds. -/
theorem wp_stream
    (replay : Replay)
    (ordered : server.Ordered)
    (fresh : server.published = []) :
    replay.stream.wp (StreamServer.contract subjectMatches)
      (fun result after => ∃ count, result = some (count, none) ∧
        replay.Complete subjectMatches after count) server := by
  refine ⟨⟨ordered, trivial⟩, ?_⟩
  rintro answer _ ⟨_, first, opened, rfl, rfl⟩
  refine ⟨⟨opened.ordered, trivial⟩, ?_⟩
  rintro answer _ ⟨_, second, asked, rfl, rfl⟩
  refine ⟨⟨⟨asked.ordered.sequences, asked.ordered.times, asked.ordered.numbered⟩, trivial⟩, ?_⟩
  rintro answer _ ⟨new, third, created, rfl, rfl⟩
  have progress : replay.Progress subjectMatches second.lastSeq
      { third with consumer := some ⟨replay.since, replay.filter, 0⟩ } []
      (second.stream.filter (replay.selects subjectMatches)) [] := by
    refine ⟨⟨created.ordered.sequences, created.ordered.times, created.ordered.numbered⟩, ?_,
      created.last, ?_, ?_, nofun, ?_, ⟨replay.since, replay.filter, 0⟩,
      new.filter (replay.selects subjectMatches), rfl, rfl, rfl, ?_, ?_⟩
    · rw [show third.began = second.stream from created.began]
      exact fun message listed => (asked.ordered.numbered message listed).2
    · rw [show third.began = second.stream from created.began]
      exact asked.ordered.times
    · rw [show third.began = second.stream from created.began]
      rfl
    · rw [show third.published = second.published from created.published, asked.published,
        opened.published, fresh, output, List.map_nil, ite_self]
    · rw [List.nil_append, ← List.filter_append]
      have stream : third.stream = second.stream ++ new := created.stream
      rw [← stream]
      refine List.filter_congr fun message listed => ?_
      simp [selects, (created.ordered.numbered message listed).1]
    · exact fun message listed => created.later message (List.mem_of_mem_filter listed)
  refine wp_rounds progress (Nat.lt_succ_of_le ?_)
  refine length_le_of_ordered (asked.ordered.sequences.filter _) fun message listed => ?_
  exact asked.ordered.numbered message (List.mem_of_mem_filter listed)

end Replay

/-- A replay of a stream ends, whatever others append to it meanwhile, and it has then
published the messages that there were in its window when it began, each once, in
their order, to their subjects and with their payloads; a dry run has published
nothing and returns their number. -/
theorem replay_exact
    (subjectMatches : String → String → Bool)
    {World : Type}
    (view : World → StreamServer)
    (handler : (request : ReplayRequest) → World → ReplayAnswer request × World)
    (serves : ∀ request world,
      (StreamServer.contract subjectMatches).pre (view world) request →
      (StreamServer.contract subjectMatches).post (view world) request (handler request world).1
        (view (handler request world).2))
    (replay : Replay)
    (world : World)
    (ordered : (view world).Ordered)
    (fresh : (view world).published = []) :
    let result := replay.stream.exec handler world
    let window := replay.window subjectMatches (view result.2).began
    result.1 = some (window.length, none) ∧
      (replay.dryRun = true → (view result.2).published = []) ∧
      (replay.dryRun = false →
        (view result.2).published.map (fun publication =>
          (publication.subject, publication.payload)) =
            window.map fun message => (message.subject, message.data)) := by
  obtain ⟨count, returned, rfl, published⟩ := Prog.exec_of_wp handler view serves world
    (Replay.wp_stream replay ordered fresh)
  refine ⟨returned, fun dry => ?_, fun live => ?_⟩
  · rw [published, Replay.output, if_pos dry]
  · rw [published, Replay.output, live, if_neg Bool.false_ne_true, List.map_map]
    rfl

end InfraObserver

/-! ## A busy stream -/

namespace InfraObserver.Replaying

/-- The last time in a stream. -/
def latest (server : StreamServer) : Time :=
  (server.stream.getLast?.map StreamMessage.timestamp).getD 0

theorem le_latest
    {server : StreamServer}
    (ordered : server.Ordered)
    {message : StreamMessage}
    (listed : message ∈ server.stream) :
    message.timestamp ≤ latest server := by
  have times := ordered.times
  rw [latest]
  rcases List.eq_nil_or_concat server.stream with empty | ⟨before, last, split⟩
  · simp [empty] at listed
  · rw [split, List.concat_eq_append] at listed times ⊢
    rw [List.getLast?_concat, Option.map_some, Option.getD_some]
    rcases List.mem_append.mp listed with earlier | own
    · exact (List.pairwise_append.mp times).2.2 message earlier last (List.mem_singleton_self _)
    · rw [List.mem_singleton.mp own]

/-- A message is appended to the stream. -/
def push (server : StreamServer) (subject data : String) : StreamServer :=
  { server with
    stream := server.stream ++ [⟨server.lastSeq + 1, latest server, subject, ∅, data⟩]
    lastSeq := server.lastSeq + 1 }

theorem appended_push
    {server : StreamServer}
    (ordered : server.Ordered)
    (subject data : String) :
    server.Appended [⟨server.lastSeq + 1, latest server, subject, ∅, data⟩]
      (push server subject data) where
  stream := rfl
  ordered := by
    refine ⟨?_, ?_, ?_⟩
    · refine List.pairwise_append.mpr ⟨ordered.sequences, List.pairwise_singleton _ _, ?_⟩
      rintro message listed _ member
      obtain rfl := List.mem_singleton.mp member
      exact Nat.lt_succ_of_le (ordered.numbered message listed).2
    · refine List.pairwise_append.mpr ⟨ordered.times, List.pairwise_singleton _ _, ?_⟩
      rintro message listed _ member
      obtain rfl := List.mem_singleton.mp member
      exact le_latest ordered listed
    · simp only [push, List.forall_mem_append, List.forall_mem_singleton]
      refine ⟨fun message listed => ?_, Nat.succ_pos _, le_rfl⟩
      obtain ⟨positive, bounded⟩ := ordered.numbered message listed
      exact ⟨positive, Nat.le_succ_of_le bounded⟩
  later := by simp
  last := Nat.le_succ _
  consumer := rfl
  published := rfl
  began := rfl

/-- Two messages at a time are fetched, and somebody else appends one each time. -/
def busy : (request : ReplayRequest) → StreamServer → ReplayAnswer request × StreamServer
  | .openStream _, server => (.ok (), push server "raw" "other")
  | .info, server => (.ok server.lastSeq, { server with began := server.stream })
  | .createConsumer since filter, server =>
      (.ok (), { server with consumer := some ⟨since, filter, 0⟩ })
  | .fetchNoWait limit, server =>
      let grown := push server "raw" "other"
      match grown.consumer with
      | none => (.ok ⟨[], .complete⟩, grown)
      | some consumer =>
          let taken := (grown.pending (fun filter subject => filter = subject) consumer).take
            (min 2 limit)
          (.ok ⟨taken.map StreamMessage.delivery, .complete⟩,
            { grown with consumer := some (consumer.advance taken) })
  | .publish publication, server =>
      let grown := push server publication.subject publication.payload
      (.ok (), { grown with published := grown.published ++ [publication] })

theorem appended_nil
    {server : StreamServer}
    (ordered : server.Ordered) :
    server.Appended [] server :=
  ⟨(List.append_nil _).symm, ordered, nofun, le_rfl, rfl, rfl, rfl⟩

theorem busy_serves (request : ReplayRequest) (server : StreamServer) :
    (StreamServer.contract fun filter subject => filter = subject).pre server request →
      (StreamServer.contract fun filter subject => filter = subject).post server request
        (busy request server).1 (busy request server).2 := by
  rintro ⟨ordered, ready⟩
  cases request with
  | openStream name => exact ⟨_, _, appended_push ordered "raw" "other", rfl, rfl⟩
  | info => exact ⟨[], server, appended_nil ordered, rfl, rfl⟩
  | createConsumer since filter => exact ⟨[], server, appended_nil ordered, rfl, rfl⟩
  | fetchNoWait limit =>
      obtain ⟨consumer, known⟩ := Option.ne_none_iff_exists'.mp ready.1
      have grownKnown : (push server "raw" "other").consumer = some consumer := known
      refine ⟨_, push server "raw" "other", appended_push ordered "raw" "other", consumer,
        ((push server "raw" "other").pending (fun filter subject => filter = subject)
          consumer).take (min 2 limit),
        ((push server "raw" "other").pending (fun filter subject => filter = subject)
          consumer).drop (min 2 limit), .complete, grownKnown,
        (List.take_append_drop _ _).symm, ?_, fun filled => ?_, nofun, ?_, ?_⟩
      · rw [List.length_take]
        omega
      · rw [ne_eq, List.take_eq_nil_iff, not_or]
        exact ⟨by have := ready.2; omega, filled⟩
      · simp only [busy, grownKnown]
        rfl
      · simp only [busy, grownKnown]
  | publish publication =>
      exact ⟨_, _, appended_push ordered publication.subject publication.payload, rfl,
        ⟨_, List.mem_singleton_self _, rfl, rfl⟩, rfl⟩

/-- A stream of four messages. -/
def server : StreamServer where
  stream := [⟨1, 10, "raw", ∅, "a"⟩, ⟨2, 20, "raw", ∅, "b"⟩, ⟨4, 20, "events", ∅, "c"⟩,
    ⟨5, 30, "raw", ∅, "d"⟩]
  lastSeq := 5
  consumer := none
  published := []
  began := []

/-- The window from time 20 on. -/
def replay : Replay := ⟨"TELEMETRY_RAW", "raw", 20, 0, false, "s"⟩

/-- The window is replayed, with the message that came before the replay asked for the
end of the stream. -/
theorem busy_replayed :
    (replay.stream.exec busy server).1 = some (3, none) ∧
      (replay.stream.exec busy server).2.published.map (fun publication =>
        (publication.subject, publication.payload)) =
          [("raw", "b"), ("raw", "d"), ("raw", "other")] := by
  have ordered : server.Ordered := ⟨by decide, by decide, by decide⟩
  obtain ⟨returned, -, live⟩ := replay_exact (fun filter subject => filter = subject) id busy
    busy_serves replay server ordered rfl
  have window : replay.window (fun filter subject => filter = subject)
      (replay.stream.exec busy server).2.began =
        [⟨2, 20, "raw", ∅, "b"⟩, ⟨5, 30, "raw", ∅, "d"⟩, ⟨6, 30, "raw", ∅, "other"⟩] := by
    decide +kernel
  simp only [id_eq, window] at returned live
  exact ⟨returned, live rfl⟩

end InfraObserver.Replaying
