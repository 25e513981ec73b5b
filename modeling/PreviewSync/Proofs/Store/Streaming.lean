import PreviewSync.Proofs.Store.Lifecycle

/-!
# Streaming bodies

A body is sent in reads whose room the transport chooses, and a body is received in reads whose
sizes the store chooses. Nobody on the other end of either stream can tell from the bytes where it
was cut: the chunks that are handed over follow one another without a gap until the body has been
delivered or a cancellation was asked for, and what is received is what was read, one after the
other.

## Main Definitions

* `BodyReader.Turn` — what happens to the reader of a body to send
* `BodyReader.after`, `BodyReader.chunks` — the reader after several turns, and what they gave
* `BodyReader.IsStreamed` — what the chunks of a body are, wherever the reads stop
* `Flight.run_pulls` — an operation stands where its reader does
* `Read` — a read of a body to receive that is not the last one
* `Flight.run_reads` — an operation has read what its reads gave
* `streaming_ignores_chunking` — bodies are sent and received whole, however they are cut
-/

namespace PreviewSync.Store

namespace BodyReader

/-- What happens to a reader: it is read with room for some bytes, or somebody asks for
cancellation. The rooms are up to the transport, which knows nothing of the body. -/
inductive Turn where
  | read (room : Nat)
  | cancel
deriving Repr, DecidableEq

/-- The chunk that a turn gives, if it is answered with one, and the reader after it. A read that is
refused gives none, which is not the same as an empty chunk: that is the end of a body. -/
def turn (reader : BodyReader) : Turn → Option Bytes × BodyReader
  | .read room => reader.read room
  | .cancel => (none, { reader with cancelled := true })

/-- The reader after several turns. -/
def after (reader : BodyReader) (turns : List Turn) : BodyReader :=
  turns.foldl (fun reader turn => (reader.turn turn).2) reader

/-- The chunks that several turns give, in their order. It is kept as a list, as the transport is
handed each chunk by itself. -/
def chunks (reader : BodyReader) : List Turn → List Bytes
  | [] => []
  | turn :: turns => (reader.turn turn).1.toList ++ (reader.turn turn).2.chunks turns

/-- The reads that are answered are those before the first cancellation. -/
def answered (turns : List Turn) : List Turn :=
  turns.takeWhile (· ≠ .cancel)

variable {reader : BodyReader}

/-! ### One read -/

/-- After a cancellation a read is refused. -/
theorem read_of_cancelled (cancelled : reader.cancelled = true) (room : Nat) :
    reader.read room = (none, reader) :=
  if_pos cancelled

/-- Before a cancellation a read gives the beginning of what is still to be sent. It is no longer
than the room that is offered, nor than a chunk may be. -/
theorem read_of_uncancelled (uncancelled : reader.cancelled = false) (room : Nat) :
    reader.read room =
      (some (reader.rest.take (min room chunkSize)),
        { rest := reader.rest.drop (min room chunkSize)
          phase := if reader.phase = .opening then .transferring else reader.phase
          cancelled := false }) := by
  obtain ⟨rest, phase, cancelled⟩ := reader
  cases uncancelled
  unfold read
  rw [if_neg Bool.false_ne_true, List.splitAt_eq]

/-- A read that is answered found no cancellation. -/
theorem uncancelled_of_read {room : Nat} {chunk : Bytes} {next : BodyReader}
    (answer : reader.read room = (some chunk, next)) : reader.cancelled = false := by
  cases cancelled : reader.cancelled with
  | false => rfl
  | true =>
    rw [read_of_cancelled cancelled] at answer
    cases answer

/-- A turn takes the chunk that it gives from the front of what is still to be sent. Nothing is left
out and nothing is given twice. -/
theorem turn_rest (turn : Turn) :
    (reader.turn turn).1.toList.flatten ++ (reader.turn turn).2.rest = reader.rest := by
  cases turn with
  | cancel => rfl
  | read room =>
    change (reader.read room).1.toList.flatten ++ (reader.read room).2.rest = reader.rest
    cases cancelled : reader.cancelled with
    | true =>
      rw [read_of_cancelled cancelled]
      rfl
    | false =>
      rw [read_of_uncancelled cancelled, Option.toList_some, List.flatten_singleton]
      exact List.take_append_drop _ _

/-- A turn cancels a reader if it asks for it, and not otherwise. So a reader is not cancelled by
coming to its end. -/
theorem turn_cancelled (turn : Turn) :
    (reader.turn turn).2.cancelled = (reader.cancelled || decide (turn = .cancel)) := by
  cases turn with
  | cancel => simp [BodyReader.turn]
  | read room =>
    change (reader.read room).2.cancelled = _
    cases cancelled : reader.cancelled with
    | true => rw [read_of_cancelled cancelled, cancelled, Bool.true_or]
    | false =>
      rw [read_of_uncancelled cancelled]
      rfl

/-! ### All reads -/

/-- The chunks and what is still to be sent make up the body, by induction on the turns. -/
theorem flatten_chunks (reader : BodyReader) (turns : List Turn) :
    (reader.chunks turns).flatten ++ (reader.after turns).rest = reader.rest := by
  induction turns generalizing reader with
  | nil => rfl
  | cons turn turns ih =>
    calc (reader.chunks (turn :: turns)).flatten ++ (reader.after (turn :: turns)).rest
      _ = (reader.turn turn).1.toList.flatten ++
            (((reader.turn turn).2.chunks turns).flatten ++
              ((reader.turn turn).2.after turns).rest) := by
        rw [chunks, List.flatten_append, List.append_assoc]
        rfl
      _ = (reader.turn turn).1.toList.flatten ++ (reader.turn turn).2.rest := by rw [ih]
      _ = reader.rest := turn_rest turn

/-- After a cancellation no turn gives anything or changes the reader. What is still to be sent
stays where it is. -/
theorem stopped_of_cancelled (cancelled : reader.cancelled = true) (turns : List Turn) :
    reader.chunks turns = [] ∧ reader.after turns = reader := by
  have still (turn : Turn) : reader.turn turn = (none, reader) := by
    cases turn with
    | read room => exact read_of_cancelled cancelled room
    | cancel =>
      obtain ⟨rest, phase, cancelled'⟩ := reader
      cases cancelled
      rfl
  induction turns with
  | nil => exact ⟨rfl, rfl⟩
  | cons turn turns ih =>
    constructor
    · rw [chunks, still, ih.1]
      rfl
    · change (reader.turn turn).2.after turns = reader
      rw [still, ih.2]

/-- The chunks of several turns are those of the first ones and then those of the others. -/
theorem chunks_append (reader : BodyReader) (turns others : List Turn) :
    reader.chunks (turns ++ others) =
      reader.chunks turns ++ (reader.after turns).chunks others := by
  induction turns generalizing reader with
  | nil => rfl
  | cons turn turns ih =>
    rw [List.cons_append, chunks, ih, chunks, List.append_assoc]
    rfl

/-- Nothing is given after a cancellation. The chunks that were given before it are on the wire
already. -/
theorem chunks_cancel (reader : BodyReader) (before later : List Turn) :
    reader.chunks (before ++ .cancel :: later) = reader.chunks before := by
  have stopped : (reader.after before).chunks (.cancel :: later) = [] :=
    (@stopped_of_cancelled { reader.after before with cancelled := true } rfl later).1
  rw [chunks_append, stopped, List.append_nil]

/-- A reader is cancelled once somebody has asked for it, and not before. -/
theorem after_cancelled (reader : BodyReader) (turns : List Turn) :
    (reader.after turns).cancelled = (reader.cancelled || decide (.cancel ∈ turns)) := by
  induction turns generalizing reader with
  | nil => exact (Bool.or_false _).symm
  | cons turn turns ih =>
    change ((reader.turn turn).2.after turns).cancelled = _
    rw [ih, turn_cancelled]
    simp [Bool.or_assoc, eq_comm]

/-- Every read before the first cancellation gives a chunk, and the first of them moves the request
on. -/
theorem progress_of_uncancelled (uncancelled : reader.cancelled = false) (turns : List Turn) :
    (reader.chunks turns).length = (answered turns).length ∧
      (reader.after turns).phase =
        if reader.phase = .opening ∧ answered turns ≠ [] then .transferring else reader.phase := by
  induction turns generalizing reader with
  | nil => exact ⟨rfl, by simp [answered, after]⟩
  | cons turn turns ih =>
    cases turn with
    | cancel =>
      obtain ⟨silent, same⟩ :=
        @stopped_of_cancelled { reader with cancelled := true } rfl turns
      constructor
      · exact congrArg List.length silent
      · exact (congrArg phase same).trans (by simp [answered])
    | read room =>
      have first : reader.turn (.read room) = _ := read_of_uncancelled uncancelled room
      have rest := @ih (reader.turn (.read room)).2
        (congrArg (fun answer => answer.2.cancelled) first)
      rw [first] at rest
      obtain ⟨count, phase⟩ := rest
      constructor
      · rw [chunks, first, List.length_append, count]
        simp [answered, Nat.add_comm]
      · change ((reader.turn (.read room)).2.after turns).phase = _
        rw [first, phase]
        by_cases opening : reader.phase = .opening <;> simp [answered, opening]

/-! ### The body as a whole -/

/-- What the turns before some read of a body have given, and what that read gives. Every read of a
run is the read behind the turns before it, so this covers all of them without an order among them.
-/
structure IsStreamed (reader : BodyReader) (before : List Turn) (room : Nat) : Prop where
  /-- The chunks up to here are a beginning of the body, and the rest of it is still to be sent. -/
  contiguous : (reader.chunks before).flatten ++ (reader.after before).rest = reader.rest
  /-- The read gives what comes next. -/
  next : ∀ chunk next, (reader.after before).read room = (some chunk, next) →
    (reader.chunks before).flatten ++ chunk ++ next.rest = reader.rest
  /-- It gives no more than there is room for, and no more than the chunk size. -/
  bounded : ∀ chunk next, (reader.after before).read room = (some chunk, next) →
    chunk.length ≤ room ∧ chunk.length ≤ 16384
  /-- It gives no bytes only when the whole body has been given. -/
  whole : ∀ next, 0 < room → (reader.after before).read room = (some [], next) →
    (reader.chunks before).flatten = reader.rest
  /-- The first read that is answered ends the opening, and nothing else changes the phase. -/
  phase : (reader.after before).phase =
    if reader.phase = .opening ∧ answered before ≠ [] then .transferring else reader.phase
  /-- The reads that are answered are those before the first cancellation. -/
  answers : (reader.chunks before).length = (answered before).length
  /-- A read is refused if there was a cancellation before it, and then changes nothing. -/
  refused : (reader.after before).read room = (none, reader.after before) ↔ .cancel ∈ before
  /-- Whatever happens after a cancellation gives no bytes. -/
  stopped : ∀ later, reader.chunks (before ++ .cancel :: later) = reader.chunks before

/-- A body is streamed, whatever the room for each read and wherever a cancellation comes in. The
chunks up to a read and the rest of the body are always the whole, by induction on the turns, and
the other fields follow from what one read does. -/
theorem isStreamed (uncancelled : reader.cancelled = false) (before : List Turn) (room : Nat) :
    reader.IsStreamed before room := by
  have contiguous := reader.flatten_chunks before
  have asked := reader.after_cancelled before
  rw [uncancelled, Bool.false_or] at asked
  obtain ⟨answers, phase⟩ := progress_of_uncancelled uncancelled before
  -- What an answered read gives, once for all fields about it.
  have given {chunk next} (answer : (reader.after before).read room = (some chunk, next)) :
      chunk = (reader.after before).rest.take (min room chunkSize) ∧
        next.rest = (reader.after before).rest.drop (min room chunkSize) := by
    rw [read_of_uncancelled (uncancelled_of_read answer)] at answer
    cases answer
    exact ⟨rfl, rfl⟩
  refine ⟨contiguous, ?next, ?bounded, ?whole, phase, answers, ?refused, chunks_cancel _ before⟩
  case next =>
    intro chunk next answer
    obtain ⟨rfl, rest⟩ := given answer
    rw [rest, List.append_assoc, List.take_append_drop]
    exact contiguous
  case bounded =>
    intro chunk next answer
    obtain ⟨rfl, -⟩ := given answer
    rw [List.length_take, chunkSize]
    omega
  case whole =>
    intro next roomy answer
    have delivered : (reader.after before).rest = [] := by
      rcases List.take_eq_nil_iff.1 (given answer).1.symm with roomless | delivered
      · rw [chunkSize] at roomless
        omega
      · exact delivered
    rw [delivered, List.append_nil] at contiguous
    exact contiguous
  case refused =>
    constructor
    · intro refusal
      cases cancelled : (reader.after before).cancelled with
      | true => exact of_decide_eq_true (asked.symm.trans cancelled)
      | false =>
        rw [read_of_uncancelled cancelled] at refusal
        cases refusal
    · intro cancellation
      exact read_of_cancelled (asked.trans (decide_eq_true cancellation)) room

end BodyReader

/-- A read of a body to receive that is not the last one. It gives some bytes or is interrupted.
That it gives at least one is part of it: none would mean the end. -/
inductive Read where
  | bytes (chunk : Bytes) (some : chunk ≠ [])
  | interruption

/-- The bytes that a read gives. -/
def Read.given : Read → Bytes
  | bytes chunk _ => chunk
  | interruption => []

/-- A read, as an operation meets it. Behind an interruption the operation simply reads again. -/
def Read.event : Read → Event
  | bytes chunk _ => .arrive chunk
  | interruption => .interrupt

namespace Flight

variable {flight : Flight}

/-- A read of the body to send moves an operation as it moves the reader. So what is shown of
readers holds of what is sent. -/
theorem step_pull {body : Bytes} (sending : flight.stage = .sending body)
    (uncancelled : flight.request.cancelled = false) (room : Nat) :
    let reader := (BodyReader.read ⟨body, flight.request.phase, false⟩ room).2
    flight.step (.pull room) =
      { flight with
        request := { flight.request with phase := reader.phase }
        stage := .sending reader.rest } := by
  obtain ⟨⟨registration, endpoint, phase, called⟩, operation, stage⟩ := flight
  cases sending
  cases uncancelled
  rfl

/-- An operation that sends a body stands where its reader does, by induction on the reads. -/
theorem run_pulls {body : Bytes} (sending : flight.stage = .sending body)
    (uncancelled : flight.request.cancelled = false) (rooms : List Nat) :
    let reader := BodyReader.after ⟨body, flight.request.phase, false⟩ (rooms.map .read)
    flight.run (rooms.map .pull) =
      { flight with
        request := { flight.request with phase := reader.phase }
        stage := .sending reader.rest } := by
  induction rooms generalizing flight body with
  | nil =>
    obtain ⟨request, operation, stage⟩ := flight
    cases sending
    rfl
  | cons room rooms ih =>
    change (flight.step (.pull room)).run (rooms.map .pull) = _
    rw [step_pull sending uncancelled]
    exact ih rfl uncancelled

/-- A read that is not the last one adds what it gives to what has been read. An interruption adds
nothing. -/
theorem step_read {metadata : Metadata} {body : Bytes}
    (receiving : flight.stage = .receiving metadata body)
    (uncancelled : flight.request.cancelled = false) (read : Read) :
    flight.step read.event = { flight with stage := .receiving metadata (body ++ read.given) } := by
  obtain ⟨request, operation, stage⟩ := flight
  cases receiving
  have onwards (next : Stage) :
      proceed ⟨request, operation, .receiving metadata body⟩ next = ⟨request, operation, next⟩ :=
    if_neg (Bool.not_eq_true _ ▸ uncancelled)
  cases read with
  | interruption =>
    refine (onwards _).trans ?_
    rw [Read.given, List.append_nil]
  | bytes chunk some =>
    cases chunk with
    | nil => exact absurd rfl some
    | cons byte chunk => exact onwards _

/-- An operation has read what its reads gave, one after the other, by induction on the reads. -/
theorem run_reads {metadata : Metadata} {body : Bytes}
    (receiving : flight.stage = .receiving metadata body)
    (uncancelled : flight.request.cancelled = false) (reads : List Read) :
    flight.run (reads.map Read.event) =
      { flight with stage := .receiving metadata (body ++ reads.flatMap Read.given) } := by
  induction reads generalizing flight body with
  | nil =>
    obtain ⟨request, operation, stage⟩ := flight
    cases receiving
    rw [List.flatMap_nil, List.append_nil]
    rfl
  | cons read reads ih =>
    change (flight.step read.event).run (reads.map Read.event) = _
    rw [step_read receiving uncancelled, List.flatMap_cons, ← List.append_assoc]
    exact ih rfl uncancelled

/-- An end or a failure of the body decides the result, whatever comes later. Later events find the
operation over. -/
theorem stage_run_concluded {phase : Phase} {result : Except Fault Bytes}
    (uncancelled : flight.request.cancelled = false) (later : List Event) :
    ((flight.conclude phase result).run later).stage = .finished result := by
  have concluded : flight.conclude phase result = flight.finish phase result :=
    if_neg (Bool.not_eq_true _ ▸ uncancelled)
  have ended : (flight.finish phase result).result? ≠ none := by
    cases result <;> exact nofun
  rw [concluded, run_of_ended ended]
  rfl

/-- The head of an answer with the status of success leads to the body, whatever its header lines
say. -/
theorem step_respond_get {buffer body : Bytes} (reading : flight.operation = .get buffer)
    (sending : flight.stage = .sending body) (uncancelled : flight.request.cancelled = false)
    (lines : List HeaderLine) :
    flight.step (.respond 200 lines) =
      { flight with
        request := { flight.request with phase := .receiving }
        stage := .receiving (Metadata.ofLines 200 lines) [] } := by
  obtain ⟨request, operation, stage⟩ := flight
  cases reading
  cases sending
  change respond _ 200 lines = _
  unfold respond
  dsimp only
  rw [Metadata.status_ofLines, if_neg fun other => other rfl]
  exact if_neg (Bool.not_eq_true _ ▸ uncancelled)

end Flight

/-- Bodies are streamed without regard to where they are cut. What is sent is the body from its
front, chunk after chunk, for any rooms and up to any cancellation; and an operation that sends it
stands where such a reader does, so nothing else of it depends on the rooms. What is received behind
an answer, whatever the answer says about the size, is what the reads gave if the body comes to its
end, and the first failure otherwise; interruptions do not count. -/
theorem streaming_ignores_chunking {request : Request} (uncancelled : request.cancelled = false)
    (buffer sent : Bytes) (lines : List HeaderLine) (reads : List Read) (later : List Event) :
    (∀ body start before room, BodyReader.IsStreamed ⟨body, start, false⟩ before room) ∧
      (∀ (operation : Operation) (rooms : List Nat),
        let reader := BodyReader.after ⟨sent, request.phase, false⟩ (rooms.map .read)
        Flight.run ⟨request, operation, .sending sent⟩ (rooms.map .pull) =
          ⟨{ request with phase := reader.phase }, operation, .sending reader.rest⟩) ∧
      let flight : Flight := ⟨request, .get buffer, .sending sent⟩
      let received := .respond 200 lines :: reads.map Read.event
      (flight.run (received ++ .arrive [] :: later)).stage =
          .finished (.ok (reads.flatMap Read.given)) ∧
        ∀ detail, (flight.run (received ++ .breakOff detail :: later)).stage =
          .finished (.error (.transport detail)) := by
  refine ⟨fun _ _ => BodyReader.isStreamed rfl,
    fun _ rooms => Flight.run_pulls rfl uncancelled rooms, ?_⟩
  intro flight received
  have read (ending : List Event) : flight.run (received ++ ending) =
      Flight.run ⟨{ request with phase := .receiving }, .get buffer,
        .receiving (Metadata.ofLines 200 lines) (reads.flatMap Read.given)⟩ ending := by
    rw [Flight.run_append]
    change ((flight.step (.respond 200 lines)).run (reads.map Read.event)).run ending = _
    rw [Flight.step_respond_get rfl rfl uncancelled, Flight.run_reads rfl uncancelled]
    rfl
  constructor
  · rw [read]
    exact Flight.stage_run_concluded uncancelled later
  · intro detail
    rw [read]
    exact Flight.stage_run_concluded uncancelled later

/-- An object that comes in two reads and an interruption is received although the answer states
another size, and a reset between the reads is what the operation fails with. -/
theorem streaming_of_misstated_size :
    let request : Request := ⟨Client.localRegistration, some "http://localhost", false, .opening⟩
    let flight : Flight := ⟨request, .get [], .sending []⟩
    let head : Event := .respond 200 [⟨"Content-Length", "9"⟩]
    request.cancelled = false ∧
      (flight.run [head, .arrive [1, 2], .interrupt, .arrive [3], .arrive []]).stage =
        .finished (.ok [1, 2, 3]) ∧
      (flight.run [head, .arrive [1, 2], .breakOff "reset", .arrive [3]]).stage =
        .finished (.error (.transport "reset")) := by
  intro request flight head
  have uncancelled : request.cancelled = false := rfl
  have whole := (streaming_ignores_chunking uncancelled [] [] [⟨"Content-Length", "9"⟩]
    [.bytes [1, 2] (by decide), .interruption, .bytes [3] (by decide)] []).2.2.1
  have part := (streaming_ignores_chunking uncancelled [] [] [⟨"Content-Length", "9"⟩]
    [.bytes [1, 2] (by decide)] [.arrive [3]]).2.2.2 "reset"
  exact ⟨uncancelled, whole, part⟩

end PreviewSync.Store
