import PreviewSync.Store.Request

/-!
# Operations

An operation is driven by events: what the transport does, and requests for cancellation, which may
come at any time. Cancellation is looked at before the start, before each read of the body to send,
around each read of the body to receive, and at the end; wherever it is seen it wins over any other
result.

## Main Definitions

* `Store.Operation` — the four operations
* `Store.BodyReader.read` — one read of the body to send
* `Store.Event` — what may happen to an operation
* `Store.Flight` — an operation under way
* `Store.Request.start` — the beginning of an operation
* `Store.Flight.step`, `Store.Flight.run` — the effect of events
* `Store.Outcome` — what the caller of a finished operation sees
-/

namespace PreviewSync.Store

/-- The four operations. Reading an object is given the present content of its output, because the
output must be empty at the start and is left as it is by a failure. -/
inductive Operation where
  | head
  | get (output : Bytes)
  | put (payload : Payload)
  | delete
deriving Repr, DecidableEq

namespace Operation

/-- The verb of an operation. -/
def verb : Operation → Verb
  | head => .head
  | get _ => .get
  | put _ => .put
  | delete => .delete

/-- The body that an operation sends. Only storing an object sends one, which may be empty. -/
def payload : Operation → Option Payload
  | put payload => some payload
  | _ => none

/-- The type of a body that is sent without stating one. -/
def defaultContentType : String :=
  "application/octet-stream"

/-- The content of the output before the operation; only reading has an output. -/
def output : Operation → Bytes
  | get output => output
  | _ => []

end Operation

/-- The status that means success. There is one for each verb, and any other is a fault, also when
it would mean some success. -/
def expectedStatus : Verb → UInt16
  | .delete => 204
  | _ => 200

/-- The most bytes that one read of a body gives. A transport with more room gets less than it asked
for, and looks for a cancellation the more often. -/
def chunkSize : Nat :=
  16384

/-- The reader of the body to send. The phase and the wish for cancellation are those of the request
that the body is sent for: reading is what notices that the transfer has begun, and what stops it.
-/
structure BodyReader where
  /-- What is still to be sent. -/
  rest : Bytes
  phase : Phase
  cancelled : Bool
deriving Repr, DecidableEq

/-- One read with room for some bytes. The first one moves the request on; a cancellation stops all
that follow. -/
def BodyReader.read (reader : BodyReader) (room : Nat) : Option Bytes × BodyReader :=
  if reader.cancelled then (none, reader)
  else
    let (chunk, rest) := reader.rest.splitAt (min room chunkSize)
    let phase := if reader.phase = .opening then .transferring else reader.phase
    (some chunk, { reader with rest, phase })

/-- What may happen to an operation. What the transport does is left open, and so is when somebody
asks for cancellation, so a statement about all lists of events is one about every server and every
time to cancel. -/
inductive Event where
  /-- Somebody asks for cancellation. -/
  | cancel
  /-- The transport reads from the body to send, with room for some bytes. -/
  | pull (room : Nat)
  /-- The transport gives up before any response. -/
  | fail (detail : String)
  /-- The head of a response arrives. -/
  | respond (status : UInt16) (lines : List HeaderLine)
  /-- A read of the response body gives bytes; none mean its end. -/
  | arrive (chunk : Bytes)
  /-- A read of the response body is interrupted and will be repeated. -/
  | interrupt
  /-- A read of the response body fails. -/
  | breakOff (detail : String)
deriving Repr, DecidableEq

/-- How far an operation has come. It knows what the phase of the request does not tell, which is
the bytes that are still to be sent and those that were received. -/
inductive Stage where
  /-- Waiting for a response; some of the body is still to be sent. -/
  | sending (rest : Bytes)
  /-- Reading the response body. -/
  | receiving (metadata : Metadata) (body : Bytes)
  /-- Over; a success holds the body that was read. -/
  | finished (result : Except Fault Bytes)

/-- An operation under way. The request is part of it, since a cancellation may come at any moment
and has to be seen at the next stage. -/
structure Flight where
  request : Request
  operation : Operation
  stage : Stage

namespace Flight

/-- The operation is over: the request changes its phase and there is a result. -/
def finish (f : Flight) (phase : Phase) (result : Except Fault Bytes) : Flight :=
  { f with request := { f.request with phase }, stage := .finished result }

/-- The operation is over because of a cancellation. Whatever it has come to is dropped, even a
fault. -/
def finishCancelled (f : Flight) : Flight :=
  f.finish .cancelled (.error .cancelled)

/-- The operation is over, by a cancellation if one was asked for. Every end that a response or a
transport brings about goes through here, so that none of them wins over a cancellation. -/
def conclude (f : Flight) (phase : Phase) (result : Except Fault Bytes) : Flight :=
  if f.request.cancelled then f.finishCancelled else f.finish phase result

/-- The operation goes on, unless a cancellation was asked for. A change of stage goes through here
or ends the operation, so none can forget to look. -/
def proceed (f : Flight) (stage : Stage) : Flight :=
  if f.request.cancelled then f.finishCancelled else { f with stage }

/-- A read of the body to send. -/
def pull (f : Flight) (room : Nat) (rest : Bytes) : Flight :=
  match BodyReader.read ⟨rest, f.request.phase, f.request.cancelled⟩ room with
  | (none, _) => f.finishCancelled
  | (some _, reader) =>
    { f with request := { f.request with phase := reader.phase }, stage := .sending reader.rest }

/-- The head of a response. An unexpected status ends the operation, and so does an expected one
unless there is a body to read. The status is judged before anything of the body is read, so the
body of an error is left alone. -/
def respond (f : Flight) (status : UInt16) (lines : List HeaderLine) : Flight :=
  let metadata := Metadata.ofLines status lines
  let f := { f with request := { f.request with phase := .receiving } }
  let verb := f.operation.verb
  if metadata.status ≠ expectedStatus verb then
    f.conclude (.complete (some metadata))
      (.error (.unexpectedStatus verb (expectedStatus verb) metadata.status))
  else if verb = .get then f.proceed (.receiving metadata [])
  else f.conclude (.complete (some metadata)) (.ok [])

/-- The effect of an event. An event that cannot happen at this stage has no effect, which saves
every statement a condition on the order of events. -/
def step (f : Flight) (event : Event) : Flight :=
  match event, f.stage with
  | .cancel, _ => { f with request := f.request.cancel }
  | .pull room, .sending rest => f.pull room rest
  | .fail detail, .sending _ => f.conclude (.complete none) (.error (.transport detail))
  | .respond status lines, .sending _ => f.respond status lines
  | .arrive [], .receiving metadata body => f.conclude (.complete (some metadata)) (.ok body)
  | .arrive chunk, .receiving metadata body => f.proceed (.receiving metadata (body ++ chunk))
  | .interrupt, .receiving metadata body => f.proceed (.receiving metadata body)
  | .breakOff detail, .receiving metadata _ =>
    f.conclude (.complete (some metadata)) (.error (.transport detail))
  | _, _ => f

/-- The effect of several events. They may end before the operation does. -/
def run (f : Flight) (events : List Event) : Flight :=
  events.foldl step f

/-- The result of an operation that is over. What was read is no part of it: a caller finds that in
the output. -/
def result? (f : Flight) : Option (Except Fault Unit) :=
  match f.stage with
  | .finished (.ok _) => some (.ok ())
  | .finished (.error fault) => some (.error fault)
  | _ => none

/-- The content of the output: the body that was read once the operation has succeeded, and the
previous content before that or otherwise. The body is collected apart and handed over whole, so a
failure half way leaves nothing in the output. -/
def output (f : Flight) : Bytes :=
  match f.operation, f.stage with
  | .get _, .finished (.ok body) => body
  | operation, _ => operation.output

end Flight

namespace Request

/-- The beginning of an operation: a flight, and what is put on the wire. A request that is not idle
is left as it is, and so is one whose operation is refused; a cancellation that was asked for before
keeps everything off the wire. -/
def start (r : Request) (key : String) (operation : Operation) (now : Instant) :
    Flight × Option Dispatch :=
  let refuse (fault : Fault) : Flight × Option Dispatch :=
    (⟨r, operation, .finished (.error fault)⟩, none)
  if r.phase ≠ .idle then refuse (.notIdle r.state)
  else if !operation.output.isEmpty then refuse (.rejected .outputNotEmpty)
  else
    match r.prepare operation.verb key operation.payload now with
    | .error rejection => refuse (.rejected rejection)
    | .ok dispatch =>
      let body := (operation.payload.map (·.body)).getD []
      let f : Flight := ⟨{ r with phase := .opening }, operation, .sending body⟩
      if r.cancelled then (f.finishCancelled, none) else (f, some dispatch)

end Request

/-- What the caller of an operation sees when it is over: the request, the result, the output, and
what was put on the wire. The dispatch is there although the caller does not get it, so that
statements can speak of what was sent. -/
structure Outcome where
  request : Request
  result : Except Fault Unit
  output : Bytes
  dispatch : Option Dispatch

/-- A whole operation. An exchange that stops without a conclusion counts as a broken one, whether
it waits for a response or for more of a body; so every list of events has an outcome. -/
def Request.perform (r : Request) (key : String) (operation : Operation) (now : Instant)
    (events : List Event) : Outcome :=
  let (f, dispatch) := r.start key operation now
  let g := (f.run events).run [.fail "connection closed", .breakOff "connection closed"]
  { request := g.request
    result := g.result?.getD (.error (.transport "connection closed"))
    output := g.output
    dispatch := dispatch }

end PreviewSync.Store
