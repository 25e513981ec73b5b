import PreviewSync.Proofs.Store.Location
import PreviewSync.Proofs.Store.Registry
import PreviewSync.Proofs.Sync.Scene

/-!
# Where the requests of a run go

All that a run asks the client for are requests for names that somebody is concerned with: the
owner, the session, the watcher or a batch. So when the names are known to stand for one kind of
frame only, no request of the run goes anywhere else.

## Main Definitions

* `address` — the address of the preview of a photo, with `address_eq_iff`
* `Label.Keeps` — the names that a label brings in, and what they stand for
* `Machine.KeptTo` — every request has a frame of some kind, with `Machine.KeptTo.step`
* `Scene.dispatch_of_exchange` — what is on the wire for an item
-/

namespace PreviewSync.Sync

open Store (Client Dispatch Flight Registration Request)

/-- The address of the preview of a photo at a destination. Neither the name of the destination nor
the credentials have anything to do with it. -/
def address (endpoint : Option String) (destination : Destination) (key : String) : String :=
  Request.url { registration := { (default : Registration) with destination }, endpoint }
    (objectKey key)

/-- At one destination, two photos share an address iff their keys are the same behind their slashes
in front. -/
theorem address_eq_iff {endpoint : Option String} {destination : Destination}
    {key other : String} :
    address endpoint destination key = address endpoint destination other ↔
      Text.trimStart Text.isSlash key = Text.trimStart Text.isSlash other :=
  Request.url_objectKey_eq_iff _

/-- At one destination with a plain base, two photos without dot segments in their object paths are
sent to one target iff their keys are the same behind their slashes in front. -/
theorem read?_address_eq_iff {endpoint : Option String} {destination : Destination}
    {key other : String} (plain : Store.IsPlainBase endpoint destination.bucket)
    (noDots : ¬ Wire.HasDots (destination.objectPath (objectKey key)))
    (noDots' : ¬ Wire.HasDots (destination.objectPath (objectKey other))) {reached : Wire.Address}
    (read : Wire.Address.read? (address endpoint destination key) = some reached) :
    Wire.Address.read? (address endpoint destination other) = some reached ↔
      Text.trimStart Text.isSlash other = Text.trimStart Text.isSlash key := by
  let request : Request :=
    { registration := { (default : Registration) with destination }, endpoint }
  rw [← trimStart_objectKey_eq_iff]
  exact @Request.read?_url_eq_iff _ _ request plain noDots noDots' reached read

/-- An item changes nothing about the registry of the client. It only takes requests from the client
and gives them back. -/
theorem Stage.Move.client {config : Config} {item : Item} {s s' : Shared} {stage : Stage}
    {answer : Answer} {progress : Progress} (h : Move config item s stage answer s' progress) :
    s'.client.registrations = s.client.registrations ∧ s'.client.endpoint = s.client.endpoint := by
  cases h with
  | create made => exact (Client.frame_of_create made).2
  | @record trouble =>
    rcases record_cases item s trouble with ⟨fault, same⟩ | ⟨_, _, _, -, same⟩ <;> rw [same] <;>
      exact ⟨rfl, rfl⟩
  | _ => exact ⟨rfl, rfl⟩

/-- A worker stays with its destination, and with the items that it was given. Both are given to it
when it is started, and there is no later word from the session. -/
theorem Worker.kept_of_step {config : Config} {s s' : Shared} {w w' : Worker} {answer : Answer}
    (h : w.step config s answer = some (s', w')) :
    w'.destination = w.destination ∧ w'.pending ⊆ w.pending ∧
      s'.client.registrations = s.client.registrations ∧
      s'.client.endpoint = s.client.endpoint := by
  rcases step_cases h with
    ⟨-, rfl, rfl⟩ | ⟨stage, key, action, rest, progress, -, pending, moved, rfl⟩
  · have kept : (w.choose s'.cancel).destination = w.destination ∧
        (w.choose s'.cancel).pending ⊆ w.pending := by
      unfold choose
      split
      · exact ⟨rfl, List.Subset.refl _⟩
      · rename_i pending
        split
        · exact ⟨rfl, List.Subset.refl _⟩
        · split
          · exact ⟨rfl, List.Subset.refl _⟩
          · exact ⟨rfl, by rw [pending]; exact List.subset_cons_self _ _⟩
    exact ⟨kept.1, kept.2, rfl, rfl⟩
  · have kept : (w.advance key action rest progress).destination = w.destination ∧
        (w.advance key action rest progress).pending ⊆ w.pending := by
      have shorter : rest ⊆ w.pending := by
        rw [pending]
        exact List.subset_cons_self _ _
      cases progress with
      | reached | broken => exact ⟨rfl, List.Subset.refl _⟩
      | done => exact ⟨rfl, shorter⟩
      | failed fault =>
        cases fault <;> first | exact ⟨rfl, shorter⟩ | exact ⟨rfl, List.Subset.refl _⟩
    exact ⟨kept.1, kept.2, moved.client⟩

namespace Machine

variable {m m' : Machine} {label : Label} {result : Option Return}

/-- What a name stands for after a step: what it stood for before, or what it is registered as. -/
theorem Transition.client_cases (h : m.Transition label m' result) :
    m'.hub.client.endpoint = m.hub.client.endpoint ∧
      ∀ name registration, m'.hub.client.find? name = some registration →
        m.hub.client.find? name = some registration ∨
          ∃ profile destination, label = .register name profile destination ∧
            registration = ⟨name, profile, destination⟩ := by
  cases h with
  | pass _ moved | watch _ moved => cases moved <;> exact ⟨rfl, fun _ _ found => .inl found⟩
  | cancel =>
    show (m.hub.cancelPublished).client.endpoint = _ ∧ ∀ name registration,
      (m.hub.cancelPublished).client.find? name = some registration → _
    unfold Hub.cancelPublished
    split <;> exact ⟨rfl, fun _ _ found => .inl found⟩
  | work found stepped =>
    obtain ⟨-, -, registrations, endpoint⟩ := Worker.kept_of_step stepped
    refine ⟨endpoint, fun name registration there => .inl ?_⟩
    rw [Client.find?, registrations] at there
    exact there
  | register registered =>
    refine ⟨Client.endpoint_of_register registered, fun name registration found => ?_⟩
    rcases Client.find?_of_register registered found with before | ⟨rfl, rfl⟩
    · exact .inl before
    · exact .inr ⟨_, _, rfl, rfl⟩
  | unregister => exact ⟨rfl, fun name registration found => .inl (Client.find?_of_remove found)⟩
  | _ => exact ⟨rfl, fun _ _ found => .inl found⟩

/-- The owner turns to a destination that it begins a session for, or to that of its session. A pass
that is asked for by a call is for the destination of the session. -/
theorem Transition.owner_cases (h : m.Transition label m' result) {name : String}
    (concerned : m'.owner.destination? = some name) :
    m.owner.destination? = some name ∨ (∃ file, label = .call (.begin file name)) ∨
      ∃ session, m.session = some session ∧ session.destination = name := by
  cases h with
  | wander before after begins aim => exact aim name concerned
  | load atLoad loaded next =>
    rcases next with rfl | rfl
    · rw [atLoad]
      exact .inl concerned
    · cases concerned
  | arm atArm =>
    rw [atArm]
    exact .inl concerned
  | @pass destination pass answer hub progress atPass moved =>
    rw [atPass]
    cases progress with
    | reached => exact .inl concerned
    | ended => cases concerned
  | leave | take | findNothing | join | halt | raise | cancel => cases concerned
  | _ => exact .inl concerned

/-- A session is for the destination that the owner has turned to. It is entered at the end of the
call that begins it, under the name that the call has brought. -/
theorem Transition.session_cases (h : m.Transition label m' result) {session : Session}
    (running : m'.session = some session) :
    m.session = some session ∨ m.owner.destination? = some session.destination := by
  cases h with
  | arm atArm =>
    cases running
    rw [atArm]
    exact .inr rfl
  | leave => cases running
  | _ => exact .inl running

/-- A watcher is for the destination of its session. It keeps the name, and not what the name stood
for. -/
theorem Transition.watching_cases (h : m.Transition label m' result) {watching : Watching}
    (watched : m'.watching = some watching) :
    (∃ before, m.watching = some before ∧ before.destination = watching.destination) ∨
      m.owner.destination? = some watching.destination := by
  cases h with
  | arm atArm =>
    cases watched
    rw [atArm]
    exact .inr rfl
  | halt => cases watched
  | poll before | watch before =>
    cases watched
    exact .inl ⟨_, before, rfl⟩
  | _ => exact .inl ⟨watching, watched, rfl⟩

end Machine

/-- The names that a label brings in are of concern, and it has them stand for frames of some kind
only. Names enter a machine by calls and by registrations, and by nothing else. -/
def Label.Keeps (concern : String → Prop) (kind : Registration × Option String → Prop)
    (endpoint : Option String) : Label → Prop
  | .call (.begin _ name) => concern name
  | .register name profile destination =>
    concern name → kind (⟨name, profile, destination⟩, endpoint)
  | _ => True

/-- Whatever a name stands for, its frame is below the endpoint. The endpoint belongs to the client,
and registering changes nothing about it. -/
theorem Label.keeps_endpoint (label : Label) (endpoint : Option String) :
    label.Keeps (fun _ => True) (fun frame => frame.2 = endpoint) endpoint := by
  cases label with
  | call call => cases call <;> trivial
  | register => exact fun _ => rfl
  | _ => trivial

namespace Machine

/-- Everybody is concerned with names of concern only, which stand for frames of some kind, and all
requests that are held have such a frame. A request keeps its frame when its name is registered
again, so the two have to be said apart. -/
structure KeptTo (concern : String → Prop) (kind : Registration × Option String → Prop)
    (endpoint : Option String) (m : Machine) : Prop where
  located : m.hub.client.endpoint = endpoint
  known : ∀ name registration, concern name → m.hub.client.find? name = some registration →
    kind (registration, endpoint)
  owner : ∀ name, m.owner.destination? = some name → concern name
  session : ∀ session, m.session = some session → concern session.destination
  watching : ∀ watching, m.watching = some watching → concern watching.destination
  workers : ∀ number worker, m.hub.batch? number = some worker →
    concern worker.destination ∧ worker.AtWork fun _ _ stage => stage.BoundTo kind

namespace KeptTo

variable {concern : String → Prop} {kind : Registration × Option String → Prop}
  {endpoint : Option String} {m m' : Machine} {label : Label} {result : Option Return}

theorem make {config : Config} {client : Client} {cache : Cache} {disk : Disk}
    (known : ∀ name registration, concern name → client.find? name = some registration →
      kind (registration, client.endpoint)) :
    (Machine.make config client cache disk).KeptTo concern kind client.endpoint where
  located := rfl
  known := known
  owner name concerned := by cases concerned
  session session running := by cases running
  watching watching watched := by cases watched
  workers number worker found := by simp [Machine.make, Hub.make, Hub.batch?] at found

/-- A request that is made has a frame of the kind. The name is looked up when the request is made,
not when the batch is started. -/
theorem frame_of_create (h : m.KeptTo concern kind endpoint) {name : String} (of : concern name)
    {client : Client} {request : Request}
    (made : m.hub.client.create name = .ok (client, request)) : kind request.frame := by
  obtain ⟨⟨registration, found, same⟩, -⟩ := Client.frame_of_create made
  rw [same, h.located]
  exact h.known name registration of found

/-- A batch that is about to be started is one of concern. -/
theorem of_launching (h : m.KeptTo concern kind endpoint) {destination : String}
    {actions : List (String × Action)} (launching : m.Launching destination actions) :
    concern destination := by
  rcases launching with atPass | ⟨watcher, atPass⟩
  · exact h.owner destination (by rw [atPass]; rfl)
  · exact h.watching _ atPass

/-- Every step keeps to the names of concern and to the kind of frames. Whoever turns to a
destination has it from somebody who was concerned with it before, or from a call. -/
theorem step (h : m.KeptTo concern kind endpoint) (keeps : label.Keeps concern kind endpoint)
    (moved : m.Transition label m' result) : m'.KeptTo concern kind endpoint := by
  obtain ⟨sameEndpoint, stands⟩ := moved.client_cases
  refine ⟨sameEndpoint.trans h.located, ?_, ?_, ?_, ?_, ?_⟩
  · intro name registration of found
    rcases stands name registration found with before | ⟨profile, destination, rfl, rfl⟩
    · exact h.known name registration of before
    · exact keeps of
  · intro name concerned
    rcases moved.owner_cases concerned with before | ⟨file, rfl⟩ | ⟨session, running, rfl⟩
    · exact h.owner name before
    · exact keeps
    · exact h.session session running
  · intro session running
    rcases moved.session_cases running with before | begun
    · exact h.session session before
    · exact h.owner _ begun
  · intro watching watched
    rcases moved.watching_cases watched with ⟨before, there, same⟩ | begun
    · rw [← same]
      exact h.watching before there
    · exact h.owner _ begun
  · intro number worker found
    -- A batch from before keeps its destination, and a new one has that of its pass.
    cases moved.origin found with
    | kept before => exact h.workers number worker before
    | @cancelled worker before =>
      obtain ⟨of, bound⟩ := h.workers number worker before
      obtain ⟨point, same⟩ := worker.cancel_eq
      exact ⟨by rw [same]; exact of, bound.cancel fun _ _ _ => Stage.boundTo_cancel⟩
    | stepped _ before worked =>
      obtain ⟨of, bound⟩ := h.workers number _ before
      obtain ⟨sameDestination, -⟩ := Worker.kept_of_step worked
      refine ⟨by rw [sameDestination]; exact of, bound.step worked ?_ ?_⟩
      · intro key action stage early
        exact Stage.boundTo_of_isEarly (.inl early)
      · intro key action rest stage next atWork pending move here
        exact move.boundTo here (fun client request made => h.frame_of_create of made) rfl
    | launched launching =>
      refine ⟨h.of_launching launching, ?_⟩
      rintro _ _ _ _ ⟨⟩

end KeptTo

end Machine

namespace Scene

variable {scene scene' : Scene} {concern : String → Prop}
  {kind : Registration × Option String → Prop} {endpoint : Option String}

/-- Every cue keeps to the names of concern and to the kind of frames. -/
theorem keptTo_of_step (h : scene.machine.KeptTo concern kind endpoint) {cue : Cue}
    {result : Option Return}
    (keeps : ∀ label, cue = .step label → label.Keeps concern kind endpoint)
    (stepped : scene.step cue = some (scene', result)) :
    scene'.machine.KeptTo concern kind endpoint := by
  rcases step_cases stepped with
    ⟨label, machine, same, -, moved, rfl⟩ | ⟨_, -, -, rfl⟩ | ⟨_, _, _, _, -, -, -, rfl⟩
  · exact h.step (keeps label same) moved
  · exact h
  · exact h

/-- What is on the wire for an item: the request of its action for its own object, in a frame of the
kind. With it, what is said of frames is said of what a store gets to see. -/
theorem dispatch_of_exchange (sound : scene.IsSound)
    (kept : scene.machine.KeptTo concern kind endpoint) {number : Nat} {key : String}
    {dispatch : Dispatch} {flight : Flight}
    (exchange : scene.exchange? number = some (key, some dispatch, flight)) :
    kind flight.request.frame ∧ (dispatch.verb = .put ∨ dispatch.verb = .delete) ∧
      dispatch.url =
        address flight.request.endpoint flight.request.registration.destination key := by
  obtain ⟨worker, action, rest, found, atWork, pending⟩ := exchange?_eq_some exchange
  obtain ⟨-, bound⟩ := kept.workers number worker found
  obtain ⟨verb, url⟩ := (sound.launched _ _ found _ _ _ _ atWork pending).2 dispatch rfl
  refine ⟨bound _ _ _ _ atWork pending _ rfl, ?_, url⟩
  rw [verb]
  rcases suits_of_sound (sound.sound _ _ found) _ _ _ _ atWork pending with
    ⟨isPut, -⟩ | ⟨isDelete, -⟩
  · exact .inl isPut
  · exact .inr isDelete

end Scene

end PreviewSync.Sync
