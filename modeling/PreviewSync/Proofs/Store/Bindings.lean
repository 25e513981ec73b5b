import PreviewSync.Proofs.Signature.Token
import PreviewSync.Proofs.Store.Lifecycle
import PreviewSync.Store.Profiles

/-!
# What requests are bound to

A client is used by many at once: destinations are registered, loaded and removed while requests are
made, used, released or leaked, and the client may be gone before its requests are. Beside it a book
is kept that knows nothing of lists and counters: what every name stands for, with what each request
was made, and which requests are still to be released. Whatever is done, the client answers as the
book has it.

## Main Definitions

* `Turn`, `Fleet`, `Fleet.run` — a client with its requests, and what is done to them
* `Book`, `Book.after` — what is written down about it
* `Client.Follows`, `Fleet.Follows` — the client and its requests are as the book has it
* `Fleet.bound_of_run` — so they are after every run
-/

namespace PreviewSync.Store

/-- What is done to a client and its requests. The requests have numbers in the order in which they
were made, so a turn can speak of a request that is gone, and then cannot be taken. -/
inductive Turn where
  | register (identifier : String) (profile : AccessProfile) (destination : Destination)
  | remove (identifier : String)
  | removeAll
  /-- A profiles document with some content is loaded. -/
  | load (content : Except Disk.Fault Bytes)
  | create (identifier : String)
  /-- A request is released. -/
  | free (number : Nat)
  /-- A request is given up without being released. -/
  | leak (number : Nat)
  | call (number : Nat) (call : Call)
  /-- The client is given up. -/
  | drop

/-! ### The client and its requests -/

/-- A client after a registration; a refusal changes nothing. It makes a registration an effect that
can always be taken. -/
def Client.registered (client : Client) (identifier : String) (profile : AccessProfile)
    (destination : Destination) : Client :=
  match client.register identifier profile destination with
  | .ok client => client
  | .error _ => client

/-- A client with the requests that it has made. A request that was released or leaked is gone. The
client cannot tell one from the other: it counts what was made and what came back. -/
structure Fleet where
  client : Client
  isOpen : Bool := true
  requests : List (Option Request) := []

namespace Fleet

/-- A client that has made no request yet. -/
def start (config : Config) : Fleet :=
  { client := Client.ofConfig config }

/-- A request that is not gone. Numbers are not given again, so a request that is gone is never
taken for another one. -/
def request? (fleet : Fleet) (number : Nat) : Option Request :=
  fleet.requests[number]?.join

/-- What is done to a client, as long as it is there. Afterwards nothing can be done with it, which
is what giving it up means. -/
def use (fleet : Fleet) (f : Client → Client) : Option Fleet :=
  if fleet.isOpen then some { fleet with client := f fleet.client } else none

/-- A new request, if the name is registered. A name that is not has no effect. -/
def create (fleet : Fleet) (identifier : String) : Option Fleet :=
  if fleet.isOpen then
    match fleet.client.create identifier with
    | .ok (client, request) =>
      some { fleet with client, requests := fleet.requests ++ [some request] }
    | .error _ => some fleet
  else none

/-- The effect of a turn. There is none when the client or the request is gone. A run stops where a
caller would have nothing left to call. -/
def step (fleet : Fleet) : Turn → Option Fleet
  | .register identifier profile destination =>
    fleet.use (·.registered identifier profile destination)
  | .remove identifier => fleet.use (·.remove identifier)
  | .removeAll => fleet.use Client.removeAll
  | .load content => fleet.use fun client => (client.loadProfiles content).client
  | .create identifier => fleet.create identifier
  | .free number =>
    (fleet.request? number).map fun _ =>
      { fleet with client := fleet.client.release, requests := fleet.requests.set number none }
  | .leak number =>
    (fleet.request? number).map fun _ =>
      { fleet with requests := fleet.requests.set number none }
  | .call number call =>
    (fleet.request? number).map fun request =>
      { fleet with requests := fleet.requests.set number (some (request.apply call)) }
  | .drop => if fleet.isOpen then some { fleet with isOpen := false } else none

/-- The effect of several turns. Clients and requests may be used in any order. -/
def run (fleet : Fleet) (turns : List Turn) : Option Fleet :=
  turns.foldlM step fleet

end Fleet

/-! ### The book -/

/-- What an entry of a profiles document stands for, if it is complete. -/
def ProfilesDocument.meaning? (document : ProfilesDocument) (entry : DestinationEntry) :
    Option (AccessProfile × Destination) := do
  let bucket ← entry.bucket
  let keyPrefix ← entry.keyPrefix
  let profile ← document.profile? (← entry.profile)
  some (profile, ⟨bucket, keyPrefix⟩)

/-- What every name stands for, with what each request was made, and the numbers of the requests
that are still to be released. It is kept by the turns alone, without a client, so a statement in
its terms says what a client does without saying how. -/
structure Book where
  bound : String → Option (AccessProfile × Destination) := fun _ => none
  made : List Registration := []
  outstanding : List Nat := []

namespace Book

/-- A name stands for something else from now on. Requests that were made before are not concerned.
-/
def bind (book : Book) (identifier : String) (meaning : Option (AccessProfile × Destination)) :
    Book :=
  { book with bound := fun name => if name = identifier then meaning else book.bound name }

/-- What may be registered: something that is complete, under a name that is free. Which of the
conditions is looked at first shows in the fault only. -/
def Admits (book : Book) (identifier : String) (profile : AccessProfile)
    (destination : Destination) : Prop :=
  profile.keyId ≠ "" ∧ profile.secret ≠ "" ∧ destination.bucket ≠ "" ∧
    book.bound identifier = none

instance (book : Book) (identifier : String) (profile : AccessProfile) (destination : Destination) :
    Decidable (book.Admits identifier profile destination) :=
  inferInstanceAs (Decidable (_ ∧ _))

/-- A name is bound, if it may be. A name that stands for something is not bound anew: it has to be
removed first. -/
def register (book : Book) (identifier : String) (profile : AccessProfile)
    (destination : Destination) : Book :=
  if book.Admits identifier profile destination then
    book.bind identifier (some (profile, destination))
  else book

/-- An entry of a profiles document is bound, if it is complete. Otherwise the book stays as it is,
and so does everything else. -/
def enter (document : ProfilesDocument) (book : Book) (named : String × DestinationEntry) : Book :=
  match document.meaning? named.2 with
  | some (profile, destination) => book.register named.1 profile destination
  | none => book

/-- The entries of a profiles document are bound in order. The order matters for nothing but
reports, as names are listed once. -/
def load (book : Book) (content : Except Disk.Fault Bytes) : Book :=
  match content with
  | .error _ => book
  | .ok content =>
    if content.toText?.isNone then book
    else
      match ProfilesDocument.read? content with
      | none => book
      | some document => document.destinations.toList.foldl (enter document) book

/-- A request is made with what its name stands for at the moment. It is written down in full, since
the name may stand for something else later. -/
def create (book : Book) (identifier : String) : Book :=
  match book.bound identifier with
  | some (profile, destination) =>
    { book with
      made := book.made ++ [⟨identifier, profile, destination⟩]
      outstanding := book.made.length :: book.outstanding }
  | none => book

/-- What is written down about a turn. The book knows nothing of registries, so following it says
something about the client. -/
def step (book : Book) : Turn → Book
  | .register identifier profile destination => book.register identifier profile destination
  | .remove identifier => book.bind identifier none
  | .removeAll => { book with bound := fun _ => none }
  | .load content => book.load content
  | .create identifier => book.create identifier
  | .free number => { book with outstanding := book.outstanding.erase number }
  | .leak _ | .call _ _ | .drop => book

/-- What is written down about several turns. -/
def after (turns : List Turn) : Book :=
  turns.foldl step {}

end Book

/-! ### The registry is as the book has it -/

/-- The registration of a name that stands for something. -/
def Registration.ofMeaning (identifier : String) (meaning : AccessProfile × Destination) :
    Registration :=
  ⟨identifier, meaning.1, meaning.2⟩

namespace Client

variable {client client' : Client} {identifier : String} {profile : AccessProfile}
  {destination : Destination}

/-- What a registration succeeds for, and what it does. The four conditions are the only ones:
neither the key prefix nor the endpoint is looked at. -/
theorem register_eq_ok :
    client.register identifier profile destination = .ok client' ↔
      (profile.keyId ≠ "" ∧ profile.secret ≠ "" ∧ destination.bucket ≠ "" ∧
        client.find? identifier = none) ∧
      client' = { client with
        registrations := client.registrations ++ [⟨identifier, profile, destination⟩] } := by
  have identity : Signature.checkIdentity profile destination.bucket = .ok () ↔ _ :=
    Signature.checkIdentity_eq_ok
  unfold register
  split
  · rename_i fault refused
    rw [refused] at identity
    simp only [reduceCtorEq, false_iff] at identity
    constructor
    · nofun
    · rintro ⟨⟨keyId, secret, bucket, -⟩, -⟩
      exact absurd ⟨keyId, secret, bucket⟩ identity
  · rename_i accepted
    obtain ⟨keyId, secret, bucket⟩ := identity.1 accepted
    split
    · rename_i taken
      constructor
      · nofun
      · rintro ⟨⟨-, -, -, free⟩, -⟩
        rw [has, free] at taken
        cases taken
    · rename_i free
      have free : client.find? identifier = none := by simpa [has] using free
      simp [keyId, secret, bucket, free, eq_comm]

/-- What a name stands for after a registration. Other names stand for what they stood for. -/
theorem find?_append (free : client.find? identifier = none) (name : String) :
    find? { client with
        registrations := client.registrations ++ [⟨identifier, profile, destination⟩] } name =
      if name = identifier then some ⟨identifier, profile, destination⟩ else client.find? name := by
  unfold find? at free ⊢
  rw [List.find?_append, List.find?_singleton]
  by_cases same : name = identifier
  · rw [same, free, if_pos (beq_self_eq_true identifier), if_pos rfl]
    rfl
  · have apart : (identifier == name) ≠ true := fun equal => same (beq_iff_eq.1 equal).symm
    rw [if_neg apart, if_neg same, Option.or_none]

/-- What a name stands for after a removal. -/
theorem find?_remove (name : String) :
    (client.remove identifier).find? name =
      if name = identifier then none else client.find? name := by
  unfold remove find?
  rw [List.find?_filter]
  split
  · rename_i same
    refine List.find?_eq_none.2 fun registration _ => ?_
    rw [same]
    simp
  · rename_i other
    congr 1
    funext registration
    by_cases here : registration.identifier = name
    · simp [here, other]
    · simp [here]

/-- The registration of an entry of a profiles document. -/
theorem client_entry (document : ProfilesDocument) (r : Registering) (name : String)
    (entry : DestinationEntry) :
    (r.entry document name entry).client =
      match document.meaning? entry with
      | some (profile, destination) => r.client.registered name profile destination
      | none => r.client := by
  rcases entry with ⟨_ | bucket, _ | keyPrefix, _ | profileName⟩
  case some.some.some =>
    unfold Registering.entry ProfilesDocument.meaning? registered
    cases known : document.profile? profileName with
    | none => simp [known, Registering.report]
    | some profile =>
      simp only [known, Option.bind_eq_bind, Option.bind_some]
      cases r.client.register name profile ⟨bucket, keyPrefix⟩ <;> rfl
  all_goals rfl

/-- The registry is as the book has it, and so is the number of requests still to be released. No
name is registered twice, so the registrations can be counted for the names. -/
structure Follows (client : Client) (book : Book) (endpoint : Option String) : Prop where
  endpoint : client.endpoint = endpoint
  distinct : (client.registrations.map (·.identifier)).Nodup
  bound : ∀ name, client.find? name = (book.bound name).map (.ofMeaning name)
  live : client.live = book.outstanding.length

namespace Follows

variable {book : Book} {endpoint : Option String}

/-- A registration succeeds when the book admits it. So refusals are told by the book as well. -/
theorem register_iff (h : client.Follows book endpoint) :
    (∃ client', client.register identifier profile destination = .ok client') ↔
      book.Admits identifier profile destination := by
  have free : client.find? identifier = none ↔ book.bound identifier = none := by
    rw [h.bound, Option.map_eq_none_iff]
  simp only [register_eq_ok, exists_and_left, exists_eq, and_true, free, Book.Admits]

/-- A registration is written down when it succeeds. The case of a refusal is the same on both
sides. -/
theorem register (h : client.Follows book endpoint) :
    (client.registered identifier profile destination).Follows
      (book.register identifier profile destination) endpoint := by
  have admitted : (∃ client', client.register identifier profile destination = .ok client') ↔
      book.Admits identifier profile destination := h.register_iff
  unfold registered Book.register
  split
  · rename_i client' registered
    rw [if_pos (admitted.1 ⟨client', registered⟩)]
    obtain ⟨⟨-, -, -, free⟩, rfl⟩ := register_eq_ok.1 registered
    refine ⟨h.endpoint, ?_, fun name => ?_, h.live⟩
    · rw [List.map_append, List.nodup_append]
      refine ⟨h.distinct, List.pairwise_singleton _ _, ?_⟩
      rintro name there _ here rfl
      obtain ⟨registration, member, same⟩ := List.mem_map.1 there
      have apart := List.find?_eq_none.1 free registration member
      rw [same, List.mem_singleton.1 here] at apart
      exact apart (beq_self_eq_true _)
    · rw [find?_append free, Book.bind]
      dsimp only
      split
      · rename_i same
        rw [same]
        rfl
      · exact h.bound name
  · rename_i fault refused
    rw [if_neg]
    · exact h
    · intro admits
      obtain ⟨client', registered⟩ := admitted.2 admits
      rw [refused] at registered
      cases registered

/-- A name that is removed stands for nothing. Requests of that name live on. -/
theorem remove (h : client.Follows book endpoint) :
    (client.remove identifier).Follows (book.bind identifier none) endpoint := by
  refine ⟨h.endpoint, ?_, fun name => ?_, h.live⟩
  · exact h.distinct.sublist (List.Sublist.map _ List.filter_sublist)
  · rw [find?_remove, Book.bind]
    dsimp only
    split
    · rfl
    · exact h.bound name

/-- After the removal of all names, nothing stands for anything. -/
theorem removeAll (h : client.Follows book endpoint) :
    client.removeAll.Follows { book with bound := fun _ => none } endpoint :=
  ⟨h.endpoint, List.nodup_nil, fun _ => rfl, h.live⟩

/-- An entry of a profiles document is registered and written down if it is complete. This is the
step of the induction over a document. -/
theorem enter {r : Registering} (h : r.client.Follows book endpoint) (document : ProfilesDocument)
    (named : String × DestinationEntry) :
    (r.entry document named.1 named.2).client.Follows (book.enter document named) endpoint := by
  rw [client_entry, Book.enter]
  split
  · exact h.register
  · exact h

/-- A profiles document is loaded and written down entry by entry, unless it cannot be read. There
is no document that is loaded in part because of a fault. -/
theorem load (h : client.Follows book endpoint) (content : Except Disk.Fault Bytes) :
    (client.loadProfiles content).client.Follows (book.load content) endpoint := by
  have entries : ∀ (document : ProfilesDocument) (named : List (String × DestinationEntry))
      (r : Registering) (book : Book), r.client.Follows book endpoint →
        (named.foldl (fun r named => r.entry document named.1 named.2) r).client.Follows
          (named.foldl (Book.enter document) book) endpoint := by
    intro document named
    induction named with
    | nil => exact fun r book h => h
    | cons first rest ih => exact fun r book h => ih _ _ (h.enter document first)
  unfold loadProfiles Book.load
  cases content with
  | error fault => exact h
  | ok content =>
    dsimp only
    by_cases unread : content.toText?.isNone = true
    · rw [if_pos unread, if_pos unread]
      exact h
    · rw [if_neg unread, if_neg unread]
      cases ProfilesDocument.read? content with
      | none => exact h
      | some document => exact entries document _ _ _ h

end Follows

end Client

/-! ### The requests are as the book has it -/

namespace Book

/-- Only the meanings of names are written down. What has been made and what is still to be released
are as before. -/
def Rebinds (book book' : Book) : Prop :=
  book'.made = book.made ∧ book'.outstanding = book.outstanding

theorem rebinds_register (book : Book) (identifier : String) (profile : AccessProfile)
    (destination : Destination) : book.Rebinds (book.register identifier profile destination) := by
  unfold register
  split <;> exact ⟨rfl, rfl⟩

theorem rebinds_enter (document : ProfilesDocument) (book : Book)
    (named : String × DestinationEntry) : book.Rebinds (book.enter document named) := by
  unfold enter
  split
  · exact book.rebinds_register _ _ _
  · exact ⟨rfl, rfl⟩

theorem rebinds_load (book : Book) (content : Except Disk.Fault Bytes) :
    book.Rebinds (book.load content) := by
  have entries : ∀ (document : ProfilesDocument) (named : List (String × DestinationEntry)),
      book.Rebinds (named.foldl (enter document) book) := by
    intro document named
    refine List.foldlRecOn named (enter document) ⟨rfl, rfl⟩ fun next earlier entry _ => ?_
    obtain ⟨made, outstanding⟩ := rebinds_enter document next entry
    exact ⟨made.trans earlier.1, outstanding.trans earlier.2⟩
  unfold load
  split
  · exact ⟨rfl, rfl⟩
  · split
    · exact ⟨rfl, rfl⟩
    · split
      · exact ⟨rfl, rfl⟩
      · exact entries _ _

end Book

/-- A call leaves the frame of a request as it is. -/
theorem Request.apply_frame (request : Request) (call : Call) :
    (request.apply call).frame = request.frame := by
  cases call with
  | operate key operation now events =>
    show (request.perform key operation now events).request.frame = request.frame
    unfold perform
    dsimp only
    rw [Flight.run_request_frame, Flight.run_request_frame, request.start_request_frame]
  | cancel | reset => rfl

namespace Fleet

variable {fleet fleet' : Fleet} {book : Book} {endpoint : Option String} {turn : Turn}

/-- The client is as the book has it, and every request is as it was made and still to be released.
A request is compared by its frame, since its phase is its own affair. -/
structure Follows (fleet : Fleet) (book : Book) (endpoint : Option String) : Prop where
  client : fleet.client.Follows book endpoint
  length : fleet.requests.length = book.made.length
  request : ∀ number request, fleet.request? number = some request →
    (∃ registration, book.made[number]? = some registration ∧
      request.frame = (registration, endpoint)) ∧ number ∈ book.outstanding
  distinct : book.outstanding.Nodup
  bound : ∀ number ∈ book.outstanding, number < book.made.length

namespace Follows

theorem start (config : Config) :
    (Fleet.start config).Follows {} (Client.ofConfig config).endpoint where
  client := ⟨rfl, List.nodup_nil, fun _ => rfl, rfl⟩
  length := rfl
  request := nofun
  distinct := List.nodup_nil
  bound := nofun

/-- What is done to the registry does not concern the requests. Each of them has a copy of its
registration. -/
theorem use (h : fleet.Follows book endpoint) (f : Client → Client) {book' : Book}
    (used : fleet.use f = some fleet') (client : (f fleet.client).Follows book' endpoint)
    (rebinds : book.Rebinds book') : fleet'.Follows book' endpoint := by
  unfold Fleet.use at used
  split at used
  · cases used
    obtain ⟨made, outstanding⟩ := rebinds
    refine ⟨client, ?_, ?_, ?_, ?_⟩
    · rw [made]
      exact h.length
    · rw [made, outstanding]
      exact h.request
    · rw [outstanding]
      exact h.distinct
    · rw [made, outstanding]
      exact h.bound
  · cases used

/-- A new request does not concern the others. -/
theorem request?_append {client : Client} {number : Nat} {made request : Request}
    (found : request? { fleet with client, requests := fleet.requests ++ [some made] } number =
      some request) :
    (number = fleet.requests.length ∧ request = made) ∨ fleet.request? number = some request := by
  unfold request? at found ⊢
  rw [List.getElem?_append, List.getElem?_singleton] at found
  split at found
  · exact .inr found
  · split at found
    · cases found
      exact .inl ⟨by omega, rfl⟩
    · cases found

/-- What is done to one request does not concern the others. They share nothing but the client. -/
theorem request?_set {number other : Nat} {value : Option Request} {request : Request}
    (found : request? { fleet with requests := fleet.requests.set number value } other =
      some request) :
    (other = number ∧ value = some request) ∨
      other ≠ number ∧ fleet.request? other = some request := by
  unfold request? at found ⊢
  rw [List.getElem?_set] at found
  split at found
  · rename_i same
    split at found
    · exact .inl ⟨same.symm, found⟩
    · cases found
  · rename_i apart
    exact .inr ⟨fun same => apart same.symm, found⟩

/-- A new request is made with what its name stands for. From now on it is one of those that are
still to be released. -/
theorem create (h : fleet.Follows book endpoint) {identifier : String}
    (made : fleet.create identifier = some fleet') :
    fleet'.Follows (book.create identifier) endpoint := by
  have bound := h.client.bound identifier
  unfold Fleet.create Client.create at made
  unfold Book.create
  split at made
  · cases meaning : book.bound identifier with
    | none =>
      rw [bound, meaning] at made
      cases made
      exact h
    | some meaning' =>
      obtain ⟨profile, destination⟩ := meaning'
      rw [bound, meaning] at made
      cases made
      refine ⟨?_, ?_, fun number request found => ?_, ?_, ?_⟩
      · exact ⟨h.client.endpoint, h.client.distinct, h.client.bound,
          congrArg (· + 1) h.client.live⟩
      · simp [h.length]
      · -- The new request has the next number; all others keep theirs.
        rcases request?_append found with ⟨rfl, rfl⟩ | earlier
        · refine ⟨⟨⟨identifier, profile, destination⟩, ?_, ?_⟩, ?_⟩
          · simp [h.length]
          · rw [Request.frame, h.client.endpoint]
            rfl
          · rw [h.length]
            exact List.mem_cons_self
        · obtain ⟨⟨registration, known, frame⟩, outstanding⟩ := h.request number request earlier
          refine ⟨⟨registration, ?_, frame⟩, List.mem_cons_of_mem _ outstanding⟩
          exact (List.getElem?_append_left (List.getElem?_eq_some_iff.1 known).1).trans known
      · exact List.nodup_cons.2 ⟨fun member => Nat.lt_irrefl _ (h.bound _ member), h.distinct⟩
      · intro number member
        show number < (book.made ++ [_]).length
        rw [List.length_append, List.length_singleton]
        rcases List.mem_cons.1 member with rfl | earlier
        · exact Nat.lt_succ_self _
        · exact Nat.lt_succ_of_lt (h.bound number earlier)
  · cases made

/-- Every turn is written down. Turns that use the client share one lemma, and the others are about
a single request. -/
theorem step (h : fleet.Follows book endpoint) (stepped : fleet.step turn = some fleet') :
    fleet'.Follows (book.step turn) endpoint := by
  cases turn with
  | register identifier profile destination =>
    exact h.use (·.registered identifier profile destination) stepped h.client.register
      (book.rebinds_register _ _ _)
  | remove identifier =>
    exact h.use (·.remove identifier) stepped h.client.remove ⟨rfl, rfl⟩
  | removeAll => exact h.use Client.removeAll stepped h.client.removeAll ⟨rfl, rfl⟩
  | load content =>
    exact h.use (fun client => (client.loadProfiles content).client) stepped
      (h.client.load content) (book.rebinds_load content)
  | create identifier => exact h.create stepped
  | free number =>
    obtain ⟨request, found, rfl⟩ := Option.map_eq_some_iff.1 stepped
    obtain ⟨-, member⟩ := h.request number request found
    refine ⟨⟨h.client.endpoint, h.client.distinct, h.client.bound, ?_⟩,
      List.length_set.trans h.length, fun other request' found' => ?_, h.distinct.erase number,
      fun other left => h.bound other (List.mem_of_mem_erase left)⟩
    · show fleet.client.live - 1 = (book.outstanding.erase number).length
      rw [List.length_erase_of_mem member, h.client.live]
    · rcases request?_set found' with ⟨-, ⟨⟩⟩ | ⟨apart, found'⟩
      obtain ⟨known, outstanding⟩ := h.request other request' found'
      exact ⟨known, (List.mem_erase_of_ne apart).2 outstanding⟩
  -- A leaked request is gone for its owner and still outstanding for the client.
  | leak number =>
    obtain ⟨request, found, rfl⟩ := Option.map_eq_some_iff.1 stepped
    refine ⟨h.client, List.length_set.trans h.length, fun other request' found' => ?_, h.distinct,
      h.bound⟩
    rcases request?_set found' with ⟨-, ⟨⟩⟩ | ⟨-, found'⟩
    exact h.request other request' found'
  | call number call =>
    obtain ⟨request, found, rfl⟩ := Option.map_eq_some_iff.1 stepped
    refine ⟨h.client, List.length_set.trans h.length, fun other request' found' => ?_, h.distinct,
      h.bound⟩
    rcases request?_set found' with ⟨rfl, ⟨⟩⟩ | ⟨-, found'⟩
    · obtain ⟨⟨registration, known, frame⟩, outstanding⟩ := h.request other request found
      exact ⟨⟨registration, known, (request.apply_frame call).trans frame⟩, outstanding⟩
    · exact h.request other request' found'
  | drop =>
    unfold Fleet.step at stepped
    dsimp only at stepped
    split at stepped <;> cases stepped
    exact ⟨h.client, h.length, h.request, h.distinct, h.bound⟩

/-- A run is written down turn by turn. The book of the run can be read without the client. -/
theorem run {turns : List Turn} (h : fleet.Follows book endpoint)
    (ran : fleet.run turns = some fleet') :
    fleet'.Follows (turns.foldl Book.step book) endpoint := by
  induction turns generalizing fleet book with
  | nil =>
    cases ran
    exact h
  | cons turn rest ih =>
    rw [Fleet.run, List.foldlM_cons] at ran
    obtain ⟨next, stepped, ran⟩ := Option.bind_eq_some_iff.1 ran
    exact ih (h.step stepped) ran

end Follows

end Fleet

namespace Client

/-- A registration that is refused leaves the client alone. -/
theorem registered_of_refused {client : Client} {identifier : String} {profile : AccessProfile}
    {destination : Destination}
    (refused : ∀ client', client.register identifier profile destination ≠ .ok client') :
    client.registered identifier profile destination = client := by
  unfold registered
  split
  · rename_i client' accepted
    exact absurd accepted (refused client')
  · rfl

theorem create_iff {client : Client} {identifier : String} :
    (∃ client' request, client.create identifier = .ok (client', request)) ↔
      client.find? identifier ≠ none := by
  unfold create
  cases client.find? identifier with
  | none => simp
  | some registration => simp

theorem close_eq_ok {client : Client} : client.close = .ok () ↔ client.live = 0 := by
  unfold close
  split
  · rename_i none
    exact ⟨fun _ => none, fun _ => rfl⟩
  · rename_i some
    exact ⟨nofun, fun none => absurd none some⟩

namespace Follows

variable {client : Client} {book : Book} {endpoint : Option String}

theorem find?_ne_none (h : client.Follows book endpoint) (identifier : String) :
    client.find? identifier ≠ none ↔ book.bound identifier ≠ none := by
  rw [h.bound, ne_eq, ne_eq, Option.map_eq_none_iff]

/-- The names that are registered, each of them once. Their number is what the client counts. -/
theorem exists_names (h : client.Follows book endpoint) :
    ∃ names : List String, names.Nodup ∧ (∀ name, name ∈ names ↔ book.bound name ≠ none) ∧
      names.length = client.count := by
  refine ⟨client.registrations.map (·.identifier), h.distinct, fun name => ?_, List.length_map _⟩
  rw [← h.find?_ne_none, ne_eq, find?, List.find?_eq_none]
  simp

end Follows

end Client

/-- What a request puts on the wire depends on its frame only. So it follows from the book where a
request goes. -/
theorem Request.dispatch_of_perform {request : Request} {key : String} {operation : Operation}
    {now : Instant} {events : List Event} {dispatch : Dispatch}
    (h : (request.perform key operation now events).dispatch = some dispatch) :
    dispatch.url = request.url key ∧
      Signature.Headers.make request.registration.profile request.registration.destination
        operation.verb key operation.payload now = .ok dispatch.headers := by
  obtain ⟨headers, made, rfl⟩ := prepare_ok (prepare_of_start h)
  exact ⟨rfl, made⟩

namespace Fleet

variable {fleet : Fleet} {turns : List Turn} {config : Config}

/-- The registry is a map, and a request keeps what it was made with. A registration succeeds when
it is complete and its name stands for nothing, and changes nothing otherwise; a request is made iff
its name stands for something; the names that are registered are those that stand for something,
each of them counted once. Every operation of a request goes to the address and is signed with the
credentials that its name stood for when it was made. The requests still to be released are counted,
and the end of the client is without complaint iff there are none. All of it is said in terms of the
book, which is kept by the turns alone. -/
theorem bound_of_run (ran : (start config).run turns = some fleet) :
    let book := Book.after turns
    (∀ identifier profile destination,
      ((∃ client, fleet.client.register identifier profile destination = .ok client) ↔
        profile.keyId ≠ "" ∧ profile.secret ≠ "" ∧ destination.bucket ≠ "" ∧
          book.bound identifier = none) ∧
      (fleet.isOpen = true →
        (∀ client, fleet.client.register identifier profile destination ≠ .ok client) →
          fleet.step (.register identifier profile destination) = some fleet)) ∧
    (∀ identifier, (∃ client request, fleet.client.create identifier = .ok (client, request)) ↔
      book.bound identifier ≠ none) ∧
    (∀ identifier, fleet.client.has identifier = true ↔ book.bound identifier ≠ none) ∧
    (∃ names : List String, names.Nodup ∧ (∀ name, name ∈ names ↔ book.bound name ≠ none) ∧
      names.length = fleet.client.count) ∧
    (∀ number request, fleet.request? number = some request →
      ∃ registration, book.made[number]? = some registration ∧
        request.registration = registration ∧
        ∀ key operation now events dispatch,
          (request.perform key operation now events).dispatch = some dispatch →
            dispatch.url =
              Request.url { registration, endpoint := (Client.ofConfig config).endpoint } key ∧
            Signature.Headers.make registration.profile registration.destination operation.verb key
              operation.payload now = .ok dispatch.headers) ∧
    fleet.client.live = book.outstanding.length ∧
    (fleet.client.close = .ok () ↔ book.outstanding = []) := by
  intro book
  have follows : fleet.Follows book (Client.ofConfig config).endpoint :=
    (Follows.start config).run ran
  have client := follows.client
  refine ⟨fun identifier profile destination => ⟨client.register_iff, fun opened refused => ?_⟩,
    fun identifier => Client.create_iff.trans (client.find?_ne_none identifier),
    fun identifier => ?_, client.exists_names, fun number request found => ?_, client.live, ?_⟩
  · show fleet.use (·.registered identifier profile destination) = some fleet
    rw [use, if_pos opened, Client.registered_of_refused refused]
  · rw [← client.find?_ne_none, Client.has, Option.isSome_iff_ne_none]
  · obtain ⟨⟨registration, made, frame⟩, -⟩ := follows.request number request found
    refine ⟨registration, made, congrArg Prod.fst frame, ?_⟩
    intro key operation now events dispatch performed
    obtain ⟨url, headers⟩ := Request.dispatch_of_perform performed
    rw [show request.registration = registration from congrArg Prod.fst frame] at headers
    exact ⟨url.trans (Request.url_eq frame key), headers⟩
  · rw [Client.close_eq_ok, client.live, List.length_eq_zero_iff]

/-- A name is registered again for something else while a request for it is there, a second request
is leaked, and the client is given up. -/
def turnsOfTwo : List Turn :=
  [.register "home" ⟨"AKID", "SECRET"⟩ ⟨"photos", ""⟩, .create "home", .remove "home",
    .register "home" ⟨"OTHER", "WORD"⟩ ⟨"archive", ""⟩, .create "home", .leak 1, .drop]

/-- The first request still goes to the first bucket, and both are still to be released. -/
theorem bound_of_two :
    ∃ fleet request dispatch, (start {}).run turnsOfTwo = some fleet ∧
      fleet.request? 0 = some request ∧
      (request.perform "a" .delete .epoch []).dispatch = some dispatch ∧
      dispatch.url = Request.url
        { registration := ⟨"home", ⟨"AKID", "SECRET"⟩, ⟨"photos", ""⟩⟩
          endpoint := (Client.ofConfig {}).endpoint } "a" ∧
      Signature.Headers.make ⟨"AKID", "SECRET"⟩ ⟨"photos", ""⟩ .delete "a" none .epoch =
        .ok dispatch.headers ∧
      fleet.client.has "home" = true ∧ fleet.client.live = 2 ∧ fleet.client.close ≠ .ok () := by
  have seen : (((start {}).run turnsOfTwo).bind fun fleet => (fleet.request? 0).bind fun request =>
      (request.perform "a" .delete .epoch []).dispatch.map fun dispatch => dispatch.verb) =
        some .delete := by
    decide +kernel
  obtain ⟨fleet, ran, rest⟩ := Option.bind_eq_some_iff.1 seen
  obtain ⟨request, found, rest⟩ := Option.bind_eq_some_iff.1 rest
  obtain ⟨dispatch, sent, -⟩ := Option.map_eq_some_iff.1 rest
  obtain ⟨-, -, registered, -, bound, live, closed⟩ := bound_of_run ran
  obtain ⟨registration, made, -, used⟩ := bound 0 request found
  have first : registration = ⟨"home", ⟨"AKID", "SECRET"⟩, ⟨"photos", ""⟩⟩ :=
    Option.some.inj (made.symm.trans (by decide))
  have outstanding : (Book.after turnsOfTwo).outstanding = [1, 0] := by decide
  obtain ⟨url, headers⟩ := used "a" .delete .epoch [] dispatch sent
  rw [first] at url headers
  rw [outstanding] at live closed
  exact ⟨fleet, request, dispatch, ran, found, sent, url, headers,
    (registered "home").2 (by decide), live, fun clean => nomatch closed.1 clean⟩

end Fleet

end PreviewSync.Store
