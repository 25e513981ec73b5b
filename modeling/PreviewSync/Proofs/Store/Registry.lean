import PreviewSync.Proofs.Store.Operation
import PreviewSync.Store.Registry

/-!
# The registry of a client

What a name stands for is decided when it is registered. A request that the client makes is in the
frame of what its name stands for at that moment.

## Main Definitions

* `Registration.IsComplete` — credentials and bucket are not empty
* `Client.find?_of_register`, `Client.find?_of_remove` — what a name stands for afterwards
* `Client.frame_of_create` — the frame of a new request
-/

namespace PreviewSync.Store

/-- Credentials and bucket are not empty. -/
def Registration.IsComplete (registration : Registration) : Prop :=
  registration.profile.keyId ≠ "" ∧ registration.profile.secret ≠ "" ∧
    registration.destination.bucket ≠ ""

instance (registration : Registration) : Decidable registration.IsComplete :=
  inferInstanceAs (Decidable (_ ∧ _))

namespace Client

variable {client client' : Client} {identifier name : String} {registration : Registration}

/-- After a registration, a name stands for what it stood for before, or for what is new. -/
theorem find?_of_register {profile : AccessProfile} {destination : Destination}
    (h : client.register identifier profile destination = .ok client')
    (found : client'.find? name = some registration) :
    client.find? name = some registration ∨
      name = identifier ∧ registration = ⟨identifier, profile, destination⟩ := by
  unfold register at h
  split at h
  · cases h
  · split at h
    · cases h
    · cases h
      rw [find?, List.find?_append, Option.or_eq_some_iff] at found
      rcases found with before | ⟨-, new⟩
      · exact .inl before
      · rw [List.find?_singleton] at new
        split at new
        · rename_i same
          cases new
          exact .inr ⟨(beq_iff_eq.1 same).symm, rfl⟩
        · cases new

/-- A registration leaves the endpoint alone. -/
theorem endpoint_of_register {profile : AccessProfile} {destination : Destination}
    (h : client.register identifier profile destination = .ok client') :
    client'.endpoint = client.endpoint := by
  unfold register at h
  split at h
  · cases h
  · split at h <;> cases h
    rfl

/-- A name that is left after a removal stands for what it stood for before. -/
theorem find?_of_remove (found : (client.remove identifier).find? name = some registration) :
    client.find? name = some registration := by
  unfold remove find? at found
  rw [List.find?_filter] at found
  have both := List.find?_some found
  rw [decide_eq_true_iff, bne_iff_ne, beq_iff_eq] at both
  obtain ⟨left, here⟩ := both
  subst here
  rw [find?, ← found]
  congr 1
  funext other
  by_cases same : other.identifier = registration.identifier
  · simp [same, left]
  · simp [same]

/-- A request is made in the frame of what its name stands for, and the registry stays as it is. -/
theorem frame_of_create {request : Request}
    (h : client.create identifier = .ok (client', request)) :
    (∃ registration, client.find? identifier = some registration ∧
        request.frame = (registration, client.endpoint)) ∧
      client'.registrations = client.registrations ∧ client'.endpoint = client.endpoint := by
  unfold create at h
  split at h
  · rename_i registration found
    cases h
    exact ⟨⟨registration, found, rfl⟩, rfl, rfl⟩
  · cases h

end Client

end PreviewSync.Store
