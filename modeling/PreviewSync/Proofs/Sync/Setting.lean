import PreviewSync.Proofs.Cache.Renewal
import PreviewSync.Proofs.Sync.Frames

/-!
# Programs on a setting

While the catalog, the destination and the previews stay as they are, what is to be in the store and
in the change cache in the end is known from the beginning. A program that works on it may be cut
off anywhere, and leaves store and change cache somewhere on the way: some of the photos that the
first comparison names may have been brought in line without being recorded, but none is recorded
that has not been brought in line.

## Main Definitions

* `contents` — the objects that deeds leave in a store
* `Setting`, `Setting.goal` — what stays as it is, and the object that each photo is to have
* `Setting.Due` — the photos that a comparison names
* `Setting.Toward` — a store and recorded keys on the way, with `Setting.Toward.write` and
  `Setting.Toward.settle`
* `Setting.play`, `Setting.Reaches` — what a program may do on a setting

## Design Notes

Being on the way does not depend on how one got there, so a program that goes on from what another
one has left is on the same way as that one.
-/

namespace PreviewSync.Sync

open Store (Client Dispatch Operation)

/-- The object at an address after a deed. It is what `present` says of an address, with the object
itself. -/
def Deed.stores (url : String) (object : Option Payload) : Deed → Option Payload
  | applied _ _ dispatch =>
    if dispatch.url = url then
      match dispatch.verb with
      | .put => dispatch.payload
      | .delete => none
      | _ => object
    else object
  | forgotten _ => object

/-- The objects that deeds leave in a store, by address. Only the last request for an address
counts. -/
def contents (stored : String → Option Payload) (deeds : List Deed) (url : String) :
    Option Payload :=
  deeds.foldl (Deed.stores url) (stored url)

section Contents

variable {stored : String → Option Payload} {deeds : List Deed} {url : String}

@[simp]
theorem contents_append (deed : Deed) :
    contents stored (deeds ++ [deed]) url = deed.stores url (contents stored deeds url) := by
  rw [contents, List.foldl_append]
  rfl

/-- Nothing happens to the store when keys are forgotten. Forgetting is a matter of the change cache
alone. -/
@[simp]
theorem contents_forgotten (keys : List String) :
    contents stored (deeds ++ keys.map .forgotten) = contents stored deeds := by
  funext url
  induction keys generalizing deeds with
  | nil => rw [List.map_nil, List.append_nil]
  | cons key keys ih =>
    have all : contents stored (deeds ++ [.forgotten key] ++ keys.map .forgotten) url =
        contents stored deeds url := by
      rw [ih, contents_append]
      rfl
    rwa [List.append_assoc] at all

end Contents

/-- What stays as it is: the name of the destination and what it stands for, the photos of the
catalog, and the previews that are made of photos. Two programs can be compared only if they work on
the same. -/
structure Setting where
  identifier : String
  endpoint : Option String
  destination : Destination
  catalog : List String
  preview : String → Bytes

namespace Setting

/-- The address of the object of a photo. -/
def place (S : Setting) (key : String) : String :=
  address S.endpoint S.destination key

/-- The operation that brings the object of a photo in line. It depends on the photo alone, so it
does not matter which program carries it out, nor how often. -/
def operation (S : Setting) (key : String) : Operation :=
  if key ∈ S.catalog then .put ⟨S.preview key, previewContentType⟩ else .delete

/-- The object that a photo is to have. A photo that is not in the catalog is to have none, and its
removal has no payload. -/
def goal (S : Setting) (key : String) : Option Payload :=
  (S.operation key).payload

/-- The photos that a comparison of the catalog with some recorded keys names. It is about
membership, so the order of the comparison does not matter here. -/
def Due (S : Setting) (known : KeySet) (key : String) : Prop :=
  ¬ (key ∈ S.catalog ↔ key ∈ known)

/-- Photos of the catalog, and those recorded, do not share objects. Otherwise the removal of one
photo could undo the upload of another, and the outcome would depend on their order. -/
def Separates (S : Setting) (known : KeySet) : Prop :=
  ∀ key other, (key ∈ S.catalog ∨ key ∈ known) → (other ∈ S.catalog ∨ other ∈ known) →
    S.place key = S.place other → key = other

/-- Some recorded keys are settled by one photo: it is recorded iff it is in the catalog, and
nothing is changed about the others. -/
def Settles (S : Setting) (key : String) (before after : KeySet) : Prop :=
  ∀ other, other ∈ after ↔ if other = key then key ∈ S.catalog else other ∈ before

variable {S : Setting} {known now now' : KeySet} {key : String} {action : Action}
  {stored objects objects' : String → Option Payload}

/-- A photo that is due is either to be added or to be removed. Which of them is told by the catalog
alone, so it cannot change from one pass to the next. -/
theorem action_of_mem (h : (key, action) ∈ difference S.catalog known) :
    action = .add ∧ key ∈ S.catalog ∨ action = .remove ∧ key ∉ S.catalog := by
  rcases mem_difference.1 h with ⟨rfl, inCatalog, -⟩ | ⟨rfl, -, absent⟩
  · exact .inl ⟨rfl, inCatalog⟩
  · exact .inr ⟨rfl, absent⟩

/-- The photos that are due are those that the comparison comes to. -/
theorem due_iff : S.Due known key ↔ ∃ action, (key, action) ∈ difference S.catalog known := by
  simp only [Due, mem_difference]
  constructor
  · intro differing
    by_cases inCatalog : key ∈ S.catalog
    · refine ⟨.add, .inl ⟨rfl, inCatalog, fun recorded => ?_⟩⟩
      exact differing (iff_of_true inCatalog recorded)
    · refine ⟨.remove, .inr ⟨rfl, ?_, inCatalog⟩⟩
      by_contra missing
      exact differing (iff_of_false inCatalog missing)
  · rintro ⟨_, ⟨-, inCatalog, missing⟩ | ⟨-, recorded, absent⟩⟩ same
    · exact missing (same.1 inCatalog)
    · exact absent (same.2 recorded)

theorem due_of_mem {item : String × Action} (h : item ∈ difference S.catalog known) :
    S.Due known item.1 :=
  due_iff.2 ⟨item.2, h⟩

/-- A photo that is due is in the catalog or recorded. -/
theorem Due.mem_or_mem (h : S.Due known key) : key ∈ S.catalog ∨ key ∈ known := by
  by_contra neither
  rw [not_or] at neither
  exact h (iff_of_false neither.1 neither.2)

/-- What is due after a photo has been settled was due before, and is another photo. -/
theorem mem_difference_of_settles (h : S.Settles key now now') {item : String × Action}
    (member : item ∈ difference S.catalog now') :
    item ∈ difference S.catalog now ∧ item.1 ≠ key := by
  have other : item.1 ≠ key := by
    intro same
    refine due_of_mem member ?_
    rw [h item.1, if_pos same, same]
  refine ⟨?_, other⟩
  have kept := h item.1
  rw [if_neg other] at kept
  obtain ⟨photo, action⟩ := item
  rw [mem_difference] at member ⊢
  rwa [kept] at member

/-! ### On the way -/

/-- A store and recorded keys on the way from others: nothing is recorded otherwise than at first
but photos that were due, that have been brought in line, and whose objects are those that they are
to have. Whatever is not the object of a photo that was due is left alone. A photo that is recorded
as at first may have any object, as its request may have been applied without being recorded. -/
structure Toward (S : Setting) (known : KeySet) (stored : String → Option Payload) (now : KeySet)
    (objects : String → Option Payload) : Prop where
  photos : ∀ key, (key ∈ now ↔ key ∈ known) ∨
    S.Due known key ∧ (key ∈ S.catalog ↔ key ∈ now) ∧ objects (S.place key) = S.goal key
  elsewhere : ∀ url, (∀ key, S.Due known key → S.place key ≠ url) → objects url = stored url

namespace Toward

theorem refl : S.Toward known stored known stored where
  photos _ := .inl Iff.rfl
  elsewhere _ _ := rfl

/-- On the way nothing becomes due that was not at first. So photos that were in line are left alone
by all passes. -/
theorem due (h : S.Toward known stored now objects) (later : S.Due now key) : S.Due known key := by
  rcases h.photos key with same | ⟨due, -, -⟩
  · unfold Due at later
    rwa [same] at later
  · exact due

theorem mem_difference (h : S.Toward known stored now objects) {item : String × Action}
    (member : item ∈ difference S.catalog now) : item ∈ difference S.catalog known := by
  obtain ⟨photo, action⟩ := item
  obtain ⟨action', first⟩ := due_iff.1 (h.due (due_of_mem member))
  have same : action = action' := by
    rcases action_of_mem member with ⟨rfl, inCatalog⟩ | ⟨rfl, absent⟩ <;>
      rcases action_of_mem first with ⟨rfl, inCatalog'⟩ | ⟨rfl, absent'⟩
    · rfl
    · exact absurd inCatalog absent'
    · exact absurd inCatalog' absent
    · rfl
  rwa [same]

/-- Giving a photo that is due its object, as often as one likes, stays on the way. An upload that
was not recorded is repeated later, and does no harm by that. -/
theorem write (h : S.Toward known stored now objects) (due : S.Due known key)
    (apart : S.Separates known) (written : objects' (S.place key) = S.goal key)
    (others : ∀ url, url ≠ S.place key → objects' url = objects url) :
    S.Toward known stored now objects' where
  photos other := by
    refine (h.photos other).imp_right fun ⟨otherDue, inLine, reached⟩ => ⟨otherDue, inLine, ?_⟩
    by_cases same : other = key
    · rw [same]
      exact written
    · have elsewhere : S.place other ≠ S.place key :=
        fun shared => same (apart other key otherDue.mem_or_mem due.mem_or_mem shared)
      rw [others _ elsewhere, reached]
  elsewhere url outside := by
    rw [others url (outside key due).symm]
    exact h.elsewhere url outside

/-- Recording a photo that is due and has its object stays on the way. The object must be there
first: this is the order that an item keeps to. -/
theorem settle (h : S.Toward known stored now objects) (due : S.Due known key)
    (reached : objects (S.place key) = S.goal key) (settled : S.Settles key now now') :
    S.Toward known stored now' objects where
  photos other := by
    have effect := settled other
    split at effect
    · rename_i same
      subst same
      exact .inr ⟨due, effect.symm, reached⟩
    · rw [effect]
      exact h.photos other
  elsewhere := h.elsewhere

/-- At the end of the way every photo that was due has its object. Nothing is said of how many
passes that took. -/
theorem reached (h : S.Toward known stored now objects) (atEnd : ∀ key, ¬ S.Due now key)
    (due : S.Due known key) : objects (S.place key) = S.goal key := by
  rcases h.photos key with same | ⟨-, -, reached⟩
  · have inLine := atEnd key
    unfold Due at inLine
    rw [same] at inLine
    exact absurd due inLine
  · exact reached

/-- All ways have the same end. So whether a pass was cut short can be told from the deeds, but not
from the store in the end. -/
theorem objects_eq (h : S.Toward known stored now objects)
    (h' : S.Toward known stored now' objects') (atEnd : ∀ key, ¬ S.Due now key)
    (atEnd' : ∀ key, ¬ S.Due now' key) : objects = objects' := by
  funext url
  by_cases ofPhoto : ∃ key, S.Due known key ∧ S.place key = url
  · obtain ⟨key, due, rfl⟩ := ofPhoto
    rw [h.reached atEnd due, h'.reached atEnd' due]
  · have outside : ∀ key, S.Due known key → S.place key ≠ url :=
      fun key due there => ofPhoto ⟨key, due, there⟩
    rw [h.elsewhere url outside, h'.elsewhere url outside]

end Toward

/-- A request that brings the object of a photo in line, and touches no other. Addresses that differ
are taken as different objects. -/
theorem contents_applied {deeds : List Deed} {destination : Destination} {dispatch : Dispatch}
    (url : dispatch.url = S.place key) (verb : dispatch.verb = (S.operation key).verb)
    (payload : dispatch.payload = (S.operation key).payload) :
    contents stored (deeds ++ [.applied key destination dispatch]) (S.place key) = S.goal key ∧
      ∀ other, other ≠ S.place key →
        contents stored (deeds ++ [.applied key destination dispatch]) other =
          contents stored deeds other := by
  constructor
  · rw [contents_append, Deed.stores, if_pos url, verb, payload, goal]
    by_cases inCatalog : key ∈ S.catalog
    · rw [operation, if_pos inCatalog]
      rfl
    · rw [operation, if_neg inCatalog]
      rfl
  · intro other elsewhere
    rw [contents_append, Deed.stores, if_neg fun same => elsewhere (same.symm.trans url)]

end Setting

/-! ### Programs -/

/-- The photo whose preview a batch is encoding. At this stage a setting decides about the answer,
as it says what the preview of a photo is. -/
def Scene.encoding? (scene : Scene) (number : Nat) : Option String := do
  let worker ← scene.machine.hub.batch? number
  match worker.point, worker.pending with
  | .working (.reencoding (.encoding _)), (key, _) :: _ => some key
  | _, _ => none

namespace Setting

/-- The client has the endpoint of the setting, and knows nothing else by the name of its
destination. -/
def Serves (S : Setting) (client : Client) : Prop :=
  client.endpoint = S.endpoint ∧ ∀ registration, client.find? S.identifier = some registration →
    registration.destination = S.destination

/-- Whether a cue leaves the setting as it is: sessions are for its destination, which may only be
registered again as what it is, the catalog stays the same, a photo has one preview only, and the
file of the change cache does not seem to be missing when it is there. A file that seems to be
missing would be replaced by an empty one, and with it all that is recorded. -/
def allows (S : Setting) (scene : Scene) : Cue → Bool
  | .step (.call (.begin _ name)) => name == S.identifier
  | .step (.register name _ destination) => name != S.identifier || destination == S.destination
  | .step (.owner (.load trouble)) => trouble .read != some .notFound
  | .step (.worker number (.file (.ok file))) =>
    match scene.encoding? number with
    | some key => file == S.preview key
    | none => true
  | .edit catalog => catalog == S.catalog
  | _ => true

/-- The effect of several cues that leave the setting as it is, and what the last of them
returns. -/
def play (S : Setting) (scene : Scene) (cues : List Cue) : Option (Scene × Option Return) :=
  cues.foldlM (fun now cue => if S.allows now.1 cue then now.1.step cue else none) (scene, none)

/-- A program that begins with some change cache and disk, and does whatever leaves the setting as
it is, may reach a scene by a step that returns something. -/
def Reaches (S : Setting) (cache : Cache) (disk : Disk) (scene : Scene)
    (result : Option Return) : Prop :=
  ∃ config client cues, S.Serves client ∧
    S.play (Scene.start config client cache disk S.catalog) cues = some (scene, result)

/-- What holds at the start and is kept by every cue that leaves the setting as it is holds of every
scene that a program reaches. -/
theorem Reaches.induction {S : Setting} {cache : Cache} {disk : Disk} {scene : Scene}
    {result : Option Return} (h : S.Reaches cache disk scene result)
    {p : Scene → Option Return → Prop}
    (first : ∀ config client, S.Serves client →
      p (Scene.start config client cache disk S.catalog) none)
    (kept : ∀ (scene scene' : Scene) (before after : Option Return) (cue : Cue), p scene before →
      S.allows scene cue = true → scene.step cue = some (scene', after) → p scene' after) :
    p scene result := by
  obtain ⟨config, client, cues, serves, played⟩ := h
  refine foldlM_induction (p := fun now => p now.1 now.2) played (first config client serves)
    fun before after cue _ here stepped => ?_
  split at stepped
  · rename_i allowed
    exact kept _ _ _ _ _ here allowed stepped
  · cases stepped

end Setting

end PreviewSync.Sync
