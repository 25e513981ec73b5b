import PreviewSync.Proofs.Sync.Backing
import PreviewSync.Proofs.Sync.Intent
import PreviewSync.Proofs.Sync.Loading
import PreviewSync.Proofs.Sync.Setting
import PreviewSync.Proofs.Sync.UpToDate

/-!
# Going on after an interruption

A program that synchronizes a catalog may be cut off at any step, and leaves a store that may be
ahead of its change cache by any of its actions. Another program that begins with that change cache,
and runs one pass in which every step succeeds, leaves the same store as a single program of that
kind would have done, because all that it does again leads to the object that a photo is to have.

## Main Definitions

* `Scene.isComplete` — a pass in which every step has succeeded
* `Setting.Attends` — what holds of every scene of a program, with `Setting.Attends.step`
* `Setting.resumed_eq` — what a program leaves that goes on after an interruption
-/

namespace PreviewSync.Sync

open Store (Client Dispatch Flight Operation)

/-- An action that a worker leaves: it is pending, or its photo has failed. These are the two ways
in which something can remain due after a batch. -/
def Worker.Leaves (w : Worker) (item : String × Action) : Prop :=
  item ∈ w.pending ∨ item.1 ∈ w.report.failures.map (·.1)

/-- An item that fails is left. It is among the failures of the report, and what is left is what a
later pass has to do. -/
theorem Worker.leaves_of_failed {w : Worker} {key : String} {action : Action}
    {rest : List (String × Action)} (pending : w.pending = (key, action) :: rest)
    (fault : ItemFault) {item : String × Action} (left : w.Leaves item) :
    (w.advance key action rest (.failed fault)).Leaves item := by
  by_cases cancelled : fault = .cancelled
  · rw [cancelled]
    exact left
  · rw [advance_failed cancelled]
    unfold Leaves at left ⊢
    rw [pending] at left
    simp only [Report.note, List.map_append, List.mem_append, List.map_singleton,
      List.mem_singleton]
    rcases left with waits | failed
    · rcases List.mem_cons.1 waits with rfl | waits
      · exact .inr (.inr rfl)
      · exact .inl waits
    · exact .inr (.inl failed)

/-- A batch that is over without failures, and was not cancelled, leaves nothing. This is what a
pass without mishaps comes to. -/
theorem Worker.Sound.not_leaves {w : Worker} (h : w.Sound) {report : Report}
    (ended : w.result? = some report) (clean : report.failures = [] ∧ report.cancelled = false)
    (item : String × Action) : ¬ w.Leaves item := by
  obtain ⟨atEnd, rfl⟩ := Worker.result?_eq_some.1 ended
  rw [Worker.Sound, atEnd] at h
  rintro (waits | failed)
  · rw [h.2 (List.ne_nil_of_mem waits)] at clean
    cases clean.2
  · rw [clean.1] at failed
    cases failed

/-- What a step of a worker does to the recorded keys: an item that is done settles its photo, and
whatever else is left stays so. -/
theorem Worker.settles_cases {S : Setting} {known : KeySet} {config : Config} {s s' : Shared}
    {w w' : Worker} {answer : Answer} (h : w.step config s answer = some (s', w'))
    (due : ∀ item ∈ w.pending, item ∈ difference S.catalog known) :
    (s'.cache.keys = s.cache.keys ∧ ∀ item, w.Leaves item → w'.Leaves item) ∨
    ∃ key action rest, w.point = .working .recording ∧ w.pending = (key, action) :: rest ∧
      S.Settles key s.cache.keys s'.cache.keys ∧
      ∀ item, item.1 ≠ key → w.Leaves item → w'.Leaves item := by
  rcases step_cases h with
    ⟨-, rfl, rfl⟩ | ⟨stage, key, action, rest, progress, atWork, pending, moved, rfl⟩
  · -- An update would be passed over when it is chosen, but a comparison never comes to one.
    have noUpdate : ∀ item ∈ w.pending, item.2 ≠ .update := by
      rintro ⟨key, action⟩ member
      rcases Setting.action_of_mem (due _ member) with ⟨rfl, -⟩ | ⟨rfl, -⟩ <;> exact nofun
    obtain ⟨point, cancelled, same⟩ := choose_eq noUpdate s'.cancel
    rw [same]
    exact .inl ⟨rfl, fun _ => id⟩
  · have member : (key, action) ∈ difference S.catalog known :=
      due _ (by rw [pending]; exact List.mem_cons_self)
    rcases moved.keys with ⟨unsettled, sameKeys⟩ | ⟨rfl, changed⟩
    · refine .inl ⟨sameKeys, fun item left => ?_⟩
      cases progress with
      | done => exact absurd rfl unsettled
      | reached | broken => exact left
      | failed fault => exact leaves_of_failed pending fault left
    · rcases moved.cache_cases with ⟨undone, -⟩ | ⟨rfl, -⟩
      · exact absurd rfl undone
      · refine .inr ⟨key, action, rest, atWork, pending, fun other => ?_, fun item other left => ?_⟩
        · rw [changed other]
          rcases Setting.action_of_mem member with ⟨rfl, inCatalog⟩ | ⟨rfl, absent⟩ <;>
            by_cases same : other = key <;> simp [*]
        · refine left.imp (fun waits => ?_) fun failed => ?_
          · rw [pending] at waits
            rcases List.mem_cons.1 waits with rfl | waits
            · exact absurd rfl other
            · exact waits
          · cases action <;> exact failed

/-- The only batch after a step of a worker is that of the worker. The setting has one batch at a
time, which makes its account that of the setting. -/
theorem eq_singleton_of_set {batches : List Worker} {number : Nat} {worker worker' only : Worker}
    (found : batches[number]? = some worker) (single : batches.set number worker' = [only]) :
    batches = [worker] ∧ only = worker' := by
  obtain ⟨first, before⟩ : ∃ first, batches = [first] := by
    refine List.length_eq_one_iff.1 ?_
    rw [← List.length_set (i := number) (a := worker'), single]
    rfl
  subst before
  obtain rfl : number = 0 := by
    simpa using (List.getElem?_eq_some_iff.1 found).1
  cases found
  cases single
  exact ⟨rfl, rfl⟩

/-- Whether one pass has ended in which every step has succeeded: either it is told to be up to date
and there was no batch, or its batch is the only one, and is over with no failures and not
cancelled. It can be decided from the scene and what was returned, so the theorem needs no history.
-/
def Scene.isComplete (scene : Scene) (result : Option Return) : Bool :=
  match scene.machine.hub.batches with
  | [] => isUpToDate result
  | [worker] =>
    match worker.result? with
    | some report => report.failures.isEmpty && !report.cancelled
    | none => false
  | _ => false

theorem Scene.isComplete_cases {scene : Scene} {result : Option Return}
    (h : scene.isComplete result = true) :
    result = some (.passed (.ok .upToDate)) ∨
      ∃ worker report, scene.machine.hub.batches = [worker] ∧ worker.result? = some report ∧
        report.failures = [] ∧ report.cancelled = false := by
  unfold isComplete at h
  split at h
  · exact .inl (eq_of_isUpToDate h)
  · rename_i worker single
    split at h
    · rename_i report ended
      rw [Bool.and_eq_true, List.isEmpty_iff, Bool.not_eq_true'] at h
      exact .inr ⟨worker, report, single, ended, h⟩
    · cases h
  · cases h

namespace Setting

/-- The recorded keys are those of the catalog, in memory and for the next program, so a comparison
finds nothing to do. -/
def IsInLine (S : Setting) (scene : Scene) : Prop :=
  scene.machine.hub.cache.IsKept scene.machine.hub.disk ∧
    ∀ key, key ∈ scene.machine.hub.cache.keys ↔ key ∈ S.catalog

/-- Whatever is due when some keys are recorded is left by a worker. A batch that leaves less than
what is due would lose something for good. -/
def IsLeftTo (S : Setting) (now : KeySet) (worker : Worker) : Prop :=
  ∀ item ∈ difference S.catalog now, worker.Leaves item

/-- What holds of every scene of a program on a setting that began somewhere on the way, with some
objects in the store: it stays on the way, acts on what was due, and as long as it has started one
batch only, whatever is due is left by that one. A program from the beginning and one that goes on
are both of this kind, so they are compared through it. -/
structure Attends (S : Setting) (known : KeySet) (stored objects : String → Option Payload)
    (scene : Scene) : Prop where
  sound : scene.IsSound
  bound : scene.machine.KeptTo (· = S.identifier)
    (fun frame => frame.1.destination = S.destination ∧ frame.2 = S.endpoint) S.endpoint
  catalog : scene.catalog = S.catalog
  remembers : scene.machine.Remembers
  toward : S.Toward known stored scene.machine.written (contents objects scene.deeds)
  passes : ∀ party destination pass, scene.machine.passAt? party = some (destination, pass) →
    pass.Carries (difference S.catalog scene.machine.written)
  due : ∀ number worker, scene.machine.hub.batch? number = some worker →
    ∀ item ∈ worker.pending, item ∈ difference S.catalog known
  intends : ∀ number worker, scene.machine.hub.batch? number = some worker →
    worker.AtWork fun key _ stage => stage.Intends (S.operation key)
  vouches : scene.Vouches (fun _ => True) fun deeds key =>
    contents objects deeds (S.place key) = S.goal key
  left : ∀ worker, scene.machine.hub.batches = [worker] →
    S.IsLeftTo scene.machine.written worker

namespace Attends

variable {S : Setting} {known : KeySet} {stored objects : String → Option Payload}
  {scene scene' : Scene} {cue : Cue} {result : Option Return}

theorem start {config : Config} {client : Client} {cache : Cache} {disk : Disk}
    (serves : S.Serves client) (reachable : cache.IsReachable disk)
    (toward : S.Toward known stored (cache.written disk) objects) :
    S.Attends known stored objects (Scene.start config client cache disk S.catalog) where
  sound := .start
  bound := by
    rw [← serves.1]
    refine .make fun name registration same found => ⟨?_, rfl⟩
    subst same
    exact serves.2 registration found
  catalog := rfl
  remembers := ⟨reachable, .inl .make⟩
  toward := toward
  passes party destination pass running := by
    rw [show (Scene.start config client cache disk S.catalog).machine.passAt? party = none from
      Machine.IsUntouched.make.passAt?_eq_none party] at running
    cases running
  due number worker found := by simp [Scene.start, Machine.make, Hub.make, Hub.batch?] at found
  intends number worker found := by simp [Scene.start, Machine.make, Hub.make, Hub.batch?] at found
  vouches := .start
  left worker only := by cases only

/-- A request on the wire gives a photo that is due its object, and touches no other. Here it is
used that the addresses of photos are apart. -/
theorem applied (h : S.Attends known stored objects scene) {number : Nat} {key : String}
    {dispatch : Dispatch} {flight : Flight}
    (exchange : scene.exchange? number = some (key, some dispatch, flight))
    (destination : Destination) :
    S.Due known key ∧
      contents objects (scene.deeds ++ [.applied key destination dispatch]) (S.place key) =
        S.goal key ∧
      ∀ url, url ≠ S.place key →
        contents objects (scene.deeds ++ [.applied key destination dispatch]) url =
          contents objects scene.deeds url := by
  obtain ⟨⟨toDestination, belowEndpoint⟩, -, url⟩ :=
    Scene.dispatch_of_exchange h.sound h.bound exchange
  obtain ⟨worker, action, rest, found, atWork, pending⟩ := Scene.exchange?_eq_some exchange
  obtain ⟨intended, payload⟩ := h.intends _ _ found _ _ _ _ atWork pending
  obtain ⟨verb, -⟩ := (h.sound.launched _ _ found _ _ _ _ atWork pending).2 dispatch rfl
  rw [show flight.request.endpoint = S.endpoint from belowEndpoint,
    show flight.request.registration.destination = S.destination from toDestination] at url
  have member := h.due _ _ found (key, action) (by rw [pending]; exact List.mem_cons_self)
  exact ⟨due_of_mem member,
    contents_applied url (by rw [verb, intended]) (payload dispatch rfl)⟩

/-- A batch that is about to be started gets the actions that are due. Neither catalog nor change
cache can have changed since its comparison. -/
theorem actions_of_launching (h : S.Attends known stored objects scene) {destination : String}
    {actions : List (String × Action)} (launching : scene.machine.Launching destination actions) :
    actions = difference S.catalog scene.machine.written := by
  rcases launching with atPass | atPass
  · exact h.passes .owner _ _ (Machine.passAt?_owner.2 atPass)
  · exact h.passes .watcher _ _ (Machine.passAt?_watcher.2 atPass)

variable {label : Label} {machine : Machine}

theorem due_of_step (h : S.Attends known stored objects scene)
    (moved : scene.machine.Transition label machine result) {number : Nat} {worker : Worker}
    (found : machine.hub.batch? number = some worker) :
    ∀ item ∈ worker.pending, item ∈ difference S.catalog known := by
  cases moved.origin found with
  | kept before => exact h.due _ _ before
  | @cancelled worker before =>
    obtain ⟨point, same⟩ := worker.cancel_eq
    rw [same]
    exact fun item member => h.due number worker before item member
  | stepped _ before worked =>
    obtain ⟨-, fewer, -⟩ := Worker.kept_of_step worked
    exact fun item member => h.due _ _ before item (fewer member)
  | launched launching =>
    intro item member
    rw [h.actions_of_launching launching] at member
    exact h.toward.mem_difference member

/-- The file that a batch has encoded is the preview of its photo. Previews are given by the
setting, so two passes over the same photo upload the same object. -/
theorem eq_preview_of_allows {number : Nat} {worker : Worker} {key : String} {action : Action}
    {rest : List (String × Action)} {image : Image} {file : Bytes}
    (allowed : S.allows scene (.step (.worker number (.file (.ok file)))) = true)
    (found : scene.machine.hub.batch? number = some worker)
    (atWork : worker.point = .working (.reencoding (.encoding image)))
    (pending : worker.pending = (key, action) :: rest) : file = S.preview key := by
  have encoding : scene.encoding? number = some key := by
    rw [Scene.encoding?, found]
    dsimp only [Option.bind_eq_bind, Option.bind_some]
    rw [atWork, pending]
  rw [allows, encoding] at allowed
  exact beq_iff_eq.1 allowed

theorem intends_of_step (h : S.Attends known stored objects scene)
    (allowed : S.allows scene (.step label) = true)
    (moved : scene.machine.Transition label machine result) {number : Nat} {worker : Worker}
    (found : machine.hub.batch? number = some worker) :
    worker.AtWork fun key _ stage => stage.Intends (S.operation key) := by
  cases moved.origin found with
  | kept before => exact h.intends _ _ before
  | cancelled before =>
    exact (h.intends _ _ before).cancel fun _ _ _ => Stage.intends_cancel
  | launched => rintro _ _ _ _ ⟨⟩
  | stepped own before worked =>
    refine Worker.intends_of_step (h.intends _ _ before) worked ?_ ?_
    · intro key member
      rcases action_of_mem (h.due _ _ before _ member) with ⟨⟨⟩, -⟩ | ⟨-, absent⟩
      exact if_neg absent
    · rintro key action rest image file pending atWork rfl
      have member := h.due _ _ before (key, action) (by rw [pending]; exact List.mem_cons_self)
      have isAdd : action = .add :=
        Scene.suits_of_sound (h.sound.sound _ _ before) _ _ _ _ atWork pending
      subst own
      rw [eq_preview_of_allows allowed before atWork pending]
      rcases action_of_mem member with ⟨-, inCatalog⟩ | ⟨isRemove, -⟩
      · exact if_pos inCatalog
      · rw [isAdd] at isRemove
        cases isRemove

/-- A worker settles a photo only when its object is the one that it is to have. A photo that was
uploaded but not recorded is not settled: it will be uploaded again. -/
theorem of_work (h : S.Attends known stored objects scene) {number : Nat} {answer : Answer}
    {worker worker' : Worker} {shared : Shared}
    (found : scene.machine.hub.batch? number = some worker)
    (stepped : worker.step scene.machine.hub.config scene.machine.hub.toShared answer =
      some (shared, worker'))
    (next : machine = { scene.machine with
      hub.toShared := shared
      hub.batches := scene.machine.hub.batches.set number worker' }) :
    S.Toward known stored machine.written (contents objects scene.deeds) ∧
      ∀ only, machine.hub.batches = [only] → S.IsLeftTo machine.written only := by
  subst next
  have kept := h.remembers.isKept_of_batch found
  have toward := h.toward
  have left := h.left worker
  rw [Machine.written, kept.written_eq] at toward left
  rw [Machine.written, (Worker.isKept_of_step stepped kept).written_eq]
  rcases Worker.settles_cases stepped (h.due _ _ found) with
    ⟨sameKeys, still⟩ | ⟨key, action, rest, atWork, pending, settles, others⟩
  · rw [sameKeys]
    refine ⟨toward, fun only single item member => ?_⟩
    obtain ⟨alone, rfl⟩ := eq_singleton_of_set found single
    exact still item (left alone item member)
  · have member := h.due _ _ found (key, action) (by rw [pending]; exact List.mem_cons_self)
    have reached := h.vouches _ _ found _ _ _ _ atWork pending trivial
    refine ⟨toward.settle (due_of_mem member) reached settles, fun only single item later => ?_⟩
    obtain ⟨alone, rfl⟩ := eq_singleton_of_set found single
    obtain ⟨earlier, other⟩ := mem_difference_of_settles settles later
    exact others item other (left alone item earlier)

/-- While nobody works, what is due stays due, and a batch that is started gets all of it. This
covers the time between two passes, and between two sessions. -/
theorem left_of_other (h : S.Attends known stored objects scene)
    (other : ∀ number answer, label ≠ .worker number answer)
    (moved : scene.machine.Transition label machine result) {only : Worker}
    (single : machine.hub.batches = [only]) : S.IsLeftTo scene.machine.written only := by
  rcases moved.single_cases other single with
    ⟨worker, before, samePending, sameReport⟩ | ⟨destination, launching⟩
  · intro item member
    rw [Worker.Leaves, samePending, sameReport]
    exact h.left worker before item member
  · intro item member
    rw [← h.actions_of_launching launching] at member
    exact .inl member

/-- What a step that is allowed tells about the frames of requests. The destination of a setting is
never registered anew for another place. -/
theorem keeps_of_allows (allowed : S.allows scene (.step label) = true) :
    label.Keeps (· = S.identifier)
      (fun frame => frame.1.destination = S.destination ∧ frame.2 = S.endpoint) S.endpoint := by
  cases label with
  | call call =>
    cases call with
    | begin file name => exact beq_iff_eq.1 allowed
    | _ => trivial
  | register name profile destination =>
    intro same
    rw [allows, same] at allowed
    simpa [Store.Request.frame] using allowed
  | _ => trivial

/-- A pass is told the keys of the catalog. The catalog of a setting does not change. -/
theorem eq_catalog_of_admits (h : S.Attends known stored objects scene)
    (admitted : scene.admits label = true) {party : Party} {keys : List String}
    (told : label.passAnswer? party = some (.keys (.ok keys))) : keys = S.catalog := by
  rw [← h.catalog]
  cases party with
  | owner =>
    cases Machine.passAnswer?_owner.1 told
    exact beq_iff_eq.1 admitted
  | watcher =>
    cases Machine.passAnswer?_watcher.1 told
    exact beq_iff_eq.1 admitted

/-- A step of the machine leaves what is written on the way, and what is due is left to the only
batch. -/
theorem toward_of_step (h : S.Attends known stored objects scene)
    (moved : scene.machine.Transition label machine result)
    (same : (∀ number answer, label ≠ .worker number answer) →
      machine.written = scene.machine.written) :
    S.Toward known stored machine.written (contents objects scene.deeds) ∧
      ∀ only, machine.hub.batches = [only] → S.IsLeftTo machine.written only := by
  rcases moved.worker_cases with
    ⟨number, answer, worker, shared, worker', -, found, worked, next⟩ | other
  · exact h.of_work found worked next
  · rw [same other]
    exact ⟨h.toward, fun only single => h.left_of_other other moved single⟩

/-- Every cue that leaves the setting as it is keeps the program on the way. Requests may fail,
files may be unreadable and sessions may be stopped at any moment. -/
theorem step (h : S.Attends known stored objects scene) (apart : S.Separates known)
    (allowed : S.allows scene cue = true) (stepped : scene.step cue = some (scene', result)) :
    S.Attends known stored objects scene' := by
  have sound := h.sound.step stepped
  have bound := Scene.keptTo_of_step h.bound (fun label same => by
    subst same
    exact keeps_of_allows allowed) stepped
  have vouches := h.vouches.step h.sound stepped
    fun number key dispatch flight action exchange _ _ => (h.applied exchange _).2.1
  rcases Scene.step_cases stepped with
    ⟨label, machine, rfl, admitted, moved, rfl⟩ | ⟨catalog, rfl, -, rfl⟩ |
      ⟨number, key, dispatch, flight, -, -, exchange, rfl⟩
  · have taken := Scene.machine_of_step stepped
    have there : ∀ trouble, label = .owner (.load trouble) → trouble .read ≠ some .notFound := by
      rintro trouble rfl
      exact bne_iff_ne.1 allowed
    obtain ⟨remembers, same⟩ := h.remembers.step taken there
    obtain ⟨toward, left⟩ := h.toward_of_step moved same
    exact {
      sound, bound, remembers, vouches, left
      catalog := h.catalog
      toward := by
        rw [contents_forgotten]
        exact toward
      passes := fun party destination pass after =>
        Machine.carries_of_step h.passes h.sound.singleFlight h.remembers taken same
          (fun party keys => h.eq_catalog_of_admits admitted) after
      due := fun number worker => h.due_of_step moved
      intends := fun number worker => h.intends_of_step allowed moved }
  · exact { h with sound, bound, vouches, catalog := beq_iff_eq.1 allowed }
  · obtain ⟨due, written, others⟩ :=
      h.applied exchange flight.request.registration.destination
    exact { h with sound, bound, vouches, toward := h.toward.write due apart written others }

/-- A pass that is told to be up to date has found the keys of the catalog. At this point nothing is
due, so every object is as it is to be. -/
theorem isInLine_of_upToDate (h : S.Attends known stored objects scene)
    (returned : scene.step cue = some (scene', some (.passed (.ok .upToDate)))) :
    S.IsInLine scene' := by
  obtain ⟨⟨keys, rfl⟩, agreeing⟩ := Scene.upToDate_cases returned
  have taken := Scene.machine_of_step returned
  have running : ∃ destination pass, scene.machine.owner = .passing destination pass := by
    rcases Machine.return_cases taken with
      ⟨fault, other⟩ | ⟨destination, pass, told, verdict, atPass, -⟩ | ⟨-, verdict, other⟩
    · rcases other with other | other <;> cases other
    · exact ⟨destination, pass, atPass⟩
    · cases other
  obtain ⟨destination, pass, atPass⟩ := running
  have kept := h.remembers.isKept_of_passAt (Machine.passAt?_owner.2 atPass)
  have sameCatalog : scene'.catalog = S.catalog := by
    rw [← h.catalog]
    rcases Scene.step_cases returned with
      ⟨label, machine, -, -, -, rfl⟩ | ⟨catalog, ⟨⟩, -⟩ | ⟨number, key, dispatch, flight, ⟨⟩, -⟩
    rfl
  rw [sameCatalog] at agreeing
  exact ⟨(Machine.transition_of_step taken).isKept nofun kept, fun key => (agreeing key).symm⟩

/-- At the end of a pass in which every step has succeeded, the recorded keys are those of the
catalog. -/
theorem isInLine_of_isComplete (h : S.Attends known stored objects scene)
    (upToDate : result = some (.passed (.ok .upToDate)) → S.IsInLine scene)
    (complete : scene.isComplete result = true) : S.IsInLine scene := by
  rcases Scene.isComplete_cases complete with told | ⟨worker, report, single, ended, clean⟩
  · exact upToDate told
  · -- What is due would be left by the only batch, which has left nothing.
    have found : scene.machine.hub.batch? 0 = some worker := by rw [Hub.batch?, single]; rfl
    have kept := h.remembers.isKept_of_batch found
    have nothing : difference S.catalog scene.machine.written = [] := by
      refine List.eq_nil_iff_forall_not_mem.2 fun item member => ?_
      exact (h.sound.sound 0 worker found).not_leaves ended clean item
        (h.left worker single item member)
    rw [Machine.written, kept.written_eq] at nothing
    exact ⟨kept, fun key => (difference_eq_nil_iff.1 nothing key).symm⟩

end Attends

/-- Nothing is due when the recorded keys are those of the catalog. Keys are compared and not
objects, so this says something because keys are recorded last. -/
theorem IsInLine.not_due {S : Setting} {scene : Scene} (h : S.IsInLine scene) (key : String) :
    ¬ S.Due scene.machine.written key := by
  rw [Machine.written, h.1.written_eq, Due, not_not]
  exact (h.2 key).symm

section Reaches

variable {S : Setting} {known : KeySet} {stored objects : String → Option Payload} {cache : Cache}
  {disk : Disk} {scene : Scene} {result : Option Return}

/-- A program stays on the way on which it begins, and is up to date only when the recorded keys are
those of the catalog. -/
theorem Reaches.attends (h : S.Reaches cache disk scene result) (reachable : cache.IsReachable disk)
    (toward : S.Toward known stored (cache.written disk) objects) (apart : S.Separates known) :
    S.Attends known stored objects scene ∧
      (result = some (.passed (.ok .upToDate)) → S.IsInLine scene) := by
  refine h.induction (p := fun scene result => S.Attends known stored objects scene ∧
    (result = some (.passed (.ok .upToDate)) → S.IsInLine scene)) ?_ ?_
  · intro config client serves
    exact ⟨.start serves reachable toward, nofun⟩
  · intro scene scene' before after cue here allowed stepped
    refine ⟨here.1.step apart allowed stepped, ?_⟩
    rintro rfl
    exact here.1.isInLine_of_upToDate stepped

/-- A program that goes on after an interruption, and runs one pass in which every step succeeds,
leaves what a single program would have left that runs one such pass from the beginning: the
recorded keys are those of the catalog, the objects in the store are the same, and objects of no
photo that was due at the beginning are never touched. The interruption may come at any step, in
particular between a request that was applied and the change of the cache that would have recorded
it; the request is then made a second time, to the same effect. -/
theorem resumed_eq {cut resumed single : Scene} {first last only : Option Return}
    (reachable : cache.IsReachable disk) (apart : S.Separates (cache.written disk))
    (interrupted : S.Reaches cache disk cut first)
    (goesOn : S.Reaches cut.machine.hub.cache.renew cut.machine.hub.disk resumed last)
    (completed : resumed.isComplete last = true)
    (alone : S.Reaches cache disk single only) (completedAlone : single.isComplete only = true) :
    (∀ key, key ∈ resumed.machine.hub.cache.keys ↔ key ∈ S.catalog) ∧
      resumed.machine.written = resumed.machine.hub.cache.keys ∧
      contents (contents stored cut.deeds) resumed.deeds = contents stored single.deeds ∧
      ∀ url, (∀ item ∈ difference S.catalog (cache.written disk), S.place item.1 ≠ url) →
        contents stored cut.deeds url = stored url ∧
          contents (contents stored cut.deeds) resumed.deeds url = stored url := by
  have begun : S.Toward (cache.written disk) stored (cache.written disk) stored := .refl
  have cutAttends := (interrupted.attends reachable begun apart).1
  have toward := cutAttends.toward
  -- The second program is taken to be on the way of the first one, whose keys it begins with.
  obtain ⟨attends, upToDate⟩ := goesOn.attends
    (Cache.isReachable_renew cutAttends.remembers.reachable)
    (by rw [Cache.written_renew]; exact toward) apart
  have inLine := attends.isInLine_of_isComplete upToDate completed
  obtain ⟨attendsAlone, upToDateAlone⟩ := alone.attends reachable begun apart
  have inLineAlone := attendsAlone.isInLine_of_isComplete upToDateAlone completedAlone
  refine ⟨inLine.2, inLine.1.written_eq, ?_, fun url outside => ?_⟩
  · exact attends.toward.objects_eq attendsAlone.toward inLine.not_due inLineAlone.not_due
  · have elsewhere : ∀ key, S.Due (cache.written disk) key → S.place key ≠ url := by
      intro key due
      obtain ⟨action, member⟩ := due_iff.1 due
      exact outside (key, action) member
    exact ⟨toward.elsewhere url elsewhere, attends.toward.elsewhere url elsewhere⟩

end Reaches

open Scene (clientOfOne)

/-- One photo is to be uploaded, and another one is recorded already. -/
def ofTwo : Setting where
  identifier := "home"
  endpoint := clientOfOne.endpoint
  destination := ⟨"photos", ""⟩
  catalog := ["A", "B"]
  preview := fun _ => [1]

/-- A photo that has left the catalog is removed, as far as the change cache. -/
def cuesOfRemoval : List Cue :=
  Cue.worker 0 [.proceed, .proceed, .proceed, .proceed, .time .epoch] ++ .apply 0 ::
    Cue.worker 0 [.event (.respond 204 []), .proceed, .proceed, .proceed]

/-- The upload is applied, but the connection breaks before the answer; the removal is applied, but
it cannot be recorded. -/
def cuesOfCut : List Cue :=
  Cue.beginning "photos.lrcat" "home" ++ Cue.launching ["A", "B"] ++
    Cue.worker 0
      [.proceed, .entry (.ok (some ⟨"A", "A.lrprev", [⟨1, 220⟩]⟩)), .file (.ok [2]), .proceed,
        .image (.ok ⟨1, 1, [0, 0, 0]⟩), .file (.ok [1]), .proceed, .proceed, .proceed, .proceed,
        .time .epoch] ++ .apply 0 ::
    Cue.worker 0 [.event (.fail "connection reset"), .proceed, .proceed, .proceed, .proceed] ++
    cuesOfRemoval ++ Cue.worker 0 [.refuse (.disk .other)]

/-- Every step of a pass succeeds. -/
def cuesOfPass : List Cue :=
  Cue.beginning "photos.lrcat" "home" ++ Cue.launching ["A", "B"] ++
    Cue.uploading 0 ⟨"A", "A.lrprev", [⟨1, 220⟩]⟩ [1] ++ cuesOfRemoval ++
    Cue.worker 0 [.record .absent, .proceed]

/-- A program that is cut off leaves both actions unrecorded, and the next one does both again. -/
theorem exists_resumed_of_two :
    ∃ cut first resumed last,
      ofTwo.play (Scene.start {} clientOfOne (Cache.inMemory ["B", "C"]) {} ofTwo.catalog)
          cuesOfCut = some (cut, first) ∧
        ofTwo.play (Scene.start {} clientOfOne cut.machine.hub.cache.renew cut.machine.hub.disk
          ofTwo.catalog) cuesOfPass = some (resumed, last) ∧
        (cut.machine.hub.cache.keys.toList, cut.deeds.length, resumed.isComplete last) =
          (["B", "C"], 2, true) := by
  have seen : ((ofTwo.play (Scene.start {} clientOfOne (Cache.inMemory ["B", "C"]) {}
      ofTwo.catalog) cuesOfCut).bind fun cut =>
        (ofTwo.play (Scene.start {} clientOfOne cut.1.machine.hub.cache.renew
          cut.1.machine.hub.disk ofTwo.catalog) cuesOfPass).map fun resumed =>
            (cut.1.machine.hub.cache.keys.toList, cut.1.deeds.length,
              resumed.1.isComplete resumed.2)) = some (["B", "C"], 2, true) := by
    decide +kernel
  obtain ⟨⟨cut, first⟩, played, seen⟩ := Option.bind_eq_some_iff.1 seen
  obtain ⟨⟨resumed, last⟩, played', seen⟩ := Option.map_eq_some_iff.1 seen
  exact ⟨cut, first, resumed, last, played, played', seen⟩

theorem exists_single_of_two :
    ∃ single only, ofTwo.play (Scene.start {} clientOfOne (Cache.inMemory ["B", "C"]) {}
        ofTwo.catalog) cuesOfPass = some (single, only) ∧ single.isComplete only = true := by
  have seen : (ofTwo.play (Scene.start {} clientOfOne (Cache.inMemory ["B", "C"]) {}
      ofTwo.catalog) cuesOfPass).map (fun single => single.1.isComplete single.2) = some true := by
    decide +kernel
  obtain ⟨⟨single, only⟩, played, completed⟩ := Option.map_eq_some_iff.1 seen
  exact ⟨single, only, played, completed⟩

/-- After both actions were left unrecorded, the store is in the end as after one pass. -/
theorem resumed_eq_of_two :
    ∃ cut first resumed last single only,
      ofTwo.Reaches (Cache.inMemory ["B", "C"]) {} cut first ∧
      (cut.machine.hub.cache.keys.toList, cut.deeds.length) = (["B", "C"], 2) ∧
      ofTwo.Reaches cut.machine.hub.cache.renew cut.machine.hub.disk resumed last ∧
      resumed.isComplete last = true ∧
      ofTwo.Reaches (Cache.inMemory ["B", "C"]) {} single only ∧ single.isComplete only = true ∧
      ((∀ key, key ∈ resumed.machine.hub.cache.keys ↔ key ∈ ofTwo.catalog) ∧
        resumed.machine.written = resumed.machine.hub.cache.keys ∧
        contents (contents (fun _ => none) cut.deeds) resumed.deeds =
          contents (fun _ => none) single.deeds ∧
        ∀ url, (∀ item ∈ difference ofTwo.catalog
            ((Cache.inMemory ["B", "C"]).written {}), ofTwo.place item.1 ≠ url) →
          contents (fun _ => none) cut.deeds url = none ∧
            contents (contents (fun _ => none) cut.deeds) resumed.deeds url = none) := by
  obtain ⟨cut, first, resumed, last, played, played', seen⟩ := exists_resumed_of_two
  obtain ⟨single, only, playedAlone, completedAlone⟩ := exists_single_of_two
  have serves : ofTwo.Serves clientOfOne := by
    refine ⟨rfl, ?_⟩
    rintro _ ⟨⟩
    rfl
  have reachable : (Cache.inMemory ["B", "C"]).IsReachable {} := by
    rintro file content ⟨⟩
  have named : ∀ key, key ∈ ofTwo.catalog ∨ key ∈ (Cache.inMemory ["B", "C"]).written {} →
      IsName key := by
    intro key member
    have listed : key ∈ ["A", "B"] ++ ["B", "C"] :=
      List.mem_append.2 (member.imp_right KeySet.mem_ofList.1)
    simp only [List.cons_append, List.nil_append, List.mem_cons, List.not_mem_nil, or_false]
      at listed
    rcases listed with rfl | rfl | rfl | rfl <;> rw [IsName] <;> decide
  have apart : ofTwo.Separates ((Cache.inMemory ["B", "C"]).written {}) :=
    fun key other here there same => separate_address ofTwo.endpoint ofTwo.destination key other
      (named key here) (named other there) same
  have interrupted : ofTwo.Reaches (Cache.inMemory ["B", "C"]) {} cut first :=
    ⟨{}, clientOfOne, cuesOfCut, serves, played⟩
  have goesOn : ofTwo.Reaches cut.machine.hub.cache.renew cut.machine.hub.disk resumed last :=
    ⟨{}, clientOfOne, cuesOfPass, serves, played'⟩
  have alone : ofTwo.Reaches (Cache.inMemory ["B", "C"]) {} single only :=
    ⟨{}, clientOfOne, cuesOfPass, serves, playedAlone⟩
  obtain ⟨sameKeys, seen⟩ := Prod.mk.inj seen
  obtain ⟨twoDeeds, completed⟩ := Prod.mk.inj seen
  exact ⟨cut, first, resumed, last, single, only, interrupted, by rw [sameKeys, twoDeeds], goesOn,
    completed, alone, completedAlone,
    resumed_eq reachable apart interrupted goesOn completed alone completedAlone⟩

end Setting

end PreviewSync.Sync
