import PreviewSync.Proofs.Sync.UpToDate

/-!
# Photos that share an object

The object key of a photo is made from its key as it stands, but slashes in front of an object key
do not count. So photos have one URL when their keys are the same behind such slashes, and then the
removal of one deletes what was uploaded for the other, even within one batch. Keys that differ in
anything else have different URLs, at every destination and below every endpoint.

Different URLs may still be read as one address, since a transport resolves dot segments: the keys
`A/../a` and `a` are sent to one target. Object paths without dot segments are not, below a site
that holds neither blanks nor a query.

## Main Definitions

* `Scene.Addressed` — every request is made for the URL of its own photo
* `Scene.shared_iff_of_run` — when the requests of a run are for one URL, or sent to one target
* `Scene.removed_of_twins` — batches that remove what they have uploaded
-/

namespace PreviewSync.Sync

open Store (Client Dispatch Registration Request)
open Text (isSlash trimStart)
open Wire (Address HasDots)

namespace Scene

/-- What holds of every scene: whatever has been applied was for the address of its photo. -/
structure Addressed (endpoint : Option String) (scene : Scene) : Prop where
  sound : scene.IsSound
  bound : scene.machine.KeptTo (fun _ => True) (fun frame => frame.2 = endpoint) endpoint
  deeds : ∀ key destination dispatch, .applied key destination dispatch ∈ scene.deeds →
    dispatch.url = address endpoint destination key

variable {config : Config} {client : Client} {cache : Cache} {disk : Disk} {catalog : List String}
  {endpoint : Option String} {cues : List Cue} {cue : Cue} {result : Option Return}
  {scene scene' : Scene}

namespace Addressed

theorem start : (Scene.start config client cache disk catalog).Addressed client.endpoint where
  sound := .start
  bound := .make fun _ _ _ _ => rfl
  deeds := nofun

theorem step (h : scene.Addressed endpoint) (stepped : scene.step cue = some (scene', result)) :
    scene'.Addressed endpoint := by
  refine ⟨h.sound.step stepped,
    keptTo_of_step h.bound (fun label _ => label.keeps_endpoint endpoint) stepped, ?_⟩
  rcases step_cases stepped with
    ⟨_, _, -, -, -, rfl⟩ | ⟨_, -, -, rfl⟩ | ⟨number, key, dispatch, flight, -, -, exchange, rfl⟩
  · intro key destination dispatch member
    rcases List.mem_append.1 member with before | forgotten
    · exact h.deeds key destination dispatch before
    · obtain ⟨_, -, ⟨⟩⟩ := List.mem_map.1 forgotten
  · exact h.deeds
  · intro key' destination dispatch' member
    rcases List.mem_append.1 member with before | here
    · exact h.deeds key' destination dispatch' before
    · obtain ⟨located, -, url⟩ := dispatch_of_exchange h.sound h.bound exchange
      cases List.mem_singleton.1 here
      rw [url, show flight.request.endpoint = endpoint from located]

end Addressed

/-- For every destination and every endpoint, two photos have one URL iff their keys are the same
behind their slashes in front. So in every run, a request for one photo, such as a removal, is made
for the URL of a request for another one, such as an upload, iff their keys are the same in that
respect. If in addition there are no dot segments in their object paths, and a transport can make an
address of the URLs below the endpoint, then the one request is sent where the other is on the same
condition. -/
theorem shared_iff_of_run
    (ran : (Scene.start config client cache disk catalog).run cues = some scene) :
    (∀ (request : Request) (key other : String),
      request.url (objectKey key) = request.url (objectKey other) ↔
        trimStart isSlash key = trimStart isSlash other) ∧
    ∀ destination key other uploaded removed,
      .applied key destination uploaded ∈ scene.deeds →
      .applied other destination removed ∈ scene.deeds →
      (removed.url = uploaded.url ↔ trimStart isSlash other = trimStart isSlash key) ∧
      (Store.IsPlainBase client.endpoint destination.bucket →
        ¬ HasDots (destination.objectPath (objectKey key)) →
        ¬ HasDots (destination.objectPath (objectKey other)) →
        ∀ reached, Address.read? uploaded.url = some reached →
          (Address.read? removed.url = some reached ↔
            trimStart isSlash other = trimStart isSlash key)) := by
  have addressed : scene.Addressed client.endpoint :=
    run_induction ran .start fun _ _ _ _ _ before stepped => before.step stepped
  refine ⟨fun request key other => request.url_objectKey_eq_iff, ?_⟩
  intro destination key other uploaded removed upload removal
  rw [addressed.deeds key destination uploaded upload,
    addressed.deeds other destination removed removal]
  exact ⟨address_eq_iff, fun plain noDots noDots' _ read =>
    read?_address_eq_iff plain noDots noDots' read⟩

/-- A batch uploads a photo, and then removes the photo that was there before. Keys are settled in
increasing order, so the key of the upload has to come first. -/
def cuesOfReplacing (key : String) : List Cue :=
  Cue.beginning "photos.lrcat" "home" ++ Cue.launching [key] ++
    Cue.uploading 0 ⟨key, "a.lrprev", [⟨1, 220⟩]⟩ [1] ++
    Cue.worker 0 [.proceed, .proceed, .proceed, .proceed, .time .epoch] ++ [.apply 0]

/-- The requests that have been applied. -/
def requests (deeds : List Deed) : List (String × Destination × Verb × String) :=
  deeds.filterMap fun
    | .applied key destination dispatch => some (key, destination, dispatch.verb, dispatch.url)
    | .forgotten _ => none

theorem exists_of_mem_requests {deeds : List Deed} {key : String} {destination : Destination}
    {verb : Verb} {url : String} (h : (key, destination, verb, url) ∈ requests deeds) :
    ∃ dispatch, .applied key destination dispatch ∈ deeds ∧ dispatch.verb = verb ∧
      dispatch.url = url := by
  obtain ⟨_ | _, member, same⟩ := List.mem_filterMap.1 h <;> cases same
  exact ⟨_, member, rfl, rfl⟩

/-- The two requests of a batch that replaces `a`, and whether the first photo has an object
afterwards. -/
theorem exists_of_replacing {key url url' : String} {held : Bool}
    (seen : ((Scene.start {} clientOfOne (Cache.inMemory ["a"]) {} [key]).run
        (cuesOfReplacing key)).map (fun scene => (requests scene.deeds, present url scene.deeds)) =
      some ([(key, ⟨"photos", ""⟩, .put, url), ("a", ⟨"photos", ""⟩, .delete, url')], held)) :
    ∃ scene uploaded removed,
      (Scene.start {} clientOfOne (Cache.inMemory ["a"]) {} [key]).run (cuesOfReplacing key) =
        some scene ∧
      .applied key ⟨"photos", ""⟩ uploaded ∈ scene.deeds ∧ uploaded.verb = .put ∧
      .applied "a" ⟨"photos", ""⟩ removed ∈ scene.deeds ∧ removed.verb = .delete ∧
      uploaded.url = url ∧ removed.url = url' ∧ present url scene.deeds = held := by
  obtain ⟨scene, ran, looked⟩ := Option.map_eq_some_iff.1 seen
  obtain ⟨applied, left⟩ := Prod.mk.inj looked
  obtain ⟨uploaded, upload, isPut, putUrl⟩ :=
    exists_of_mem_requests (applied ▸ List.mem_cons_self)
  obtain ⟨removed, removal, isDelete, deleteUrl⟩ :=
    exists_of_mem_requests (applied ▸ List.mem_cons_of_mem _ List.mem_cons_self)
  exact ⟨scene, uploaded, removed, ran, upload, isPut, removal, isDelete, putUrl, deleteUrl, left⟩

/-- Two photos whose keys differ in a slash in front have one URL, and a batch that removes one of
them deletes what it has uploaded for the other. And two photos whose keys differ in a detour have
different URLs, but these are read as one address, so the same batch deletes what it has uploaded
for the other as well. -/
theorem removed_of_twins :
    ("/a" ≠ "a" ∧
      (∀ registration, clientOfOne.find? "home" = some registration →
        Request.url { registration, endpoint := clientOfOne.endpoint } (objectKey "/a") =
          Request.url { registration, endpoint := clientOfOne.endpoint } (objectKey "a")) ∧
      ∃ scene uploaded removed,
        (Scene.start {} clientOfOne (Cache.inMemory ["a"]) {} ["/a"]).run (cuesOfReplacing "/a") =
          some scene ∧
        .applied "/a" ⟨"photos", ""⟩ uploaded ∈ scene.deeds ∧ uploaded.verb = .put ∧
        .applied "a" ⟨"photos", ""⟩ removed ∈ scene.deeds ∧ removed.verb = .delete ∧
        removed.url = uploaded.url ∧ present uploaded.url scene.deeds = false) ∧
    ∃ scene uploaded removed,
      (Scene.start {} clientOfOne (Cache.inMemory ["a"]) {} ["A/../a"]).run
          (cuesOfReplacing "A/../a") = some scene ∧
        .applied "A/../a" ⟨"photos", ""⟩ uploaded ∈ scene.deeds ∧ uploaded.verb = .put ∧
        .applied "a" ⟨"photos", ""⟩ removed ∈ scene.deeds ∧ removed.verb = .delete ∧
        removed.url ≠ uploaded.url ∧
        Address.read? uploaded.url = some ⟨false, "localhost", none, "/photos/a.jpg"⟩ ∧
        Address.read? removed.url = some ⟨false, "localhost", none, "/photos/a.jpg"⟩ := by
  constructor
  · refine ⟨by decide, fun registration _ => Request.url_objectKey_eq_iff _ |>.2 (by decide), ?_⟩
    obtain ⟨scene, uploaded, removed, ran, upload, isPut, removal, isDelete, putUrl, deleteUrl,
        left⟩ :=
      @exists_of_replacing "/a" "http://localhost/photos/a.jpg" "http://localhost/photos/a.jpg"
        false (by decide +kernel)
    rw [← putUrl] at left deleteUrl
    exact ⟨scene, uploaded, removed, ran, upload, isPut, removal, isDelete, deleteUrl, left⟩
  · obtain ⟨scene, uploaded, removed, ran, upload, isPut, removal, isDelete, putUrl, deleteUrl,
        -⟩ :=
      @exists_of_replacing "A/../a" "http://localhost/photos/A/../a.jpg"
        "http://localhost/photos/a.jpg" true (by decide +kernel)
    refine ⟨scene, uploaded, removed, ran, upload, isPut, removal, isDelete, ?_, ?_, ?_⟩
    · rw [putUrl, deleteUrl]
      decide
    · rw [putUrl]
      decide +kernel
    · rw [deleteUrl]
      decide +kernel

/-- A batch that removes a photo leaves what it has uploaded for another one alone, since their keys
differ in more than a slash in front: the removal is made for another URL, and is sent to another
target. -/
theorem shared_iff_of_replacing :
    ∃ scene uploaded removed,
      (Scene.start {} clientOfOne (Cache.inMemory ["a"]) {} ["A"]).run (cuesOfReplacing "A") =
        some scene ∧
      .applied "A" ⟨"photos", ""⟩ uploaded ∈ scene.deeds ∧ uploaded.verb = .put ∧
      .applied "a" ⟨"photos", ""⟩ removed ∈ scene.deeds ∧ removed.verb = .delete ∧
      removed.url ≠ uploaded.url ∧
      Address.read? uploaded.url = some ⟨false, "localhost", none, "/photos/A.jpg"⟩ ∧
      Address.read? removed.url ≠ some ⟨false, "localhost", none, "/photos/A.jpg"⟩ := by
  obtain ⟨scene, uploaded, removed, ran, upload, isPut, removal, isDelete, putUrl, -⟩ :=
    @exists_of_replacing "A" "http://localhost/photos/A.jpg" "http://localhost/photos/a.jpg" true
      (by decide +kernel)
  obtain ⟨sameUrl, sameTarget⟩ := (shared_iff_of_run ran).2 _ _ _ _ _ upload removal
  have plain : Store.IsPlainBase clientOfOne.endpoint "photos" := by
    refine ⟨?_, Text.forall_mem_of_all (by decide), by decide⟩
    rintro site ⟨⟩
    exact Text.forall_mem_of_all (by decide)
  have read : Address.read? uploaded.url = some ⟨false, "localhost", none, "/photos/A.jpg"⟩ := by
    rw [putUrl]
    decide +kernel
  have apart : ¬ trimStart isSlash "a" = trimStart isSlash "A" := by decide
  exact ⟨scene, uploaded, removed, ran, upload, isPut, removal, isDelete,
    fun same => apart (sameUrl.1 same), read, fun same =>
      apart ((sameTarget plain (by decide +kernel) (by decide +kernel) _ read).1 same)⟩

end Scene

end PreviewSync.Sync
