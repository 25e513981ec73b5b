import PreviewSync.Proofs.Catalog.Entry
import PreviewSync.Proofs.Sync.Batch

/-!
# Entries without a level

A worker asks the catalog for the entry of each photo that it uploads, and goes on with the level
that is closest to the configured length. Only an entry that has no level at all has no closest one.
So the failures that a batch reports for want of a level are those of the entries without a level
that the catalog answered with: all of them, nothing else, and in the order of the answers.

## Main Definitions

* `ItemFault.isAboutLevels` — the fault that an item fails with for want of a level
* `Course.found` — the entries that the catalog answers with while a course is run
* `shortages` — the failures that entries lead to for want of a level
* `Course.run_levels` — the closest level, and that the report lists these failures
-/

namespace PreviewSync.Sync

/-- Whether an item failed for want of a level. This depends on the entry of its photo alone, and
not on files or on the store. -/
def ItemFault.isAboutLevels : ItemFault → Bool
  | noPreviewLevel _ => true
  | _ => false

/-- The entry that the catalog answers with, if it does and has one. -/
def Answer.entry? : Answer → Option CatalogEntry
  | entry (.ok found) => found
  | _ => none

/-- The failures that entries lead to for want of a level, when they are found for some keys. The
list is made from the answers of the catalog alone, so it says what a report has to hold without
looking at one. -/
def shortages (config : Config) (found : List (String × CatalogEntry)) :
    List (String × ItemFault) :=
  (found.filter fun entry => entry.2.levels = []).map fun entry =>
    (entry.1, .noPreviewLevel config.longestEdge)

theorem shortages_append {config : Config} {found more : List (String × CatalogEntry)} :
    shortages config (found ++ more) = shortages config found ++ shortages config more := by
  rw [shortages, List.filter_append, List.map_append]
  rfl

/-! ### One item -/

/-- The failure for want of a level that the progress of an item stands for. As a list it can be put
behind those that were noted before. -/
def Progress.shortage (key : String) : Progress → List (String × ItemFault)
  | failed fault => [(key, fault)].filter fun failure => failure.2.isAboutLevels
  | _ => []

namespace Progress

variable {key : String}

theorem shortage_unlessCancelled {s : Shared} {stage : Stage} :
    (unlessCancelled s stage).shortage key = [] := by
  unfold unlessCancelled
  split <;> rfl

theorem shortage_ofResult {α : Type} {blame : PreviewSync.Fault → ItemFault} {next : α → Progress}
    {result : Except PreviewSync.Fault α} (otherwise : ∀ fault, (blame fault).isAboutLevels = false)
    (later : ∀ value, (next value).shortage key = []) :
    (ofResult blame next result).shortage key = [] := by
  cases result with
  | ok value => exact later value
  | error fault => simp [ofResult, shortage, otherwise]

end Progress

namespace Stage

variable {config : Config} {item : Item} {s s' : Shared} {stage : Stage} {answer : Answer}
  {progress : Progress} {key : String}

/-- The answer of the catalog ends an item for want of a level iff its entry has none. Neither the
sizes of levels nor the configuration make a difference to that. -/
theorem shortage_ofEntry (found : Option CatalogEntry) :
    (ofEntry config.longestEdge found).shortage key =
      shortages config (found.toList.map fun entry => (key, entry)) := by
  cases found with
  | none => rfl
  | some entry =>
    cases picked : PreviewLevel.closest? entry.levels config.longestEdge with
    | none =>
      have bare : entry.levels = [] := PreviewLevel.closest?_eq_none_iff.1 picked
      have ended : ofEntry config.longestEdge (some entry) =
          .failed (.noPreviewLevel config.longestEdge) := by
        simp only [ofEntry, picked]
      rw [ended]
      simp [shortages, bare, Progress.shortage, ItemFault.isAboutLevels]
    | some level =>
      have levels : entry.levels ≠ [] := by
        intro bare
        rw [PreviewLevel.closest?_eq_none_iff.2 bare] at picked
        cases picked
      simp [ofEntry, picked, shortages, levels, Progress.shortage]

theorem shortage_reencode {target : UInt32} {work : Reencoding}
    (h : reencode target work answer = some progress) :
    progress.shortage key =
      shortages config (answer.entry?.toList.map fun entry => (key, entry)) := by
  unfold reencode at h
  split at h <;> cases h
  · exact Progress.shortage_ofResult (fun _ => rfl) fun _ => rfl
  · exact Progress.shortage_ofResult (fun _ => rfl) fun _ => rfl
  · exact Progress.shortage_ofResult (fun _ => rfl) fun _ => rfl
  · rfl

theorem shortage_request {operation : Store.Operation} :
    (request item s operation).2.shortage key = [] := by
  unfold request
  split <;> rfl

theorem shortage_result {result : Except Store.Fault Unit} :
    (ofResult result).shortage key = [] := by
  unfold ofResult
  split <;> rfl

theorem shortage_record {trouble : Disk.Trouble} :
    (record item s trouble).2.shortage key = [] :=
  Progress.shortage_ofResult (fun _ => rfl) fun _ => rfl

theorem shortage_exchange {dispatch : Option Store.Dispatch} {flight : Store.Flight}
    (h : (exchanging dispatch flight).step config item s answer = some (s', progress)) :
    progress.shortage key =
      shortages config (answer.entry?.toList.map fun entry => (key, entry)) := by
  unfold step at h
  dsimp only at h
  split at h
  · cases h
    rfl
  · split at h
    · cases h
    · cases h
      rfl
  · cases h

/-- A step ends an item for want of a level iff the catalog answers with an entry that has none. -/
theorem shortage_step (h : stage.step config item s answer = some (s', progress)) :
    progress.shortage key =
      shortages config (answer.entry?.toList.map fun entry => (key, entry)) := by
  have stepped := h
  unfold step at h
  split at h
  case h_2 result =>
    cases h
    cases result with
    | error fault => rfl
    | ok found => exact shortage_ofEntry found
  case h_4 =>
    cases h
    exact Progress.shortage_ofResult (fun _ => rfl) fun _ => rfl
  case h_7 =>
    obtain ⟨next, reached, pair⟩ := Option.map_eq_some_iff.1 h
    cases pair
    exact shortage_reencode reached
  case h_9 =>
    obtain rfl := congrArg Prod.snd (Option.some.inj h)
    exact shortage_request
  case h_13 => exact shortage_exchange stepped
  case h_15 =>
    cases h
    exact shortage_result
  case h_16 =>
    cases h
    exact shortage_record
  case h_19 => cases h
  case h_1 | h_6 | h_8 =>
    cases h
    exact Progress.shortage_unlessCancelled
  -- The other steps lead on or break down whatever there is.
  all_goals
    cases h
    rfl

end Stage

/-! ### A batch -/

namespace Worker

variable {config : Config} {s s' : Shared} {w w' : Worker} {answer : Answer}

/-- The failures for want of a level that a worker has noted. They stand in the order in which their
photos were looked up. -/
def noted (w : Worker) : List (String × ItemFault) :=
  w.report.failures.filter fun failure => failure.2.isAboutLevels

theorem noted_cancel : w.cancel.noted = w.noted := by
  obtain ⟨point, same⟩ := w.cancel_eq
  rw [same]
  rfl

theorem noted_choose {flag : Bool} : (w.choose flag).noted = w.noted := by
  unfold choose
  split
  · rfl
  · split
    · rfl
    · split <;> rfl

theorem noted_advance {key : String} {action : Action} {rest : List (String × Action)}
    {progress : Progress} :
    (w.advance key action rest progress).noted = w.noted ++ progress.shortage key := by
  cases progress with
  | reached | broken => exact (List.append_nil _).symm
  | done => cases action <;> exact (List.append_nil _).symm
  | failed fault =>
    by_cases cancelled : fault = .cancelled
    · rw [cancelled]
      exact (List.append_nil _).symm
    · rw [advance_failed cancelled]
      exact List.filter_append _ _

/-- The entry that the catalog answers with, and the key that it was asked for. -/
def found? (w : Worker) (answer : Answer) : Option (String × CatalogEntry) :=
  match w.pending with
  | (key, _) :: _ => answer.entry?.map fun entry => (key, entry)
  | [] => none

/-- A step notes the entry that the catalog answers with, if it has no level. Steps at which the
catalog is not asked note none. -/
theorem noted_step (h : w.step config s answer = some (s', w')) :
    w'.noted = w.noted ++ shortages config (w.found? answer).toList := by
  unfold step at h
  split at h
  · cases h
    have nothing : w.found? .proceed = none := by
      unfold found?
      split <;> rfl
    rw [noted_choose, nothing]
    exact (List.append_nil _).symm
  · rename_i stage key action rest _ pending
    obtain ⟨⟨shared, progress⟩, moved, pair⟩ := Option.map_eq_some_iff.1 h
    cases pair
    rw [noted_advance, Stage.shortage_step moved, found?, pending, Option.toList_map]
  · cases h

end Worker

namespace Course

variable {config : Config} {c c' : Course}

/-- The entry that the catalog answers a turn with, and the key that it was asked for. -/
def found? (c : Course) : Turn → Option (String × CatalogEntry)
  | .work answer => c.worker.found? answer
  | _ => none

/-- The entries that the catalog answers several turns with, in order. The key comes from the
worker, since the catalog is asked for one photo at a time. -/
def found (config : Config) (c : Course) : List Turn → List (String × CatalogEntry)
  | [] => []
  | turn :: rest =>
    (c.found? turn).toList ++ ((c.step config turn).elim [] fun next => next.found config rest)

/-- A turn notes the entry that the catalog answers with, if it has no level. -/
theorem noted_step {turn : Turn} (stepped : c.step config turn = some c') :
    c'.worker.noted = c.worker.noted ++ shortages config (c.found? turn).toList := by
  cases turn with
  | flag | others =>
    cases stepped
    exact (List.append_nil _).symm
  | cancel =>
    cases stepped
    exact Worker.noted_cancel.trans (List.append_nil _).symm
  | work answer =>
    obtain ⟨⟨s, worker⟩, worked, same⟩ := Option.map_eq_some_iff.1 stepped
    cases same
    exact Worker.noted_step worked

/-- Several turns note the entries without a level that the catalog answers with, by induction on
the turns. -/
theorem noted_run {turns : List Turn} (ran : c.run config turns = some c') :
    c'.worker.noted = c.worker.noted ++ shortages config (c.found config turns) := by
  induction turns generalizing c with
  | nil =>
    cases ran
    exact (List.append_nil _).symm
  | cons turn rest ih =>
    rw [run, List.foldlM_cons] at ran
    obtain ⟨next, stepped, ran⟩ := Option.bind_eq_some_iff.1 ran
    rw [ih ran, noted_step stepped, found, stepped, List.append_assoc, shortages_append]
    rfl

end Course

/-- The closest level is the one that is wanted: none iff there is no level, else the first of the
shortest that are long enough, or else the last of the longest. So what a batch reports for want of
a level are the entries without any, in the order in which the catalog answered with them. -/
theorem Course.run_levels {config : Config} {number : Nat} {destination : String}
    {actions : List (String × Action)} {s : Shared} {turns : List Turn} {c : Course}
    (ran : (Course.start number destination actions s).run config turns = some c) :
    (∀ levels target result,
      PreviewLevel.closest? levels target = result ↔
        PreviewLevel.IsClosest levels target result) ∧
    (c.worker.report.failures.filter fun failure => failure.2.isAboutLevels) =
      shortages config ((Course.start number destination actions s).found config turns) :=
  ⟨fun _ _ _ => PreviewLevel.closest?_eq_iff, Course.noted_run ran⟩

/-- Of three photos that are to be uploaded the first has no level, the second is not in the catalog
any more, and the third has two levels of one length, of which the first is taken if they are long
enough and the second if they are not. Only the first is reported for want of a level. -/
theorem Course.run_levels_of_bare_entry :
    ∃ c, (Course.start 0 "store" [("A", .add), ("B", .add), ("C", .add)]
        ⟨{}, Cache.inMemory [], {}, false, none⟩).run {}
        [.work .proceed, .work (.entry (.ok (some ⟨"A", "A.lrprev", []⟩))),
          .work .proceed, .work (.entry (.ok none)),
          .work .proceed, .work (.entry (.ok (some ⟨"C", "C.lrprev", [⟨1, 640⟩, ⟨2, 640⟩]⟩)))] =
          some c ∧
      PreviewLevel.IsClosest [⟨1, 640⟩, ⟨2, 640⟩] 500 (some ⟨1, 640⟩) ∧
      PreviewLevel.IsClosest [⟨1, 640⟩, ⟨2, 640⟩] 1024 (some ⟨2, 640⟩) ∧
      c.worker.report.failures = [("A", .noPreviewLevel 220), ("B", .notInCatalog)] ∧
      (c.worker.report.failures.filter fun failure => failure.2.isAboutLevels) =
        [("A", .noPreviewLevel 220)] := by
  have ran : (Course.start 0 "store" [("A", .add), ("B", .add), ("C", .add)]
      ⟨{}, Cache.inMemory [], {}, false, none⟩).run {}
      [.work .proceed, .work (.entry (.ok (some ⟨"A", "A.lrprev", []⟩))),
        .work .proceed, .work (.entry (.ok none)),
        .work .proceed, .work (.entry (.ok (some ⟨"C", "C.lrprev", [⟨1, 640⟩, ⟨2, 640⟩]⟩)))] =
        some ⟨⟨{}, Cache.inMemory [], {}, false, none⟩,
          ⟨0, "store", [("C", .add)], .working (.extracting "C.lrprev" 1),
            ⟨0, 0, [("A", .noPreviewLevel 220), ("B", .notInCatalog)], false⟩⟩, []⟩ := by
    rfl
  obtain ⟨closest, reported⟩ := Course.run_levels ran
  exact ⟨_, ran, (closest _ _ _).1 (by decide), (closest _ _ _).1 (by decide), rfl,
    reported.trans rfl⟩

end PreviewSync.Sync
