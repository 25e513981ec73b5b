import PreviewSync.Watch.Watcher

/-!
# What a watcher reports

A reading is reported iff it is later than the readable one before it that the same thread took. So
the first readable one of each thread is only remembered, one that is earlier or the same is what
the next one is compared with, and one that failed leaves everything as it is. What a watcher
remembers is, at every moment, the last readable reading of its thread; the reports follow from that
by induction on what happens to it.

## Main Definitions

* `Watcher.Act`, `Watcher.run` — what happens to a watcher, and what each act reports
* `Watcher.IsLatest`, `IsLater` — the reading to compare with, said of the acts before
* `Watcher.Remembers` — that a watcher has this reading in mind
* `Watcher.told_iff_isLater` — what is reported
* `Watcher.run_polls` — the reports of one thread, in order

## Design Notes

Acts other than readings report nothing and are kept in the list all the same, so that a report has
the place of its reading. A thread that is not running takes no reading.
-/

namespace PreviewSync.Watch.Watcher

/-- What happens to a watcher: it is started or stopped, its thread takes a reading, or the thread
ends because a report could not be handled. -/
inductive Act where
  | begin (interval : UInt64) (isValid : Bool) (refusal : Option String)
  | stop
  | poll (reading : Option UInt64)
  | breakDown

/-- An act that leaves the reading to compare with as it is: a reading that failed, or a start,
which is refused while a thread runs. -/
def Act.IsIdle : Act → Prop
  | begin _ _ _ => True
  | poll none => True
  | _ => False

/-- The effect of an act, and the time that it reports. There is none when the thread would have to
be running and is not. -/
def act (w : Watcher) : Act → Option (Watcher × Option UInt64)
  | .begin interval isValid refusal => some ((w.begin interval isValid refusal).1, none)
  | .stop => some (w.stop, none)
  | .poll reading =>
    if w.isWatching then
      some ((w.poll reading).1, if (w.poll reading).2 then reading else none)
    else none
  | .breakDown => if w.isWatching then some (w.breakDown, none) else none

/-- The effect of several acts, and what each of them reports. An act that cannot be taken ends the
run. -/
def run (w : Watcher) : List Act → Option (Watcher × List (Option UInt64))
  | [] => some (w, [])
  | a :: rest =>
    (w.act a).bind fun first => (first.1.run rest).map fun later => (later.1, first.2 :: later.2)

/-- The reading that the next one is compared with. Without a running thread there is none. -/
def remembered? (w : Watcher) : Option UInt64 :=
  match w.thread with
  | .polling remembered => remembered
  | _ => none

variable {w w' : Watcher} {a : Act} {before acts : List Act} {time : UInt64}

/-- The last readable reading of the thread that is running after some acts. -/
def IsLatest (before : List Act) (time : UInt64) : Prop :=
  ∃ past gap, before = past ++ .poll (some time) :: gap ∧ ∀ a ∈ gap, a.IsIdle

/-- A time that is later than the last readable reading. Without an earlier reading no time is
later, so the first one is not reported. -/
def IsLater (before : List Act) (time : UInt64) : Prop :=
  ∃ earlier, IsLatest before earlier ∧ earlier < time

theorem not_isLatest_nil : ¬ IsLatest [] time := by
  rintro ⟨past, gap, split, -⟩
  simp at split

/-- One act more: it is the last readable reading, or leaves it as it is. Unreadable readings leave
it as it is, whatever their number. -/
theorem isLatest_concat :
    IsLatest (before ++ [a]) time ↔ a = .poll (some time) ∨ a.IsIdle ∧ IsLatest before time := by
  constructor
  · rintro ⟨past, gap, split, idle⟩
    rcases gap.eq_nil_or_concat with rfl | ⟨gap, last, rfl⟩
    · obtain ⟨-, same⟩ := List.append_inj' split rfl
      exact .inl (List.cons.inj same).1
    · rw [List.concat_eq_append, ← List.cons_append, ← List.append_assoc] at split
      obtain ⟨rfl, same⟩ := List.append_inj' split rfl
      obtain rfl := (List.cons.inj same).1
      refine .inr ⟨idle a (by simp), past, gap, rfl, fun b member => idle b ?_⟩
      simp [member]
  · rintro (rfl | ⟨idle, past, gap, rfl, idles⟩)
    · exact ⟨before, [], rfl, nofun⟩
    · refine ⟨past, gap ++ [a], by simp, fun b member => ?_⟩
      rcases List.mem_append.1 member with inside | new
      · exact idles b inside
      · rw [List.mem_singleton.1 new]
        exact idle

/-! ### One act -/

/-- What is remembered after an act, and what the act reports, by what was remembered before. The
thread has no part in it but for what it remembers. -/
def Act.effect (remembered : Option UInt64) : Act → Option UInt64 × Option UInt64
  | begin _ _ _ => (remembered, none)
  | poll reading =>
    (remember remembered reading, if isReported remembered reading then reading else none)
  | _ => (none, none)

/-- What an act does. A start changes nothing, since without a thread nothing is remembered. -/
theorem effect_of_act {told : Option UInt64} (acted : w.act a = some (w', told)) :
    a.effect w.remembered? = (w'.remembered?, told) := by
  obtain ⟨path, thread⟩ := w
  cases a with
  | begin interval isValid refusal =>
    cases acted
    cases thread with
    | polling remembered => rfl
    | absent | ended =>
      unfold begin
      split
      · rfl
      · split
        · rfl
        · split
          · cases refusal <;> rfl
          · rfl
  | stop =>
    cases acted
    rfl
  | poll | breakDown =>
    cases thread with
    | polling remembered =>
      cases acted
      rfl
    | absent | ended => cases acted

theorem isReported_iff {remembered : Option UInt64} :
    isReported remembered (some time) = true ↔
      ∃ earlier, remembered = some earlier ∧ earlier < time := by
  cases remembered <;> simp [isReported]

/-- After some acts the watcher remembers the last readable reading, if there is one. Both
directions are needed: what is remembered has been read, and what was read last is remembered. -/
def Remembers (w : Watcher) (before : List Act) : Prop :=
  ∀ time, w.remembered? = some time ↔ IsLatest before time

/-- A watcher without a thread remembers nothing. -/
theorem Remembers.start {path : String} : Remembers ⟨path, .absent⟩ [] :=
  fun _ => iff_of_false nofun not_isLatest_nil

/-- Every act keeps the last readable reading in mind, and reports a later one. Stopping forgets it,
as the next thread starts anew. -/
theorem Remembers.act (h : Remembers w before) {told : Option UInt64}
    (acted : w.act a = some (w', told)) :
    Remembers w' (before ++ [a]) ∧
      ∀ time, told = some time ↔ a = .poll (some time) ∧ IsLater before time := by
  obtain ⟨kept, rfl⟩ := Prod.mk.inj (effect_of_act acted)
  have latest : ∀ {time}, IsLatest (before ++ [a]) time ↔
      a = .poll (some time) ∨ a.IsIdle ∧ w.remembered? = some time := by
    intro time
    rw [isLatest_concat, h time]
  cases a with
  | begin | stop | breakDown =>
    refine ⟨fun time => ?_, fun time => iff_of_false nofun nofun⟩
    rw [← kept, latest]
    simp [Act.IsIdle]
  | poll reading =>
    cases reading with
    | none =>
      refine ⟨fun time => ?_, fun time => iff_of_false ?_ nofun⟩
      · rw [← kept, latest]
        simp [Act.IsIdle, remember]
      · simp
    | some reading =>
      refine ⟨fun time => ?_, fun time => ?_⟩
      · rw [← kept, latest]
        simp [Act.IsIdle, remember]
      · have later : isReported w.remembered? (some reading) = true ↔ IsLater before reading := by
          simp only [isReported_iff, IsLater, ← h _]
        dsimp only [Act.effect]
        rw [Option.ite_none_right_eq_some, later, Option.some.injEq, Act.poll.injEq,
          Option.some.injEq, and_comm]
        exact and_congr_right fun same => by rw [same]

/-- Several acts keep the last readable reading in mind, and report the later ones, by induction on
the acts. -/
theorem Remembers.run (h : Remembers w before) {told : List (Option UInt64)}
    (ran : w.run acts = some (w', told)) :
    told.length = acts.length ∧
      ∀ past a rest, acts = past ++ a :: rest → ∀ time,
        told[past.length]? = some (some time) ↔
          a = .poll (some time) ∧ IsLater (before ++ past) time := by
  induction acts generalizing w before told with
  | nil =>
    cases ran
    refine ⟨rfl, fun past a rest split => ?_⟩
    simp at split
  | cons first acts ih =>
    obtain ⟨⟨next, report⟩, acted, followed⟩ := Option.bind_eq_some_iff.1 ran
    obtain ⟨⟨last, later⟩, onward, pair⟩ := Option.map_eq_some_iff.1 followed
    cases pair
    obtain ⟨here, reported⟩ := h.act acted
    obtain ⟨length, rest⟩ := ih here onward
    refine ⟨congrArg (· + 1) length, fun past a after split time => ?_⟩
    cases past with
    | nil =>
      obtain ⟨rfl, rfl⟩ := List.cons.inj split
      rw [List.append_nil, ← reported time]
      simp
    | cons act past =>
      obtain ⟨rfl, behind⟩ := List.cons.inj split
      have told := rest past a after behind time
      rw [List.append_assoc] at told
      exact told

/-- A thread takes whatever it reads, and reports it in order. So any list of readings is that of
some run. -/
theorem run_polls {path : String} {remembered : Option UInt64} {readings : List (Option UInt64)} :
    ∃ told, (⟨path, .polling remembered⟩ : Watcher).run (readings.map .poll) =
        some (⟨path, .polling (readings.foldl remember remembered)⟩, told) ∧
      told.filterMap id = reported remembered readings := by
  induction readings generalizing remembered with
  | nil => exact ⟨[], rfl, rfl⟩
  | cons reading rest ih =>
    obtain ⟨told, ran, same⟩ := @ih (remember remembered reading)
    refine ⟨(if isReported remembered reading then reading else none) :: told, ?_, ?_⟩
    · have acted : (⟨path, .polling remembered⟩ : Watcher).act (.poll reading) =
          some (⟨path, .polling (remember remembered reading)⟩,
            if isReported remembered reading then reading else none) := rfl
      rw [List.map_cons, run, acted, Option.bind_some, ran]
      rfl
    · rw [reported, ← same]
      cases reading <;> split <;> rfl

/-- A reading is reported iff it is readable and later than the last readable one of its thread, and
then with its time. Every act reports at most once, and a thread that runs takes any reading. -/
theorem told_iff_isLater {path : String} {told : List (Option UInt64)}
    (ran : (⟨path, .absent⟩ : Watcher).run acts = some (w, told)) :
    told.length = acts.length ∧
    (∀ before a after, acts = before ++ a :: after → ∀ time,
      told[before.length]? = some (some time) ↔ a = .poll (some time) ∧ IsLater before time) ∧
    (w.isWatching = true → ∀ readings : List (Option UInt64),
      ∃ w' told', w.run (readings.map .poll) = some (w', told')) := by
  obtain ⟨length, reports⟩ := Remembers.start.run ran
  refine ⟨length, reports, fun watching readings => ?_⟩
  obtain ⟨path, thread⟩ := w
  cases thread with
  | polling remembered =>
    obtain ⟨told', polled, -⟩ := run_polls
    exact ⟨_, told', polled⟩
  | absent | ended => cases watching

/-- A thread reads 10, nothing, 15, 12 and 13, and a second start is refused meanwhile. The thread
after it reads 25 and 30. -/
theorem told_iff_isLater_of_restart :
    ∃ w, (⟨"catalog", .absent⟩ : Watcher).run
        [.begin 1000 true none, .poll (some 10), .poll none, .poll (some 15), .poll (some 12),
          .begin 1000 true none, .poll (some 13), .stop, .begin 1000 true none, .poll (some 25),
          .poll (some 30)] =
        some (w, [none, none, none, some 15, none, none, some 13, none, none, none, some 30]) ∧
      IsLater [.begin 1000 true none, .poll (some 10), .poll none] 15 ∧
      IsLater [.begin 1000 true none, .poll (some 10), .poll none, .poll (some 15),
        .poll (some 12), .begin 1000 true none] 13 ∧
      ¬ IsLater [.begin 1000 true none, .poll (some 10), .poll none, .poll (some 15),
        .poll (some 12), .begin 1000 true none, .poll (some 13), .stop,
        .begin 1000 true none] 25 := by
  have ran : (⟨"catalog", .absent⟩ : Watcher).run
      [.begin 1000 true none, .poll (some 10), .poll none, .poll (some 15), .poll (some 12),
        .begin 1000 true none, .poll (some 13), .stop, .begin 1000 true none, .poll (some 25),
        .poll (some 30)] =
      some (⟨"catalog", .polling (some 30)⟩,
        [none, none, none, some 15, none, none, some 13, none, none, none, some 30]) := by
    rfl
  obtain ⟨-, reports, -⟩ := told_iff_isLater ran
  refine ⟨_, ran, ?_, ?_, ?_⟩
  · exact ((reports [_, _, _] _ _ rfl 15).1 rfl).2
  · exact ((reports [_, _, _, _, _, _] _ _ rfl 13).1 rfl).2
  · intro late
    cases (reports [_, _, _, _, _, _, _, _, _] _ _ rfl 25).2 ⟨rfl, late⟩

end PreviewSync.Watch.Watcher
