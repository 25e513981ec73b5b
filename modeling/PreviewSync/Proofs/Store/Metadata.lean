import Mathlib.Data.List.Basic
import Mathlib.Data.List.Induction
import Mathlib.Logic.Function.Basic
import PreviewSync.Proofs.Store.Operation
import PreviewSync.Proofs.Text.Ascii

/-!
# Repeated header lines

The metadata of a response is decided by one value for each of three names. Absorbing the lines one
by one leaves the last value of a name, the metadata of a whole response is made of the first one,
and nothing else distinguishes the two.

## Main Definitions

* `HeaderLine.isNamed`, `named` — the lines of a name, without regard to case
* `firstLines` — the first line of every name
* `Metadata.ofValues` — the metadata that some values of names make
* `Metadata.absorbAll_eq`, `Metadata.ofLines_eq` — which values count
* `Metadata.ofLines_eq_absorbAll` — when the metadata of a response is what its lines make in turn
-/

namespace PreviewSync.Store

/-- A name in lower case stays as it is. So names may be put in lower case on either side of a
comparison, or on both. -/
theorem lowerName_lowerName (name : String) : lowerName (lowerName name) = lowerName name := by
  unfold lowerName
  rw [String.toList_ofList, List.map_map]
  congr 2
  funext c
  exact Text.toLower_toLower c

/-- Whether a line has a name, without regard to case. -/
def HeaderLine.isNamed (name : String) (line : HeaderLine) : Bool :=
  lowerName line.name == lowerName name

/-- The lines of a name, in their order. -/
def named (name : String) (lines : List HeaderLine) : List HeaderLine :=
  lines.filter (HeaderLine.isNamed name)

/-- The first line of every name, in the order of these lines. It is what a transport has to give
that hands out values by name. -/
def firstLines : List HeaderLine → List HeaderLine
  | [] => []
  | line :: rest => line :: (firstLines rest).filter fun other => !other.isNamed line.name

/-- The names of the lines that count. Any other line may be added or left out. -/
def keptNames : List String :=
  ["content-length", "content-type", "etag"]

/-- The names of the lines that count are in lower case. -/
theorem lowerName_of_kept {name : String} (kept : name ∈ keptNames) : lowerName name = name := by
  revert name
  decide

/-- Of every name, exactly the first line is left. -/
theorem named_firstLines (name : String) (lines : List HeaderLine) :
    named name (firstLines lines) = (named name lines).take 1 := by
  induction lines with
  | nil => rfl
  | cons line rest ih =>
    unfold named at ih ⊢
    rw [firstLines, List.filter_cons, List.filter_cons, List.filter_filter]
    by_cases here : line.isNamed name
    · -- The others of this name were taken out.
      have same : lowerName line.name = lowerName name := beq_iff_eq.1 here
      have gone (other : HeaderLine) :
          (other.isNamed name && !other.isNamed line.name) = false := by
        simp [HeaderLine.isNamed, same]
      simp [here, gone]
    · -- Those of another name are not concerned.
      have kept (other : HeaderLine) :
          (other.isNamed name && !other.isNamed line.name) = other.isNamed name := by
        cases named : other.isNamed name with
        | false => rfl
        | true =>
          rw [HeaderLine.isNamed, beq_iff_eq] at here named
          simp [HeaderLine.isNamed, named, Ne.symm here]
      simp only [here, kept, Bool.false_eq_true, if_false]
      exact ih

namespace Metadata

/-- The value of the last line with a name. It is what remains when lines are absorbed one after the
other. -/
def lastValue? (lines : List HeaderLine) (name : String) : Option String :=
  (named name lines).getLast?.map (·.value)

/-- The metadata that some values of names make. Lines are gone by then, so two ways of reading
lines can be compared by the values that they end with. -/
def ofValues (status : UInt16) (value? : String → Option String) : Metadata where
  status
  contentLength :=
    (value? "content-length").bind fun value => readLength (Text.trim Text.isBlank value)
  contentType := (value? "content-type").map (Text.trim Text.isBlank)
  etag := (value? "etag").map fun value => withoutQuotes (Text.trim Text.isBlank value)

variable {status : UInt16} {lines others : List HeaderLine} {name : String}

/-- The value of the first line of a name. It is what a lookup by name finds. -/
theorem firstValue?_eq (lines : List HeaderLine) (name : String) :
    firstValue? lines name = (named name lines).head?.map (·.value) := by
  rw [named, List.head?_filter]
  rfl

/-! ### Which values count -/

/-- Only the values of three names count. They are given as a function, so that neither order nor
repetition of lines is in it. -/
theorem ofValues_congr {value? other? : String → Option String}
    (same : ∀ name ∈ keptNames, value? name = other? name) :
    ofValues status value? = ofValues status other? := by
  unfold ofValues
  rw [same "content-length" (by decide), same "content-type" (by decide), same "etag" (by decide)]

/-- A line gives its name another value. The value from before is lost, which is why the last line
counts. -/
theorem absorb_ofValues (value? : String → Option String) (line : HeaderLine) :
    (ofValues status value?).absorb line =
      ofValues status (Function.update value? (lowerName line.name) (some line.value)) := by
  unfold absorb ofValues Function.update
  generalize lowerName line.name = name
  dsimp only
  split
  · subst name
    simp
  · split
    · subst name
      simp
    · split
      · subst name
        simp
      · simp_all [eq_comm]

/-- The last of some lines has the last value of its name and of no other. -/
theorem lastValue?_concat (lines : List HeaderLine) (line : HeaderLine) (name : String) :
    lastValue? (lines ++ [line]) name =
      if line.isNamed name then some line.value else lastValue? lines name := by
  unfold lastValue? named
  rw [List.filter_append]
  by_cases here : line.isNamed name <;> simp [here]

/-- Of lines that are absorbed one by one, the last value of a name counts, by induction on them
from the end. -/
theorem absorbAll_eq (status : UInt16) (lines : List HeaderLine) :
    absorbAll { status } lines = ofValues status (lastValue? lines) := by
  induction lines using List.reverseRecOn with
  | nil => rfl
  | append_singleton lines line ih =>
    have next :
        absorbAll { status } (lines ++ [line]) = (absorbAll { status } lines).absorb line := by
      rw [absorbAll, List.foldl_append]
      rfl
    rw [next, ih, absorb_ofValues]
    refine ofValues_congr fun name kept => ?_
    rw [lastValue?_concat, Function.update_apply, HeaderLine.isNamed, lowerName_of_kept kept]
    by_cases here : name = lowerName line.name
    · rw [if_pos (beq_iff_eq.2 here.symm), if_pos here]
    · rw [if_neg (mt beq_iff_eq.1 (Ne.symm here)), if_neg here]

/-- The first value of a name does not depend on its spelling. A server may spell a name in each
line as it likes. -/
theorem firstValue?_congr {spelling : String} (same : lowerName spelling = lowerName name) :
    firstValue? lines spelling = firstValue? lines name := by
  unfold firstValue?
  rw [same]

/-- A name that occurs has a first value. -/
theorem exists_firstValue? {line : HeaderLine} (member : line ∈ lines) :
    ∃ value, firstValue? lines line.name = some value := by
  rw [← Option.isSome_iff_exists, firstValue?, Option.isSome_map, List.find?_isSome]
  exact ⟨line, member, beq_self_eq_true _⟩

/-- Of a whole response, the first value of a name counts: every line is absorbed with that value,
the last one of its name as well. -/
theorem ofLines_eq (status : UInt16) (lines : List HeaderLine) :
    ofLines status lines = ofValues status (firstValue? lines) := by
  -- A line of the response as it is absorbed.
  let taken (line : HeaderLine) : HeaderLine :=
    ⟨lowerName line.name, (firstValue? lines line.name).getD ""⟩
  have absorbed : ofLines status lines = absorbAll { status } (lines.map taken) := by
    rw [ofLines, absorbAll, List.foldl_map]
    refine List.foldl_ext _ _ _ fun metadata line member => ?_
    obtain ⟨value, first⟩ := exists_firstValue? member
    simp only [taken, first, Option.getD_some]
  rw [absorbed, absorbAll_eq]
  refine ofValues_congr fun name _ => ?_
  have spelled : HeaderLine.isNamed name ∘ taken = HeaderLine.isNamed name := by
    funext line
    show (lowerName (lowerName line.name) == lowerName name) = _
    rw [lowerName_lowerName]
    rfl
  rw [lastValue?, named, List.filter_map, spelled, List.getLast?_map, Option.map_map]
  cases last : (lines.filter (HeaderLine.isNamed name)).getLast? with
  | none =>
    rw [firstValue?_eq, named, List.getLast?_eq_none_iff.1 last]
    rfl
  | some line =>
    have member := List.mem_filter.1 (List.mem_of_getLast? last)
    obtain ⟨value, first⟩ := exists_firstValue? member.1
    rw [← firstValue?_congr (beq_iff_eq.1 member.2), first]
    simp [taken, first]

/-! ### Responses and their lines -/

/-- Lines that agree in the names that count make the same metadata. It does not matter how the
lines of different names are mixed. -/
theorem eq_of_named (same : ∀ name ∈ keptNames, named name others = named name lines) :
    ofLines status others = ofLines status lines ∧
      absorbAll { status } others = absorbAll { status } lines := by
  rw [ofLines_eq, ofLines_eq, absorbAll_eq, absorbAll_eq]
  constructor
  · refine ofValues_congr fun name kept => ?_
    rw [firstValue?_eq, firstValue?_eq, same name kept]
  · refine ofValues_congr fun name kept => ?_
    rw [lastValue?, lastValue?, same name kept]

/-- The first lines of the names make what the whole response makes. With one line for each name,
first and last are the same. -/
theorem ofLines_eq_absorbAll_firstLines (status : UInt16) (lines : List HeaderLine) :
    ofLines status lines = absorbAll { status } (firstLines lines) := by
  rw [ofLines_eq, absorbAll_eq]
  refine ofValues_congr fun name _ => ?_
  rw [lastValue?, named_firstLines, firstValue?_eq]
  cases named name lines <;> rfl

/-- The value of one name alone. -/
def only (name : String) (value? : String → Option String) : String → Option String :=
  fun other => if other = name then value? other else none

/-- Values make the same metadata if those of each name do. So the three fields can be treated one
by one. -/
theorem ofValues_eq_iff {value? other? : String → Option String} :
    ofValues status value? = ofValues status other? ↔
      ∀ name ∈ keptNames,
        ofValues status (only name value?) = ofValues status (only name other?) := by
  simp [keptNames, ofValues, only]

/-- What a line makes on its own. -/
theorem absorb_start {line : HeaderLine} {value? : String → Option String}
    (lower : lowerName name = name) (here : line.isNamed name)
    (value : value? name = some line.value) :
    absorb { status } line = ofValues status (only name value?) := by
  have start : ({ status } : Metadata) = ofValues status fun _ => none := rfl
  rw [start, absorb_ofValues]
  refine ofValues_congr fun other _ => ?_
  rw [Function.update_apply, only, beq_iff_eq.1 here, lower]
  split
  · subst other
    exact value.symm
  · rfl

/-- The first and the last value of a name make the same iff its first and last line mean the same.
-/
theorem ofValues_only_iff (lower : lowerName name = name) :
    ofValues status (only name (firstValue? lines)) =
        ofValues status (only name (lastValue? lines)) ↔
      ∀ first ∈ (named name lines).head?, ∀ last ∈ (named name lines).getLast?,
        absorb { status } first = absorb { status } last := by
  cases head : (named name lines).head? with
  | none =>
    have same : only name (firstValue? lines) = only name (lastValue? lines) := by
      funext other
      unfold only
      split
      · subst other
        rw [firstValue?_eq, lastValue?, List.head?_eq_none_iff.1 head]
        rfl
      · rfl
    simp [same]
  | some first =>
    cases tail : (named name lines).getLast? with
    | none =>
      rw [List.getLast?_eq_none_iff.1 tail] at head
      cases head
    | some last =>
      have firstNamed := (List.mem_filter.1 (List.mem_of_head? head)).2
      have lastNamed := (List.mem_filter.1 (List.mem_of_getLast? tail)).2
      have firstValue : firstValue? lines name = some first.value := by
        rw [firstValue?_eq, head, Option.map_some]
      have lastValue : lastValue? lines name = some last.value := by
        rw [lastValue?, tail, Option.map_some]
      rw [← absorb_start lower firstNamed firstValue, ← absorb_start lower lastNamed lastValue]
      simp

/-- The metadata of a response, however often a name is repeated in it. It is what the first lines
of the names make when they are absorbed one by one. So it is what all the lines make iff for each
of the three names the first line means what the last one means. The status stays as it is, and
neither the lines of other names nor the order between lines of different names matter. -/
theorem ofLines_eq_absorbAll (status : UInt16) (lines : List HeaderLine) :
    ofLines status lines = absorbAll { status } (firstLines lines) ∧
      (ofLines status lines = absorbAll { status } lines ↔
        ∀ name ∈ keptNames, ∀ first ∈ (named name lines).head?,
          ∀ last ∈ (named name lines).getLast?,
            absorb { status } first = absorb { status } last) ∧
      (ofLines status lines).status = status ∧
      (∀ (metadata : Metadata) (line : HeaderLine),
        (metadata.absorb line).status = metadata.status) ∧
      ∀ others, (∀ name ∈ keptNames, named name others = named name lines) →
        ofLines status others = ofLines status lines ∧
          absorbAll { status } others = absorbAll { status } lines := by
  refine ⟨ofLines_eq_absorbAll_firstLines status lines, ?_, status_ofLines status lines,
    status_absorb, fun others same => eq_of_named same⟩
  rw [ofLines_eq, absorbAll_eq, ofValues_eq_iff]
  exact forall₂_congr fun name kept => ofValues_only_iff (lowerName_of_kept kept)

/-- A response with two entity tags. -/
def linesOfTwoTags : List HeaderLine :=
  [⟨"ETag", "\"first\""⟩, ⟨"Content-Length", "5"⟩, ⟨"Server", "s"⟩, ⟨"etag", "\"second\""⟩]

/-- The length may come first, and the line of another name may be left out. -/
theorem ofLines_eq_absorbAll_of_reordered :
    let others : List HeaderLine :=
      [⟨"Content-Length", "5"⟩, ⟨"ETag", "\"first\""⟩, ⟨"etag", "\"second\""⟩]
    (∀ name ∈ keptNames, named name others = named name linesOfTwoTags) ∧
      ofLines 200 others = ofLines 200 linesOfTwoTags ∧
      absorbAll { status := 200 } others = absorbAll { status := 200 } linesOfTwoTags := by
  intro others
  have same : ∀ name ∈ keptNames, named name others = named name linesOfTwoTags := by
    decide +kernel
  exact ⟨same, (ofLines_eq_absorbAll 200 linesOfTwoTags).2.2.2.2 others same⟩

/-- Two entity tags: the response has the first one, its lines leave the second one. -/
theorem ofLines_ne_absorbAll_of_twoTags :
    ofLines 200 linesOfTwoTags ≠ absorbAll { status := 200 } linesOfTwoTags := by
  decide +kernel

end Metadata

end PreviewSync.Store
