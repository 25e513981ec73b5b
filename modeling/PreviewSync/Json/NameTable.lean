/-!
# Tables of named values

The members of a JSON object, listed in increasing order of their names. When a name is repeated,
the last member counts.

## Main Definitions

* `NameTable` — named values in strictly increasing order of names
* `NameTable.ofList` — the table of a list of members
* `NameTable.find?` — the value of a name
-/

namespace PreviewSync.Json

/-- Named values in strictly increasing order of names. A name has one value, so whoever goes
through a table meets every name once, in an order that does not depend on the document. -/
structure NameTable (α : Type) where
  toList : List (String × α)
  sorted : toList.Pairwise fun a b => a.1 < b.1

namespace NameTable

variable {α : Type}

/-- The table without names. -/
def empty : NameTable α :=
  ⟨[], .nil⟩

instance : Inhabited (NameTable α) :=
  ⟨empty⟩

/-- Puts a value at the place of its name, instead of the value that was there. -/
def putInto (name : String) (value : α) : List (String × α) → List (String × α)
  | [] => [(name, value)]
  | entry :: rest =>
    if name < entry.1 then (name, value) :: entry :: rest
    else if name = entry.1 then (name, value) :: rest
    else entry :: putInto name value rest

/-- A list with a value put in holds that value and others that were there. -/
theorem mem_putInto {name : String} {value : α} {a : String × α} {entries : List (String × α)}
    (h : a ∈ putInto name value entries) : a = (name, value) ∨ a ∈ entries := by
  induction entries with
  | nil => simpa [putInto] using h
  | cons entry rest ih => grind [putInto]

/-- Putting a value at its place keeps the order. -/
theorem sorted_putInto {name : String} {value : α} {entries : List (String × α)}
    (h : entries.Pairwise fun a b => a.1 < b.1) :
    (putInto name value entries).Pairwise fun a b => a.1 < b.1 := by
  induction entries with
  | nil => simp [putInto]
  | cons entry rest ih =>
    have hr := List.pairwise_cons.1 h
    unfold putInto
    split
    · rename_i hlt
      refine List.pairwise_cons.2 ⟨fun a ha => ?_, h⟩
      rcases List.mem_cons.1 ha with rfl | ha
      · exact hlt
      · exact String.lt_trans hlt (hr.1 a ha)
    · split
      · rename_i hge heq
        refine List.pairwise_cons.2 ⟨fun a ha => ?_, hr.2⟩
        simpa [heq] using hr.1 a ha
      · rename_i hge hne
        refine List.pairwise_cons.2 ⟨fun a ha => ?_, ih hr.2⟩
        rcases mem_putInto ha with rfl | ha
        · show entry.1 < name
          grind
        · exact hr.1 a ha

/-- The table with a value for a name. -/
def put (t : NameTable α) (name : String) (value : α) : NameTable α :=
  ⟨putInto name value t.toList, sorted_putInto t.sorted⟩

/-- The table of a list of members. -/
def ofList (members : List (String × α)) : NameTable α :=
  members.foldl (fun t member => t.put member.1 member.2) empty

/-- The value of a name. -/
def find? (t : NameTable α) (name : String) : Option α :=
  (t.toList.find? fun entry => entry.1 == name).map (·.2)

end NameTable

end PreviewSync.Json
