import PreviewSync.Catalog.KeySet

/-!
# What has to be done

The actions that bring a destination in line with a catalog, in increasing order of keys.

## Main Definitions

* `Action` — the kinds of actions
* `difference` — the actions between the keys of a catalog and the keys known to be synchronized
-/

namespace PreviewSync

/-- What is done about a key. Nothing asks for an update at present: a key that is on both sides is
in order, and nothing is known of it that could have changed. -/
inductive Action where
  | add
  | remove
  | update
deriving Repr, DecidableEq

/-- The word for an action. -/
def Action.name : Action → String
  | add => "add"
  | remove => "remove"
  | update => "update"

/-- Walks along two increasing lists. A key in the first one only is added, a key in the second one
only is removed. The smaller of the two heads is in one list only, so it is settled without looking
any further. -/
def mergeKeys : List String → List String → List (String × Action)
  | [], known => known.map fun key => (key, .remove)
  | wanted, [] => wanted.map fun key => (key, .add)
  | w :: wanted, k :: known =>
    if w < k then (w, .add) :: mergeKeys wanted (k :: known)
    else if k < w then (k, .remove) :: mergeKeys (w :: wanted) known
    else mergeKeys wanted known
termination_by wanted known => wanted.length + known.length

/-- The actions between the keys of a catalog, in any order and with any repetitions, and the keys
known to be synchronized. What a catalog gives is brought into order here, so no catalog has to
promise any. -/
def difference (catalog : List String) (synchronized : KeySet) : List (String × Action) :=
  mergeKeys (KeySet.ofList catalog).toList synchronized.toList

end PreviewSync
