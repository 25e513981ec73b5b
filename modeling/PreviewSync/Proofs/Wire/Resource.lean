import PreviewSync.Proofs.Identity.Destination
import PreviewSync.Proofs.Wire.Target
import PreviewSync.Wire.Message

/-!
# Resources that are received

A server reads bucket and object path off the target. Without dot segments in the object path they
are those that were sent; with dot segments, the resource that a signature covers is longer than the
one that is received.

## Main Definitions

* `Wire.HasDots` — dot segments in a path
* `Wire.received` — bucket and object path that arrive
* `Wire.received_of_noDots`, `Wire.length_received_lt` — with and without dot segments
-/

namespace PreviewSync.Wire

open ObjectPath (encodeChars)
open Signature (resource)

/-- Some segment of a path is a dot segment. It is said of the path before it is encoded, as dots
stand for themselves in an encoded path. -/
def HasDots (path : String) : Prop :=
  ∃ part ∈ path.toList.splitOn '/', IsDots part

instance (path : String) : Decidable (HasDots path) :=
  inferInstanceAs (Decidable (∃ part ∈ path.toList.splitOn '/', IsDots part))

/-- The bucket and the object path of the parts of a target. Without any part there is neither. -/
def received : List (List Char) → String × String
  | [] => ("", "")
  | part :: rest =>
    (String.ofList part, String.ofList ((rest.flatMap fun part => '/' :: part).drop 1))

/-- A target is parted again at the slashes that were put between its parts. No part holds a slash,
so none is parted twice. -/
theorem splitResource_flatMap {parts : List (List Char)} (solid : ∀ part ∈ parts, '/' ∉ part) :
    Message.splitResource (String.ofList (parts.flatMap fun part => '/' :: part)) =
      received parts := by
  cases parts with
  | nil => rfl
  | cons part rest =>
    have inside : ∀ c ∈ part, (c != '/') = true := by
      intro c member
      rw [bne_iff_ne]
      rintro rfl
      exact solid part List.mem_cons_self member
    rw [Message.splitResource, String.toList_ofList, List.flatMap_cons]
    show (String.ofList ((part ++ _).takeWhile (· != '/')),
      String.ofList (((part ++ _).dropWhile (· != '/')).drop 1)) = _
    rw [List.takeWhile_append_of_pos inside, List.dropWhile_append_of_pos inside]
    cases rest with
    | nil =>
      rw [received]
      simp
    | cons second others =>
      rw [received, List.flatMap_cons]
      simp

/-- A path is put together from its parts. -/
theorem flatMap_splitOn (cs : List Char) :
    ((cs.splitOn '/').flatMap fun part => '/' :: part) = '/' :: cs := by
  induction cs with
  | nil => rfl
  | cons c rest ih =>
    rw [List.splitOn_cons_eq_if_modifyHead]
    split
    · rename_i slash
      rw [List.flatMap_cons, ih, beq_iff_eq.1 slash]
      rfl
    · cases parts : rest.splitOn '/' with
      | nil => exact absurd parts (List.splitOn_ne_nil _ _)
      | cons first others =>
        rw [parts, List.flatMap_cons, List.cons_append, List.cons_inj_right] at ih
        rw [List.modifyHead_cons, List.flatMap_cons, List.cons_append, List.cons_append, ih]

variable {bucket path : String}

/-- The parts of bucket and path together. -/
theorem splitOn_bucket (solid : '/' ∉ bucket.toList) :
    (bucket.toList ++ '/' :: path.toList).splitOn '/' =
      bucket.toList :: path.toList.splitOn '/' :=
  List.splitOn_append_cons_self_of_not_mem solid _

/-- Without dot segments, bucket and path arrive as they were sent. A bucket may be a dot segment as
well, so it is asked for. -/
theorem received_of_noDots (solid : '/' ∉ bucket.toList) (named : ¬ IsDots bucket.toList)
    (noDots : ¬ HasDots path) {parts : List (List Char)}
    (arrived : resolve [] (((bucket.toList ++ '/' :: path.toList).splitOn '/').map encodeChars) =
      parts.map encodeChars) :
    received parts = (bucket, path) := by
  rw [splitOn_bucket solid, resolve_of_noDots, List.reverse_nil, List.nil_append] at arrived
  · have kept : bucket.toList :: path.toList.splitOn '/' = parts :=
      List.map_injective_iff.2 (fun _ _ => ObjectPath.encodeChars_injective) arrived
    rw [← kept, received, flatMap_splitOn, List.drop_one, List.tail_cons, String.ofList_toList,
      String.ofList_toList]
  · intro segment member
    obtain ⟨part, inParts, rfl⟩ := List.mem_map.1 member
    have plain : ¬ IsDots part := by
      rcases List.mem_cons.1 inParts with rfl | inPath
      · exact named
      · exact fun dots => noDots ⟨part, inPath, dots⟩
    rw [IsDots, not_or] at plain
    rw [Bool.eq_false_iff, Bool.eq_false_iff, Ne, Ne, isDoubleDot_encodeChars,
      isSingleDot_encodeChars]
    exact plain.symm

/-- The resource that a signature covers, in one piece. -/
theorem resource_eq (bucket path : String) :
    resource bucket path =
      "/" ++ bucket ++ "/" ++ ObjectPath.encode (Text.trimStart Text.isSlash path) := by
  unfold resource
  dsimp only
  split
  · rename_i empty
    rw [String.isEmpty_iff.1 empty]
    simp [ObjectPath.encode, Bytes.ofText, ObjectPath.encodeBytes]
  · rfl

theorem length_resource (bucket path : String) :
    (resource bucket path).toList.length =
      2 + bucket.toList.length + (encodeChars (path.toList.dropWhile Text.isSlash)).length := by
  rw [resource_eq, String.toList_append, ObjectPath.toList_encode, Text.trimStart,
    String.toList_ofList]
  simp [String.toList_append]
  omega

/-- The parts of a path with a slash in front of each have the weight of their encodings. -/
theorem length_encodeChars_flatMap (parts : List (List Char)) :
    (encodeChars (parts.flatMap fun part => '/' :: part)).length =
      weight (parts.map encodeChars) := by
  rw [encodeChars_flatMap, length_flatMap_slash]

/-- The encoding of a path is not shorter than that of its end. Dropping slashes in front does not
make it longer. -/
theorem length_encodeChars_dropWhile_le (p : Char → Bool) (cs : List Char) :
    (encodeChars (cs.dropWhile p)).length ≤ (encodeChars cs).length := by
  have parts : cs = cs.takeWhile p ++ cs.dropWhile p := List.takeWhile_append_dropWhile.symm
  have length := congrArg (fun cs => (encodeChars cs).length) parts
  rw [ObjectPath.encodeChars_append, List.length_append] at length
  omega

/-- The resource of the parts of a target is hardly longer than the target. It is by lengths that
resources are told apart which a transport has changed. -/
theorem length_resource_received {part : List Char} {rest : List (List Char)} :
    (resource (received (part :: rest)).1 (received (part :: rest)).2).toList.length ≤
      weight ((part :: rest).map encodeChars) + if rest = [] then 1 else 0 := by
  rw [length_resource, received, String.toList_ofList, String.toList_ofList, List.map_cons,
    weight_cons]
  have bucket := ObjectPath.length_le_encodeChars part
  cases rest with
  | nil =>
    rw [if_pos rfl]
    show 2 + part.length + 0 ≤ (encodeChars part).length + 1 + 0 + 1
    omega
  | cons second others =>
    rw [if_neg (List.cons_ne_nil _ _), ← length_encodeChars_flatMap, List.flatMap_cons,
      List.cons_append, ObjectPath.encodeChars_slash, List.length_cons, List.drop_one,
      List.tail_cons]
    have shorter := length_encodeChars_dropWhile_le Text.isSlash
      (second ++ others.flatMap fun part => '/' :: part)
    omega

/-- With dot segments, the resource that a signature covers is longer than the one that arrives. To
tell them apart it is enough to compare their lengths. -/
theorem length_received_lt (solid : '/' ∉ bucket.toList)
    (plain : encodeChars bucket.toList = bucket.toList)
    (trimmed : path.toList.dropWhile Text.isSlash = path.toList) (dots : HasDots path)
    {parts : List (List Char)}
    (arrived : resolve [] (((bucket.toList ++ '/' :: path.toList).splitOn '/').map encodeChars) =
      parts.map encodeChars)
    (named : (received parts).1 ≠ "") :
    (resource (received parts).1 (received parts).2).toList.length <
      (resource bucket path).toList.length := by
  obtain ⟨-, lighter, strictly⟩ := @weight_resolve []
    (((bucket.toList ++ '/' :: path.toList).splitOn '/').map encodeChars)
  rw [arrived] at lighter strictly
  -- Without dot segments, the weight of the target would be the length of the resource.
  have total : weight (((bucket.toList ++ '/' :: path.toList).splitOn '/').map encodeChars) =
      (resource bucket path).toList.length := by
    rw [← splitOn_encodeChars, weight_splitOn, ObjectPath.encodeChars_append, plain,
      ObjectPath.encodeChars_slash, List.length_append, List.length_cons, length_resource, trimmed]
    omega
  -- A server that finds a bucket only reads a slash that was not sent, but then a segment is gone.
  have count :
      2 ≤ (((bucket.toList ++ '/' :: path.toList).splitOn '/').map encodeChars).length := by
    have some := List.length_pos_iff.2 (List.splitOn_ne_nil '/' path.toList)
    rw [splitOn_bucket solid, List.length_map, List.length_cons]
    omega
  have lost := strictly (by
    obtain ⟨part, inPath, isDots⟩ := dots
    refine ⟨encodeChars part, List.mem_map_of_mem ?_, ?_⟩
    · rw [splitOn_bucket solid]
      exact List.mem_cons_of_mem _ inPath
    · rw [isDoubleDot_encodeChars, isSingleDot_encodeChars]
      exact isDots.symm)
  rw [weight_nil, List.length_nil] at lighter
  rw [weight_nil] at lost
  cases parts with
  | nil => exact absurd rfl named
  | cons part rest =>
    have short := @length_resource_received part rest
    simp only [List.length_map, List.length_cons] at lighter count
    by_cases alone : rest = []
    · rw [if_pos alone] at short
      rw [alone, List.length_nil] at lighter
      rw [alone] at short lost ⊢
      omega
    · rw [if_neg alone] at short
      omega

/-- An object path does not begin with a slash. -/
theorem dropWhile_objectPath (destination : Destination) (key : String) :
    (destination.objectPath key).toList.dropWhile Text.isSlash =
      (destination.objectPath key).toList := by
  have first : ∀ c ∈ (destination.objectPath key).toList.head?, Text.isSlash c = false :=
    fun _ => Destination.isSlash_of_head?_objectPath
  have kept := congrArg String.toList (Text.trimStart_of_head first)
  rwa [Text.trimStart, String.toList_ofList] at kept

end PreviewSync.Wire
