import PreviewSync.Proofs.Text.Ascii
import PreviewSync.Proofs.Text.Trim
import PreviewSync.Wire.Address

/-!
# Addresses below a server

An address that begins with a scheme and a server is read as such, and all that follows is its
target.

## Main Definitions

* `Wire.IsServer` — the names of servers, with or without the number of a service
* `Wire.Address.read?_of_isServer` — an address below a server
-/

namespace PreviewSync.Wire

/-- What a transport reads as the name of a server, without blanks and without anything that ends
such a name. Behind such a name an address goes on with its path. -/
structure IsServer (server : String) : Prop where
  solid : ∀ c ∈ server.toList, 32 < c.toNat ∧ endsAuthority c = false
  known : ∃ host service, readServer? server.toList = some (host, service)

/-- A name is not empty. -/
theorem IsServer.ne_nil {server : String} (h : IsServer server) : server.toList ≠ [] := by
  intro empty
  obtain ⟨host, service, known⟩ := h.known
  rw [empty] at known
  cases known

/-- Without blanks and control characters, nothing is removed from an address before it is read. -/
theorem filter_trim_of_solid {text : String} (solid : ∀ c ∈ text.toList, 32 < c.toNat) :
    (Text.trim isMargin text).toList.filter (fun c => !isBreak c) = text.toList := by
  have notMargin : ∀ c ∈ text.toList, isMargin c = false := by
    intro c member
    rw [isMargin, decide_eq_false_iff_not]
    have := solid c member
    omega
  have kept : Text.trim isMargin text = text := by
    rw [Text.trim, Text.trimStart_of_head fun c first => notMargin c (List.mem_of_mem_head? first),
      Text.trimEnd_of_last fun c last => notMargin c (List.mem_of_getLast? last)]
  rw [kept, List.filter_eq_self]
  intro c member
  have := solid c member
  rw [isBreak, Bool.not_eq_true', Bool.or_eq_false_iff, Bool.or_eq_false_iff]
  refine ⟨⟨?_, ?_⟩, ?_⟩ <;> refine beq_eq_false_iff_ne.2 ?_ <;> rintro rfl
  all_goals
    revert this
    decide

/-- The scheme of an address. -/
theorem readScheme?_of_isScheme {scheme : String} (h : scheme = "http" ∨ scheme = "https")
    (rest : List Char) :
    ∃ secure, readScheme? (scheme.toList ++ ':' :: rest) = some (secure, rest) := by
  rcases h with rfl | rfl
  · exact ⟨false, rfl⟩
  · exact ⟨true, rfl⟩

/-- An address below a server is read, and what follows the server is its target. The parts are cut
off one after the other, and each cut has its own lemma. -/
theorem Address.read?_of_isServer {scheme server text : String}
    (isScheme : scheme = "http" ∨ scheme = "https") (isServer : IsServer server)
    (solid : ∀ c ∈ text.toList, 32 < c.toNat) :
    ∃ address, Address.read? (scheme ++ "://" ++ server ++ "/" ++ text) = some address ∧
      address.target = String.ofList (readTarget ('/' :: text.toList)) := by
  have chars : (scheme ++ "://" ++ server ++ "/" ++ text).toList =
      scheme.toList ++ ':' :: '/' :: '/' :: (server.toList ++ '/' :: text.toList) := by
    simp [String.toList_append]
  have allSolid : ∀ c ∈ (scheme ++ "://" ++ server ++ "/" ++ text).toList, 32 < c.toNat := by
    have slash : 32 < '/'.toNat := by decide
    have colon : 32 < ':'.toNat := by decide
    have inScheme : ∀ c ∈ scheme.toList, 32 < c.toNat := by
      rcases isScheme with rfl | rfl <;> exact Text.forall_mem_of_all (by decide)
    rw [chars]
    intro c member
    simp only [List.mem_append, List.mem_cons] at member
    rcases member with here | rfl | rfl | rfl | here | rfl | here
    · exact inScheme c here
    · exact colon
    · exact slash
    · exact slash
    · exact (isServer.solid c here).1
    · exact slash
    · exact solid c here
  obtain ⟨secure, scheme⟩ := readScheme?_of_isScheme isScheme
    ('/' :: '/' :: (server.toList ++ '/' :: text.toList))
  -- The slashes behind the scheme do not count, and the name of a server begins with none.
  have below : ('/' :: '/' :: (server.toList ++ '/' :: text.toList)).dropWhile isSeparator =
      server.toList ++ '/' :: text.toList := by
    show (server.toList ++ '/' :: text.toList).dropWhile isSeparator = _
    obtain ⟨c, rest, first⟩ := List.exists_cons_of_ne_nil isServer.ne_nil
    have notEnd := (isServer.solid c (by rw [first]; exact List.mem_cons_self)).2
    have notSeparator : isSeparator c = false := by
      rw [endsAuthority, Bool.or_eq_false_iff, Bool.or_eq_false_iff] at notEnd
      exact notEnd.1.1
    rw [first, List.cons_append, List.dropWhile_cons_of_neg (by simp [notSeparator])]
  have inside : ∀ c ∈ server.toList, (!endsAuthority c) = true := by
    intro c member
    rw [(isServer.solid c member).2]
    rfl
  obtain ⟨host, service, known⟩ := isServer.known
  refine ⟨⟨secure, host, service, String.ofList (readTarget ('/' :: text.toList))⟩, ?_, rfl⟩
  rw [Address.read?, filter_trim_of_solid allSolid, chars, scheme]
  dsimp only [Option.bind_eq_bind, Option.bind_some]
  rw [below, List.takeWhile_append_of_pos inside, List.dropWhile_append_of_pos inside]
  show (readServer? (server.toList ++ [])).bind _ = _
  rw [List.append_nil, known]
  rfl

end PreviewSync.Wire
