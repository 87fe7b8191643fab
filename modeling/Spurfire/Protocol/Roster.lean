import Spurfire.Lib.OrderedSet
import Spurfire.Protocol.Identity

/-!
# What a signed roster determines

The canonical bytes of a roster manifest are its generations, its revision, the number of rows and
the rows in player order.  A row holds the address as 4 or 16 bytes without a tag and an unclaimed
node key as 32 zero bytes, and the lobby id is not part of the bytes at all.

* `canonicalRosterRow_split`: a row delimits itself once its address family is known.
* `canonicalRosterBytes_perm`: the order of the entries does not matter.
* `signed_roster_determines_entries` is the safety result.
-/

namespace Spurfire

open Wire (beBytes uniq_beBytes Delimits)

/-! ## Rows -/

namespace RosterManifestEntry

def isIpv6 (e : RosterManifestEntry) : Bool :=
  match e.tailnetAddress with
  | .v4 _ => false
  | .v6 _ => true

/-- The node key a row is signed with: an unclaimed one is written as zeros. -/
def signedNodeKey (e : RosterManifestEntry) : NodeKey := e.nodeKey.getD ⟨.replicate 32 0⟩

/-- The entry as the bytes of its row tell it. -/
def signedRow (e : RosterManifestEntry) : RosterManifestEntry :=
  { e with nodeKey := some e.signedNodeKey }

def asUnclaimed (e : RosterManifestEntry) : RosterManifestEntry :=
  if e.nodeKey = some ⟨.replicate 32 0⟩ then { e with nodeKey := none } else e

/-- Rows are the entries as long as nobody claims a node key of zeros. -/
theorem map_asUnclaimed_signedRow {entries : List RosterManifestEntry}
    (h : ∀ e ∈ entries, e.nodeKey ≠ some ⟨.replicate 32 0⟩) :
    (entries.map signedRow).map asUnclaimed = entries := by
  rw [List.map_map]
  refine (List.map_congr_left fun e he => ?_).trans entries.map_id
  have hne := h e he
  unfold Function.comp asUnclaimed signedRow signedNodeKey
  rcases e with ⟨_, _, _, _, _ | node⟩
  · rfl
  · exact if_neg hne

end RosterManifestEntry

open RosterManifestEntry

theorem canonicalRosterRow_eq (e : RosterManifestEntry) :
    canonicalRosterRow e = e.playerId.asBytes ++ (e.sessionPublicKey.bytes.toList
      ++ (e.tailnetAddress.octets ++ (beBytes 2 e.applicationPort.toNat
      ++ e.signedNodeKey.bytes.toList))) := by
  have hnode : (e.nodeKey.map fun key => key.bytes.toList).getD (List.replicate 32 0)
      = e.signedNodeKey.bytes.toList := by
    unfold signedNodeKey
    cases e.nodeKey with
    | none => exact Vector.toList_replicate.symm
    | some node => rfl
  rw [canonicalRosterRow, hnode]
  simp only [List.append_assoc]

/-- Addresses of one family have the same width. -/
theorem IpAddr.octets_split {a b : RosterManifestEntry} {s t : List UInt8}
    (hfamily : a.isIpv6 = b.isIpv6)
    (h : a.tailnetAddress.octets ++ s = b.tailnetAddress.octets ++ t) :
    a.tailnetAddress = b.tailnetAddress ∧ s = t := by
  unfold isIpv6 at hfamily
  cases ha : a.tailnetAddress with
  | v4 x =>
    cases hb : b.tailnetAddress with
    | v4 y =>
      rw [ha, hb] at h
      obtain ⟨hxy, hst⟩ := (Delimits.bytes 4).split h
      exact ⟨congrArg IpAddr.v4 hxy, hst⟩
    | v6 y => rw [ha, hb] at hfamily; exact nomatch hfamily
  | v6 x =>
    cases hb : b.tailnetAddress with
    | v4 y => rw [ha, hb] at hfamily; exact nomatch hfamily
    | v6 y =>
      rw [ha, hb] at h
      obtain ⟨hxy, hst⟩ := (Delimits.bytes 16).split h
      exact ⟨congrArg IpAddr.v6 hxy, hst⟩

/-- **A row delimits itself once its address family is known.** -/
theorem canonicalRosterRow_split {a b : RosterManifestEntry} {s t : List UInt8}
    (hfamily : a.isIpv6 = b.isIpv6) (h : canonicalRosterRow a ++ s = canonicalRosterRow b ++ t) :
    a.signedRow = b.signedRow ∧ s = t := by
  rw [canonicalRosterRow_eq, canonicalRosterRow_eq] at h
  simp only [List.append_assoc] at h
  obtain ⟨hplayer, h⟩ := ProtocolId.uniq_asBytes.split trivial trivial h
  obtain ⟨hkey, h⟩ := (Delimits.bytes 32).split h
  obtain ⟨haddress, h⟩ := IpAddr.octets_split hfamily h
  obtain ⟨hport, h⟩ :=
    (uniq_beBytes 2).split a.applicationPort.toNat_lt b.applicationPort.toNat_lt h
  obtain ⟨hnode, hst⟩ := (Delimits.bytes 32).split h
  refine ⟨?_, hst⟩
  rcases a with ⟨_, ⟨_⟩, _, _, _⟩
  rcases b with ⟨_, ⟨_⟩, _, _, _⟩
  have hnode' := congrArg (fun bytes => some (NodeKey.mk bytes)) hnode
  simp only at hplayer hkey haddress hport
  simp only [signedRow, hplayer, hkey, haddress, UInt16.toNat_inj.mp hport]
  exact congrArg (RosterManifestEntry.mk _ _ _ _) hnode'

/-- The induction is on both lists at once: equal family lists keep the rows aligned. -/
theorem rosterRows_inj {as bs : List RosterManifestEntry}
    (hfamilies : as.map isIpv6 = bs.map isIpv6)
    (h : as.flatMap canonicalRosterRow = bs.flatMap canonicalRosterRow) :
    as.map signedRow = bs.map signedRow := by
  induction as generalizing bs with
  | nil =>
    cases bs with
    | nil => rfl
    | cons b bs => exact nomatch hfamilies
  | cons a as ih =>
    cases bs with
    | nil => exact nomatch hfamilies
    | cons b bs =>
      rw [List.map_cons, List.map_cons, List.cons.injEq] at hfamilies
      rw [List.flatMap_cons, List.flatMap_cons] at h
      obtain ⟨hrow, hrest⟩ := canonicalRosterRow_split hfamilies.1 h
      rw [List.map_cons, List.map_cons, hrow, ih hfamilies.2 hrest]

/-! ## The whole roster -/

namespace RosterManifest

variable {m m' : RosterManifest}

/-- The rows in the order they are written. -/
def sortedEntries (m : RosterManifest) : List RosterManifestEntry :=
  m.entries.insertionSort fun a b => a.playerId ≤ b.playerId

/-- The address families in the order the rows are written. -/
def families (m : RosterManifest) : List Bool := m.sortedEntries.map isIpv6

theorem sortedEntries_perm (m : RosterManifest) : m.sortedEntries.Perm m.entries :=
  List.perm_insertionSort _ _

theorem canonicalRosterBytes_eq (m : RosterManifest) :
    canonicalRosterBytes m = ROSTER_DOMAIN ++ (beBytes 8 m.networkGeneration.toNat
      ++ (beBytes 8 m.sessionGeneration.toNat ++ (beBytes 8 m.rosterRevision.toNat
      ++ (lenU32 m.sortedEntries.length ++ m.sortedEntries.flatMap canonicalRosterRow)))) := by
  unfold canonicalRosterBytes sortedEntries
  simp only [List.append_assoc]

/-- The header and the rows can be read off the bytes. -/
theorem canonicalRosterBytes_split (h : canonicalRosterBytes m = canonicalRosterBytes m') :
    m.networkGeneration = m'.networkGeneration ∧ m.sessionGeneration = m'.sessionGeneration
      ∧ m.rosterRevision = m'.rosterRevision
      ∧ lenU32 m.sortedEntries.length = lenU32 m'.sortedEntries.length
      ∧ m.sortedEntries.flatMap canonicalRosterRow
        = m'.sortedEntries.flatMap canonicalRosterRow := by
  have hword := fun (x y : UInt64) (s t : List UInt8)
      (e : beBytes 8 x.toNat ++ s = beBytes 8 y.toNat ++ t) =>
    (uniq_beBytes 8).split x.toNat_lt y.toNat_lt e
  rw [canonicalRosterBytes_eq, canonicalRosterBytes_eq] at h
  obtain ⟨hnetwork, h⟩ := hword _ _ _ _ (List.append_cancel_left h)
  obtain ⟨hsession, h⟩ := hword _ _ _ _ h
  obtain ⟨hrevision, h⟩ := hword _ _ _ _ h
  obtain ⟨hlen, hrows⟩ := List.append_inj h (by rw [lenU32, lenU32]; simp)
  exact ⟨UInt64.toNat_inj.mp hnetwork, UInt64.toNat_inj.mp hsession,
    UInt64.toNat_inj.mp hrevision, hlen, hrows⟩

/-! ### Order independence -/

theorem validateEntries_players {seen : Seen} {entries : List RosterManifestEntry}
    (h : validateEntries seen entries = .ok ()) :
    (entries.map (·.playerId)).Nodup ∧ ∀ e ∈ entries, e.playerId ∉ seen.players := by
  induction entries generalizing seen with
  | nil => exact ⟨.nil, fun e he => nomatch he⟩
  | cons entry entries ih =>
    unfold validateEntries at h
    split_ifs at h with _ hseen
    obtain ⟨hnodup, hfresh⟩ := ih h
    rw [List.map_cons, List.nodup_cons]
    refine ⟨⟨fun hmem => ?_, hnodup⟩, fun e he => ?_⟩
    · obtain ⟨e, he, heq⟩ := List.mem_map.mp hmem
      exact hfresh e he (heq ▸ List.mem_cons_self)
    · rcases List.mem_cons.mp he with rfl | he
      · exact fun hmem => hseen (.inl hmem)
      · exact fun hmem => hfresh e he (List.mem_cons_of_mem _ hmem)

theorem nodup_players_of_validate (h : m.validate = .ok ()) :
    (m.entries.map (·.playerId)).Nodup := by
  unfold validate at h
  split_ifs at h
  exact (validateEntries_players h).1

/-- **The order of the entries does not matter.** -/
theorem canonicalRosterBytes_perm (hm : m.validate = .ok ())
    {entries : List RosterManifestEntry} (h : m.entries.Perm entries) :
    canonicalRosterBytes { m with entries } = canonicalRosterBytes m := by
  unfold canonicalRosterBytes
  dsimp only
  rw [List.insertionSort_key_perm _ (nodup_players_of_validate hm) h]

/-! ### What the bytes determine -/

theorem canonicalManifestBytes_inj (key : SessionPublicKey) :
    canonicalManifestBytes key m = canonicalManifestBytes key m'
      ↔ canonicalRosterBytes m = canonicalRosterBytes m' :=
  List.append_right_inj _

theorem signedRow_perm_of_bytes (h : canonicalRosterBytes m = canonicalRosterBytes m')
    (hfamilies : m.families = m'.families) :
    (m.entries.map signedRow).Perm (m'.entries.map signedRow) := by
  have hrows := rosterRows_inj hfamilies (canonicalRosterBytes_split h).2.2.2.2
  exact ((m.sortedEntries_perm.map signedRow).symm.trans (.of_eq hrows)).trans
    (m'.sortedEntries_perm.map signedRow)

/-- **A signed roster determines its entries.**  Equal bytes mean equal generations and revision
and, where the address families agree, the same rows; the rows are the entries unless a node key of
zeros is claimed.  Neither the order of the entries nor the lobby id shows in the bytes. -/
theorem signed_roster_determines_entries (m m' : RosterManifest) (hm : m.validate = .ok ()) :
    (∀ key, canonicalManifestBytes key m = canonicalManifestBytes key m'
        ↔ canonicalRosterBytes m = canonicalRosterBytes m')
      ∧ (canonicalRosterBytes m = canonicalRosterBytes m' →
        m.networkGeneration = m'.networkGeneration ∧ m.sessionGeneration = m'.sessionGeneration
          ∧ m.rosterRevision = m'.rosterRevision
          ∧ (m.families = m'.families →
            (m.entries.map signedRow).Perm (m'.entries.map signedRow)
              ∧ ((∀ e ∈ m.entries ++ m'.entries, e.nodeKey ≠ some ⟨.replicate 32 0⟩) →
                m.entries.Perm m'.entries)))
      ∧ (∀ entries, m.entries.Perm entries →
        canonicalRosterBytes { m with entries } = canonicalRosterBytes m)
      ∧ ∀ lobbyId, canonicalRosterBytes { m with lobbyId } = canonicalRosterBytes m := by
  refine ⟨fun key => canonicalManifestBytes_inj key, fun h => ?_,
    fun entries hperm => canonicalRosterBytes_perm hm hperm, fun lobbyId => rfl⟩
  obtain ⟨hnetwork, hsession, hrevision, -⟩ := canonicalRosterBytes_split h
  refine ⟨hnetwork, hsession, hrevision, fun hfamilies => ?_⟩
  have hrows := signedRow_perm_of_bytes h hfamilies
  refine ⟨hrows, fun hclaimed => ?_⟩
  have hentries := hrows.map asUnclaimed
  rw [map_asUnclaimed_signedRow fun e he => hclaimed e (List.mem_append_left _ he),
    map_asUnclaimed_signedRow fun e he => hclaimed e (List.mem_append_right _ he)] at hentries
  exact hentries

/-! ### Rosters the bytes confuse -/

/-- Two riders, the first at an IPv4 and the second at an IPv6 address. -/
def mixedRoster : RosterManifest where
  lobbyId := .ofTail 1
  networkGeneration := 3
  sessionGeneration := 4
  rosterRevision := 5
  entries := [{
      playerId := .ofTail 1
      sessionPublicKey := ⟨.replicate 32 1⟩
      tailnetAddress := .v4 #v[100, 64, 0, 1]
      applicationPort := 7777
      nodeKey := some ⟨.replicate 32 9⟩ }, {
      playerId := .ofTail 2
      sessionPublicKey :=
        ⟨#v[0, 0, 0x40, 0, 0x80, 0, 0, 0, 0, 0, 0, 2, 2, 2, 2, 2,
            2, 2, 2, 2, 2, 2, 2, 2, 2, 2, 2, 2, 2, 2, 2, 2]⟩
      tailnetAddress := .v6 #v[0xfd, 0x7a, 0x11, 0x5c, 0xa1, 0xe0, 0, 0, 0, 0, 0, 0, 100, 64, 0, 2]
      applicationPort := 7777
      nodeKey := none }]

/-- The same bytes read as an IPv6 and then an IPv4 row: another second rider, with another key. -/
def shiftedRoster : RosterManifest where
  lobbyId := .ofTail 1
  networkGeneration := 3
  sessionGeneration := 4
  rosterRevision := 5
  entries := [{
      playerId := .ofTail 1
      sessionPublicKey := ⟨.replicate 32 1⟩
      tailnetAddress := .v6 #v[100, 64, 0, 1, 0x1e, 0x61, 9, 9, 9, 9, 9, 9, 9, 9, 9, 9]
      applicationPort := 2313
      nodeKey := some
        ⟨#v[9, 9, 9, 9, 9, 9, 9, 9, 9, 9, 9, 9, 9, 9, 9, 9,
            9, 9, 9, 9, 0, 0, 0, 0, 0, 0, 0x40, 0, 0x80, 0, 0, 0]⟩ }, {
      playerId := ⟨0x00000002000040008000000000000002, by decide, by decide, by decide⟩
      sessionPublicKey :=
        ⟨#v[2, 2, 2, 2, 2, 2, 2, 2, 2, 2, 2, 2, 2, 2, 2, 2,
            2, 2, 2, 2, 0xfd, 0x7a, 0x11, 0x5c, 0xa1, 0xe0, 0, 0, 0, 0, 0, 0]⟩
      tailnetAddress := .v4 #v[100, 64, 0, 2]
      applicationPort := 7777
      nodeKey := none }]

/-- A claimed node key of zeros in place of none. -/
def zeroKeyRoster : RosterManifest :=
  { mixedRoster with entries := mixedRoster.entries.map signedRow }

theorem mixedRoster_bytes :
    canonicalRosterBytes mixedRoster = canonicalRosterBytes zeroKeyRoster := by
  have hrows : mixedRoster.sortedEntries.flatMap canonicalRosterRow
      = zeroKeyRoster.sortedEntries.flatMap canonicalRosterRow := by decide +kernel
  rw [canonicalRosterBytes_eq, canonicalRosterBytes_eq, hrows]
  rfl

/-- Three pairs of valid rosters with equal bytes: other riders and keys, a claimed node key
against none, and another lobby. -/
theorem signed_roster_confuses :
    (mixedRoster.validate = .ok () ∧ shiftedRoster.validate = .ok ()
        ∧ canonicalRosterBytes mixedRoster = canonicalRosterBytes shiftedRoster
        ∧ ¬ mixedRoster.entries.Perm shiftedRoster.entries)
      ∧ (zeroKeyRoster.validate = .ok ()
        ∧ canonicalRosterBytes mixedRoster = canonicalRosterBytes zeroKeyRoster
        ∧ ¬ mixedRoster.entries.Perm zeroKeyRoster.entries)
      ∧ ∃ lobbyId, mixedRoster.lobbyId ≠ lobbyId
        ∧ canonicalRosterBytes mixedRoster = canonicalRosterBytes { mixedRoster with lobbyId } := by
  have hrows : mixedRoster.sortedEntries.flatMap canonicalRosterRow
      = shiftedRoster.sortedEntries.flatMap canonicalRosterRow := by decide +kernel
  refine ⟨⟨by decide +kernel, by decide +kernel, ?_, by decide +kernel⟩,
    ⟨by decide +kernel, mixedRoster_bytes, by decide +kernel⟩, .ofTail 2,
    by decide +kernel, rfl⟩
  rw [canonicalRosterBytes_eq, canonicalRosterBytes_eq, hrows]
  rfl

theorem signed_roster_determines_entries_mixed :
    (mixedRoster.entries.map signedRow).Perm (zeroKeyRoster.entries.map signedRow)
      ∧ canonicalRosterBytes { mixedRoster with entries := mixedRoster.entries.reverse }
        = canonicalRosterBytes mixedRoster :=
  have h := signed_roster_determines_entries mixedRoster zeroKeyRoster (by decide +kernel)
  ⟨((h.2.1 mixedRoster_bytes).2.2.2 (by decide +kernel)).1,
    h.2.2.1 _ (List.reverse_perm _).symm⟩

end RosterManifest

end Spurfire
