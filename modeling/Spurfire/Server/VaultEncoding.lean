import Spurfire.Control.DnsName
import Spurfire.Server.Vault
import Std.Data.String.ToNat

/-!
# The encodings of the vault

`encode_plaintext`, `decode_plaintext` and `ChildVaultIdentity::aad` of `vault.rs`.

* `encodePlaintext_of_decode`: what decodes has the one spelling that encoding gives it;
* `append_nul_inj`: a text without NUL bytes ends at the first one;
* `aad_injective`: the associated data give the identity and the version back;
* `vault_encodings_unambiguous` is the result for every plaintext and every identity.
-/

namespace Spurfire

open Wire (beBytes)

/-! ## Plaintexts -/

theorem utf8_injective : Function.Injective utf8 := by
  intro s t h
  have hs := fromUTF8?_utf8 s
  rw [h, fromUTF8?_utf8] at hs
  exact (Option.some.inj hs).symm

theorem utf8_of_fromUTF8? {bytes : List UInt8} {s : String}
    (h : String.fromUTF8? ⟨bytes.toArray⟩ = some s) : utf8 s = bytes := by
  unfold String.fromUTF8? at h
  split_ifs at h
  cases h
  rfl

theorem ofBeBytes_lt (bytes : List UInt8) : ofBeBytes bytes < 256 ^ bytes.length := by
  induction bytes using List.reverseRecOn with
  | nil => exact Nat.one_pos
  | append_singleton bytes byte ih =>
    have hbyte := byte.toNat_lt
    rw [ofBeBytes_append_singleton, List.length_append, List.length_singleton, Nat.pow_succ]
    omega

/-- The bytes of a number are the only ones of their length that spell it. -/
theorem beBytes_ofBeBytes (bytes : List UInt8) :
    beBytes bytes.length (ofBeBytes bytes) = bytes := by
  induction bytes using List.reverseRecOn with
  | nil => rfl
  | append_singleton bytes byte ih =>
    have hbyte := byte.toNat_lt
    rw [ofBeBytes_append_singleton, List.length_append, List.length_singleton]
    unfold beBytes
    rw [show (ofBeBytes bytes * 256 + byte.toNat) / 256 = ofBeBytes bytes by omega,
      show (ofBeBytes bytes * 256 + byte.toNat) % 256 = byte.toNat by omega, ih,
      UInt8.ofNat_toNat]

theorem encodePlaintext_of_decode {bytes : List UInt8} {credentials : ChildOAuthCredentials}
    (h : decodePlaintext bytes = .ok credentials) : encodePlaintext credentials = .ok bytes := by
  unfold decodePlaintext at h
  dsimp only at h
  split_ifs at h with hshort hid hend
  rw [not_lt] at hshort hid
  rw [not_not] at hend
  cases hidText : String.fromUTF8?
      ⟨((bytes.drop 4).take (ofBeBytes (bytes.take 4))).toArray⟩ with
  | none =>
    rw [hidText] at h
    cases h
  | some id =>
    cases hsecretText : String.fromUTF8?
        ⟨(bytes.drop (4 + ofBeBytes (bytes.take 4) + 4)).toArray⟩ with
    | none =>
      rw [hidText, hsecretText] at h
      cases h
    | some secret =>
      rw [hidText, hsecretText] at h
      cases h
      -- both counts are the numbers of the four bytes before the texts
      have hidLen : (bytes.take 4).length = 4 := List.length_take_of_le (by omega)
      have hsecretLen : ((bytes.drop (4 + ofBeBytes (bytes.take 4))).take 4).length = 4 := by
        rw [List.length_take, List.length_drop]
        omega
      have hidCount := ofBeBytes_lt (bytes.take 4)
      have hsecretCount := ofBeBytes_lt ((bytes.drop (4 + ofBeBytes (bytes.take 4))).take 4)
      have hidBytes := beBytes_ofBeBytes (bytes.take 4)
      have hsecretBytes := beBytes_ofBeBytes ((bytes.drop (4 + ofBeBytes (bytes.take 4))).take 4)
      rw [hidLen] at hidCount hidBytes
      rw [hsecretLen] at hsecretCount hsecretBytes
      generalize ofBeBytes ((bytes.drop (4 + ofBeBytes (bytes.take 4))).take 4) = secretCount
        at hend hsecretCount hsecretBytes
      generalize ofBeBytes (bytes.take 4) = idCount at *
      have hidUtf8 : utf8 id = (bytes.drop 4).take idCount := utf8_of_fromUTF8? hidText
      have hsecretUtf8 : utf8 secret = bytes.drop (4 + idCount + 4) :=
        utf8_of_fromUTF8? hsecretText
      have hidLength : (utf8 id).length = idCount := by
        rw [hidUtf8, List.length_take, List.length_drop]
        omega
      have hsecretLength : (utf8 secret).length = secretCount := by
        rw [hsecretUtf8, List.length_drop]
        omega
      have hparts : bytes.take 4 ++ (bytes.drop 4).take idCount
          ++ (bytes.drop (4 + idCount)).take 4 ++ bytes.drop (4 + idCount + 4) = bytes := by
        have hsecond : bytes.drop (4 + idCount) = (bytes.drop 4).drop idCount :=
          List.drop_drop.symm
        have hlast : bytes.drop (4 + idCount + 4) = (bytes.drop (4 + idCount)).drop 4 :=
          List.drop_drop.symm
        rw [List.append_assoc, hlast, List.take_append_drop, List.append_assoc, hsecond,
          List.take_append_drop, List.take_append_drop]
      unfold encodePlaintext
      dsimp only
      rw [hidLength, hsecretLength, if_neg (by omega), hidBytes, hsecretBytes, hidUtf8,
        hsecretUtf8, hparts]

/-- **Plaintexts have one spelling**: decoding is the inverse of encoding, in both directions. -/
theorem decodePlaintext_iff (bytes : List UInt8) (credentials : ChildOAuthCredentials) :
    decodePlaintext bytes = .ok credentials ↔ encodePlaintext credentials = .ok bytes :=
  ⟨encodePlaintext_of_decode, decodePlaintext_of_encode⟩

/-! ## Texts between NUL bytes -/

/-- A text without NUL ends at the first one. -/
theorem append_nul_inj {s s' t t' : List Char} (hs : Char.ofNat 0 ∉ s) (hs' : Char.ofNat 0 ∉ s')
    (h : s ++ Char.ofNat 0 :: t = s' ++ Char.ofNat 0 :: t') : s = s' ∧ t = t' := by
  induction s generalizing s' with
  | nil =>
    cases s' with
    | nil => exact ⟨rfl, (List.cons.inj h).2⟩
    | cons c s' =>
      obtain ⟨rfl, -⟩ := List.cons.inj h
      exact absurd List.mem_cons_self hs'
  | cons c s ih =>
    cases s' with
    | nil =>
      obtain ⟨rfl, -⟩ := List.cons.inj h
      exact absurd List.mem_cons_self hs
    | cons c' s' =>
      obtain ⟨rfl, hrest⟩ := List.cons.inj h
      obtain ⟨rfl, htail⟩ := ih (fun hmem => hs (List.mem_cons_of_mem _ hmem))
        (fun hmem => hs' (List.mem_cons_of_mem _ hmem)) hrest
      exact ⟨rfl, htail⟩

/-- And it begins after the last one. -/
theorem nul_append_inj {s s' t t' : List Char} (ht : Char.ofNat 0 ∉ t) (ht' : Char.ofNat 0 ∉ t')
    (h : s ++ Char.ofNat 0 :: t = s' ++ Char.ofNat 0 :: t') : s = s' ∧ t = t' := by
  have hreverse := congrArg List.reverse h
  simp only [List.reverse_append, List.reverse_cons, List.append_assoc, List.singleton_append]
    at hreverse
  obtain ⟨htail, hhead⟩ := append_nul_inj (by rwa [List.mem_reverse]) (by rwa [List.mem_reverse])
    hreverse
  exact ⟨List.reverse_injective hhead, List.reverse_injective htail⟩

/-! ## Texts without NUL bytes -/

theorem nul_not_mem_repr (n : ℕ) : Char.ofNat 0 ∉ n.repr.toList := by
  intro hmem
  rw [Nat.toList_repr] at hmem
  exact absurd (Nat.isDigit_of_mem_toDigits (by decide) (by decide) hmem) (by decide)

theorem nul_not_mem_hexText (count n : ℕ) : Char.ofNat 0 ∉ hexText count n := by
  have hdigit : ∀ n < 16, Nat.digitChar n ≠ Char.ofNat 0 := by decide
  intro hmem
  obtain ⟨i, -, hi⟩ := List.mem_map.mp hmem
  exact hdigit _ (Nat.mod_lt _ (by decide)) hi

theorem nul_not_mem_canonicalText {k : IdKind} (id : ProtocolId k) :
    Char.ofNat 0 ∉ id.canonicalText := by
  have hdash : Char.ofNat 0 ∉ ['-'] := by decide
  unfold ProtocolId.canonicalText
  simp only [List.mem_append, nul_not_mem_hexText, hdash, or_self, not_false_eq_true]

theorem hexText_inj {count n m : ℕ} (h : hexText count n = hexText count m) :
    n % 16 ^ count = m % 16 ^ count := by
  have hsucc : ∀ count n, hexText (count + 1) n
      = Nat.digitChar (n / 16 ^ count % 16) :: hexText count n := by
    intro count n
    unfold hexText
    rw [List.range_succ, List.reverse_append]
    rfl
  have hdigit : ∀ a < 16, ∀ b < 16, Nat.digitChar a = Nat.digitChar b → a = b := by decide
  induction count with
  | zero => rw [Nat.pow_zero, Nat.mod_one, Nat.mod_one]
  | succ count ih =>
    rw [hsucc, hsucc] at h
    obtain ⟨hhead, htail⟩ := List.cons.inj h
    have htop := hdigit _ (Nat.mod_lt _ (by decide)) _ (Nat.mod_lt _ (by decide)) hhead
    rw [Nat.mod_pow_succ, Nat.mod_pow_succ, ih htail, htop]

theorem canonicalText_injective {k : IdKind} :
    Function.Injective (ProtocolId.canonicalText : ProtocolId k → List Char) := by
  intro a b h
  unfold ProtocolId.canonicalText at h
  obtain ⟨h, hnode⟩ := List.append_inj' h (by simp)
  obtain ⟨h, -⟩ := List.append_inj' h rfl
  obtain ⟨h, hseq⟩ := List.append_inj' h (by simp)
  obtain ⟨h, -⟩ := List.append_inj' h rfl
  obtain ⟨h, hversion⟩ := List.append_inj' h (by simp)
  obtain ⟨h, -⟩ := List.append_inj' h rfl
  obtain ⟨h, hmid⟩ := List.append_inj' h (by simp)
  obtain ⟨hlow, -⟩ := List.append_inj' h rfl
  have hlow := hexText_inj hlow
  have hmid := hexText_inj hmid
  have hversion := hexText_inj hversion
  have hseq := hexText_inj hseq
  have hnode := hexText_inj hnode
  have ha := a.value_lt
  have hb := b.value_lt
  refine ProtocolId.value_injective ?_
  omega

/-- A parsed name has letters, digits, hyphens and dots only. -/
theorem nul_not_mem_parsed {value : String} {name : TailnetDnsName}
    (h : TailnetDnsName.protocolParse value = .ok name) : Char.ofNat 0 ∉ name.asStr.toList := by
  obtain ⟨labels, hlabels, -, rfl⟩ :=
    TailnetDnsName.checks_iff.mp (TailnetDnsName.protocolParse_eq_ok_iff.mp h)
  have hlower : ∀ n < 128, n ≠ 0 → (Char.ofNat n).toLower ≠ Char.ofNat 0 := by decide
  intro hmem
  unfold TailnetDnsName.lowercase at hmem
  rw [String.toList_ofList] at hmem
  obtain ⟨c, hc, hnul⟩ := List.mem_map.mp hmem
  rcases TailnetDnsName.mem_join hc with rfl | ⟨label, hlabel, hchar⟩
  · exact absurd hnul (by decide)
  · have hvalid := (hlabels.labels label hlabel).chars c hchar
    refine hlower c.toNat (TailnetDnsName.toNat_lt_of_isLabelChar hvalid) (fun hzero => ?_)
      (by rwa [Char.ofNat_toNat])
    rw [← Char.ofNat_toNat c, hzero] at hvalid
    exact absurd hvalid (by decide)

/-! ## Associated data -/

namespace ChildVaultIdentity

/-- The text that the ciphertext of a record is authenticated with. -/
def aadText (identity : ChildVaultIdentity) (version : UInt64) : String :=
  "spurfire-child-vault-v1\x00" ++ String.ofList identity.lobbyId.canonicalText
    ++ "\x00" ++ identity.networkGeneration.toNat.repr
    ++ "\x00" ++ identity.providerTailnetId
    ++ "\x00" ++ identity.tailnetDnsName.asStr
    ++ "\x00" ++ version.toNat.repr

def aad (identity : ChildVaultIdentity) (version : UInt64) : List UInt8 :=
  utf8 (identity.aadText version)

/-- The name was parsed; no other can be built. -/
def Named (identity : ChildVaultIdentity) : Prop :=
  ∃ value, TailnetDnsName.protocolParse value = .ok identity.tailnetDnsName

theorem toList_aadText (identity : ChildVaultIdentity) (version : UInt64) :
    (identity.aadText version).toList = "spurfire-child-vault-v1".toList ++ Char.ofNat 0 ::
      (identity.lobbyId.canonicalText ++ Char.ofNat 0 ::
        (identity.networkGeneration.toNat.repr.toList ++ Char.ofNat 0 ::
          ((identity.providerTailnetId.toList ++ Char.ofNat 0 ::
            identity.tailnetDnsName.asStr.toList) ++ Char.ofNat 0 ::
              version.toNat.repr.toList))) := by
  have hnul : "\x00".toList = [Char.ofNat 0] := by decide
  have hdomain : "spurfire-child-vault-v1\x00".toList
      = "spurfire-child-vault-v1".toList ++ [Char.ofNat 0] := by decide
  unfold aadText
  simp only [String.toList_append, String.toList_ofList, hnul, hdomain, List.append_assoc,
    List.cons_append, List.nil_append]

/-- The identity and the version can be read back, whatever the provider's id is. -/
theorem aad_injective {identity identity' : ChildVaultIdentity} {version version' : UInt64}
    (hnamed : identity.Named) (hnamed' : identity'.Named)
    (h : identity.aad version = identity'.aad version') :
    identity = identity' ∧ version = version' := by
  have htext := congrArg String.toList (utf8_injective h)
  rw [toList_aadText, toList_aadText] at htext
  obtain ⟨-, htext⟩ := List.append_inj htext rfl
  obtain ⟨-, htext⟩ := List.cons.inj htext
  obtain ⟨hlobby, htext⟩ := append_nul_inj (nul_not_mem_canonicalText _)
    (nul_not_mem_canonicalText _) htext
  obtain ⟨hgeneration, htext⟩ := append_nul_inj (nul_not_mem_repr _) (nul_not_mem_repr _) htext
  obtain ⟨htext, hversion⟩ := nul_append_inj (nul_not_mem_repr _) (nul_not_mem_repr _) htext
  obtain ⟨value, hparsed⟩ := hnamed
  obtain ⟨value', hparsed'⟩ := hnamed'
  obtain ⟨hprovider, hname⟩ :=
    nul_append_inj (nul_not_mem_parsed hparsed) (nul_not_mem_parsed hparsed') htext
  obtain ⟨lobby, generation, provider, ⟨name⟩⟩ := identity
  obtain ⟨lobby', generation', provider', ⟨name'⟩⟩ := identity'
  cases canonicalText_injective hlobby
  cases UInt64.toNat_inj.mp (Nat.repr_injective (String.toList_inj.mp hgeneration))
  cases UInt64.toNat_inj.mp (Nat.repr_injective (String.toList_inj.mp hversion))
  cases String.toList_inj.mp hprovider
  cases String.toList_inj.mp hname
  exact ⟨rfl, rfl⟩

end ChildVaultIdentity

/-- **The encodings of the vault are unambiguous.**  Bytes decode to credentials just when they are
what encoding gives for these credentials; and the associated data of two records are the same
bytes just when identity and version are the same. -/
theorem vault_encodings_unambiguous (bytes : List UInt8) (credentials : ChildOAuthCredentials)
    (identity identity' : ChildVaultIdentity) (version version' : UInt64)
    (hnamed : identity.Named) (hnamed' : identity'.Named) :
    (decodePlaintext bytes = .ok credentials ↔ encodePlaintext credentials = .ok bytes)
    ∧ (identity.aad version = identity'.aad version'
      ↔ identity = identity' ∧ version = version') := by
  refine ⟨decodePlaintext_iff bytes credentials,
    ChildVaultIdentity.aad_injective hnamed hnamed', ?_⟩
  rintro ⟨rfl, rfl⟩
  rfl

namespace EncryptedChildVault

theorem named_firstTailnet : firstTailnet.Named := ⟨"one.ts.net", by decide +kernel⟩

theorem named_secondTailnet : secondTailnet.Named := ⟨"two.ts.net", by decide +kernel⟩

/-- The data of two lobbies differ at every version. -/
theorem vault_encodings_unambiguous_tailnets :
    firstTailnet.aad 1 ≠ secondTailnet.aad 1 := fun h =>
  absurd ((vault_encodings_unambiguous [] ⟨"", ""⟩ firstTailnet secondTailnet 1 1 named_firstTailnet
    named_secondTailnet).2.mp h).1 (by decide)

end EncryptedChildVault

end Spurfire
