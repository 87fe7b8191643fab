import Mathlib.Tactic.NormNum
import Spurfire.Lib.Decimal
import Spurfire.Lib.Hex
import Spurfire.Protocol.Identity

/-!
# Text forms of the wire

How identifiers, node keys, input hashes and wire versions are written and read (`id.rs`,
`session.rs`, `election.rs`, `version.rs`).  A text is the list of its bytes.

* `decodeUuidV4`: the reader of identifiers, whose loop `decodePairs` steps over the hyphens;
* `NodeKey.parse`, `parseInputHash`, `WireVersion.fromStr`: the other readers;
* `identifier_spelled`, `texts_spelled`: a reader takes what the display writes, and nothing else;
  identifiers and input hashes may have upper-case letters.
-/

namespace Spurfire

open Wire Json

/-! ## Identifiers -/

inductive IdValidationError
  | invalidLength
  | invalidHyphens
  | invalidHex
  | notVersion4
  | invalidVariant
deriving DecidableEq

/-- The positions of the hyphens in a text of 36 bytes. -/
def isHyphenPosition (source : ℕ) : Bool :=
  source == 8 || source == 13 || source == 18 || source == 23

def idNibble (byte : UInt8) : Except IdValidationError UInt8 :=
  match Hex.nibble byte with
  | some value => .ok value
  | none => .error .invalidHex

/-- The loop of `decode_uuid_v4` over the rest of a text, which begins at `source`. -/
def decodePairs (source : ℕ) : List UInt8 → Except IdValidationError (List UInt8)
  | [] => .ok []
  | byte :: text =>
    if isHyphenPosition source then decodePairs (source + 1) text
    else
      match text with
      -- past the end of the text, which its 36 bytes rule out
      | [] => .error .invalidHex
      | next :: text => do
        let high ← idNibble byte
        let low ← idNibble next
        let decoded ← decodePairs (source + 2) text
        .ok ((high <<< 4 ||| low) :: decoded)

def decodeUuidV4 (text : List UInt8) : Except IdValidationError (List UInt8) :=
  if text.length ≠ 36 then .error .invalidLength
  else if [8, 13, 18, 23].any fun index => text.getD index 0 ≠ 45 then .error .invalidHyphens
  else
    match decodePairs 0 text with
    | .error error => .error error
    | .ok decoded =>
      if decoded.getD 6 0 >>> 4 ≠ 4 then .error .notVersion4
      else if decoded.getD 8 0 >>> 6 ≠ 2 then .error .invalidVariant
      else .ok decoded

/-- Digits up to the next hyphen. -/
theorem decodePairs_block (source n : ℕ) {block text decoded : List UInt8}
    (hlen : block.length = 2 * n) (hfree : ∀ i < n, isHyphenPosition (source + 2 * i) = false) :
    decodePairs source (block ++ text) = .ok decoded
      ↔ ∃ bytes rest, Hex.decode block = some bytes
        ∧ decodePairs (source + 2 * n) text = .ok rest ∧ decoded = bytes ++ rest := by
  induction n generalizing source block decoded with
  | zero =>
    have hnil : block = [] := List.eq_nil_of_length_eq_zero (by omega)
    subst hnil
    constructor
    · intro h
      exact ⟨[], decoded, rfl, h, rfl⟩
    · rintro ⟨bytes, rest, hbytes, hrest, rfl⟩
      cases Option.some.inj hbytes
      exact hrest
  | succ n ih =>
    obtain ⟨byte, block, rfl⟩ := List.exists_cons_of_length_eq_add_one hlen
    obtain ⟨next, block, rfl⟩ := List.exists_cons_of_length_eq_add_one
      (show block.length = 2 * n + 1 by simp at hlen; omega)
    have hblock : block.length = 2 * n := by simp at hlen; omega
    have hhere : isHyphenPosition source = false := by simpa using hfree 0 (by omega)
    have hlater : ∀ i < n, isHyphenPosition (source + 2 + 2 * i) = false := by
      intro i hi
      have h := hfree (i + 1) (by omega)
      rwa [show source + 2 * (i + 1) = source + 2 + 2 * i by omega] at h
    have hsource : source + 2 + 2 * n = source + 2 * (n + 1) := by omega
    simp only [List.cons_append, decodePairs, hhere, Bool.false_eq_true, if_false, idNibble,
      Hex.decode]
    cases Hex.nibble byte with
    | none => simp [bind, Except.bind]
    | some high =>
      cases Hex.nibble next with
      | none => simp [bind, Except.bind]
      | some low =>
        simp only [bind, Except.bind, Option.bind]
        cases hpairs : decodePairs (source + 2) (block ++ text) with
        | error error =>
          simp only [reduceCtorEq, false_iff]
          rintro ⟨bytes, rest, hbytes, hrest, rfl⟩
          cases hdecode : Hex.decode block with
          | none => simp [hdecode] at hbytes
          | some bytes' =>
            rw [← hsource] at hrest
            have hok := (ih (source + 2) hblock hlater).mpr ⟨bytes', rest, hdecode, hrest, rfl⟩
            rw [hok] at hpairs
            cases hpairs
        | ok decoded' =>
          obtain ⟨bytes', rest', hdecode, hrest', rfl⟩ := (ih (source + 2) hblock hlater).mp hpairs
          rw [hsource] at hrest'
          simp only [hdecode, hrest', Except.ok.injEq, Option.some.injEq]
          constructor
          · rintro rfl
            exact ⟨_, rest', rfl, rfl, rfl⟩
          · rintro ⟨bytes, rest, rfl, rfl, rfl⟩
            rfl

theorem decodePairs_hyphen (source : ℕ) {byte : UInt8} {text : List UInt8}
    (h : isHyphenPosition source) :
    decodePairs source (byte :: text) = decodePairs (source + 1) text := by
  cases text <;> simp [decodePairs, h]

/-- A text of 36 bytes is five groups and four bytes between them. -/
theorem exists_groups {text : List UInt8} (h : text.length = 36) :
    ∃ low mid version sequence node : List UInt8, ∃ a b c d : UInt8,
      text = low ++ a :: (mid ++ b :: (version ++ c :: (sequence ++ d :: node)))
        ∧ low.length = 8 ∧ mid.length = 4 ∧ version.length = 4 ∧ sequence.length = 4
        ∧ node.length = 12 := by
  have hcut : ∀ {l : List UInt8} (n : ℕ), n < l.length →
      ∃ front byte back, l = front ++ byte :: back ∧ front.length = n := by
    intro l n hn
    refine ⟨l.take n, l[n], l.drop (n + 1), ?_, by simp; omega⟩
    rw [List.cons_getElem_drop_succ, List.take_append_drop]
  obtain ⟨low, a, text, rfl, hlow⟩ := @hcut text 8 (by omega)
  simp only [List.length_append, List.length_cons] at h
  obtain ⟨mid, b, text, rfl, hmid⟩ := @hcut text 4 (by omega)
  simp only [List.length_append, List.length_cons] at h
  obtain ⟨version, c, text, rfl, hversion⟩ := @hcut text 4 (by omega)
  simp only [List.length_append, List.length_cons] at h
  obtain ⟨sequence, d, node, rfl, hsequence⟩ := @hcut text 4 (by omega)
  simp only [List.length_append, List.length_cons] at h
  exact ⟨low, mid, version, sequence, node, a, b, c, d, rfl, hlow, hmid, hversion, hsequence,
    by omega⟩

/-- **The loop reads the five groups.** -/
theorem decodePairs_groups {low mid version sequence node decoded : List UInt8} {a b c d : UInt8}
    (hlow : low.length = 8) (hmid : mid.length = 4) (hversion : version.length = 4)
    (hsequence : sequence.length = 4) (hnode : node.length = 12) :
    decodePairs 0 (low ++ a :: (mid ++ b :: (version ++ c :: (sequence ++ d :: node))))
        = .ok decoded
      ↔ ∃ l m v s n, Hex.decode low = some l ∧ Hex.decode mid = some m
        ∧ Hex.decode version = some v ∧ Hex.decode sequence = some s ∧ Hex.decode node = some n
        ∧ decoded = l ++ (m ++ (v ++ (s ++ n))) := by
  have hnil : ∀ rest, decodePairs 36 [] = .ok rest ↔ rest = [] := by
    intro rest
    simp [decodePairs, eq_comm]
  have hend : node = node ++ [] := (List.append_nil node).symm
  rw [hend, decodePairs_block 0 4 hlow (by decide)]
  simp only [decodePairs_hyphen (0 + 2 * 4) rfl, decodePairs_block 9 2 hmid (by decide),
    decodePairs_hyphen (9 + 2 * 2) rfl, decodePairs_block 14 2 hversion (by decide),
    decodePairs_hyphen (14 + 2 * 2) rfl, decodePairs_block 19 2 hsequence (by decide),
    decodePairs_hyphen (19 + 2 * 2) rfl, decodePairs_block 24 6 hnode (by decide), hnil]
  constructor
  · rintro ⟨l, _, hl, ⟨m, _, hm, ⟨v, _, hv, ⟨s, _, hs, ⟨n, _, hn, rfl, rfl⟩, rfl⟩, rfl⟩, rfl⟩, rfl⟩
    exact ⟨l, m, v, s, n, hl, hm, hv, hs, by simpa using hn, by simp⟩
  · rintro ⟨l, m, v, s, n, hl, hm, hv, hs, hn, rfl⟩
    exact ⟨l, _, hl, ⟨m, _, hm, ⟨v, _, hv, ⟨s, _, hs, ⟨n, _, by simpa using hn, rfl, rfl⟩, rfl⟩,
      rfl⟩, rfl⟩, by simp⟩

/-! ### The canonical text -/

/-- The bytes of a number in two parts. -/
theorem beBytes_add (m n x : ℕ) : beBytes (m + n) x = beBytes m (x / 256 ^ n) ++ beBytes n x := by
  induction n generalizing x with
  | zero => simp [beBytes]
  | succ n ih =>
    rw [← Nat.add_assoc, beBytes, ih, beBytes, List.append_assoc, Nat.div_div_eq_div_mul, pow_succ,
      Nat.mul_comm 256]

/-- Every block of bytes is a number of its width. -/
theorem exists_beBytes (bytes : List UInt8) :
    ∃ x < 256 ^ bytes.length, beBytes bytes.length x = bytes := by
  induction bytes using List.reverseRecOn with
  | nil => exact ⟨0, by simp, rfl⟩
  | append_singleton bytes b ih =>
    obtain ⟨x, hx, hbytes⟩ := ih
    have hb := b.toNat_lt
    refine ⟨x * 256 + b.toNat, ?_, ?_⟩
    · rw [List.length_append, List.length_singleton, pow_succ]
      omega
    · rw [List.length_append, List.length_singleton, beBytes,
        show (x * 256 + b.toNat) / 256 = x by omega, hbytes,
        show (x * 256 + b.toNat) % 256 = b.toNat by omega, UInt8.ofNat_toNat]

theorem getD_beBytes {n i : ℕ} (hi : i < n) (x : ℕ) :
    (beBytes n x).getD i 0 = UInt8.ofNat (x / 256 ^ (n - 1 - i) % 256) := by
  obtain ⟨k, rfl⟩ : ∃ k, n = i + (1 + k) := ⟨n - 1 - i, by omega⟩
  have hk : i + (1 + k) - 1 - i = k := by omega
  rw [beBytes_add, beBytes_add, hk, List.getD_eq_getElem?_getD,
    List.getElem?_append_right (by simp)]
  simp [beBytes]

theorem hexText_succ (count n : ℕ) :
    hexText (count + 1) n = hexText count (n / 16) ++ [Nat.digitChar (n % 16)] := by
  unfold hexText
  rw [List.range_succ_eq_map, List.reverse_cons, List.map_append, List.map_reverse,
    List.map_reverse, List.map_map]
  simp only [List.map_cons, List.map_nil, pow_zero, Nat.div_one, List.append_cancel_right_eq,
    List.reverse_inj]
  refine List.map_congr_left fun i _ => ?_
  simp only [Function.comp_apply, pow_succ']
  rw [Nat.div_div_eq_div_mul]

/-- Two hexadecimal digits a byte. -/
theorem ascii_hexText (n x : ℕ) : ascii (hexText (2 * n) x) = Hex.encode (beBytes n x) := by
  have hdigit : ∀ d : Fin 16, UInt8.ofNat (Nat.digitChar d.val).toNat = Hex.digit d.val := by decide
  induction n generalizing x with
  | zero => rfl
  | succ n ih =>
    have hlow := hdigit ⟨x % 16, by omega⟩
    have hhigh := hdigit ⟨x / 16 % 16, by omega⟩
    have hbyte : (UInt8.ofNat (x % 256)).toNat = x % 256 := by simp
    rw [show 2 * (n + 1) = 2 * n + 1 + 1 by omega, hexText_succ, hexText_succ, beBytes,
      Hex.encode_append, ← ih, Nat.div_div_eq_div_mul]
    simp only [ascii, List.map_append, List.append_assoc]
    congr 1
    simp only [List.map_cons, List.map_nil, List.cons_append, List.nil_append, Hex.encode_cons,
      Hex.encode_nil, hbyte] at hlow hhigh ⊢
    rw [hlow, hhigh, show x % 256 / 16 = x / 16 % 16 by omega, show x % 256 % 16 = x % 16 by omega]

/-- The bytes of the canonical text, group by group. -/
theorem ascii_canonicalText {k : IdKind} (id : ProtocolId k) :
    ascii id.canonicalText = Hex.encode (beBytes 4 (id.value / 2 ^ 96)) ++ 45
      :: (Hex.encode (beBytes 2 (id.value / 2 ^ 80)) ++ 45
      :: (Hex.encode (beBytes 2 (id.value / 2 ^ 64)) ++ 45
      :: (Hex.encode (beBytes 2 (id.value / 2 ^ 48)) ++ 45
      :: Hex.encode (beBytes 6 id.value)))) := by
  have happend : ∀ s t : List Char, ascii (s ++ t) = ascii s ++ ascii t :=
    fun s t => by simp [ascii]
  have hdash : ∀ t : List Char, ascii ('-' :: t) = 45 :: ascii t := fun _ => rfl
  unfold ProtocolId.canonicalText
  simp only [happend, hdash, ← ascii_hexText, Nat.reduceMul, List.append_assoc,
    List.cons_append, List.nil_append]

theorem asBytes_groups {k : IdKind} (id : ProtocolId k) :
    id.asBytes = beBytes 4 (id.value / 2 ^ 96) ++ (beBytes 2 (id.value / 2 ^ 80)
      ++ (beBytes 2 (id.value / 2 ^ 64) ++ (beBytes 2 (id.value / 2 ^ 48)
      ++ beBytes 6 id.value))) := by
  rw [ProtocolId.asBytes, show 16 = 4 + (2 + (2 + (2 + 6))) from rfl, beBytes_add 4, beBytes_add 2,
    beBytes_add 2, beBytes_add 2]
  norm_num

/-- The checks of the version nibble and of the variant bits, on the number. -/
theorem version_variant_iff {x : ℕ} :
    (beBytes 16 x).getD 6 0 >>> 4 = 4 ∧ (beBytes 16 x).getD 8 0 >>> 6 = 2
      ↔ x / 2 ^ 76 % 16 = 4 ∧ x / 2 ^ 62 % 4 = 2 := by
  have hversion : x / 2 ^ 76 = x / 256 ^ 9 / 16 := by
    rw [Nat.div_div_eq_div_mul]
    norm_num
  have hvariant : x / 2 ^ 62 = x / 256 ^ 7 / 64 := by
    rw [Nat.div_div_eq_div_mul]
    norm_num
  have hsix : ((beBytes 16 x).getD 6 0 >>> 4).toNat = x / 256 ^ 9 % 256 / 16 := by
    rw [getD_beBytes (by decide), UInt8.toNat_shiftRight, Nat.shiftRight_eq_div_pow]
    simp
  have height : ((beBytes 16 x).getD 8 0 >>> 6).toNat = x / 256 ^ 7 % 256 / 64 := by
    rw [getD_beBytes (by decide), UInt8.toNat_shiftRight, Nat.shiftRight_eq_div_pow]
    simp
  rw [← UInt8.toNat_inj, ← UInt8.toNat_inj, hsix, height, hversion, hvariant,
    show (4 : UInt8).toNat = 4 from rfl, show (2 : UInt8).toNat = 2 from rfl]
  omega

/-- The check of the hyphens looks at the bytes between the groups. -/
theorem hyphens_iff {low mid version sequence : List UInt8} (node : List UInt8) {a b c d : UInt8}
    (hlow : low.length = 8) (hmid : mid.length = 4) (hversion : version.length = 4)
    (hsequence : sequence.length = 4) :
    ([8, 13, 18, 23].any fun index =>
        (low ++ a :: (mid ++ b :: (version ++ c :: (sequence ++ d :: node)))).getD index 0 ≠ 45)
        = false
      ↔ a = 45 ∧ b = 45 ∧ c = 45 ∧ d = 45 := by
  simp [List.getD_eq_getElem?_getD, List.getElem?_append, List.getElem?_cons, hlow, hmid, hversion,
    hsequence]

theorem lower_eq_hyphen_iff {b : UInt8} : Hex.lower b = 45 ↔ b = 45 := by
  have hall : ∀ b : Fin 256, Hex.lower (UInt8.ofFin b) = 45 ↔ UInt8.ofFin b = 45 := by
    decide +kernel
  exact hall b.toFin

/-- Digits that are read as bytes are their spelling, and twice as many. -/
theorem length_of_decode {text bytes : List UInt8} (h : Hex.decode text = some bytes) :
    text.length = 2 * bytes.length := by
  rw [← Hex.length_encode, ← Hex.decode_eq_some_iff.mp h, List.length_map]

/-- The identifier of bytes that pass the checks. -/
theorem exists_id (k : IdKind) {bytes : List UInt8} (hlen : bytes.length = 16)
    (hversion : bytes.getD 6 0 >>> 4 = 4) (hvariant : bytes.getD 8 0 >>> 6 = 2) :
    ∃ id : ProtocolId k, bytes = id.asBytes := by
  obtain ⟨x, hx, hbytes⟩ := exists_beBytes bytes
  rw [hlen] at hx hbytes
  rw [← hbytes] at hversion hvariant
  obtain ⟨hnibble, hbits⟩ := version_variant_iff.mp ⟨hversion, hvariant⟩
  exact ⟨⟨x, lt_of_lt_of_eq hx (by norm_num), hnibble, hbits⟩, hbytes.symm⟩

/-- A text is taken exactly when it is the canonical text of an identifier with any of its letters
in upper case, and then that identifier is read. -/
theorem decodeUuidV4_eq_ok_iff (k : IdKind) {text bytes : List UInt8} :
    decodeUuidV4 text = .ok bytes
      ↔ ∃ id : ProtocolId k, bytes = id.asBytes
        ∧ text.map Hex.lower = ascii id.canonicalText := by
  constructor
  · intro h
    unfold decodeUuidV4 at h
    split_ifs at h with hlen hhyphens
    split at h
    · cases h
    next decoded hpairs =>
    split_ifs at h with hversion hvariant
    cases h
    obtain ⟨low, mid, ver, seq, node, a, b, c, d, rfl, hlow, hmid, hver, hseq, hnode⟩ :=
      exists_groups (not_not.mp hlen)
    obtain ⟨l, m, v, s, n, hl, hm, hv, hs, hn, rfl⟩ :=
      (decodePairs_groups hlow hmid hver hseq hnode).mp hpairs
    have hllen := length_of_decode hl
    have hmlen := length_of_decode hm
    have hvlen := length_of_decode hv
    have hslen := length_of_decode hs
    have hnlen := length_of_decode hn
    obtain ⟨id, hid⟩ := exists_id k (by simp only [List.length_append]; omega)
      (not_not.mp hversion) (not_not.mp hvariant)
    refine ⟨id, hid, ?_⟩
    rw [asBytes_groups] at hid
    obtain ⟨hlbytes, hid⟩ := List.append_inj hid (by simp; omega)
    obtain ⟨hmbytes, hid⟩ := List.append_inj hid (by simp; omega)
    obtain ⟨hvbytes, hid⟩ := List.append_inj hid (by simp; omega)
    obtain ⟨hsbytes, hnbytes⟩ := List.append_inj hid (by simp; omega)
    obtain ⟨rfl, rfl, rfl, rfl⟩ := (hyphens_iff node hlow hmid hver hseq).mp
      (Bool.not_eq_true _ ▸ hhyphens)
    rw [ascii_canonicalText]
    simp only [List.map_append, List.map_cons, Hex.decode_eq_some_iff.mp hl,
      Hex.decode_eq_some_iff.mp hm, Hex.decode_eq_some_iff.mp hv, Hex.decode_eq_some_iff.mp hs,
      Hex.decode_eq_some_iff.mp hn, lower_eq_hyphen_iff.mpr, hlbytes, hmbytes, hvbytes, hsbytes,
      hnbytes]
  · rintro ⟨id, rfl, htext⟩
    rw [ascii_canonicalText] at htext
    have hlen : text.length = 36 := by
      have h := congrArg List.length htext
      simpa using h
    obtain ⟨low, mid, ver, seq, node, a, b, c, d, rfl, hlow, hmid, hver, hseq, hnode⟩ :=
      exists_groups hlen
    simp only [List.map_append, List.map_cons] at htext
    obtain ⟨hl, htext⟩ := List.append_inj htext (by simp [hlow])
    obtain ⟨ha, htext⟩ := List.cons.inj htext
    obtain ⟨hm, htext⟩ := List.append_inj htext (by simp [hmid])
    obtain ⟨hb, htext⟩ := List.cons.inj htext
    obtain ⟨hv, htext⟩ := List.append_inj htext (by simp [hver])
    obtain ⟨hc, htext⟩ := List.cons.inj htext
    obtain ⟨hs, htext⟩ := List.append_inj htext (by simp [hseq])
    obtain ⟨hd, hn⟩ := List.cons.inj htext
    have hhyphens := (hyphens_iff node hlow hmid hver hseq).mpr
      ⟨lower_eq_hyphen_iff.mp ha, lower_eq_hyphen_iff.mp hb, lower_eq_hyphen_iff.mp hc,
        lower_eq_hyphen_iff.mp hd⟩
    have hpairs := (decodePairs_groups (a := a) (b := b) (c := c) (d := d) hlow hmid hver hseq
      hnode).mpr ⟨_, _, _, _, _, Hex.decode_eq_some_iff.mpr hl, Hex.decode_eq_some_iff.mpr hm,
        Hex.decode_eq_some_iff.mpr hv, Hex.decode_eq_some_iff.mpr hs,
        Hex.decode_eq_some_iff.mpr hn, rfl⟩
    rw [← asBytes_groups] at hpairs
    obtain ⟨hversion, hvariant⟩ := version_variant_iff.mpr ⟨id.version, id.variant⟩
    simp only [decodeUuidV4, hlen, ne_eq, not_true_eq_false, if_false, hhyphens, hpairs,
      Bool.false_eq_true]
    rw [ProtocolId.asBytes, if_neg (not_not.mpr hversion), if_neg (not_not.mpr hvariant)]

/-- **Identifiers are read from their spelling**, with letters of either case, and from nothing
else; what an identifier displays is read back as itself. -/
theorem identifier_spelled (k : IdKind) :
    (∀ text bytes : List UInt8, decodeUuidV4 text = .ok bytes
        ↔ ∃ id : ProtocolId k, bytes = id.asBytes
          ∧ text.map Hex.lower = ascii id.canonicalText)
      ∧ ∀ id : ProtocolId k, decodeUuidV4 (ascii id.canonicalText) = .ok id.asBytes := by
  refine ⟨fun text bytes => decodeUuidV4_eq_ok_iff k, fun id => ?_⟩
  refine (decodeUuidV4_eq_ok_iff k).mpr ⟨id, rfl, ?_⟩
  have hdash : Hex.lower 45 = 45 := by decide
  simp only [ascii_canonicalText, List.map_append, List.map_cons, Hex.map_lower_encode, hdash]

/-! ## Node keys and input hashes -/

def isLowerHexDigit (byte : UInt8) : Bool :=
  (48 ≤ byte && byte ≤ 57) || (97 ≤ byte && byte ≤ 102)

/-- The array that the readers fill. -/
def hash32 (bytes : List UInt8) : Vector UInt8 32 := Vector.ofFn fun i => bytes.getD i 0

def parseHex32 (text : List UInt8) : Option (Vector UInt8 32) :=
  if text.length ≠ 64 ∨ !text.all isLowerHexDigit then none else (Hex.decode text).map hash32

def NODE_KEY_PREFIX : List UInt8 := ascii "nodekey:".toList

namespace NodeKey

def parse (text : List UInt8) : Except SessionIdentityError NodeKey :=
  if text.take NODE_KEY_PREFIX.length = NODE_KEY_PREFIX then
    match parseHex32 (text.drop NODE_KEY_PREFIX.length) with
    | some bytes => .ok ⟨bytes⟩
    | none => .error .invalidNodeKey
  else .error .invalidNodeKey

def display (key : NodeKey) : List UInt8 := NODE_KEY_PREFIX ++ Hex.encode key.bytes.toList

end NodeKey

inductive InputHashParseError
  | invalidLength
  | invalidHex
deriving DecidableEq

def parseInputHash (text : List UInt8) : Except InputHashParseError (Vector UInt8 32) :=
  if text.length ≠ 64 then .error .invalidLength
  else
    match Hex.decode text with
    | some bytes => .ok (hash32 bytes)
    | none => .error .invalidHex

theorem toList_hash32 {bytes : List UInt8} (h : bytes.length = 32) :
    (hash32 bytes).toList = bytes := by
  refine List.ext_getElem (by simp [h]) fun i hi hi' => ?_
  simp [hash32, List.getD_eq_getElem?_getD, hi']

theorem hash32_toList (v : Vector UInt8 32) : hash32 v.toList = v :=
  Vector.toList_inj.mp (toList_hash32 (by simp))

/-- Sixty-four digits are read as the bytes they spell. -/
theorem decode_hash32_iff {text : List UInt8} {v : Vector UInt8 32} :
    (text.length = 64 ∧ (Hex.decode text).map hash32 = some v)
      ↔ text.map Hex.lower = Hex.encode v.toList := by
  constructor
  · rintro ⟨hlen, h⟩
    obtain ⟨bytes, hbytes, rfl⟩ := Option.map_eq_some_iff.mp h
    have h32 := length_of_decode hbytes
    rw [toList_hash32 (by omega), Hex.decode_eq_some_iff.mp hbytes]
  · intro h
    have hlen := congrArg List.length h
    simp only [List.length_map, Hex.length_encode, Vector.length_toList] at hlen
    refine ⟨hlen, ?_⟩
    rw [Hex.decode_eq_some_iff.mpr h, Option.map_some, hash32_toList]

theorem lower_of_isLowerHexDigit {b : UInt8} (h : isLowerHexDigit b) : Hex.lower b = b := by
  have hall : ∀ b : Fin 256, isLowerHexDigit (UInt8.ofFin b) = true →
      Hex.lower (UInt8.ofFin b) = UInt8.ofFin b := by decide +kernel
  exact hall b.toFin h

theorem isLowerHexDigit_digit {n : ℕ} (h : n < 16) : isLowerHexDigit (Hex.digit n) := by
  have hall : ∀ n : Fin 16, isLowerHexDigit (Hex.digit n.val) = true := by decide
  exact hall ⟨n, h⟩

theorem all_isLowerHexDigit_encode (bytes : List UInt8) :
    (Hex.encode bytes).all isLowerHexDigit := by
  induction bytes with
  | nil => rfl
  | cons b bytes ih =>
    have hb := b.toNat_lt
    rw [Hex.encode_cons, List.all_cons, List.all_cons, ih, isLowerHexDigit_digit (by omega),
      isLowerHexDigit_digit (by omega)]
    rfl

theorem parseHex32_eq_some_iff {text : List UInt8} {v : Vector UInt8 32} :
    parseHex32 text = some v ↔ text = Hex.encode v.toList := by
  unfold parseHex32
  constructor
  · intro h
    split_ifs at h with hbad
    rw [not_or, not_not, Bool.not_eq_true, Bool.not_eq_false'] at hbad
    rw [← decode_hash32_iff.mp ⟨hbad.1, h⟩]
    refine (List.map_id text).symm.trans (List.map_congr_left fun b hb => ?_)
    exact (lower_of_isLowerHexDigit (List.all_eq_true.mp hbad.2 b hb)).symm
  · rintro rfl
    have hdecode := decode_hash32_iff.mpr (Hex.map_lower_encode v.toList)
    rw [if_neg, hdecode.2]
    simp [all_isLowerHexDigit_encode]

theorem NodeKey.parse_eq_ok_iff {text : List UInt8} {key : NodeKey} :
    NodeKey.parse text = .ok key ↔ text = key.display := by
  unfold NodeKey.parse NodeKey.display
  split_ifs with hhead
  · obtain ⟨rest, rfl⟩ : ∃ rest, text = NODE_KEY_PREFIX ++ rest :=
      ⟨text.drop NODE_KEY_PREFIX.length, by
        conv_lhs => rw [← List.take_append_drop NODE_KEY_PREFIX.length text, hhead]⟩
    rw [List.drop_left, List.append_cancel_left_eq, ← parseHex32_eq_some_iff]
    cases parseHex32 rest with
    | none => simp
    | some bytes =>
      obtain ⟨v⟩ := key
      simp
  · simp only [false_iff]
    rintro rfl
    exact hhead List.take_left

theorem parseInputHash_eq_ok_iff {text : List UInt8} {v : Vector UInt8 32} :
    parseInputHash text = .ok v ↔ text.map Hex.lower = Hex.encode v.toList := by
  rw [← decode_hash32_iff, parseInputHash]
  split_ifs with hlen
  · simp [hlen]
  · cases Hex.decode text with
    | none => simp
    | some bytes => simp [not_not.mp hlen]

/-! ## Wire versions -/

inductive WireVersionParseError
  | invalidFormat
  | invalidComponent (component : String)
deriving DecidableEq

def parseComponent (value : List UInt8) (component : String) :
    Except WireVersionParseError UInt16 :=
  if value.isEmpty ∨ ¬(value.all fun b => Decimal.IsDigit b)
      ∨ (1 < value.length ∧ value.head? = some 48) then
    .error (.invalidComponent component)
  else if Decimal.value value < 65536 then .ok (UInt16.ofNat (Decimal.value value))
  else .error (.invalidComponent component)

namespace WireVersion

def fromStr (text : List UInt8) : Except WireVersionParseError WireVersion :=
  match text.dropWhile (· ≠ 46) with
  | [] => .error .invalidFormat
  | _ :: minor =>
    if minor.contains 46 then .error .invalidFormat
    else do
      let major ← parseComponent (text.takeWhile (· ≠ 46)) "major"
      let minor ← parseComponent minor "minor"
      .ok ⟨major, minor⟩

def display (v : WireVersion) : List UInt8 := number v.major.toNat ++ 46 :: number v.minor.toNat

end WireVersion

theorem parseComponent_eq_ok_iff {value : List UInt8} {component : String} {n : UInt16} :
    parseComponent value component = .ok n ↔ value = number n.toNat := by
  rw [← Decimal.isNumeral_and_value_iff, parseComponent]
  constructor
  · intro h
    split_ifs at h with hbad hsmall
    cases h
    simp only [not_or, not_and, not_not, List.all_eq_true, decide_eq_true_eq] at hbad
    refine ⟨⟨by simpa using hbad.1, hbad.2.1, hbad.2.2⟩, ?_⟩
    simp
    omega
  · rintro ⟨h, hvalue⟩
    have hn := n.toNat_lt
    rw [if_neg, if_pos (by omega), hvalue, UInt16.ofNat_toNat]
    simp only [not_or, not_and, not_not, List.all_eq_true, decide_eq_true_eq]
    exact ⟨by simpa using h.ne_nil, h.digits, h.head_ne⟩

theorem WireVersion.fromStr_eq_ok_iff {text : List UInt8} {v : WireVersion} :
    WireVersion.fromStr text = .ok v ↔ text = v.display := by
  unfold WireVersion.fromStr WireVersion.display
  constructor
  · intro h
    have htext := List.takeWhile_append_dropWhile (p := fun b : UInt8 => b ≠ 46) (l := text)
    cases hdrop : text.dropWhile (· ≠ 46) with
    | nil => simp only [hdrop, reduceCtorEq] at h
    | cons dot minor =>
      have hdot : dot = 46 := by
        have hhead := List.head?_dropWhile_not (fun b : UInt8 => b ≠ 46) text
        rw [hdrop] at hhead
        simpa using hhead
      simp only [hdrop] at h htext
      split_ifs at h
      cases hmajor : parseComponent (text.takeWhile (· ≠ 46)) "major" with
      | error error => simp only [hmajor, bind, Except.bind, reduceCtorEq] at h
      | ok major =>
        cases hminor : parseComponent minor "minor" with
        | error error => simp only [hmajor, hminor, bind, Except.bind, reduceCtorEq] at h
        | ok minorValue =>
          simp only [hmajor, hminor, bind, Except.bind, Except.ok.injEq] at h
          subst h
          rw [← htext, hdot, parseComponent_eq_ok_iff.mp hmajor,
            ← parseComponent_eq_ok_iff.mp hminor]
  · rintro rfl
    have hmajor : ∀ b ∈ number v.major.toNat, decide (b ≠ 46) = true := by
      intro b hb
      refine decide_eq_true fun h => Decimal.dot_not_mem_number v.major.toNat ?_
      rwa [← h]
    have hminor := Decimal.dot_not_mem_number v.minor.toNat
    have hread : ∀ (n : UInt16) component, parseComponent (number n.toNat) component = .ok n :=
      fun n component => parseComponent_eq_ok_iff.mpr rfl
    rw [List.dropWhile_append_of_pos hmajor, List.takeWhile_append_of_pos hmajor]
    simp [hread, hminor, bind, Except.bind]

/-- **One spelling each.**  A wire version and a node key are read from the text that they display
and from no other, an input hash from its digits in either case. -/
theorem texts_spelled :
    (∀ (text : List UInt8) (v : WireVersion), WireVersion.fromStr text = .ok v ↔ text = v.display)
      ∧ (∀ (text : List UInt8) (key : NodeKey), NodeKey.parse text = .ok key ↔ text = key.display)
      ∧ ∀ (text : List UInt8) (hash : Vector UInt8 32), parseInputHash text = .ok hash
          ↔ text.map Hex.lower = Hex.encode hash.toList :=
  ⟨fun _ _ => WireVersion.fromStr_eq_ok_iff, fun _ _ => NodeKey.parse_eq_ok_iff,
    fun _ _ => parseInputHash_eq_ok_iff⟩

end Spurfire
