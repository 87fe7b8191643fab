import Spurfire.Lib.Json
import Spurfire.Server.VaultEncoding
import Mathlib.Data.Nat.Digits.Defs
import Mathlib.Tactic.Ring

/-!
# The spelling of capability tokens

`base64url_encode` and `base64url_decode` of `crypto.rs`, and the token that
`capability_from_headers` takes.

* `sextets`: the six-bit groups of some bytes, in chunks of three;
* `Regrouping`: the accumulator of the decoder, with `Regrouping.Reads` as the invariant of its
  loop: bytes and accumulator together are the number that was read;
* `groups_sextets`: the groups are the number of the bytes, shifted to a whole group;
* `base64url_one_spelling` is the result for all bytes and all strings.
-/

namespace Spurfire

def BASE64URL : List Char :=
  "ABCDEFGHIJKLMNOPQRSTUVWXYZabcdefghijklmnopqrstuvwxyz0123456789-_".toList

/-- The character of an index; there is one for every index below 64. -/
def base64urlChar (index : UInt8) : Char := BASE64URL.getD index.toNat default

/-- The indices of one chunk of at most three bytes. -/
def chunkSextets (first : UInt8) (second third : Option UInt8) : List UInt8 :=
  [first >>> 2, (first &&& 0x03) <<< 4 ||| second.getD 0 >>> 4]
    ++ (second.map fun second : UInt8 => (second &&& 0x0f) <<< 2 ||| third.getD 0 >>> 6).toList
    ++ (third.map fun third : UInt8 => third &&& 0x3f).toList

def sextets : List UInt8 → List UInt8
  | [] => []
  | [first] => chunkSextets first none none
  | [first, second] => chunkSextets first (some second) none
  | first :: second :: third :: input =>
    chunkSextets first (some second) (some third) ++ sextets input

def base64urlEncode (input : List UInt8) : String :=
  String.ofList ((sextets input).map base64urlChar)

/-- The index that a byte of the text stands for. -/
def sextetOf (byte : UInt8) : Option UInt8 :=
  if 65 ≤ byte ∧ byte ≤ 90 then some (byte - 65)
  else if 97 ≤ byte ∧ byte ≤ 122 then some (byte - 97 + 26)
  else if 48 ≤ byte ∧ byte ≤ 57 then some (byte - 48 + 52)
  else if byte = 45 then some 62
  else if byte = 95 then some 63
  else none

/-- What the loop of the decoder carries. -/
structure Regrouping where
  output : List UInt8
  accumulator : UInt32
  bits : UInt8

namespace Regrouping

def start : Regrouping := ⟨[], 0, 0⟩

/-- One pass of the loop, for the index of one character. -/
def push (r : Regrouping) (value : UInt8) : Regrouping :=
  let accumulator := r.accumulator <<< 6 ||| value.toUInt32
  let bits := r.bits + 6
  if 8 ≤ bits then
    let bits := bits - 8
    -- the saturating subtraction never saturates: the shift leaves one bit set
    ⟨r.output ++ [(accumulator >>> bits.toUInt32).toUInt8],
      accumulator &&& (1 <<< bits.toUInt32 - 1), bits⟩
  else ⟨r.output, accumulator, bits⟩

/-- The loop; a byte outside the alphabet ends it. -/
def read (r : Regrouping) : List UInt8 → Option Regrouping
  | [] => some r
  | byte :: bytes => (sextetOf byte).bind fun value => (r.push value).read bytes

end Regrouping

def base64urlDecode (input : String) : Option (List UInt8) :=
  let bytes := utf8 input
  if bytes.isEmpty ∨ bytes.length % 4 = 1 ∨ ¬ bytes.all (· < 128) then none
  else (Regrouping.start.read bytes).bind fun r =>
    if r.accumulator ≠ 0 then none else some r.output

/-! ### Capability tokens -/

def CAPABILITY_SCHEME : List Char := "Spurfire-Capability".toList

def splitOnce (separator : Char) : List Char → Option (List Char × List Char)
  | [] => none
  | c :: text =>
    if c = separator then some ([], text)
    else (splitOnce separator text).map fun (before, after) => (c :: before, after)

/-- `HeaderValue::to_str` gives visible characters only. -/
def isVisibleAscii (c : Char) : Bool := 32 ≤ c.toNat && c.toNat < 127 || c == '\t'

/-- `capability_from_headers`, for the value of the header: the text whose hash is the verifier, and
the secret that it spells. -/
def capabilityFromHeaders (value : List Char) : Option (String × List UInt8) :=
  if !value.all isVisibleAscii then none
  else
    (splitOnce ' ' value).bind fun (scheme, token) =>
      if scheme ≠ CAPABILITY_SCHEME ∨ token.isEmpty ∨ token.any Char.isWhitespace then none
      else
        (base64urlDecode (String.ofList token)).bind fun decoded =>
          if decoded.length ≠ 48 then none else some (String.ofList token, decoded)

example : base64urlEncode [0x66, 0x6f, 0x6f, 0xfb] = "Zm9v-w" := by decide +kernel
example : base64urlDecode "Zm9v-w" = some [0x66, 0x6f, 0x6f, 0xfb] := by decide +kernel
example : base64urlDecode "Zm9v-x" = none := by decide +kernel

/-! ## Big-endian numbers -/

def ofBigEndian (base : ℕ) (digits : List UInt8) : ℕ :=
  digits.foldl (fun n digit => n * base + digit.toNat) 0

theorem ofBigEndian_append_singleton (base : ℕ) (digits : List UInt8) (digit : UInt8) :
    ofBigEndian base (digits ++ [digit]) = ofBigEndian base digits * base + digit.toNat := by
  simp [ofBigEndian]

theorem ofBigEndian_append (base : ℕ) (high low : List UInt8) :
    ofBigEndian base (high ++ low)
      = ofBigEndian base high * base ^ low.length + ofBigEndian base low := by
  induction low using List.reverseRecOn with
  | nil => simp [ofBigEndian]
  | append_singleton low digit ih =>
    rw [← List.append_assoc, ofBigEndian_append_singleton, ofBigEndian_append_singleton, ih,
      List.length_append, List.length_singleton]
    ring

/-- Digits below the base are given by their number and their count. -/
theorem ofBigEndian_inj {base : ℕ} {digits digits' : List UInt8}
    (hlength : digits.length = digits'.length) (hdigits : ∀ digit ∈ digits, digit.toNat < base)
    (hdigits' : ∀ digit ∈ digits', digit.toNat < base)
    (h : ofBigEndian base digits = ofBigEndian base digits') : digits = digits' := by
  induction digits using List.reverseRecOn generalizing digits' with
  | nil => exact (List.length_eq_zero_iff.mp hlength.symm).symm
  | append_singleton digits digit ih =>
    induction digits' using List.reverseRecOn with
    | nil => simp at hlength
    | append_singleton digits' digit' =>
      rw [ofBigEndian_append_singleton, ofBigEndian_append_singleton] at h
      have hlast : digit.toNat < base := hdigits digit (by simp)
      have hlast' : digit'.toNat < base := hdigits' digit' (by simp)
      have hpositive : 0 < base := (Nat.zero_le _).trans_lt hlast
      have hdigit : digit = digit' := by
        have hmod : (_ * base + digit.toNat) % base = (_ * base + digit'.toNat) % base :=
          congrArg (· % base) h
        rw [Nat.mul_add_mod_of_lt hlast, Nat.mul_add_mod_of_lt hlast'] at hmod
        exact UInt8.toNat_inj.mp hmod
      subst hdigit
      have hhigh := Nat.eq_of_mul_eq_mul_right hpositive (Nat.add_right_cancel h)
      have hcount : digits.length = digits'.length := by simpa using hlength
      rw [ih hcount (fun digit hmem => hdigits digit (List.mem_append_left _ hmem))
        (fun digit hmem => hdigits' digit (List.mem_append_left _ hmem)) hhigh]

/-! ## The alphabet -/

theorem sextetOf_char : ∀ index : UInt8, index < 64 →
    sextetOf (UInt8.ofNat (base64urlChar index).toNat) = some index := by
  have h : ∀ n < 64, sextetOf (UInt8.ofNat (base64urlChar (UInt8.ofNat n)).toNat)
      = some (UInt8.ofNat n) := by decide +kernel
  intro index hindex
  have hchar := h index.toNat (UInt8.lt_iff_toNat_lt.mp hindex)
  rwa [UInt8.ofNat_toNat] at hchar

theorem char_ascii : ∀ index : UInt8, index < 64 → (base64urlChar index).toNat < 128 := by
  have h : ∀ n < 64, (base64urlChar (UInt8.ofNat n)).toNat < 128 := by decide +kernel
  intro index hindex
  have hchar := h index.toNat (UInt8.lt_iff_toNat_lt.mp hindex)
  rwa [UInt8.ofNat_toNat] at hchar

/-- A byte of the alphabet is the character of its index. -/
theorem char_of_sextetOf {byte value : UInt8} (h : sextetOf byte = some value) :
    value < 64 ∧ UInt8.ofNat (base64urlChar value).toNat = byte := by
  have htable : ∀ n < 256, (sextetOf (UInt8.ofNat n)).all fun value =>
      decide (value < 64 ∧ UInt8.ofNat (base64urlChar value).toNat = UInt8.ofNat n) := by
    decide +kernel
  have hbyte := htable byte.toNat byte.toNat_lt
  rw [UInt8.ofNat_toNat, h] at hbyte
  exact of_decide_eq_true hbyte

theorem utf8_ofList {text : List Char} (h : ∀ c ∈ text, c.toNat < 128) :
    utf8 (String.ofList text) = Json.ascii text := by
  have hchar : ∀ c ∈ text, String.utf8EncodeChar c = [UInt8.ofNat c.toNat] := by
    intro c hc
    unfold String.utf8EncodeChar
    exact if_pos (Nat.le_of_lt_succ (h c hc))
  unfold utf8 Json.ascii
  rw [String.toUTF8_eq_toByteArray, String.toByteArray_ofList, List.utf8Encode,
    List.data_toByteArray, List.toList_toArray, List.flatMap_congr hchar]
  exact List.map_eq_flatMap.symm

/-! ## The encoder -/

theorem toNat_high (first : UInt8) : (first >>> 2).toNat = first.toNat / 4 := by
  rw [UInt8.toNat_shiftRight, Nat.shiftRight_eq_div_pow]
  rfl

theorem toNat_second (first second : UInt8) :
    ((first &&& 0x03) <<< 4 ||| second >>> 4).toNat
      = first.toNat % 4 * 16 + second.toNat / 16 := by
  have hsecond := second.toNat_lt
  have hmask : first.toNat &&& 3 = first.toNat % 4 := Nat.and_two_pow_sub_one_eq_mod _ 2
  rw [UInt8.toNat_or, UInt8.toNat_shiftLeft, UInt8.toNat_shiftRight, UInt8.toNat_and]
  change (first.toNat &&& 3) <<< 4 % 256 ||| second.toNat >>> 4 = _
  rw [hmask, Nat.mod_eq_of_lt (by rw [Nat.shiftLeft_eq]; omega),
    ← Nat.shiftLeft_add_eq_or_of_lt (by rw [Nat.shiftRight_eq_div_pow]; omega),
    Nat.shiftLeft_eq, Nat.shiftRight_eq_div_pow]

theorem toNat_third (second third : UInt8) :
    ((second &&& 0x0f) <<< 2 ||| third >>> 6).toNat
      = second.toNat % 16 * 4 + third.toNat / 64 := by
  have hthird := third.toNat_lt
  have hmask : second.toNat &&& 15 = second.toNat % 16 := Nat.and_two_pow_sub_one_eq_mod _ 4
  rw [UInt8.toNat_or, UInt8.toNat_shiftLeft, UInt8.toNat_shiftRight, UInt8.toNat_and]
  change (second.toNat &&& 15) <<< 2 % 256 ||| third.toNat >>> 6 = _
  rw [hmask, Nat.mod_eq_of_lt (by rw [Nat.shiftLeft_eq]; omega),
    ← Nat.shiftLeft_add_eq_or_of_lt (by rw [Nat.shiftRight_eq_div_pow]; omega),
    Nat.shiftLeft_eq, Nat.shiftRight_eq_div_pow]

theorem toNat_fourth (third : UInt8) : (third &&& 0x3f).toNat = third.toNat % 64 := by
  rw [UInt8.toNat_and]
  exact Nat.and_two_pow_sub_one_eq_mod _ 6

/-- A whole chunk: four groups with the number of its three bytes. -/
theorem chunkSextets_three (first second third : UInt8) :
    (chunkSextets first (some second) (some third)).length = 4
    ∧ ofBigEndian 64 (chunkSextets first (some second) (some third))
      = ofBigEndian 256 [first, second, third]
    ∧ ∀ value ∈ chunkSextets first (some second) (some third), value.toNat < 64 := by
  have hfirst := first.toNat_lt
  have hsecond := second.toNat_lt
  have hthird := third.toNat_lt
  have hshape : chunkSextets first (some second) (some third)
      = [first >>> 2, (first &&& 0x03) <<< 4 ||| second >>> 4,
        (second &&& 0x0f) <<< 2 ||| third >>> 6, third &&& 0x3f] := rfl
  rw [hshape]
  refine ⟨rfl, ?_, ?_⟩
  · unfold ofBigEndian
    simp only [List.foldl_cons, List.foldl_nil, toNat_high, toNat_second, toNat_third,
      toNat_fourth]
    omega
  · intro value hmem
    simp only [List.mem_cons, List.not_mem_nil, or_false] at hmem
    rcases hmem with rfl | rfl | rfl | rfl
    · rw [toNat_high]
      omega
    · rw [toNat_second]
      omega
    · rw [toNat_third]
      omega
    · rw [toNat_fourth]
      omega

/-- The last chunk: its groups have the number of its bytes, shifted to whole groups. -/
theorem chunkSextets_one (first : UInt8) :
    ofBigEndian 64 (chunkSextets first none none) = ofBigEndian 256 [first] * 2 ^ 4
    ∧ ∀ value ∈ chunkSextets first none none, value.toNat < 64 := by
  have hfirst := first.toNat_lt
  have hshape : chunkSextets first none none
      = [first >>> 2, (first &&& 0x03) <<< 4 ||| (0 : UInt8) >>> 4] := rfl
  rw [hshape]
  refine ⟨?_, ?_⟩
  · unfold ofBigEndian
    simp only [List.foldl_cons, List.foldl_nil, toNat_high, toNat_second, UInt8.toNat_zero]
    omega
  · intro value hmem
    simp only [List.mem_cons, List.not_mem_nil, or_false] at hmem
    rcases hmem with rfl | rfl
    · rw [toNat_high]
      omega
    · rw [toNat_second, UInt8.toNat_zero]
      omega

theorem chunkSextets_two (first second : UInt8) :
    ofBigEndian 64 (chunkSextets first (some second) none)
      = ofBigEndian 256 [first, second] * 2 ^ 2
    ∧ ∀ value ∈ chunkSextets first (some second) none, value.toNat < 64 := by
  have hfirst := first.toNat_lt
  have hsecond := second.toNat_lt
  have hshape : chunkSextets first (some second) none
      = [first >>> 2, (first &&& 0x03) <<< 4 ||| second >>> 4,
        (second &&& 0x0f) <<< 2 ||| (0 : UInt8) >>> 6] := rfl
  rw [hshape]
  refine ⟨?_, ?_⟩
  · unfold ofBigEndian
    simp only [List.foldl_cons, List.foldl_nil, toNat_high, toNat_second, toNat_third,
      UInt8.toNat_zero]
    omega
  · intro value hmem
    simp only [List.mem_cons, List.not_mem_nil, or_false] at hmem
    rcases hmem with rfl | rfl | rfl
    · rw [toNat_high]
      omega
    · rw [toNat_second]
      omega
    · rw [toNat_third, UInt8.toNat_zero]
      omega

/-- Groups that hold some bytes: the number of the bytes, shifted by less than a group. -/
structure Groups (values input : List UInt8) : Prop where
  small : ∀ value ∈ values, value.toNat < 64
  shift : ∃ pad ≤ 4, 6 * values.length = 8 * input.length + pad
    ∧ ofBigEndian 64 values = ofBigEndian 256 input * 2 ^ pad

theorem groups_sextets (input : List UInt8) : Groups (sextets input) input := by
  induction input using sextets.induct with
  | case1 => exact ⟨nofun, 0, by decide, rfl, rfl⟩
  | case2 first =>
    obtain ⟨hvalue, hsmall⟩ := chunkSextets_one first
    exact ⟨hsmall, 4, le_refl _, rfl, hvalue⟩
  | case3 first second =>
    obtain ⟨hvalue, hsmall⟩ := chunkSextets_two first second
    exact ⟨hsmall, 2, by decide, rfl, hvalue⟩
  | case4 first second third input ih =>
    obtain ⟨hcount, hvalue, hsmall⟩ := chunkSextets_three first second third
    obtain ⟨hrest, pad, hpad, hlength, hshift⟩ := ih
    unfold sextets
    refine ⟨fun value hmem => (List.mem_append.mp hmem).elim (hsmall value) (hrest value), pad,
      hpad, ?_, ?_⟩
    · rw [List.length_append, hcount]
      simp only [List.length_cons]
      omega
    · have hpower : 64 ^ (sextets input).length = 256 ^ input.length * 2 ^ pad := by
        rw [show (64 : ℕ) = 2 ^ 6 from rfl, show (256 : ℕ) = 2 ^ 8 from rfl, ← pow_mul, ← pow_mul,
          ← pow_add, hlength]
      have hsplit : first :: second :: third :: input = [first, second, third] ++ input := rfl
      rw [ofBigEndian_append, hvalue, hsplit, ofBigEndian_append, hpower, hshift]
      ring

/-! ## The decoder -/

namespace Regrouping

/-- The number of the indices read so far is that of the output above the accumulator, which has
no bits but the pending ones. -/
structure Reads (r : Regrouping) (values : List UInt8) : Prop where
  pending : r.bits.toNat ≤ 6
  room : r.accumulator.toNat < 2 ^ r.bits.toNat
  count : 6 * values.length = 8 * r.output.length + r.bits.toNat
  number : ofBigEndian 64 values
    = ofBigEndian 256 r.output * 2 ^ r.bits.toNat + r.accumulator.toNat

theorem reads_start : start.Reads [] := ⟨by decide, by decide, rfl, rfl⟩

variable {r : Regrouping} {values : List UInt8} {value : UInt8}

theorem Reads.accumulator_lt (h : r.Reads values) : r.accumulator.toNat < 64 :=
  h.room.trans_le (Nat.pow_le_pow_right (by decide) h.pending)

/-- No bit of the accumulator is shifted out. -/
theorem Reads.toNat_shifted (h : r.Reads values) (hvalue : value.toNat < 64) :
    (r.accumulator <<< 6 ||| value.toUInt32).toNat
      = r.accumulator.toNat * 64 + value.toNat := by
  have haccumulator := h.accumulator_lt
  rw [UInt32.toNat_or, UInt32.toNat_shiftLeft, UInt8.toNat_toUInt32]
  change r.accumulator.toNat <<< 6 % 2 ^ 32 ||| value.toNat = _
  rw [Nat.mod_eq_of_lt (by rw [Nat.shiftLeft_eq]; omega),
    ← Nat.shiftLeft_add_eq_or_of_lt (by omega), Nat.shiftLeft_eq]

theorem toNat_top {n : UInt32} {bits : UInt8} (h : bits.toNat < 32) :
    (n >>> bits.toUInt32).toNat = n.toNat / 2 ^ bits.toNat := by
  rw [UInt32.toNat_shiftRight, UInt8.toNat_toUInt32, Nat.mod_eq_of_lt h,
    Nat.shiftRight_eq_div_pow]

theorem toNat_rest {n : UInt32} {bits : UInt8} (h : bits.toNat < 32) :
    (n &&& (1 <<< bits.toUInt32 - 1)).toNat = n.toNat % 2 ^ bits.toNat := by
  have hone : (1 <<< bits.toUInt32 : UInt32).toNat = 2 ^ bits.toNat := by
    rw [UInt32.toNat_shiftLeft, UInt8.toNat_toUInt32, Nat.mod_eq_of_lt h, Nat.shiftLeft_eq]
    change 1 * 2 ^ bits.toNat % 2 ^ 32 = 2 ^ bits.toNat
    rw [Nat.one_mul]
    exact Nat.mod_eq_of_lt (Nat.pow_lt_pow_right (by decide) h)
  have hle : (1 : UInt32) ≤ 1 <<< bits.toUInt32 := by
    rw [UInt32.le_iff_toNat_le, hone]
    exact Nat.one_le_two_pow
  rw [UInt32.toNat_and, UInt32.toNat_sub_of_le _ _ hle, hone]
  exact Nat.and_two_pow_sub_one_eq_mod _ _

/-- One character more. -/
theorem Reads.push (h : r.Reads values) (hvalue : value.toNat < 64) :
    (r.push value).Reads (values ++ [value]) := by
  have hpending := h.pending
  have hroom := h.room
  have hcount := h.count
  have hshifted := h.toNat_shifted hvalue
  have hbits : (r.bits + 6).toNat = r.bits.toNat + 6 := by
    rw [UInt8.toNat_add]
    exact Nat.mod_eq_of_lt (by change r.bits.toNat + 6 < 256; omega)
  have hnumber : ofBigEndian 64 (values ++ [value]) = ofBigEndian 256 r.output
      * 2 ^ (r.bits.toNat + 6) + (r.accumulator.toNat * 64 + value.toNat) := by
    rw [ofBigEndian_append_singleton, h.number, pow_add]
    ring
  have hlarge : r.accumulator.toNat * 64 + value.toNat < 2 ^ (r.bits.toNat + 6) := by
    rw [pow_add]
    omega
  have hlength : (values ++ [value]).length = values.length + 1 := List.length_append
  unfold Regrouping.push
  dsimp only
  split_ifs with hfull
  · -- eight bits are there: the high ones are the next byte
    have hrest : (r.bits + 6 - 8).toNat = r.bits.toNat - 2 := by
      rw [UInt8.toNat_sub_of_le _ _ hfull, hbits]
      rfl
    rw [UInt8.le_iff_toNat_le, hbits] at hfull
    change 8 ≤ r.bits.toNat + 6 at hfull
    have hsmall : (r.bits + 6 - 8).toNat < 32 := by omega
    have hsplit : r.bits.toNat + 6 = (r.bits + 6 - 8).toNat + 8 := by omega
    rw [hsplit, pow_add] at hlarge hnumber
    have hbyte : ((r.accumulator <<< 6 ||| value.toUInt32)
        >>> (r.bits + 6 - 8).toUInt32).toUInt8.toNat
        = (r.accumulator.toNat * 64 + value.toNat) / 2 ^ (r.bits + 6 - 8).toNat := by
      rw [UInt32.toNat_toUInt8, toNat_top hsmall, hshifted]
      exact Nat.mod_eq_of_lt (Nat.div_lt_of_lt_mul hlarge)
    have hleft := toNat_rest (n := r.accumulator <<< 6 ||| value.toUInt32) hsmall
    rw [hshifted] at hleft
    refine ⟨?_, ?_, ?_, ?_⟩
    · dsimp only
      omega
    · dsimp only
      rw [hleft]
      exact Nat.mod_lt _ (Nat.two_pow_pos _)
    · dsimp only
      rw [hlength, List.length_append, List.length_singleton]
      omega
    · dsimp only
      rw [hnumber, ofBigEndian_append_singleton, hbyte, hleft]
      have hdiv := Nat.div_add_mod (r.accumulator.toNat * 64 + value.toNat)
        (2 ^ (r.bits + 6 - 8).toNat)
      generalize (r.accumulator.toNat * 64 + value.toNat) / 2 ^ (r.bits + 6 - 8).toNat = high at *
      generalize (r.accumulator.toNat * 64 + value.toNat) % 2 ^ (r.bits + 6 - 8).toNat = low at *
      rw [← hdiv]
      ring
  · rw [UInt8.le_iff_toNat_le, hbits] at hfull
    change ¬ 8 ≤ r.bits.toNat + 6 at hfull
    refine ⟨?_, ?_, ?_, ?_⟩
    · dsimp only
      omega
    · dsimp only
      rwa [hshifted, hbits]
    · dsimp only
      omega
    · dsimp only
      rw [hshifted, hbits, hnumber]

/-- The whole loop: the bytes are the characters of what is read. -/
theorem Reads.read {bytes : List UInt8} {r' : Regrouping} (h : r.Reads values)
    (hread : r.read bytes = some r') : ∃ more, bytes.map sextetOf = more.map some
      ∧ r'.Reads (values ++ more) := by
  induction bytes generalizing r values with
  | nil =>
    cases hread
    exact ⟨[], rfl, by rwa [List.append_nil]⟩
  | cons byte bytes ih =>
    obtain ⟨value, hvalue, hrest⟩ := Option.bind_eq_some_iff.mp hread
    obtain ⟨more, hmore, hreads⟩ :=
      ih (h.push (UInt8.lt_iff_toNat_lt.mp (char_of_sextetOf hvalue).1)) hrest
    exact ⟨value :: more, by rw [List.map_cons, List.map_cons, hvalue, hmore],
      by rwa [List.append_assoc, List.singleton_append] at hreads⟩

/-- Characters of the alphabet are all read. -/
theorem read_of_sextets {bytes : List UInt8} (r : Regrouping) (more : List UInt8)
    (h : bytes.map sextetOf = more.map some) : ∃ r', r.read bytes = some r' := by
  induction bytes generalizing r more with
  | nil => exact ⟨r, rfl⟩
  | cons byte bytes ih =>
    cases more with
    | nil => cases h
    | cons value more =>
      obtain ⟨hvalue, hrest⟩ := List.cons.inj h
      obtain ⟨r', hr'⟩ := ih (r.push value) more hrest
      refine ⟨r', ?_⟩
      unfold Regrouping.read
      rw [hvalue]
      exact hr'

end Regrouping

/-! ## Both directions -/

theorem utf8_base64urlEncode (input : List UInt8) : utf8 (base64urlEncode input)
    = (sextets input).map fun value => UInt8.ofNat (base64urlChar value).toNat := by
  unfold base64urlEncode
  rw [utf8_ofList, Json.ascii, List.map_map]
  · rfl
  · intro c hc
    obtain ⟨value, hvalue, rfl⟩ := List.mem_map.mp hc
    exact char_ascii value (UInt8.lt_iff_toNat_lt.mpr ((groups_sextets input).small value hvalue))

theorem sextetOf_encoded (input : List UInt8) :
    (utf8 (base64urlEncode input)).map sextetOf = (sextets input).map some := by
  rw [utf8_base64urlEncode, List.map_map]
  refine List.map_congr_left fun value hvalue => ?_
  exact sextetOf_char value
    (UInt8.lt_iff_toNat_lt.mpr ((groups_sextets input).small value hvalue))

theorem map_some_injective {values values' : List UInt8}
    (h : values.map some = values'.map some) : values = values' :=
  List.map_injective_iff.mpr (Option.some_injective _) h

/-- Decoding gives the encoded bytes back. -/
theorem decode_encode {input : List UInt8} (hne : input ≠ []) :
    base64urlDecode (base64urlEncode input) = some input := by
  obtain ⟨hsmall, pad, hpad, hlength, hshift⟩ := groups_sextets input
  have hpositive : 0 < input.length := List.length_pos_iff.mpr hne
  obtain ⟨r, hr⟩ := Regrouping.read_of_sextets Regrouping.start _ (sextetOf_encoded input)
  obtain ⟨more, hmore, hreads⟩ := Regrouping.reads_start.read hr
  have hvalues : sextets input = more :=
    map_some_injective ((sextetOf_encoded input).symm.trans hmore)
  subst hvalues
  rw [List.nil_append] at hreads
  have hpending := hreads.pending
  have hcount := hreads.count
  have hbits : r.bits.toNat = pad := by omega
  have hoften : r.output.length = input.length := by omega
  have hnumber := hreads.number
  have hroom := hreads.room
  rw [hbits] at hnumber hroom
  rw [hshift] at hnumber
  have hzero : r.accumulator.toNat = 0 := by
    have hmod : ofBigEndian 256 input * 2 ^ pad % 2 ^ pad
        = (ofBigEndian 256 r.output * 2 ^ pad + r.accumulator.toNat) % 2 ^ pad :=
      congrArg (· % 2 ^ pad) hnumber
    rwa [Nat.mul_mod_left, Nat.mul_add_mod_of_lt hroom, eq_comm] at hmod
  have houtput : r.output = input := by
    refine ofBigEndian_inj hoften (fun byte _ => byte.toNat_lt) (fun byte _ => byte.toNat_lt) ?_
    rw [hzero, Nat.add_zero] at hnumber
    exact (Nat.eq_of_mul_eq_mul_right (Nat.two_pow_pos pad) hnumber).symm
  have hchecks : ¬ ((utf8 (base64urlEncode input)).isEmpty
      ∨ (utf8 (base64urlEncode input)).length % 4 = 1
      ∨ ¬ (utf8 (base64urlEncode input)).all (· < 128)) := by
    have hwidth : (utf8 (base64urlEncode input)).length = (sextets input).length := by
      rw [utf8_base64urlEncode, List.length_map]
    rintro (hempty | hwrong | hwide)
    · rw [List.isEmpty_iff_length_eq_zero] at hempty
      omega
    · omega
    · refine hwide (List.all_eq_true.mpr fun byte hbyte => ?_)
      rw [utf8_base64urlEncode] at hbyte
      obtain ⟨value, hvalue, rfl⟩ := List.mem_map.mp hbyte
      have hchar := char_ascii value (UInt8.lt_iff_toNat_lt.mpr (hsmall value hvalue))
      rw [decide_eq_true_eq, UInt8.lt_iff_toNat_lt, UInt8.toNat_ofNat']
      change _ % 256 < 128
      omega
  unfold base64urlDecode
  dsimp only
  rw [if_neg hchecks, hr]
  exact (if_neg (not_not.mpr (UInt32.toNat_inj.mp hzero))).trans (congrArg some houtput)

theorem encode_of_decode {s : String} {output : List UInt8}
    (h : base64urlDecode s = some output) : base64urlEncode output = s := by
  unfold base64urlDecode at h
  dsimp only at h
  split_ifs at h with hchecks
  push Not at hchecks
  obtain ⟨hne, hlengthMod, -⟩ := hchecks
  obtain ⟨r, hr, houtput⟩ := Option.bind_eq_some_iff.mp h
  split_ifs at houtput with hzero
  cases houtput
  rw [not_not] at hzero
  obtain ⟨more, hmore, hreads⟩ := Regrouping.reads_start.read hr
  rw [List.nil_append] at hreads
  have hlength : (utf8 s).length = more.length := by
    simpa using congrArg List.length hmore
  obtain ⟨hsmall, pad, hpad, hcount, hshift⟩ := groups_sextets r.output
  have hpending := hreads.pending
  have hread := hreads.count
  have hnumber := hreads.number
  -- six pending bits are one character too many, which the length check refuses
  have hnotSix : r.bits.toNat ≠ 6 := by omega
  have hbits : r.bits.toNat = pad := by omega
  rw [hzero, hbits, UInt32.toNat_zero, Nat.add_zero] at hnumber
  have hsmallRead : ∀ value ∈ more, value.toNat < 64 := by
    intro value hvalue
    have hmem : some value ∈ (utf8 s).map sextetOf := by
      rw [hmore]
      exact List.mem_map_of_mem hvalue
    obtain ⟨byte, -, hbyte⟩ := List.mem_map.mp hmem
    exact UInt8.lt_iff_toNat_lt.mp (char_of_sextetOf hbyte).1
  have hvalues : sextets r.output = more :=
    ofBigEndian_inj (by omega) hsmall hsmallRead (hshift.trans hnumber.symm)
  refine utf8_injective ?_
  have hsextets : (utf8 (base64urlEncode r.output)).map sextetOf = (utf8 s).map sextetOf := by
    rw [sextetOf_encoded, hvalues, hmore]
  refine List.ext_getElem (by simpa using congrArg List.length hsextets) fun i hi hi' => ?_
  have hat : sextetOf ((utf8 (base64urlEncode r.output))[i]) = sextetOf ((utf8 s)[i]) := by
    have hget := congrArg (fun values => values[i]?) hsextets
    simpa [hi, hi'] using hget
  have hi'' : i < more.length := by omega
  have hvalue : sextetOf ((utf8 s)[i]) = some more[i] := by
    have hget := congrArg (fun values => values[i]?) hmore
    simpa [hi', hi''] using hget
  rw [← (char_of_sextetOf hvalue).2, ← (char_of_sextetOf (hat.trans hvalue)).2]

theorem decode_eq_some_iff {s : String} {output : List UInt8} :
    base64urlDecode s = some output ↔ output ≠ [] ∧ base64urlEncode output = s := by
  refine ⟨fun h => ⟨?_, encode_of_decode h⟩, fun ⟨hne, h⟩ => h ▸ decode_encode hne⟩
  rintro rfl
  have hempty : base64urlDecode (base64urlEncode []) = none := by decide +kernel
  rw [encode_of_decode h, h] at hempty
  cases hempty

theorem mem_alphabet_of_encode {input : List UInt8} {c : Char}
    (h : c ∈ (base64urlEncode input).toList) : c ∈ BASE64URL := by
  unfold base64urlEncode at h
  rw [String.toList_ofList] at h
  obtain ⟨value, hvalue, rfl⟩ := List.mem_map.mp h
  have hlt : value.toNat < BASE64URL.length := (groups_sextets input).small value hvalue
  unfold base64urlChar
  rw [List.getD_eq_getElem?_getD, List.getElem?_eq_getElem hlt]
  exact List.getElem_mem hlt

theorem splitOnce_eq {separator : Char} {text before after : List Char}
    (h : splitOnce separator text = some (before, after)) :
    text = before ++ separator :: after := by
  induction text generalizing before with
  | nil => cases h
  | cons c text ih =>
    unfold splitOnce at h
    split_ifs at h with hc
    · cases h
      rw [hc]
      rfl
    · obtain ⟨⟨before', after'⟩, hrest, hparts⟩ := Option.map_eq_some_iff.mp h
      cases hparts
      rw [ih hrest]
      rfl

/-- A header with a capability is the scheme, a blank and the one spelling of the secret. -/
theorem capabilityFromHeaders_eq {value : List Char} {token : String} {secret : List UInt8}
    (h : capabilityFromHeaders value = some (token, secret)) :
    value = CAPABILITY_SCHEME ++ ' ' :: token.toList ∧ token = base64urlEncode secret := by
  unfold capabilityFromHeaders at h
  split_ifs at h
  obtain ⟨⟨scheme, text⟩, hsplit, htoken⟩ := Option.bind_eq_some_iff.mp h
  dsimp only at htoken
  split_ifs at htoken with hscheme
  push Not at hscheme
  obtain ⟨decoded, hdecoded, hlength⟩ := Option.bind_eq_some_iff.mp htoken
  split_ifs at hlength
  cases hlength
  rw [splitOnce_eq hsplit, hscheme.1, String.toList_ofList]
  exact ⟨rfl, (encode_of_decode hdecoded).symm⟩

/-- **base64url has one spelling.**  A string decodes to some bytes just when there are bytes and it
is their encoding, so it holds no padding, no blank and no bit too many; the loop never shifts a bit
out of its accumulator, whatever has been read; and two headers for one secret are the same. -/
theorem base64url_one_spelling :
    (∀ s output, base64urlDecode s = some output ↔ output ≠ [] ∧ base64urlEncode output = s)
    ∧ (∀ s output, base64urlDecode s = some output → ∀ c ∈ s.toList, c ∈ BASE64URL)
    ∧ (∀ bytes r, Regrouping.start.read bytes = some r →
      r.accumulator.toNat * 2 ^ 6 + 63 < 2 ^ 32 ∧ r.bits.toNat + 6 < 2 ^ 8)
    ∧ ∀ value value' token token' secret,
      capabilityFromHeaders value = some (token, secret) →
        capabilityFromHeaders value' = some (token', secret) → value = value' ∧ token = token' := by
  refine ⟨fun s output => decode_eq_some_iff, fun s output h c hc => ?_, fun bytes r hr => ?_,
    fun value value' token token' secret h h' => ?_⟩
  · rw [← encode_of_decode h] at hc
    exact mem_alphabet_of_encode hc
  · obtain ⟨more, -, hreads⟩ := Regrouping.reads_start.read hr
    have haccumulator := hreads.accumulator_lt
    have hpending := hreads.pending
    omega
  · obtain ⟨hvalue, htoken⟩ := capabilityFromHeaders_eq h
    obtain ⟨hvalue', htoken'⟩ := capabilityFromHeaders_eq h'
    have hsame : token = token' := htoken.trans htoken'.symm
    exact ⟨by rw [hvalue, hvalue', hsame], hsame⟩

end Spurfire
