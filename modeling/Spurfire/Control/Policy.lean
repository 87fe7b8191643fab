import Mathlib.Data.List.Lex
import Mathlib.Data.Prod.Lex
import Mathlib.Data.String.Basic
import Spurfire.Control.DnsName
import Spurfire.Lib.Canonical
import Spurfire.Lib.Json
import Spurfire.Lib.Sha256
import Spurfire.Server.Custody
import Spurfire.Server.Receipt

/-!
# The child tailnet policy

`ChildTailnetPolicy` of `spurfire-control`: the one policy that a lobby's tailnet gets, and how it is
compared with what the provider reads back.  The JSON encoder enters as a parameter.

* `fromWire` sorts and deduplicates every list that stands for a set, the grants after their own;
* `SameMeaning` is what two policies must share to be the same to it;
* `restrictive_of_verifyPolicy`: a verified policy grants the one rider tag its one port;
* **`policy_law_iff`**: the comparison is one of meanings, and the digest follows it unless a float
  zero is spelled with different signs, which `serde_json` compares as equal and writes differently.
-/

namespace Spurfire

open Std (ExtTreeMap)
open Canonical

/-! ## JSON sections -/

/-- A number of a `serde_json` value; a float is kept as its bits. -/
inductive JsonNumber
  | posInt (n : UInt64)
  | negInt (n : Int64)
  | float (bits : UInt64)
deriving DecidableEq

inductive JsonValue
  | null
  | bool (b : Bool)
  | number (n : JsonNumber)
  | string (s : String)
  | array (items : List JsonValue)
  | object (fields : List (String × JsonValue))

def NEGATIVE_ZERO : UInt64 := 0x8000000000000000

/-- A float zero, of either sign. -/
def isZero (bits : UInt64) : Bool := bits = 0 || bits = NEGATIVE_ZERO

namespace JsonNumber

/-- Floats compare as numbers, so the two zeros are one. -/
def same : JsonNumber → JsonNumber → Bool
  | posInt n, posInt m => n = m
  | negInt n, negInt m => n = m
  | float n, float m => n = m || isZero n && isZero m
  | _, _ => false

/-- The number without the sign of a zero. -/
def plain : JsonNumber → JsonNumber
  | float bits => float (if bits = NEGATIVE_ZERO then 0 else bits)
  | n => n

theorem same_iff {n m : JsonNumber} : n.same m = true ↔ n.plain = m.plain := by
  cases n with
  | posInt n => cases m <;> simp [same, plain]
  | negInt n => cases m <;> simp [same, plain]
  | float n =>
    cases m with
    | posInt m => simp [same, plain]
    | negInt m => simp [same, plain]
    | float m =>
      have hne : (0 : UInt64) ≠ NEGATIVE_ZERO := by decide
      simp only [same, plain, isZero, Bool.or_eq_true, Bool.and_eq_true, decide_eq_true_eq,
        JsonNumber.float.injEq]
      split_ifs with hn hm hm
      · exact iff_of_true (Or.inl (hn.trans hm.symm)) rfl
      · constructor
        · rintro (rfl | ⟨-, rfl | rfl⟩)
          · exact absurd hn hm
          · rfl
          · exact absurd rfl hm
        · rintro rfl
          exact Or.inr ⟨Or.inr hn, Or.inl rfl⟩
      · constructor
        · rintro (rfl | ⟨rfl | rfl, -⟩)
          · exact absurd hm hn
          · rfl
          · exact absurd rfl hn
        · rintro rfl
          exact Or.inr ⟨Or.inl rfl, Or.inr hm⟩
      · constructor
        · rintro (rfl | ⟨hn', hm'⟩)
          · rfl
          · exact (hn'.resolve_right hn).trans (hm'.resolve_right hm).symm
        · exact Or.inl

end JsonNumber

namespace JsonValue

mutual

/-- The derived equality of `serde_json` values. -/
def same : JsonValue → JsonValue → Bool
  | .null, .null => true
  | .bool a, .bool b => a = b
  | .number a, .number b => a.same b
  | .string a, .string b => a = b
  | .array a, .array b => sameItems a b
  | .object a, .object b => sameFields a b
  | _, _ => false

def sameItems : List JsonValue → List JsonValue → Bool
  | [], [] => true
  | a :: as, b :: bs => same a b && sameItems as bs
  | _, _ => false

def sameFields : List (String × JsonValue) → List (String × JsonValue) → Bool
  | [], [] => true
  | (name, a) :: as, (name', b) :: bs => (name = name' && same a b) && sameFields as bs
  | _, _ => false

end

mutual

/-- A value without the signs of its float zeros. -/
def plain : JsonValue → JsonValue
  | .null => .null
  | .bool b => .bool b
  | .number n => .number n.plain
  | .string s => .string s
  | .array items => .array (plainItems items)
  | .object fields => .object (plainFields fields)

def plainItems : List JsonValue → List JsonValue
  | [] => []
  | value :: values => value.plain :: plainItems values

def plainFields : List (String × JsonValue) → List (String × JsonValue)
  | [] => []
  | (name, value) :: fields => (name, value.plain) :: plainFields fields

end

mutual

/-- Two values are equal to `serde_json` exactly when they differ in the signs of zeros only. -/
theorem same_iff : ∀ {a b : JsonValue}, same a b = true ↔ a.plain = b.plain
  | .null, b => by cases b <;> simp [same, plain]
  | .bool a, b => by cases b <;> simp [same, plain]
  | .number a, b => by cases b <;> simp [same, plain, JsonNumber.same_iff]
  | .string a, b => by cases b <;> simp [same, plain]
  | .array a, b => by cases b <;> simp [same, plain, sameItems_iff]
  | .object a, b => by cases b <;> simp [same, plain, sameFields_iff]

theorem sameItems_iff : ∀ {as bs : List JsonValue},
    sameItems as bs = true ↔ plainItems as = plainItems bs
  | [], bs => by cases bs <;> simp [sameItems, plainItems]
  | a :: as, bs => by
    cases bs with
    | nil => simp [sameItems, plainItems]
    | cons b bs => rw [sameItems, plainItems, plainItems, Bool.and_eq_true, same_iff, sameItems_iff,
        List.cons.injEq]

theorem sameFields_iff : ∀ {as bs : List (String × JsonValue)},
    sameFields as bs = true ↔ plainFields as = plainFields bs
  | [], bs => by cases bs <;> simp [sameFields, plainFields]
  | (name, a) :: as, bs => by
    cases bs with
    | nil => simp [sameFields, plainFields]
    | cons b bs =>
      obtain ⟨name', b⟩ := b
      rw [sameFields, plainFields, plainFields, Bool.and_eq_true, Bool.and_eq_true,
        decide_eq_true_eq, same_iff, sameFields_iff, List.cons.injEq, Prod.mk.injEq]

end

theorem plainItems_eq_nil {values : List JsonValue} (h : plainItems values = []) : values = [] := by
  cases values with
  | nil => rfl
  | cons value values => exact nomatch h

end JsonValue

/-! ## The wire form -/

structure PolicyGrant where
  src : List String
  dst : List String
  ip : List String

namespace PolicyGrant

/-- The derived order, field by field. -/
def key (g : PolicyGrant) : List String ×ₗ List String ×ₗ List String :=
  toLex (g.src, toLex (g.dst, g.ip))

theorem key_injective : Function.Injective key := by
  rintro ⟨src, dst, ip⟩ ⟨src', dst', ip'⟩ h
  obtain ⟨rfl, h⟩ := Prod.mk.inj (toLex_inj.mp h)
  obtain ⟨rfl, rfl⟩ := Prod.mk.inj (toLex_inj.mp h)
  rfl

instance : LinearOrder PolicyGrant := LinearOrder.lift' key key_injective

def normalize (g : PolicyGrant) : PolicyGrant := ⟨canonical g.src, canonical g.dst, canonical g.ip⟩

/-- What a grant says: from whom, to whom, on which ports. -/
def meaning (g : PolicyGrant) : Finset String × Finset String × Finset String :=
  (g.src.toFinset, g.dst.toFinset, g.ip.toFinset)

theorem normalize_eq_iff {g g' : PolicyGrant} : g.normalize = g'.normalize ↔ g.meaning = g'.meaning := by
  unfold normalize meaning
  rw [PolicyGrant.mk.injEq, Prod.mk.injEq, Prod.mk.injEq, canonical_eq_iff, canonical_eq_iff,
    canonical_eq_iff]

theorem normalize_normalize (g : PolicyGrant) : g.normalize.normalize = g.normalize := by
  unfold normalize
  rw [canonical_canonical, canonical_canonical, canonical_canonical]

end PolicyGrant

structure PolicyAutoApprovers where
  routes : ExtTreeMap String (List String)
  exitNode : List String

structure ChildTailnetPolicyWire where
  groups : ExtTreeMap String (List String)
  hosts : ExtTreeMap String String
  tagOwners : ExtTreeMap String (List String)
  grants : List PolicyGrant
  acls : List JsonValue
  ssh : List JsonValue
  nodeAttrs : List JsonValue
  autoApprovers : PolicyAutoApprovers
  tests : List JsonValue

def ChildTailnetPolicyWire.empty : ChildTailnetPolicyWire :=
  ⟨∅, ∅, ∅, [], [], [], [], ⟨∅, []⟩, []⟩

structure ChildTailnetPolicy where
  wire : ChildTailnetPolicyWire

def normalizeMapValues (map : ExtTreeMap String (List String)) : ExtTreeMap String (List String) :=
  map.map fun _ values => canonical values

/-- The sets that a map of lists holds. -/
def meanings (map : ExtTreeMap String (List String)) (key : String) : Option (Finset String) :=
  map[key]?.map List.toFinset

theorem normalizeMapValues_eq_iff {m m' : ExtTreeMap String (List String)} :
    normalizeMapValues m = normalizeMapValues m' ↔ meanings m = meanings m' := by
  have hkey : ∀ key : String, (normalizeMapValues m)[key]? = (normalizeMapValues m')[key]?
      ↔ meanings m key = meanings m' key := by
    intro key
    unfold normalizeMapValues meanings
    rw [ExtTreeMap.getElem?_map, ExtTreeMap.getElem?_map]
    cases m[key]? with
    | none => cases m'[key]? <;> simp
    | some values =>
      cases m'[key]? with
      | none => simp
      | some values' =>
        rw [Option.map_some, Option.map_some, Option.map_some, Option.map_some, Option.some.injEq,
          Option.some.injEq, canonical_eq_iff]
  constructor
  · intro h
    funext key
    exact (hkey key).mp (by rw [h])
  · intro h
    refine ExtTreeMap.ext_getElem? fun key => (hkey key).mpr (congrFun h key)

theorem meanings_normalizeMapValues (m : ExtTreeMap String (List String)) :
    meanings (normalizeMapValues m) = meanings m := by
  funext key
  unfold normalizeMapValues meanings
  rw [ExtTreeMap.getElem?_map]
  cases m[key]? with
  | none => rfl
  | some values => rw [Option.map_some, Option.map_some, Option.map_some, toFinset_canonical]

namespace ChildTailnetPolicyWire

/-- The derived equality. -/
def same (a b : ChildTailnetPolicyWire) : Bool :=
  a.groups = b.groups && a.hosts = b.hosts && a.tagOwners = b.tagOwners && a.grants = b.grants
    && JsonValue.sameItems a.acls b.acls && JsonValue.sameItems a.ssh b.ssh
    && JsonValue.sameItems a.nodeAttrs b.nodeAttrs
    && (a.autoApprovers.routes = b.autoApprovers.routes
      && a.autoApprovers.exitNode = b.autoApprovers.exitNode)
    && JsonValue.sameItems a.tests b.tests

/-- What two policies must agree on to mean the same. -/
structure SameMeaning (a b : ChildTailnetPolicyWire) : Prop where
  groups : meanings a.groups = meanings b.groups
  hosts : a.hosts = b.hosts
  tagOwners : meanings a.tagOwners = meanings b.tagOwners
  grants : (a.grants.map PolicyGrant.meaning).toFinset = (b.grants.map PolicyGrant.meaning).toFinset
  acls : JsonValue.plainItems a.acls = JsonValue.plainItems b.acls
  ssh : JsonValue.plainItems a.ssh = JsonValue.plainItems b.ssh
  nodeAttrs : JsonValue.plainItems a.nodeAttrs = JsonValue.plainItems b.nodeAttrs
  routes : meanings a.autoApprovers.routes = meanings b.autoApprovers.routes
  exitNode : a.autoApprovers.exitNode.toFinset = b.autoApprovers.exitNode.toFinset
  tests : JsonValue.plainItems a.tests = JsonValue.plainItems b.tests

/-- Two policies whose raw sections are also written alike, the signs of their zeros included. -/
structure SameSigns (a b : ChildTailnetPolicyWire) : Prop where
  acls : a.acls = b.acls
  ssh : a.ssh = b.ssh
  nodeAttrs : a.nodeAttrs = b.nodeAttrs
  tests : a.tests = b.tests

end ChildTailnetPolicyWire

namespace ChildTailnetPolicy

/-- Normalization.  The grants are compared, and so sorted, after their own lists are. -/
def fromWire (wire : ChildTailnetPolicyWire) : ChildTailnetPolicy where
  wire := { wire with
    groups := normalizeMapValues wire.groups
    tagOwners := normalizeMapValues wire.tagOwners
    autoApprovers := {
      routes := normalizeMapValues wire.autoApprovers.routes
      exitNode := canonical wire.autoApprovers.exitNode }
    grants := canonical (wire.grants.map PolicyGrant.normalize) }

/-- The only policy that is ever generated. -/
def restrictiveRiders (riderTag : String) : Except ControlError ChildTailnetPolicy :=
  if !validateRiderTag riderTag then .error .invalidPolicy
  else .ok ⟨{ ChildTailnetPolicyWire.empty with
    tagOwners := (∅ : ExtTreeMap String (List String)).insert riderTag []
    grants := [⟨[riderTag], [riderTag], ["udp:41643"]⟩] }⟩

def semanticallyMatches (p q : ChildTailnetPolicy) : Bool :=
  (fromWire p.wire).wire.same (fromWire q.wire).wire

/-- The digest of the normalized policy, as `toVec` writes it. -/
def semanticDigest (toVec : ChildTailnetPolicyWire → List UInt8) (p : ChildTailnetPolicy) : String :=
  hex (Sha256.digest (toVec (fromWire p.wire).wire))

def verifyPolicy (toVec : ChildTailnetPolicyWire → List UInt8)
    (answer : Except ControlError ChildTailnetPolicyWire) (expected : ChildTailnetPolicy) :
    Except ControlError String :=
  match answer with
  | .error error => .error error
  | .ok wire =>
    if expected.semanticallyMatches (fromWire wire) then .ok (expected.semanticDigest toVec)
    else .error .policyMismatch

end ChildTailnetPolicy

/-! ## Comparison -/

namespace ChildTailnetPolicyWire

theorem same_eq_true_iff {a b : ChildTailnetPolicyWire} : a.same b = true ↔
    a.groups = b.groups ∧ a.hosts = b.hosts ∧ a.tagOwners = b.tagOwners ∧ a.grants = b.grants
      ∧ JsonValue.plainItems a.acls = JsonValue.plainItems b.acls
      ∧ JsonValue.plainItems a.ssh = JsonValue.plainItems b.ssh
      ∧ JsonValue.plainItems a.nodeAttrs = JsonValue.plainItems b.nodeAttrs
      ∧ (a.autoApprovers.routes = b.autoApprovers.routes
        ∧ a.autoApprovers.exitNode = b.autoApprovers.exitNode)
      ∧ JsonValue.plainItems a.tests = JsonValue.plainItems b.tests := by
  unfold same
  simp only [Bool.and_eq_true, decide_eq_true_eq, JsonValue.sameItems_iff, and_assoc]

theorem same_refl (a : ChildTailnetPolicyWire) : a.same a = true :=
  same_eq_true_iff.mpr ⟨rfl, rfl, rfl, rfl, rfl, rfl, rfl, ⟨rfl, rfl⟩, rfl⟩

end ChildTailnetPolicyWire

namespace ChildTailnetPolicy

open ChildTailnetPolicyWire

theorem canonical_grants_eq_iff {l l' : List PolicyGrant} :
    canonical (l.map PolicyGrant.normalize) = canonical (l'.map PolicyGrant.normalize)
      ↔ (l.map PolicyGrant.meaning).toFinset = (l'.map PolicyGrant.meaning).toFinset := by
  rw [canonical_eq_iff]
  exact toFinset_map_eq_iff fun _ _ => PolicyGrant.normalize_eq_iff

/-- **The normalized forms are equal exactly when the meanings are.** -/
theorem same_fromWire_iff {a b : ChildTailnetPolicyWire} :
    (fromWire a).wire.same (fromWire b).wire = true ↔ SameMeaning a b := by
  rw [same_eq_true_iff]
  unfold fromWire
  dsimp only
  rw [normalizeMapValues_eq_iff, normalizeMapValues_eq_iff, normalizeMapValues_eq_iff,
    canonical_grants_eq_iff, canonical_eq_iff]
  constructor
  · rintro ⟨hgroups, hhosts, howners, hgrants, hacls, hssh, hattrs, ⟨hroutes, hexit⟩, htests⟩
    exact ⟨hgroups, hhosts, howners, hgrants, hacls, hssh, hattrs, hroutes, hexit, htests⟩
  · rintro ⟨hgroups, hhosts, howners, hgrants, hacls, hssh, hattrs, hroutes, hexit, htests⟩
    exact ⟨hgroups, hhosts, howners, hgrants, hacls, hssh, hattrs, ⟨hroutes, hexit⟩, htests⟩

theorem normalizeMapValues_idem (m : ExtTreeMap String (List String)) :
    normalizeMapValues (normalizeMapValues m) = normalizeMapValues m :=
  normalizeMapValues_eq_iff.mpr (meanings_normalizeMapValues m)

theorem fromWire_fromWire (a : ChildTailnetPolicyWire) : fromWire (fromWire a).wire = fromWire a := by
  have hgrants : (canonical (a.grants.map PolicyGrant.normalize)).map PolicyGrant.normalize
      = canonical (a.grants.map PolicyGrant.normalize) := by
    conv_rhs => rw [← List.map_id (canonical (a.grants.map PolicyGrant.normalize))]
    refine List.map_congr_left fun grant hgrant => ?_
    obtain ⟨raw, -, rfl⟩ := List.mem_map.mp (mem_canonical.mp hgrant)
    exact raw.normalize_normalize
  unfold fromWire
  dsimp only
  rw [normalizeMapValues_idem, normalizeMapValues_idem, normalizeMapValues_idem, canonical_canonical,
    hgrants, canonical_canonical]

theorem semanticallyMatches_iff {p q : ChildTailnetPolicy} :
    p.semanticallyMatches q = true ↔ SameMeaning p.wire q.wire := same_fromWire_iff

theorem semanticallyMatches_equivalence :
    Equivalence fun p q : ChildTailnetPolicy => p.semanticallyMatches q = true := by
  refine ⟨fun p => same_refl _, fun {p q} h => ?_, fun {p q r} h h' => ?_⟩
  · rw [semanticallyMatches_iff] at h ⊢
    exact ⟨h.groups.symm, h.hosts.symm, h.tagOwners.symm, h.grants.symm, h.acls.symm, h.ssh.symm,
      h.nodeAttrs.symm, h.routes.symm, h.exitNode.symm, h.tests.symm⟩
  · rw [semanticallyMatches_iff] at h h' ⊢
    exact ⟨h.groups.trans h'.groups, h.hosts.trans h'.hosts, h.tagOwners.trans h'.tagOwners,
      h.grants.trans h'.grants, h.acls.trans h'.acls, h.ssh.trans h'.ssh,
      h.nodeAttrs.trans h'.nodeAttrs, h.routes.trans h'.routes, h.exitNode.trans h'.exitNode,
      h.tests.trans h'.tests⟩

/-- Matching policies are one policy once normalized, if their raw sections are written alike. -/
theorem fromWire_eq_iff {p q : ChildTailnetPolicy} (h : p.semanticallyMatches q = true) :
    (fromWire p.wire).wire = (fromWire q.wire).wire ↔ p.wire.SameSigns q.wire := by
  obtain ⟨hgroups, hhosts, howners, hgrants, -, -, -, ⟨hroutes, hexit⟩, -⟩ := same_eq_true_iff.mp h
  constructor
  · intro heq
    have hacls := congrArg acls heq
    have hssh := congrArg ssh heq
    have hattrs := congrArg nodeAttrs heq
    have htests := congrArg tests heq
    exact ⟨hacls, hssh, hattrs, htests⟩
  · rintro ⟨hacls, hssh, hattrs, htests⟩
    unfold fromWire at hgroups hhosts howners hgrants hroutes hexit ⊢
    dsimp only at hgroups hhosts howners hgrants hroutes hexit ⊢
    rw [hgroups, hhosts, howners, hgrants, hroutes, hexit, hacls, hssh, hattrs, htests]

/-! ## Verification -/

/-- A policy that grants the rider tag the gameplay port of the rider tag, and nothing else. -/
structure Restrictive (riderTag : String) (wire : ChildTailnetPolicyWire) : Prop where
  groups : wire.groups = ∅
  hosts : wire.hosts = ∅
  tagOwners : ∀ tag : String, wire.tagOwners[tag]? = if tag = riderTag then some [] else none
  granted : wire.grants ≠ []
  grants : ∀ grant ∈ wire.grants, grant.meaning = ({riderTag}, {riderTag}, {"udp:41643"})
  acls : wire.acls = []
  ssh : wire.ssh = []
  nodeAttrs : wire.nodeAttrs = []
  routes : wire.autoApprovers.routes = ∅
  exitNode : wire.autoApprovers.exitNode = []
  tests : wire.tests = []

theorem eq_empty_of_meanings {m : ExtTreeMap String (List String)} (h : meanings ∅ = meanings m) :
    m = ∅ := by
  refine ExtTreeMap.ext_getElem? fun key => ?_
  have hkey := congrFun h key
  unfold meanings at hkey
  rw [ExtTreeMap.getElem?_empty, Option.map_none, eq_comm, Option.map_eq_none_iff] at hkey
  rw [hkey, ExtTreeMap.getElem?_empty]

/-- **A verified policy is the restrictive one.** -/
theorem restrictive_of_verifyPolicy {toVec : ChildTailnetPolicyWire → List UInt8}
    {riderTag evidence : String} {expected : ChildTailnetPolicy} {wire : ChildTailnetPolicyWire}
    (hexpected : restrictiveRiders riderTag = .ok expected)
    (h : verifyPolicy toVec (.ok wire) expected = .ok evidence) : Restrictive riderTag wire := by
  unfold restrictiveRiders at hexpected
  split_ifs at hexpected
  obtain rfl := Except.ok.inj hexpected
  unfold verifyPolicy at h
  dsimp only at h
  split_ifs at h with hmatches
  unfold semanticallyMatches at hmatches
  rw [fromWire_fromWire] at hmatches
  have hmeaning := same_fromWire_iff.mp hmatches
  have hgrants : ∀ grant ∈ wire.grants, grant.meaning = ({riderTag}, {riderTag}, {"udp:41643"}) := by
    intro grant hgrant
    have hmem : grant.meaning ∈ (wire.grants.map PolicyGrant.meaning).toFinset :=
      List.mem_toFinset.mpr (List.mem_map_of_mem hgrant)
    rw [← hmeaning.grants] at hmem
    exact List.mem_singleton.mp (List.mem_toFinset.mp hmem)
  refine ⟨eq_empty_of_meanings hmeaning.groups, hmeaning.hosts.symm, fun tag => ?_, ?_, hgrants,
    JsonValue.plainItems_eq_nil hmeaning.acls.symm, JsonValue.plainItems_eq_nil hmeaning.ssh.symm,
    JsonValue.plainItems_eq_nil hmeaning.nodeAttrs.symm, eq_empty_of_meanings hmeaning.routes,
    List.toFinset_eq_empty_iff _ |>.mp hmeaning.exitNode.symm,
    JsonValue.plainItems_eq_nil hmeaning.tests.symm⟩
  · have howner := congrFun hmeaning.tagOwners tag
    unfold meanings at howner
    dsimp only at howner
    rw [ExtTreeMap.getElem?_insert] at howner
    by_cases htag : tag = riderTag
    · subst htag
      rw [if_pos Std.ReflCmp.compare_self, Option.map_some, eq_comm, Option.map_eq_some_iff] at howner
      obtain ⟨owners, howners, hempty⟩ := howner
      rw [if_pos rfl, howners, (List.toFinset_eq_empty_iff owners).mp hempty]
    · rw [if_neg fun hcompare => htag (Std.LawfulEqCmp.eq_of_compare hcompare).symm,
        ExtTreeMap.getElem?_empty, Option.map_none, eq_comm, Option.map_eq_none_iff] at howner
      rw [if_neg htag, howner]
  · intro hnil
    have hgranted := hmeaning.grants
    rw [hnil] at hgranted
    exact absurd hgranted (by simp)

/-! ## The digest -/

theorem hexDigit_injective {m n : ℕ} (hm : m < 16) (hn : n < 16) (h : hexDigit m = hexDigit n) :
    m = n := by
  have hall : ∀ m < 16, ∀ n < 16, hexDigit m = hexDigit n → m = n := by decide +kernel
  exact hall m hm n hn h

theorem hex_injective {d d' : Digest} (h : hex d = hex d') : d = d' := by
  have hchars : ∀ {l l' : List UInt8},
      l.flatMap (fun byte => [hexDigit (byte.toNat / 16), hexDigit (byte.toNat % 16)])
          = l'.flatMap (fun byte => [hexDigit (byte.toNat / 16), hexDigit (byte.toNat % 16)]) →
        l = l' := by
    intro l
    induction l with
    | nil =>
      intro l' heq
      cases l' with
      | nil => rfl
      | cons b l' => exact nomatch heq
    | cons a l ih =>
      intro l' heq
      cases l' with
      | nil => exact nomatch heq
      | cons b l' =>
        rw [List.flatMap_cons, List.flatMap_cons] at heq
        simp only [List.cons_append, List.nil_append, List.cons.injEq] at heq
        obtain ⟨hhigh, hlow, hrest⟩ := heq
        have ha := a.toNat_lt
        have hb := b.toNat_lt
        have hquotient := hexDigit_injective (by omega) (by omega) hhigh
        have hremainder := hexDigit_injective (by omega) (by omega) hlow
        have hbyte : a = b := UInt8.toNat_inj.mp (by omega)
        rw [hbyte, ih hrest]
  unfold hex at h
  rw [String.ofList_inj] at h
  exact Vector.toList_inj.mp (hchars h)

/-- What the comparison of two policies owes. -/
structure PolicyLaw (toVec : ChildTailnetPolicyWire → List UInt8) (p q : ChildTailnetPolicy) :
    Prop where
  idempotent : fromWire (fromWire p.wire).wire = fromWire p.wire
  normalized : (fromWire p.wire).wire.same (fromWire q.wire).wire = true
    ↔ SameMeaning p.wire q.wire
  equivalence : Equivalence fun p q : ChildTailnetPolicy => p.semanticallyMatches q = true
  digest : p.semanticallyMatches q = true → p.semanticDigest toVec = q.semanticDigest toVec
  matches_of_digest : p.semanticDigest toVec = q.semanticDigest toVec →
    p.semanticallyMatches q = true
  verified : ∀ riderTag expected evidence, restrictiveRiders riderTag = .ok expected →
    verifyPolicy toVec (.ok p.wire) expected = .ok evidence → Restrictive riderTag p.wire

end ChildTailnetPolicy

open ChildTailnetPolicy

/-- **Policies are compared by meaning**, and their digests as well exactly where policies that
match spell their float zeros with the same signs. -/
theorem policy_law_iff {toVec : ChildTailnetPolicyWire → List UInt8} {p q : ChildTailnetPolicy}
    (hdecodes : toVec (fromWire p.wire).wire = toVec (fromWire q.wire).wire →
      (fromWire p.wire).wire = (fromWire q.wire).wire)
    (hfree : Sha256.digest (toVec (fromWire p.wire).wire)
        = Sha256.digest (toVec (fromWire q.wire).wire) →
      toVec (fromWire p.wire).wire = toVec (fromWire q.wire).wire) :
    PolicyLaw toVec p q ↔ (p.semanticallyMatches q = true → p.wire.SameSigns q.wire) := by
  have hdigest : p.semanticDigest toVec = q.semanticDigest toVec ↔
      (fromWire p.wire).wire = (fromWire q.wire).wire := by
    unfold semanticDigest
    constructor
    · intro h
      exact hdecodes (hfree (hex_injective h))
    · intro h
      rw [h]
  constructor
  · intro hlaw hmatches
    exact (fromWire_eq_iff hmatches).mp (hdigest.mp (hlaw.digest hmatches))
  · intro hsigns
    refine ⟨fromWire_fromWire p.wire, same_fromWire_iff, semanticallyMatches_equivalence,
      fun hmatches => hdigest.mpr ((fromWire_eq_iff hmatches).mpr (hsigns hmatches)), fun heq => ?_,
      fun riderTag expected evidence hexpected h => restrictive_of_verifyPolicy hexpected h⟩
    unfold semanticallyMatches
    rw [hdigest.mp heq]
    exact ChildTailnetPolicyWire.same_refl _

/-- A policy whose only content is one float among its tests. -/
def floatPolicy (bits : UInt64) : ChildTailnetPolicy :=
  ⟨{ ChildTailnetPolicyWire.empty with tests := [.number (.float bits)] }⟩

def writeZeroPolicy (wire : ChildTailnetPolicyWire) : List UInt8 :=
  let zero := match wire.tests with
    | [.number (.float bits)] => Json.ascii (if bits = NEGATIVE_ZERO then "-0.0" else "0.0").toList
    | _ => []
  Json.object [
    ("groups".toList, Json.object []), ("hosts".toList, Json.object []),
    ("tagOwners".toList, Json.object []), ("grants".toList, Json.array []),
    ("acls".toList, Json.array []), ("ssh".toList, Json.array []),
    ("nodeAttrs".toList, Json.array []),
    ("autoApprovers".toList,
      Json.object [("routes".toList, Json.object []), ("exitNode".toList, Json.array [])]),
    ("tests".toList, Json.array [zero])]

theorem zeros_match :
    (floatPolicy 0).semanticallyMatches (floatPolicy NEGATIVE_ZERO) = true := by
  decide +kernel

theorem zeros_hashed_apart : Sha256.digest (writeZeroPolicy (fromWire (floatPolicy 0).wire).wire)
    ≠ Sha256.digest (writeZeroPolicy (fromWire (floatPolicy NEGATIVE_ZERO).wire).wire) := by
  decide +kernel

theorem policy_law_iff_zeros :
    PolicyLaw writeZeroPolicy (floatPolicy 0) (floatPolicy NEGATIVE_ZERO)
      ↔ ((floatPolicy 0).semanticallyMatches (floatPolicy NEGATIVE_ZERO) = true →
        (floatPolicy 0).wire.SameSigns (floatPolicy NEGATIVE_ZERO).wire) :=
  policy_law_iff (fun h => absurd (congrArg Sha256.digest h) zeros_hashed_apart)
    fun h => absurd h zeros_hashed_apart

/-- A positive and a negative zero match, and their policies have different digests. -/
theorem digest_tells_zeros_apart :
    ¬PolicyLaw writeZeroPolicy (floatPolicy 0) (floatPolicy NEGATIVE_ZERO) := by
  intro hlaw
  exact zeros_hashed_apart (hex_injective (hlaw.digest zeros_match))

end Spurfire
