import Spurfire.Protocol.Identity

/-!
# The text of addresses

The address parser of the standard library (`IpAddr::from_str`, `SocketAddr::from_str`), over the
bytes of the text.  Reading is atomic: a reader that fails leaves the text as it was.
-/

namespace Spurfire

def textBytes (s : String) : List UInt8 := s.toUTF8.data.toList

namespace IpText

def COLON : UInt8 := 0x3a
def DOT : UInt8 := 0x2e
def ZERO : UInt8 := 0x30

def readGivenChar (target : UInt8) : List UInt8 → Option (List UInt8)
  | c :: rest => if c = target then some rest else none
  | [] => none

/-- `char::to_digit`. -/
def toDigit (radix : ℕ) (c : UInt8) : Option ℕ :=
  let n := c.toNat
  let digit :=
    if 0x30 ≤ n ∧ n ≤ 0x39 then n - 0x30
    else if 0x61 ≤ n ∧ n ≤ 0x7a then n - 0x61 + 10
    else if 0x41 ≤ n ∧ n ≤ 0x5a then n - 0x41 + 10
    else radix
  if digit < radix then some digit else none

def digits (radix : ℕ) : List UInt8 → List ℕ
  | [] => []
  | c :: rest =>
    match toDigit radix c with
    | none => []
    | some digit => digit :: digits radix rest

def ofDigits (radix : ℕ) (ds : List ℕ) : ℕ :=
  ds.foldl (fun value digit => value * radix + digit) 0

def readNumber (radix : ℕ) (maxDigits : Option ℕ) (allowZeroPrefix : Bool) (max : ℕ)
    (s : List UInt8) : Option (ℕ × List UInt8) :=
  let ds := digits radix s
  if ds.length = 0 ∨ maxDigits.any (· < ds.length) = true
      ∨ (allowZeroPrefix = false ∧ s.head? = some ZERO ∧ 1 < ds.length) ∨ max < ofDigits radix ds then
    none
  else some (ofDigits radix ds, s.drop ds.length)

def readOctet : List UInt8 → Option (ℕ × List UInt8) :=
  readNumber 10 (some 3) false 255

/-- What follows a separator, which stands before every group but the first. -/
def readSeparator {α : Type} (sep : UInt8) (index : ℕ) (inner : List UInt8 → Option (α × List UInt8))
    (s : List UInt8) : Option (α × List UInt8) :=
  if index = 0 then inner s else (readGivenChar sep s).bind inner

def readOctets : (count index : ℕ) → List UInt8 → Option (List UInt8 × List UInt8)
  | 0, _, s => some ([], s)
  | count + 1, index, s => do
    let (octet, s) ← readSeparator DOT index readOctet s
    let (octets, s) ← readOctets count (index + 1) s
    some (UInt8.ofNat octet :: octets, s)

def readIpv4Addr (s : List UInt8) : Option (Vector UInt8 4 × List UInt8) := do
  let (octets, s) ← readOctets 4 0 s
  some (Vector.ofFn fun i => octets.getD i 0, s)

def readGroup : List UInt8 → Option (ℕ × List UInt8) :=
  readNumber 16 (some 4) true 65535

/-- The groups up to the first one that cannot be read, and whether they end in an IPv4 address. -/
def readGroups : (left : ℕ) → List ℕ → List UInt8 → (List ℕ × Bool) × List UInt8
  | 0, groups, s => ((groups, false), s)
  | left + 1, groups, s =>
    let ipv4 := if left = 0 then none else readSeparator COLON groups.length readIpv4Addr s
    match ipv4 with
    | some (octets, s) =>
      ((groups ++ [octets[0].toNat * 256 + octets[1].toNat,
        octets[2].toNat * 256 + octets[3].toNat], true), s)
    | none =>
      match readSeparator COLON groups.length readGroup s with
      | none => ((groups, false), s)
      | some (group, s) => readGroups left (groups ++ [group]) s

def groupOctets (groups : List ℕ) : Vector UInt8 16 :=
  Vector.ofFn fun i =>
    let group := groups.getD (i / 2) 0
    UInt8.ofNat (if i.val % 2 = 0 then group / 256 else group % 256)

def readIpv6Addr (s : List UInt8) : Option (Vector UInt8 16 × List UInt8) :=
  let ((head, headIpv4), s) := readGroups 8 [] s
  if head.length = 8 then some (groupOctets head, s)
  -- an IPv4 part stands only at the end
  else if headIpv4 then none
  else do
    let s ← readGivenChar COLON s
    let s ← readGivenChar COLON s
    let ((tail, _), s) := readGroups (8 - (head.length + 1)) [] s
    some (groupOctets (head ++ List.replicate (8 - head.length - tail.length) 0 ++ tail), s)

def readIpAddr (s : List UInt8) : Option (IpAddr × List UInt8) :=
  match readIpv4Addr s with
  | some (octets, s) => some (.v4 octets, s)
  | none => (readIpv6Addr s).map fun (octets, s) => (.v6 octets, s)

def readPort (s : List UInt8) : Option (UInt16 × List UInt8) := do
  let s ← readGivenChar COLON s
  let (port, s) ← readNumber 10 none true 65535 s
  some (UInt16.ofNat port, s)

def readScopeId (s : List UInt8) : Option (ℕ × List UInt8) := do
  let s ← readGivenChar 0x25 s
  readNumber 10 none true 4294967295 s

def readSocketAddrV4 (s : List UInt8) : Option (SocketAddr × List UInt8) := do
  let (octets, s) ← readIpv4Addr s
  let (port, s) ← readPort s
  some (⟨.v4 octets, port⟩, s)

def readSocketAddrV6 (s : List UInt8) : Option (SocketAddr × List UInt8) := do
  let s ← readGivenChar 0x5b s
  let (octets, s) ← readIpv6Addr s
  let s := (readScopeId s).elim s (·.2)
  let s ← readGivenChar 0x5d s
  let (port, s) ← readPort s
  some (⟨.v6 octets, port⟩, s)

/-- Everything has to be read. -/
def parseWith {α : Type} (inner : List UInt8 → Option (α × List UInt8)) (s : List UInt8) :
    Option α :=
  match inner s with
  | some (value, []) => some value
  | _ => none

end IpText

open IpText

def IpAddr.parse (s : String) : Option IpAddr := parseWith readIpAddr (textBytes s)

def SocketAddr.parse (s : String) : Option SocketAddr :=
  parseWith (fun s => (readSocketAddrV4 s).or (readSocketAddrV6 s)) (textBytes s)

namespace IpAddr

def isLoopback : IpAddr → Bool
  | v4 octets => octets[0] == 127
  | v6 octets => octets == Vector.ofFn fun i => if i.val = 15 then 1 else 0

def isUnspecified : IpAddr → Bool
  | v4 octets => octets == Vector.replicate 4 0
  | v6 octets => octets == Vector.replicate 16 0

end IpAddr

end Spurfire
