import Mathlib.Data.List.Basic

/-!
# `net/netip`

The address and prefix values of Go's `net/netip` that both clients read and write: `Addr` and
`Prefix`, their text forms (`Addr.String`, `Prefix.String`, `ParseAddr`) and the prefix
operations the clients call (`Prefix.Contains`, `Addr.Prefix`, `PrefixFrom`), as the library
computes them.
-/

namespace Metalnet

/-- `netip.Addr`: the zero value, an IPv4 address, or an IPv6 address with its zone, `""` when it
has none. -/
inductive Addr where
  | zero
  | v4 (a : BitVec 32)
  | v6 (a : BitVec 128) (zone : String)
  deriving DecidableEq

namespace Addr

def isValid : Addr → Bool
  | zero => false
  | _ => true

def is4 : Addr → Bool
  | v4 _ => true
  | _ => false

def is6 : Addr → Bool
  | v6 _ _ => true
  | _ => false

def bitLen : Addr → Nat
  | zero => 0
  | v4 _ => 32
  | v6 _ _ => 128

def zone : Addr → String
  | v6 _ z => z
  | _ => ""

def withoutZone : Addr → Addr
  | v6 a _ => v6 a ""
  | a => a

@[simp] theorem bitLen_withoutZone (a : Addr) : a.withoutZone.bitLen = a.bitLen := by
  cases a <;> rfl

@[simp] theorem zone_withoutZone (a : Addr) : a.withoutZone.zone = "" := by
  cases a <;> rfl

/-- An IPv4 address mapped into IPv6, `::ffff:a.b.c.d`. -/
def is4In6 : Addr → Bool
  | v6 a _ => a >>> 32 == 0xffff
  | _ => false

/-! ## Text -/

/-- `string4`: the dotted decimal form. -/
def string4 (a : BitVec 32) : String :=
  ".".intercalate ([24, 16, 8, 0].map fun k => toString ((a.toNat >>> k) % 256))

/-- `v6u16`: the `i`-th 16-bit field of an IPv6 address. -/
def v6u16 (a : BitVec 128) (i : Nat) : Nat :=
  (a.toNat >>> (112 - 16 * i)) % 65536

/-- `appendHex`: lower-case hex digits, no leading zeros. -/
def hex (x : Nat) : String :=
  String.mk (Nat.toDigits 16 x)

/-- How many zero fields start at field `i`. -/
def zerosFrom (g : Nat → Nat) (i : Nat) : Nat :=
  ((List.range (8 - i)).takeWhile fun k => g (i + k) == 0).length

/-- The run `appendTo6` writes as `::`, as `(zeroStart, zeroEnd)`: the first of the longest runs
of at least two zero fields, or `(255, 255)` when there is none. -/
def zeroRun (g : Nat → Nat) : Nat × Nat :=
  (List.range 8).foldl (fun (zs, ze) i =>
    if 2 ≤ zerosFrom g i ∧ ze - zs < zerosFrom g i then (i, i + zerosFrom g i) else (zs, ze))
    (255, 255)

/-- `string6`: the fields in hex with the longest zero run written `::`, then the zone. -/
def string6 (a : BitVec 128) (zone : String) : String :=
  let fields := fun (l : List Nat) => ":".intercalate (l.map fun i => hex (v6u16 a i))
  let body :=
    if (zeroRun (v6u16 a)).1 < 8 then
      fields (List.range (zeroRun (v6u16 a)).1) ++ "::" ++
        fields ((List.range (8 - (zeroRun (v6u16 a)).2)).map ((zeroRun (v6u16 a)).2 + ·))
    else fields (List.range 8)
  if zone = "" then body else body ++ "%" ++ zone

/-- `Addr.String`. -/
def string : Addr → String
  | zero => "invalid IP"
  | v4 a => string4 a
  | v6 a z =>
    if (v6 a z).is4In6 then
      "::ffff:" ++ string4 (BitVec.ofNat 32 a.toNat) ++ (if z = "" then "" else "%" ++ z)
    else string6 a z

end Addr

/-- `parseAddrError`: the text given to `ParseAddr` (Go's `in`), what is wrong with it, and the
text left where it went wrong (Go's `at`, `""` when there is none). -/
structure ParseAddrError where
  input : String
  msg : String
  rest : String
  deriving DecidableEq

/-- `strconv.Quote` on text without control characters. -/
def quote (s : String) : String :=
  "\"" ++ String.join (s.toList.map fun c =>
    if c = '"' then "\\\"" else if c = '\\' then "\\\\" else c.toString) ++ "\""

/-- `parseAddrError.Error`. -/
def ParseAddrError.error (e : ParseAddrError) : String :=
  "ParseAddr(" ++ quote e.input ++ "): " ++ e.msg ++
    (if e.rest = "" then "" else " (at " ++ quote e.rest ++ ")")

/-- Bytes, most significant first, as a number. -/
def fromBytes (bs : List Nat) : Nat :=
  bs.foldl (fun acc b => acc * 256 + b) 0

/-- The loop of `parseIPv4` over the characters left, with the character before, the octets
read so far, and the value and digit count of the current octet. -/
def parseIPv4Loop (input : String) :
    List Char → Option Char → List Nat → Nat → Nat → Except ParseAddrError (List Nat)
  | [], _, fields, val, _ =>
    if fields.length < 3 then .error ⟨input, "IPv4 address too short", ""⟩
    else .ok (fields ++ [val])
  | c :: cs, prev, fields, val, digLen =>
    if '0' ≤ c ∧ c ≤ '9' then
      if digLen = 1 ∧ val = 0 then .error ⟨input, "IPv4 field has octet with leading zero", ""⟩
      else if 255 < val * 10 + (c.toNat - '0'.toNat) then
        .error ⟨input, "IPv4 field has value >255", ""⟩
      else parseIPv4Loop input cs (some c) fields (val * 10 + (c.toNat - '0'.toNat)) (digLen + 1)
    else if c = '.' then
      if prev = none ∨ cs = [] ∨ prev = some '.' then
        .error ⟨input, "IPv4 field must have at least one digit", String.mk (c :: cs)⟩
      else if fields.length = 3 then .error ⟨input, "IPv4 address too long", ""⟩
      else parseIPv4Loop input cs (some c) (fields ++ [val]) 0 0
    else .error ⟨input, "unexpected character", String.mk (c :: cs)⟩

/-- `parseIPv4`, giving the four octets. -/
def parseIPv4 (s : String) : Except ParseAddrError (List Nat) :=
  parseIPv4Loop s s.toList none [] 0 0

/-- A hex digit's value. -/
def hexVal (c : Char) : Option Nat :=
  if '0' ≤ c ∧ c ≤ '9' then some (c.toNat - '0'.toNat)
  else if 'a' ≤ c ∧ c ≤ 'f' then some (c.toNat - 'a'.toNat + 10)
  else if 'A' ≤ c ∧ c ≤ 'F' then some (c.toNat - 'A'.toNat + 10)
  else none

/-- The hex digits at the front of the text, added to `acc`, and the text after them. -/
def hexField (acc : Nat) : List Char → Nat × List Char
  | [] => (acc, [])
  | c :: cs =>
    match hexVal c with
    | some v => hexField (acc * 16 + v) cs
    | none => (acc, c :: cs)

/-- The field loop of `parseIPv6`, with the bytes read so far and the position of the `::`;
`n` is the number of fields that still fit. It returns the bytes, the `::` and the text left. -/
def parseIPv6Loop (input : String) :
    Nat → List Nat → Option Nat → List Char →
      Except ParseAddrError (List Nat × Option Nat × List Char)
  | 0, ip, ellipsis, s => .ok (ip, ellipsis, s)
  | n + 1, ip, ellipsis, s =>
    if 0xffff < (hexField 0 s).1 then
      .error ⟨input, "IPv6 field has value >=2^16", String.mk s⟩
    else if (hexField 0 s).2.length = s.length then
      .error ⟨input, "each colon-separated field must have at least one digit", String.mk s⟩
    else match (hexField 0 s).2 with
    | '.' :: _ =>
      if ellipsis = none ∧ ip.length ≠ 12 then
        .error ⟨input, "embedded IPv4 address must replace the final 2 fields of the address",
          String.mk s⟩
      else if 16 < ip.length + 4 then
        .error ⟨input, "too many hex fields to fit an embedded IPv4 at the end of the address",
          String.mk s⟩
      else match parseIPv4 (String.mk s) with
        | .error e => .error ⟨input, e.error, String.mk s⟩
        | .ok ip4 => .ok (ip ++ ip4, ellipsis, [])
    | [] => .ok (ip ++ [(hexField 0 s).1 / 256, (hexField 0 s).1 % 256], ellipsis, [])
    | c :: cs =>
      if c ≠ ':' then
        .error ⟨input, "unexpected character, want colon", String.mk (c :: cs)⟩
      else match cs with
      | [] => .error ⟨input, "colon must be followed by more characters", String.mk (c :: cs)⟩
      | ':' :: cs' =>
        if ellipsis.isSome then .error ⟨input, "multiple :: in address", String.mk cs⟩
        else if cs' = [] then
          .ok (ip ++ [(hexField 0 s).1 / 256, (hexField 0 s).1 % 256], some (ip.length + 2), [])
        else
          parseIPv6Loop input n (ip ++ [(hexField 0 s).1 / 256, (hexField 0 s).1 % 256])
            (some (ip.length + 2)) cs'
      | d :: cs' =>
        parseIPv6Loop input n (ip ++ [(hexField 0 s).1 / 256, (hexField 0 s).1 % 256]) ellipsis
          (d :: cs')

/-- `parseIPv6`: the zone is split off first, then a leading `::`, then the fields; a `::` is
expanded to the zeros the address is short of. -/
def parseIPv6 (input : String) : Except ParseAddrError Addr :=
  let s := input.toList.takeWhile (· ≠ '%')
  let zone := String.mk ((input.toList.dropWhile (· ≠ '%')).drop 1)
  if '%' ∈ input.toList ∧ zone = "" then .error ⟨input, "zone must be a non-empty string", ""⟩
  else
    let (ellipsis, s) := match s with
      | ':' :: ':' :: s => (some 0, s)
      | s => (none, s)
    if ellipsis = some 0 ∧ s = [] then .ok (.v6 0 zone)
    else match parseIPv6Loop input 8 [] ellipsis s with
    | .error e => .error e
    | .ok (ip, ellipsis, s) =>
      if s ≠ [] then .error ⟨input, "trailing garbage after address", String.mk s⟩
      else if ip.length < 16 then
        match ellipsis with
        | none => .error ⟨input, "address string too short", ""⟩
        | some e =>
          .ok (.v6 (BitVec.ofNat 128
            (fromBytes (ip.take e ++ List.replicate (16 - ip.length) 0 ++ ip.drop e))) zone)
      else if ellipsis.isSome then
        .error ⟨input, "the :: must expand to at least one field of zeros", ""⟩
      else .ok (.v6 (BitVec.ofNat 128 (fromBytes ip)) zone)

/-- `ParseAddr`: the first `.`, `:` or `%` decides the family. -/
def parseAddr (s : String) : Except ParseAddrError Addr :=
  match s.toList.find? (fun c => c = '.' ∨ c = ':' ∨ c = '%') with
  | some '.' => (parseIPv4 s).map fun ip4 => .v4 (BitVec.ofNat 32 (fromBytes ip4))
  | some ':' => parseIPv6 s
  | some _ => .error ⟨s, "missing IPv6 address", ""⟩
  | none => .error ⟨s, "unable to parse IP", ""⟩

/-- `netip.Prefix`: an address without zone and a length from `-1`, which marks an invalid
prefix, up to the address's bit length. The zero value is the zero address with length `0`. -/
structure Prefix where
  ip : Addr
  bits : Int
  zone_ip : ip.zone = ""
  neg_one_le_bits : -1 ≤ bits
  bits_le : bits ≤ ip.bitLen

namespace Prefix

theorem ext' {p q : Prefix} (hip : p.ip = q.ip) (hbits : p.bits = q.bits) : p = q := by
  cases p; cases q; simp only at hip hbits; subst hip hbits; rfl

instance : DecidableEq Prefix := fun p q =>
  decidable_of_iff (p.ip = q.ip ∧ p.bits = q.bits)
    ⟨fun h => ext' h.1 h.2, fun h => h ▸ ⟨rfl, rfl⟩⟩

/-- The zero value `Prefix{}`. -/
def zero : Prefix := ⟨.zero, 0, rfl, by decide, by decide⟩

/-- `Prefix.Addr`. -/
def addr (p : Prefix) : Addr := p.ip

def isValid (p : Prefix) : Bool :=
  p.ip.isValid && decide (0 ≤ p.bits) && decide (p.bits ≤ p.ip.bitLen)

/-- `Prefix.String`. -/
def string (p : Prefix) : String :=
  if p.isValid then p.ip.string ++ "/" ++ toString p.bits else "invalid Prefix"

/-- `mask6`: the top `n` of 128 bits. -/
def mask6 (n : Nat) : BitVec 128 := BitVec.allOnes 128 <<< (128 - n)

/-- `Prefix.Contains`: same family, no zone, and the first `bits` bits agree. -/
def contains (p : Prefix) (ip : Addr) : Bool :=
  if !p.isValid || ip.zone != "" then false
  else match p.ip, ip with
    | .v4 a, .v4 b => (b ^^^ a) >>> (32 - p.bits.toNat) == 0
    | .v6 a _, .v6 b _ => (b ^^^ a) &&& mask6 p.bits.toNat == 0
    | _, _ => false

end Prefix

/-- `PrefixFrom`: an out-of-range length gives length `-1`. -/
def prefixFrom (ip : Addr) (bits : Int) : Prefix :=
  if h : 0 ≤ bits ∧ bits ≤ ip.bitLen then
    ⟨ip.withoutZone, bits, by simp, by omega, by simpa using h.2⟩
  else ⟨ip.withoutZone, -1, by simp, by decide, by simp; omega⟩

/-- `Addr.Prefix`: the address with all but its first `b` bits cleared, as a prefix of length
`b`. -/
def Addr.toPrefix (ip : Addr) (b : Int) : Except String Prefix :=
  if b < 0 then .error "negative Prefix bits"
  else match ip with
    | .zero => .ok Prefix.zero
    | .v4 a =>
      if 32 < b then .error ("prefix length " ++ toString b ++ " too large for IPv4")
      else .ok (prefixFrom (.v4 (a &&& BitVec.allOnes 32 <<< (32 - b.toNat))) b)
    | .v6 a z =>
      if 128 < b then .error ("prefix length " ++ toString b ++ " too large for IPv6")
      else .ok (prefixFrom (.v6 (a &&& Prefix.mask6 b.toNat) z) b)

/-- `Prefix.Masked`: the prefix with the bits of its address past its length cleared, or the
zero prefix when it is invalid. -/
def Prefix.masked (p : Prefix) : Prefix :=
  match p.addr.toPrefix p.bits with
  | .ok m => m
  | .error _ => Prefix.zero

end Metalnet
