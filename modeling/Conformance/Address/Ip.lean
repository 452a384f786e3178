import Conformance.Decimal.Numeral
import Conformance.Text.Digit
import Conformance.Text.Search

/-!
# IP addresses and networks

Addresses of both versions in their textual forms, and networks written as an address and a prefix length
or a mask.
-/

namespace Conformance.Address

open Conformance.Text

inductive Version where
  | v4
  | v6
  deriving DecidableEq, Repr

namespace Version

def number : Version → Nat
  | v4 => 4
  | v6 => 6

def bits : Version → Nat
  | v4 => 32
  | v6 => 128

end Version

structure Ip where
  version : Version
  value : Nat
  deriving DecidableEq, Repr

def decimal (s : List Char) : Nat := s.foldl (fun n c => n * 10 + (c.toNat - 48)) 0

def isNumeral (s : List Char) : Bool := !s.isEmpty && s.all isAsciiDigit

def isHexDigit (c : Char) : Bool :=
  isAsciiDigit c || ('a' ≤ c && c ≤ 'f') || ('A' ≤ c && c ≤ 'F')

/-- One of the four parts of a version 4 address: at most 255, no superfluous zero in front. -/
def octet? (s : List Char) : Option Nat :=
  if isNumeral s && s.length ≤ 3 && (s == ['0'] || s.head? != some '0') && decimal s ≤ 255 then
    some (decimal s)
  else none

/-- The value of a version 4 address: four octets with points between. -/
def v4? (s : List Char) : Option Nat :=
  match (cutAtAll ['.'] s).mapM octet? with
  | some [a, b, c, d] => some (((a * 256 + b) * 256 + c) * 256 + d)
  | _ => none

/-- One of the eight parts of a version 6 address: one to four hexadecimal digits. -/
def group? (s : List Char) : Option Nat :=
  if !s.isEmpty && s.length ≤ 4 && s.all isHexDigit then
    some (s.foldl (fun n c => n * 16 + (baseDigitValue? c).getD 0) 0)
  else none

/-- The groups of the parts of a version 6 address, the last of which may be a version 4 address and stands
for two groups then. `none` stands for an empty part. -/
def groups? : List (List Char) → Option (List (Option Nat))
  | [] => some []
  | [s] =>
    if s.contains '.' then (v4? s).map fun n => [some (n / 65536), some (n % 65536)]
    else if s.isEmpty then some [none]
    else (group? s).map fun n => [some n]
  | s :: rest =>
    if s.isEmpty then (groups? rest).map (none :: ·)
    else (group? s).bind fun n => (groups? rest).map (some n :: ·)

def joinGroups (gs : List Nat) : Nat := gs.foldl (fun n g => n * 65536 + g) 0

/-- The value of parts with one empty part inside: it stands for at least one zero group. An empty part at
an end only goes with an empty part next to it. -/
def expand? (high low : List (Option Nat)) : Option Nat := do
  let high ← match high with
    | [none] => some []
    | gs => gs.mapM id
  let low ← match low with
    | [none] => some []
    | gs => gs.mapM id
  let shown := high.length + low.length
  if 8 ≤ shown then none
  else some (joinGroups high * Nat.pow 65536 (8 - high.length) + joinGroups low)

/-- The value of a version 6 address without a zone: eight groups with colons between, where two colons may
stand once for a run of zero groups. -/
def v6? (s : List Char) : Option Nat := do
  let parts := cutAtAll [':'] s
  if parts.length < 3 then none
  let gs ← groups? parts
  if 9 < gs.length then none
  let inner := (gs.drop 1).dropLast
  match inner.findIdx? (· == none) with
  | some i => expand? (gs.take (i + 1)) (gs.drop (i + 2))
  | none =>
    let gs ← gs.mapM id
    if gs.length = 8 then some (joinGroups gs) else none

/-- The address without the zone that may follow a percent sign. -/
def withoutZone? (s : List Char) : Option (List Char) :=
  match splitFirst '%' s with
  | none => some s
  | some (address, zone) => if zone.isEmpty || zone.contains '%' then none else some address

def zoned? (s : List Char) : Option Nat :=
  if s.contains '/' then none else (withoutZone? s).bind v6?

namespace Ip

def ofText? (s : List Char) : Option Ip :=
  match v4? s with
  | some n => some ⟨.v4, n⟩
  | none => (zoned? s).map fun n => ⟨.v6, n⟩

/-- The address of an integer: version 4 as far as it reaches. -/
def ofInt? (n : Int) : Option Ip :=
  if n < 0 then none
  else if n < 4294967296 then some ⟨.v4, n.toNat⟩
  else if n < 340282366920938463463374607431768211456 then some ⟨.v6, n.toNat⟩
  else none

def ofBytes? (b : List UInt8) : Option Ip :=
  let value := b.foldl (fun n x => n * 256 + x.toNat) 0
  if b.length = 4 then some ⟨.v4, value⟩
  else if b.length = 16 then some ⟨.v6, value⟩
  else none

end Ip

/-- An address and the number of its leading bits that name a network. -/
structure Network where
  address : Ip
  length : Nat
  deriving DecidableEq, Repr

namespace Network

/-- The number of leading ones of a mask of 32 bits that has no ones after its first zero. -/
def maskLength? (mask : Nat) : Option Nat :=
  (List.range 33).find? fun n => mask == 4294967296 - Nat.pow 2 (32 - n)

def numberLength? (v : Version) (s : List Char) : Option Nat :=
  if isNumeral s && s.length ≤ Decimal.digitLimit && decimal s ≤ v.bits then some (decimal s) else none

/-- A prefix length: a number, or in version 4 a mask of the network bits or of the host bits. -/
def length? (v : Version) (s : List Char) : Option Nat :=
  match numberLength? v s with
  | some n => some n
  | none =>
    match v with
    | .v6 => none
    | .v4 => do
      let mask ← v4? s
      match maskLength? mask with
      | some n => some n
      | none => maskLength? (4294967295 - mask)

/-- An address, a slash and a prefix length; the length of the whole address when there is no slash. -/
def ofText? (s : List Char) : Option Network := do
  let (address, length) ← match cutAtAll ['/'] s with
    | [a] => some (a, none)
    | [a, n] => some (a, some n)
    | _ => none
  let ip ← Ip.ofText? address
  match length with
  | none => some ⟨ip, ip.version.bits⟩
  | some n => (length? ip.version n).map fun n => ⟨ip, n⟩

def isAligned (n : Network) : Bool :=
  n.address.value % Nat.pow 2 (n.address.version.bits - n.length) == 0

/-- A network that is written with a slash, aligned when `strict` is set. -/
def ofSlashed? (strict : Bool) (s : List Char) : Option Network := do
  if !s.contains '/' then none
  let n ← ofText? s
  if strict && !n.isAligned then none else some n

end Network
end Conformance.Address
