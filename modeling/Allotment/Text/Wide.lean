import Allotment.Text.Utf8

/-!
# UTF-16 and UTF-32

Editors on some systems save files in units of two or four bytes. Both readers are told the
order of the bytes in a unit.

* `decodeUtf16` — a surrogate without its partner becomes U+FFFD;
* `decodeUtf32` — a unit that is no character becomes U+FFFD;
* whatever the end of the file cuts off, a pair or a unit, becomes one U+FFFD in all.
-/

namespace Allotment.Text

/-- Which byte of a unit comes first. -/
inductive ByteOrder where
  | highFirst
  | lowFirst
  deriving DecidableEq, Repr

/-- The number that two bytes make. -/
def ByteOrder.pair (o : ByteOrder) (a b : UInt8) : Nat :=
  match o with
  | .highFirst => a.toNat * 256 + b.toNat
  | .lowFirst => b.toNat * 256 + a.toNat

/-- The number that four bytes make. -/
def ByteOrder.quad (o : ByteOrder) (a b c d : UInt8) : Nat :=
  match o with
  | .highFirst => o.pair a b * 65536 + o.pair c d
  | .lowFirst => o.pair c d * 65536 + o.pair a b

/-- The units of two bytes, and whether a byte is left over. -/
def units16 (o : ByteOrder) : List UInt8 → List Nat × Bool
  | a :: b :: rest =>
    let (us, odd) := units16 o rest
    (o.pair a b :: us, odd)
  | [_] => ([], true)
  | [] => ([], false)

/-- The characters of a unit between two characters: a first half of a pair is remembered. -/
def utf16First (u : Nat) : List Char × Option Nat :=
  if 0xD800 ≤ u ∧ u < 0xDC00 then ([], some u)
  else if 0xDC00 ≤ u ∧ u < 0xE000 then ([replacement], none)
  else ([Char.ofNat u], none)

/-- Read a unit, with the first half of a pair if one is remembered. -/
def utf16Next : Option Nat → Nat → List Char × Option Nat
  | none, u => utf16First u
  | some h, u =>
    if 0xDC00 ≤ u ∧ u < 0xE000 then
      ([Char.ofNat (0x10000 + (h - 0xD800) * 1024 + (u - 0xDC00))], none)
    else
      let (cs, q) := utf16First u
      (replacement :: cs, q)

/-- Read units from a state; `odd` says that half a unit follows them. -/
def decodeUnits16 (odd : Bool) (half : Option Nat) : List Nat → List Char
  | [] => if half.isSome || odd then [replacement] else []
  | u :: rest =>
    let (cs, q) := utf16Next half u
    cs ++ decodeUnits16 odd q rest

/-- The text of bytes in units of two. -/
def decodeUtf16 (o : ByteOrder) (bytes : List UInt8) : List Char :=
  let (us, odd) := units16 o bytes
  decodeUnits16 odd none us

/-- The text of bytes in units of four. -/
def decodeUtf32 (o : ByteOrder) : List UInt8 → List Char
  | a :: b :: c :: d :: rest =>
    let n := o.quad a b c d
    (if n < 0xD800 ∨ (0xE000 ≤ n ∧ n < 0x110000) then Char.ofNat n else replacement)
      :: decodeUtf32 o rest
  | [] => []
  | _ => [replacement]

end Allotment.Text
