import Veyra.Lib.Text

/-!
# Veyra.Lib.Ip

The textual IP addresses that Rust's `IpAddr::from_str` accepts: four decimal
octets without leading zeros, or eight hexadecimal groups of which one run of
zeros may be written `::` and the last two as an IPv4 address.

The parser is the one of `core::net`: a reader takes a prefix of the
characters and hands back the rest, and a reader that fails consumes nothing.
-/

namespace Ip

/-- A reader of a prefix of the input. -/
abbrev Reader (α : Type) := List Char → Option (α × List Char)

/-- `char::to_digit` for the radixes 10 and 16. -/
def toDigit (radix : Nat) (c : Char) : Option Nat :=
  let value :=
    if Text.isAsciiDigit c then some (c.toNat - '0'.toNat)
    else if 'a' ≤ c && c ≤ 'f' then some (c.toNat - 'a'.toNat + 10)
    else if 'A' ≤ c && c ≤ 'F' then some (c.toNat - 'A'.toNat + 10)
    else none
  value.filter (· < radix)

/-- The leading digits of the input, and what follows them. -/
def spanDigits (radix : Nat) : List Char → List Nat × List Char
  | [] => ([], [])
  | c :: cs =>
    match toDigit radix c with
    | some d => let (ds, rest) := spanDigits radix cs; (d :: ds, rest)
    | none => ([], c :: cs)

/-- `read_number`: at most `maxDigits` digits, below `bound`. -/
def readNumber (radix maxDigits bound : Nat) (allowZeroPrefix : Bool) : Reader Nat := fun cs =>
  let (ds, rest) := spanDigits radix cs
  let value := ds.foldl (fun acc d => acc * radix + d) 0
  if ds.isEmpty || ds.length > maxDigits || value ≥ bound then none
  else if !allowZeroPrefix && ds.head? = some 0 && ds.length > 1 then none
  else some (value, rest)

/-- `read_separator`: every item but the first follows a separator. -/
def readSeparator {α : Type} (sep : Char) (index : Nat) (read : Reader α) : Reader α := fun cs =>
  if index = 0 then read cs
  else match cs with
    | c :: rest => if c = sep then read rest else none
    | [] => none

/-- The octets of an address from the given position on. -/
def readOctets : Nat → Nat → Reader Unit
  | 0, _ => fun cs => some ((), cs)
  | n + 1, index => fun cs =>
    (readSeparator '.' index (readNumber 10 3 256 false) cs).bind fun r =>
      readOctets n (index + 1) r.2

/-- `read_ipv4_addr`. -/
def readIpv4 : Reader Unit := readOctets 4 0

/-- `read_groups`: how many of at most `index + n` groups there are, and whether the last
two were an IPv4 address; `n` counts the groups still to come. -/
def readGroups : Nat → Nat → List Char → (Nat × Bool) × List Char
  | 0, index, cs => ((index, false), cs)
  | n + 1, index, cs =>
    match (if n = 0 then none else readSeparator ':' index readIpv4 cs) with
    | some (_, rest) => ((index + 2, true), rest)
    | none =>
      match readSeparator ':' index (readNumber 16 4 65536 true) cs with
      | some (_, rest) => readGroups n (index + 1) rest
      | none => ((index, false), cs)

/-- `read_ipv6_addr`. -/
def readIpv6 : Reader Unit := fun cs =>
  let ((headSize, headIpv4), rest) := readGroups 8 0 cs
  if headSize = 8 then some ((), rest)
  else if headIpv4 then none
  else match rest with
    | ':' :: ':' :: rest =>
      -- `::` stands for at least one group
      some ((), (readGroups (7 - headSize) 0 rest).2)
    | _ => none

/-- The kind of an address. -/
inductive Family
  | v4
  | v6
deriving DecidableEq, Repr

/-- `str::parse::<IpAddr>`: the family of the address a string spells. -/
def parse (s : String) : Option Family :=
  let read := ((readIpv4 s.toList).map fun r => (Family.v4, r.2)).or
    ((readIpv6 s.toList).map fun r => (Family.v6, r.2))
  (read.filter (·.2.isEmpty)).map (·.1)

example : [parse "1.2.3.4", parse "::1", parse "::ffff:1.2.3.4", parse "01.2.3.4", parse "1::2::3"]
    = [some .v4, some .v6, some .v6, none, none] := by decide +kernel

end Ip
