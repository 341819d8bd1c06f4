import SessionAuth.Text.Decimal
import SessionAuth.Text.Hexadecimal
import SessionAuth.Text.Split

/-!
# Network addresses

A client is known by the address of its end of the connection: four octets, or eight groups of
sixteen bits. The text of an address is canonical. Octets are written in decimal between full
stops. Groups are written in hexadecimal between colons, the first longest run of at least two
zero groups as a double colon; where the groups wrap an address of four octets, that is written
in their place after `::ffff:`.

The end of a connection is read from an address and a port, `1.2.3.4:80` or `[fe80::1%5]:80`; the
port and the scope after the percent sign say nothing about who the client is.
-/

set_option autoImplicit false

namespace SessionAuth

inductive Address where
  | octets (a b c d : UInt8)
  | groups (gs : Vector UInt16 8)
  deriving DecidableEq

namespace Address

/-! ## Writing -/

/-- A numeral in the given base, in lower case. -/
def numeral (base n : Nat) : String := String.ofList (Nat.toDigits base n)

def octetsText (os : List UInt8) : String := ".".intercalate (os.map fun o => numeral 10 o.toNat)

def groupsText (gs : List UInt16) : String := ":".intercalate (gs.map fun g => numeral 16 g.toNat)

/-- The octets that eight groups wrap, if they do. -/
def wrapped? : List UInt16 → Option (List UInt8)
  | [0, 0, 0, 0, 0, 0xffff, g, h] =>
    some [(g >>> 8).toUInt8, g.toUInt8, (h >>> 8).toUInt8, h.toUInt8]
  | _ => none

/-- How many groups in front are zero. -/
def zerosInFront (gs : List UInt16) : Nat := (gs.takeWhile (· == 0)).length

/-- The length of the longest run of zero groups. -/
def longestRun : List UInt16 → Nat
  | [] => 0
  | g :: gs => max (zerosInFront (g :: gs)) (longestRun gs)

/-- What stands before and after the first run of `n` zero groups. -/
def aroundRun (n : Nat) : List UInt16 → List UInt16 × List UInt16
  | [] => ([], [])
  | g :: gs =>
    if zerosInFront (g :: gs) = n then ([], gs.drop (n - 1))
    else
      let (before, after) := aroundRun n gs
      (g :: before, after)

def text : Address → String
  | octets a b c d => octetsText [a, b, c, d]
  | groups gs =>
    match wrapped? gs.toList with
    | some os => "::ffff:" ++ octetsText os
    | none =>
      let run := longestRun gs.toList
      if run < 2 then groupsText gs.toList
      else
        let (before, after) := aroundRun run gs.toList
        groupsText before ++ "::" ++ groupsText after

/-! ## Reading -/

/-- Reads an octet of at most three digits, without zeros in front. -/
def octet? (cs : List Char) : Option UInt8 := do
  let n ← Text.naturalBelow? 256 cs
  if cs.length ≤ 3 ∧ (cs.length = 1 ∨ cs.head? ≠ some '0') then some (UInt8.ofNat n)
  else none

def octets? (cs : List Char) : Option (List UInt8) := do
  let os ← (Text.splitAt '.' cs).mapM octet?
  if os.length = 4 then some os else none

/-- Reads a group of one to four hexadecimal digits. -/
def group? (cs : List Char) : Option UInt16 := do
  let ds ← cs.mapM Text.hexDigit?
  if 1 ≤ ds.length ∧ ds.length ≤ 4 then
    some (UInt16.ofNat (ds.foldl (fun n d => 16 * n + d.val) 0))
  else none

/-- The two groups of four octets. -/
def pairUp : List UInt8 → List UInt16
  | a :: b :: os => (a.toUInt16 <<< 8 ||| b.toUInt16) :: pairUp os
  | _ => []

/-- Reads the pieces between colons as groups; four octets may stand as the last piece. -/
def pieces? (withOctets : Bool) : List (List Char) → Option (List UInt16)
  | [] => some []
  | [cs] =>
    match group? cs with
    | some g => some [g]
    | none => if withOctets then (octets? cs).map pairUp else none
  | cs :: rest => do
    let g ← group? cs
    let gs ← pieces? withOctets rest
    return g :: gs

/-- Reads groups between colons; there may be none. -/
def groups? (withOctets : Bool) (cs : List Char) : Option (List UInt16) :=
  if cs.isEmpty then some [] else pieces? withOctets (Text.splitAt ':' cs)

/-- What stands before and after the first double colon. -/
def cutAtGap? : List Char → Option (List Char × List Char)
  | ':' :: ':' :: cs => some ([], cs)
  | c :: cs => (cutAtGap? cs).map fun (before, after) => (c :: before, after)
  | [] => none

/-- Reads eight groups; a double colon stands for one or more zero groups. -/
def ofGroups? (cs : List Char) : Option Address := do
  let gs ← match cutAtGap? cs with
    | none => groups? true cs
    | some (before, after) => do
      let front ← groups? false before
      let back ← groups? true after
      if front.length + back.length < 8 then
        some (front ++ List.replicate (8 - front.length - back.length) 0 ++ back)
      else none
  if h : gs.length = 8 then some (.groups ⟨gs.toArray, by simpa using h⟩) else none

def ofOctets? (cs : List Char) : Option Address := do
  match ← octets? cs with
  | [a, b, c, d] => some (.octets a b c d)
  | _ => none

/-- The text is a numeral below a bound. -/
def isBelow (bound : Nat) (cs : List Char) : Bool := (Text.naturalBelow? bound cs).isSome

/-- The address in `[address]` or `[address%scope]`, without the brackets. -/
def ofBracketed? (cs : List Char) : Option Address :=
  match Text.cutAt? '%' cs with
  | none => ofGroups? cs
  | some (address, scope) => if isBelow UInt32.size scope then ofGroups? address else none

/-- The address of the end of a connection, which is followed by its port. -/
def ofEndpoint? (s : String) : Option Address := do
  match s.toList with
  | '[' :: cs =>
    let (inside, rest) ← Text.cutAt? ']' cs
    match rest with
    | ':' :: port => if isBelow UInt16.size port then ofBracketed? inside else none
    | _ => none
  | cs =>
    let (address, port) ← Text.cutAt? ':' cs
    if isBelow UInt16.size port then ofOctets? address else none

end Address

end SessionAuth
