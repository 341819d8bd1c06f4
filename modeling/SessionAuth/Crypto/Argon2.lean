import SessionAuth.Crypto.Blake2b
import SessionAuth.Crypto.Block

/-!
# Argon2

A hash for passwords that is costly on purpose: it fills a given amount of memory a given number
of times. The memory is divided into lanes, and a lane into four slices. The first two blocks of
every lane come from the password and the salt. Every other block is compressed from the block
before it in its lane and a reference block, chosen either by the block before it, and so by the
password, or independently of the password. In the kind `d` the choice always depends on the
password, in the kind `i` never, and in the kind `id` from the third slice of the first pass on.
The last blocks of all lanes are summed up and hashed.
-/

set_option autoImplicit false

namespace SessionAuth.Crypto.Argon2

/-- How reference blocks are chosen. -/
inductive Kind where
  | d
  | i
  | id
  deriving DecidableEq, Repr

def Kind.number : Kind → Nat
  | d => 0
  | i => 1
  | id => 2

/-- The version of the algorithm: in the later one, a pass over memory that is filled already adds
to it what the earlier one replaces it by. -/
inductive Version where
  | v16
  | v19
  deriving DecidableEq, Repr

def Version.number : Version → Nat
  | v16 => 16
  | v19 => 19

structure Cost where
  /-- Blocks of memory. -/
  memory : Nat
  passes : Nat
  lanes : Nat
  deriving DecidableEq, Repr

def Cost.segment (c : Cost) : Nat := c.memory / (4 * c.lanes)

def Cost.lane (c : Cost) : Nat := 4 * c.segment

/-- The variant of the algorithm that is computed. -/
structure Variant where
  kind : Kind
  version : Version
  cost : Cost
  deriving DecidableEq, Repr

/-! ## Hashing at the ends -/

/-- The digest of `size` bytes, more than 64, that begins with half of the digest `v`: half of
every digest in a chain of them, and a last one as long as it takes. -/
def chain (size : Nat) (v : List UInt8) : List UInt8 :=
  v.take 32 ++
    if size ≤ 96 then Blake2b.hash (size - 32) v else chain (size - 32) (Blake2b.hash 64 v)

def anyHash (size : Nat) (message : List UInt8) : List UInt8 :=
  let message := number32 size ++ message
  if size ≤ 64 then Blake2b.hash size message else chain size (Blake2b.hash 64 message)

/-- Some bytes after their number. -/
def counted (bs : List UInt8) : List UInt8 := number32 bs.length ++ bs

/-- The digest that the memory is filled from. -/
def seed (v : Variant) (size : Nat) (password salt data : List UInt8) : List UInt8 :=
  Blake2b.hash 64 <|
    number32 v.cost.lanes ++ number32 size ++ number32 v.cost.memory ++ number32 v.cost.passes ++
      number32 v.version.number ++ number32 v.kind.number ++
      counted password ++ counted salt ++ counted [] ++ counted data

/-! ## Filling the memory -/

/-- A place in the order of work: the `index`-th block of a slice of a lane in a pass. -/
structure Place where
  pass : Nat
  slice : Nat
  lane : Nat
  index : Nat

/-- The reference block does not depend on the password. -/
def isIndependent (v : Variant) (p : Place) : Bool :=
  match v.kind with
  | .d => false
  | .i => true
  | .id => p.pass == 0 && p.slice < 2

/-- The words that choose the reference blocks from place `p` on, where they do not depend on the
password; a block of them lasts for 128 places. -/
def choices (v : Variant) (p : Place) : Block :=
  let input := #[p.pass, p.lane, p.slice, v.cost.lanes * v.cost.lane, v.cost.passes,
    v.kind.number, p.index / 128 + 1]
  Block.compress .zero (.compress .zero (.ofWords (input.map UInt64.ofNat)))

/-- How many blocks of a lane may be referred to at a place, as the lane is the place's own or
another one. -/
def area (v : Variant) (p : Place) (isOwn : Bool) : Nat :=
  let filled := if p.pass = 0 then p.slice * v.cost.segment else v.cost.lane - v.cost.segment
  if isOwn then filled + p.index - 1 else if p.index = 0 then filled - 1 else filled

/-- Where in memory the reference block stands that a word chooses. -/
def reference (v : Variant) (p : Place) (choice : UInt64) : Nat :=
  let lane :=
    if p.pass = 0 ∧ p.slice = 0 then p.lane else (choice >>> 32).toNat % v.cost.lanes
  let size := area v p (lane == p.lane)
  let low := choice &&& 0xffffffff
  let back := (UInt64.ofNat size * ((low * low) >>> 32)) >>> 32
  let first := if p.pass = 0 ∨ p.slice = 3 then 0 else (p.slice + 1) * v.cost.segment
  lane * v.cost.lane + (first + size - 1 - back.toNat) % v.cost.lane

/-- The memory, and the words that choose the next reference blocks. -/
structure Filling where
  memory : Array Block
  choices : Block

def fillPlace (v : Variant) (p : Place) (isFirst : Bool) (f : Filling) : Filling :=
  let { memory, choices := old } := f
  let column := p.slice * v.cost.segment + p.index
  let here := p.lane * v.cost.lane + column
  let before := p.lane * v.cost.lane + (column + v.cost.lane - 1) % v.cost.lane
  let previous := memory.getD before .zero
  let fresh :=
    if isIndependent v p && (isFirst || p.index % 128 == 0) then choices v p else old
  let choice := if isIndependent v p then fresh.word (p.index % 128) else previous.word 0
  let new := previous.compress (memory.getD (reference v p choice) .zero)
  let new :=
    if p.pass ≠ 0 ∧ v.version = .v19 then new.add (memory.getD here .zero) else new
  { memory := memory.setIfInBounds here new, choices := fresh }

/-- Fills a slice of a lane; the first two blocks of a lane are there from the start. -/
def fillSegment (v : Variant) (pass slice lane : Nat) (memory : Array Block) : Array Block :=
  let start := if pass = 0 ∧ slice = 0 then 2 else 0
  let f := (v.cost.segment - start).fold (fun k _ f =>
    fillPlace v ⟨pass, slice, lane, start + k⟩ (k == 0) f) ⟨memory, .zero⟩
  f.memory

def start (v : Variant) (seed : List UInt8) : Array Block :=
  let block (i lane : Nat) := Block.ofBytes (anyHash 1024 (seed ++ number32 i ++ number32 lane))
  v.cost.lanes.fold (fun lane _ memory =>
      let place := lane * v.cost.lane
      (memory.setIfInBounds place (block 0 lane)).setIfInBounds (place + 1) (block 1 lane))
    (Array.replicate (v.cost.lanes * v.cost.lane) .zero)

def fill (v : Variant) (memory : Array Block) : Array Block :=
  v.cost.passes.fold (fun pass _ memory =>
    Nat.fold 4 (fun slice _ memory =>
      v.cost.lanes.fold (fun lane _ memory => fillSegment v pass slice lane memory) memory)
      memory) memory

/-- The sum of the last blocks of all lanes. -/
def final (v : Variant) (memory : Array Block) : Block :=
  v.cost.lanes.fold (fun lane _ sum =>
    sum.add (memory.getD (lane * v.cost.lane + v.cost.lane - 1) .zero)) .zero

/-- The digest of `size` bytes of a password with a salt and with data that goes with it. -/
def hash (v : Variant) (size : Nat) (password salt data : List UInt8) : List UInt8 :=
  anyHash size (final v (fill v (start v (seed v size password salt data)))).bytes

theorem length_hash {v : Variant} {size : Nat} {password salt data : List UInt8}
    (h : size ≤ 64) : (hash v size password salt data).length = size := by
  simp [hash, anyHash, h, Blake2b.length_hash]

end SessionAuth.Crypto.Argon2
