import SessionAuth.Json.Scan
import SessionAuth.Time.Timestamp
import SessionAuth.Uuid

/-!
# Wanted values in outlines

A decoder looks for a value of one type in an outline. A value of another kind is a mismatch, but
if its own text is unsound it is that which the reader meets first; arrays and objects are not
looked into once they are known to be out of place.

A record is looked for by the names of its members, which may come in any order and among others,
or in an array that holds its members in their order. A member that comes twice is a mismatch
before its second value is looked at.
-/

set_option autoImplicit false

namespace SessionAuth.Json

/-- A way to find a value in an outline. -/
abbrev Decoder (α : Type) := Outline → Except Trouble α

namespace Decoder

/-- What a reader meets who wanted something else. -/
def refuse {α : Type} : Decoder α
  | .number (.error t) | .string (.error t) | .broken t _ => .error t
  | _ => .error .mismatch

def string : Decoder String
  | .string v => v
  | o => refuse o

def bool : Decoder Bool
  | .bool b => .ok b
  | o => refuse o

def natural (bound : Nat) : Decoder Nat
  | .number (.ok (some n)) => if n < bound then .ok n else .error .mismatch
  | o => refuse o

/-- A value, or null for none. -/
def optional {α : Type} (d : Decoder α) : Decoder (Option α)
  | .null => .ok none
  | o => (d o).map some

/-- A value that is written as a string. -/
def written {α : Type} (read? : String → Option α) : Decoder α := fun o =>
  match string o with
  | .error t => .error t
  | .ok s =>
    match read? s with
    | some a => .ok a
    | none => .error .mismatch

def uuid : Decoder Uuid := written Uuid.ofText?

def instant : Decoder Instant := written fun s => Timestamp.read? s.toList

/-- The items of an array in turn, and then its end. -/
def items {α : Type} (d : Decoder α) (ending : Option Trouble) :
    List Outline → Except Trouble (List α)
  | [] =>
    match ending with
    | some t => .error t
    | none => .ok []
  | o :: os =>
    match d o with
    | .error t => .error t
    | .ok a => (items d ending os).map (a :: ·)

def list {α : Type} (d : Decoder α) : Decoder (List α)
  | .array os ending => items d ending os
  | o => refuse o

end Decoder

/-- A member of a record. -/
structure Field (α : Type) where
  name : String
  decode : Decoder α
  /-- Its value if an object leaves it out. -/
  absent : Option α := none
  /-- Its value if an array ends before it. -/
  short : Option α := none

/-- The members of a record in their order. -/
inductive Record : List Type → Type 1 where
  | nil : Record []
  | cons {α : Type} {αs : List Type} (f : Field α) (r : Record αs) : Record (α :: αs)

def Values : List Type → Type
  | [] => Unit
  | α :: αs => α × Values αs

/-- Room for one value of each type. -/
def Slots : List Type → Type
  | [] => Unit
  | α :: αs => Option α × Slots αs

namespace Record

/-- Nothing has been found yet. -/
def empty : {αs : List Type} → Record αs → Slots αs
  | _, nil => ()
  | _, cons _ r => (none, r.empty)

/-- Puts a named value into its slot; none if the record has no such member. -/
def put? {αs : List Type} (r : Record αs) (slots : Slots αs) (name : String) (o : Outline) :
    Option (Except Trouble (Slots αs)) :=
  match αs, r, slots with
  | _, nil, _ => none
  | _, cons f r, (slot, slots) =>
    if f.name = name then
      match slot with
      | some _ => some (.error .mismatch)
      | none => some ((f.decode o).map fun a => (some a, slots))
    else (r.put? slots name o).map fun e => e.map fun slots => (slot, slots)

/-- Takes the members of an object in turn; those of other names are passed over. -/
def takeMembers {αs : List Type} (r : Record αs) (slots : Slots αs) :
    List (Except Trouble String × Outline) → Except Trouble (Slots αs)
  | [] => .ok slots
  | (.error t, _) :: _ => .error t
  | (.ok name, o) :: ms =>
    match r.put? slots name o with
    | some (.ok slots) => r.takeMembers slots ms
    | some (.error t) => .error t
    | none =>
      match o.skipTrouble? with
      | some t => .error t
      | none => r.takeMembers slots ms

/-- The values found, and those that may be left out. -/
def complete {αs : List Type} (r : Record αs) (slots : Slots αs) : Except Trouble (Values αs) :=
  match αs, r, slots with
  | _, nil, _ => .ok ()
  | _, cons f r, (slot, slots) =>
    match slot.or f.absent with
    | none => .error .mismatch
    | some a => (r.complete slots).map fun values => (a, values)

/-- Takes the items of an array in turn. -/
def takeItems {αs : List Type} (r : Record αs) (ending : Option Trouble) (os : List Outline) :
    Except Trouble (Values αs) :=
  match αs, r, os, ending with
  | _, nil, [], none => .ok ()
  | _, nil, [], some t => .error t
  | _, nil, _ :: _, _ => .error .malformed
  | _, cons f r, o :: os, ending =>
    match f.decode o with
    | .error t => .error t
    | .ok a => (r.takeItems ending os).map fun values => (a, values)
  | _, cons _ _, [], some t => .error t
  | _, cons f r, [], none =>
    match f.short with
    | none => .error .mismatch
    | some a => (r.takeItems none []).map fun values => (a, values)

/-- The values of a record. -/
def decode {αs : List Type} (r : Record αs) : Decoder (Values αs)
  | .object ms ending =>
    match r.takeMembers r.empty ms with
    | .error t => .error t
    | .ok slots =>
      match ending with
      | some t => .error t
      | none => r.complete slots
  | .array os ending => r.takeItems ending os
  | o => Decoder.refuse o

end Record

/-- The value at the beginning of a text. -/
def readFirst {α : Type} (d : Decoder α) (bs : Input) : Except Trouble α := d (outline bs).1

/-- The value that a whole text writes. -/
def readAll {α : Type} (d : Decoder α) (bs : Input) : Except Trouble α :=
  let (o, rest) := outline bs
  match d o with
  | .error t => .error t
  | .ok a => if (skipSpace rest).isEmpty then .ok a else .error .malformed

end SessionAuth.Json
