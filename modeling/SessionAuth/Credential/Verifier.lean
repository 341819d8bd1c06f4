import SessionAuth.Credential.Digest
import SessionAuth.Crypto.Argon2
import SessionAuth.Text.Utf8

/-!
# Hashing and checking passwords

Passwords are hashed with Argon2 of kind `id` and version 19, with a salt of 16 bytes, into 32
bytes. A digest records what it was computed with, so that it is checked on its own terms, whatever
new digests cost at the time. A stored digest that cannot be read, or that asks for what cannot be
computed, is a digest of no password.
-/

set_option autoImplicit false

namespace SessionAuth.Credential

open Crypto

/-! ## Costs -/

/-- The costs of a digest that does not say otherwise. -/
def standardCost : Argon2.Cost := ⟨19456, 2, 1⟩

/-- Why costs are refused, if they are. -/
def refusal? (c : Argon2.Cost) : Option String :=
  if c.memory < 8 ∨ c.memory < 8 * c.lanes then some "memory cost is too small"
  else if c.passes < 1 then some "time cost is too small"
  else if c.lanes < 1 then some "not enough threads"
  else if 0xffffff < c.lanes then some "too many threads"
  else none

/-! ## Hashing -/

def digest (cost : Argon2.Cost) (salt : List UInt8) (password : String) : PasswordDigest where
  algorithm := "argon2id".toList
  version := some 19
  parameters := [(['m'], Text.digits cost.memory), (['t'], Text.digits cost.passes),
    (['p'], Text.digits cost.lanes)]
  salt := some (Base64.encode salt)
  output := some (Argon2.hash ⟨.id, .v19, cost⟩ 32 (Text.utf8 password) salt [])

/-- The text of the digest of a password with a salt. -/
def hash (cost : Argon2.Cost) (salt : List UInt8) (password : String) : String :=
  String.ofList (digest cost salt password).chars

/-! ## Checking -/

/-- The kind that an algorithm's name stands for. -/
def kind? (algorithm : List Char) : Option Argon2.Kind :=
  match String.ofList algorithm with
  | "argon2d" => some .d
  | "argon2i" => some .i
  | "argon2id" => some .id
  | _ => none

/-- The version that a number stands for; without a number it is the later one. -/
def version? : Option Nat → Option Argon2.Version
  | none | some 19 => some .v19
  | some 16 => some .v16
  | some _ => none

/-- What the parameters of a digest say. -/
structure Terms where
  cost : Argon2.Cost := standardCost
  /-- Data that is hashed along with the password. -/
  data : List UInt8 := []

def bytes? (size : Nat) (value : List Char) : Option (List UInt8) :=
  (Base64.decode? value).filter fun bs => bs.length ≤ size

/-- Reads one more parameter. The identifier of a key is read and not used. -/
def Terms.read? (t : Terms) (name value : List Char) : Option Terms :=
  match String.ofList name with
  | "m" => (PasswordDigest.number? value).map fun memory => { t with cost.memory := memory }
  | "t" => (PasswordDigest.number? value).map fun passes => { t with cost.passes := passes }
  | "p" => (PasswordDigest.number? value).map fun lanes => { t with cost.lanes := lanes }
  | "keyid" => (bytes? 8 value).map fun _ => t
  | "data" => (bytes? 32 value).map fun data => { t with data }
  | _ => none

/-- What the parameters of a digest say, if it can be computed. -/
def terms? (parameters : List (List Char × List Char)) : Option Terms :=
  (parameters.foldlM (fun (t : Terms) p => t.read? p.1 p.2) {}).filter fun t =>
    (refusal? t.cost).isNone

/-- The output that a password has on the terms of a digest, if the digest has terms. -/
def recompute? (d : PasswordDigest) (size : Nat) (password : List UInt8) :
    Option (List UInt8) := do
  let kind ← kind? d.algorithm
  let version ← version? d.version
  let terms ← terms? d.parameters
  let salt ← d.salt.bind Base64.decode?
  if 8 ≤ salt.length then
    return Argon2.hash ⟨kind, version, terms.cost⟩ size password salt terms.data
  else none

def verify (stored password : String) : Bool :=
  match PasswordDigest.read? stored.toList with
  | none => false
  | some d =>
    match d.output with
    | none => false
    | some output =>
      recompute? d output.length (Text.utf8 password) == some output

end SessionAuth.Credential
