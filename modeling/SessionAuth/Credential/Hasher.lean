import SessionAuth.Credential.Verifier

/-!
# Hashers

A hasher computes digests of passwords with a kind and a version of Argon2 and with parameters:
what a digest costs, the identifier of a key, data that is hashed along with every password, and
how long the output is. The parameters are written into the digest, but for the length of the
output, which can be seen.

The same hasher checks a password against a digest. It does so on the terms of the digest: the
kind, the version and all parameters give way to those that the digest was computed with. A digest
that cannot be read, or has no terms, is a digest of no password.
-/

set_option autoImplicit false

namespace SessionAuth.Credential

open Crypto

/-! ## Parameters -/

structure Parameters where
  cost : Argon2.Cost := standardCost
  /-- The identifier of a key. It is written into a digest and has no part in its output. -/
  keyId : List UInt8 := []
  /-- Data that is hashed along with the password. -/
  data : List UInt8 := []
  /-- How many bytes an output has, if not 32. -/
  outputSize : Option Nat := none

namespace Parameters

def size (p : Parameters) : Nat := p.outputSize.getD 32

/-- The costs are not refused, and everything fits the width it has. -/
structure Valid (p : Parameters) : Prop where
  accepted : refusal? p.cost = none
  memory_lt : p.cost.memory < UInt32.size
  passes_lt : p.cost.passes < UInt32.size
  keyId_length_le : p.keyId.length ≤ 8
  data_length_le : p.data.length ≤ 32
  outputSize_mem : ∀ n ∈ p.outputSize, 4 ≤ n ∧ n < UInt32.size

/-- The parameter for some bytes, which is left out if there are none. -/
def listedBytes (name : List Char) (bs : List UInt8) : List (List Char × List Char) :=
  if bs.isEmpty then [] else [(name, Base64.encode bs)]

/-- The parameters as they are written into a digest. -/
def listed (p : Parameters) : List (List Char × List Char) :=
  [(['m'], Text.digits p.cost.memory), (['t'], Text.digits p.cost.passes),
    (['p'], Text.digits p.cost.lanes)] ++
  listedBytes "keyid".toList p.keyId ++ listedBytes "data".toList p.data

end Parameters

/-! ## Hashing -/

/-- The name of an algorithm. -/
def algorithm : Argon2.Kind → List Char
  | .d => "argon2d".toList
  | .i => "argon2i".toList
  | .id => "argon2id".toList

abbrev Salt := Vector UInt8 16

structure Hasher where
  kind : Argon2.Kind := .id
  version : Argon2.Version := .v19
  parameters : Parameters := {}

namespace Hasher

def output (h : Hasher) (password salt : List UInt8) : List UInt8 :=
  Argon2.hash ⟨h.kind, h.version, h.parameters.cost⟩ h.parameters.size password salt
    h.parameters.data

def digest (h : Hasher) (salt : Salt) (password : String) : PasswordDigest where
  algorithm := algorithm h.kind
  version := some h.version.number
  parameters := h.parameters.listed
  salt := some (Base64.encode salt.toList)
  output := some (h.output (Text.utf8 password) salt.toList)

/-- The text of the digest of a password with a salt. Outputs that a digest cannot hold are not
computed. -/
def hash? (h : Hasher) (salt : Salt) (password : String) : Option String :=
  if 10 ≤ h.parameters.size ∧ h.parameters.size ≤ 64 then
    some (String.ofList (h.digest salt password).chars)
  else none

/-- With these costs and nothing else, the text is what passwords are stored as. -/
theorem hash?_of_cost (cost : Argon2.Cost) (salt : Salt) (password : String) :
    hash? { parameters := { cost } } salt password = some (hash cost salt.toList password) :=
  rfl

/-! ## Checking -/

/-- The hasher on the terms of a digest with an output of `size` bytes. -/
def onTermsOf? (h : Hasher) (d : PasswordDigest) (size : Nat) : Option Hasher := do
  let kind ← kind? d.algorithm
  let version ← version? d.version
  let terms ← terms? d.parameters
  let parameters :=
    { h.parameters with cost := terms.cost, data := terms.data, outputSize := some size }
  return { h with kind, version, parameters }

/-- The output that a password has on the terms of a digest, if the digest has terms. -/
def recompute? (h : Hasher) (d : PasswordDigest) (size : Nat) (password : List UInt8) :
    Option (List UInt8) := do
  let h ← h.onTermsOf? d size
  let salt ← d.salt.bind Base64.decode?
  if 8 ≤ salt.length then return h.output password salt else none

def verify (h : Hasher) (stored password : String) : Bool :=
  match PasswordDigest.read? stored.toList with
  | none => false
  | some d =>
    match d.output with
    | none => false
    | some output => h.recompute? d output.length (Text.utf8 password) == some output

theorem recompute?_eq (h : Hasher) (d : PasswordDigest) (size : Nat) (password : List UInt8) :
    h.recompute? d size password = Credential.recompute? d size password := by
  simp only [recompute?, onTermsOf?, Credential.recompute?, bind_assoc, pure_bind]
  rfl

/-- **Whoever checks a password comes to the same result**: nothing of a hasher's own is left on
the terms of a digest. -/
theorem verify_eq (h : Hasher) (stored password : String) :
    h.verify stored password = Credential.verify stored password := by
  unfold verify Credential.verify
  cases PasswordDigest.read? stored.toList with
  | none => rfl
  | some d =>
    dsimp only
    cases d.output with
    | none => rfl
    | some output =>
      dsimp only
      rw [recompute?_eq]

end Hasher

end SessionAuth.Credential
