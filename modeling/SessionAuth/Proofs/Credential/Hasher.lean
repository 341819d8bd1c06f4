import Mathlib.Algebra.GroupWithZero.Nat
import SessionAuth.Credential.Hasher
import SessionAuth.Proofs.Credential.Digest

set_option autoImplicit false

/-! # A password fits its own digest

The text of a digest tells on which terms the digest was computed: valid parameters are read back
from it as they were written (`Parameters.Valid.terms?_listed`), and so are the salt and the output.
So whoever checks the password recomputes the very same output, whatever parameters new digests are
computed with by then; and no text is the digest of a password with two salts
(`Hasher.own_digest_fits`).
-/

namespace SessionAuth

theorem Text.length_intercalate_le (c : Char) (pieces : List (List Char)) :
    ([c].intercalate pieces).length ≤ (pieces.map fun p => p.length + 1).sum := by
  induction pieces with
  | nil => exact Nat.le_refl 0
  | cons p pieces ih =>
      rw [List.map_cons, List.sum_cons]
      cases pieces with
      | nil =>
          rw [List.intercalate_singleton]
          omega
      | cons q pieces =>
          rw [List.intercalate_cons_cons, List.length_append, List.length_append,
            List.length_singleton]
          omega

namespace Credential

open Crypto PasswordDigest

theorem isName_algorithm (k : Argon2.Kind) : isName (algorithm k) = true := by
  cases k <;> decide

theorem kind?_algorithm (k : Argon2.Kind) : kind? (algorithm k) = some k := by
  cases k <;> rfl

theorem version?_number (v : Argon2.Version) : version? (some v.number) = some v := by
  cases v <;> rfl

theorem number_lt (v : Argon2.Version) : v.number < UInt32.size := by
  cases v <;> decide

theorem bytes?_encode {size : Nat} {bs : List UInt8} (h : bs.length ≤ size) :
    bytes? size (Base64.encode bs) = some bs := by
  simp [bytes?, Option.filter, h]

/-! ## Parameters -/

namespace Parameters

variable {p : Parameters}

theorem of_mem_listedBytes {name : List Char} {bs : List UInt8} {q : List Char × List Char}
    (hq : q ∈ listedBytes name bs) : q = (name, Base64.encode bs) := by
  rw [listedBytes] at hq
  by_cases hnil : bs.isEmpty
  · rw [if_pos hnil] at hq
    cases hq
  · rw [if_neg hnil] at hq
    exact List.mem_singleton.1 hq

/-- What the parameter for some bytes takes up, with the comma after it. -/
theorem width_listedBytes (name : List Char) (bs : List UInt8) :
    ((listedBytes name bs).map fun q => (parameterChars q).length + 1).sum ≤
      name.length + 2 + (4 * bs.length + 2) / 3 := by
  rw [listedBytes]
  by_cases hnil : bs.isEmpty
  · rw [if_pos hnil]
    exact Nat.zero_le _
  · rw [if_neg hnil, List.map_singleton, List.sum_singleton, parameterChars, List.length_append,
      List.length_cons, Base64.length_encode]
    show name.length + _ + 1 ≤ _
    omega

theorem Valid.lanes_lt (h : p.Valid) : p.cost.lanes < UInt32.size := by
  have haccepted := h.accepted
  have hsize : 0xffffff < UInt32.size := by decide
  unfold refusal? at haccepted
  split_ifs at haccepted with _ _ _ hlanes
  exact Nat.lt_of_le_of_lt (Nat.not_lt.1 hlanes) hsize

/-- Every parameter that is written is a name and a value. -/
theorem Valid.of_mem_listed (h : p.Valid) :
    ∀ q ∈ p.listed, isName q.1 = true ∧ isValue q.2 = true := by
  intro q hq
  simp only [listed, List.mem_append, List.mem_cons, List.not_mem_nil, or_false] at hq
  rcases hq with ((rfl | rfl | rfl) | hq) | hq
  · exact ⟨rfl, isValue_digits h.memory_lt⟩
  · exact ⟨rfl, isValue_digits h.passes_lt⟩
  · exact ⟨rfl, isValue_digits h.lanes_lt⟩
  · rw [of_mem_listedBytes hq]
    exact ⟨rfl, isValue_encode (Nat.le_trans h.keyId_length_le (by decide))⟩
  · rw [of_mem_listedBytes hq]
    exact ⟨rfl, isValue_encode (Nat.le_trans h.data_length_le (by decide))⟩

/-- Together they fit their field. -/
theorem Valid.width_listed (h : p.Valid) :
    ([','].intercalate (p.listed.map parameterChars)).length ≤ 127 := by
  have hm := length_digits_le h.memory_lt
  have ht := length_digits_le h.passes_lt
  have hp := length_digits_le h.lanes_lt
  have hkey := width_listedBytes "keyid".toList p.keyId
  have hdata := width_listedBytes "data".toList p.data
  have hkeyId := h.keyId_length_le
  have hdataLength := h.data_length_le
  have hwidth := Text.length_intercalate_le ',' (p.listed.map parameterChars)
  have hkeyName : "keyid".toList.length = 5 := by decide
  have hdataName : "data".toList.length = 4 := by decide
  rw [List.map_map] at hwidth
  simp only [listed, List.map_append, List.sum_append, List.map_cons, List.map_nil, List.sum_cons,
    List.sum_nil, Function.comp_def, parameterChars, List.length_append, List.length_cons,
    List.length_nil] at hwidth hkey hdata ⊢
  omega

/-! Reading the parameters one by one -/

theorem foldlM_listedBytes_keyId (h : p.keyId.length ≤ 8) (t : Terms) :
    (listedBytes "keyid".toList p.keyId).foldlM (fun (t : Terms) q => t.read? q.1 q.2) t =
      some t := by
  rw [listedBytes]
  by_cases hnil : p.keyId.isEmpty
  · rw [if_pos hnil]
    rfl
  · rw [if_neg hnil]
    show ((bytes? 8 (Base64.encode p.keyId)).map fun _ => t).bind _ = _
    rw [bytes?_encode h]
    rfl

theorem foldlM_listedBytes_data (h : p.data.length ≤ 32) (c : Argon2.Cost) :
    (listedBytes "data".toList p.data).foldlM (fun (t : Terms) q => t.read? q.1 q.2) ⟨c, []⟩ =
      some ⟨c, p.data⟩ := by
  rw [listedBytes]
  by_cases hnil : p.data.isEmpty
  · rw [if_pos hnil, List.isEmpty_iff.1 hnil]
    rfl
  · rw [if_neg hnil]
    show ((bytes? 32 (Base64.encode p.data)).map fun data => (⟨c, data⟩ : Terms)).bind _ = _
    rw [bytes?_encode h]
    rfl

/-- **Valid parameters are read as they were written.** -/
theorem Valid.terms?_listed (h : p.Valid) : terms? p.listed = some ⟨p.cost, p.data⟩ := by
  have hcost : ([(['m'], Text.digits p.cost.memory), (['t'], Text.digits p.cost.passes),
      (['p'], Text.digits p.cost.lanes)] : List (List Char × List Char)).foldlM
        (fun (t : Terms) q => t.read? q.1 q.2) {} = some ⟨p.cost, []⟩ := by
    simp only [List.foldlM_cons, List.foldlM_nil]
    show ((number? (Text.digits p.cost.memory)).map _).bind _ = _
    rw [number?_digits h.memory_lt, Option.map_some, Option.bind_some]
    show ((number? (Text.digits p.cost.passes)).map _).bind _ = _
    rw [number?_digits h.passes_lt, Option.map_some, Option.bind_some]
    show ((number? (Text.digits p.cost.lanes)).map _).bind _ = _
    rw [number?_digits h.lanes_lt]
    rfl
  rw [terms?, listed, List.foldlM_append, List.foldlM_append, hcost]
  simp only [bind, Option.bind_some, foldlM_listedBytes_keyId h.keyId_length_le,
    foldlM_listedBytes_data h.data_length_le, Option.filter, h.accepted]
  rfl

end Parameters

/-! ## Digests -/

namespace Hasher

variable {h : Hasher}

theorem length_output (hsize : h.parameters.size ≤ 64) (password salt : List UInt8) :
    (h.output password salt).length = h.parameters.size :=
  Argon2.length_hash hsize

/-- A digest that can be written is written so that it reads back. -/
theorem digest_wellFormed (hvalid : h.parameters.Valid) (hlow : 10 ≤ h.parameters.size)
    (hhigh : h.parameters.size ≤ 64) (salt : Salt) (password : String) :
    (h.digest salt password).WellFormed where
  algorithm := isName_algorithm h.kind
  version := by
    rintro n ⟨⟩
    exact number_lt h.version
  parameters := hvalid.of_mem_listed
  width := hvalid.width_listed
  versioned := nofun
  salt := by
    rintro s ⟨⟩
    have hlength : salt.toList.length = 16 := Vector.length_toList
    have hencode := Base64.length_encode salt.toList
    exact ⟨by omega, isValue_encode (by omega)⟩
  output := by
    rintro o ⟨⟩
    rw [length_output hhigh]
    exact ⟨hlow, hhigh⟩
  salted := nofun

/-- On the terms of a digest a hasher computes what the hasher of the digest computed. -/
theorem recompute?_digest (hvalid : h.parameters.Valid) (other : Hasher) (salt : Salt)
    (password : String) :
    other.recompute? (h.digest salt password) h.parameters.size (Text.utf8 password) =
      (h.digest salt password).output := by
  have hsalt : 8 ≤ salt.toList.length := by
    rw [Vector.length_toList]
    decide
  have hterms : other.onTermsOf? (h.digest salt password) h.parameters.size =
      some { h with parameters := { h.parameters with
        keyId := other.parameters.keyId, outputSize := some h.parameters.size } } := by
    rw [onTermsOf?, digest]
    simp only [kind?_algorithm, version?_number, hvalid.terms?_listed]
    rfl
  rw [recompute?, hterms]
  simp only [digest, bind, Option.bind_some, Base64.decode?_encode, if_pos hsalt]
  rfl

variable {salt : Salt} {password text : String}

theorem of_hash?_eq_some (hvalid : h.parameters.Valid) (htext : h.hash? salt password = some text) :
    h.parameters.size ≤ 64 ∧ PasswordDigest.read? text.toList = some (h.digest salt password) := by
  rw [hash?] at htext
  by_cases hsize : 10 ≤ h.parameters.size ∧ h.parameters.size ≤ 64
  · rw [if_pos hsize] at htext
    cases htext
    rw [String.toList_ofList]
    exact ⟨hsize.2, (digest_wellFormed hvalid hsize.1 hsize.2 salt password).read?_chars⟩
  · rw [if_neg hsize] at htext
    cases htext

/-- Whoever checks a password against its digest finds that it fits. -/
theorem verify_of_hash? (hvalid : h.parameters.Valid) (htext : h.hash? salt password = some text)
    (other : Hasher) : other.verify text password = true := by
  obtain ⟨hsize, hread⟩ := of_hash?_eq_some hvalid htext
  have houtput : (h.digest salt password).output =
      some (h.output (Text.utf8 password) salt.toList) := rfl
  rw [verify, hread]
  simp only [houtput, length_output hsize]
  rw [recompute?_digest hvalid, houtput, beq_self_eq_true]

/-- The salt can be read from a digest. -/
theorem salt_eq_of_hash? {h' : Hasher} {salt' : Salt} {password' : String}
    (hvalid : h.parameters.Valid) (hvalid' : h'.parameters.Valid)
    (htext : h.hash? salt password = some text) (htext' : h'.hash? salt' password' = some text) :
    salt' = salt := by
  obtain ⟨-, hread⟩ := of_hash?_eq_some hvalid htext
  obtain ⟨-, hread'⟩ := of_hash?_eq_some hvalid' htext'
  have hdigest := Option.some.inj (hread'.symm.trans hread)
  have hencoded : Base64.encode salt'.toList = Base64.encode salt.toList :=
    Option.some.inj (congrArg PasswordDigest.salt hdigest)
  have hdecoded := congrArg Base64.decode? hencoded
  rw [Base64.decode?_encode, Base64.decode?_encode] at hdecoded
  exact Vector.toList_inj.1 (Option.some.inj hdecoded)

theorem isSome_hash?_iff : (h.hash? salt password).isSome = true ↔
    10 ≤ h.parameters.size ∧ h.parameters.size ≤ 64 := by
  rw [hash?]
  by_cases hsize : 10 ≤ h.parameters.size ∧ h.parameters.size ≤ 64
  · simp [hsize]
  · simp [hsize]

/-- **A password fits its own digest.** A hasher with valid parameters computes a digest if the
output has 10 to 64 bytes. Whatever text it computes

* is a digest of the password to every hasher, with whatever parameters,
* is a digest with no other salt, of whatever password, by whatever hasher. -/
theorem own_digest_fits (hvalid : h.parameters.Valid) (salt : Salt) (password : String) :
    ((h.hash? salt password).isSome = true ↔ 10 ≤ h.parameters.size ∧ h.parameters.size ≤ 64) ∧
      ∀ text, h.hash? salt password = some text →
        (∀ other : Hasher, other.verify text password = true) ∧
        ∀ (other : Hasher) (salt' : Salt) (password' : String), other.parameters.Valid →
          salt' ≠ salt → other.hash? salt' password' ≠ some text := by
  refine ⟨isSome_hash?_iff, fun text htext => ⟨verify_of_hash? hvalid htext, ?_⟩⟩
  intro other salt' password' hvalid' hne htext'
  exact hne (salt_eq_of_hash? hvalid hvalid' htext htext')

/-- Cheap parameters, with everything else there can be in a digest. -/
def cheap : Hasher where
  parameters := { cost := ⟨8, 1, 1⟩, keyId := [1, 2, 3], data := [4, 5], outputSize := some 16 }

/-- What was hashed cheaply is still known when hashing has become dear. -/
theorem own_digest_fits_cheap :
    cheap.parameters.Valid ∧
      ∃ text, cheap.hash? (Vector.replicate 16 7) "correct horse" = some text ∧
        ({} : Hasher).verify text "correct horse" = true ∧
        ({} : Hasher).hash? (Vector.replicate 16 8) "correct horse" ≠ some text := by
  have hcheap : cheap.parameters.Valid :=
    ⟨by decide, by decide, by decide, by decide, by decide, by decide⟩
  have hstandard : ({} : Hasher).parameters.Valid :=
    ⟨by decide, by decide, by decide, by decide, by decide, by decide⟩
  obtain ⟨hsome, hfits⟩ := own_digest_fits hcheap (Vector.replicate 16 7) "correct horse"
  obtain ⟨text, htext⟩ := Option.isSome_iff_exists.1 (hsome.2 ⟨by decide, by decide⟩)
  obtain ⟨hverify, hsalt⟩ := hfits text htext
  exact ⟨hcheap, text, htext, hverify {}, hsalt {} _ _ hstandard (by decide)⟩

end Hasher

/-- **A stored digest is one of the password it was computed from**, if its costs are accepted. -/
theorem verify_hash {cost : Argon2.Cost} (haccepted : refusal? cost = none)
    (hmemory : cost.memory < UInt32.size) (hpasses : cost.passes < UInt32.size) (salt : Salt)
    (password : String) : verify (hash cost salt.toList password) password = true := by
  have hvalid : ({ cost } : Parameters).Valid :=
    ⟨haccepted, hmemory, hpasses, Nat.zero_le _, Nat.zero_le _, nofun⟩
  rw [← Hasher.verify_eq {}]
  exact Hasher.verify_of_hash? hvalid (Hasher.hash?_of_cost cost salt password) {}

end Credential

end SessionAuth
