import Mathlib.Data.List.Basic
import SessionAuth.Credential.Digest
import SessionAuth.Proofs.Text.Numerals
import SessionAuth.Proofs.Text.Split

set_option autoImplicit false

/-! # The text of a digest reads back

A digest whose fields keep to their limits (`PasswordDigest.WellFormed`) is recovered from its text
field by field (`PasswordDigest.WellFormed.read?_chars`). The marks tell the fields apart because
they occur in none of the texts between them: names, numbers and values have no dollar sign, no
comma and no equals sign. A version and a lone parameter `v` would look the same; a digest without a version
must not have such a parameter.
-/

namespace SessionAuth

/-! ## Base 64 -/

namespace Crypto.Base64

theorem length_encode (bs : List UInt8) : (encode bs).length = (4 * bs.length + 2) / 3 := by
  rw [encode, List.length_map]
  fun_induction pack bs with
  | case1 a b c rest ih =>
      simp only [List.length_cons, ih]
      omega
  | case2 a b => simp
  | case3 a => simp
  | case4 => rfl

end Crypto.Base64

namespace PasswordDigest

open Crypto

variable {cs : List Char} {n : Nat} {bs : List UInt8} {d : PasswordDigest}

/-! ## Names and values -/

/-- The character stands in no name and no value. -/
def IsMark (c : Char) : Prop := c = '$' ∨ c = ',' ∨ c = '='

theorem not_mem_of_isName (h : isName cs = true) {c : Char} (hc : IsMark c) : c ∉ cs := by
  intro hmem
  simp only [isName, Bool.and_eq_true, List.all_eq_true] at h
  have hchar := h.2 c hmem
  rcases hc with rfl | rfl | rfl
  · exact absurd hchar (by decide)
  · exact absurd hchar (by decide)
  · exact absurd hchar (by decide)

theorem isValueChar_eq_false {c : Char} (hc : IsMark c) : isValueChar c = false := by
  rcases hc with rfl | rfl | rfl
  · decide
  · decide
  · decide

theorem not_mem_of_isValue (h : isValue cs = true) {c : Char} (hc : IsMark c) : c ∉ cs := by
  intro hmem
  simp only [isValue, Bool.and_eq_true, List.all_eq_true] at h
  have hchar := h.2 c hmem
  rw [isValueChar_eq_false hc] at hchar
  cases hchar

theorem isValueChar_of_mem_digits {c : Char} (h : c ∈ Text.digits n) : isValueChar c = true := by
  have hdigit : c.isDigit = true := Nat.isDigit_of_mem_toDigits (by decide) (by decide) h
  simp [isValueChar, Char.isAlphanum, hdigit]

theorem length_digits_le (h : n < UInt32.size) : (Text.digits n).length ≤ 10 := by
  refine (Nat.length_toDigits_le_iff (by decide) (by decide)).2 (Nat.lt_trans h ?_)
  decide

/-- A number of 32 bits is a value and is read back. -/
theorem isValue_digits (h : n < UInt32.size) : isValue (Text.digits n) = true := by
  have hlength := length_digits_le h
  have hchars : (Text.digits n).all isValueChar = true :=
    List.all_eq_true.2 fun _ => isValueChar_of_mem_digits
  rw [isValue, hchars, Bool.and_true]
  exact decide_eq_true (by omega)

theorem number?_digits (h : n < UInt32.size) : number? (Text.digits n) = some n := by
  have hlength := length_digits_le h
  have hzeros : (Text.digits n).length = 1 ∨ (Text.digits n).head? ≠ some '0' := by
    by_cases hn : n = 0
    · subst hn
      exact Or.inl rfl
    · exact Or.inr (Text.head?_digits hn)
  rw [number?, if_pos ⟨by omega, hzeros⟩, Text.naturalBelow?_eq_filter, Text.natural?_digits]
  simp [Option.filter, h]

set_option maxRecDepth 4000 in
theorem isValueChar_of_mem_encode {c : Char} (h : c ∈ Base64.encode bs) :
    isValueChar c = true := by
  have halphabet : ∀ i : Fin 64, isValueChar (Base64.digitChar i.val) = true := by decide
  obtain ⟨i, hi, rfl⟩ := List.mem_map.1 h
  exact halphabet ⟨i, Base64.pack_lt bs i hi⟩

/-- Up to 48 bytes are a value. -/
theorem isValue_encode (h : bs.length ≤ 48) : isValue (Base64.encode bs) = true := by
  have hlength := Base64.length_encode bs
  have hchars : (Base64.encode bs).all isValueChar = true :=
    List.all_eq_true.2 fun _ => isValueChar_of_mem_encode
  rw [isValue, hchars, Bool.and_true]
  exact decide_eq_true (by omega)

/-! ## Digests that can be written -/

/-- The fields keep to their limits and can be told apart. -/
structure WellFormed (d : PasswordDigest) : Prop where
  algorithm : isName d.algorithm = true
  version : ∀ n ∈ d.version, n < UInt32.size
  parameters : ∀ p ∈ d.parameters, isName p.1 = true ∧ isValue p.2 = true
  width : ([','].intercalate (d.parameters.map parameterChars)).length ≤ 127
  /-- A lone parameter of this name would be taken for the version. -/
  versioned : d.version = none → ∀ value, d.parameters ≠ [(['v'], value)]
  salt : ∀ s ∈ d.salt, 4 ≤ s.length ∧ isValue s = true
  output : ∀ o ∈ d.output, 10 ≤ o.length ∧ o.length ≤ 64
  salted : d.salt = none → d.output = none

/-- The field of the version, if there is one. -/
def versionFields (d : PasswordDigest) : List (List Char) :=
  (d.version.map fun n => 'v' :: '=' :: Text.digits n).toList

/-- The field of the parameters, if there are any. -/
def parameterFields (d : PasswordDigest) : List (List Char) :=
  if d.parameters.isEmpty then [] else [[','].intercalate (d.parameters.map parameterChars)]

/-- The fields of the salt and the output. -/
def endFields (d : PasswordDigest) : List (List Char) :=
  d.salt.toList ++ (d.output.map Base64.encode).toList

theorem fields_eq (d : PasswordDigest) :
    d.fields = d.algorithm :: (d.versionFields ++ (d.parameterFields ++ d.endFields)) := by
  simp only [fields, versionFields, parameterFields, endFields, List.append_assoc,
    List.cons_append, List.nil_append]

namespace WellFormed

/-! ## The end -/

theorem takeEnd_endFields (h : d.WellFormed) : takeEnd d.endFields = some (d.salt, d.output) := by
  have hsalt : ∀ s ∈ d.salt, salt? s = some s := by
    intro s hs
    obtain ⟨hlength, hvalue⟩ := h.salt s hs
    simp [salt?, hlength, hvalue]
  have houtput : ∀ o ∈ d.output, output? (Base64.encode o) = some o := by
    intro o ho
    obtain ⟨hlow, hhigh⟩ := h.output o ho
    simp [output?, Option.filter, hlow, hhigh]
  rw [endFields]
  cases hs : d.salt with
  | none =>
      rw [h.salted hs]
      rfl
  | some s =>
      cases ho : d.output with
      | none => simp [takeEnd, hsalt s hs]
      | some o => simp [takeEnd, hsalt s hs, houtput o ho]

/-- No equals sign stands in the first field of the end. -/
theorem not_mem_head_endFields (h : d.WellFormed) {field : List Char}
    (hfield : d.endFields.head? = some field) : '=' ∉ field := by
  rw [endFields] at hfield
  cases hs : d.salt with
  | none =>
      rw [hs, h.salted hs] at hfield
      cases hfield
  | some s =>
      rw [hs] at hfield
      have hsalt : s = field := Option.some.inj hfield
      exact hsalt ▸ not_mem_of_isValue (h.salt s hs).2 (.inr (.inr rfl))

/-! ## Parameters -/

theorem parameter?_parameterChars {p : List Char × List Char} (hname : isName p.1 = true)
    (hvalue : isValue p.2 = true) : parameter? (parameterChars p) = some p := by
  have hcut : Text.cutAt? '=' (parameterChars p) = some p :=
    Text.cutAt?_eq_some_iff.2 ⟨rfl, not_mem_of_isName hname (.inr (.inr rfl))⟩
  rw [parameter?, hcut]
  simp only [hname, hvalue]
  rfl

theorem not_mem_parameterChars (h : d.WellFormed) {c : Char} (hc : c = '$' ∨ c = ',') :
    ∀ field ∈ d.parameters.map parameterChars, c ∉ field := by
  intro field hfield hmem
  obtain ⟨p, hp, rfl⟩ := List.mem_map.1 hfield
  obtain ⟨hname, hvalue⟩ := h.parameters p hp
  have hmark : IsMark c := hc.imp_right Or.inl
  rw [parameterChars, List.mem_append, List.mem_cons] at hmem
  rcases hmem with hmem | rfl | hmem
  · exact not_mem_of_isName hname hmark hmem
  · exact absurd hc (by decide)
  · exact not_mem_of_isValue hvalue hmark hmem

theorem parameters?_intercalate (h : d.WellFormed) (hnil : d.parameters ≠ []) :
    parameters? ([','].intercalate (d.parameters.map parameterChars)) = some d.parameters := by
  have hread : ∀ ps : List (List Char × List Char),
      (∀ p ∈ ps, isName p.1 = true ∧ isValue p.2 = true) →
        (ps.map parameterChars).mapM parameter? = some ps := by
    intro ps hps
    induction ps with
    | nil => rfl
    | cons p ps ih =>
        obtain ⟨hname, hvalue⟩ := hps p List.mem_cons_self
        have hrest := ih fun q hq => hps q (List.mem_cons_of_mem p hq)
        rw [List.map_cons, List.mapM_cons, parameter?_parameterChars hname hvalue, hrest]
        rfl
  rw [parameters?, if_pos h.width, Text.splitAt_intercalate (by simpa using hnil)
    (h.not_mem_parameterChars (.inr rfl))]
  exact hread d.parameters h.parameters

theorem takeParameters_fields (h : d.WellFormed) :
    takeParameters (d.parameterFields ++ d.endFields) = some (d.parameters, d.endFields) := by
  rw [parameterFields]
  cases hps : d.parameters with
  | nil =>
      cases hend : d.endFields with
      | nil => rfl
      | cons field fields =>
          have hfield : '=' ∉ field := h.not_mem_head_endFields (by rw [hend]; rfl)
          show takeParameters (field :: fields) = _
          rw [takeParameters, if_neg hfield]
  | cons p ps =>
      have hread := h.parameters?_intercalate (by rw [hps]; exact List.cons_ne_nil p ps)
      have hequals : '=' ∈ [','].intercalate ((p :: ps).map parameterChars) := by
        cases ps with
        | nil => simp [parameterChars, List.intercalate]
        | cons q ps => simp [parameterChars, List.intercalate_cons_cons]
      rw [hps] at hread
      show takeParameters ([','].intercalate ((p :: ps).map parameterChars) :: d.endFields) = _
      rw [takeParameters, if_pos hequals, hread]
      rfl

/-! ## The version -/

/-- A field that is taken for the version has no comma in it. -/
theorem takeVersion_of_head {fields : List (List Char)}
    (h : ∀ cs, fields.head? = some ('v' :: '=' :: cs) → ',' ∈ cs) :
    takeVersion fields = some (none, fields) := by
  unfold takeVersion
  split
  · rename_i cs rest
    rw [if_pos (h cs rfl)]
  · rfl

/-- Parameters that look like a version are several, unless it is the one that there is not. -/
theorem comma_mem_of_parameterFields (h : d.WellFormed) (hversion : d.version = none)
    {cs : List Char} (hfield : d.parameterFields.head? = some ('v' :: '=' :: cs)) : ',' ∈ cs := by
  rw [parameterFields] at hfield
  cases hps : d.parameters with
  | nil =>
      rw [hps] at hfield
      cases hfield
  | cons p ps =>
      rw [hps] at hfield
      have hchars : [','].intercalate ((p :: ps).map parameterChars) = 'v' :: '=' :: cs :=
        Option.some.inj hfield
      cases ps with
      | nil =>
          -- the first equals sign ends the name, which is `v`
          obtain ⟨name, value⟩ := p
          have hname := (h.parameters (name, value) (by rw [hps]; exact List.mem_cons_self)).1
          have hcut : Text.cutAt? '=' (name ++ '=' :: value) = some (name, value) :=
            Text.cutAt?_eq_some_iff.2 ⟨rfl, not_mem_of_isName hname (.inr (.inr rfl))⟩
          rw [List.map_singleton, List.intercalate_singleton, parameterChars] at hchars
          rw [show name ++ '=' :: value = 'v' :: '=' :: cs from hchars] at hcut
          have hv : name = ['v'] := (congrArg Prod.fst (Option.some.inj hcut)).symm
          exact absurd (hv ▸ hps) (h.versioned hversion value)
      | cons q ps =>
          have hcomma : ',' ∈ 'v' :: '=' :: cs := by
            rw [← hchars]
            simp [List.intercalate_cons_cons]
          simpa using hcomma

theorem takeVersion_fields (h : d.WellFormed) :
    takeVersion (d.versionFields ++ (d.parameterFields ++ d.endFields)) =
      some (d.version, d.parameterFields ++ d.endFields) := by
  rw [versionFields]
  cases hversion : d.version with
  | none =>
      refine takeVersion_of_head fun cs hcs => ?_
      cases hfields : d.parameterFields with
      | nil =>
          rw [hfields] at hcs
          exact absurd (by simp) (h.not_mem_head_endFields hcs)
      | cons field fields =>
          refine h.comma_mem_of_parameterFields hversion ?_
          rw [hfields] at hcs ⊢
          exact hcs
  | some n =>
      have hcomma : ',' ∉ Text.digits n := fun hmem =>
        absurd (isValueChar_of_mem_digits hmem) (by decide)
      show takeVersion (('v' :: '=' :: Text.digits n) :: _) = _
      rw [takeVersion, if_neg hcomma, number?_digits (h.version n hversion)]
      rfl

/-! ## The whole -/

theorem not_mem_fields (h : d.WellFormed) : ∀ field ∈ d.fields, '$' ∉ field := by
  have hdollar : IsMark '$' := Or.inl rfl
  intro field hfield
  rw [fields_eq, List.mem_cons, List.mem_append, List.mem_append] at hfield
  rcases hfield with rfl | hfield | hfield | hfield
  · exact not_mem_of_isName h.algorithm hdollar
  · cases hversion : d.version with
    | none => simp [versionFields, hversion] at hfield
    | some n =>
        have hdigits : '$' ∉ Text.digits n := fun hmem =>
          absurd (isValueChar_of_mem_digits hmem) (by decide)
        simp only [versionFields, hversion, Option.map_some, Option.toList_some,
          List.mem_singleton] at hfield
        subst hfield
        simp [hdigits]
  · rw [parameterFields] at hfield
    by_cases hnil : d.parameters.isEmpty
    · rw [if_pos hnil] at hfield
      cases hfield
    · rw [if_neg hnil, List.mem_singleton] at hfield
      rw [hfield]
      exact Text.not_mem_intercalate (by decide) (h.not_mem_parameterChars (.inl rfl))
  · rw [endFields, List.mem_append, Option.mem_toList, Option.mem_toList] at hfield
    rcases hfield with hs | ho
    · exact not_mem_of_isValue (h.salt field hs).2 hdollar
    · obtain ⟨o, -, rfl⟩ := Option.map_eq_some_iff.1 ho
      intro hmem
      have hchar := isValueChar_of_mem_encode hmem
      rw [isValueChar_eq_false hdollar] at hchar
      cases hchar

/-- **What is written reads back.** -/
theorem read?_chars (h : d.WellFormed) : read? d.chars = some d := by
  rw [read?, chars, Text.splitAt_flatMap_cons h.not_mem_fields, fields_eq]
  simp only [bind, Option.bind_some, h.takeVersion_fields, h.takeParameters_fields,
    h.takeEnd_endFields, h.algorithm]
  rfl

end WellFormed

end PasswordDigest

end SessionAuth
