import SessionAuth.Json.Value
import SessionAuth.Proofs.Json.Grammar
import SessionAuth.Proofs.Text.Numerals

set_option autoImplicit false

/-! # What is written is in the grammar

The text of a JSON value writes that value (`Json.writes_chars`), by recursion over the value.
Inside a string every character is escaped to something that is read as the character again
(`Json.takes_escaped`), so that any string comes back, whatever its characters.
-/

namespace SessionAuth.Json

/-- The bytes of some characters. -/
def bytes (cs : List Char) : Input := cs.flatMap String.utf8EncodeChar

theorem utf8_text (j : Json) : Text.utf8 j.text = bytes j.chars := by
  simp [Text.utf8, text, bytes]

theorem bytes_append (cs ds : List Char) : bytes (cs ++ ds) = bytes cs ++ bytes ds :=
  List.flatMap_append

/-! ## Strings -/

/-- What is read of a string whose bytes so far are these, last first. -/
def stringOf (done : List UInt8) : StringState := ⟨.ok done, none⟩

theorem takes_plain {bs : Input} (h : ∀ b ∈ bs, ¬ b < 0x20 ∧ b ≠ 0x22 ∧ b ≠ 0x5C)
    (done : List UInt8) : Takes (stringOf done) bs (stringOf (bs.reverse ++ done)) := by
  induction bs generalizing done with
  | nil => exact .nil _
  | cons b bs ih =>
      obtain ⟨⟨hcontrol, hquote, hbackslash⟩, h⟩ := List.forall_mem_cons.1 h
      have hrest := ih h (b :: done)
      rw [List.reverse_cons, List.append_assoc]
      exact .plain hcontrol hquote hbackslash hrest

/-- The bytes of a character that is not escaped need no escape either. -/
theorem plain_of_mem_utf8EncodeChar {c : Char} (hcontrol : ¬ c.toNat < 0x20) (hquote : c ≠ '"')
    (hbackslash : c ≠ '\\') :
    ∀ b ∈ String.utf8EncodeChar c, ¬ b < 0x20 ∧ b ≠ 0x22 ∧ b ≠ 0x5C := by
  have hquote' : c.toNat ≠ 0x22 := fun h => hquote (Char.toNat_inj.1 h)
  have hbackslash' : c.toNat ≠ 0x5C := fun h => hbackslash (Char.toNat_inj.1 h)
  have hnat : c.val.toNat = c.toNat := rfl
  have hplain : ∀ b : UInt8, 0x20 ≤ b.toNat → b.toNat ≠ 0x22 → b.toNat ≠ 0x5C →
      ¬ b < 0x20 ∧ b ≠ 0x22 ∧ b ≠ 0x5C := fun b h₁ h₂ h₃ => by
    rw [UInt8.lt_iff_toNat_lt, ne_eq, ne_eq, ← UInt8.toNat_inj, ← UInt8.toNat_inj]
    exact ⟨Nat.not_lt.2 h₁, h₂, h₃⟩
  intro b hb
  simp only [String.utf8EncodeChar, hnat] at hb
  split at hb
  · rw [List.mem_singleton.1 hb]
    refine hplain _ ?_ ?_ ?_
    all_goals
      rw [UInt8.toNat_ofNat']
      omega
  · -- every byte of a longer character has its first bit set
    have hhigh : 0x80 ≤ b.toNat := by
      split at hb
      · simp only [List.mem_cons, List.not_mem_nil, or_false] at hb
        rcases hb with rfl | rfl
        all_goals
          rw [UInt8.toNat_ofNat']
          omega
      · split at hb
        all_goals
          simp only [List.mem_cons, List.not_mem_nil, or_false] at hb
          rcases hb with rfl | rfl | rfl | rfl
          all_goals
            rw [UInt8.toNat_ofNat']
            omega
    exact hplain b (by omega) (by omega) (by omega)

/-- The hexadecimal digits of a control character are read as its number. -/
theorem unit?_control : ∀ n < 0x20,
    bytes [Nat.digitChar (n / 16), Nat.digitChar (n % 16)] =
        [UInt8.ofNat (Nat.digitChar (n / 16)).toNat, UInt8.ofNat (Nat.digitChar (n % 16)).toNat] ∧
      unit? 0x30 0x30 (UInt8.ofNat (Nat.digitChar (n / 16)).toNat)
        (UInt8.ofNat (Nat.digitChar (n % 16)).toNat) = some n := by
  decide

/-- **An escaped character is read as the character.** -/
theorem takes_escaped (c : Char) (done : List UInt8) :
    Takes (stringOf done) (bytes (escaped c))
      (stringOf ((String.utf8EncodeChar c).reverse ++ done)) := by
  have hletter : ∀ b e : UInt8, letterEscape? b = some e →
      Takes (stringOf done) [0x5C, b] (stringOf (e :: done)) := fun b e h => .letter h (.nil _)
  unfold escaped
  split
  · exact hletter 0x22 0x22 rfl
  · exact hletter 0x5C 0x5C rfl
  · exact hletter 0x62 0x08 rfl
  · exact hletter 0x74 0x09 rfl
  · exact hletter 0x6E 0x0A rfl
  · exact hletter 0x66 0x0C rfl
  · exact hletter 0x72 0x0D rfl
  · next hquote hbackslash _ _ _ _ _ =>
    split
    · -- other control characters are escaped by number, which is far from the surrogates
      next hcontrol =>
      obtain ⟨hbytes, hunit⟩ := unit?_control c.toNat hcontrol
      have hpush : (stringOf done).pushUnit c.toNat =
          stringOf ((String.utf8EncodeChar c).reverse ++ done) := by
        have hlow : ¬ (0xDC00 ≤ c.toNat ∧ c.toNat ≤ 0xDFFF) := by omega
        have hhigh : ¬ (0xD800 ≤ c.toNat ∧ c.toNat ≤ 0xDBFF) := by omega
        simp only [StringState.pushUnit, stringOf, if_neg hlow, if_neg hhigh,
          StringState.pointBytes, Char.ofNat_toNat]
        rfl
      rw [← hpush]
      change Takes _ (0x5C :: 0x75 :: 0x30 :: 0x30 ::
        bytes [Nat.digitChar (c.toNat / 16), Nat.digitChar (c.toNat % 16)]) _
      rw [hbytes]
      exact .unit hunit (.nil _)
    · next hcontrol =>
      have hsingle : bytes [c] = String.utf8EncodeChar c := List.flatMap_singleton _ c
      rw [hsingle]
      exact takes_plain (plain_of_mem_utf8EncodeChar hcontrol hquote hbackslash) done

theorem takes_flatMap_escaped (cs : List Char) (done : List UInt8) :
    Takes (stringOf done) (bytes (cs.flatMap escaped)) (stringOf ((bytes cs).reverse ++ done)) := by
  induction cs generalizing done with
  | nil => exact .nil _
  | cons c cs ih =>
      have hbytes : bytes (c :: cs) = String.utf8EncodeChar c ++ bytes cs := rfl
      rw [List.flatMap_cons, bytes_append, hbytes, List.reverse_append, List.append_assoc]
      exact (takes_escaped c done).trans (ih _)

/-- **A quoted text is a string whose value is the text.** -/
theorem isString_quoted (s : String) : IsString (bytes (quoted s)) (.ok s) := by
  have hbytes : bytes (quoted s) = 0x22 :: (bytes (s.toList.flatMap escaped) ++ [0x22]) := by
    rw [quoted, List.cons_append]
    change 0x22 :: bytes (s.toList.flatMap escaped ++ ['"']) = _
    rw [bytes_append]
    rfl
  have hfinish : (stringOf (bytes s.toList).reverse).finish = .ok s := by
    have hread : Text.ofUtf8? (bytes s.toList) = some s := Text.ofUtf8?_utf8 s
    simp only [stringOf, StringState.finish, List.reverse_reverse, hread]
  have htakes := takes_flatMap_escaped s.toList []
  rw [List.append_nil] at htakes
  rw [hbytes, ← hfinish]
  exact .quoted htakes

/-! ## Numbers -/

/-- A number as it is written, digits alone. -/
def numeral (n : Nat) : NumberParts := ⟨false, bytes (Text.digits n), [], none⟩

/-- Digits are one byte each. -/
theorem bytes_of_isDigit {cs : List Char} (h : ∀ c ∈ cs, Text.isDigit c = true) :
    bytes cs = cs.map fun c => UInt8.ofNat c.toNat := by
  induction cs with
  | nil => rfl
  | cons c cs ih =>
      obtain ⟨hc, h⟩ := List.forall_mem_cons.1 h
      have hsmall : c.val.toNat ≤ 127 := by
        have hhigh : c.val.toNat ≤ 0x39 := (Text.isDigit_iff.1 hc).2
        omega
      have hchar : String.utf8EncodeChar c = [UInt8.ofNat c.toNat] := by
        simp only [String.utf8EncodeChar, if_pos hsmall]
        rfl
      rw [List.map_cons, ← ih h, bytes, List.flatMap_cons, hchar]
      rfl

theorem toNat_digitByte {c : Char} (h : Text.isDigit c = true) :
    (UInt8.ofNat c.toNat).toNat = c.toNat := by
  have hhigh := (Text.isDigit_iff.1 h).2
  rw [UInt8.toNat_ofNat']
  omega

theorem isDigit_digitByte {c : Char} (h : Text.isDigit c = true) :
    isDigit (UInt8.ofNat c.toNat) = true := by
  simp only [isDigit, Bool.and_eq_true, decide_eq_true_eq, UInt8.le_iff_toNat_le, toNat_digitByte h]
  exact Text.isDigit_iff.1 h

theorem isInteger_digits (n : Nat) : IsInteger (bytes (Text.digits n)) := by
  have hdigits : ∀ c ∈ Text.digits n, Text.isDigit c = true :=
    fun _ => Text.isDigit_of_mem_digits
  rw [bytes_of_isDigit hdigits]
  refine ⟨⟨?nonempty, ?digits⟩, ?first⟩
  case nonempty => simpa using Text.digits_ne_nil n
  case digits =>
    intro b hb
    obtain ⟨c, hc, rfl⟩ := List.mem_map.1 hb
    exact isDigit_digitByte (hdigits c hc)
  case first =>
    by_cases hn : n = 0
    · subst hn
      exact Or.inl rfl
    · refine Or.inr fun hfirst => ?_
      rw [List.head?_map, Option.map_eq_some_iff] at hfirst
      obtain ⟨c, hc, hzero⟩ := hfirst
      have hc' : c.toNat = '0'.toNat := by
        rw [← toNat_digitByte (hdigits c (List.mem_of_mem_head? hc)), hzero]
        rfl
      rw [Char.toNat_inj.1 hc'] at hc
      exact Text.head?_digits hn hc

theorem isNumber_numeral (n : Nat) : IsNumber (bytes (Text.digits n)) (numeral n) := by
  have h : IsNumber (bytes (Text.digits n) ++ ([] ++ [])) (numeral n) :=
    .parts (isInteger_digits n) .none .none
  rwa [List.append_nil, List.append_nil] at h

theorem le_ofDigitChars (cs : List Char) (n : Nat) : n ≤ Nat.ofDigitChars 10 cs n := by
  induction cs generalizing n with
  | nil => exact Nat.le_refl n
  | cons c cs ih =>
      rw [Nat.ofDigitChars_cons]
      have := ih (10 * n + (c.toNat - '0'.toNat))
      omega

/-- Digits are read to their end as long as the number fits 64 bits. -/
theorem absorb_digits {cs : List Char} (h : ∀ c ∈ cs, Text.isDigit c = true) {n : Nat}
    (hfits : Nat.ofDigitChars 10 cs n < UInt64.size) :
    absorb n (cs.map fun c => UInt8.ofNat c.toNat) = (Nat.ofDigitChars 10 cs n, []) := by
  induction cs generalizing n with
  | nil => rfl
  | cons c cs ih =>
      obtain ⟨hc, h⟩ := List.forall_mem_cons.1 h
      have hvalue : n * 10 + digitValue (UInt8.ofNat c.toNat) = 10 * n + (c.toNat - '0'.toNat) := by
        rw [digitValue, toNat_digitByte hc, Nat.mul_comm]
        rfl
      -- no number on the way is larger than the last
      rw [Nat.ofDigitChars_cons] at hfits ⊢
      have hstep : 10 * n + (c.toNat - '0'.toNat) < UInt64.size :=
        Nat.lt_of_le_of_lt (le_ofDigitChars cs _) hfits
      simp only [List.map_cons, absorb, hvalue, if_pos hstep]
      exact ih h hfits

/-- **A number that fits 64 bits is read.** -/
theorem value_numeral {n : Nat} (h : n < UInt64.size) : (numeral n).value = .ok (some n) := by
  have hdigits : ∀ c ∈ Text.digits n, Text.isDigit c = true :=
    fun _ => Text.isDigit_of_mem_digits
  have hvalue : Nat.ofDigitChars 10 (Text.digits n) 0 = n := Text.ofDigits_digits n
  have habsorb : absorb 0 (bytes (Text.digits n)) = (n, []) := by
    have hfits : Nat.ofDigitChars 10 (Text.digits n) 0 < UInt64.size := by
      rw [hvalue]
      exact h
    rw [bytes_of_isDigit hdigits, absorb_digits hdigits hfits, hvalue]
  simp only [NumberParts.value, numeral, habsorb]
  rfl

/-! ## Values -/

mutual

/-- The outline of a JSON value. -/
def outlineOf : Json → Outline
  | null => .null
  | bool b => .bool b
  | number n => .number (numeral n).value
  | string s => .string (.ok s)
  | array js => .array (itemOutlines js) none
  | object ms => .object (memberOutlines ms) none

def itemOutlines : List Json → List Outline
  | [] => []
  | j :: js => outlineOf j :: itemOutlines js

def memberOutlines : List (String × Json) → List (Except Trouble String × Outline)
  | [] => []
  | (k, j) :: ms => (.ok k, outlineOf j) :: memberOutlines ms

end

theorem itemOutlines_eq_map (js : List Json) : itemOutlines js = js.map outlineOf := by
  induction js with
  | nil => rfl
  | cons j js ih => rw [itemOutlines, ih, List.map_cons]

theorem memberOutlines_eq_map (ms : List (String × Json)) :
    memberOutlines ms = ms.map fun m => (.ok m.1, outlineOf m.2) := by
  induction ms with
  | nil => rfl
  | cons m ms ih => rw [memberOutlines, ih, List.map_cons]

/-- The item that a value makes, without blanks. -/
def itemOf (j : Json) : Item := ⟨[], bytes j.chars, [], outlineOf j⟩

/-- The member that a name and a value make, without blanks. -/
def memberOf (m : String × Json) : Member := ⟨[], bytes (quoted m.1), [], .ok m.1, itemOf m.2⟩

theorem bytes_itemsChars (js : List Json) :
    bytes (itemsChars js) = Item.tailBytes (js.map itemOf) := by
  induction js with
  | nil => rfl
  | cons j js ih =>
      have hbytes : bytes (itemsChars (j :: js)) = 0x2C :: bytes (j.chars ++ itemsChars js) := rfl
      rw [hbytes, bytes_append, ih]
      simp [Item.tailBytes, Item.bytes, itemOf]

theorem bytes_member (m : String × Json) :
    bytes (quoted m.1 ++ ':' :: m.2.chars) = (memberOf m).bytes := by
  have hcolon : bytes (':' :: m.2.chars) = 0x3A :: bytes m.2.chars := rfl
  rw [bytes_append, hcolon]
  simp [Member.bytes, Item.bytes, memberOf, itemOf]

theorem bytes_membersChars (ms : List (String × Json)) :
    bytes (membersChars ms) = Member.tailBytes (ms.map memberOf) := by
  induction ms with
  | nil => rfl
  | cons m ms ih =>
      have hbytes : bytes (membersChars (m :: ms)) =
          0x2C :: bytes ((quoted m.1 ++ ':' :: m.2.chars) ++ membersChars ms) := by
        rw [List.append_assoc]
        rfl
      rw [hbytes, bytes_append, bytes_member, ih]
      rfl

theorem blank_nil : Blank [] := fun _ h => absurd h List.not_mem_nil

theorem spaced_memberOf (m : String × Json) : (memberOf m).Spaced :=
  ⟨blank_nil, blank_nil, blank_nil, blank_nil⟩

theorem writes_array {j : Json} {js : List Json}
    (h : ∀ i ∈ j :: js, Writes (bytes i.chars) (outlineOf i)) :
    Writes (bytes (array (j :: js)).chars) (outlineOf (array (j :: js))) := by
  have hbytes : bytes (array (j :: js)).chars =
      0x5B :: ((itemOf j).bytes ++ Item.tailBytes (js.map itemOf)) := by
    have hopen : bytes (array (j :: js)).chars = 0x5B :: bytes (j.chars ++ itemsChars js) := rfl
    rw [hopen, bytes_append, bytes_itemsChars]
    simp [Item.bytes, itemOf]
  have houtlines : itemOutlines (j :: js) = (itemOf j :: js.map itemOf).map Item.outline := by
    rw [itemOutlines_eq_map, ← List.map_cons, List.map_map]
    rfl
  rw [hbytes, outlineOf, houtlines]
  refine .array (itemOf j) (js.map itemOf) ?_ ?_
  · rw [← List.map_cons]
    exact List.forall_mem_map.2 fun _ _ => ⟨blank_nil, blank_nil⟩
  · rw [← List.map_cons]
    exact List.forall_mem_map.2 h

theorem writes_object {m : String × Json} {ms : List (String × Json)}
    (h : ∀ n ∈ m :: ms, Writes (bytes n.2.chars) (outlineOf n.2)) :
    Writes (bytes (object (m :: ms)).chars) (outlineOf (object (m :: ms))) := by
  have hbytes : bytes (object (m :: ms)).chars =
      0x7B :: ((memberOf m).bytes ++ Member.tailBytes (ms.map memberOf)) := by
    have hopen : bytes (object (m :: ms)).chars =
        0x7B :: bytes ((quoted m.1 ++ ':' :: m.2.chars) ++ membersChars ms) := by
      rw [List.append_assoc]
      rfl
    rw [hopen, bytes_append, bytes_member, bytes_membersChars]
  have houtlines : memberOutlines (m :: ms) =
      (memberOf m :: ms.map memberOf).map Member.outline := by
    rw [memberOutlines_eq_map, ← List.map_cons, List.map_map]
    rfl
  rw [hbytes, outlineOf, houtlines]
  refine .object (memberOf m) (ms.map memberOf) ?_ ?_ ?_
  · rw [← List.map_cons]
    exact List.forall_mem_map.2 fun n _ => spaced_memberOf n
  · rw [← List.map_cons]
    exact List.forall_mem_map.2 fun n _ => isString_quoted n.1
  · rw [← List.map_cons]
    exact List.forall_mem_map.2 h

mutual

/-- **The text of a value writes that value.** -/
theorem writes_chars : (j : Json) → Writes (bytes j.chars) (outlineOf j)
  | null => .null
  | bool true => .yes
  | bool false => .no
  | number n => .unsigned (isNumber_numeral n) rfl
  | string s => .string (isString_quoted s)
  | array [] => .emptyArray blank_nil
  | array (j :: js) => writes_array (List.forall_mem_cons.2 ⟨writes_chars j, writes_items js⟩)
  | object [] => .emptyObject blank_nil
  | object ((_, j) :: ms) =>
      writes_object (List.forall_mem_cons.2 ⟨writes_chars j, writes_members ms⟩)

theorem writes_items : (js : List Json) → ∀ j ∈ js, Writes (bytes j.chars) (outlineOf j)
  | [] => fun _ h => absurd h List.not_mem_nil
  | j :: js => List.forall_mem_cons.2 ⟨writes_chars j, writes_items js⟩

theorem writes_members : (ms : List (String × Json)) →
    ∀ m ∈ ms, Writes (bytes m.2.chars) (outlineOf m.2)
  | [] => fun _ h => absurd h List.not_mem_nil
  | (_, j) :: ms => List.forall_mem_cons.2 ⟨writes_chars j, writes_members ms⟩

end

end SessionAuth.Json
