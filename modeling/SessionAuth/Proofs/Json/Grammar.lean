import SessionAuth.Json.Decode

set_option autoImplicit false

/-! # The grammar of JSON texts

A text writes a value (`Json.Writes`) if it is a word, a number or a string, or an array or an
object of texts that write values, with blanks between the parts. The value is given by its outline.
The grammar is the usual one: numbers without zeros in front, with or without fraction and exponent,
and strings with escapes, whose bytes need not be text. Names may come twice, and values may be
nested to any depth.
-/

namespace SessionAuth.Json

/-- Bytes that may stand between the parts of a text. -/
def Blank (bs : Input) : Prop := ∀ b ∈ bs, isSpace b = true

/-! ## Strings -/

/-- The bytes between the quotes of a string, and what has been read before and after them. -/
inductive Takes : StringState → Input → StringState → Prop
  | nil (s : StringState) : Takes s [] s
  /-- A byte that is no control character, no quote and no backslash stands for itself. -/
  | plain {s t : StringState} {b : UInt8} {bs : Input} (hcontrol : ¬ b < 0x20) (hquote : b ≠ 0x22)
      (hbackslash : b ≠ 0x5C) (h : Takes (s.push [b]) bs t) : Takes s (b :: bs) t
  | letter {s t : StringState} {b e : UInt8} {bs : Input} (hletter : letterEscape? b = some e)
      (h : Takes (s.push [e]) bs t) : Takes s (0x5C :: b :: bs) t
  | unit {s t : StringState} {a b c d : UInt8} {n : Nat} {bs : Input}
      (hunit : unit? a b c d = some n) (h : Takes (s.pushUnit n) bs t) : Takes s (0x5C :: 0x75 :: a :: b :: c :: d :: bs) t

/-- The text is a string with its quotes, and this is its value. -/
inductive IsString : Input → Except Trouble String → Prop
  | quoted {bs : Input} {s : StringState} (h : Takes .start bs s) :
      IsString (0x22 :: (bs ++ [0x22])) s.finish

theorem Takes.trans {s t u : StringState} {bs cs : Input} (h : Takes s bs t) (h' : Takes t cs u) :
    Takes s (bs ++ cs) u := by
  induction h with
  | nil => exact h'
  | plain hcontrol hquote hbackslash _ ih => exact .plain hcontrol hquote hbackslash (ih h')
  | letter hletter _ ih => exact .letter hletter (ih h')
  | unit hunit _ ih => exact .unit hunit (ih h')

/-! ## Numbers -/

structure IsDigits (ds : Input) : Prop where
  nonempty : ds ≠ []
  digits : ∀ d ∈ ds, isDigit d = true

/-- The digits of an integer, without zeros in front. -/
structure IsInteger (ds : Input) : Prop extends IsDigits ds where
  first : ds = [0x30] ∨ ds.head? ≠ some 0x30

/-- A fraction with its point, or none. -/
inductive IsFraction : Input → List UInt8 → Prop
  | none : IsFraction [] []
  | some {ds : Input} (h : IsDigits ds) : IsFraction (0x2E :: ds) ds

/-- The sign of an exponent, or none. -/
inductive IsSign : Input → Bool → Prop
  | none : IsSign [] false
  | plus : IsSign [0x2B] false
  | minus : IsSign [0x2D] true

/-- An exponent with its letter, or none. -/
inductive IsExponent : Input → Option (Bool × List UInt8) → Prop
  | none : IsExponent [] none
  | some {e : UInt8} {sign ds : Input} {negative : Bool} (he : e = 0x65 ∨ e = 0x45)
      (hsign : IsSign sign negative) (h : IsDigits ds) :
      IsExponent (e :: (sign ++ ds)) (some (negative, ds))

/-- A number from after its sign. -/
inductive IsNumber : Input → NumberParts → Prop
  | parts {negative : Bool} {integer fraction exponent : Input} {places : List UInt8}
      {power : Option (Bool × List UInt8)} (hinteger : IsInteger integer)
      (hfraction : IsFraction fraction places) (hexponent : IsExponent exponent power) :
      IsNumber (integer ++ (fraction ++ exponent)) ⟨negative, integer, places, power⟩

/-! ## Values -/

/-- An item of an array as it stands in a text, with the blanks around it. -/
structure Item where
  before : Input
  text : Input
  after : Input
  outline : Outline

namespace Item

def bytes (i : Item) : Input := i.before ++ (i.text ++ i.after)

def Spaced (i : Item) : Prop := Blank i.before ∧ Blank i.after

/-- Items after the first, up to the end of their array. -/
def tailBytes : List Item → Input
  | [] => [0x5D]
  | i :: is => 0x2C :: (i.bytes ++ tailBytes is)

end Item

/-- A member of an object as it stands in a text, with the blanks around its name and its value. -/
structure Member where
  before : Input
  nameText : Input
  between : Input
  name : Except Trouble String
  value : Item

namespace Member

def bytes (m : Member) : Input := m.before ++ (m.nameText ++ (m.between ++ 0x3A :: m.value.bytes))

structure Spaced (m : Member) : Prop where
  before : Blank m.before
  between : Blank m.between
  value : m.value.Spaced

def outline (m : Member) : Except Trouble String × Outline := (m.name, m.value.outline)

/-- Members after the first, up to the end of their object. -/
def tailBytes : List Member → Input
  | [] => [0x7D]
  | m :: ms => 0x2C :: (m.bytes ++ tailBytes ms)

end Member

/-- The text writes the value that has this outline. -/
inductive Writes : Input → Outline → Prop
  | null : Writes [0x6E, 0x75, 0x6C, 0x6C] .null
  | yes : Writes [0x74, 0x72, 0x75, 0x65] (.bool true)
  | no : Writes [0x66, 0x61, 0x6C, 0x73, 0x65] (.bool false)
  | unsigned {bs : Input} {p : NumberParts} (h : IsNumber bs p) (hsign : p.negative = false) :
      Writes bs (.number p.value)
  | negative {bs : Input} {p : NumberParts} (h : IsNumber bs p) (hsign : p.negative = true) :
      Writes (0x2D :: bs) (.number p.value)
  | string {bs : Input} {v : Except Trouble String} (h : IsString bs v) : Writes bs (.string v)
  | emptyArray {bs : Input} (h : Blank bs) : Writes (0x5B :: (bs ++ [0x5D])) (.array [] none)
  | array (i : Item) (is : List Item) (hspaced : ∀ j ∈ i :: is, j.Spaced)
      (h : ∀ j ∈ i :: is, Writes j.text j.outline) :
      Writes (0x5B :: (i.bytes ++ Item.tailBytes is)) (.array ((i :: is).map Item.outline) none)
  | emptyObject {bs : Input} (h : Blank bs) : Writes (0x7B :: (bs ++ [0x7D])) (.object [] none)
  | object (m : Member) (ms : List Member) (hspaced : ∀ n ∈ m :: ms, n.Spaced)
      (hnames : ∀ n ∈ m :: ms, IsString n.nameText n.name)
      (h : ∀ n ∈ m :: ms, Writes n.value.text n.value.outline) :
      Writes (0x7B :: (m.bytes ++ Member.tailBytes ms))
        (.object ((m :: ms).map Member.outline) none)

/-- A reader who passes over a value that is written has no trouble. -/
theorem Writes.skipTrouble? {bs : Input} {o : Outline} (h : Writes bs o) :
    o.skipTrouble? = none := by
  cases h <;> rfl

theorem isSpace_of_isDigit {b : UInt8} (h : isDigit b = true) : isSpace b = false := by
  refine Bool.eq_false_iff.2 fun hspace => ?_
  simp only [isSpace, Bool.or_eq_true, beq_iff_eq] at hspace
  rcases hspace with ((rfl | rfl) | rfl) | rfl
  all_goals cases h

theorem IsNumber.exists_cons {bs : Input} {p : NumberParts} (h : IsNumber bs p) :
    ∃ d tail, bs = d :: tail ∧ isDigit d = true := by
  cases h with
  | @parts _ integer fraction exponent _ _ hinteger =>
      cases integer with
      | nil => exact absurd rfl hinteger.nonempty
      | cons d ds => exact ⟨d, _, rfl, hinteger.digits d List.mem_cons_self⟩

/-- A text that writes a value begins with neither a blank nor a closing bracket. -/
theorem Writes.exists_cons {bs : Input} {o : Outline} (h : Writes bs o) :
    ∃ b tail, bs = b :: tail ∧ isSpace b = false ∧ b ≠ 0x5D ∧ b ≠ 0x7D := by
  cases h with
  | unsigned h _ =>
      obtain ⟨d, tail, rfl, hd⟩ := h.exists_cons
      refine ⟨d, tail, rfl, isSpace_of_isDigit hd, ?_, ?_⟩
      all_goals
        rintro rfl
        cases hd
  | string h =>
      cases h with
      | quoted h => exact ⟨_, _, rfl, by decide, by decide, by decide⟩
  | null | yes | no | negative | emptyArray | array | emptyObject | object =>
      exact ⟨_, _, rfl, by decide, by decide, by decide⟩

end SessionAuth.Json
