import SessionAuth.Json.NumberScan
import SessionAuth.Json.StringScan

/-!
# From text to outline

The outline of a text is built by a machine that keeps the arrays and objects it is inside of on a
stack, so that values may be nested to any depth. It stands either before a value or after one.
Every step reads at least one byte, which is why the machine halts.
-/

set_option autoImplicit false

namespace SessionAuth.Json

/-- An array or an object part way through, what is complete of it last first. -/
inductive Frame where
  | array (items : List Outline)
  /-- An object, with the name of the member whose value is being read. -/
  | object (members : List (Except Trouble String × Outline)) (name : Except Trouble String)

/-- The outline of a frame that ends after one more value. -/
def Frame.close (f : Frame) (o : Outline) (ending : Option Trouble) : Outline :=
  match f with
  | array items => .array (o :: items).reverse ending
  | object members name => .object ((name, o) :: members).reverse ending

/-- The outline of a text that breaks off in its innermost value. -/
def abandon (stack : List Frame) (o : Outline) (t : Trouble) : Outline :=
  stack.foldl (fun o f => f.close o (some t)) o

structure ScanState where
  /-- The value that has just been completed, if the machine stands after one. -/
  done : Option Outline
  stack : List Frame
  input : Input

inductive ScanStep where
  /-- The outline is finished; the text after it has not been looked at. -/
  | halt (o : Outline) (rest : Input)
  | next (s : ScanState)

/-- The text breaks off with trouble that is the same for every reader. -/
def breakOff (stack : List Frame) (t : Trouble) : ScanStep :=
  .halt (abandon stack (.broken t t) t) []

/-- The innermost array or object breaks off between its parts. -/
def breakInside (stack : List Frame) (o : Outline) (t : Trouble) : ScanStep :=
  .halt (abandon stack o t) []

/-- Goes on behind a word that stands for a value. -/
def stepWord (stack : List Frame) (o : Outline) (word : List UInt8) (bs : Input) : ScanStep :=
  match expect word bs with
  | .ok rest => .next ⟨some o, stack, rest⟩
  | .error t => breakOff stack t

/-- Goes on behind a number or a string. -/
def stepScanned {α : Type} (stack : List Frame) (outline : Except Trouble α → Outline)
    (r : Scanned α) : ScanStep :=
  match r with
  | .complete v rest => .next ⟨some (outline v), stack, rest⟩
  | .broken read skipped => .halt (abandon stack (.broken read skipped) skipped) []

/-- Reads the name of a member from after its quote, and the colon behind it. -/
def stepName (stack : List Frame) (members : List (Except Trouble String × Outline))
    (bs : Input) : ScanStep :=
  match scanString .start bs with
  | .broken read skipped =>
    breakInside stack
      (Frame.close (.object members (.error read)) (.broken read skipped) (some skipped)) skipped
  | .complete name rest =>
    match skipSpace rest with
    | 0x3A :: rest => .next ⟨none, .object members name :: stack, rest⟩
    | [] => breakOff (.object members name :: stack) .truncated
    | _ => breakOff (.object members name :: stack) .malformed

/-- Reads the quote in front of the name of a member. -/
def stepMember (stack : List Frame) (members : List (Except Trouble String × Outline))
    (bs : Input) : ScanStep :=
  match skipSpace bs with
  | 0x22 :: rest => stepName stack members rest
  | [] => breakInside stack (.object members.reverse (some .truncated)) .truncated
  | _ => breakInside stack (.object members.reverse (some .malformed)) .malformed

/-- Reads the beginning of a value. -/
def stepBefore (stack : List Frame) (bs : Input) : ScanStep :=
  match skipSpace bs with
  | [] => breakOff stack .truncated
  | 0x6E :: rest => stepWord stack .null [0x75, 0x6C, 0x6C] rest
  | 0x74 :: rest => stepWord stack (.bool true) [0x72, 0x75, 0x65] rest
  | 0x66 :: rest => stepWord stack (.bool false) [0x61, 0x6C, 0x73, 0x65] rest
  | 0x2D :: rest => stepScanned stack .number (scanNumber true rest)
  | 0x22 :: rest => stepScanned stack .string (scanString .start rest)
  | 0x5B :: rest =>
    match skipSpace rest with
    | 0x5D :: rest => .next ⟨some (.array [] none), stack, rest⟩
    | _ => .next ⟨none, .array [] :: stack, rest⟩
  | 0x7B :: rest =>
    match skipSpace rest with
    | 0x7D :: rest => .next ⟨some (.object [] none), stack, rest⟩
    | _ => stepMember stack [] rest
  | b :: rest =>
    if isDigit b then stepScanned stack .number (scanNumber false (b :: rest))
    else breakOff stack .malformed

/-- Reads what follows a value inside an array or an object. -/
def stepAfter (o : Outline) (f : Frame) (stack : List Frame) (bs : Input) : ScanStep :=
  match f, skipSpace bs with
  | .array items, 0x2C :: rest => .next ⟨none, .array (o :: items) :: stack, rest⟩
  | .array _, 0x5D :: rest => .next ⟨some (f.close o none), stack, rest⟩
  | .object members name, 0x2C :: rest => stepMember stack ((name, o) :: members) rest
  | .object _ _, 0x7D :: rest => .next ⟨some (f.close o none), stack, rest⟩
  | _, [] => breakInside stack (f.close o (some .truncated)) .truncated
  | _, _ => breakInside stack (f.close o (some .malformed)) .malformed

def ScanState.step (s : ScanState) : ScanStep :=
  match s.done, s.stack with
  | none, stack => stepBefore stack s.input
  | some o, [] => .halt o s.input
  | some o, f :: stack => stepAfter o f stack s.input

/-! ## Every step reads -/

theorem length_of_stepWord {stack : List Frame} {o : Outline} {word : List UInt8} {bs : Input}
    {s : ScanState} (h : stepWord stack o word bs = .next s) : s.input.length ≤ bs.length := by
  unfold stepWord at h
  split at h
  · rename_i rest hr
    simp only [ScanStep.next.injEq] at h
    subst h
    exact length_expect_le hr
  · simp [breakOff] at h

/-- A number or a string is read by a reader that reads at least one byte. -/
theorem length_of_stepScanned {α : Type} {stack : List Frame}
    {outline : Except Trouble α → Outline} {r : Scanned α} {bs : Input} {s : ScanState}
    (hread : ∀ v rest, r = .complete v rest → rest.length < bs.length)
    (h : stepScanned stack outline r = .next s) : s.input.length < bs.length := by
  unfold stepScanned at h
  split at h
  · rename_i v rest
    simp only [ScanStep.next.injEq] at h
    subst h
    exact hread v rest rfl
  · simp at h

theorem length_of_stepName {stack : List Frame}
    {members : List (Except Trouble String × Outline)} {bs : Input} {s : ScanState}
    (h : stepName stack members bs = .next s) : s.input.length < bs.length := by
  unfold stepName at h
  split at h
  · simp [breakInside] at h
  · rename_i name rest hname
    split at h
    · rename_i rest' hcolon
      simp only [ScanStep.next.injEq] at h
      subst h
      exact Nat.lt_trans (length_of_skipSpace hcolon) (length_of_scanString hname)
    · simp [breakOff] at h
    · simp [breakOff] at h

theorem length_of_stepMember {stack : List Frame}
    {members : List (Except Trouble String × Outline)} {bs : Input} {s : ScanState}
    (h : stepMember stack members bs = .next s) : s.input.length < bs.length := by
  unfold stepMember at h
  split at h
  · rename_i rest hquote
    exact Nat.lt_trans (length_of_stepName h) (length_of_skipSpace hquote)
  · simp [breakInside] at h
  · simp [breakInside] at h

theorem length_of_stepBefore {stack : List Frame} {bs : Input} {s : ScanState}
    (h : stepBefore stack bs = .next s) : s.input.length < bs.length := by
  unfold stepBefore at h
  split at h
  · simp [breakOff] at h
  -- the three words
  iterate 3
    · rename_i rest hfirst
      exact Nat.lt_of_le_of_lt (length_of_stepWord h) (length_of_skipSpace hfirst)
  -- a negative number
  · rename_i rest hfirst
    exact Nat.lt_trans (length_of_stepScanned (fun _ _ => length_of_scanNumber) h)
      (length_of_skipSpace hfirst)
  -- a string
  · rename_i rest hfirst
    exact Nat.lt_trans (length_of_stepScanned (fun _ _ => length_of_scanString) h)
      (length_of_skipSpace hfirst)
  -- an array
  · rename_i rest hfirst
    have hrest := length_of_skipSpace hfirst
    split at h <;> simp only [ScanStep.next.injEq] at h <;> subst h
    · rename_i rest' hclose
      exact Nat.lt_trans (length_of_skipSpace hclose) hrest
    · exact hrest
  -- an object
  · rename_i rest hfirst
    have hrest := length_of_skipSpace hfirst
    split at h
    · rename_i rest' hclose
      simp only [ScanStep.next.injEq] at h
      subst h
      exact Nat.lt_trans (length_of_skipSpace hclose) hrest
    · exact Nat.lt_trans (length_of_stepMember h) hrest
  -- any other byte: its digit is read again with the number
  · rename_i hfirst
    split at h
    · exact Nat.lt_of_lt_of_le (length_of_stepScanned (fun _ _ => length_of_scanNumber) h)
        (hfirst ▸ length_skipSpace_le bs)
    · simp [breakOff] at h

theorem length_of_stepAfter {o : Outline} {f : Frame} {stack : List Frame} {bs : Input}
    {s : ScanState} (h : stepAfter o f stack bs = .next s) : s.input.length < bs.length := by
  unfold stepAfter at h
  split at h
  case h_3 rest hcomma =>
    exact Nat.lt_trans (length_of_stepMember h) (length_of_skipSpace hcomma)
  case h_5 => simp [breakInside] at h
  case h_6 => simp [breakInside] at h
  all_goals
    rename_i rest hmark
    simp only [ScanStep.next.injEq] at h
    subst h
    exact length_of_skipSpace hmark

theorem ScanState.length_of_step {s t : ScanState} (h : s.step = .next t) :
    t.input.length < s.input.length := by
  unfold ScanState.step at h
  split at h
  · exact length_of_stepBefore h
  · simp at h
  · exact length_of_stepAfter h

def scan (s : ScanState) : Outline × Input :=
  match _h : s.step with
  | .halt o rest => (o, rest)
  | .next t => scan t
termination_by s.input.length
decreasing_by exact ScanState.length_of_step _h

/-- The outline of the value at the beginning of a text, and the text after it. -/
def outline (bs : Input) : Outline × Input := scan ⟨none, [], bs⟩

end SessionAuth.Json
