import SessionAuth.Proofs.Json.Grammar
import SessionAuth.Proofs.Text.Numerals

set_option autoImplicit false

/-! # Scanning follows the grammar

The machine that makes outlines stands before a text that writes a value, and comes to stand after
it with the outline of that value, inside of whatever arrays and objects it is
(`Json.scan_of_writes`). What follows must not be more of a number, which is the only value without
a mark at its end. So the reader of a whole text looks for the wanted value in the outline of what
the text writes (`Json.readAll_of_writes`).
-/

namespace SessionAuth.Json

/-! ## Strings -/

/-- A string ends at its quote. -/
theorem scanString_of_takes {s t : StringState} {bs : Input} (h : Takes s bs t) (rest : Input) :
    scanString s (bs ++ 0x22 :: rest) = .complete t.finish rest := by
  induction h with
  | nil => rw [List.nil_append, scanString]
  | @plain s t b bs hcontrol hquote hbackslash _ ih =>
      rw [List.cons_append, scanString]
      · rw [if_neg hcontrol, ih]
      all_goals simp [hquote, hbackslash]
  | @letter s t b e bs hletter _ ih =>
      have hunit : b ≠ 0x75 := by
        rintro rfl
        cases hletter
      rw [List.cons_append, List.cons_append, scanString]
      · simp only [hletter, ih]
      all_goals simp [hunit]
  | unit hunit _ ih =>
      simp only [List.cons_append]
      rw [scanString]
      simp only [hunit, ih]

/-! ## Numbers -/

/-- The text does not go on with more of a number. -/
def StopsNumber (bs : Input) : Prop :=
  ∀ b ∈ bs.head?, isDigit b = false ∧ b ≠ 0x2E ∧ b ≠ 0x65 ∧ b ≠ 0x45

def StopsDigits (bs : Input) : Prop := ∀ b ∈ bs.head?, isDigit b = false

theorem StopsNumber.stopsDigits {bs : Input} (h : StopsNumber bs) : StopsDigits bs :=
  fun b hb => (h b hb).1

section Scanning

variable {p : NumberParts} {rest : Input}

theorem scanExponent_append {sign ds : Input} {negative : Bool} (hsign : IsSign sign negative)
    (h : IsDigits ds) (hrest : StopsDigits rest) :
    scanExponent p (sign ++ (ds ++ rest)) =
      .complete { p with exponent := some (negative, ds) }.value rest := by
  have htake := Text.takeWhile_append_of_stop h.digits hrest
  have hdrop := Text.dropWhile_append_of_stop h.digits hrest
  cases ds with
  | nil => exact absurd rfl h.nonempty
  | cons d ds =>
      have hd : isDigit d = true := h.digits d List.mem_cons_self
      simp only [List.cons_append] at htake hdrop ⊢
      cases hsign with
      | none =>
          rw [List.nil_append]
          unfold scanExponent
          split
          next negative bs heq =>
          -- a digit is no sign
          split at heq
          · next hd' =>
            cases hd'
            cases hd
          · next hd' =>
            cases hd'
            cases hd
          · cases heq
            simp only [if_pos hd, htake, hdrop]
      | plus =>
          simp only [scanExponent, List.cons_append, List.nil_append, if_pos hd, htake, hdrop]
      | minus =>
          simp only [scanExponent, List.cons_append, List.nil_append, if_pos hd, htake, hdrop]

theorem scanAfterDigits_append {exponent : Input} {power : Option (Bool × List UInt8)}
    (hp : p.exponent = none) (h : IsExponent exponent power) (hrest : StopsNumber rest) :
    scanAfterDigits p (exponent ++ rest) = .complete { p with exponent := power }.value rest := by
  cases h with
  | none =>
      have hsame : { p with exponent := none } = p := by
        rw [← hp]
      rw [List.nil_append, hsame]
      unfold scanAfterDigits
      split
      · next b rest =>
        obtain ⟨-, -, he, hE⟩ := hrest b rfl
        rw [if_neg (by simp [he, hE])]
      · rfl
  | some he hsign hdigits =>
      simp only [scanAfterDigits, List.cons_append, List.append_assoc, if_pos he]
      exact scanExponent_append hsign hdigits hrest.stopsDigits

/-- An exponent, or what follows a number without one, begins neither with a digit nor with a
point. -/
theorem IsExponent.head {exponent : Input} {power : Option (Bool × List UInt8)}
    (h : IsExponent exponent power) (hrest : StopsNumber rest) :
    ∀ b ∈ (exponent ++ rest).head?, isDigit b = false ∧ b ≠ 0x2E := by
  cases h with
  | none => exact fun b hb => ⟨(hrest b hb).1, (hrest b hb).2.1⟩
  | some he hsign hdigits =>
      intro b hb
      cases hb
      rcases he with rfl | rfl
      · decide
      · decide

theorem scanAfterInteger_append {fraction exponent : Input} {places : List UInt8}
    {power : Option (Bool × List UInt8)} (hp : p.fraction = [] ∧ p.exponent = none)
    (hfraction : IsFraction fraction places) (hexponent : IsExponent exponent power)
    (hrest : StopsNumber rest) :
    scanAfterInteger p (fraction ++ (exponent ++ rest)) =
      .complete { p with fraction := places, exponent := power }.value rest := by
  cases hfraction with
  | none =>
      have hsame : { p with fraction := [], exponent := power } = { p with exponent := power } := by
        rw [← hp.1]
      have hhead := hexponent.head hrest
      rw [List.nil_append, hsame, ← scanAfterDigits_append hp.2 hexponent hrest]
      generalize exponent ++ rest = bs at hhead ⊢
      unfold scanAfterInteger
      split
      · exact absurd rfl (hhead 0x2E rfl).2
      · rfl
  | some hdigits =>
      have hstops : StopsDigits (exponent ++ rest) := fun b hb => (hexponent.head hrest b hb).1
      have htake := Text.takeWhile_append_of_stop hdigits.digits hstops
      have hdrop := Text.dropWhile_append_of_stop hdigits.digits hstops
      cases places with
      | nil => exact absurd rfl hdigits.nonempty
      | cons d ds =>
          have hd : isDigit d = true := hdigits.digits d List.mem_cons_self
          simp only [List.cons_append] at htake hdrop ⊢
          simp only [scanAfterInteger, if_pos hd, htake, hdrop]
          exact scanAfterDigits_append hp.2 hexponent hrest

end Scanning

/-- **A number is scanned to its end.** -/
theorem scanNumber_append {bs rest : Input} {p : NumberParts} (h : IsNumber bs p)
    (hrest : StopsNumber rest) : scanNumber p.negative (bs ++ rest) = .complete p.value rest := by
  cases h with
  | @parts negative integer fraction exponent places power hinteger hfraction hexponent =>
  have hhead : ∀ b ∈ (fraction ++ (exponent ++ rest)).head?, isDigit b = false := by
    cases hfraction with
    | none => exact fun b hb => (hexponent.head hrest b hb).1
    | some hdigits =>
        intro b hb
        cases hb
        rfl
  have hafter : scanAfterInteger ⟨negative, integer, [], none⟩ (fraction ++ (exponent ++ rest)) =
      .complete (NumberParts.value ⟨negative, integer, places, power⟩) rest :=
    scanAfterInteger_append ⟨rfl, rfl⟩ hfraction hexponent hrest
  have htake := Text.takeWhile_append_of_stop hinteger.digits hhead
  have hdrop := Text.dropWhile_append_of_stop hinteger.digits hhead
  rw [List.append_assoc, List.append_assoc]
  generalize fraction ++ (exponent ++ rest) = tail at hhead hafter htake hdrop ⊢
  cases integer with
  | nil => exact absurd rfl hinteger.nonempty
  | cons d ds =>
      have hd : isDigit d = true := hinteger.digits d List.mem_cons_self
      rw [List.cons_append] at htake hdrop ⊢
      unfold scanNumber
      by_cases hzero : d = 0x30
      · subst hzero
        have hds : ds = [] := by
          rcases hinteger.first with h | h
          · exact (List.cons.inj h).2
          · exact absurd rfl h
        subst hds
        simp only [List.nil_append, if_pos]
        cases tail with
        | nil => exact hafter
        | cons b tail =>
            have hb : ¬ isDigit b = true := by simp [hhead b rfl]
            simp only [if_neg hb]
            exact hafter
      · simp only [if_neg hzero, if_pos hd, htake, hdrop]
        exact hafter

/-! ## Values -/

theorem scan_of_step {s t : ScanState} (h : s.step = .next t) : scan s = scan t := by
  rw [scan]
  split
  · next heq =>
    rw [h] at heq
    cases heq
  · next heq =>
    rw [h] at heq
    cases heq
    rfl

theorem skipSpace_append {bs : Input} (h : Blank bs) (rest : Input) :
    skipSpace (bs ++ rest) = skipSpace rest :=
  List.dropWhile_append_of_pos h

theorem skipSpace_cons {b : UInt8} (h : isSpace b = false) (rest : Input) :
    skipSpace (b :: rest) = b :: rest := by
  simp [skipSpace, h]

theorem stopsNumber_of_blank {bs : Input} (h : Blank bs) : StopsNumber bs := by
  intro b hb
  have hspace : isSpace b = true := h b (List.mem_of_mem_head? hb)
  simp only [isSpace, Bool.or_eq_true, beq_iff_eq] at hspace
  rcases hspace with ((rfl | rfl) | rfl) | rfl
  all_goals decide

/-- Blanks and then a mark of an array or an object are not more of a number. -/
theorem stopsNumber_append {bs : Input} {b : UInt8} (h : Blank bs)
    (hb : isDigit b = false ∧ b ≠ 0x2E ∧ b ≠ 0x65 ∧ b ≠ 0x45) (rest : Input) :
    StopsNumber (bs ++ b :: rest) := by
  cases bs with
  | nil =>
      intro c hc
      cases hc
      exact hb
  | cons c bs => exact fun d hd => stopsNumber_of_blank h d hd

/-- Standing before the text and any blanks, the machine comes to stand after the text, whatever
follows that is not more of a number, and whatever it is inside of. -/
def ScansTo (bs : Input) (o : Outline) : Prop :=
  ∀ (stack : List Frame) (before rest : Input), Blank before → StopsNumber rest →
    scan ⟨none, stack, before ++ (bs ++ rest)⟩ = scan ⟨some o, stack, rest⟩

section Frames

variable {stack : List Frame} {rest : Input}

theorem stopsNumber_items (is : List Item) {after : Input} (h : Blank after) :
    StopsNumber (after ++ (Item.tailBytes is ++ rest)) := by
  cases is with
  | nil => exact stopsNumber_append h (by decide) _
  | cons i is => exact stopsNumber_append h (by decide) _

theorem stopsNumber_members (ms : List Member) {after : Input} (h : Blank after) :
    StopsNumber (after ++ (Member.tailBytes ms ++ rest)) := by
  cases ms with
  | nil => exact stopsNumber_append h (by decide) _
  | cons m ms => exact stopsNumber_append h (by decide) _

theorem scan_items (is : List Item) (hspaced : ∀ i ∈ is, i.Spaced)
    (h : ∀ i ∈ is, ScansTo i.text i.outline) {after : Input} (hafter : Blank after)
    (o : Outline) (done : List Outline) :
    scan ⟨some o, .array done :: stack, after ++ (Item.tailBytes is ++ rest)⟩ =
      scan ⟨some (.array (done.reverse ++ o :: is.map Item.outline) none), stack, rest⟩ := by
  -- the items before are in the frame, last first, and the one just read is not yet
  induction is generalizing o done after with
  | nil =>
      have hskip : skipSpace (after ++ (Item.tailBytes [] ++ rest)) = 0x5D :: rest := by
        rw [skipSpace_append hafter]
        exact skipSpace_cons (by decide) rest
      refine scan_of_step ?_
      simp [ScanState.step, stepAfter, hskip, Frame.close]
  | cons i is ih =>
      obtain ⟨⟨hbefore, hafterItem⟩, hspaced⟩ := List.forall_mem_cons.1 hspaced
      obtain ⟨hitem, h⟩ := List.forall_mem_cons.1 h
      have hskip : skipSpace (after ++ (Item.tailBytes (i :: is) ++ rest)) =
          0x2C :: (i.before ++ (i.text ++ (i.after ++ (Item.tailBytes is ++ rest)))) := by
        rw [skipSpace_append hafter]
        simp only [Item.tailBytes, Item.bytes, List.cons_append, List.append_assoc]
        exact skipSpace_cons (by decide) _
      have hstep : ScanState.step ⟨some o, .array done :: stack,
          after ++ (Item.tailBytes (i :: is) ++ rest)⟩ = .next ⟨none, .array (o :: done) :: stack,
            i.before ++ (i.text ++ (i.after ++ (Item.tailBytes is ++ rest)))⟩ := by
        simp [ScanState.step, stepAfter, hskip]
      calc scan ⟨some o, .array done :: stack, after ++ (Item.tailBytes (i :: is) ++ rest)⟩
          = scan ⟨none, .array (o :: done) :: stack,
              i.before ++ (i.text ++ (i.after ++ (Item.tailBytes is ++ rest)))⟩ :=
            scan_of_step hstep
        _ = scan ⟨some i.outline, .array (o :: done) :: stack,
              i.after ++ (Item.tailBytes is ++ rest)⟩ :=
            hitem _ _ _ hbefore (stopsNumber_items is hafterItem)
        _ = scan ⟨some (.array ((o :: done).reverse ++ i.outline :: is.map Item.outline) none),
              stack, rest⟩ := ih hspaced h hafterItem _ _
        _ = scan ⟨some (.array (done.reverse ++ o :: (i :: is).map Item.outline) none),
              stack, rest⟩ := by simp

theorem scan_array {i : Item} {is : List Item} (hspaced : ∀ j ∈ i :: is, j.Spaced)
    (hwrites : Writes i.text i.outline) (h : ∀ j ∈ i :: is, ScansTo j.text j.outline) :
    ScansTo (0x5B :: (i.bytes ++ Item.tailBytes is))
      (.array ((i :: is).map Item.outline) none) := by
  intro stack before rest hbefore _
  obtain ⟨hi, his⟩ := List.forall_mem_cons.1 hspaced
  obtain ⟨hitem, hitems⟩ := List.forall_mem_cons.1 h
  obtain ⟨b, tail, htext, hb, hclose, -⟩ := hwrites.exists_cons
  have htail : i.bytes ++ Item.tailBytes is ++ rest =
      i.before ++ (i.text ++ (i.after ++ (Item.tailBytes is ++ rest))) := by
    simp only [Item.bytes, List.append_assoc]
  have hskip : skipSpace (before ++ (0x5B :: (i.bytes ++ Item.tailBytes is) ++ rest)) =
      0x5B :: (i.bytes ++ Item.tailBytes is ++ rest) := by
    rw [skipSpace_append hbefore]
    exact skipSpace_cons (by decide) _
  -- the first item does not begin with the bracket that would close the array
  have hskip' : skipSpace (i.bytes ++ Item.tailBytes is ++ rest) =
      b :: (tail ++ (i.after ++ (Item.tailBytes is ++ rest))) := by
    rw [htail, skipSpace_append hi.1, htext]
    exact skipSpace_cons hb _
  have hstep : ScanState.step
      ⟨none, stack, before ++ (0x5B :: (i.bytes ++ Item.tailBytes is) ++ rest)⟩ =
        .next ⟨none, .array [] :: stack, i.bytes ++ Item.tailBytes is ++ rest⟩ := by
    simp only [ScanState.step, stepBefore, hskip, hskip']
    split
    · next heq => exact absurd (List.cons.inj heq).1 hclose
    · rfl
  calc scan ⟨none, stack, before ++ (0x5B :: (i.bytes ++ Item.tailBytes is) ++ rest)⟩
      = scan ⟨none, .array [] :: stack, i.bytes ++ Item.tailBytes is ++ rest⟩ := scan_of_step hstep
    _ = scan ⟨some i.outline, .array [] :: stack, i.after ++ (Item.tailBytes is ++ rest)⟩ := by
        rw [htail, hitem _ _ _ hi.1 (stopsNumber_items is hi.2)]
    _ = scan ⟨some (.array ((i :: is).map Item.outline) none), stack, rest⟩ :=
        scan_items is his hitems hi.2 _ _

/-- The machine reads the name of a member and the colon behind it. -/
theorem stepMember_append {m : Member} (hspaced : m.Spaced) (hname : IsString m.nameText m.name)
    (done : List (Except Trouble String × Outline)) :
    stepMember stack done (m.before ++ (m.nameText ++ (m.between ++ 0x3A :: rest))) =
      .next ⟨none, .object done m.name :: stack, rest⟩ := by
  generalize m.nameText = text, m.name = name at hname
  cases hname with
  | @quoted bs s htakes =>
      have hskip : skipSpace (m.before ++ (0x22 :: (bs ++ [0x22]) ++ (m.between ++ 0x3A :: rest))) =
          0x22 :: (bs ++ 0x22 :: (m.between ++ 0x3A :: rest)) := by
        rw [skipSpace_append hspaced.before]
        simp only [List.cons_append, List.append_assoc, List.nil_append]
        exact skipSpace_cons (by decide) _
      have hcolon : skipSpace (m.between ++ 0x3A :: rest) = 0x3A :: rest := by
        rw [skipSpace_append hspaced.between]
        exact skipSpace_cons (by decide) rest
      simp only [stepMember, hskip, stepName, scanString_of_takes htakes, hcolon]

theorem scan_members (ms : List Member) (hspaced : ∀ m ∈ ms, m.Spaced)
    (hnames : ∀ m ∈ ms, IsString m.nameText m.name)
    (h : ∀ m ∈ ms, ScansTo m.value.text m.value.outline) {after : Input} (hafter : Blank after)
    (o : Outline) (name : Except Trouble String) (done : List (Except Trouble String × Outline)) :
    scan ⟨some o, .object done name :: stack, after ++ (Member.tailBytes ms ++ rest)⟩ =
      scan ⟨some (.object (done.reverse ++ (name, o) :: ms.map Member.outline) none), stack,
        rest⟩ := by
  induction ms generalizing o name done after with
  | nil =>
      have hskip : skipSpace (after ++ (Member.tailBytes [] ++ rest)) = 0x7D :: rest := by
        rw [skipSpace_append hafter]
        exact skipSpace_cons (by decide) rest
      refine scan_of_step ?_
      simp [ScanState.step, stepAfter, hskip, Frame.close]
  | cons m ms ih =>
      obtain ⟨hm, hspaced⟩ := List.forall_mem_cons.1 hspaced
      obtain ⟨hname, hnames⟩ := List.forall_mem_cons.1 hnames
      obtain ⟨hvalue, h⟩ := List.forall_mem_cons.1 h
      obtain ⟨tail, htail⟩ : ∃ tail, tail =
          m.value.before ++ (m.value.text ++ (m.value.after ++ (Member.tailBytes ms ++ rest))) :=
        ⟨_, rfl⟩
      have hskip : skipSpace (after ++ (Member.tailBytes (m :: ms) ++ rest)) =
          0x2C :: (m.before ++ (m.nameText ++ (m.between ++ 0x3A :: tail))) := by
        rw [skipSpace_append hafter, htail]
        simp only [Member.tailBytes, Member.bytes, Item.bytes, List.cons_append, List.append_assoc]
        exact skipSpace_cons (by decide) _
      have hstep : ScanState.step ⟨some o, .object done name :: stack,
          after ++ (Member.tailBytes (m :: ms) ++ rest)⟩ =
            .next ⟨none, .object ((name, o) :: done) m.name :: stack, tail⟩ := by
        simp only [ScanState.step, stepAfter, hskip]
        exact stepMember_append hm hname _
      calc scan ⟨some o, .object done name :: stack,
            after ++ (Member.tailBytes (m :: ms) ++ rest)⟩
          = scan ⟨none, .object ((name, o) :: done) m.name :: stack, tail⟩ := scan_of_step hstep
        _ = scan ⟨some m.value.outline, .object ((name, o) :: done) m.name :: stack,
              m.value.after ++ (Member.tailBytes ms ++ rest)⟩ := by
            rw [htail, hvalue _ _ _ hm.value.1 (stopsNumber_members ms hm.value.2)]
        _ = scan ⟨some (.object (((name, o) :: done).reverse ++
              m.outline :: ms.map Member.outline) none), stack, rest⟩ :=
            ih hspaced hnames h hm.value.2 _ _ _
        _ = scan ⟨some (.object (done.reverse ++ (name, o) :: (m :: ms).map Member.outline) none),
              stack, rest⟩ := by simp

theorem scan_object {m : Member} {ms : List Member} (hspaced : ∀ n ∈ m :: ms, n.Spaced)
    (hnames : ∀ n ∈ m :: ms, IsString n.nameText n.name)
    (h : ∀ n ∈ m :: ms, ScansTo n.value.text n.value.outline) :
    ScansTo (0x7B :: (m.bytes ++ Member.tailBytes ms))
      (.object ((m :: ms).map Member.outline) none) := by
  intro stack before rest hbefore _
  obtain ⟨hm, hms⟩ := List.forall_mem_cons.1 hspaced
  obtain ⟨hname, hnames⟩ := List.forall_mem_cons.1 hnames
  obtain ⟨hvalue, hvalues⟩ := List.forall_mem_cons.1 h
  obtain ⟨tail, htail⟩ : ∃ tail, tail =
      m.value.before ++ (m.value.text ++ (m.value.after ++ (Member.tailBytes ms ++ rest))) :=
    ⟨_, rfl⟩
  have hbytes : m.bytes ++ Member.tailBytes ms ++ rest =
      m.before ++ (m.nameText ++ (m.between ++ 0x3A :: tail)) := by
    simp only [htail, Member.bytes, Item.bytes, List.append_assoc, List.cons_append]
  have hskip : skipSpace (before ++ (0x7B :: (m.bytes ++ Member.tailBytes ms) ++ rest)) =
      0x7B :: (m.bytes ++ Member.tailBytes ms ++ rest) := by
    rw [skipSpace_append hbefore]
    exact skipSpace_cons (by decide) _
  -- the first name begins with a quote, not with the bracket that would close the object
  obtain ⟨quoted, hquoted⟩ : ∃ quoted,
      skipSpace (m.bytes ++ Member.tailBytes ms ++ rest) = 0x22 :: quoted := by
    rw [hbytes, skipSpace_append hm.before]
    generalize m.nameText = text, m.name = name at hname
    cases hname with
    | quoted _ => exact ⟨_, skipSpace_cons (by decide) _⟩
  have hstep : ScanState.step
      ⟨none, stack, before ++ (0x7B :: (m.bytes ++ Member.tailBytes ms) ++ rest)⟩ =
        .next ⟨none, .object [] m.name :: stack, tail⟩ := by
    simp only [ScanState.step, stepBefore, hskip, hquoted]
    rw [hbytes]
    exact stepMember_append hm hname _
  calc scan ⟨none, stack, before ++ (0x7B :: (m.bytes ++ Member.tailBytes ms) ++ rest)⟩
      = scan ⟨none, .object [] m.name :: stack, tail⟩ := scan_of_step hstep
    _ = scan ⟨some m.value.outline, .object [] m.name :: stack,
          m.value.after ++ (Member.tailBytes ms ++ rest)⟩ := by
        rw [htail, hvalue _ _ _ hm.value.1 (stopsNumber_members ms hm.value.2)]
    _ = scan ⟨some (.object ((m :: ms).map Member.outline) none), stack, rest⟩ :=
        scan_members ms hms hnames hvalues hm.value.2 _ _ _

end Frames

/-- A value in one piece is read in one step. -/
theorem scansTo_of_stepBefore {bs : Input} {o : Outline} {b : UInt8} {tail : Input}
    (hbs : bs = b :: tail) (hb : isSpace b = false)
    (h : ∀ stack rest, StopsNumber rest → ∀ input, skipSpace input = b :: (tail ++ rest) →
      stepBefore stack input = .next ⟨some o, stack, rest⟩) : ScansTo bs o := by
  intro stack before rest hbefore hrest
  have hskip : skipSpace (before ++ (bs ++ rest)) = b :: (tail ++ rest) := by
    rw [skipSpace_append hbefore, hbs]
    exact skipSpace_cons hb _
  exact scan_of_step (h stack rest hrest _ hskip)

theorem scan_string {bs : Input} {v : Except Trouble String} (h : IsString bs v) :
    ScansTo bs (.string v) := by
  cases h with
  | @quoted bs s htakes =>
      refine scansTo_of_stepBefore rfl (by decide) fun stack rest _ input hskip => ?_
      rw [List.append_assoc] at hskip
      simp only [stepBefore, hskip, List.cons_append, List.nil_append, scanString_of_takes htakes,
        stepScanned]

/-- A number without a sign begins with a digit, and so with no mark of another value. -/
theorem scan_unsigned {bs : Input} {p : NumberParts} (h : IsNumber bs p)
    (hsign : p.negative = false) : ScansTo bs (.number p.value) := by
  obtain ⟨d, tail, rfl, hd⟩ := h.exists_cons
  refine scansTo_of_stepBefore rfl (isSpace_of_isDigit hd) fun stack rest hrest input hskip => ?_
  have hscan : scanNumber false (d :: (tail ++ rest)) = .complete p.value rest :=
    hsign ▸ scanNumber_append h hrest
  unfold stepBefore
  rw [hskip]
  split
  case h_9 b rest' _ _ _ _ _ _ _ heq =>
    cases heq
    rw [if_pos hd, hscan]
    rfl
  case h_1 heq => cases heq
  all_goals
    next heq =>
    cases heq
    cases hd

/-- **The machine follows the grammar.** -/
theorem scan_of_writes {bs : Input} {o : Outline} (h : Writes bs o) : ScansTo bs o := by
  induction h with
  | null | yes | no =>
      refine scansTo_of_stepBefore rfl (by decide) fun stack rest _ input hskip => ?_
      simp [stepBefore, hskip, stepWord, expect]
  | unsigned h hsign => exact scan_unsigned h hsign
  | @negative bs p h hsign =>
      refine scansTo_of_stepBefore rfl (by decide) fun stack rest hrest input hskip => ?_
      have hscan : scanNumber true (bs ++ rest) = .complete p.value rest :=
        hsign ▸ scanNumber_append h hrest
      simp only [stepBefore, hskip, hscan, stepScanned]
  | string h => exact scan_string h
  | @emptyArray bs h =>
      refine scansTo_of_stepBefore rfl (by decide) fun stack rest _ input hskip => ?_
      have hclose : skipSpace (bs ++ [0x5D] ++ rest) = 0x5D :: rest := by
        rw [List.append_assoc, skipSpace_append h]
        exact skipSpace_cons (by decide) rest
      simp only [stepBefore, hskip, hclose]
  | array i is hspaced hwrites ih =>
      exact scan_array hspaced (hwrites i List.mem_cons_self) ih
  | @emptyObject bs h =>
      refine scansTo_of_stepBefore rfl (by decide) fun stack rest _ input hskip => ?_
      have hclose : skipSpace (bs ++ [0x7D] ++ rest) = 0x7D :: rest := by
        rw [List.append_assoc, skipSpace_append h]
        exact skipSpace_cons (by decide) rest
      simp only [stepBefore, hskip, hclose]
  | object m ms hspaced hnames _ ih => exact scan_object hspaced hnames ih

/-- **The outline of a text is that of the value it writes**, whatever follows that is not more of a
number. -/
theorem outline_of_writes {bs before rest : Input} {o : Outline} (h : Writes bs o)
    (hbefore : Blank before) (hrest : StopsNumber rest) :
    outline (before ++ (bs ++ rest)) = (o, rest) := by
  have hhalt : scan ⟨some o, [], rest⟩ = (o, rest) := by
    rw [scan]
    rfl
  rw [outline, scan_of_writes h [] before rest hbefore hrest, hhalt]

/-- What a text writes is what is read from its beginning. -/
theorem readFirst_of_writes {α : Type} {d : Decoder α} {a : α} {bs before rest : Input}
    {o : Outline} (h : Writes bs o) (hbefore : Blank before) (hrest : StopsNumber rest) (hread : d o = .ok a) :
    readFirst d (before ++ (bs ++ rest)) = .ok a := by
  rw [readFirst, outline_of_writes h hbefore hrest, hread]

/-- **What a whole text writes is what is read from it.** -/
theorem readAll_of_writes {α : Type} {d : Decoder α} {a : α} {bs before after : Input} {o : Outline}
    (h : Writes bs o) (hbefore : Blank before) (hafter : Blank after) (hread : d o = .ok a) :
    readAll d (before ++ (bs ++ after)) = .ok a := by
  have hend : skipSpace after = [] := by
    rw [← List.append_nil after, skipSpace_append hafter]
    rfl
  simp only [readAll, outline_of_writes h hbefore (stopsNumber_of_blank hafter), hread, hend]
  rfl

end SessionAuth.Json
