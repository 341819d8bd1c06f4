import SessionAuth.Cookie.Reading
import SessionAuth.Cookie.Writing
import SessionAuth.Proofs.Text.Trim
import SessionAuth.Proofs.Uuid
import SessionAuth.Service.Guard

set_option autoImplicit false

/-! # A cookie that is written reads back

A client keeps the pair of name and value of the cookie it was handed, which is the text of the
cookie up to its first semicolon (`Cookie.returned`), and sends it along with its requests. Under
a *legible* name, one that survives the trimming, the cutting and the test for visible ASCII that
a reader applies, the guard finds the identifier of the session there again:
`Guard.presented?_of_returned`.
-/

namespace SessionAuth

/-! ## Text in headers -/

namespace Header

/-- The character is visible ASCII, a blank or a tab, so that a value with it may be read. -/
def IsReadable (c : Char) : Prop := (0x20 ≤ c.toNat ∧ c.toNat < 0x7F) ∨ c = '\t'

theorem utf8EncodeChar_of_isReadable {c : Char} (h : IsReadable c) :
    String.utf8EncodeChar c = [c.val.toUInt8] := by
  have hsmall : c.toNat ≤ 0x7F := by
    rcases h with h | rfl
    · omega
    · decide
  exact String.utf8EncodeChar_eq_singleton (Char.utf8Size_eq_one_iff.2 hsmall)

theorem toNat_toUInt8_of_isReadable {c : Char} (h : IsReadable c) :
    c.val.toUInt8.toNat = c.toNat := by
  have hsmall : c.toNat < 256 := by
    rcases h with h | rfl
    · omega
    · decide
  rw [UInt32.toNat_toUInt8]
  exact Nat.mod_eq_of_lt hsmall

theorem isVisible_of_isReadable {c : Char} (h : IsReadable c) :
    isVisible c.val.toUInt8 = true := by
  have hbyte := toNat_toUInt8_of_isReadable h
  rcases h with h | rfl
  · rw [isVisible, Bool.or_eq_true, Bool.and_eq_true, decide_eq_true_eq, decide_eq_true_eq,
      UInt8.le_iff_toNat_le, UInt8.lt_iff_toNat_lt, hbyte]
    exact Or.inl h
  · decide

theorem visible?_cons {c : Char} (h : IsReadable c) (bytes : List UInt8) :
    visible? (c.val.toUInt8 :: bytes) = (visible? bytes).map (c :: ·) := by
  have hchar : Char.ofNat c.val.toUInt8.toNat = c := by
    rw [toNat_toUInt8_of_isReadable h, Char.ofNat_toNat]
  simp only [visible?, List.all_cons, isVisible_of_isReadable h, Bool.true_and, List.map_cons,
    hchar]
  split <;> rfl

/-- A readable text arrives as it was sent. -/
theorem visible?_utf8 {s : String} (h : ∀ c ∈ s.toList, IsReadable c) :
    visible? (Text.utf8 s) = some s.toList := by
  rw [Text.utf8]
  generalize s.toList = cs at h
  induction cs with
  | nil => rfl
  | cons c cs ih =>
      rw [List.flatMap_cons, utf8EncodeChar_of_isReadable (h c List.mem_cons_self),
        List.singleton_append, visible?_cons (h c List.mem_cons_self),
        ih fun d hd => h d (List.mem_cons_of_mem c hd)]
      rfl

end Header

/-! ## Reading a single pair -/

namespace Cookie

/-- A name under which a pair of name and value is read as it was written. -/
structure Legible (name : String) : Prop where
  trimmed : Text.trim name.toList = name.toList
  uncut : '=' ∉ name.toList
  unsplit : ';' ∉ name.toList
  readable : ∀ c ∈ name.toList, Header.IsReadable c

/-- A character of a plain cookie name: visible ASCII other than the blank, the equals sign and
the semicolon. -/
def IsNameChar (c : Char) : Prop := 0x21 ≤ c.toNat ∧ c.toNat ≤ 0x7E ∧ c ≠ '=' ∧ c ≠ ';'

instance (c : Char) : Decidable (IsNameChar c) := by
  unfold IsNameChar
  infer_instance

theorem isBlank_of_visible {c : Char} (hlow : 0x21 ≤ c.toNat) (hhigh : c.toNat ≤ 0x7E) :
    Text.isBlank c = false := by
  simp only [Text.isBlank, Bool.or_eq_false_iff, Bool.and_eq_false_iff, decide_eq_false_iff_not,
    beq_eq_false_iff_ne]
  omega

/-- Plain names are legible. -/
theorem Legible.of_isNameChar {name : String} (h : ∀ c ∈ name.toList, IsNameChar c) :
    Legible name where
  trimmed := Text.trim_eq_self_of_forall fun c hc => isBlank_of_visible (h c hc).1 (h c hc).2.1
  uncut := fun hmem => (h _ hmem).2.2.1 rfl
  unsplit := fun hmem => (h _ hmem).2.2.2 rfl
  readable := fun c hc => Or.inl (by have := h c hc; unfold IsNameChar at this; omega)

theorem unquoted_of_not_mem {cs : List Char} (h : '"' ∉ cs) : unquoted cs = cs := by
  have hkeep : ∀ ds : List Char, '"' ∉ ds → ds.dropWhile (· == '"') = ds := by
    intro ds hds
    cases ds with
    | nil => rfl
    | cons d ds =>
        have hd : d ≠ '"' := fun heq => hds (heq ▸ List.mem_cons_self)
        simp [hd]
  rw [unquoted, hkeep cs h, hkeep cs.reverse (by simpa using h), List.reverse_reverse]

/-- A pair under a legible name is read as it was written. -/
theorem valueOf?_pair {name : String} {value : List Char} (hname : Legible name)
    (htrimmed : Text.trim value = value) (hquotes : '"' ∉ value) :
    valueOf? name (name.toList ++ '=' :: value) = some value := by
  have hsegment : Text.trim (name.toList ++ '=' :: value) = name.toList ++ '=' :: value :=
    Text.trim_append_cons hname.trimmed htrimmed (by decide)
  have hcut : Text.cutAt? '=' (name.toList ++ '=' :: value) = some (name.toList, value) :=
    Text.cutAt?_eq_some_iff.2 ⟨rfl, hname.uncut⟩
  rw [valueOf?, pair?, hsegment, hcut]
  simp [hname.trimmed, htrimmed, unquoted_of_not_mem hquotes]

/-- The marks of an identifier pass every test of a reader. -/
theorem reads_isMark {c : Char} (h : Uuid.IsMark c) :
    Header.IsReadable c ∧ Text.isBlank c = false ∧ c ≠ ';' ∧ c ≠ '"' := by
  rcases h with rfl | ⟨d, rfl⟩
  · unfold Header.IsReadable
    decide
  · unfold Header.IsReadable
    revert d
    decide

/-- The only `Cookie` header of a request holds an identifier under a name. -/
def Carries (hs : Headers) (name : String) (id : Uuid) : Prop :=
  hs.getAll "cookie" = [Text.utf8 (name ++ "=" ++ id.text)]

/-- Such a header is read as the text of the identifier. -/
theorem value?_of_carries {name : String} {id : Uuid} {hs : Headers} (hname : Legible name)
    (h : Carries hs name id) : value? name hs = some id.text := by
  have hchars : (name ++ "=" ++ id.text).toList = name.toList ++ '=' :: id.text.toList := by
    simp
  have hreadable : ∀ c ∈ (name ++ "=" ++ id.text).toList, Header.IsReadable c := by
    intro c hc
    rw [hchars, List.mem_append, List.mem_cons] at hc
    rcases hc with hc | rfl | hc
    · exact hname.readable c hc
    · exact Or.inl (by decide)
    · exact (reads_isMark (Uuid.isMark_of_mem_text hc)).1
  have hone : ';' ∉ name.toList ++ '=' :: id.text.toList := by
    rw [List.mem_append, List.mem_cons]
    rintro (hc | hc | hc)
    · exact hname.unsplit hc
    · cases hc
    · exact (reads_isMark (Uuid.isMark_of_mem_text hc)).2.2.1 rfl
  -- the one header is readable and holds no semicolon, so it is a single segment
  have hsegments : segments hs = [name.toList ++ '=' :: id.text.toList] := by
    rw [segments, h, List.filterMap_cons_some (Header.visible?_utf8 hreadable), hchars]
    simp [Text.splitAt_of_not_mem hone]
  have hvalue : valueOf? name (name.toList ++ '=' :: id.text.toList) = some id.text.toList := by
    refine valueOf?_pair hname (Text.trim_eq_self_of_forall fun c hc => ?_) fun hc => ?_
    · exact (reads_isMark (Uuid.isMark_of_mem_text hc)).2.1
    · exact (reads_isMark (Uuid.isMark_of_mem_text hc)).2.2.2 rfl
  have hnonempty : id.text.toList.isEmpty = false :=
    List.isEmpty_eq_false_iff.2 (Uuid.toList_text_ne_nil id)
  rw [value?, hsegments, List.findSome?_singleton, hvalue]
  simp only [hnonempty, Bool.false_eq_true, if_false, String.ofList_toList]

/-! ## What a client sends back -/

/-- What a client keeps of a cookie: the pair of name and value, which is its text up to the first
semicolon. -/
def returned (cookie : String) : String :=
  String.ofList (cookie.toList.takeWhile (· != ';'))

end Cookie

namespace CookieSettings

/-- What was written is the attributes of the cookie. -/
theorem eq_of_write_eq_ok {s : CookieSettings} {value cookie : String} {expires : Instant}
    {maxAge : Int} (h : s.write value expires maxAge = .ok cookie) :
    cookie = "; ".intercalate (s.attributes value expires maxAge) := by
  simp only [write] at h
  split at h
  · exact (Except.ok.inj h).symm
  · cases h

/-- What a client keeps of a cookie that hands out a session is the identifier of the session
under the name of the cookie. -/
theorem returned_of_issue {s : CookieSettings} {session : Session} {now : Instant}
    {cookie : String} (hname : ';' ∉ s.name.toList) (h : s.issue session now = .ok cookie) :
    Cookie.returned cookie = s.name ++ "=" ++ session.id.text := by
  -- neither the name nor the identifier holds a semicolon, and one stands right after them
  have hpair : ∀ c ∈ (s.name ++ "=" ++ session.id.text).toList, (c != ';') = true := by
    intro c hc
    rw [bne_iff_ne]
    rintro rfl
    simp only [String.toList_append, List.mem_append] at hc
    rcases hc with (hc | hc) | hc
    · exact hname hc
    · exact absurd hc (by decide)
    · exact (Cookie.reads_isMark (Uuid.isMark_of_mem_text hc)).2.2.1 rfl
  obtain ⟨rest, hrest⟩ : ∃ rest, cookie = s.name ++ "=" ++ session.id.text ++ "; " ++ rest := by
    rw [eq_of_write_eq_ok h]
    simp only [attributes, List.cons_append]
    exact ⟨_, String.intercalate_cons_cons⟩
  have hcut : cookie.toList.takeWhile (· != ';') = (s.name ++ "=" ++ session.id.text).toList := by
    rw [hrest, String.append_assoc, String.toList_append,
      List.takeWhile_append_of_pos hpair]
    simp
  rw [Cookie.returned, hcut, String.ofList_toList]

end CookieSettings

namespace Guard

/-- **A cookie that is written reads back**: a request with the pair of a cookie that hands out a
session presents the identifier of this session. -/
theorem presented?_of_returned {s : CookieSettings} {session : Session} {now : Instant}
    {cookie : String} {hs : Headers} (hname : Cookie.Legible s.name)
    (hissue : s.issue session now = .ok cookie)
    (hsent : hs.getAll "cookie" = [Text.utf8 (Cookie.returned cookie)]) :
    presented? s.name hs = some session.id := by
  have hcarries : Cookie.Carries hs s.name session.id := by
    rw [Cookie.Carries, hsent, CookieSettings.returned_of_issue hname.unsplit hissue]
  calc presented? s.name hs = (some session.id.text).bind Uuid.ofText? := by
        rw [presented?, Cookie.value?_of_carries hname hcarries]
    _ = some session.id := by rw [Option.bind_some, Uuid.ofText?_text]

end Guard

end SessionAuth
