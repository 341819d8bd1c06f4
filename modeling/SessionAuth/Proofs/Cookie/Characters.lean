import SessionAuth.Cookie.Writing
import SessionAuth.Proofs.Cookie.RoundTrip
import SessionAuth.Proofs.Text.Numerals
import SessionAuth.Proofs.Time.HttpDate

set_option autoImplicit false

/-! # When a cookie can be written

A cookie can be written if no character of its text is a control character other than the tab.
Identifiers, dates, numbers and the names of the attributes hold no such character, so that it all
depends on the settings: whether a session can be handed out or taken back is decided by the name
and the domain of the cookie (`CookieSettings.Writable`), whatever the session and the moment.
-/

namespace SessionAuth

/-! ## Texts without control characters -/

namespace Header

/-- Every character of the text may stand in a header that is written. -/
def Writable (s : String) : Prop := ∀ c ∈ s.toList, isWritable c = true

instance (s : String) : Decidable (Writable s) := List.decidableBAll _ s.toList

@[simp] theorem writable_append {a b : String} :
    Writable (a ++ b) ↔ Writable a ∧ Writable b := by
  simp only [Writable, String.toList_append, List.mem_append]
  constructor
  · intro h
    exact ⟨fun c hc => h c (Or.inl hc), fun c hc => h c (Or.inr hc)⟩
  · rintro ⟨ha, hb⟩ c (hc | hc)
    · exact ha c hc
    · exact hb c hc

/-- Parts with a writable mark between them are writable exactly if each of them is. -/
theorem writable_intercalate {mark : String} (hmark : Writable mark) {parts : List String} :
    Writable (mark.intercalate parts) ↔ ∀ s ∈ parts, Writable s := by
  induction parts with
  | nil => simp [Writable]
  | cons s rest ih =>
      cases rest with
      | nil => simp
      | cons t rest =>
          rw [String.intercalate_cons_cons, writable_append, writable_append, ih]
          simp only [List.mem_cons, forall_eq_or_imp]
          constructor
          · rintro ⟨⟨hs, -⟩, hrest⟩
            exact ⟨hs, hrest⟩
          · rintro ⟨hs, hrest⟩
            exact ⟨⟨hs, hmark⟩, hrest⟩

/-! ### Numbers -/

theorem isWritable_of_isDigit {c : Char} (h : Text.isDigit c = true) : isWritable c = true := by
  rw [Text.isDigit_iff] at h
  simp only [isWritable, Bool.or_eq_true, Bool.and_eq_true, decide_eq_true_eq, bne_iff_ne]
  omega

theorem writable_integerText (n : Int) : Writable (Text.integerText n) := by
  intro c hc
  rcases Text.of_mem_integerText hc with hdigit | rfl
  · exact isWritable_of_isDigit hdigit
  · decide

/-! ### Dates and identifiers -/

theorem writable_httpDate (t : Instant) : Writable t.httpDate :=
  t.forall_mem_httpDate (fun _ => isWritable_of_isDigit) (List.all_eq_true.1 (by decide))

theorem isWritable_of_isReadable {c : Char} (h : IsReadable c) : isWritable c = true := by
  simp only [isWritable, Bool.or_eq_true, Bool.and_eq_true, decide_eq_true_eq, bne_iff_ne,
    beq_iff_eq]
  rcases h with h | rfl
  · left
    omega
  · exact Or.inr rfl

theorem writable_text (id : Uuid) : Writable id.text := fun _ hc =>
  isWritable_of_isReadable (Cookie.reads_isMark (Uuid.isMark_of_mem_text hc)).1

end Header

/-! ## Cookies -/

namespace CookieSettings

/-- The name and the domain of the cookie may stand in a header. -/
def Writable (s : CookieSettings) : Prop :=
  Header.Writable s.name ∧ ∀ domain ∈ s.domain, Header.Writable domain

instance (s : CookieSettings) : Decidable s.Writable := by
  unfold Writable
  infer_instance

variable {s : CookieSettings} {value : String}

theorem attributes_eq (s : CookieSettings) (value : String) (expires : Instant) (maxAge : Int) :
    s.attributes value expires maxAge =
      [s.name ++ "=" ++ value, "Path=/", "Expires=" ++ expires.httpDate,
        "Max-Age=" ++ Text.integerText maxAge, "HttpOnly"] ++
      (if s.secure then ["Secure"] else []) ++ ["SameSite=" ++ s.sameSite.label] ++
      (s.domain.map fun domain => "Domain=" ++ domain).toList := by
  unfold attributes
  cases s.domain with
  | none => rfl
  | some domain => rfl

/-- The attributes of a cookie with a writable value are writable exactly if its settings are. -/
theorem writable_attributes_iff (hvalue : Header.Writable value) (expires : Instant)
    (maxAge : Int) :
    (∀ a ∈ s.attributes value expires maxAge, Header.Writable a) ↔ s.Writable := by
  have hfirst : (∀ a ∈ [s.name ++ "=" ++ value, "Path=/", "Expires=" ++ expires.httpDate,
      "Max-Age=" ++ Text.integerText maxAge, "HttpOnly"], Header.Writable a) ↔
      Header.Writable s.name := by
    have hmarks : Header.Writable "=" ∧ Header.Writable "Path=/" ∧ Header.Writable "Expires=" ∧
        Header.Writable "Max-Age=" ∧ Header.Writable "HttpOnly" := by decide
    simp [hvalue, hmarks, Header.writable_httpDate, Header.writable_integerText]
  have hsecure : ∀ a ∈ (if s.secure then ["Secure"] else []), Header.Writable a := by
    cases s.secure <;> decide
  have hsite : ∀ a ∈ ["SameSite=" ++ s.sameSite.label], Header.Writable a := by
    cases s.sameSite <;> decide
  have hdomain : (∀ a ∈ (s.domain.map fun domain => "Domain=" ++ domain).toList,
      Header.Writable a) ↔ ∀ domain ∈ s.domain, Header.Writable domain := by
    have hmark : Header.Writable "Domain=" := by decide
    cases s.domain with
    | none => simp
    | some domain => simp [hmark]
  rw [attributes_eq, List.forall_mem_append, List.forall_mem_append, List.forall_mem_append, hfirst]
  constructor
  · rintro ⟨⟨⟨hname, -⟩, -⟩, hrest⟩
    exact ⟨hname, hdomain.1 hrest⟩
  · rintro ⟨hname, hrest⟩
    exact ⟨⟨⟨hname, hsecure⟩, hsite⟩, hdomain.2 hrest⟩

/-- The test that a writer makes asks whether the settings are writable. -/
theorem all_isWritable_iff (hvalue : Header.Writable value) (expires : Instant) (maxAge : Int) :
    ("; ".intercalate (s.attributes value expires maxAge)).toList.all Header.isWritable = true ↔
      s.Writable := by
  rw [List.all_eq_true, ← writable_attributes_iff hvalue expires maxAge]
  exact Header.writable_intercalate (by decide)

/-- With writable settings every writable value can be handed out. -/
theorem write_of_writable (hs : s.Writable) (hvalue : Header.Writable value) (expires : Instant)
    (maxAge : Int) :
    s.write value expires maxAge = .ok ("; ".intercalate (s.attributes value expires maxAge)) :=
  if_pos ((all_isWritable_iff hvalue expires maxAge).2 hs)

/-- With writable settings every session can be handed out. -/
theorem issue_of_writable (hs : s.Writable) (session : Session) (now : Instant) :
    s.issue session now =
      .ok ("; ".intercalate
        (s.attributes session.id.text session.expiresAt (maxAge session now))) :=
  write_of_writable hs (Header.writable_text session.id) _ _

/-- With settings that are not writable no session can be handed out. -/
theorem issue_of_not_writable (hs : ¬ s.Writable) (session : Session) (now : Instant) :
    s.issue session now =
      .error (.internal "invalid session cookie header: failed to parse header value") :=
  if_neg fun hall => hs ((all_isWritable_iff (Header.writable_text session.id) _ _).1 hall)

/-- Parts with a mark between them begin with the first part. -/
theorem exists_intercalate_cons (mark first : String) (parts : List String) :
    ∃ rest, mark.intercalate (first :: parts) = first ++ rest := by
  cases parts with
  | nil => exact ⟨"", by simp⟩
  | cons second parts =>
      refine ⟨mark ++ mark.intercalate (second :: parts), ?_⟩
      rw [String.intercalate_cons_cons, String.append_assoc]

/-- A cookie that hands out a session begins with its name and the identifier of the session, and
says how long it lives. -/
theorem exists_of_issue {session : Session} {now : Instant} {cookie : String}
    (h : s.issue session now = .ok cookie) :
    ∃ rest, cookie = s.name ++ "=" ++ session.id.text ++ "; Path=/; Expires=" ++
      session.expiresAt.httpDate ++ "; Max-Age=" ++ Text.integerText (maxAge session now) ++
      "; HttpOnly" ++ rest := by
  rw [eq_of_write_eq_ok h]
  simp only [attributes, List.cons_append, String.intercalate_cons_cons]
  obtain ⟨rest, hrest⟩ := exists_intercalate_cons "; " "HttpOnly" _
  refine ⟨rest, ?_⟩
  rw [hrest, ← String.toList_inj]
  simp

end CookieSettings

end SessionAuth
