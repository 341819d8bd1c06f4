import SessionAuth.Proofs.Cookie.Characters
import SessionAuth.Proofs.Time.Range

set_option autoImplicit false

/-! # The two cookies

The cookie that hands out a session and the one that takes it back are put together from the same
parts in the same order, so that a client takes the second for a new value of the first. They differ
in the value, the date and the age (`CookieSettings.issue_clear_agree`). The age is the number of
whole seconds that are left of the session (`Instant.WholeSeconds`), and the date names an instant to
the second, so that no client keeps the cookie longer than the session lasts.
-/

namespace SessionAuth

/-! ## Ages -/

namespace CookieSettings

variable {s : CookieSettings} {session : Session} {now : Instant}

/-- **The age of a cookie** is zero if the session is over, and else the number of whole seconds
that are left of it. -/
theorem exists_maxAge_eq (hnow : ¬ now.IsLeap) (hend : ¬ session.expiresAt.IsLeap) :
    ∃ age : Nat, maxAge session now = age ∧ (session.expiresAt ≤ now → age = 0) ∧
      (now < session.expiresAt →
        ∀ n, Instant.WholeSeconds now session.expiresAt n ↔ n = age) := by
  have hsince : (session.expiresAt.since now).nanos = session.expiresAt.nanos - now.nanos := by
    rw [Instant.nanos_since, if_neg fun h => hnow h.2, if_neg fun h => hend h.2, Int.add_zero]
  by_cases hover : session.expiresAt ≤ now
  · have hnanos := (Instant.le_iff_nanos hend hnow).1 hover
    have hnone : (session.expiresAt.since now).seconds ≤ 0 := Span.seconds_nonpos (by omega)
    refine ⟨0, ?_, fun _ => rfl, fun hlt => ?_⟩
    · exact max_eq_left hnone
    · exact absurd hover (Int.not_le.2 hlt)
  · have hlt : now < session.expiresAt := Int.not_le.1 hover
    have hnanos := (Instant.lt_iff_nanos hnow hend).1 hlt
    have hseconds : (session.expiresAt.since now).seconds =
        (session.expiresAt.nanos - now.nanos) / 1000000000 := by
      rw [Span.seconds, hsince]
      exact Int.tdiv_eq_ediv_of_nonneg (by omega)
    refine ⟨((session.expiresAt.nanos - now.nanos) / 1000000000).toNat, ?_,
      fun h => absurd h hover, fun _ n => ?_⟩
    · rw [maxAge, hseconds]
      omega
    · rw [Instant.wholeSeconds_iff hnow hend]
      omega

end CookieSettings

/-! ## Parts -/

namespace Cookie

/-- Cuts a text wherever a semicolon and a blank stand. -/
def cutParts : List Char → List (List Char)
  | [] => [[]]
  | ';' :: ' ' :: cs => [] :: cutParts cs
  | c :: cs =>
    match cutParts cs with
    | [] => [[c]]
    | part :: rest => (c :: part) :: rest

/-- The parts of the text of a cookie. -/
def parts (cookie : String) : List String := (cutParts cookie.toList).map String.ofList

theorem cutParts_of_not_mem {part : List Char} (h : ';' ∉ part) : cutParts part = [part] := by
  induction part with
  | nil => rfl
  | cons c part ih =>
      rw [List.mem_cons, not_or] at h
      rw [cutParts, ih h.2]
      rintro cs rfl
      exact fun _ => h.1 rfl

theorem cutParts_append {part : List Char} (h : ';' ∉ part) (cs : List Char) :
    cutParts (part ++ ';' :: ' ' :: cs) = part :: cutParts cs := by
  induction part with
  | nil => rfl
  | cons c part ih =>
      rw [List.mem_cons, not_or] at h
      rw [List.cons_append, cutParts, ih h.2]
      rintro cs rfl
      exact fun _ => h.1 rfl

/-- **Parts without semicolons are told apart.** -/
theorem parts_intercalate {texts : List String} (hnil : texts ≠ [])
    (h : ∀ text ∈ texts, ';' ∉ text.toList) : parts ("; ".intercalate texts) = texts := by
  induction texts with
  | nil => exact absurd rfl hnil
  | cons text texts ih =>
      obtain ⟨htext, hrest⟩ := List.forall_mem_cons.1 h
      cases texts with
      | nil =>
          rw [String.intercalate_singleton, parts, cutParts_of_not_mem htext]
          simp
      | cons next texts =>
          have hbreak : ("; ".intercalate (text :: next :: texts)).toList =
              text.toList ++ ';' :: ' ' :: ("; ".intercalate (next :: texts)).toList := by
            rw [String.intercalate_cons_cons]
            simp
          have hparts := ih (List.cons_ne_nil next texts) hrest
          rw [parts, hbreak, cutParts_append htext, List.map_cons, String.ofList_toList, ← parts,
            hparts]

/-- A text that can be one of several parts: visible ASCII, blanks and tabs, without semicolons. -/
def Whole (text : String) : Prop := ∀ c ∈ text.toList, Header.IsReadable c ∧ c ≠ ';'

end Cookie

/-! ## The same attributes -/

namespace CookieSettings

variable {s : CookieSettings} {value : String}

/-- The attributes that depend on the settings alone. -/
def flags (s : CookieSettings) : List String :=
  "HttpOnly" :: (if s.secure then ["Secure"] else []) ++ ["SameSite=" ++ s.sameSite.label] ++
    (s.domain.map fun domain => "Domain=" ++ domain).toList

/-- The cookie falls into its value, its date, its age and the attributes that the settings say. -/
def Carries (s : CookieSettings) (cookie value : String) (expires : Instant) (age : Nat) : Prop :=
  Cookie.parts cookie =
    [s.name ++ "=" ++ value, "Path=/", "Expires=" ++ expires.httpDate,
      "Max-Age=" ++ Text.integerText age] ++ s.flags

theorem attributes_eq_append_flags (s : CookieSettings) (value : String) (expires : Instant)
    (maxAge : Int) :
    s.attributes value expires maxAge =
      [s.name ++ "=" ++ value, "Path=/", "Expires=" ++ expires.httpDate,
        "Max-Age=" ++ Text.integerText maxAge] ++ s.flags := by
  rw [attributes_eq, flags]
  simp only [List.append_assoc, List.cons_append, List.nil_append]

/-- With a whole name and a whole domain no attribute holds a semicolon. -/
theorem not_mem_attributes (hname : Cookie.Whole s.name)
    (hdomain : ∀ domain ∈ s.domain, Cookie.Whole domain) (hvalue : Cookie.Whole value)
    (expires : Instant) (maxAge : Int) :
    ∀ a ∈ s.attributes value expires maxAge, ';' ∉ a.toList := by
  have hwhole : ∀ {text}, Cookie.Whole text → ';' ∉ text.toList := fun h hmem => (h _ hmem).2 rfl
  have hdigit : ∀ c, Text.isDigit c = true → c ≠ ';' := by
    rintro c hc rfl
    exact absurd hc (by decide)
  have hmarks : ∀ c ∈ HttpDate.marks, c ≠ ';' := by
    rintro c hc rfl
    exact absurd hc (by decide)
  have hdate : ';' ∉ expires.httpDate.toList := fun hmem =>
    expires.forall_mem_httpDate hdigit hmarks ';' hmem rfl
  have hage : ';' ∉ (Text.integerText maxAge).toList := by
    intro hmem
    rcases Text.of_mem_integerText hmem with h | h
    · exact hdigit _ h rfl
    · exact absurd h (by decide)
  have hsite : ';' ∉ s.sameSite.label.toList := by
    cases s.sameSite <;> decide
  intro a ha
  simp only [attributes_eq, List.mem_append, List.mem_cons, Option.mem_toList,
    Option.map_eq_some_iff, List.not_mem_nil, or_false] at ha
  rcases ha with (((rfl | rfl | rfl | rfl | rfl) | ha) | rfl) | ⟨domain, hsome, rfl⟩
  · simp [hwhole hname, hwhole hvalue]
  · decide
  · simp [hdate]
  · simp [hage]
  · decide
  · split at ha
    · rw [List.mem_singleton.1 ha]
      decide
    · cases ha
  · simp [hsite]
  · simp [hwhole (hdomain domain hsome)]

/-- With a whole name, domain and value the cookie is written, and it carries them. -/
theorem exists_write_carries (hname : Cookie.Whole s.name)
    (hdomain : ∀ domain ∈ s.domain, Cookie.Whole domain) (hvalue : Cookie.Whole value)
    (expires : Instant) (age : Nat) :
    ∃ cookie, s.write value expires age = .ok cookie ∧ s.Carries cookie value expires age := by
  have hwritable : ∀ {text}, Cookie.Whole text → Header.Writable text := fun h c hc =>
    Header.isWritable_of_isReadable (h c hc).1
  have hs : s.Writable := ⟨hwritable hname, fun domain h => hwritable (hdomain domain h)⟩
  refine ⟨_, write_of_writable hs (hwritable hvalue) expires age, ?_⟩
  have hnil : s.attributes value expires age ≠ [] := by
    rw [attributes_eq_append_flags]
    exact List.cons_ne_nil _ _
  rw [Carries, Cookie.parts_intercalate hnil (not_mem_attributes hname hdomain hvalue expires age),
    attributes_eq_append_flags]

/-- **The cookie that takes a session back matches the one that hands it out**, whatever the
settings, the session and the moment. Let the name and the domain be visible ASCII without
semicolons, and let neither the moment nor the end of the session lie inside of a leap second.

* Both cookies are written, and fall into the same attributes in the same order. They differ in the
  value, the date and the age.
* The age of the first is zero if the session is over, and else the number of whole seconds that are
  left of it; that of the second is zero.
* The date of each names, in a year of four digits, the beginning of the second in which the session
  ends, or that of an hour ago. -/
theorem issue_clear_agree (s : CookieSettings) (session : Session) {now past : Instant}
    (hname : Cookie.Whole s.name) (hdomain : ∀ domain ∈ s.domain, Cookie.Whole domain)
    (hnow : ¬ now.IsLeap) (hend : ¬ session.expiresAt.IsLeap)
    (hpast : now.sub? (.ofHours 1) = some past) :
    ∃ issued cleared, ∃ age : Nat,
      (s.issue session now = .ok issued ∧
        s.Carries issued session.id.text session.expiresAt age) ∧
      (s.clear now = .ok cleared ∧ s.Carries cleared "" past 0) ∧
      (session.expiresAt ≤ now → age = 0) ∧
      (now < session.expiresAt →
        ∀ n, Instant.WholeSeconds now session.expiresAt n ↔ n = age) ∧
      (0 ≤ session.expiresAt.date.year ∧ session.expiresAt.date.year < 10000 →
        HttpDate.read? session.expiresAt.httpDate.toList = some session.expiresAt.toSecond) ∧
      (0 ≤ past.date.year ∧ past.date.year < 10000 →
        HttpDate.read? past.httpDate.toList = some past.toSecond) := by
  have hid : Cookie.Whole session.id.text := fun c hc =>
    have hmark := Cookie.reads_isMark (Uuid.isMark_of_mem_text hc)
    ⟨hmark.1, hmark.2.2.1⟩
  have hempty : Cookie.Whole "" := fun c hc => absurd hc (by simp)
  obtain ⟨age, hage, hover, hleft⟩ := exists_maxAge_eq hnow hend
  obtain ⟨issued, hissued, hcarries⟩ :=
    exists_write_carries hname hdomain hid session.expiresAt age
  obtain ⟨cleared, hcleared, hcarries'⟩ := exists_write_carries hname hdomain hempty past 0
  have hissue : s.issue session now = .ok issued := by
    rw [issue, hage, hissued]
  have hclear : s.clear now = .ok cleared := by
    rw [clear, hpast]
    exact congrArg (Except.mapError Failure.fault) hcleared
  have hpast' : ¬ past.IsLeap := (Instant.nanos_of_add?_of_not_isLeap hnow hpast).2
  exact ⟨issued, cleared, age, ⟨hissue, hcarries⟩, ⟨hclear, hcarries'⟩, hover, hleft,
    HttpDate.read?_httpDate hend, HttpDate.read?_httpDate hpast'⟩

/-- A session ends almost a day from now, and its cookie stays for the whole seconds of it. -/
theorem issue_clear_agree_small :
    let s : CookieSettings :=
      { name := "sid", secure := false, sameSite := .lax, domain := some "example.org" }
    let now : Instant := ⟨1, 3600, 500000000, by decide, by decide, by decide, by decide⟩
    let finish : Instant := ⟨2, 3600, 250000000, by decide, by decide, by decide, by decide⟩
    ∃ issued cleared,
      s.issue (.fresh (.ofNat 5) (.ofNat 1) .epoch finish) now = .ok issued ∧
      s.clear now = .ok cleared ∧
      Cookie.parts issued =
        ["sid=00000000-0000-0000-0000-000000000005", "Path=/",
          "Expires=Sat, 03 Jan 1970 01:00:00 GMT", "Max-Age=86399", "HttpOnly", "SameSite=Lax",
          "Domain=example.org"] ∧
      Cookie.parts cleared =
        ["sid=", "Path=/", "Expires=Fri, 02 Jan 1970 00:00:00 GMT", "Max-Age=0", "HttpOnly",
          "SameSite=Lax", "Domain=example.org"] := by
  intro s now finish
  have hwhole : ∀ text : String, (∀ c ∈ text.toList, Cookie.IsNameChar c) → Cookie.Whole text :=
    fun text h c hc => ⟨(Cookie.Legible.of_isNameChar h).readable c hc, (h c hc).2.2.2⟩
  have hdomain : ∀ domain ∈ s.domain, Cookie.Whole domain := by
    rintro domain ⟨⟩
    exact hwhole "example.org" (by simp [Cookie.IsNameChar])
  have hnow : ¬ now.IsLeap := by decide
  have hend : ¬ finish.IsLeap := by decide
  have hpast : now.sub? (.ofHours 1) =
      some ⟨1, 0, 500000000, by decide, by decide, by decide, by decide⟩ := by decide
  obtain ⟨issued, cleared, age, ⟨hissue, hcarries⟩, ⟨hclear, hcarries'⟩, -, hleft, -⟩ :=
    issue_clear_agree s (.fresh (.ofNat 5) (.ofNat 1) .epoch finish)
      (hwhole "sid" (by simp [Cookie.IsNameChar])) hdomain hnow hend hpast
  have hage : 86399 = age :=
    (hleft (by decide) 86399).1 ((Instant.wholeSeconds_iff hnow hend).2 (by decide))
  subst hage
  refine ⟨issued, cleared, hissue, hclear, hcarries.trans ?_, hcarries'.trans ?_⟩ <;> decide

end CookieSettings

end SessionAuth
