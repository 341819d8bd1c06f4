import SessionAuth.Config
import SessionAuth.Proofs.Cookie.Characters

set_option autoImplicit false

/-! # The cookie of a configuration

A configuration is accepted if the values of some variables can be read and are in range. The name
of the session cookie and its domain are not among them: they are taken as they stand, except that
the domain is left out in development (`Config.cookie_of_ofLookup`). So the cookie of an accepted
configuration may stand in a header exactly if the values of these two variables may:
`Config.writable_cookie_iff`.
-/

namespace SessionAuth.Config

/-- A computation that succeeded was one whose first part did. -/
theorem of_bind_eq_ok {ε α β : Type} {x : Except ε α} {f : α → Except ε β} {b : β}
    (h : x >>= f = .ok b) : ∃ a, x = .ok a ∧ f a = .ok b := by
  cases x with
  | error e => cases h
  | ok a => exact ⟨a, rfl, h⟩

variable {vars : Lookup} {c : Config}

/-- Two variables give the cookie its name and its domain. -/
theorem cookie_of_ofLookup (h : ofLookup vars = .ok c) :
    c.auth.cookie.name = (value? vars "SYNTHEMA_AUTH_COOKIE_NAME").getD "session_id" ∧
      c.auth.cookie.domain =
        if c.environment = .dev then none else value? vars "SYNTHEMA_AUTH_COOKIE_DOMAIN" := by
  obtain ⟨environment, -, h⟩ := of_bind_eq_ok h
  obtain ⟨port, -, h⟩ := of_bind_eq_ok h
  obtain ⟨-, -, h⟩ := of_bind_eq_ok h
  obtain ⟨ttl, -, h⟩ := of_bind_eq_ok h
  obtain ⟨-, -, h⟩ := of_bind_eq_ok h
  obtain ⟨secure, -, h⟩ := of_bind_eq_ok h
  obtain ⟨sameSite, -, h⟩ := of_bind_eq_ok h
  obtain ⟨trustForwardedFor, -, h⟩ := of_bind_eq_ok h
  obtain ⟨timeout, -, h⟩ := of_bind_eq_ok h
  cases h
  by_cases hdev : environment = .dev
  · subst hdev
    exact ⟨rfl, rfl⟩
  · simp [hdev]

/-- The configuration when no variable is set. -/
def unset : Config where
  environment := .prod
  host := "0.0.0.0"
  port := 8080
  postgresDsn := none
  auth := {}
  requestTimeoutSeconds := 30
  seedAdmin := none

/-- The values of the two variables may stand in a header, as far as they are used. -/
structure CookieWritable (vars : Lookup) (environment : Environment) : Prop where
  name : ∀ name ∈ value? vars "SYNTHEMA_AUTH_COOKIE_NAME", Header.Writable name
  domain : environment ≠ .dev →
    ∀ domain ∈ value? vars "SYNTHEMA_AUTH_COOKIE_DOMAIN", Header.Writable domain

/-- **The cookie may stand in a header exactly if the values of its variables may.** -/
theorem writable_cookie_iff (h : ofLookup vars = .ok c) :
    c.auth.cookie.Writable ↔ CookieWritable vars c.environment := by
  obtain ⟨hname, hdomain⟩ := cookie_of_ofLookup h
  have hdefault : Header.Writable "session_id" := by decide
  have hnames : Header.Writable c.auth.cookie.name ↔
      ∀ name ∈ value? vars "SYNTHEMA_AUTH_COOKIE_NAME", Header.Writable name := by
    rw [hname]
    cases value? vars "SYNTHEMA_AUTH_COOKIE_NAME" with
    | none => simp [hdefault]
    | some name => simp
  have hdomains : (∀ domain ∈ c.auth.cookie.domain, Header.Writable domain) ↔
      (c.environment ≠ .dev →
        ∀ domain ∈ value? vars "SYNTHEMA_AUTH_COOKIE_DOMAIN", Header.Writable domain) := by
    rw [hdomain]
    by_cases hdev : c.environment = .dev
    · simp [hdev]
    · simp [hdev]
  constructor
  · rintro ⟨h₁, h₂⟩
    exact ⟨hnames.1 h₁, hdomains.1 h₂⟩
  · rintro ⟨h₁, h₂⟩
    exact ⟨hnames.2 h₁, hdomains.2 h₂⟩

end SessionAuth.Config
