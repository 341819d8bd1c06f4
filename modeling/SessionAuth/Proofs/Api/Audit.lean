import SessionAuth.Proofs.Api.Confinement
import SessionAuth.Proofs.Http.Address
import SessionAuth.Proofs.Session.Metadata
import SessionAuth.Proofs.Text.Split
import SessionAuth.Proofs.Text.Trim

set_option autoImplicit false

/-! # What a login reads of a request

A login reads the body of a request, the other end of the connection, and of the headers the first
value of at most three: what the body is announced as, the user agent and, in a deployment that
trusts it, the forwarding header. Requests in which these are the same (`Login.Alike`) are answered
by the same program, whatever other headers and cookies they carry.

The session that a login stores has the identifier that the source hands out next, and is audited
under an address of which the client has a say only where the forwarding header is trusted
(`Login.Audits`).
-/

namespace SessionAuth

namespace Metadata

/-- The text of an address is stored as it is. -/
theorem clean_text (a : Address) : clean maxIpAddress (some a.text) = some a.text := by
  refine clean_eq_self_iff.2 fun text htext => ?_
  cases htext
  obtain ⟨hlength, hblank⟩ := a.fits_text
  obtain ⟨hstarts, hends⟩ := Text.trim_eq_self_iff.1 (Text.trim_eq_self_of_forall hblank)
  have hne : a.text ≠ "" := fun hempty => a.text_ne_nil (String.toList_eq_nil_iff.2 hempty)
  rw [String.length_toList] at hlength
  exact ⟨hne, hlength, hstarts, hends⟩

end Metadata

namespace Login

variable {trust : Bool} {hs : Headers} {r r₁ r₂ : Request}

/-! ## What a login reads -/

/-- Two requests in which a login reads the same. -/
structure Alike (trust : Bool) (r₁ r₂ : Request) : Prop where
  body : r₁.body = r₂.body
  peer : r₁.peer = r₂.peer
  contentType : r₁.headers.get? "content-type" = r₂.headers.get? "content-type"
  userAgent : r₁.headers.get? "user-agent" = r₂.headers.get? "user-agent"
  forwardedFor : trust = true →
    r₁.headers.get? "x-forwarded-for" = r₂.headers.get? "x-forwarded-for"

theorem Alike.accept_eq (h : Alike trust r₁ r₂) : accept r₁ = accept r₂ := by
  have hannounces : announcesJson r₁.headers = announcesJson r₂.headers := by
    rw [announcesJson, announcesJson, h.contentType]
  have hread : readBody r₁ = readBody r₂ := by
    rw [readBody, readBody, hannounces, h.body]
  rw [accept, accept, hread]

theorem Alike.client_eq (h : Alike trust r₁ r₂) : client trust r₁ = client trust r₂ := by
  have haddress : clientAddress trust r₁ = clientAddress trust r₂ := by
    cases trust with
    | false =>
        show r₁.peer.map Address.text = r₂.peer.map Address.text
        rw [h.peer]
    | true =>
        show (forwardedFor? r₁.headers).or _ = (forwardedFor? r₂.headers).or _
        rw [forwardedFor?, forwardedFor?, h.forwardedFor rfl, h.peer]
  rw [client, client, h.userAgent, haddress]

/-! ## Under which address it is audited -/

/-- The forwarding header names a client: its first value can be read, and what stands there before
the first comma is not blank. -/
def Names (hs : Headers) (hop : List Char) : Prop :=
  ∃ value text, hs.get? "x-forwarded-for" = some value ∧ Header.visible? value = some text ∧
    Text.trim (text.takeWhile (· != ',')) = hop ∧ hop ≠ []

/-- The forwarding header names nobody. -/
inductive Silent (hs : Headers) : Prop
  | missing (get : hs.get? "x-forwarded-for" = none)
  | unreadable (value : List UInt8) (get : hs.get? "x-forwarded-for" = some value)
      (read : Header.visible? value = none)
  | blank (value : List UInt8) (text : List Char) (get : hs.get? "x-forwarded-for" = some value)
      (read : Header.visible? value = some text)
      (hop : Text.trim (text.takeWhile (· != ',')) = [])

theorem forwardedFor?_of_get {value : List UInt8} {text : List Char}
    (hget : hs.get? "x-forwarded-for" = some value) (hread : Header.visible? value = some text) :
    forwardedFor? hs =
      if (Text.trim (text.takeWhile (· != ','))).isEmpty then none
      else some (String.ofList (Text.trim (text.takeWhile (· != ',')))) := by
  rw [← Text.headD_splitAt]
  simp only [forwardedFor?, hget, Option.bind_some, hread, bind]

theorem Names.forwardedFor?_eq {hop : List Char} (h : Names hs hop) :
    forwardedFor? hs = some (String.ofList hop) := by
  obtain ⟨value, text, hget, hread, rfl, hnil⟩ := h
  rw [forwardedFor?_of_get hget hread, if_neg]
  simpa using hnil

theorem Silent.forwardedFor?_eq (h : Silent hs) : forwardedFor? hs = none := by
  cases h with
  | missing get => simp [forwardedFor?, get]
  | unreadable value get read => simp [forwardedFor?, get, read]
  | blank value text get read hop =>
      rw [forwardedFor?_of_get get read, hop]
      rfl

/-- The address under which the session of a login is audited: the other end of the connection,
unless the forwarding header is trusted and names somebody else. -/
structure Audits (trust : Bool) (r : Request) (address : Option String) : Prop where
  untrusting : trust = false → address = r.peer.map Address.text
  forwarded : trust = true → ∀ hop, Names r.headers hop →
    address = some (String.ofList (hop.take 64))
  unforwarded : trust = true → Silent r.headers → address = r.peer.map Address.text

theorem clean_peer (r : Request) :
    Metadata.clean Metadata.maxIpAddress (r.peer.map Address.text) = r.peer.map Address.text := by
  cases r.peer with
  | none => rfl
  | some a => exact Metadata.clean_text a

/-- The address of the client, in the form in which it is stored. -/
theorem audits_normalized (trust : Bool) (r : Request) :
    Audits trust r (client trust r).normalized.ipAddress where
  untrusting := by
    rintro rfl
    exact clean_peer r
  forwarded := by
    rintro rfl hop hnames
    show Metadata.clean Metadata.maxIpAddress ((forwardedFor? r.headers).or _) = _
    rw [hnames.forwardedFor?_eq, Option.some_or]
    obtain ⟨value, text, -, -, rfl, hnil⟩ := hnames
    rw [Metadata.clean_some, String.toList_ofList, Text.trim_trim]
    · rfl
    · rwa [String.toList_ofList, Text.trim_trim]
  unforwarded := by
    rintro rfl hsilent
    show Metadata.clean Metadata.maxIpAddress ((forwardedFor? r.headers).or _) = _
    rw [hsilent.forwardedFor?_eq, Option.none_or]
    exact clean_peer r

end Login

namespace Service

variable {s : Service} {w : World} {r r₁ r₂ : Request} {id : Uuid} {row : Session}

/-! ## Which session a login stores -/

/-- A row that a login adds is the session it has issued to the client of the request. -/
theorem eq_issued_of_login (hrow : ((s.login r).run w).2.sessions.get? id = some row)
    (hnew : w.sessions.get? id = none) :
    ∃ userId expiry,
      row = issued w userId expiry (Login.client s.auth.trustForwardedFor r) := by
  rcases run_login_cases s r w with
    ⟨f, w', hrun, hkept⟩ | ⟨user, session, w', hlets, -, hissued, hrun⟩
  · rw [hrun] at hrow
    change w'.sessions.get? id = some row at hrow
    rw [hkept, hnew] at hrow
    cases hrow
  · rw [hrun] at hrow
    exact ⟨user.id, session.expiresAt, (hlets.eq_of_new hrow hnew).trans hissued⟩

/-- Whatever is asked for, a row that is added is the session of a login. -/
theorem eq_issued_of_respond (hrow : ((s.respond r).run w).2.sessions.get? id = some row)
    (hnew : w.sessions.get? id = none) :
    ∃ userId expiry,
      row = issued w userId expiry (Login.client s.auth.trustForwardedFor r) := by
  cases writes_of_respond s r w with
  | nothing same =>
      rw [same, hnew] at hrow
      cases hrow
  | session method path session grows =>
      rw [snd_run_respond_login method path] at hrow
      exact eq_issued_of_login hrow hnew
  | revocation method path i passes revoked found revokes =>
      -- a revocation adds no row
      by_cases hid : id = revoked.id
      · rw [hid, revokes.stored] at hnew
        cases hnew
      · rw [revokes.others id hid, hnew] at hrow
        cases hrow

/-! ## Two requests -/

theorem login_congr (h : Login.Alike s.auth.trustForwardedFor r₁ r₂) : s.login r₁ = s.login r₂ := by
  rw [login, login, h.accept_eq, h.client_eq]

/-- **Requests in which a login reads the same** are answered by the same program. -/
theorem respond_congr (hmethod₁ : r₁.method = "POST") (hpath₁ : r₁.path = "/api/v1/auth/login")
    (hmethod₂ : r₂.method = "POST") (hpath₂ : r₂.path = "/api/v1/auth/login")
    (h : Login.Alike s.auth.trustForwardedFor r₁ r₂) : s.respond r₁ = s.respond r₂ := by
  rw [respond_login hmethod₁ hpath₁, respond_login hmethod₂ hpath₂, login_congr h]

/-- **What a client has a say in.** In whatever world,

* two requests to log in with the same body over the same connection, and with the same first
  values of the headers that a login reads, get the same answer and leave the same stores,
* a session that a request adds has the identifier that was to be handed out next, and is audited
  under the address of the other end of the connection, unless the forwarding header is trusted
  and names a client. -/
theorem login_disregards_headers (s : Service) (w : World) :
    (∀ r₁ r₂ : Request, r₁.method = "POST" → r₁.path = "/api/v1/auth/login" →
      r₂.method = "POST" → r₂.path = "/api/v1/auth/login" →
      Login.Alike s.auth.trustForwardedFor r₁ r₂ →
        (s.respond r₁).run w = (s.respond r₂).run w) ∧
    ∀ r id row, ((s.respond r).run w).2.sessions.get? id = some row →
      w.sessions.get? id = none →
        id = w.ids.next.1 ∧ Login.Audits s.auth.trustForwardedFor r row.ipAddress := by
  constructor
  · intro r₁ r₂ hmethod₁ hpath₁ hmethod₂ hpath₂ halike
    rw [respond_congr hmethod₁ hpath₁ hmethod₂ hpath₂ halike]
  · intro r id row hrow hnew
    have hkey : row.id = id := Table.key_of_get? hrow
    obtain ⟨userId, expiry, rfl⟩ := eq_issued_of_respond hrow hnew
    exact ⟨hkey.symm, Login.audits_normalized _ r⟩

/-- The user of the small world logs in over a known connection. -/
def directLogin : Request := { lodgerLogin with peer := some (.octets 192 0 2 1) }

/-- The same login under a false name, with the cookie of another session. -/
def disguisedLogin : Request where
  method := "POST"
  target := "/api/v1/auth/login?from=elsewhere"
  headers := [⟨"Cookie", Text.utf8 "session_id=00000000-0000-0000-0000-000000000005"⟩,
    ⟨"X-Forwarded-For", Text.utf8 " 203.0.113.7 , 10.0.0.1"⟩,
    ⟨"Content-Type", Text.utf8 "application/json"⟩]
  body := lodgerLogin.body
  peer := directLogin.peer

/-- A service behind a proxy. -/
def trusting : Service := { plain with auth := { plain.auth with trustForwardedFor := true } }

/-- The disguise is not noticed, unless the service trusts it. -/
theorem login_disregards_headers_small :
    Login.Alike plain.auth.trustForwardedFor disguisedLogin directLogin ∧
      (plain.respond disguisedLogin).run World.small =
        (plain.respond directLogin).run World.small ∧
      (∃ row, ((plain.respond disguisedLogin).run World.small).2.sessions.get?
          World.small.ids.next.1 = some row ∧ row.ipAddress = some "192.0.2.1") ∧
      ∃ row, ((trusting.respond disguisedLogin).run World.small).2.sessions.get?
          World.small.ids.next.1 = some row ∧ row.ipAddress = some "203.0.113.7" := by
  have halike : Login.Alike plain.auth.trustForwardedFor disguisedLogin directLogin :=
    ⟨rfl, rfl, by decide, by decide, nofun⟩
  have hnames : Login.Names disguisedLogin.headers "203.0.113.7".toList :=
    ⟨Text.utf8 " 203.0.113.7 , 10.0.0.1", " 203.0.113.7 , 10.0.0.1".toList, by decide, by decide,
      by decide, by decide⟩
  have hfree : World.small.sessions.get? World.small.ids.next.1 = none := by decide
  have hplain : (((plain.respond disguisedLogin).run World.small).2.sessions.get?
      World.small.ids.next.1).isSome = true := by
    decide +kernel
  have htrusting : (((trusting.respond disguisedLogin).run World.small).2.sessions.get?
      World.small.ids.next.1).isSome = true := by
    decide +kernel
  obtain ⟨row, hrow⟩ := Option.isSome_iff_exists.1 hplain
  obtain ⟨trusted, htrusted⟩ := Option.isSome_iff_exists.1 htrusting
  refine ⟨halike, ?_, ⟨row, hrow, ?_⟩, ⟨trusted, htrusted, ?_⟩⟩
  · exact (login_disregards_headers plain World.small).1 _ _ rfl (by decide) rfl (by decide) halike
  · exact ((login_disregards_headers plain World.small).2 _ _ _ hrow hfree).2.untrusting rfl
  · exact ((login_disregards_headers trusting World.small).2 _ _ _ htrusted hfree).2.forwarded rfl
      _ hnames

end Service

end SessionAuth
