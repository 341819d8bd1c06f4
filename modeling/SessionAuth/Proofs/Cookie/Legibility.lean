import SessionAuth.Proofs.Configuration
import SessionAuth.Proofs.Service.Verdict
import SessionAuth.Proofs.Text.Split

set_option autoImplicit false

/-! # Which cookies come back

A reader finds a value under a name only if the name is legible, whatever headers it is given
(`Cookie.legible_of_value?_eq_some`): what it compares with the name has been cut out of visible
text between semicolons, before an equals sign, and has been trimmed. So to be legible is all that
it takes for a name to be read, and there is no other way: a cookie that was issued and is returned
up to its first semicolon is read exactly if its name is legible, and then as the identifier of the
session (`CookieSettings.read_returned_iff`).

The name of the session cookie is free text of a configuration. It is trimmed, but nothing else is
asked of it, nor of the domain. What has to be asked is `Config.CookieServes`: then every session
is handed out and its cookie comes back, and otherwise no session ever is and does
(`Config.cookie_comes_back_iff`).
-/

namespace SessionAuth

/-! ## What the steps of a reader leave -/

namespace Header

/-- What arrives as text is readable. -/
theorem isReadable_of_visible? {value : List UInt8} {cs : List Char}
    (h : visible? value = some cs) : ∀ c ∈ cs, IsReadable c := by
  unfold visible? at h
  split at h
  · rename_i hall
    cases h
    intro c hc
    obtain ⟨b, hb, rfl⟩ := List.mem_map.1 hc
    have hvisible := List.all_eq_true.1 hall b hb
    -- a byte is the number of its character
    have hvalid : b.toNat.isValidChar := Or.inl (by have := b.toNat_lt; omega)
    have hnat : (Char.ofNat b.toNat).toNat = b.toNat := by
      rw [Char.ofNat, dif_pos hvalid]
      rfl
    simp only [isVisible, Bool.or_eq_true, Bool.and_eq_true, decide_eq_true_eq, beq_iff_eq,
      UInt8.le_iff_toNat_le, UInt8.lt_iff_toNat_lt] at hvisible
    rcases hvisible with hvisible | rfl
    · left
      rw [hnat]
      exact hvisible
    · exact Or.inr rfl
  · cases h

end Header

namespace Cookie

variable {name : String} {hs : Headers}

/-- A segment holds no semicolon and is readable. -/
theorem of_mem_segments {segment : List Char} (h : segment ∈ segments hs) :
    ';' ∉ segment ∧ ∀ c ∈ segment, Header.IsReadable c := by
  obtain ⟨text, htext, hsegment⟩ := List.mem_flatMap.1 h
  obtain ⟨value, -, hvisible⟩ := List.mem_filterMap.1 htext
  obtain ⟨hmark, hsub⟩ := Text.of_mem_splitAt hsegment
  exact ⟨hmark, fun c hc => Header.isReadable_of_visible? hvisible c (hsub hc)⟩

/-- **Only legible names are read**, whatever the headers are. -/
theorem legible_of_value?_eq_some {v : String} (h : value? name hs = some v) : Legible name := by
  obtain ⟨found, hfound⟩ : ∃ found, (segments hs).findSome? (valueOf? name) = some found := by
    unfold value? at h
    cases hfind : (segments hs).findSome? (valueOf? name) with
    | none =>
        rw [hfind] at h
        cases h
    | some found => exact ⟨found, rfl⟩
  obtain ⟨segment, hsegment, hvalue⟩ := List.exists_of_findSome?_eq_some hfound
  obtain ⟨hunsplit, hreadable⟩ := of_mem_segments hsegment
  unfold valueOf? at hvalue
  cases hpair : pair? segment with
  | none =>
      rw [hpair] at hvalue
      cases hvalue
  | some nv =>
      obtain ⟨n, value⟩ := nv
      rw [hpair] at hvalue
      have hname : Text.trim n = name.toList := by
        by_contra hne
        simp only [if_neg hne] at hvalue
        cases hvalue
      obtain ⟨hcut, huncut⟩ := Text.cutAt?_eq_some_iff.1 hpair
      -- every character of the name stands in the segment, before its first equals sign
      have hbefore : name.toList ⊆ n := by
        rw [← hname]
        exact Text.trim_subset n
      have hwithin : name.toList ⊆ segment := by
        have hpart : n ⊆ Text.trim segment := by
          rw [hcut]
          exact List.subset_append_left n _
        exact fun c hc => Text.trim_subset segment (hpart (hbefore hc))
      exact {
        trimmed := by rw [← hname, Text.trim_trim]
        uncut := fun hc => huncut (hbefore hc)
        unsplit := fun hc => hunsplit (hwithin hc)
        readable := fun c hc => hreadable c (hwithin hc) }

end Cookie

namespace CookieSettings

/-- **Which names bring a session back.** Let a session be handed out, whatever the settings are,
and let a request bring back the pair of name and value. Then the text of its identifier is read
exactly if the name is its own trimmed form, holds neither an equals sign nor a semicolon, and
consists of visible ASCII, blanks and tabs. Otherwise nothing is read. What is read is in any case a
text of the identifier of the session. -/
theorem read_returned_iff {s : CookieSettings} {session : Session} {now : Instant} {cookie : String}
    (hissue : s.issue session now = .ok cookie) {hs : Headers}
    (hsent : hs.getAll "cookie" = [Text.utf8 (Cookie.returned cookie)]) :
    (s.read hs = some session.id.text ↔
      Text.trim s.name.toList = s.name.toList ∧ '=' ∉ s.name.toList ∧ ';' ∉ s.name.toList ∧
        ∀ c ∈ s.name.toList, (0x20 ≤ c.toNat ∧ c.toNat ≤ 0x7E) ∨ c = '\t') ∧
      (s.read hs = some session.id.text ∨ s.read hs = none) ∧
      ∀ v, s.read hs = some v → Uuid.ofText? v = some session.id := by
  have hlegible : Cookie.Legible s.name ↔
      Text.trim s.name.toList = s.name.toList ∧ '=' ∉ s.name.toList ∧ ';' ∉ s.name.toList ∧
        ∀ c ∈ s.name.toList, (0x20 ≤ c.toNat ∧ c.toNat ≤ 0x7E) ∨ c = '\t' := by
    constructor
    · rintro ⟨htrimmed, huncut, hunsplit, hreadable⟩
      exact ⟨htrimmed, huncut, hunsplit, fun c hc => (hreadable c hc).imp_left fun h => by omega⟩
    · rintro ⟨htrimmed, huncut, hunsplit, hreadable⟩
      exact ⟨htrimmed, huncut, hunsplit, fun c hc => (hreadable c hc).imp_left fun h => by omega⟩
  rw [← hlegible]
  by_cases hname : Cookie.Legible s.name
  · have hread : s.read hs = some session.id.text := by
      refine Cookie.value?_of_carries hname ?_
      rw [Cookie.Carries, hsent, returned_of_issue hname.unsplit hissue]
    refine ⟨iff_of_true hread hname, Or.inl hread, fun v hv => ?_⟩
    rw [hread, Option.some.injEq] at hv
    rw [← hv, Uuid.ofText?_text]
  · have hnone : s.read hs = none := Option.eq_none_iff_forall_ne_some.2 fun v hv =>
      hname (Cookie.legible_of_value?_eq_some hv)
    rw [hnone]
    exact ⟨iff_of_false (by simp) hname, Or.inr rfl, fun v hv => by cases hv⟩

/-- A name with a blank inside of it brings the session back, one with a blank at its end does
not. -/
theorem read_returned_small :
    ∃ inside atEnd,
      ({ name := "my stay" } : CookieSettings).issue World.stay World.small.now = .ok inside ∧
      ({ name := "stay " } : CookieSettings).issue World.stay World.small.now = .ok atEnd ∧
      ({ name := "my stay" } : CookieSettings).read
        [⟨"Cookie", Text.utf8 (Cookie.returned inside)⟩] = some World.stay.id.text ∧
      ({ name := "stay " } : CookieSettings).read
        [⟨"Cookie", Text.utf8 (Cookie.returned atEnd)⟩] = none := by
  have hsent : ∀ v, Headers.getAll [⟨"Cookie", v⟩] "cookie" = [v] := by
    intro v
    have hnamed : Header.isNamed "cookie" ⟨"Cookie", v⟩ = true := by
      show Text.sameWord "Cookie" "cookie" = true
      decide
    rw [Headers.getAll, List.filter_cons_of_pos hnamed]
    rfl
  have hinside := issue_of_writable (s := { name := "my stay" }) (by decide)
    World.stay World.small.now
  have hatEnd := issue_of_writable (s := { name := "stay " }) (by decide)
    World.stay World.small.now
  refine ⟨_, _, hinside, hatEnd, ?_, ?_⟩
  · exact (read_returned_iff hinside (hsent _)).1.2 ⟨by decide, by decide, by decide, by simp⟩
  · have hreads := read_returned_iff hatEnd (hsent _)
    exact hreads.2.1.resolve_left fun hread => absurd (hreads.1.1 hread).1 (by decide)

end CookieSettings

/-! ## Configurations -/

namespace Config

variable {vars : Lookup} {c : Config}

/-- The values of the two variables, as far as they are used, are such that a cookie is written and
is read again. -/
structure CookieServes (vars : Lookup) (environment : Environment) : Prop where
  name : ∀ name ∈ value? vars "SYNTHEMA_AUTH_COOKIE_NAME",
    '=' ∉ name.toList ∧ ';' ∉ name.toList ∧ ∀ c ∈ name.toList, Header.IsReadable c
  domain : environment ≠ .dev →
    ∀ domain ∈ value? vars "SYNTHEMA_AUTH_COOKIE_DOMAIN", Header.Writable domain

/-- The value of a variable has been trimmed. -/
theorem trim_of_value? {key v : String} (h : value? vars key = some v) :
    Text.trim v.toList = v.toList := by
  obtain ⟨hmap, -⟩ := Option.filter_eq_some_iff.1 h
  obtain ⟨raw, -, rfl⟩ := Option.map_eq_some_iff.1 hmap
  rw [Text.toList_trimmed, Text.trim_trim]

/-- The name of the cookie is legible exactly if the value of its variable is free of the two marks
and readable. -/
theorem legible_cookie_iff (h : ofLookup vars = .ok c) :
    Cookie.Legible c.auth.cookie.name ↔ ∀ name ∈ value? vars "SYNTHEMA_AUTH_COOKIE_NAME",
      '=' ∉ name.toList ∧ ';' ∉ name.toList ∧ ∀ c ∈ name.toList, Header.IsReadable c := by
  rw [(cookie_of_ofLookup h).1]
  cases hvalue : value? vars "SYNTHEMA_AUTH_COOKIE_NAME" with
  | none =>
      have hdefault : Cookie.Legible "session_id" :=
        .of_isNameChar (by simp [Cookie.IsNameChar])
      simp [hdefault]
  | some name =>
      constructor
      · intro hlegible n hn
        cases hn
        exact ⟨hlegible.uncut, hlegible.unsplit, hlegible.readable⟩
      · intro hmarks
        obtain ⟨huncut, hunsplit, hreadable⟩ := hmarks name rfl
        exact ⟨trim_of_value? hvalue, huncut, hunsplit, hreadable⟩

/-- The cookie serves exactly if it can be written and its name can be read. -/
theorem cookieServes_iff (h : ofLookup vars = .ok c) :
    CookieServes vars c.environment ↔
      c.auth.cookie.Writable ∧ Cookie.Legible c.auth.cookie.name := by
  rw [writable_cookie_iff h, legible_cookie_iff h]
  constructor
  · intro hserves
    refine ⟨⟨fun name hname c hc => ?_, hserves.domain⟩, hserves.name⟩
    exact Header.isWritable_of_isReadable ((hserves.name name hname).2.2 c hc)
  · rintro ⟨hwritable, hname⟩
    exact ⟨hname, hwritable.domain⟩

/-- **Which configurations give a working session cookie.** Let a configuration have been accepted.

* If the variable for the name of the cookie, as far as it is set, holds neither an equals sign nor
  a semicolon and nothing but visible ASCII, blanks and tabs, and outside development the one for
  the domain holds no control character but tabs, then every session is handed out at every moment,
  and a request that brings the cookie back is read as presenting this session, by the reader of
  the cookie as well as by the guard.
* Otherwise no session is, whatever headers a request brings: if a cookie is written at all, then
  nothing is read under its name, and the guard refuses all requests. -/
theorem cookie_comes_back_iff (h : ofLookup vars = .ok c) :
    (CookieServes vars c.environment → ∀ session now, ∃ cookie,
      c.auth.cookie.issue session now = .ok cookie ∧
        ∀ hs : Headers, hs.getAll "cookie" = [Text.utf8 (Cookie.returned cookie)] →
          c.auth.cookie.read hs = some session.id.text ∧
            ∀ w, (Guard.authenticate c.auth.cookie.name hs).run w =
              (Guard.resolve session.id).run w) ∧
    (¬ CookieServes vars c.environment →
      (∀ session now, ∃ f, c.auth.cookie.issue session now = .error f) ∨
        ∀ hs, c.auth.cookie.read hs = none ∧
          ∀ w, (Guard.authenticate c.auth.cookie.name hs).run w = (.error .unauthorized, w)) := by
  rw [cookieServes_iff h]
  constructor
  · rintro ⟨hwritable, hlegible⟩ session now
    have hissue := CookieSettings.issue_of_writable hwritable session now
    refine ⟨_, hissue, fun hs hsent => ⟨?_, fun w => ?_⟩⟩
    · refine Cookie.value?_of_carries hlegible ?_
      rw [Cookie.Carries, hsent, CookieSettings.returned_of_issue hlegible.unsplit hissue]
    · exact Guard.run_authenticate_of_presented
        (Guard.presented?_of_returned hlegible hissue hsent) w
  · intro hnot
    by_cases hwritable : c.auth.cookie.Writable
    · -- the name is to blame, and what is not legible is never read
      right
      intro hs
      have hnone : Cookie.value? c.auth.cookie.name hs = none := by
        cases hvalue : Cookie.value? c.auth.cookie.name hs with
        | none => rfl
        | some v => exact absurd ⟨hwritable, Cookie.legible_of_value?_eq_some hvalue⟩ hnot
      refine ⟨hnone, fun w => Guard.run_authenticate_of_not_presented ?_ w⟩
      rw [Guard.presented?, hnone, Option.bind_none]
    · left
      intro session now
      exact ⟨_, CookieSettings.issue_of_not_writable hwritable session now⟩

/-- Variables that set only the name of the cookie. -/
def naming (name : String) : Lookup := fun key =>
  if key = "SYNTHEMA_AUTH_COOKIE_NAME" then some name else none

/-- A name may hold a blank, and the blanks around it do not count. -/
theorem cookie_comes_back_small :
    ∃ c, ofLookup (naming " my stay ") = .ok c ∧ CookieServes (naming " my stay ") c.environment ∧
      ∃ cookie, c.auth.cookie.issue World.stay World.small.now = .ok cookie ∧
        Cookie.returned cookie = "my stay=00000000-0000-0000-0000-000000000005" ∧
        c.auth.cookie.read [⟨"Cookie", Text.utf8 (Cookie.returned cookie)⟩] =
          some World.stay.id.text := by
  have haccepted : ofLookup (naming " my stay ") =
      .ok { unset with auth := { cookie := { name := "my stay" } } } := by
    decide
  have hserves : CookieServes (naming " my stay ") .prod := by
    refine (cookieServes_iff haccepted).2 ⟨by decide, ?_⟩
    refine (legible_cookie_iff haccepted).2 fun name hname => ?_
    obtain rfl : "my stay" = name := Option.some.inj hname
    simp [Header.IsReadable]
  obtain ⟨cookie, hissue, hreads⟩ :=
    (cookie_comes_back_iff haccepted).1 hserves World.stay World.small.now
  have hreturned : Cookie.returned cookie = "my stay=00000000-0000-0000-0000-000000000005" := by
    rw [CookieSettings.returned_of_issue (by decide) hissue]
    decide
  have hsent : ∀ v, Headers.getAll [⟨"Cookie", v⟩] "cookie" = [v] := by
    intro v
    have hnamed : Header.isNamed "cookie" ⟨"Cookie", v⟩ = true := by
      show Text.sameWord "Cookie" "cookie" = true
      decide
    rw [Headers.getAll, List.filter_cons_of_pos hnamed]
    rfl
  exact ⟨_, haccepted, hserves, cookie, hissue, hreturned, (hreads _ (hsent _)).1⟩

/-- **A cookie that is lost.** A name with an equals sign in it is accepted. The session is handed
out, but what the client sends back is not read, and the guard refuses it. -/
theorem cookie_lost_small :
    ∃ c cookie, ofLookup (naming "a=b") = .ok c ∧
      c.auth.cookie.issue World.stay World.small.now = .ok cookie ∧
      Cookie.returned cookie = "a=b=00000000-0000-0000-0000-000000000005" ∧
      c.auth.cookie.read [⟨"Cookie", Text.utf8 (Cookie.returned cookie)⟩] = none ∧
      ((Guard.authenticate c.auth.cookie.name [⟨"Cookie", Text.utf8 (Cookie.returned cookie)⟩]).run
        World.small).1 = .error .unauthorized := by
  have haccepted : ofLookup (naming "a=b") =
      .ok { unset with auth := { cookie := { name := "a=b" } } } := by
    decide
  have hissue := CookieSettings.issue_of_writable (s := { name := "a=b" }) (by decide)
    World.stay World.small.now
  have hnone : ∀ hs, Cookie.value? "a=b" hs = none := by
    intro hs
    cases hvalue : Cookie.value? "a=b" hs with
    | none => rfl
    | some v => exact absurd (by decide) (Cookie.legible_of_value?_eq_some hvalue).uncut
  refine ⟨_, _, haccepted, hissue, ?_, hnone _, ?_⟩
  · rw [CookieSettings.returned_of_issue (by decide) hissue]
    decide
  · refine congrArg Prod.fst (Guard.run_authenticate_of_not_presented ?_ World.small)
    rw [Guard.presented?, hnone, Option.bind_none]

end Config

end SessionAuth
