import SessionAuth.Config
import SessionAuth.Table
import SessionAuth.Proofs.Configuration
import SessionAuth.Proofs.Text.Numerals

set_option autoImplicit false

/-! # Which configurations are accepted

Seven variables have values that can be wrong. They are looked at in a fixed order
(`Config.Variable.inOrder`), each of them on its own (`Config.check`): its text has to be readable,
and if it is a number, the number may have to be in range. So a configuration is accepted exactly if
all seven values are, and otherwise the first one that is not is blamed
(`Config.ofLookup_eq_error_iff`). What an accepted configuration says is told variable by variable
(`Config.Describes`), and only one configuration says it (`Config.Describes.unique`). Both halves
together are `Config.accepted_exactly`.
-/

namespace SessionAuth

namespace Text

/-- The texts are the same word, in whatever case of ASCII letters. -/
def SameWord (a b : String) : Prop := lower a.toList = lower b.toList

/-- A choice among values with different words is made by the word alone. -/
theorem choice?_eq_some_iff {α : Type} {label : α → String} {values : List α} {s : String} {a : α}
    (hwords : (values.map fun a => lower (label a).toList).Nodup) :
    choice? label values s = some a ↔ a ∈ values ∧ SameWord (label a) s := by
  have hfind : choice? label values s =
      (⟨values, hwords⟩ : Table fun a => lower (label a).toList).get? (lower s.toList) :=
    congrArg values.find? (funext fun b => beq_eq_decide _ _)
  rw [hfind, Table.get?_eq_some_iff]
  rfl

theorem flag?_eq_some_iff {s : String} {b : Bool} :
    flag? s = some b ↔ s = (if b then "true" else "false") := by
  unfold flag?
  constructor
  · intro h
    split at h
    all_goals cases h
    · rfl
    · rfl
  · rintro rfl
    cases b
    · rfl
    · rfl

end Text

theorem Environment.ofText?_eq_some_iff {s : String} {e : Environment} :
    ofText? s = some e ↔ Text.SameWord e.label s := by
  rw [ofText?, Text.choice?_eq_some_iff (by decide)]
  cases e <;> simp [all]

theorem SameSite.ofText?_eq_some_iff {s : String} {r : SameSite} :
    ofText? s = some r ↔ Text.SameWord r.label s := by
  rw [ofText?, Text.choice?_eq_some_iff (by decide)]
  cases r <;> simp [all]

namespace Config

variable {vars : Lookup}

/-! ## Values -/

/-- A variable has a value: a text that is not blank, without the blanks around it. -/
def Gives (vars : Lookup) (key s : String) : Prop :=
  ∃ raw, vars key = some raw ∧ s = Text.trimmed raw ∧ s ≠ ""

/-- A variable is not set, or to a blank text. -/
def Lacks (vars : Lookup) (key : String) : Prop :=
  ∀ raw, vars key = some raw → Text.trimmed raw = ""

theorem value?_eq_some_iff {key s : String} : value? vars key = some s ↔ Gives vars key s := by
  rw [value?, Option.filter_eq_some_iff, Option.map_eq_some_iff]
  constructor
  · rintro ⟨⟨raw, hraw, rfl⟩, hne⟩
    exact ⟨raw, hraw, rfl, by simpa using hne⟩
  · rintro ⟨raw, hraw, rfl, hne⟩
    exact ⟨⟨raw, hraw, rfl⟩, by simpa using hne⟩

theorem value?_eq_none_iff {key : String} : value? vars key = none ↔ Lacks vars key := by
  simp [value?, Lacks, Option.filter_eq_none_iff]

/-- What a variable stands for: a default if it has no value. -/
def Stands {α : Type} (vars : Lookup) (key : String) (Means : String → α → Prop) (default a : α) :
    Prop :=
  (Lacks vars key ∧ a = default) ∨ ∃ s, Gives vars key s ∧ Means s a

section Parsed

variable {α : Type} {key : String} {read? : String → Option α} {default a : α}

theorem parsed_eq_ok_iff {Means : String → α → Prop} (hread : ∀ s a, read? s = some a ↔ Means s a) :
    parsed vars key read? default = .ok a ↔ Stands vars key Means default a := by
  unfold parsed Stands
  cases hvalue : value? vars key with
  | none =>
      have hlacks : Lacks vars key := value?_eq_none_iff.1 hvalue
      have hno : ∀ s, ¬ Gives vars key s := fun s hs => by
        rw [value?_eq_some_iff.2 hs] at hvalue
        cases hvalue
      simp [hlacks, hno, eq_comm]
  | some s =>
      have hgives : ∀ t, Gives vars key t ↔ s = t := fun t => by
        rw [← value?_eq_some_iff, hvalue, Option.some.injEq]
      have hno : ¬ Lacks vars key := fun h => by
        rw [value?_eq_none_iff.2 h] at hvalue
        cases hvalue
      simp only [hno, false_and, false_or, hgives, exists_eq_left', ← hread]
      cases read? s with
      | none => simp
      | some b => simp

theorem parsed_eq_error_iff {e : ConfigError} :
    parsed vars key read? default = .error e ↔
      ∃ s, Gives vars key s ∧ read? s = none ∧ e = ⟨key, s⟩ := by
  unfold parsed
  simp only [← value?_eq_some_iff]
  cases value? vars key with
  | none => simp
  | some s =>
      simp only [Option.some.injEq, exists_eq_left']
      cases read? s with
      | none => simp [eq_comm]
      | some b => simp

/-- A variable stands for one value, if it is read by a function. -/
theorem Stands.unique {Means : String → α → Prop} {b : α}
    (hread : ∀ s a, read? s = some a ↔ Means s a) (ha : Stands vars key Means default a)
    (hb : Stands vars key Means default b) : a = b := by
  rw [← parsed_eq_ok_iff hread] at ha hb
  exact Except.ok.inj (ha.symm.trans hb)

end Parsed

/-! ## Variables -/

/-- The variables whose values may be unusable. -/
inductive Variable where
  | environment
  | port
  | sessionTtl
  | cookieSecure
  | cookieSameSite
  | trustForwardedFor
  | requestTimeout
  deriving DecidableEq, Repr

namespace Variable

/-- The order in which the variables are looked at. -/
def inOrder : List Variable :=
  [environment, port, sessionTtl, cookieSecure, cookieSameSite, trustForwardedFor, requestTimeout]

def key : Variable → String
  | environment => "SYNTHEMA_ENV"
  | port => "SYNTHEMA_API_PORT"
  | sessionTtl => "SYNTHEMA_AUTH_SESSION_TTL_SECONDS"
  | cookieSecure => "SYNTHEMA_AUTH_COOKIE_SECURE"
  | cookieSameSite => "SYNTHEMA_AUTH_COOKIE_SAMESITE"
  | trustForwardedFor => "SYNTHEMA_TRUST_FORWARDED_FOR"
  | requestTimeout => "SYNTHEMA_REQUEST_TIMEOUT_SECONDS"

/-- The text is one that the variable can be set to, as far as its form goes. -/
def Readable : Variable → String → Prop
  | environment, s => ∃ e : Environment, Text.SameWord e.label s
  | port, s | sessionTtl, s => ∃ n, Text.IsInt64 n s
  | cookieSecure, s | trustForwardedFor, s => s = "true" ∨ s = "false"
  | cookieSameSite, s => ∃ r : SameSite, Text.SameWord r.label s
  | requestTimeout, s => ∃ n, Text.IsWord64 n s

/-- The number is in the range of the variable. -/
def Allows : Variable → Int → Prop
  | port, n => 1 ≤ n ∧ n ≤ 65535
  | sessionTtl, n => n ≤ 366 * 86400
  | _, _ => True

/-- The text is a usable value of the variable. -/
structure Accepts (v : Variable) (s : String) : Prop where
  readable : v.Readable s
  allowed : ∀ n, Text.IsInt64 n s → v.Allows n

/-- How a value is blamed: by its text, or by its number. -/
inductive Blames (v : Variable) (s : String) : String → Prop
  | unreadable (h : ¬ v.Readable s) : Blames v s s
  | outOfRange {n : Int} (hn : Text.IsInt64 n s) (h : ¬ v.Allows n) : Blames v s (toString n)

theorem accepts_iff_forall_not_blames {v : Variable} {s : String} :
    v.Accepts s ↔ ∀ t, ¬ v.Blames s t := by
  constructor
  · rintro ⟨hreadable, hallowed⟩ t (hbad | ⟨hn, hbad⟩)
    · exact hbad hreadable
    · exact hbad (hallowed _ hn)
  · intro h
    exact ⟨Classical.byContradiction fun hbad => h _ (.unreadable hbad),
      fun n hn => Classical.byContradiction fun hbad => h _ (.outOfRange hn hbad)⟩

end Variable

/-! ## Checks -/

/-- What is left of a computation when its result is forgotten. -/
def outcome {α : Type} (x : Except ConfigError α) : Except ConfigError Unit := x.map fun _ => ()

theorem outcome_eq_ok_iff {α : Type} {x : Except ConfigError α} :
    outcome x = .ok () ↔ ∃ a, x = .ok a := by
  cases x <;> simp [outcome, Except.map]

theorem outcome_eq_error_iff {α : Type} {x : Except ConfigError α} {e : ConfigError} :
    outcome x = .error e ↔ x = .error e := by
  cases x <;> simp [outcome, Except.map]

theorem outcome_bind {α β : Type} {x : Except ConfigError α} {f : α → Except ConfigError β}
    {g : Except ConfigError Unit} (h : ∀ a, outcome (f a) = g) :
    outcome (x >>= f) = outcome x >>= fun _ => g := by
  cases x with
  | error e => rfl
  | ok a => exact h a

/-- As `outcome_bind`, for a value that is checked before it is used. -/
theorem outcome_bind_bind {α β : Type} {x : Except ConfigError α}
    {check : α → Except ConfigError Unit} {f : α → Except ConfigError β}
    {g : Except ConfigError Unit} (h : ∀ a, outcome (f a) = g) :
    outcome (x >>= fun a => check a >>= fun _ => f a) = (x >>= check) >>= fun _ => g := by
  cases x with
  | error e => rfl
  | ok a =>
      change outcome (check a >>= fun _ => f a) = check a >>= fun _ => g
      cases check a with
      | error e => rfl
      | ok u => exact h a

/-- Whether the value of a variable is usable. -/
def check (vars : Lookup) (v : Variable) : Except ConfigError Unit :=
  match v with
  | .environment => outcome (parsed vars v.key Environment.ofText? .prod)
  | .port => do
      let n ← parsed vars v.key Text.signed64? 8080
      inRange v.key n (1 ≤ n ∧ n ≤ 65535)
  | .sessionTtl => do
      let n ← parsed vars v.key Text.signed64? 0
      inRange v.key n (n ≤ maxTtlSeconds)
  | .cookieSecure => outcome (parsed vars v.key Text.flag? true)
  | .cookieSameSite => outcome (parsed vars v.key SameSite.ofText? .strict)
  | .trustForwardedFor => outcome (parsed vars v.key Text.flag? false)
  | .requestTimeout => outcome (parsed vars v.key Text.unsigned64? 30)

/-- **A configuration is read by checking one variable after the other.** -/
theorem outcome_ofLookup (vars : Lookup) :
    outcome (ofLookup vars) = Variable.inOrder.forM (check vars) := by
  simp only [Variable.inOrder, List.forM]
  refine outcome_bind fun environment => ?_
  refine outcome_bind_bind fun port => ?_
  refine outcome_bind_bind fun ttl => ?_
  refine outcome_bind fun secure => ?_
  refine outcome_bind fun sameSite => ?_
  refine outcome_bind fun trustForwardedFor => ?_
  exact outcome_bind fun timeout => rfl

section Checks

variable {e : ConfigError}

/-- A variable whose values are all in range is to blame only for an unreadable text. -/
theorem outcome_parsed_eq_error_iff {α : Type} {v : Variable} {read? : String → Option α}
    {default : α} (hreadable : ∀ s, v.Readable s ↔ ∃ a, read? s = some a)
    (hallows : ∀ n, v.Allows n) :
    outcome (parsed vars v.key read? default) = .error e ↔
      ∃ s, Gives vars v.key s ∧ e.key = v.key ∧ v.Blames s e.value := by
  rw [outcome_eq_error_iff, parsed_eq_error_iff]
  constructor
  · rintro ⟨s, hs, hnone, rfl⟩
    have hbad : ¬ v.Readable s := by simp [hreadable, hnone]
    exact ⟨s, hs, rfl, .unreadable hbad⟩
  · obtain ⟨key, value⟩ := e
    rintro ⟨s, hs, rfl, hblames⟩
    cases hblames with
    | unreadable hbad =>
        have hnone : read? value = none := Option.eq_none_iff_forall_ne_some.2 fun a ha =>
          hbad ((hreadable value).2 ⟨a, ha⟩)
        exact ⟨value, hs, hnone, rfl⟩
    | outOfRange hn hbad => exact absurd (hallows _) hbad

/-- A variable with a range is to blame for an unreadable text or for a number out of range. The
default is in range. -/
theorem inRange_parsed_eq_error_iff {v : Variable} {ok : Int → Prop} [DecidablePred ok]
    {default : Int} (hreadable : ∀ s, v.Readable s ↔ ∃ n, Text.IsInt64 n s)
    (hallows : ∀ n, v.Allows n ↔ ok n) (hdefault : ok default) :
    (parsed vars v.key Text.signed64? default >>= fun n => inRange v.key n (ok n)) = .error e ↔
      ∃ s, Gives vars v.key s ∧ e.key = v.key ∧ v.Blames s e.value := by
  have hinRange : ∀ {n : Int} {e : ConfigError}, inRange v.key n (ok n) = .error e ↔
      ¬ ok n ∧ e = ⟨v.key, toString n⟩ := fun {n e} => by
    unfold inRange
    rw [Text.integerText_eq_toString]
    by_cases h : ok n <;> simp [h, eq_comm]
  constructor
  · intro h
    cases hparsed : parsed vars v.key Text.signed64? default with
    | error e' =>
        rw [hparsed] at h
        cases h
        obtain ⟨s, hs, hnone, rfl⟩ := parsed_eq_error_iff.1 hparsed
        have hbad : ¬ v.Readable s := by
          simp [hreadable, ← Text.signed64?_eq_some_iff, hnone]
        exact ⟨s, hs, rfl, .unreadable hbad⟩
    | ok n =>
        rw [hparsed] at h
        obtain ⟨hn, rfl⟩ := hinRange.1 h
        rcases (parsed_eq_ok_iff fun _ _ => Text.signed64?_eq_some_iff).1 hparsed with
          ⟨-, rfl⟩ | ⟨s, hs, hread⟩
        · exact absurd hdefault hn
        · exact ⟨s, hs, rfl, .outOfRange hread fun h => hn ((hallows n).1 h)⟩
  · obtain ⟨key, value⟩ := e
    rintro ⟨s, hs, rfl, hblames⟩
    cases hblames with
    | unreadable hbad =>
        have hnone : Text.signed64? value = none := Option.eq_none_iff_forall_ne_some.2 fun n hn =>
          hbad ((hreadable value).2 ⟨n, Text.signed64?_eq_some_iff.1 hn⟩)
        have herror : parsed vars v.key Text.signed64? default = .error ⟨v.key, value⟩ :=
          parsed_eq_error_iff.2 ⟨value, hs, hnone, rfl⟩
        rw [herror]
        rfl
    | @outOfRange n hn hbad =>
        have hok : parsed vars v.key Text.signed64? default = .ok n :=
          (parsed_eq_ok_iff fun _ _ => Text.signed64?_eq_some_iff).2 (Or.inr ⟨s, hs, hn⟩)
        rw [hok]
        exact hinRange.2 ⟨fun h => hbad ((hallows n).2 h), rfl⟩

theorem check_eq_error_iff {v : Variable} :
    check vars v = .error e ↔ ∃ s, Gives vars v.key s ∧ e.key = v.key ∧ v.Blames s e.value := by
  have hflag : ∀ s, (s = "true" ∨ s = "false") ↔ ∃ b, Text.flag? s = some b := fun s => by
    simp [Text.flag?_eq_some_iff, Bool.exists_bool, or_comm]
  cases v with
  | environment =>
      exact outcome_parsed_eq_error_iff (fun s => exists_congr fun _ =>
        Environment.ofText?_eq_some_iff.symm) fun _ => trivial
  | port =>
      exact inRange_parsed_eq_error_iff (fun _ => Iff.rfl) (fun _ => Iff.rfl) (by decide)
  | sessionTtl =>
      exact inRange_parsed_eq_error_iff (fun _ => Iff.rfl) (fun _ => Iff.rfl) (by decide)
  | cookieSecure => exact outcome_parsed_eq_error_iff hflag fun _ => trivial
  | cookieSameSite =>
      exact outcome_parsed_eq_error_iff (fun s => exists_congr fun _ =>
        SameSite.ofText?_eq_some_iff.symm) fun _ => trivial
  | trustForwardedFor => exact outcome_parsed_eq_error_iff hflag fun _ => trivial
  | requestTimeout =>
      exact outcome_parsed_eq_error_iff (fun s => exists_congr fun _ =>
        Text.unsigned64?_eq_some_iff.symm) fun _ => trivial

/-- The variable has no value, or a usable one. -/
def Variable.Passes (vars : Lookup) (v : Variable) : Prop := ∀ s, Gives vars v.key s → v.Accepts s

theorem check_eq_ok_iff {v : Variable} : check vars v = .ok () ↔ v.Passes vars := by
  have hok : check vars v = .ok () ↔ ∀ e, check vars v ≠ .error e := by
    cases check vars v <;> simp
  rw [hok]
  constructor
  · intro h s hs
    exact Variable.accepts_iff_forall_not_blames.2 fun t ht =>
      h ⟨v.key, t⟩ (check_eq_error_iff.2 ⟨s, hs, rfl, ht⟩)
  · intro h e he
    obtain ⟨s, hs, -, hblames⟩ := check_eq_error_iff.1 he
    exact Variable.accepts_iff_forall_not_blames.1 (h s hs) _ hblames

end Checks

section Sequence

variable {α ε : Type} {f : α → Except ε Unit} {l : List α}

theorem forM_eq_ok_iff : l.forM f = .ok () ↔ ∀ a ∈ l, f a = .ok () := by
  induction l with
  | nil => simp [pure, Except.pure]
  | cons a l ih =>
      rw [List.forM]
      cases ha : f a with
      | error e => simp [ha, bind, Except.bind]
      | ok u => simpa [ha, bind, Except.bind] using ih

/-- Of checks that are made one after the other, the first that fails is the one to fail. -/
theorem forM_eq_error_iff {e : ε} :
    l.forM f = .error e ↔
      ∃ before a after, l = before ++ a :: after ∧ (∀ b ∈ before, f b = .ok ()) ∧
        f a = .error e := by
  induction l with
  | nil => simp [pure, Except.pure]
  | cons a l ih =>
      rw [List.forM]
      cases ha : f a with
      | error e' =>
          constructor
          · intro h
            cases h
            exact ⟨[], a, l, rfl, by simp, ha⟩
          · rintro ⟨before, b, after, heq, hbefore, hb⟩
            cases before with
            | nil =>
                cases heq
                rw [ha] at hb
                exact hb
            | cons c before =>
                cases heq
                have hok := hbefore a List.mem_cons_self
                rw [ha] at hok
                cases hok
      | ok u =>
          change l.forM f = .error e ↔ _
          rw [ih]
          constructor
          · rintro ⟨before, b, after, rfl, hbefore, hb⟩
            exact ⟨a :: before, b, after, rfl, List.forall_mem_cons.2 ⟨ha, hbefore⟩, hb⟩
          · rintro ⟨before, b, after, heq, hbefore, hb⟩
            cases before with
            | nil =>
                cases heq
                rw [ha] at hb
                cases hb
            | cons c before =>
                cases heq
                exact ⟨before, b, after, rfl, (List.forall_mem_cons.1 hbefore).2, hb⟩

end Sequence

theorem exists_ofLookup_eq_ok_iff :
    (∃ c, ofLookup vars = .ok c) ↔ ∀ v, Variable.Passes vars v := by
  rw [← outcome_eq_ok_iff, outcome_ofLookup, forM_eq_ok_iff]
  simp only [check_eq_ok_iff]
  exact ⟨fun h v => h v (by cases v <;> decide), fun h v _ => h v⟩

/-- **The first unusable value is the one that is blamed.** -/
theorem ofLookup_eq_error_iff {e : ConfigError} :
    ofLookup vars = .error e ↔
      ∃ before v after s, Variable.inOrder = before ++ v :: after ∧
        (∀ w ∈ before, w.Passes vars) ∧ Gives vars v.key s ∧ e.key = v.key ∧
          v.Blames s e.value := by
  rw [← outcome_eq_error_iff, outcome_ofLookup, forM_eq_error_iff]
  simp only [check_eq_ok_iff, check_eq_error_iff]
  constructor
  · rintro ⟨before, v, after, horder, hbefore, s, hblamed⟩
    exact ⟨before, v, after, s, horder, hbefore, hblamed⟩
  · rintro ⟨before, v, after, s, horder, hbefore, hblamed⟩
    exact ⟨before, v, after, horder, hbefore, s, hblamed⟩

/-! ## Accepted configurations -/

/-- What an accepted configuration says about the variables. -/
structure Describes (vars : Lookup) (c : Config) : Prop where
  environment : Stands vars "SYNTHEMA_ENV" (fun s e => Text.SameWord e.label s) .prod c.environment
  host : Stands vars "SYNTHEMA_API_HOST" (fun s host => host = s) "0.0.0.0" c.host
  port : Stands vars "SYNTHEMA_API_PORT" (fun s n => Text.IsInt64 n s) 8080 (c.port : Int)
  postgresDsn : ∀ s, c.postgresDsn = some s ↔ Gives vars "SYNTHEMA_POSTGRES_DSN" s
  /-- A number of seconds that is not positive stands for seven days. -/
  sessionTtl : ∃ n,
    Stands vars "SYNTHEMA_AUTH_SESSION_TTL_SECONDS" (fun s n => Text.IsInt64 n s) 0 n ∧
      c.auth.sessionTtl = if 0 < n then .ofSeconds n else .ofDays 7
  cookieName :
    Stands vars "SYNTHEMA_AUTH_COOKIE_NAME" (fun s name => name = s) "session_id" c.auth.cookie.name
  /-- In development the cookie need not be secure. -/
  cookieSecure : ∃ b,
    Stands vars "SYNTHEMA_AUTH_COOKIE_SECURE" (fun s b => s = if b then "true" else "false") true
        b ∧
      c.auth.cookie.secure = if c.environment = .dev then false else b
  /-- In development the strictest rule gives way to the next one. -/
  cookieSameSite : ∃ r,
    Stands vars "SYNTHEMA_AUTH_COOKIE_SAMESITE" (fun s r => Text.SameWord r.label s) .strict r ∧
      c.auth.cookie.sameSite = if c.environment = .dev ∧ r = .strict then .lax else r
  /-- In development the cookie has no domain. -/
  cookieDomain : ∀ s, c.auth.cookie.domain = some s ↔
    c.environment ≠ .dev ∧ Gives vars "SYNTHEMA_AUTH_COOKIE_DOMAIN" s
  trustForwardedFor :
    Stands vars "SYNTHEMA_TRUST_FORWARDED_FOR" (fun s b => s = if b then "true" else "false") false
      c.auth.trustForwardedFor
  /-- A request has a second at least. -/
  requestTimeout : ∃ n,
    Stands vars "SYNTHEMA_REQUEST_TIMEOUT_SECONDS" (fun s n => Text.IsWord64 n s) 30 n ∧
      c.requestTimeoutSeconds = max 1 n
  seedAdmin : ∀ a, c.seedAdmin = some a ↔
    Gives vars "SYNTHEMA_SEED_ADMIN_EMAIL" a.email ∧
      Gives vars "SYNTHEMA_SEED_ADMIN_PASSWORD" a.password

/-- The numbers of a configuration are in range. -/
structure Bounded (c : Config) : Prop where
  port : 1 ≤ c.port ∧ c.port ≤ 65535
  sessionTtl : 0 < c.auth.sessionTtl.nanos ∧ c.auth.sessionTtl.nanos ≤ (Span.ofDays 366).nanos
  requestTimeout : 1 ≤ c.requestTimeoutSeconds

theorem getD_value?_stands {key default : String} :
    Stands vars key (fun s a => a = s) default ((value? vars key).getD default) := by
  cases hvalue : value? vars key with
  | none => exact Or.inl ⟨value?_eq_none_iff.1 hvalue, rfl⟩
  | some s => exact Or.inr ⟨s, value?_eq_some_iff.1 hvalue, rfl⟩

theorem of_inRange_eq_ok {key : String} {n : Int} {ok : Prop} [Decidable ok]
    (h : inRange key n ok = .ok ()) : ok := by
  unfold inRange at h
  split at h
  · assumption
  · cases h

/-- A session lives for a time, and for 366 days at most. -/
theorem sessionTtl_bounds {n : Int} (h : n ≤ 366 * 86400) :
    0 < (if 0 < n then Span.ofSeconds n else Span.ofDays 7).nanos ∧
      (if 0 < n then Span.ofSeconds n else Span.ofDays 7).nanos ≤ (Span.ofDays 366).nanos := by
  split
  · simp only [Span.ofSeconds, Span.ofDays]
    omega
  · decide

/-- **What is said by a configuration that was read, and in which bounds it stays.** -/
theorem describes_and_bounded_of_ofLookup {c : Config} (hc : ofLookup vars = .ok c) :
    Describes vars c ∧ Bounded c := by
  obtain ⟨hname, hdomain⟩ := cookie_of_ofLookup hc
  obtain ⟨environment, henvironment, h⟩ := of_bind_eq_ok hc
  obtain ⟨port, hport, h⟩ := of_bind_eq_ok h
  obtain ⟨⟨⟩, hportRange, h⟩ := of_bind_eq_ok h
  obtain ⟨ttl, httl, h⟩ := of_bind_eq_ok h
  obtain ⟨⟨⟩, httlRange, h⟩ := of_bind_eq_ok h
  obtain ⟨secure, hsecure, h⟩ := of_bind_eq_ok h
  obtain ⟨sameSite, hsameSite, h⟩ := of_bind_eq_ok h
  obtain ⟨trustForwardedFor, htrust, h⟩ := of_bind_eq_ok h
  obtain ⟨timeout, htimeout, h⟩ := of_bind_eq_ok h
  obtain ⟨hport₁, hport₂⟩ := of_inRange_eq_ok hportRange
  have httl₁ : ttl ≤ 366 * 86400 := of_inRange_eq_ok httlRange
  replace hport := (parsed_eq_ok_iff fun _ _ => Text.signed64?_eq_some_iff).1 hport
  have hnat : (port.toNat : Int) = port := Int.toNat_of_nonneg (by omega)
  refine ⟨{
    environment := ?environment
    host := ?host
    port := ?port
    postgresDsn := ?postgresDsn
    sessionTtl :=
      ⟨ttl, (parsed_eq_ok_iff fun _ _ => Text.signed64?_eq_some_iff).1 httl, ?sessionTtl⟩
    cookieName := hname ▸ getD_value?_stands
    cookieSecure :=
      ⟨secure, (parsed_eq_ok_iff fun _ _ => Text.flag?_eq_some_iff).1 hsecure, ?cookieSecure⟩
    cookieSameSite :=
      ⟨sameSite, (parsed_eq_ok_iff fun _ _ => SameSite.ofText?_eq_some_iff).1 hsameSite,
        ?cookieSameSite⟩
    cookieDomain := fun s => ?cookieDomain
    trustForwardedFor := ?trustForwardedFor
    requestTimeout :=
      ⟨timeout, (parsed_eq_ok_iff fun _ _ => Text.unsigned64?_eq_some_iff).1 htimeout,
        ?requestTimeout⟩
    seedAdmin := fun a => ?seedAdmin }, ?bounded⟩
  -- the name and the domain of the cookie are told by the configuration, not by its parts
  case cookieDomain =>
    rw [hdomain, ← value?_eq_some_iff]
    by_cases hdev : c.environment = .dev
    · simp [hdev]
    · simp [hdev]
  all_goals cases h
  case environment =>
    exact (parsed_eq_ok_iff fun _ _ => Environment.ofText?_eq_some_iff).1 henvironment
  case host => exact getD_value?_stands
  case port => exact hnat.symm ▸ hport
  case postgresDsn => exact fun s => value?_eq_some_iff
  case sessionTtl => rfl
  case cookieSecure =>
    by_cases hdev : environment = .dev
    · simp [hdev, CookieSettings.relaxed]
    · simp [hdev]
  case cookieSameSite =>
    by_cases hdev : environment = .dev
    · cases sameSite <;> simp [hdev, CookieSettings.relaxed]
    · simp [hdev]
  case trustForwardedFor => exact (parsed_eq_ok_iff fun _ _ => Text.flag?_eq_some_iff).1 htrust
  case requestTimeout => rfl
  case seedAdmin =>
    simp only [← value?_eq_some_iff]
    obtain ⟨email, password⟩ := a
    cases value? vars "SYNTHEMA_SEED_ADMIN_EMAIL" with
    | none => simp
    | some s =>
        cases value? vars "SYNTHEMA_SEED_ADMIN_PASSWORD" with
        | none => simp
        | some t => simp
  case bounded =>
    have hbounds : 1 ≤ port.toNat ∧ port.toNat ≤ 65535 := by omega
    exact ⟨hbounds, sessionTtl_bounds httl₁, Nat.le_max_left 1 timeout⟩

/-- Two texts that are the same are the same value of an optional variable. -/
theorem option_eq_of_gives {o o' : Option String} {Given : String → Prop}
    (h : ∀ s, o = some s ↔ Given s) (h' : ∀ s, o' = some s ↔ Given s) : o = o' :=
  Option.ext fun s => (h s).trans (h' s).symm

/-- **The variables describe one configuration.** -/
theorem Describes.unique {c c' : Config} (h : Describes vars c) (h' : Describes vars c') :
    c = c' := by
  have hname : ∀ s a : String, some s = some a ↔ a = s := fun s a => by
    rw [Option.some.injEq, eq_comm]
  have henvironment : c.environment = c'.environment :=
    h.environment.unique (fun _ _ => Environment.ofText?_eq_some_iff) h'.environment
  have hhost : c.host = c'.host := h.host.unique hname h'.host
  have hport : c.port = c'.port :=
    Int.ofNat.inj (h.port.unique (fun _ _ => Text.signed64?_eq_some_iff) h'.port)
  have hdsn : c.postgresDsn = c'.postgresDsn := option_eq_of_gives h.postgresDsn h'.postgresDsn
  have httl : c.auth.sessionTtl = c'.auth.sessionTtl := by
    obtain ⟨n, hn, hspan⟩ := h.sessionTtl
    obtain ⟨n', hn', hspan'⟩ := h'.sessionTtl
    rw [hspan, hspan', hn.unique (fun _ _ => Text.signed64?_eq_some_iff) hn']
  have hcookie : c.auth.cookie.name = c'.auth.cookie.name := h.cookieName.unique hname h'.cookieName
  have hsecure : c.auth.cookie.secure = c'.auth.cookie.secure := by
    obtain ⟨b, hb, hflag⟩ := h.cookieSecure
    obtain ⟨b', hb', hflag'⟩ := h'.cookieSecure
    rw [hflag, hflag', henvironment, hb.unique (fun _ _ => Text.flag?_eq_some_iff) hb']
  have hsameSite : c.auth.cookie.sameSite = c'.auth.cookie.sameSite := by
    obtain ⟨r, hr, hrule⟩ := h.cookieSameSite
    obtain ⟨r', hr', hrule'⟩ := h'.cookieSameSite
    rw [hrule, hrule', henvironment, hr.unique (fun _ _ => SameSite.ofText?_eq_some_iff) hr']
  have hdomain : c.auth.cookie.domain = c'.auth.cookie.domain :=
    option_eq_of_gives h.cookieDomain (henvironment ▸ h'.cookieDomain)
  have htrust : c.auth.trustForwardedFor = c'.auth.trustForwardedFor :=
    h.trustForwardedFor.unique (fun _ _ => Text.flag?_eq_some_iff) h'.trustForwardedFor
  have htimeout : c.requestTimeoutSeconds = c'.requestTimeoutSeconds := by
    obtain ⟨n, hn, hseconds⟩ := h.requestTimeout
    obtain ⟨n', hn', hseconds'⟩ := h'.requestTimeout
    rw [hseconds, hseconds', hn.unique (fun _ _ => Text.unsigned64?_eq_some_iff) hn']
  have hseed : c.seedAdmin = c'.seedAdmin :=
    Option.ext fun a => (h.seedAdmin a).trans (h'.seedAdmin a).symm
  obtain ⟨_, _, _, _, ⟨_, ⟨_, _, _, _⟩, _⟩, _, _⟩ := c
  obtain ⟨_, _, _, _, ⟨_, ⟨_, _, _, _⟩, _⟩, _, _⟩ := c'
  simp only at *
  subst henvironment hhost hport hdsn httl hcookie hsecure hsameSite hdomain htrust htimeout hseed
  rfl

theorem ofLookup_eq_ok_iff {c : Config} :
    ofLookup vars = .ok c ↔ (∀ v, Variable.Passes vars v) ∧ Describes vars c := by
  constructor
  · intro h
    exact ⟨exists_ofLookup_eq_ok_iff.1 ⟨c, h⟩, (describes_and_bounded_of_ofLookup h).1⟩
  · rintro ⟨hpass, hdescribes⟩
    obtain ⟨c', hc'⟩ := exists_ofLookup_eq_ok_iff.2 hpass
    rw [hc', hdescribes.unique (describes_and_bounded_of_ofLookup hc').1]

/-- **A configuration is accepted exactly if the values of its variables are, and the first that is
not is blamed.** Whatever the variables are set to, there is one answer or the other. The accepted
configuration is the one that the variables describe: the session lives for the given seconds if
there are any, and for seven days otherwise, a request has a second at least, and there is an
administrator exactly if both of the credentials are given. -/
theorem accepted_exactly (vars : Lookup) :
    ((∃ c, ofLookup vars = .ok c) ↔ ∀ v s, Gives vars v.key s → Variable.Accepts v s) ∧
      (∀ e, ofLookup vars = .error e ↔
        ∃ before v after s, Variable.inOrder = before ++ v :: after ∧
          (∀ w ∈ before, w.Passes vars) ∧ Gives vars v.key s ∧ e.key = v.key ∧
            v.Blames s e.value) ∧
      ∀ c, (ofLookup vars = .ok c ↔ (∀ v, Variable.Passes vars v) ∧ Describes vars c) ∧
        (ofLookup vars = .ok c → Bounded c) :=
  ⟨exists_ofLookup_eq_ok_iff, fun _ => ofLookup_eq_error_iff,
    fun _ => ⟨ofLookup_eq_ok_iff, fun h => (describes_and_bounded_of_ofLookup h).2⟩⟩

end Config
end SessionAuth
