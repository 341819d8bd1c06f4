import SessionAuth.Account.User
import SessionAuth.Api.Messages
import SessionAuth.Proofs.Json.Records
import SessionAuth.Proofs.Json.Scanning
import SessionAuth.Proofs.Json.Writing
import SessionAuth.Proofs.Time.Timestamp
import SessionAuth.Proofs.Uuid
import SessionAuth.Session.Record

set_option autoImplicit false

/-! # What is written is read back

A decoder inverts a writer if it finds in the outline of every written value what was written
(`Json.Decoder.Inverts`). Strings, identifiers and instants have such decoders, and lists, optional
values and records of such values do. Since the text of a value has that outline, the sessions,
roles and answers that the service writes are read back from their texts, and a login is read from
every object text that brings an email and a password: `json_round_trip`.
-/

namespace SessionAuth

namespace Json

namespace Decoder

variable {α : Type} {d : Decoder α} {write : α → Json}

/-- The decoder finds what has been written. -/
def Inverts (d : Decoder α) (write : α → Json) : Prop := ∀ a, d (outlineOf (write a)) = .ok a

theorem string_inverts : string.Inverts .string := fun _ => rfl

theorem written_inverts {read? : String → Option α} {text : α → String}
    (h : ∀ a, read? (text a) = some a) : (written read?).Inverts fun a => .string (text a) := by
  intro a
  simp only [outlineOf, written, string, h]

theorem uuid_inverts : uuid.Inverts fun id => .string id.text := written_inverts Uuid.ofText?_text

theorem instant_inverts : instant.Inverts fun t => .string t.timestamp := by
  refine written_inverts fun t => ?_
  rw [Instant.timestamp, String.toList_ofList, Timestamp.read?_timestampChars]

theorem natural_numeral {bound n : Nat} (hbound : bound ≤ UInt64.size) (h : n < bound) :
    natural bound (outlineOf (.number n)) = .ok n := by
  rw [outlineOf, value_numeral (Nat.lt_of_lt_of_le h hbound)]
  exact if_pos h

theorem list_inverts (h : d.Inverts write) :
    (list d).Inverts fun as => .array (as.map write) := by
  intro as
  simp only [outlineOf, list]
  induction as with
  | nil => rfl
  | cons a as ih => simp only [List.map_cons, itemOutlines, items, h a, ih, Except.map]

/-- An optional value is told from none if no value is written as null. -/
theorem optional_inverts (h : d.Inverts write) (hnull : ∀ a, outlineOf (write a) ≠ .null) :
    (optional d).Inverts fun a? => (a?.map write).getD .null := by
  intro a?
  cases a? with
  | none => rfl
  | some a =>
      have hread : ∀ o, o ≠ .null → optional d o = (d o).map some := fun o ho => by
        cases o with
        | null => exact absurd rfl ho
        | _ => rfl
      simp only [Option.map_some, Option.getD_some, hread _ (hnull a), h a]
      rfl

theorem optional_string (s? : Option String) :
    optional string (outlineOf (.ofString? s?)) = .ok s? := by
  cases s? <;> rfl

theorem optional_instant (t? : Option Instant) :
    optional instant (outlineOf (.ofString? (t?.map Instant.timestamp))) = .ok t? := by
  have h := optional_inverts instant_inverts (fun t => by simp [outlineOf]) t?
  cases t? with
  | none => exact h
  | some t => exact h

/-- A written value that the decoder of a field finds is a value that the record holds. -/
theorem holds_cons {αs : List Type} {name : String} {absent short : Option α} {r : Record αs}
    {a : α} {values : Values αs} {j : Json} {ms : List (String × Json)} (hread : d (outlineOf j) = .ok a)
    (h : r.Holds values (memberOutlines ms)) :
    (Record.cons ⟨name, d, absent, short⟩ r).Holds ((a, values) : α × Values αs)
      (memberOutlines ((name, j) :: ms)) :=
  .cons hread h

theorem holds_nil : Record.nil.Holds () (memberOutlines []) := .nil

/-- What is made of a record's values is made of the object that is written of them in order. -/
theorem decode_written {αs : List Type} {β : Type} {r : Record αs} {values : Values αs}
    {ms : List (String × Json)} {make : Values αs → β} {b : β}
    (h : r.Holds values (memberOutlines ms)) (hnames : r.names.Nodup) (hmake : make values = b) :
    (r.decode (outlineOf (.object ms))).map make = .ok b := by
  have hread : r.decode (outlineOf (.object ms)) = .ok values :=
    Record.decode_object h hnames (fun _ hm => absurd hm List.not_mem_nil)
      (by rw [List.append_nil])
  rw [hread, ← hmake]
  rfl

/-- **What a decoder finds in the outline it finds in the text.** -/
theorem readAll_text_of {j : Json} {a : α} (h : d (outlineOf j) = .ok a) :
    readAll d (Text.utf8 j.text) = .ok a := by
  rw [utf8_text]
  have hread := readAll_of_writes (writes_chars j) blank_nil blank_nil h
  rwa [List.nil_append, List.append_nil] at hread

theorem Inverts.readAll_text (h : d.Inverts write) (a : α) :
    readAll d (Text.utf8 (write a).text) = .ok a := readAll_text_of (h a)

end Decoder
end Json

open Json Decoder

/-! ## What the service writes -/

theorem Session.decode_inverts : Inverts Session.decode Session.toJson := fun s =>
  decode_written
    (holds_cons (uuid_inverts s.id) <| holds_cons (uuid_inverts s.userId) <|
      holds_cons (instant_inverts s.expiresAt) <| holds_cons (optional_instant s.revokedAt) <|
      holds_cons (instant_inverts s.createdAt) <| holds_cons (optional_string s.userAgent) <|
      holds_cons (optional_string s.ipAddress) holds_nil)
    (by simp [record, Record.names]) rfl

theorem Role.decode_inverts : Inverts Role.decode Role.toJson := fun r =>
  decode_written
    (holds_cons (uuid_inverts r.id) <| holds_cons (string_inverts r.name) <|
      holds_cons (optional_string r.description) <| holds_cons (instant_inverts r.createdAt) <|
      holds_cons (instant_inverts r.updatedAt) holds_nil)
    (by simp [record, Record.names]) rfl

theorem UserSummary.decode_inverts : Inverts UserSummary.decode UserSummary.toJson := fun u =>
  decode_written
    (holds_cons (uuid_inverts u.id) <| holds_cons (string_inverts u.email) <|
      holds_cons (list_inverts string_inverts u.roles) holds_nil)
    (by simp [record, Record.names]) rfl

/-- An envelope is read back if its status fits sixteen bits. -/
theorem Envelope.decode_toJson {α : Type} {d : Decoder α} {write : α → Json} (h : d.Inverts write)
    (hnull : ∀ a, outlineOf (write a) ≠ .null) {e : Envelope α} (hstatus : e.status < UInt16.size) :
    Envelope.decode d (outlineOf (e.toJson write)) = .ok e := by
  obtain ⟨status, message, data⟩ := e
  have hdata := optional_inverts h hnull data
  refine decode_written
    (holds_cons (natural_numeral (by decide) hstatus) <|
      holds_cons (string_inverts message) <| holds_cons ?_ holds_nil)
    (by simp [record, Record.names]) rfl
  cases data with
  | none => exact hdata
  | some a => exact hdata

/-! ## What clients send -/

namespace LoginRequest

/-- The members of an object are, in whatever order, the email, the password, and others that have
other names. -/
def BroughtBy (r : LoginRequest) (ms : List Entry) : Prop :=
  ∃ others : List Entry,
    ((.ok "email", .string (.ok r.email)) :: (.ok "password", .string (.ok r.password)) ::
      others).Perm ms ∧
    ∀ m ∈ others, ∃ name, m.1 = .ok name ∧ name ≠ "email" ∧ name ≠ "password"

theorem decode_of_broughtBy {r : LoginRequest} {ms : List Entry} (h : r.BroughtBy ms)
    (hskip : ∀ m ∈ ms, m.2.skipTrouble? = none) : decode (.object ms none) = .ok r := by
  obtain ⟨others, hperm, hothers⟩ := h
  have hvalues : record.decode (.object ms none) = .ok (r.email, r.password, ()) := by
    refine Record.decode_object (.cons rfl (.cons rfl .nil)) (by simp [record, Record.names])
      (fun m hm => ?_) hperm
    -- the others are members of the same object, so they can be passed over
    obtain ⟨name, hname, hemail, hpassword⟩ := hothers m hm
    have hmem : m ∈ ms := hperm.subset (List.mem_cons_of_mem _ (List.mem_cons_of_mem _ hm))
    exact ⟨name, hname, by simp [record, Record.names, hemail, hpassword], hskip m hmem⟩
  rw [decode, hvalues]
  rfl

/-- What an object text writes can be passed over, whatever the names. -/
theorem skipTrouble?_of_mem {bs : Input} {ms : List Entry} (h : Writes bs (.object ms none)) :
    ∀ m ∈ ms, m.2.skipTrouble? = none := by
  cases h with
  | emptyObject => exact fun m hm => absurd hm List.not_mem_nil
  | object m ms _ _ hvalues => exact List.forall_mem_map.2 fun n hn => (hvalues n hn).skipTrouble?

theorem readAll_of_broughtBy {r : LoginRequest} {bs before after : Input} {ms : List Entry}
    (hwrites : Writes bs (.object ms none)) (h : r.BroughtBy ms) (hbefore : Blank before)
    (hafter : Blank after) : readAll decode (before ++ (bs ++ after)) = .ok r :=
  readAll_of_writes hwrites hbefore hafter (decode_of_broughtBy h (skipTrouble?_of_mem hwrites))

theorem decode_inverts : Inverts decode toJson := fun r =>
  decode_written
    (holds_cons (string_inverts r.email) <| holds_cons (string_inverts r.password) holds_nil)
    (by simp [record, Record.names]) rfl

/-- The body is an object that brings the email and the password, with blanks around it or none. -/
def WrittenIn (r : LoginRequest) (body : Input) : Prop :=
  ∃ before bs after ms, body = before ++ (bs ++ after) ∧ Writes bs (.object ms none) ∧
    r.BroughtBy ms ∧ Blank before ∧ Blank after

theorem readFirst_of_writtenIn {r : LoginRequest} {body : Input} (h : r.WrittenIn body) :
    readFirst decode body = .ok r := by
  obtain ⟨before, bs, after, ms, rfl, hwrites, hbrought, hbefore, hafter⟩ := h
  exact readFirst_of_writes hwrites hbefore (stopsNumber_of_blank hafter)
    (decode_of_broughtBy hbrought (skipTrouble?_of_mem hwrites))

/-- A login is written in its own text. -/
theorem writtenIn_text (r : LoginRequest) : r.WrittenIn (Text.utf8 r.toJson.text) := by
  have hbrought : r.BroughtBy
      [(.ok "email", .string (.ok r.email)), (.ok "password", .string (.ok r.password))] :=
    ⟨[], List.Perm.refl _, fun m hm => absurd hm List.not_mem_nil⟩
  refine ⟨[], bytes r.toJson.chars, [], _, ?_, writes_chars r.toJson, hbrought, blank_nil,
    blank_nil⟩
  rw [utf8_text, List.nil_append, List.append_nil]

end LoginRequest

/-- **Everything that is written as JSON is read back from its text**: sessions, roles, summaries of
users and the envelopes around them, with whatever identifiers, strings and instants. And a login is
read from every text of an object with an email and a password, whatever the order of the members,
the blanks between them, and the names and values of the others. -/
theorem json_round_trip :
    (∀ s : Session, readAll Session.decode (Text.utf8 s.toJson.text) = .ok s) ∧
      (∀ r : Role, readAll Role.decode (Text.utf8 r.toJson.text) = .ok r) ∧
      (∀ u : UserSummary, readAll UserSummary.decode (Text.utf8 u.toJson.text) = .ok u) ∧
      (∀ e : Envelope UserSummary, e.status < UInt16.size →
        readAll (Envelope.decode UserSummary.decode)
          (Text.utf8 (e.toJson UserSummary.toJson).text) = .ok e) ∧
      (∀ r : LoginRequest, readAll LoginRequest.decode (Text.utf8 r.toJson.text) = .ok r) ∧
      ∀ (r : LoginRequest) (bs before after : Input) (ms : List Entry),
        Writes bs (.object ms none) → r.BroughtBy ms → Blank before → Blank after →
          readAll LoginRequest.decode (before ++ (bs ++ after)) = .ok r := by
  refine ⟨Session.decode_inverts.readAll_text, Role.decode_inverts.readAll_text,
    UserSummary.decode_inverts.readAll_text, fun e hstatus => ?_,
    LoginRequest.decode_inverts.readAll_text, fun r bs before after ms hwrites h hbefore hafter =>
      LoginRequest.readAll_of_broughtBy hwrites h hbefore hafter⟩
  have hnull : ∀ u : UserSummary, outlineOf u.toJson ≠ .null := fun u => by
    simp [UserSummary.toJson, outlineOf]
  exact readAll_text_of (Envelope.decode_toJson UserSummary.decode_inverts hnull hstatus)

/-- A member that has nothing to do with a login. -/
def remark : Member where
  before := []
  nameText := bytes (quoted "n")
  between := []
  name := .ok "n"
  value := ⟨[0x20], [0x2D, 0x30, 0x2E, 0x35], [],
    .number (NumberParts.value ⟨true, [0x30], [0x35], none⟩)⟩

theorem spaced_remark : remark.Spaced := by
  refine ⟨blank_nil, blank_nil, fun b hb => ?_, blank_nil⟩
  rw [List.mem_singleton.1 hb]
  rfl

theorem writes_remark : Writes remark.value.text remark.value.outline := by
  have hdigit : ∀ d, isDigit d = true → IsDigits [d] := fun d h =>
    ⟨List.cons_ne_nil d [], by simpa using h⟩
  have hinteger : IsInteger [0x30] := ⟨hdigit 0x30 rfl, Or.inl rfl⟩
  have hfraction : IsFraction [0x2E, 0x35] [0x35] := .some (hdigit 0x35 rfl)
  have hnumber : IsNumber [0x30, 0x2E, 0x35] ⟨true, [0x30], [0x35], none⟩ :=
    .parts hinteger hfraction .none
  exact .negative hnumber rfl

/-- A login with its members in the other order, behind one of another name. -/
theorem json_round_trip_small :
    readAll LoginRequest.decode
        (Text.utf8 "\x7b\"n\": -0.5,\"password\":\"p\",\"email\":\"a\"\x7d") = .ok ⟨"a", "p"⟩ := by
  let ms : List Member := [memberOf ("password", .string "p"), memberOf ("email", .string "a")]
  have hwrites : Writes (0x7B :: (remark.bytes ++ Member.tailBytes ms))
      (.object ((remark :: ms).map Member.outline) none) := by
    refine .object remark ms ?_ ?_ ?_
    all_goals simp only [ms, List.forall_mem_cons]
    · exact ⟨spaced_remark, spaced_memberOf _, spaced_memberOf _, by simp⟩
    · exact ⟨isString_quoted "n", isString_quoted "password", isString_quoted "email", by simp⟩
    · exact ⟨writes_remark, writes_chars (.string "p"), writes_chars (.string "a"), by simp⟩
  have hbrought : LoginRequest.BroughtBy ⟨"a", "p"⟩ ((remark :: ms).map Member.outline) := by
    have hreverse := List.reverse_perm ((remark :: ms).map Member.outline)
    refine ⟨[remark.outline], hreverse, fun m hm => ?_⟩
    rw [List.mem_singleton.1 hm]
    exact ⟨"n", rfl, by simp, by simp⟩
  have htext : Text.utf8 "\x7b\"n\": -0.5,\"password\":\"p\",\"email\":\"a\"\x7d" =
      [] ++ (0x7B :: (remark.bytes ++ Member.tailBytes ms) ++ []) := by
    decide
  rw [htext]
  exact json_round_trip.2.2.2.2.2 ⟨"a", "p"⟩ _ _ _ _ hwrites hbrought blank_nil blank_nil

end SessionAuth
