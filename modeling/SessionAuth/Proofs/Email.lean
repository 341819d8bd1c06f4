import SessionAuth.Email
import SessionAuth.Proofs.Text.Split

set_option autoImplicit false

/-! # The grammar of addresses

A *mailbox* is a local part and a list of labels. Its text is the local part, an at sign, and the
labels with full stops between them. There is at least one label, no part is empty, no part holds an
at sign, no label holds a full stop, and no character of the text is a blank or a control character:
`Email.Mailbox`.

An address is the text of a mailbox (`Email.isAddress_iff`), and of one mailbox only
(`Email.Mailbox.text_injective`). A login has the right form exactly if there is a password and the
email is an address that is not too long (`Email.checkLogin_eq_ok_iff`).
-/

namespace SessionAuth.Email

/-! ## Mailboxes -/

/-- What an address is made of. -/
structure Parts where
  localPart : String
  labels : List String

/-- The parts as they are written. -/
def Parts.text (p : Parts) : String := p.localPart ++ "@" ++ ".".intercalate p.labels

/-- The parts of an address. -/
structure Mailbox extends Parts where
  localPart_ne : localPart ≠ ""
  labels_ne : labels ≠ []
  label_ne : ∀ label ∈ labels, label ≠ ""
  visible : ∀ c ∈ toParts.text.toList, Text.isBlank c = false ∧ Text.isControl c = false
  at_notMem_localPart : '@' ∉ localPart.toList
  at_notMem_label : ∀ label ∈ labels, '@' ∉ label.toList
  stop_notMem_label : ∀ label ∈ labels, '.' ∉ label.toList

namespace Mailbox

/-- The address of a mailbox. -/
def text (m : Mailbox) : String := m.toParts.text

/-- What stands behind the at sign. -/
def domain (m : Mailbox) : List Char := ['.'].intercalate (m.labels.map String.toList)

theorem toList_text (m : Mailbox) : m.text.toList = m.localPart.toList ++ '@' :: m.domain := by
  simp [text, Parts.text, domain]

/-- The first at sign is the one behind the local part. -/
theorem cutAt?_text (m : Mailbox) :
    Text.cutAt? '@' m.text.toList = some (m.localPart.toList, m.domain) :=
  Text.cutAt?_eq_some_iff.2 ⟨m.toList_text, m.at_notMem_localPart⟩

/-- It is also the last one. -/
theorem at_notMem_domain (m : Mailbox) : '@' ∉ m.domain := by
  refine Text.not_mem_intercalate (by decide) fun piece hpiece => ?_
  obtain ⟨label, hlabel, rfl⟩ := List.mem_map.1 hpiece
  exact m.at_notMem_label label hlabel

/-- The full stops of the domain are those between the labels. -/
theorem splitAt_domain (m : Mailbox) :
    Text.splitAt '.' m.domain = m.labels.map String.toList := by
  refine Text.splitAt_intercalate (by simpa using m.labels_ne) fun piece hpiece => ?_
  obtain ⟨label, hlabel, rfl⟩ := List.mem_map.1 hpiece
  exact m.stop_notMem_label label hlabel

/-- **An address is that of one mailbox only.** -/
theorem text_injective : Function.Injective text := by
  intro m m' h
  have hcut := m.cutAt?_text
  rw [h, m'.cutAt?_text, Option.some.injEq, Prod.mk.injEq] at hcut
  have hlabels := m.splitAt_domain
  rw [← hcut.2, m'.splitAt_domain] at hlabels
  obtain ⟨⟨localPart, labels⟩⟩ := m
  obtain ⟨⟨localPart', labels'⟩⟩ := m'
  obtain rfl : localPart' = localPart := String.toList_inj.1 hcut.1
  obtain rfl : labels' = labels :=
    (List.map_inj_right fun _ _ => String.toList_inj.1).1 hlabels
  rfl

end Mailbox

/-! ## Addresses -/

/-- What the check of an address finds in it. -/
theorem isAddress_iff_cut {cs : List Char} :
    isAddress cs = true ↔ ∃ front back, Text.cutAt? '@' cs = some (front, back) ∧ front ≠ [] ∧
      '@' ∉ back ∧ (∀ c ∈ cs, Text.isBlank c = false ∧ Text.isControl c = false) ∧
        ∀ label ∈ Text.splitAt '.' back, label ≠ [] := by
  unfold isAddress
  cases Text.cutAt? '@' cs with
  | none => simp
  | some pair =>
      obtain ⟨front, back⟩ := pair
      simp [and_assoc]

/-- **A text is an address exactly if it is that of a mailbox.** -/
theorem isAddress_iff {s : String} : isAddress s.toList = true ↔ ∃ m : Mailbox, m.text = s := by
  rw [isAddress_iff_cut]
  constructor
  · rintro ⟨front, back, hcut, hfront, hback, hvisible, hlabels⟩
    obtain ⟨hchars, hmark⟩ := Text.cutAt?_eq_some_iff.1 hcut
    have htext : (Parts.mk (String.ofList front)
        ((Text.splitAt '.' back).map String.ofList)).text = s := by
      rw [← String.toList_inj, hchars]
      simp [Parts.text, Function.comp_def, Text.intercalate_splitAt]
    -- the labels are the pieces of what stands behind the at sign
    have hpieces : ∀ label ∈ (Text.splitAt '.' back).map String.ofList,
        label.toList ∈ Text.splitAt '.' back := by
      intro label hlabel
      obtain ⟨piece, hpiece, rfl⟩ := List.mem_map.1 hlabel
      rwa [String.toList_ofList]
    refine ⟨{
      localPart := String.ofList front
      labels := (Text.splitAt '.' back).map String.ofList
      localPart_ne := by simpa using hfront
      labels_ne := by simpa using Text.splitAt_ne_nil '.' back
      label_ne := fun label hlabel hempty => hlabels _ (hpieces label hlabel) (by simp [hempty])
      visible := by rwa [htext]
      at_notMem_localPart := by rwa [String.toList_ofList]
      at_notMem_label := fun label hlabel hmem =>
        hback ((Text.of_mem_splitAt (hpieces label hlabel)).2 hmem)
      stop_notMem_label := fun label hlabel =>
        (Text.of_mem_splitAt (hpieces label hlabel)).1 }, htext⟩
  · rintro ⟨m, rfl⟩
    refine ⟨_, _, m.cutAt?_text, by simpa using m.localPart_ne, m.at_notMem_domain, m.visible, ?_⟩
    intro piece hpiece
    rw [m.splitAt_domain] at hpiece
    obtain ⟨label, hlabel, rfl⟩ := List.mem_map.1 hpiece
    simpa using m.label_ne label hlabel

/-! ## Logins -/

variable {email password : String}

/-- **A login has the right form** exactly if there is a password and the email is an address that is
not too long. -/
theorem checkLogin_eq_ok_iff :
    checkLogin email password = .ok () ↔
      password ≠ "" ∧ isAddress email.toList = true ∧ email.length ≤ 320 := by
  unfold checkLogin
  split
  · next hblank =>
    refine iff_of_false (by simp) ?_
    rintro ⟨hpassword, haddress, -⟩
    -- no address is empty
    rcases hblank with rfl | hempty
    · cases haddress
    · exact hpassword hempty
  · next hblank =>
    rw [not_or] at hblank
    split
    · next hlong => exact iff_of_false (by simp) fun h => Nat.not_lt.2 h.2.2 hlong
    · next hlong =>
      split
      · next haddress => exact iff_of_true rfl ⟨hblank.2, haddress, Nat.not_lt.1 hlong⟩
      · next haddress => exact iff_of_false (by simp) fun h => haddress h.2.1

/-- Then neither of the two is empty. -/
theorem not_blank_of_checkLogin (h : checkLogin email password = .ok ()) :
    ¬ (email = "" ∨ password = "") := by
  obtain ⟨hpassword, haddress, -⟩ := checkLogin_eq_ok_iff.1 h
  rintro (rfl | hempty)
  · cases haddress
  · exact hpassword hempty

end SessionAuth.Email
