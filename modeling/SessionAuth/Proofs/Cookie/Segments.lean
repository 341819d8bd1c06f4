import Mathlib.Logic.Relation
import SessionAuth.Proofs.Cookie.RoundTrip
import SessionAuth.Proofs.Text.Split

set_option autoImplicit false

/-! # Which segment decides

The values of the `Cookie` headers are cut into segments (`Cookie.Cuts`); a value that is not text
has none. The first segment with an equals sign that has the name of the cookie in front of it
*decides*: what stands behind the equals sign is the value, and if that is empty, there is none.

So whatever else a request brings along makes no difference: segments of other cookies, values that
are no text, segments behind the one that decides, and how the segments are spread over headers. Each
of these is a `Cookie.Edit` of the values, and the reader answers the same after any number of
them, made or unmade: `CookieSettings.read_first_deciding`.
-/

namespace SessionAuth

/-! ## Values put together -/

namespace Header

theorem visible?_append (v w : List UInt8) :
    visible? (v ++ w) = (visible? v).bind fun cs => (visible? w).map (cs ++ ·) := by
  unfold visible?
  rw [List.all_append, List.map_append]
  cases v.all isVisible with
  | false => rfl
  | true =>
      cases w.all isVisible with
      | false => rfl
      | true => rfl

theorem visible?_joined (v w : List UInt8) :
    visible? (v ++ 0x3B :: w) =
      (visible? v).bind fun cs => (visible? w).map fun ds => cs ++ ';' :: ds := by
  have hmark : visible? [0x3B] = some [';'] := by decide
  rw [← List.singleton_append, visible?_append, visible?_append, hmark]
  cases visible? v with
  | none => rfl
  | some cs =>
      cases visible? w with
      | none => rfl
      | some ds => rfl

/-- Two values with a semicolon between them are no text if one of them is none. -/
theorem visible?_joined_eq_none_iff {v w : List UInt8} :
    visible? (v ++ 0x3B :: w) = none ↔ visible? v = none ∨ visible? w = none := by
  rw [visible?_joined]
  cases visible? v with
  | none => simp
  | some cs => simp

end Header

namespace Cookie

variable {name : String}

/-! ## Segments -/

/-- The values of some headers are cut into segments: a value that is no text is passed over, and
any other is its segments with a semicolon between them. -/
inductive Cuts : List (List UInt8) → List (List Char) → Prop
  | nil : Cuts [] []
  | hidden {v : List UInt8} {vs : List (List UInt8)} {segs : List (List Char)}
      (hidden : Header.visible? v = none) (rest : Cuts vs segs) : Cuts (v :: vs) segs
  | text {v : List UInt8} {vs : List (List UInt8)} {pieces segs : List (List Char)}
      (nonempty : pieces ≠ []) (uncut : ∀ p ∈ pieces, ';' ∉ p)
      (text : Header.visible? v = some ([';'].intercalate pieces)) (rest : Cuts vs segs) :
      Cuts (v :: vs) (pieces ++ segs)

/-- The segments of some values. -/
def segmentsIn (vs : List (List UInt8)) : List (List Char) :=
  (vs.filterMap Header.visible?).flatMap (Text.splitAt ';')

theorem segments_eq (hs : Headers) : segments hs = segmentsIn (hs.getAll "cookie") := rfl

theorem segmentsIn_append (vs ws : List (List UInt8)) :
    segmentsIn (vs ++ ws) = segmentsIn vs ++ segmentsIn ws := by
  rw [segmentsIn, List.filterMap_append, List.flatMap_append]
  rfl

theorem segmentsIn_cons (v : List UInt8) (vs : List (List UInt8)) :
    segmentsIn (v :: vs) = segmentsIn [v] ++ segmentsIn vs := segmentsIn_append [v] vs

/-- The segments of one value stand between those of the values around it. -/
theorem segmentsIn_around (before : List (List UInt8)) (v : List UInt8)
    (after : List (List UInt8)) :
    segmentsIn (before ++ v :: after) =
      segmentsIn before ++ (segmentsIn [v] ++ segmentsIn after) := by
  rw [segmentsIn_append, segmentsIn_cons]

theorem segmentsIn_of_hidden {v : List UInt8} (h : Header.visible? v = none) :
    segmentsIn [v] = [] := by
  rw [segmentsIn, List.filterMap_cons_none h]
  rfl

theorem segmentsIn_of_text {v : List UInt8} {cs : List Char} (h : Header.visible? v = some cs) :
    segmentsIn [v] = Text.splitAt ';' cs := by
  rw [segmentsIn, List.filterMap_cons_some h]
  exact List.append_nil _

/-- **Values are cut in one way.** -/
theorem cuts_iff {vs : List (List UInt8)} {segs : List (List Char)} :
    Cuts vs segs ↔ segs = segmentsIn vs := by
  constructor
  · intro h
    induction h with
    | nil => rfl
    | hidden hidden rest ih => rw [segmentsIn_cons, segmentsIn_of_hidden hidden, ih, List.nil_append]
    | text nonempty uncut text rest ih =>
        rw [segmentsIn_cons, segmentsIn_of_text text, Text.splitAt_intercalate nonempty uncut, ih]
  · rintro rfl
    induction vs with
    | nil => exact .nil
    | cons v vs ih =>
        rw [segmentsIn_cons]
        cases hv : Header.visible? v with
        | none =>
            rw [segmentsIn_of_hidden hv, List.nil_append]
            exact .hidden hv ih
        | some cs =>
            rw [segmentsIn_of_text hv]
            refine .text (Text.splitAt_ne_nil ';' cs) (fun p hp => (Text.of_mem_splitAt hp).1) ?_ ih
            rw [hv, Text.intercalate_splitAt]

/-- Two values that are text have the same segments if a semicolon joins them. -/
theorem segmentsIn_joined {v w : List UInt8} (hv : Header.visible? v ≠ none)
    (hw : Header.visible? w ≠ none) :
    segmentsIn [v ++ 0x3B :: w] = segmentsIn [v] ++ segmentsIn [w] := by
  obtain ⟨cs, hcs⟩ := Option.ne_none_iff_exists'.1 hv
  obtain ⟨ds, hds⟩ := Option.ne_none_iff_exists'.1 hw
  have hjoined : Header.visible? (v ++ 0x3B :: w) = some (cs ++ ';' :: ds) := by
    rw [Header.visible?_joined, hcs, hds]
    rfl
  rw [segmentsIn_of_text hcs, segmentsIn_of_text hds, segmentsIn_of_text hjoined]
  exact Text.splitAt_append_mark ';' cs ds

/-- Of a value that is no text there is no segment, wherever a semicolon divides it. -/
theorem segmentsIn_joined_of_hidden {v w : List UInt8}
    (h : Header.visible? v = none ∨ Header.visible? w = none) :
    segmentsIn [v ++ 0x3B :: w] = [] :=
  segmentsIn_of_hidden (Header.visible?_joined_eq_none_iff.2 h)

/-! ## Deciding -/

/-- The segment has an equals sign, and in front of its first one stands the name. -/
def Decides (name : String) (segment : List Char) : Prop :=
  ∃ before after, segment = before ++ '=' :: after ∧ '=' ∉ before ∧
    Text.trim before = name.toList

/-- A segment gives a value to the name in front of its first equals sign. -/
theorem valueOf?_cut {before : List Char} (huncut : '=' ∉ before) (after : List Char) :
    valueOf? name (before ++ '=' :: after) =
      if Text.trim before = name.toList then some (unquoted (Text.trim after)) else none := by
  have huncut' : '=' ∉ Text.trimStart before := fun hmem =>
    huncut ((Text.trimStart_suffix before).subset hmem)
  have hcut : pair? (before ++ '=' :: after) =
      some (Text.trimStart before, Text.trimEnd after) := by
    rw [pair?, Text.trim_of_mark (by decide)]
    exact Text.cutAt?_eq_some_iff.2 ⟨rfl, huncut'⟩
  rw [valueOf?, hcut]
  simp only [Text.trim_trimStart, Text.trim_trimEnd]

theorem valueOf?_uncut {segment : List Char} (h : '=' ∉ segment) :
    valueOf? name segment = none := by
  have huncut : '=' ∉ Text.trim segment := fun hmem => h (Text.trim_subset segment hmem)
  rw [valueOf?, pair?, Text.cutAt?_eq_none_iff.2 huncut]

/-- The segments that give no value are those that do not decide. -/
theorem valueOf?_eq_none_iff {segment : List Char} :
    valueOf? name segment = none ↔ ¬ Decides name segment := by
  constructor
  · rintro hnone ⟨before, after, rfl, huncut, hname⟩
    rw [valueOf?_cut huncut, if_pos hname] at hnone
    cases hnone
  · intro hnot
    cases hcut : Text.cutAt? '=' segment with
    | none => exact valueOf?_uncut (Text.cutAt?_eq_none_iff.1 hcut)
    | some parts =>
        obtain ⟨hsegment, huncut⟩ := Text.cutAt?_eq_some_iff.1 hcut
        rw [hsegment, valueOf?_cut huncut, if_neg]
        exact fun hname => hnot ⟨_, _, hsegment, huncut, hname⟩

/-- Nothing but segments that do not decide, one that does, and anything behind it. -/
theorem findSome?_of_first {earlier later : List (List Char)} {before after : List Char}
    (hearlier : ∀ seg ∈ earlier, ¬ Decides name seg) (huncut : '=' ∉ before)
    (hname : Text.trim before = name.toList) :
    (earlier ++ (before ++ '=' :: after) :: later).findSome? (valueOf? name) =
      some (unquoted (Text.trim after)) := by
  have hnone : earlier.findSome? (valueOf? name) = none :=
    List.findSome?_eq_none_iff.2 fun seg hseg => valueOf?_eq_none_iff.2 (hearlier seg hseg)
  rw [List.findSome?_append, hnone, Option.none_or, List.findSome?_cons, valueOf?_cut huncut,
    if_pos hname]

/-- Some segment decides first, or none does. -/
theorem first_cases (name : String) (segs : List (List Char)) :
    (∃ earlier before after later, segs = earlier ++ (before ++ '=' :: after) :: later ∧
        '=' ∉ before ∧ Text.trim before = name.toList ∧ ∀ seg ∈ earlier, ¬ Decides name seg) ∨
      ∀ seg ∈ segs, ¬ Decides name seg := by
  induction segs with
  | nil => exact Or.inr fun seg hseg => absurd hseg List.not_mem_nil
  | cons seg segs ih =>
      by_cases hseg : Decides name seg
      · obtain ⟨before, after, rfl, huncut, hname⟩ := hseg
        exact Or.inl ⟨[], before, after, segs, rfl, huncut, hname, by simp⟩
      · rcases ih with ⟨earlier, before, after, later, rfl, huncut, hname, hearlier⟩ | hnone
        · refine Or.inl ⟨seg :: earlier, before, after, later, rfl, huncut, hname, ?_⟩
          exact List.forall_mem_cons.2 ⟨hseg, hearlier⟩
        · exact Or.inr (List.forall_mem_cons.2 ⟨hseg, hnone⟩)

/-! ## Edits -/

/-- The second list of values is the first with `t` put into it as a segment: alone, at the front of
a value, at its end, or between two segments of it. In front of that place stand the segments of
`earlier`. -/
inductive Puts (t : List UInt8) : (earlier vs vs' : List (List UInt8)) → Prop
  | alone (before after : List (List UInt8)) :
      Puts t before (before ++ after) (before ++ t :: after)
  | front (before : List (List UInt8)) (v : List UInt8) (after : List (List UInt8)) :
      Puts t before (before ++ v :: after) (before ++ (t ++ 0x3B :: v) :: after)
  | back (before : List (List UInt8)) (v : List UInt8) (after : List (List UInt8)) :
      Puts t (before ++ [v]) (before ++ v :: after) (before ++ (v ++ 0x3B :: t) :: after)
  | between (before : List (List UInt8)) (v w : List UInt8) (after : List (List UInt8)) :
      Puts t (before ++ [v]) (before ++ (v ++ 0x3B :: w) :: after)
        (before ++ (v ++ 0x3B :: (t ++ 0x3B :: w)) :: after)

/-- The bytes are the text of one segment that does not decide. -/
def Foreign (name : String) (t : List UInt8) : Prop :=
  ∃ cs, Header.visible? t = some cs ∧ ';' ∉ cs ∧ ¬ Decides name cs

/-- What may be done to the values of the `Cookie` headers without a difference to the reader of a
name. -/
inductive Edit (name : String) : (vs vs' : List (List UInt8)) → Prop
  /-- A segment of another cookie is put anywhere. -/
  | foreign {t : List UInt8} {earlier vs vs' : List (List UInt8)} (foreign : Foreign name t)
      (puts : Puts t earlier vs vs') : Edit name vs vs'
  /-- Some text is put anywhere behind the segment that decides. -/
  | behind {t : List UInt8} {earlier vs vs' : List (List UInt8)} {segs : List (List Char)}
      (text : Header.visible? t ≠ none) (cuts : Cuts earlier segs)
      (decided : ∃ seg ∈ segs, Decides name seg) (puts : Puts t earlier vs vs') : Edit name vs vs'
  /-- A value that is no text is put anywhere. -/
  | hidden {v : List UInt8} (hidden : Header.visible? v = none)
      (before after : List (List UInt8)) : Edit name (before ++ after) (before ++ v :: after)
  /-- Two values that are text become one. -/
  | join {v w : List UInt8} (text : Header.visible? v ≠ none) (text' : Header.visible? w ≠ none)
      (before after : List (List UInt8)) :
      Edit name (before ++ v :: w :: after) (before ++ (v ++ 0x3B :: w) :: after)

/-- **What putting in a segment does** to the segments of some values: it is put behind those that
stand in front of it, unless the whole value is no text. -/
theorem Puts.segmentsIn {t : List UInt8} {earlier vs vs' : List (List UInt8)}
    (h : Puts t earlier vs vs') (ht : Header.visible? t ≠ none) :
    segmentsIn vs' = segmentsIn vs ∨
      ∃ later, segmentsIn vs = segmentsIn earlier ++ later ∧
        segmentsIn vs' = segmentsIn earlier ++ (segmentsIn [t] ++ later) := by
  cases h with
  | alone before after =>
      exact Or.inr ⟨Cookie.segmentsIn after, segmentsIn_append _ _, segmentsIn_around _ _ _⟩
  | front before v after =>
      rw [segmentsIn_around, segmentsIn_around]
      by_cases hv : Header.visible? v = none
      · rw [segmentsIn_of_hidden hv, segmentsIn_joined_of_hidden (.inr hv)]
        exact Or.inl rfl
      · rw [segmentsIn_joined ht hv, List.append_assoc]
        exact Or.inr ⟨_, rfl, rfl⟩
  | back before v after =>
      rw [segmentsIn_around, segmentsIn_around, segmentsIn_append]
      by_cases hv : Header.visible? v = none
      · rw [segmentsIn_of_hidden hv, segmentsIn_joined_of_hidden (.inl hv)]
        exact Or.inl rfl
      · rw [segmentsIn_joined hv ht, List.append_assoc]
        exact Or.inr ⟨_, (List.append_assoc _ _ _).symm, (List.append_assoc _ _ _).symm⟩
  | between before v w after =>
      rw [segmentsIn_around, segmentsIn_around, segmentsIn_append]
      by_cases hv : Header.visible? v = none ∨ Header.visible? w = none
      · have hv' : Header.visible? v = none ∨ Header.visible? (t ++ 0x3B :: w) = none :=
          hv.imp_right fun hw => Header.visible?_joined_eq_none_iff.2 (.inr hw)
        rw [segmentsIn_joined_of_hidden hv, segmentsIn_joined_of_hidden hv']
        exact Or.inl rfl
      · obtain ⟨hv, hw⟩ := not_or.1 hv
        have htw : Header.visible? (t ++ 0x3B :: w) ≠ none := fun h =>
          (Header.visible?_joined_eq_none_iff.1 h).elim ht hw
        rw [segmentsIn_joined hv hw, segmentsIn_joined hv htw, segmentsIn_joined ht hw]
        simp only [List.append_assoc]
        exact Or.inr ⟨_, rfl, rfl⟩

/-- **No edit changes the value that is found.** -/
theorem Edit.findSome? {vs vs' : List (List UInt8)} (h : Edit name vs vs') :
    (segmentsIn vs').findSome? (valueOf? name) = (segmentsIn vs).findSome? (valueOf? name) := by
  cases h with
  | @foreign t earlier _ _ foreign puts =>
      obtain ⟨cs, htext, huncut, hnot⟩ := foreign
      have hnone : (segmentsIn [t]).findSome? (valueOf? name) = none := by
        rw [segmentsIn_of_text htext, Text.splitAt_of_not_mem huncut, List.findSome?_singleton]
        exact valueOf?_eq_none_iff.2 hnot
      rcases puts.segmentsIn (by simp [htext]) with hsame | ⟨later, hbefore, hafter⟩
      · rw [hsame]
      · rw [hbefore, hafter]
        simp only [List.findSome?_append, hnone, Option.none_or]
  | @behind t earlier _ _ _ text cuts decided puts =>
      obtain ⟨seg, hseg, hdecides⟩ := decided
      rw [cuts_iff.1 cuts] at hseg
      rcases puts.segmentsIn text with hsame | ⟨later, hbefore, hafter⟩
      · rw [hsame]
      · -- the value has been found before the place is reached
        obtain ⟨value, hvalue⟩ :
            ∃ value, (segmentsIn earlier).findSome? (valueOf? name) = some value := by
          refine Option.ne_none_iff_exists'.1 fun hnone => ?_
          exact valueOf?_eq_none_iff.1 (List.findSome?_eq_none_iff.1 hnone seg hseg) hdecides
        rw [hbefore, hafter]
        simp only [List.findSome?_append, hvalue, Option.some_or]
  | hidden hidden before after =>
      rw [segmentsIn_around, segmentsIn_append, segmentsIn_of_hidden hidden, List.nil_append]
  | join text text' before after =>
      rw [segmentsIn_around, segmentsIn_around, segmentsIn_joined text text',
        segmentsIn_cons _ after, List.append_assoc]

/-- Neither does any number of them, made or unmade. -/
theorem findSome?_of_eqvGen {vs vs' : List (List UInt8)} (h : Relation.EqvGen (Edit name) vs vs') :
    (segmentsIn vs').findSome? (valueOf? name) = (segmentsIn vs).findSome? (valueOf? name) := by
  induction h with
  | rel vs vs' hedit => exact hedit.findSome?
  | refl vs => rfl
  | symm vs vs' h ih => exact ih.symm
  | trans vs vs' vs'' h h' ih ih' => exact ih'.trans ih

theorem value?_eq_bind (name : String) (hs : Headers) :
    value? name hs = ((segments hs).findSome? (valueOf? name)).bind fun v =>
      if v = [] then none else some (String.ofList v) := by
  unfold value?
  cases (segments hs).findSome? (valueOf? name) with
  | none => rfl
  | some v => simp

end Cookie

namespace CookieSettings

/-- **The first segment that decides** says what is read. Let the values of the `Cookie` headers of
a request be cut into segments.

* If some segment has the name of the cookie, up to blanks, in front of its first equals sign, then
  the first of these decides: what stands behind the equals sign, without the blanks and then the
  quotes around it, is read, unless that is empty; whatever the later segments are.
* If there is no such segment, nothing is read.
* Requests whose headers differ by any number of edits, made or unmade, are read the same. -/
theorem read_first_deciding (s : CookieSettings) (hs : Headers) :
    (∃ segs, Cookie.Cuts (hs.getAll "cookie") segs ∧
      ((∃ earlier before after later, segs = earlier ++ (before ++ '=' :: after) :: later ∧
          (∀ seg ∈ earlier, ¬ Cookie.Decides s.name seg) ∧
          '=' ∉ before ∧ Text.trim before = s.name.toList ∧
          s.read hs = if Cookie.unquoted (Text.trim after) = [] then none
            else some (String.ofList (Cookie.unquoted (Text.trim after)))) ∨
        (∀ seg ∈ segs, ¬ Cookie.Decides s.name seg) ∧ s.read hs = none)) ∧
    ∀ hs' : Headers,
      Relation.EqvGen (Cookie.Edit s.name) (hs.getAll "cookie") (hs'.getAll "cookie") →
        s.read hs' = s.read hs := by
  have hread : ∀ hs, s.read hs =
      ((Cookie.segments hs).findSome? (Cookie.valueOf? s.name)).bind fun v =>
        if v = [] then none else some (String.ofList v) := Cookie.value?_eq_bind s.name
  refine ⟨⟨Cookie.segments hs, Cookie.cuts_iff.2 rfl, ?_⟩, fun hs' hedits => ?_⟩
  · rcases Cookie.first_cases s.name (Cookie.segments hs) with
      ⟨earlier, before, after, later, hsegs, huncut, hname, hearlier⟩ | hnone
    · refine Or.inl ⟨earlier, before, after, later, hsegs, hearlier, huncut, hname, ?_⟩
      rw [hread, hsegs, Cookie.findSome?_of_first hearlier huncut hname]
      rfl
    · refine Or.inr ⟨hnone, ?_⟩
      rw [hread, List.findSome?_eq_none_iff.2 fun seg hseg =>
        Cookie.valueOf?_eq_none_iff.2 (hnone seg hseg)]
      rfl
  · rw [hread, hread, Cookie.segments_eq, Cookie.segments_eq, Cookie.findSome?_of_eqvGen hedits]

/-- A cookie of another name and a segment that is no pair come in front of a session, another value
for it comes behind, and a value that is no text between the headers: the session is read as
before. -/
theorem read_first_deciding_small :
    ∃ hs hs' : Headers,
      hs.getAll "cookie" = [Text.utf8 "session_id=\"abc\"; session_id=x"] ∧
      hs'.getAll "cookie" = [Text.utf8 "lang", [0xC3, 0xA9],
        Text.utf8 "theme=dark;session_id=\"abc\";session_id=y; session_id=x"] ∧
      ({} : CookieSettings).read hs = some "abc" ∧ ({} : CookieSettings).read hs' = some "abc" := by
  let hs : Headers := [⟨"Cookie", Text.utf8 "session_id=\"abc\"; session_id=x"⟩]
  let hs' : Headers := [⟨"Cookie", Text.utf8 "lang"⟩, ⟨"cookie", [0xC3, 0xA9]⟩,
    ⟨"COOKIE", Text.utf8 "theme=dark;session_id=\"abc\";session_id=y; session_id=x"⟩]
  have hforeign : ∀ text : String, Header.visible? (Text.utf8 text) = some text.toList →
      ';' ∉ text.toList → Cookie.valueOf? "session_id" text.toList = none →
        Cookie.Foreign "session_id" (Text.utf8 text) := fun text htext huncut hnone =>
    ⟨text.toList, htext, huncut, Cookie.valueOf?_eq_none_iff.1 hnone⟩
  have hdecided : ∃ seg ∈ Cookie.segmentsIn [Text.utf8 "theme=dark;session_id=\"abc\""],
      Cookie.Decides "session_id" seg :=
    ⟨"session_id=\"abc\"".toList, by decide, "session_id".toList, "\"abc\"".toList, by decide,
      by decide, by decide⟩
  -- the edits, one after the other
  have hfront : Cookie.Edit "session_id" [Text.utf8 "session_id=\"abc\"; session_id=x"]
      [Text.utf8 "theme=dark;session_id=\"abc\"; session_id=x"] :=
    .foreign (hforeign "theme=dark" (by decide) (by decide) (by decide)) (.front [] _ [])
  have hbetween : Cookie.Edit "session_id"
      [Text.utf8 "theme=dark;session_id=\"abc\"; session_id=x"]
      [Text.utf8 "theme=dark;session_id=\"abc\";session_id=y; session_id=x"] :=
    .behind (t := Text.utf8 "session_id=y") (by decide) (Cookie.cuts_iff.2 rfl) hdecided
      (.between [] (Text.utf8 "theme=dark;session_id=\"abc\"") (Text.utf8 " session_id=x") [])
  have hhidden : Cookie.Edit "session_id"
      [Text.utf8 "theme=dark;session_id=\"abc\";session_id=y; session_id=x"]
      [[0xC3, 0xA9], Text.utf8 "theme=dark;session_id=\"abc\";session_id=y; session_id=x"] :=
    .hidden (by decide) [] _
  have halone : Cookie.Edit "session_id"
      [[0xC3, 0xA9], Text.utf8 "theme=dark;session_id=\"abc\";session_id=y; session_id=x"]
      (hs'.getAll "cookie") :=
    .foreign (hforeign "lang" (by decide) (by decide) (by decide)) (.alone [] _)
  have hedits : Relation.EqvGen (Cookie.Edit "session_id") (hs.getAll "cookie")
      (hs'.getAll "cookie") :=
    ((Relation.EqvGen.rel _ _ hfront).trans _ _ _ (.rel _ _ hbetween)).trans _ _ _
      ((Relation.EqvGen.rel _ _ hhidden).trans _ _ _ (.rel _ _ halone))
  have hread : ({} : CookieSettings).read hs = some "abc" := by decide
  refine ⟨hs, hs', by decide, by decide, hread, ?_⟩
  rw [(read_first_deciding {} hs).2 hs' hedits, hread]

end CookieSettings

end SessionAuth
