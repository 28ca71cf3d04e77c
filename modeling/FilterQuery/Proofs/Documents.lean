/-
**Documents are read back from their texts.**

A document has one compact text and many others, which differ in the blanks between its parts.  The
texts of a document are given by a relation with one constructor for each form of a document, and
it has no room for a comma behind the last part or for a text with a control character in it.
Reading goes by the first character behind the blanks, which tells the form.  The bound on the steps
is never reached, because a bracket or a brace allows for the steps between it and the next value.

Numbers are left out, since no schema has any.

Main definitions:

* `Json.IsGap` — blanks between the parts of a document;
* `Json.Writes`, `Json.WritesItems`, `Json.WritesMembers`, `Json.WritesMember` — the texts of a
  document, with blanks in front;
* `Json.IsTextOf` — the texts of a document;
* `Json.ReadsBack` — texts that are short enough for a number of steps are read back.

Main results:

* `Json.readText?_quoted` — a text between quotes is read back, whatever its characters;
* `Json.ReadsBack.readValue?`, `Json.ReadsBack.readItems?`, `Json.ReadsBack.readMembers?` — one more
  step reads back a text whose parts are read back;
* `Json.IsTextOf.parse?_eq` — a text of a document is read as the document;
* `Json.writes_array`, `Json.writes_object` — the compact text of a document is one of its texts.
-/

import FilterQuery.Json.Read
import Mathlib.Data.List.DropRight
import Mathlib.Tactic.SplitIfs

set_option relaxedAutoImplicit false
set_option autoImplicit false

namespace FilterQuery

namespace Json

variable {n : Nat} {j : Json} {js : List Json} {m : Json.Text × Json}
  {ms : List (Json.Text × Json)} {gap cs ds rest : List Char}

/-! ### Texts between quotes -/

/-- A 16-bit unit is read from its digits, whatever follows them. -/
theorem takeUnit?_append {unit : Nat} (h : takeUnit? cs = some (unit, [])) (rest : List Char) :
    takeUnit? (cs ++ rest) = some (unit, rest) := by
  match cs, h with
  | a :: b :: c :: d :: ds, h =>
      simp only [takeUnit?, Option.map_eq_some_iff, Prod.mk.injEq] at h
      obtain ⟨values, hvalues, rfl, rfl⟩ := h
      simp only [List.cons_append, List.nil_append, takeUnit?, hvalues, Option.map_some]

/-- The digits of a control character come to its code point. -/
theorem takeUnit?_hexPadded :
    ∀ n < 32, takeUnit? (FilterQuery.Text.hexPadded 4 n) = some (n, []) := by
  decide +kernel

/-- A control character is none of the two halves of a pair. -/
theorem decodeUnits_escaped_of_lt (h : n < 32) (us : List CodeUnit) :
    decodeUnits (.escaped n :: us) = (decodeUnits us).map (Char.ofNat n :: ·) := by
  have hhigh : isHighHalf n = false := by simp [isHighHalf]; omega
  have hlow : isLowHalf n = false := by simp [isLowHalf]; omega
  rcases us with _ | ⟨c | m, us⟩ <;> simp [decodeUnits, hhigh, hlow]

/-- A character between quotes is taken as one unit, and the unit makes up the character. -/
theorem exists_unit_quotedChar (c : Char) :
    ∃ u, (∀ n rest, takeUnits? (n + 1) (quotedChar c ++ rest) =
        (takeUnits? n rest).map fun r => (u :: r.1, r.2)) ∧
      ∀ us, decodeUnits (u :: us) = (decodeUnits us).map (c :: ·) := by
  unfold quotedChar
  split_ifs with hquote hslash h h h h h hcontrol
  -- The seven characters with a short escape.
  iterate 7 exact ⟨.plain c, by subst c; exact fun _ _ => rfl, fun _ => rfl⟩
  · refine ⟨.escaped c.toNat, fun n rest => ?_, fun us => ?_⟩
    · have hunit := takeUnit?_append (takeUnit?_hexPadded _ hcontrol) rest
      rw [List.cons_append, List.cons_append, takeUnits?, takeEscape?, hunit, Option.map_some,
        Option.bind_some]
    · rw [decodeUnits_escaped_of_lt hcontrol, Char.ofNat_toNat]
  · refine ⟨.plain c, fun n rest => ?_, fun _ => rfl⟩
    simp only [List.cons_append, List.nil_append, takeUnits?, hcontrol, if_false]

/-- Characters between quotes are taken as units that make them up. -/
theorem exists_units_quoted (cs rest : List Char) (n : Nat) (hn : cs.length + 1 ≤ n) :
    ∃ us, takeUnits? n (cs.flatMap quotedChar ++ '"' :: rest) = some (us, rest) ∧
      decodeUnits us = some cs := by
  induction cs generalizing n with
  | nil =>
      obtain ⟨n, rfl⟩ : ∃ m, n = m + 1 := ⟨n - 1, by simp at hn; omega⟩
      exact ⟨[], rfl, rfl⟩
  | cons c cs ih =>
      obtain ⟨n, rfl⟩ : ∃ m, n = m + 1 := ⟨n - 1, by simp at hn; omega⟩
      obtain ⟨us, htake, hdecode⟩ := ih n (by simpa using hn)
      obtain ⟨u, hunit, hchar⟩ := exists_unit_quotedChar c
      refine ⟨u :: us, ?_, ?_⟩
      · rw [List.flatMap_cons, List.append_assoc, hunit, htake, Option.map_some]
      · rw [hchar, hdecode, Option.map_some]

/-- A text takes at least as many characters between quotes. -/
theorem length_le_flatMap_quotedChar (cs : List Char) :
    cs.length ≤ (cs.flatMap quotedChar).length := by
  induction cs with
  | nil => exact Nat.le_refl _
  | cons c cs ih =>
      have hchar : 1 ≤ (quotedChar c).length := by
        unfold quotedChar
        split_ifs <;> simp
      rw [List.flatMap_cons, List.length_append, List.length_cons]
      omega

/-- A text between quotes is read back, whatever its characters. -/
theorem readText?_quoted (s : String) (rest : List Char) :
    readText? (s.toList.flatMap quotedChar ++ '"' :: rest) = some (some s, rest) := by
  have hlength := length_le_flatMap_quotedChar s.toList
  obtain ⟨us, htake, hdecode⟩ := exists_units_quoted s.toList rest
    ((s.toList.flatMap quotedChar ++ '"' :: rest).length + 1)
    (by rw [List.length_append]; omega)
  rw [readText?, htake, Option.map_some, hdecode, Option.map_some, String.ofList_toList]

/-! ### Blanks between the parts -/

/-- Blanks between the parts of a document. -/
def IsGap (gap : List Char) : Prop :=
  gap.all isSpace = true

instance (gap : List Char) : Decidable (IsGap gap) :=
  inferInstanceAs (Decidable (_ = true))

theorem isGap_nil : IsGap [] := rfl

/-- Blanks are passed over. -/
theorem skipSpaces_append (hgap : IsGap gap) (cs : List Char) :
    skipSpaces (gap ++ cs) = skipSpaces cs :=
  List.dropWhile_append_of_pos (List.all_eq_true.1 hgap)

/-- What is left begins with the first character that is no blank. -/
theorem skipSpaces_append_cons {c : Char} (hgap : IsGap gap) (hc : isSpace c = false)
    (cs : List Char) : skipSpaces (gap ++ c :: cs) = c :: cs := by
  rw [skipSpaces_append hgap]
  exact List.dropWhile_cons_of_neg (by simp [hc])

/-- What is left behind blanks has none in front. -/
@[simp]
theorem skipSpaces_skipSpaces (cs : List Char) : skipSpaces (skipSpaces cs) = skipSpaces cs :=
  List.dropWhile_idempotent isSpace cs

/-- What is left of a text that has more than blanks goes on with what follows the text. -/
theorem skipSpaces_append_of_eq {c : Char} (h : skipSpaces cs = c :: ds) (rest : List Char) :
    skipSpaces (cs ++ rest) = c :: (ds ++ rest) := by
  unfold skipSpaces at *
  rw [List.dropWhile_append, h]
  rfl

@[simp]
theorem readValue?_skipSpaces (n : Nat) (cs : List Char) :
    readValue? n (skipSpaces cs) = readValue? n cs := by
  cases n with
  | zero => rfl
  | succ n => rw [readValue?, readValue?, skipSpaces_skipSpaces]

@[simp]
theorem readItems?_skipSpaces (n : Nat) (cs : List Char) :
    readItems? n (skipSpaces cs) = readItems? n cs := by
  cases n with
  | zero => rfl
  | succ n => rw [readItems?, readItems?, readValue?_skipSpaces]

@[simp]
theorem readMember?_skipSpaces (n : Nat) (cs : List Char) :
    readMember? n (skipSpaces cs) = readMember? n cs := by
  cases n with
  | zero => rfl
  | succ n => rw [readMember?, readMember?, skipSpaces_skipSpaces]

@[simp]
theorem readMembers?_skipSpaces (n : Nat) (cs : List Char) :
    readMembers? n (skipSpaces cs) = readMembers? n cs := by
  cases n with
  | zero => rfl
  | succ n => rw [readMembers?, readMembers?, readMember?_skipSpaces]

/-! ### The texts of a document -/

mutual

/-- The texts of a document, with blanks in front. -/
inductive Writes : Json → List Char → Prop where
  | null {gap : List Char} (hgap : IsGap gap) : Writes .null (gap ++ "null".toList)
  | bool {gap : List Char} (hgap : IsGap gap) (b : Bool) :
      Writes (.bool b) (gap ++ (if b then "true" else "false").toList)
  | text {gap : List Char} (hgap : IsGap gap) (s : String) :
      Writes (ofString s) (gap ++ quoted s.toList)
  | noItems {gap inner : List Char} (hgap : IsGap gap) (hinner : IsGap inner) :
      Writes (.array []) (gap ++ '[' :: (inner ++ [']']))
  | array {gap cs : List Char} {js : List Json} (hgap : IsGap gap) (h : WritesItems js cs) :
      Writes (.array js) (gap ++ '[' :: cs)
  | noMembers {gap inner : List Char} (hgap : IsGap gap) (hinner : IsGap inner) :
      Writes (.object []) (gap ++ '\x7b' :: (inner ++ ['\x7d']))
  | object {gap cs : List Char} {ms : List (Json.Text × Json)} (hgap : IsGap gap)
      (h : WritesMembers ms cs) : Writes (.object ms) (gap ++ '\x7b' :: cs)

/-- The texts of the items of an array, at least one, with the closing bracket. -/
inductive WritesItems : List Json → List Char → Prop where
  | last {j : Json} {cs gap : List Char} (h : Writes j cs) (hgap : IsGap gap) :
      WritesItems [j] (cs ++ (gap ++ [']']))
  | cons {j : Json} {js : List Json} {cs gap ds : List Char} (h : Writes j cs)
      (hgap : IsGap gap) (hs : WritesItems js ds) :
      WritesItems (j :: js) (cs ++ (gap ++ ',' :: ds))

/-- The texts of the members of an object, at least one, with the closing brace. -/
inductive WritesMembers : List (Json.Text × Json) → List Char → Prop where
  | last {m : Json.Text × Json} {cs gap : List Char} (h : WritesMember m cs)
      (hgap : IsGap gap) : WritesMembers [m] (cs ++ (gap ++ ['\x7d']))
  | cons {m : Json.Text × Json} {ms : List (Json.Text × Json)} {cs gap ds : List Char}
      (h : WritesMember m cs) (hgap : IsGap gap) (hs : WritesMembers ms ds) :
      WritesMembers (m :: ms) (cs ++ (gap ++ ',' :: ds))

/-- The texts of a member of an object. -/
inductive WritesMember : Json.Text × Json → List Char → Prop where
  | mk {gap colonGap cs : List Char} {j : Json} (hgap : IsGap gap) (name : String)
      (hcolon : IsGap colonGap) (h : Writes j cs) :
      WritesMember (some name, j) (gap ++ (quoted name.toList ++ (colonGap ++ ':' :: cs)))

end

/-- The texts of a document: it may have blanks in front, between its parts and behind it. -/
def IsTextOf (j : Json) (text : String) : Prop :=
  ∃ cs gap, Writes j cs ∧ IsGap gap ∧ text.toList = cs ++ gap

/-- A text of a document has more than blanks, and it does not begin with a closing bracket. -/
theorem Writes.exists_skipSpaces_eq (h : Writes j cs) :
    ∃ c ds, skipSpaces cs = c :: ds ∧ c ≠ ']' := by
  cases h with
  | bool hgap b =>
      rw [skipSpaces_append hgap]
      cases b <;> exact ⟨_, _, rfl, by decide⟩
  | null hgap | text hgap | noItems hgap | array hgap | noMembers hgap | object hgap =>
      rw [skipSpaces_append hgap]
      exact ⟨_, _, rfl, by decide⟩

/-- A member begins with the name, behind blanks. -/
theorem WritesMember.exists_skipSpaces_eq (h : WritesMember m cs) :
    ∃ ds, skipSpaces cs = '"' :: ds := by
  cases h with
  | mk hgap => exact ⟨_, skipSpaces_append hgap _⟩

theorem WritesItems.exists_skipSpaces_eq (h : WritesItems js cs) :
    ∃ c ds, skipSpaces cs = c :: ds ∧ c ≠ ']' := by
  cases h with
  | last h | cons h =>
      obtain ⟨c, ds, hskip, hc⟩ := h.exists_skipSpaces_eq
      exact ⟨c, _, skipSpaces_append_of_eq hskip _, hc⟩

theorem WritesMembers.exists_skipSpaces_eq (h : WritesMembers ms cs) :
    ∃ ds, skipSpaces cs = '"' :: ds := by
  cases h with
  | last h | cons h =>
      obtain ⟨ds, hskip⟩ := h.exists_skipSpaces_eq
      exact ⟨_, skipSpaces_append_of_eq hskip _⟩

/-! ### Reading them back -/

/-- Texts that are short enough are read back in so many steps.  A value takes up to three steps for
each of its characters, and what comes between its bracket and the next value is allowed for. -/
structure ReadsBack (n : Nat) : Prop where
  value : ∀ {j cs}, Writes j cs → 3 * cs.length ≤ n →
    ∀ rest, readValue? n (cs ++ rest) = some (j, rest)
  items : ∀ {js cs}, WritesItems js cs → 3 * cs.length + 1 ≤ n →
    ∀ rest, readItems? n (cs ++ rest) = some (js, rest)
  members : ∀ {ms cs}, WritesMembers ms cs → 3 * cs.length + 2 ≤ n →
    ∀ rest, readMembers? n (cs ++ rest) = some (ms, rest)
  member : ∀ {m cs}, WritesMember m cs → 3 * cs.length + 1 ≤ n →
    ∀ rest, readMember? n (cs ++ rest) = some (m, rest)

/-- One more step reads back a value. -/
theorem ReadsBack.readValue? (ih : ReadsBack n) (h : Writes j cs) (hn : 3 * cs.length ≤ n + 1)
    (rest : List Char) : Json.readValue? (n + 1) (cs ++ rest) = some (j, rest) := by
  cases h with
  | null hgap =>
      rw [List.append_assoc, Json.readValue?, skipSpaces_append hgap]
      rfl
  | bool hgap b =>
      rw [List.append_assoc, Json.readValue?, skipSpaces_append hgap]
      cases b <;> rfl
  | text hgap s =>
      rw [quoted, List.append_assoc, List.cons_append, List.cons_append, List.append_assoc,
        List.singleton_append, Json.readValue?, skipSpaces_append_cons hgap (by decide)]
      simp only [readText?_quoted, Option.map_some, ofString]
  | noItems hgap hinner =>
      rw [List.append_assoc, List.cons_append, List.append_assoc, List.singleton_append,
        Json.readValue?, skipSpaces_append_cons hgap (by decide)]
      simp only [skipSpaces_append_cons hinner (show isSpace ']' = false by decide)]
  | array hgap h =>
      obtain ⟨c, ds, hskip, hc⟩ := h.exists_skipSpaces_eq
      simp only [List.length_append, List.length_cons] at hn
      have hitems := ih.items h (by omega) rest
      rw [← readItems?_skipSpaces, skipSpaces_append_of_eq hskip] at hitems
      rw [List.append_assoc, List.cons_append, Json.readValue?,
        skipSpaces_append_cons hgap (by decide)]
      simp [skipSpaces_append_of_eq hskip, hc, hitems]
  | noMembers hgap hinner =>
      rw [List.append_assoc, List.cons_append, List.append_assoc, List.singleton_append,
        Json.readValue?, skipSpaces_append_cons hgap (by decide)]
      simp only [skipSpaces_append_cons hinner (show isSpace '\x7d' = false by decide)]
  | object hgap h =>
      obtain ⟨ds, hskip⟩ := h.exists_skipSpaces_eq
      simp only [List.length_append, List.length_cons] at hn
      have hmembers := ih.members h (by omega) rest
      rw [← readMembers?_skipSpaces, skipSpaces_append_of_eq hskip] at hmembers
      rw [List.append_assoc, List.cons_append, Json.readValue?,
        skipSpaces_append_cons hgap (by decide)]
      simp [skipSpaces_append_of_eq hskip, hmembers]

/-- One more step reads back the items of an array. -/
theorem ReadsBack.readItems? (ih : ReadsBack n) (h : WritesItems js cs)
    (hn : 3 * cs.length ≤ n) (rest : List Char) :
    Json.readItems? (n + 1) (cs ++ rest) = some (js, rest) := by
  cases h with
  | last h hgap =>
      rw [List.length_append] at hn
      rw [List.append_assoc, Json.readItems?, ih.value h (by omega), Option.bind_some,
        List.append_assoc, skipSpaces_append hgap]
      rfl
  | cons h hgap hs =>
      simp only [List.length_append, List.length_cons] at hn
      rw [List.append_assoc, Json.readItems?, ih.value h (by omega), Option.bind_some,
        List.append_assoc, List.cons_append, skipSpaces_append_cons hgap (by decide)]
      simp only [ih.items hs (by omega), Option.map_some]

/-- One more step reads back the members of an object. -/
theorem ReadsBack.readMembers? (ih : ReadsBack n) (h : WritesMembers ms cs)
    (hn : 3 * cs.length + 1 ≤ n) (rest : List Char) :
    Json.readMembers? (n + 1) (cs ++ rest) = some (ms, rest) := by
  cases h with
  | last h hgap =>
      rw [List.length_append] at hn
      rw [List.append_assoc, Json.readMembers?, ih.member h (by omega), Option.bind_some,
        List.append_assoc, skipSpaces_append hgap]
      rfl
  | cons h hgap hs =>
      simp only [List.length_append, List.length_cons] at hn
      rw [List.append_assoc, Json.readMembers?, ih.member h (by omega), Option.bind_some,
        List.append_assoc, List.cons_append, skipSpaces_append_cons hgap (by decide)]
      simp only [ih.members hs (by omega), Option.map_some]

/-- One more step reads back a member of an object. -/
theorem ReadsBack.readMember? (ih : ReadsBack n) (h : WritesMember m cs)
    (hn : 3 * cs.length ≤ n) (rest : List Char) :
    Json.readMember? (n + 1) (cs ++ rest) = some (m, rest) := by
  cases h with
  | mk hgap name hcolon h =>
      simp only [List.length_append, List.length_cons] at hn
      rw [quoted, List.cons_append, List.append_assoc, List.cons_append, List.cons_append,
        List.append_assoc, List.append_assoc, List.singleton_append, List.append_assoc,
        List.cons_append, Json.readMember?, skipSpaces_append_cons hgap (by decide)]
      simp only [readText?_quoted, Option.bind_some,
        skipSpaces_append_cons hcolon (show isSpace ':' = false by decide),
        ih.value h (by omega), Option.map_some]

/-- Texts are read back in three steps for each of their characters. -/
theorem readsBack (n : Nat) : ReadsBack n := by
  induction n with
  | zero =>
      refine ⟨fun {_ cs} h hn => ?_, fun _ hn => ?_, fun _ hn => ?_, fun _ hn => ?_⟩
      · obtain ⟨c, ds, hskip, -⟩ := h.exists_skipSpaces_eq
        obtain rfl : cs = [] := List.length_eq_zero_iff.1 (by omega)
        contradiction
      all_goals omega
  | succ n ih =>
      exact ⟨fun h hn => ih.readValue? h hn, fun h hn => ih.readItems? h (by omega),
        fun h hn => ih.readMembers? h (by omega), fun h hn => ih.readMember? h (by omega)⟩

/-- A text of a document is read as the document. -/
theorem IsTextOf.parse?_eq {text : String} (h : j.IsTextOf text) : parse? text = some j := by
  obtain ⟨cs, gap, hwrites, hgap, htext⟩ := h
  have hread := (readsBack (3 * text.toList.length + 3)).value hwrites
    (by rw [htext, List.length_append]; omega) gap
  rw [← htext] at hread
  have hend : skipSpaces gap = [] := by
    simpa [skipSpaces] using skipSpaces_append hgap []
  rw [parse?, hread, Option.bind_some, hend]
  rfl

/-! ### The compact text -/

theorem writes_ofString (s : String) : Writes (ofString s) (ofString s).render := by
  have h := Writes.text isGap_nil s
  rwa [List.nil_append] at h

theorem writes_bool (b : Bool) : Writes (.bool b) (Json.bool b).render := by
  have h := Writes.bool isGap_nil b
  rwa [List.nil_append] at h

/-- The items of an array are written with commas between them. -/
theorem writesItems_renderItems (hne : js ≠ []) (h : ∀ j ∈ js, Writes j j.render) :
    WritesItems js (renderItems js ++ [']']) := by
  induction js with
  | nil => exact absurd rfl hne
  | cons j js ih =>
      rw [List.forall_mem_cons] at h
      cases js with
      | nil => exact .last h.1 isGap_nil
      | cons next js =>
          have hitems := WritesItems.cons h.1 isGap_nil (ih (List.cons_ne_nil _ _) h.2)
          rwa [List.nil_append, ← List.cons_append, ← List.append_assoc] at hitems

/-- The compact text of an array is one of its texts if those of its items are. -/
theorem writes_array (h : ∀ j ∈ js, Writes j j.render) :
    Writes (.array js) (Json.array js).render := by
  cases js with
  | nil => exact .noItems isGap_nil isGap_nil
  | cons j js => exact .array isGap_nil (writesItems_renderItems (List.cons_ne_nil _ _) h)

/-- The compact text of a member is one of its texts if it has a name and that of its value is. -/
theorem writesMember_renderMember (hname : m.1.isSome) (h : Writes m.2 m.2.render) :
    WritesMember m (renderMember m) := by
  obtain ⟨_ | name, j⟩ := m
  · contradiction
  · exact .mk isGap_nil name isGap_nil h

/-- The members of an object are written with commas between them. -/
theorem writesMembers_renderMembers (hne : ms ≠ [])
    (h : ∀ m ∈ ms, m.1.isSome ∧ Writes m.2 m.2.render) :
    WritesMembers ms (renderMembers ms ++ ['\x7d']) := by
  induction ms with
  | nil => exact absurd rfl hne
  | cons m ms ih =>
      rw [List.forall_mem_cons] at h
      have hmember := writesMember_renderMember h.1.1 h.1.2
      cases ms with
      | nil => exact .last hmember isGap_nil
      | cons next ms =>
          have hmembers := WritesMembers.cons hmember isGap_nil (ih (List.cons_ne_nil _ _) h.2)
          rwa [List.nil_append, ← List.cons_append, ← List.append_assoc] at hmembers

/-- The compact text of an object is one of its texts if its members have names and the compact
texts of their values are. -/
theorem writes_object (h : ∀ m ∈ ms, m.1.isSome ∧ Writes m.2 m.2.render) :
    Writes (.object ms) (Json.object ms).render := by
  cases ms with
  | nil => exact .noMembers isGap_nil isGap_nil
  | cons m ms => exact .object isGap_nil (writesMembers_renderMembers (List.cons_ne_nil _ _) h)

/-- The compact text of a document is a text of it. -/
theorem isTextOf_render (h : Writes j j.render) : j.IsTextOf (String.ofList j.render) :=
  ⟨j.render, [], h, isGap_nil, by rw [String.toList_ofList, List.append_nil]⟩

end Json

end FilterQuery
