/-
**A further field disturbs no filter that does not mention it.**

The registered fields have a part in reading at two places.  A word that starts neither like a name
nor like anything else with a meaning of its own is a field if it is the name of one and a value
otherwise, and a field is looked up where a node needs it.  If a field is added, a word can become a
field only if it was a value before and is the name of the new field, and a look-up can change only
if it found nothing before.  So the tokens stay the same if no value is the new name, and each step
of the reading stays the same unless it is refused for a name that is not registered.

Main definitions:

* `Upholds` — a result is the same as another one, unless that one refuses an unknown name;
* `Whitelist.Extends` — what a whitelist finds another one finds as well.

Main results:

* `Whitelist.scan_eq_of_add` — a text without the new name among its values has the same tokens;
* `Comparison.upholds_add`, `Call.upholds_add`, `Progress.upholds_accept` — each step is upheld;
* `Progress.run_eq_or_refused` — so is a whole run;
* `Whitelist.parse_eq_of_add` — **a further field disturbs no filter that does not mention it**.
-/

import FilterQuery.Proofs.FirstRefusal

set_option relaxedAutoImplicit false
set_option autoImplicit false

namespace FilterQuery

/-! ### Results that are upheld -/

/-- The second result is the first one, unless the first one refuses a name as unknown. -/
def Upholds {α : Type} (x y : Except Refusal α) : Prop :=
  y = x ∨ ∃ name, x = .error (.unknownField name)

namespace Upholds

variable {α β : Type} {x y : Except Refusal α}

theorem refl (x : Except Refusal α) : Upholds x x := .inl rfl

theorem map (f : α → β) (h : Upholds x y) : Upholds (x.map f) (y.map f) := by
  rcases h with rfl | ⟨name, rfl⟩
  · exact .refl _
  · exact .inr ⟨name, rfl⟩

theorem bind (f : α → Except Refusal β) (h : Upholds x y) : Upholds (x.bind f) (y.bind f) := by
  rcases h with rfl | ⟨name, rfl⟩
  · exact .refl _
  · exact .inr ⟨name, rfl⟩

/-- A check that does not depend on what is registered goes before both results. -/
theorem ite {p : Prop} [Decidable p] {a b : Except Refusal α} (h : Upholds x y)
    (h' : Upholds a b) : Upholds (if p then x else a) (if p then y else b) := by
  split
  · exact h
  · exact h'

end Upholds

/-! ### Looking names up -/

namespace Whitelist

variable {w v : Whitelist} {f : Field}

/-- What the one whitelist finds the other one finds as well. -/
def Extends (w v : Whitelist) : Prop :=
  ∀ name g, w.find? name = some g → v.find? name = some g

theorem find?_eq_none_of_add (h : w.add f = .ok v) : w.find? f.name = none := by
  cases hfind : w.find? f.name with
  | none => rfl
  | some g =>
      have htaken : w.contains f.name = true := contains_iff.2 ⟨g, hfind⟩
      rw [add_eq_error_iff.2 ⟨htaken, rfl⟩] at h
      contradiction

theorem extends_of_add (h : w.add f = .ok v) : w.Extends v := by
  intro name g hg
  rw [find?_add h]
  split
  · next hkey =>
      -- The name of the new field finds nothing, and the look-up goes by the key alone.
      have hnone := find?_eq_none_of_add h
      rw [find?_eq_none_iff] at hnone
      obtain ⟨hmem, hgkey⟩ := find?_eq_some_iff.1 hg
      exact absurd (hgkey.trans hkey.symm) (hnone g hmem)
  · exact hg

/-- A field is found again, or its name was unknown. -/
theorem Extends.upholds_fieldOf (h : w.Extends v) (t : Token) :
    Upholds (w.fieldOf t) (v.fieldOf t) := by
  unfold fieldOf
  refine .ite ?_ (.refl _)
  unfold resolve
  cases hfind : w.find? t.text with
  | none => exact .inr ⟨t.text, rfl⟩
  | some g =>
      rw [h _ _ hfind]
      exact .refl _

/-! ### Tokens -/

/-- A word keeps its kind unless it is a value and the name of the new field. -/
theorem wordKind_eq_of_add (h : w.add f = .ok v) {word : List Char}
    (hvalue : w.wordKind word = .value → Text.lower (String.ofList word) ≠ f.key) :
    v.wordKind word = w.wordKind word := by
  by_cases hkey : f.key = Text.lower (String.ofList word)
  · have hfound : v.contains (String.ofList word) = true := by
      rw [contains, find?_add h, if_pos hkey]
      rfl
    have hkind : w.wordKind word ≠ .value := fun hk => hvalue hk hkey.symm
    unfold wordKind at hkind ⊢
    split
    · rfl
    · next hkeyword =>
        rw [hkeyword] at hkind
        -- What is no keyword and no value is a field for both.
        by_cases hguid : (Guid.read? word).isSome = true
        · simp [hguid] at hkind
        · by_cases hname : (startsName word || w.contains (String.ofList word)) = true
          · rw [if_neg hguid, if_neg hguid, if_pos hname, hfound, Bool.or_true, if_pos rfl]
          · simp [hguid, hname] at hkind
  · have hsame : v.contains (String.ofList word) = w.contains (String.ofList word) := by
      rw [contains, contains, find?_add h, if_neg hkey]
    rw [wordKind, wordKind, hsame]

/-- A lexeme remains one unless it is a value and the name of the new field. -/
theorem Lexeme.of_add (h : w.add f = .ok v) {k : Kind} {cs rest : List Char}
    (hlexeme : w.Lexeme k cs rest)
    (hvalue : k = .value → Text.lower (String.ofList cs) ≠ f.key) : v.Lexeme k cs rest := by
  cases hlexeme with
  | openParen => exact .openParen rest
  | closeParen => exact .closeParen rest
  | comma => exact .comma rest
  | literal hbody hrest => exact .literal hbody hrest
  | word hc hword hrest =>
      rw [← wordKind_eq_of_add h hvalue]
      exact .word hc hword hrest

/-- A text has the same tokens if the name of the new field is none of its values. -/
theorem scanFrom_eq_of_add (h : w.add f = .ok v) (start : Nat) (cs : List Char)
    (hvalues : ∀ t ∈ (w.scanFrom start cs).items, t.is .value = true →
      Text.lower t.text ≠ f.key) :
    v.scanFrom start cs = w.scanFrom start cs := by
  fun_induction scanFrom w start cs with
  | case1 start cs hskip => exact scanFrom_of_blank v start hskip
  | case2 start cs c rest hskip first htake =>
      have hopen := takeToken?_eq_none_iff.1 htake
      exact scanFrom_of_open v start hskip (takeToken?_eq_none_iff.2 hopen)
  | case3 start cs c rest hskip first k text tail htake ih =>
      have hc := Text.isBlank_head_skipBlanks hskip
      obtain ⟨htext, hlexeme⟩ := (takeToken?_eq_some_iff hc).1 htake
      simp only [Yield.items_prepend, List.singleton_append, List.forall_mem_cons] at hvalues
      obtain ⟨hfirst, hrest⟩ := hvalues
      have hlexeme' : v.Lexeme k text tail := by
        refine hlexeme.of_add h fun hk => hfirst ?_
        rw [hk]
        rfl
      have htake' := (takeToken?_eq_some_iff hc).2 ⟨htext, hlexeme'⟩
      rw [scanFrom_of_token v start hskip htake', ih hrest]

theorem scan_eq_of_add (h : w.add f = .ok v) {text : String}
    (hvalues : ∀ t ∈ (w.scan text).items, t.is .value = true → Text.lower t.text ≠ f.key) :
    v.scan text = w.scan text :=
  scanFrom_eq_of_add h 0 text.toList hvalues

end Whitelist

/-! ### Steps -/

section Steps

variable {w v : Whitelist}

theorem Comparison.upholds_add (h : w.Extends v) (c : Comparison) (t : Token) :
    Upholds (c.add w t) (c.add v t) := by
  cases c with
  | blank => exact (h.upholds_fieldOf t).map _
  | flag f => exact .refl _
  | named f => exact .refl _
  | operated f op => exact .refl _
  | compared f op x => exact .refl _
  | listed f cs stage => cases stage <;> exact .refl _

theorem Call.upholds_add (h : w.Extends v) (c : Call) (t : Token) :
    Upholds (c.add w t) (c.add v t) := by
  unfold add
  refine .ite (.refl _) ?_
  cases c with
  | opened fn => exact (h.upholds_fieldOf t).bind _
  | _ => exact .refl _

theorem Node.upholds_add (h : w.Extends v) (n : Node) (t : Token) :
    Upholds (n.add w t) (n.add v t) := by
  cases n with
  | comparison c => exact (c.upholds_add h t).map _
  | call c => exact (c.upholds_add h t).map _
  | _ => exact .refl _

theorem Cursor.upholds_start (h : w.Extends v) (c : Cursor) (t : Token) :
    Upholds (c.start w t) (c.start v t) := by
  unfold start
  refine .ite (.refl _) (.ite ?_ (.ite ?_ (.refl _)))
  · exact (Comparison.blank.upholds_add h t).map _
  · exact (Call.blank.upholds_add h t).map _

namespace Progress

variable {p : Progress} {t : Token}

theorem upholds_accept (h : w.Extends v) (p : Progress) (t : Token) :
    Upholds (p.accept w t) (p.accept v t) := by
  unfold accept
  cases p.taker? t with
  | none => exact (p.cursor.upholds_start h t).map _
  | some n => exact (n.upholds_add h t).map _

/-- A run is the same, or is refused for a name that is unknown. -/
theorem run_eq_or_refused (h : w.Extends v) (p : Progress) (broken? : Option Refusal)
    (ts : List Token) :
    p.run v broken? ts = p.run w broken? ts ∨
      ∃ name, (p.run w broken? ts).refusal? = some (.unknownField name) := by
  induction ts generalizing p with
  | nil => exact .inl rfl
  | cons t ts ih =>
      rcases upholds_accept h p t with hsame | ⟨name, hunknown⟩
      · cases hacc : p.accept w t with
        | error r =>
            rw [hacc] at hsame
            left
            rw [run_cons_of_error hacc, run_cons_of_error hsame]
        | ok q =>
            rw [hacc] at hsame
            rw [run_cons_of_ok hacc, run_cons_of_ok hsame]
            rcases ih q with hrest | hrefused
            · left
              rw [hrest]
            · right
              exact hrefused
      · right
        exact ⟨name, by rw [run_cons_of_error hunknown]⟩

end Progress

end Steps

/-! ### Filters -/

namespace Whitelist

variable {w v : Whitelist} {f : Field}

/-- **A further field disturbs no filter that does not mention it.**  If the name of the new field
is not registered, then the field can be added.  If moreover the filter is not refused for a name
that is unknown, and the new name is none of its values, then it has the same predicate as before,
or none as before, or the same refusal. -/
theorem parse_eq_of_add (hfree : w.contains f.name = false) {filter : Option String}
    (hknown : ∀ name, w.parse filter ≠ .error (.unknownField name))
    (hvalues : ∀ text ∈ filter, ∀ t ∈ (w.scan text).items, t.is .value = true →
      Text.lower t.text ≠ f.key) :
    ∃ v, w.add f = .ok v ∧ v.parse filter = w.parse filter := by
  have h : w.add f = .ok ⟨w.fields ++ [f], nodup_keys_append hfree⟩ := dif_pos hfree
  refine ⟨_, h, ?_⟩
  cases filter with
  | none => rfl
  | some text =>
      have hscan := scan_eq_of_add h (hvalues text rfl)
      rw [parse, parse, nodes, nodes, hscan]
      rcases Progress.run_eq_or_refused (extends_of_add h) .initial (w.scan text).refusal?
        (w.scan text).items with hsame | ⟨name, hrefused⟩
      · rw [hsame]
      · exact absurd (parse_eq_error_iff.2 hrefused) (hknown name)

/-- A field whose name is read as a value where it is not registered. -/
def sevenUp : Field :=
  Field.ofType "7Up" .long

/-- An accepted filter with values that the new name starts with, and a refused one. -/
theorem parse_eq_of_add_sevenUp :
    people.contains sevenUp.name = false ∧
      people.parse (some "age in (7, 8) and active") =
        .ok (some ⟨"age in (@0, @1) && active", [.long (some 7), .long (some 8)]⟩) ∧
      (∀ t ∈ (people.scan "age in (7, 8) and active").items, t.is .value = true →
        Text.lower t.text ≠ sevenUp.key) ∧
      (∃ v, people.add sevenUp = .ok v ∧
        v.parse (some "age in (7, 8) and active") =
          people.parse (some "age in (7, 8) and active")) ∧
      people.parse (some "active and name eq 7") = .error (.invalidValue "name" "7") ∧
      (∀ t ∈ (people.scan "active and name eq 7").items, t.is .value = true →
        Text.lower t.text ≠ sevenUp.key) ∧
      (∃ v, people.add sevenUp = .ok v ∧
        v.parse (some "active and name eq 7") = people.parse (some "active and name eq 7")) := by
  have hfree : people.contains sevenUp.name = false := by decide +kernel
  have haccepted : people.parse (some "age in (7, 8) and active") =
      .ok (some ⟨"age in (@0, @1) && active", [.long (some 7), .long (some 8)]⟩) := by
    decide +kernel
  have hrefused : people.parse (some "active and name eq 7") =
      .error (.invalidValue "name" "7") := by
    decide +kernel
  have hvalues : ∀ t ∈ (people.scan "age in (7, 8) and active").items, t.is .value = true →
      Text.lower t.text ≠ sevenUp.key := by
    decide +kernel
  have hvalues' : ∀ t ∈ (people.scan "active and name eq 7").items, t.is .value = true →
      Text.lower t.text ≠ sevenUp.key := by
    decide +kernel
  refine ⟨hfree, haccepted, hvalues, ?_, hrefused, hvalues', ?_⟩
  · refine parse_eq_of_add hfree (fun name => by simp [haccepted]) ?_
    rintro _ ⟨⟩
    exact hvalues
  · refine parse_eq_of_add hfree (fun name => by simp [hrefused]) ?_
    rintro _ ⟨⟩
    exact hvalues'

/-- A filter that has the new name among its values is disturbed: the value becomes a field. -/
example : people.parse (some "age eq 7UP") = .error (.invalidValue "age" "7UP") ∧
    ((people.add sevenUp).bind fun v => v.parse (some "age eq 7UP")) =
      .error (.misplaced "7UP" 7) := by
  decide +kernel

end Whitelist

end FilterQuery
