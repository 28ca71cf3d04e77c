/-
**An ordering is read clause by clause.**

An ordering is a list of segments with commas between them, and each segment is read by itself: it
has one outcome, whatever stands around it.  So an ordering is accepted exactly if all its segments
are, in the order in which they stand, and otherwise the leftmost segment with a fault decides.  Two
orderings with a comma between them come to the clauses of both or to the first fault of the two.

Main definitions:

* `Direction.IsWrittenAs` — the words that stand for a direction;
* `SortTable.Reads` — what a segment comes to, with one constructor for each outcome.

Main results:

* `readDirection?_eq_some_iff` — the words of a direction are read as this direction;
* `SortTable.parseClause_eq_iff` — a segment comes to its outcome and to no other;
* `SortTable.parseClauses_append` — orderings on both sides of a comma are read one after the other;
* `SortTable.parse_reads_segments` — **an ordering is its clauses in order or its leftmost fault,
  and missing only where there is nothing but blanks**.
-/

import FilterQuery.Proofs.FirstFault
import FilterQuery.Proofs.Separators
import FilterQuery.SortTable

set_option relaxedAutoImplicit false
set_option autoImplicit false

namespace FilterQuery

/-! ### Directions -/

/-- The number of letters from which on the beginning of the name of a direction stands for it. -/
def Direction.leastLength : Direction → Nat
  | .ascending => 3
  | .descending => 4

/-- The word is a beginning of the name of the direction, in any case and long enough. -/
structure Direction.IsWrittenAs (d : Direction) (word : List Char) : Prop where
  begins : word.map Char.toLower <+: d.name.toList
  le_length : d.leastLength ≤ word.length

instance (d : Direction) (word : List Char) : Decidable (d.IsWrittenAs word) :=
  decidable_of_iff (word.map Char.toLower <+: d.name.toList ∧ d.leastLength ≤ word.length)
    ⟨fun h => ⟨h.1, h.2⟩, fun h => ⟨h.begins, h.le_length⟩⟩

/-- No word stands for both directions: they begin with different letters. -/
theorem Direction.IsWrittenAs.unique {d e : Direction} {word : List Char}
    (hd : d.IsWrittenAs word) (he : e.IsWrittenAs word) : d = e := by
  obtain ⟨⟨s, hs⟩, hlength⟩ := hd
  obtain ⟨⟨t, ht⟩, -⟩ := he
  have hfirst : d.name.toList.head? = e.name.toList.head? := by
    cases word with
    | nil => cases d <;> exact absurd hlength (by decide)
    | cons c word => rw [← hs, ← ht, List.map_cons, List.cons_append, List.head?_cons]; rfl
  revert hfirst
  cases d <;> cases e <;> decide

/-- The words of a direction are read as this direction. -/
theorem readDirection?_eq_some_iff {word : List Char} {d : Direction} :
    readDirection? word = some d ↔ d.IsWrittenAs word := by
  have hstands : ∀ e : Direction, ((word.map Char.toLower).isPrefixOf e.name.toList &&
      decide (e.shortName.length ≤ (word.map Char.toLower).length)) = true ↔
        e.IsWrittenAs word := by
    intro e
    have hleast : e.shortName.length = e.leastLength := by cases e <;> rfl
    rw [Bool.and_eq_true, List.isPrefixOf_iff_prefix, decide_eq_true_eq, List.length_map, hleast]
    exact ⟨fun h => ⟨h.1, h.2⟩, fun h => ⟨h.begins, h.le_length⟩⟩
  unfold readDirection?
  dsimp only
  simp only [hstands]
  split
  · next h => exact ⟨fun hd => Option.some.inj hd ▸ h, fun hd => congrArg some (h.unique hd)⟩
  · next hasc =>
      split
      · next h => exact ⟨fun hd => Option.some.inj hd ▸ h, fun hd => congrArg some (h.unique hd)⟩
      · next hdesc =>
          refine ⟨fun hd => by contradiction, fun hd => ?_⟩
          cases d with
          | ascending => exact absurd hd hasc
          | descending => exact absurd hd hdesc

theorem readDirection?_eq_none_iff {word : List Char} :
    readDirection? word = none ↔ ∀ d : Direction, ¬d.IsWrittenAs word := by
  simp only [← readDirection?_eq_some_iff, Option.eq_none_iff_forall_ne_some, ne_eq]

/-! ### Segments -/

namespace SortTable

open Text

variable {table : SortTable} {clause : List Char}

/-- What a segment comes to.  Its words are counted first, then the field is looked up, then the
direction is read, and then the field is asked for it. -/
inductive Reads (table : SortTable) (clause : List Char) : Except SortFault SortClause → Prop where
  | empty : Spaced clause [] → Reads table clause (.error .emptyClause)
  | tooManyParts {a b c core : List Char} {ws : List (List Char)} :
      Spaced clause (a :: b :: c :: ws) → IsCore core clause →
      Reads table clause (.error (.tooManyParts (String.ofList core)))
  | unknownField {name : List Char} {ws : List (List Char)} : Spaced clause (name :: ws) →
      ws.length ≤ 1 → (∀ f ∈ table.fields, f.key ≠ lower (String.ofList name)) →
      Reads table clause (.error (.unknownField (String.ofList name)))
  | bare {name : List Char} {f : SortField} : Spaced clause [name] → f ∈ table.fields →
      f.key = lower (String.ofList name) → Reads table clause (.ok ⟨f.target, none⟩)
  | badDirection {name word : List Char} {f : SortField} : Spaced clause [name, word] →
      f ∈ table.fields → f.key = lower (String.ofList name) →
      (∀ d : Direction, ¬d.IsWrittenAs word) →
      Reads table clause (.error (.badDirection (String.ofList word)))
  | unsupportedDirection {name word : List Char} {f : SortField} {d : Direction} :
      Spaced clause [name, word] → f ∈ table.fields → f.key = lower (String.ofList name) →
      d.IsWrittenAs word → f.supports d = false →
      Reads table clause (.error (.unsupportedDirection f.name d))
  | directed {name word : List Char} {f : SortField} {d : Direction} :
      Spaced clause [name, word] → f ∈ table.fields → f.key = lower (String.ofList name) →
      d.IsWrittenAs word → f.supports d = true → Reads table clause (.ok ⟨f.target, some d⟩)

/-- Every segment comes to an outcome. -/
theorem reads_parseClause (table : SortTable) (clause : List Char) :
    table.Reads clause (table.parseClause clause) := by
  have hspaced : Spaced clause (words clause) := words_eq_iff_spaced.1 rfl
  unfold parseClause
  split
  · next hwords => exact .empty (hwords ▸ hspaced)
  · next name hwords =>
      rw [hwords] at hspaced
      unfold clauseOf
      cases hfind : table.find? (String.ofList name) with
      | none => exact .unknownField hspaced (by simp) (find?_eq_none_iff.1 hfind)
      | some f =>
          obtain ⟨hf, hkey⟩ := find?_eq_some_iff.1 hfind
          exact .bare hspaced hf hkey
  · next name word hwords =>
      rw [hwords] at hspaced
      unfold clauseOf
      cases hfind : table.find? (String.ofList name) with
      | none => exact .unknownField hspaced (by simp) (find?_eq_none_iff.1 hfind)
      | some f =>
          obtain ⟨hf, hkey⟩ := find?_eq_some_iff.1 hfind
          dsimp only
          unfold directionOf
          cases hword : readDirection? word with
          | none => exact .badDirection hspaced hf hkey (readDirection?_eq_none_iff.1 hword)
          | some d =>
              have hd := readDirection?_eq_some_iff.1 hword
              dsimp only
              split
              · next hsupports => exact .directed hspaced hf hkey hd hsupports
              · next hsupports =>
                  exact .unsupportedDirection hspaced hf hkey hd (Bool.not_eq_true _ ▸ hsupports)
  · next hnone hone htwo =>
      cases hwords : words clause with
      | nil => exact absurd hwords hnone
      | cons a ws =>
          cases ws with
          | nil => exact absurd hwords (hone a)
          | cons b ws =>
              cases ws with
              | nil => exact absurd hwords (htwo a b)
              | cons c ws => exact .tooManyParts (hwords ▸ hspaced) (isCore_trim clause)

theorem parseClause_of_name {name : List Char} (h : Spaced clause [name]) :
    table.parseClause clause = table.clauseOf name none := by
  rw [parseClause, words_eq_iff_spaced.2 h]

theorem parseClause_of_name_word {name word : List Char} (h : Spaced clause [name, word]) :
    table.parseClause clause = table.clauseOf name (some word) := by
  rw [parseClause, words_eq_iff_spaced.2 h]

theorem clauseOf_of_key_eq {name : List Char} {f : SortField} (hf : f ∈ table.fields)
    (hkey : f.key = lower (String.ofList name)) (direction? : Option (List Char)) :
    table.clauseOf name direction? =
      match direction? with
      | none => .ok ⟨f.target, none⟩
      | some word => (directionOf f word).map fun d => ⟨f.target, some d⟩ := by
  have hfind : table.find? (String.ofList name) = some f := find?_eq_some_iff.2 ⟨hf, hkey⟩
  cases direction? <;> simp only [clauseOf, hfind]

theorem directionOf_of_isWrittenAs {word : List Char} {d : Direction} (hd : d.IsWrittenAs word)
    (f : SortField) : directionOf f word =
      if f.supports d then .ok d else .error (.unsupportedDirection f.name d) := by
  rw [directionOf, readDirection?_eq_some_iff.2 hd]

/-- A segment comes to its outcome and to no other. -/
theorem parseClause_eq_iff {r : Except SortFault SortClause} :
    table.parseClause clause = r ↔ table.Reads clause r := by
  constructor
  · rintro rfl
    exact reads_parseClause table clause
  · intro h
    cases h with
    | empty hspaced => rw [parseClause, words_eq_iff_spaced.2 hspaced]
    | tooManyParts hspaced hcore =>
        rw [parseClause, words_eq_iff_spaced.2 hspaced, trim_eq_iff_isCore.2 hcore]
    | @unknownField name ws hspaced hlength hname =>
        have hunknown : ∀ direction?, table.clauseOf name direction? =
            .error (.unknownField (String.ofList name)) := by
          intro direction?
          rw [clauseOf, find?_eq_none_iff.2 hname]
        cases ws with
        | nil => rw [parseClause_of_name hspaced, hunknown]
        | cons word ws =>
            obtain rfl : ws = [] := by simpa using hlength
            rw [parseClause_of_name_word hspaced, hunknown]
    | bare hspaced hf hkey => rw [parseClause_of_name hspaced, clauseOf_of_key_eq hf hkey]
    | badDirection hspaced hf hkey hword =>
        rw [parseClause_of_name_word hspaced, clauseOf_of_key_eq hf hkey]
        dsimp only
        rw [directionOf, readDirection?_eq_none_iff.2 hword]
        rfl
    | unsupportedDirection hspaced hf hkey hd hsupports =>
        rw [parseClause_of_name_word hspaced, clauseOf_of_key_eq hf hkey]
        dsimp only
        rw [directionOf_of_isWrittenAs hd, hsupports]
        rfl
    | directed hspaced hf hkey hd hsupports =>
        rw [parseClause_of_name_word hspaced, clauseOf_of_key_eq hf hkey]
        dsimp only
        rw [directionOf_of_isWrittenAs hd, hsupports]
        rfl

/-! ### Orderings -/

theorem parseClauses_eq_ok_iff {text : String} {clauses : List SortClause} :
    table.parseClauses text = .ok clauses ↔
      (text.toList.splitOn ',').mapM table.parseClause = .ok clauses := by
  rw [parseClauses]
  cases (text.toList.splitOn ',').mapM table.parseClause <;> simp [Except.mapError]

theorem parseClauses_eq_error_iff {text : String} {r : Refusal} :
    table.parseClauses text = .error r ↔
      ∃ fault, (text.toList.splitOn ',').mapM table.parseClause = .error fault ∧
        r = .ordering fault := by
  rw [parseClauses]
  cases (text.toList.splitOn ',').mapM table.parseClause <;> simp [Except.mapError, eq_comm]

/-- Orderings on both sides of a comma are read one after the other. -/
theorem parseClauses_append (table : SortTable) (a b : String) :
    table.parseClauses (a ++ "," ++ b) =
      (table.parseClauses a).bind fun cs => (table.parseClauses b).map (cs ++ ·) := by
  have hsplit : (a ++ "," ++ b).toList.splitOn ',' =
      a.toList.splitOn ',' ++ b.toList.splitOn ',' := by
    rw [String.toList_append, String.toList_append, List.append_assoc]
    exact List.splitOn_append_cons_self a.toList b.toList
  rw [parseClauses, parseClauses, parseClauses, hsplit, mapM_append_eq]
  cases (a.toList.splitOn ',').mapM table.parseClause with
  | error e => rfl
  | ok cs => cases (b.toList.splitOn ',').mapM table.parseClause <;> rfl

/-- The output is missing only for an ordering that is missing or blank. -/
theorem parse_eq_ok_none_iff {text? : Option String} :
    table.parse text? = .ok none ↔ ∀ text ∈ text?, IsBlank text.toList := by
  cases text? with
  | none => simp [parse]
  | some text =>
      simp only [parse, Option.mem_some_iff, forall_eq', ← isBlankText_iff]
      split
      · next h => exact ⟨fun _ => h, fun _ => rfl⟩
      · next h =>
          refine ⟨fun hparse => ?_, fun hblank => absurd hblank h⟩
          obtain ⟨cs, -, hcs⟩ := map_eq_ok_iff.1 hparse
          contradiction

theorem parse_of_not_isBlank {text : String} (h : ¬IsBlank text.toList) :
    table.parse (some text) = (table.parseClauses text).map fun cs => some (renderClauses cs) := by
  rw [← isBlankText_iff] at h
  exact if_neg h

theorem parse_eq_ok_some_iff {text r : String} :
    table.parse (some text) = .ok (some r) ↔
      ¬IsBlank text.toList ∧ ∃ clauses, table.parseClauses text = .ok clauses ∧
        renderClauses clauses = r := by
  by_cases hblank : IsBlank text.toList
  · have hmissing : table.parse (some text) = .ok none :=
      parse_eq_ok_none_iff.2 (by rintro text ⟨rfl⟩; exact hblank)
    simp [hmissing, hblank]
  · rw [parse_of_not_isBlank hblank, map_eq_ok_iff]
    simp [hblank]

/-- **An ordering is its clauses in order or its leftmost fault.**  It is cut at its commas, and it
comes to clauses exactly if every segment does, each to its own.  Otherwise it comes to the fault of
the leftmost segment that has one.  What stands on both sides of a comma is read one after the
other, and the output is missing only for an ordering that is missing or blank. -/
theorem parse_reads_segments (table : SortTable) :
    (∀ text, ∃ segments, Segments text.toList segments ∧
      (∀ clauses, table.parseClauses text = .ok clauses ↔
        List.Forall₂ (fun s c => table.Reads s (.ok c)) segments clauses) ∧
      ∀ r, table.parseClauses text = .error r ↔
        ∃ before s after fault, segments = before ++ s :: after ∧
          (∀ s ∈ before, ∃ c, table.Reads s (.ok c)) ∧ table.Reads s (.error fault) ∧
          r = .ordering fault) ∧
      (∀ a b, table.parseClauses (a ++ "," ++ b) =
        (table.parseClauses a).bind fun cs => (table.parseClauses b).map (cs ++ ·)) ∧
      (∀ text?, table.parse text? = .ok none ↔ ∀ text ∈ text?, IsBlank text.toList) ∧
      ∀ text, ¬IsBlank text.toList → table.parse (some text) =
        (table.parseClauses text).map fun cs =>
          some (", ".intercalate (cs.map SortClause.render)) := by
  refine ⟨fun text => ?_, parseClauses_append table, fun text? => parse_eq_ok_none_iff,
    fun text h => parse_of_not_isBlank h⟩
  refine ⟨_, splitOn_eq_iff_segments.1 rfl, fun clauses => ?_, fun r => ?_⟩
  · simp only [parseClauses_eq_ok_iff, mapM_eq_ok_iff, parseClause_eq_iff]
  · simp only [parseClauses_eq_error_iff, mapM_eq_error_iff, parseClause_eq_iff]
    constructor
    · rintro ⟨fault, ⟨before, s, after, hs, hbefore, hfault⟩, rfl⟩
      exact ⟨before, s, after, fault, hs, hbefore, hfault, rfl⟩
    · rintro ⟨before, s, after, fault, hs, hbefore, hfault, rfl⟩
      exact ⟨fault, ⟨before, s, after, hs, hbefore, hfault⟩, rfl⟩

/-- A field that can be sorted both ways, and a renamed one that is only sorted upwards. -/
def trips : SortTable :=
  ⟨[⟨"Name", none, true, true⟩, ⟨"age", some "Person.Age", true, false⟩], by decide +kernel, none⟩

/-- Two clauses are read and written out, and of three segments the second decides, though the third
has a fault as well. -/
theorem parse_reads_segments_trips :
    trips.parse (some "name DESCE,  AGE") = .ok (some "Name desc, Person.Age") ∧
      trips.parse (some " \t") = .ok none ∧
      trips.parseClauses ("name,age desc" ++ "," ++ "up up up") =
        .error (.ordering (.unsupportedDirection "age" .descending)) := by
  obtain ⟨-, happend, hmissing, hrendered⟩ := parse_reads_segments trips
  refine ⟨?_, (hmissing _).2 ?_, ?_⟩
  · rw [hrendered _ (by decide +kernel)]
    decide +kernel
  · rintro text ⟨rfl⟩
    decide +kernel
  · rw [happend]
    decide +kernel

end SortTable

end FilterQuery
