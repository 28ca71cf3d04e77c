/-
**A whitelist keeps the first field of each name.**

Whitelists are built in place: a field is registered and then changed through the reference that
its registration gives.  The reference leads to the one field with the key of the new name, so a
chain of settings ends in the field that would have been registered with all of them, and a refused
registration stops before it writes.  From there on a history is a matter of lists.  The whitelist
holds the configured fields of the registrations that it has accepted, in order, and a registration
is refused exactly if an accepted one has its key.  What a filter comes to depends on nothing but
the look-ups, so registrations with distinct keys can be made in any order.

Main definitions:

* `Whitelist.Answers` — what a whitelist answers that holds the fields of given enrolments;
* `Whitelist.LooksUpAs` — two whitelists that find the same fields.

Main results:

* `Whitelist.run_enter` — in place a field is enrolled as it is registered with all its settings;
* `Whitelist.enterAll_registrations` — so are the declared fields of a list;
* `Whitelist.fields_enterAll` — what a whitelist holds after a history;
* `Whitelist.LooksUpAs.parse_eq` — look-ups decide what a filter comes to;
* `Whitelist.answers_of_history` — **a whitelist is a first-wins map whose failures change nothing,
  and the order of distinct fields does not matter**.
-/

import FilterQuery.Proofs.InPlace
import FilterQuery.Whitelist.History

set_option relaxedAutoImplicit false
set_option autoImplicit false

namespace FilterQuery

/-! ### In place and as a whole -/

namespace Whitelist

section InPlace

variable {w v : Whitelist} {f : Field}

theorem add_eq_ok_iff :
    w.add f = .ok v ↔ w.contains f.name = false ∧ v.fields = w.fields ++ [f] := by
  constructor
  · intro h
    refine ⟨?_, fields_of_add h⟩
    unfold add at h
    split at h
    · assumption
    · contradiction
  · rintro ⟨hfree, hfields⟩
    obtain ⟨fields, hnodup⟩ := v
    obtain rfl : fields = w.fields ++ [f] := hfields
    exact dif_pos hfree

/-- A setting through the reference to a new field changes this field and no other. -/
theorem add_configure (h : w.add f = .ok v) (s : Setting) :
    w.add (f.configure s) = .ok (v.configureAt f.key s) := by
  obtain ⟨hfree, hfields⟩ := add_eq_ok_iff.1 h
  have hothers : ∀ g ∈ w.fields, (if g.key = f.key then g.configure s else g) = g :=
    fun g hg => if_neg (contains_eq_false_iff.1 hfree g hg)
  refine add_eq_ok_iff.2 ⟨by rw [Field.name_configure, hfree], ?_⟩
  change v.fields.map _ = _
  rw [hfields, List.map_append, List.map_congr_left hothers, List.map_id', List.map_singleton,
    if_pos rfl]

/-- A chain of settings through the reference ends in the field that has all of them. -/
theorem add_configureAll (h : w.add f = .ok v) (ss : List Setting) :
    w.add (f.configureAll ss) = .ok (ss.foldl (fun u s => u.configureAt f.key s) v) := by
  induction ss generalizing f v with
  | nil => exact h
  | cons s ss ih =>
      have hnext := ih (add_configure h s)
      rwa [Field.key_configure] at hnext

theorem run_insert (f : Field) (w : Whitelist) :
    (insert f).run w =
      match w.add f with
      | .ok v => .ok f.key v
      | .error r => .error r w := by
  unfold insert
  rw [EStateM.run_bind, EStateM.run_get]
  dsimp only
  rw [EStateM.run_bind, run_ofExcept]
  cases w.add f <;> rfl

theorem run_settings (key : String) (ss : List Setting) (w : Whitelist) :
    (ss.forM fun s => modify fun u => u.configureAt key s : EStateM Refusal Whitelist Unit).run w =
      .ok () (ss.foldl (fun u s => u.configureAt key s) w) := by
  induction ss generalizing w with
  | nil => rfl
  | cons s ss ih => exact ih (w.configureAt key s)

/-- In place a field is enrolled as it is registered with all its settings: it comes last, or it is
refused and nothing has been written. -/
theorem run_enter (e : Enrolment) (w : Whitelist) :
    (enter e).run w =
      match w.add e.configured with
      | .ok v => .ok () v
      | .error r => .error r w := by
  unfold enter
  rw [EStateM.run_bind, run_insert]
  cases hadd : w.add e.field with
  | ok v =>
      have hconfigured : w.add e.configured = _ := add_configureAll hadd e.settings
      rw [hconfigured]
      exact run_settings e.field.key e.settings v
  | error r =>
      obtain ⟨htaken, rfl⟩ := add_eq_error_iff.1 hadd
      have hrefused : w.add e.configured = .error (.duplicateField e.field.name) :=
        add_eq_error_iff.2 ⟨by rw [e.name_configured, htaken], by rw [e.name_configured]⟩
      rw [hrefused]

/-- The declared fields of a list are enrolled in place as they are registered. -/
theorem enterAll_registrations (w : Whitelist) (rs : List Registration) :
    w.enterAll (rs.map Registration.enrolment) = w.enrollAll rs := by
  induction rs generalizing w with
  | nil => rfl
  | cons r rs ih =>
      have hsame : r.enrolment.configured = r.field := rfl
      rw [List.map_cons, enterAll, run_enter, hsame]
      change _ = (w.enroll r).enrollAll rs
      unfold enroll
      cases w.add r.field with
      | ok v => exact ih v
      | error e => exact ih w

end InPlace

/-! ### Histories -/

section Histories

variable {w v : Whitelist} {e : Enrolment} {es : List Enrolment}

theorem enterAll_cons_of_ok (h : w.add e.configured = .ok v) (es : List Enrolment) :
    w.enterAll (e :: es) = v.enterAll es ∧ w.entered (e :: es) = e :: v.entered es := by
  rw [enterAll, entered, run_enter, h]
  exact ⟨rfl, rfl⟩

theorem enterAll_cons_of_error {r : Refusal} (h : w.add e.configured = .error r)
    (es : List Enrolment) :
    w.enterAll (e :: es) = w.enterAll es ∧ w.entered (e :: es) = w.entered es := by
  rw [enterAll, entered, run_enter, h]
  exact ⟨rfl, rfl⟩

/-- After a history a whitelist holds what it held before, and behind that the configured fields of
the enrolments that it has accepted. -/
theorem fields_enterAll (w : Whitelist) (es : List Enrolment) :
    (w.enterAll es).fields = w.fields ++ (w.entered es).map Enrolment.configured := by
  induction es generalizing w with
  | nil => exact (List.append_nil w.fields).symm
  | cons e es ih =>
      cases hadd : w.add e.configured with
      | ok v =>
          obtain ⟨hall, hentered⟩ := enterAll_cons_of_ok hadd es
          rw [hall, hentered, ih v, fields_of_add hadd, List.map_cons, List.append_assoc]
          rfl
      | error r =>
          obtain ⟨hall, hentered⟩ := enterAll_cons_of_error hadd es
          rw [hall, hentered, ih w]

theorem fields_enterAll_empty (es : List Enrolment) :
    ((∅ : Whitelist).enterAll es).fields = ((∅ : Whitelist).entered es).map Enrolment.configured :=
  fields_enterAll ∅ es

/-- Where no key is taken and none comes twice, every enrolment is accepted. -/
theorem entered_eq_of_nodup (hfree : ∀ e ∈ es, ∀ f ∈ w.fields, f.key ≠ e.key)
    (hnodup : (es.map Enrolment.key).Nodup) : w.entered es = es := by
  induction es generalizing w with
  | nil => rfl
  | cons e es ih =>
      rw [List.map_cons, List.nodup_cons] at hnodup
      have hcontains : w.contains e.configured.name = false := by
        rw [contains_eq_false_iff]
        intro f hf
        have hkey := hfree e List.mem_cons_self f hf
        rwa [← e.key_configured] at hkey
      have hadd : w.add e.configured = .ok ⟨w.fields ++ [e.configured], _⟩ := dif_pos hcontains
      rw [(enterAll_cons_of_ok hadd es).2, ih _ hnodup.2]
      intro d hd f hf
      rcases List.mem_append.1 hf with hf | hf
      · exact hfree d (List.mem_cons_of_mem e hd) f hf
      · rw [List.mem_singleton.1 hf, e.key_configured]
        intro hkey
        exact hnodup.1 (List.mem_map.2 ⟨d, hd, hkey.symm⟩)

end Histories

end Whitelist

/-! ### Look-ups decide -/

/-- The whitelists find the same fields. -/
def Whitelist.LooksUpAs (w v : Whitelist) : Prop :=
  ∀ name, v.find? name = w.find? name

namespace Whitelist.LooksUpAs

variable {w v : Whitelist}

theorem contains_eq (h : w.LooksUpAs v) (name : String) : v.contains name = w.contains name := by
  rw [contains, contains, h name]

theorem fieldOf_eq (h : w.LooksUpAs v) (t : Token) : v.fieldOf t = w.fieldOf t := by
  rw [fieldOf, fieldOf, resolve, resolve, h t.text]

theorem comparison_add_eq (h : w.LooksUpAs v) (c : Comparison) (t : Token) :
    c.add v t = c.add w t := by
  cases c with
  | blank => rw [Comparison.add, Comparison.add, h.fieldOf_eq]
  | listed f cs stage => cases stage <;> rfl
  | _ => rfl

theorem call_add_eq (h : w.LooksUpAs v) (c : Call) (t : Token) : c.add v t = c.add w t := by
  cases c with
  | opened fn => rw [Call.add, Call.add, Call.takeField, Call.takeField, h.fieldOf_eq]
  | _ => rfl

theorem node_add_eq (h : w.LooksUpAs v) (n : Node) (t : Token) : n.add v t = n.add w t := by
  cases n with
  | comparison c => rw [Node.add, Node.add, h.comparison_add_eq]
  | call c => rw [Node.add, Node.add, h.call_add_eq]
  | _ => rfl

theorem start_eq (h : w.LooksUpAs v) (c : Cursor) (t : Token) : c.start v t = c.start w t := by
  rw [Cursor.start, Cursor.start, h.comparison_add_eq, h.call_add_eq]

theorem accept_eq (h : w.LooksUpAs v) (p : Progress) (t : Token) :
    p.accept v t = p.accept w t := by
  unfold Progress.accept
  cases p.taker? t with
  | none => exact congrArg (Except.map _) (h.start_eq p.cursor t)
  | some n => exact congrArg (Except.map _) (h.node_add_eq n t)

theorem run_eq (h : w.LooksUpAs v) (p : Progress) (broken? : Option Refusal) (ts : List Token) :
    p.run v broken? ts = p.run w broken? ts := by
  induction ts generalizing p with
  | nil => rfl
  | cons t ts ih =>
      have hstep := h.accept_eq p t
      cases hacc : p.accept w t with
      | error r =>
          rw [hacc] at hstep
          rw [Progress.run_cons_of_error hacc, Progress.run_cons_of_error hstep]
      | ok q =>
          rw [hacc] at hstep
          rw [Progress.run_cons_of_ok hacc, Progress.run_cons_of_ok hstep, ih]

/-- A filter comes to the same for whitelists that find the same fields. -/
theorem parse_eq (h : w.LooksUpAs v) (filter : Option String) :
    v.parse filter = w.parse filter := by
  cases filter with
  | none => rfl
  | some text =>
      rw [parse, parse, nodes, nodes, scan_eq_of_contains_eq h.contains_eq, h.run_eq]

end Whitelist.LooksUpAs

/-! ### First wins -/

namespace Whitelist

/-- The whitelist answers as one that holds the fields of the enrolments, each with its own settings
and with the name and the type that it has been registered with. -/
structure Answers (w : Whitelist) (ds : List Enrolment) : Prop where
  nodup_keys : (ds.map Enrolment.key).Nodup
  name_eq : ∀ d ∈ ds, d.configured.name = d.field.name
  type_eq : ∀ d ∈ ds, d.configured.type = d.field.type
  size_eq : w.size = ds.length
  find?_iff : ∀ name f,
    w.find? name = some f ↔ ∃ d ∈ ds, d.key = Text.lower name ∧ f = d.configured
  contains_iff : ∀ name, w.contains name = true ↔ ∃ d ∈ ds, d.key = Text.lower name
  resolve_ok_iff : ∀ name f, w.resolve name = .ok f ↔ w.find? name = some f
  resolve_error_iff : ∀ name r,
    w.resolve name = .error r ↔ w.contains name = false ∧ r = .unknownField name

variable {w v : Whitelist} {ds es : List Enrolment}

theorem map_key_configured (ds : List Enrolment) :
    (ds.map Enrolment.configured).map Field.key = ds.map Enrolment.key := by
  rw [List.map_map]
  exact List.map_congr_left fun d _ => d.key_configured

/-- A whitelist that holds the fields of enrolments answers as such. -/
theorem answers_of_fields_eq (h : w.fields = ds.map Enrolment.configured) : w.Answers ds where
  nodup_keys := by
    rw [← map_key_configured, ← h]
    exact w.nodup_keys
  name_eq d _ := d.name_configured
  type_eq d _ := d.field.type_configureAll d.settings
  size_eq := by rw [size, h, List.length_map]
  find?_iff name f := by
    rw [find?_eq_some_iff, h, List.mem_map]
    constructor
    · rintro ⟨⟨d, hd, rfl⟩, hkey⟩
      exact ⟨d, hd, d.key_configured ▸ hkey, rfl⟩
    · rintro ⟨d, hd, hkey, rfl⟩
      exact ⟨⟨d, hd, rfl⟩, d.key_configured.trans hkey⟩
  contains_iff name := by
    rw [Whitelist.contains_iff]
    simp only [find?_eq_some_iff, h, List.mem_map]
    constructor
    · rintro ⟨-, ⟨d, hd, rfl⟩, hkey⟩
      exact ⟨d, hd, d.key_configured ▸ hkey⟩
    · rintro ⟨d, hd, hkey⟩
      exact ⟨d.configured, ⟨d, hd, rfl⟩, d.key_configured.trans hkey⟩
  resolve_ok_iff name f := by
    unfold resolve
    cases w.find? name <;> simp
  resolve_error_iff name r := by
    unfold resolve contains
    cases w.find? name <;> simp [eq_comm]

/-- An enrolment fails exactly if its key is taken, and it fails before anything is written. -/
theorem run_enter_eq_error_iff (h : w.Answers ds) {e : Enrolment} {r : Refusal} :
    (enter e).run w = .error r v ↔
      (∃ d ∈ ds, d.key = e.key) ∧ r = .duplicateField e.field.name ∧ v = w := by
  have htaken : w.contains e.configured.name = true ↔ ∃ d ∈ ds, d.key = e.key := by
    rw [h.contains_iff, ← e.key_configured]
    rfl
  have hrefused : (enter e).run w = .error r v ↔ w.add e.configured = .error r ∧ v = w := by
    rw [run_enter]
    cases w.add e.configured with
    | ok u => simp
    | error r' => rw [EStateM.Result.error.injEq, Except.error.injEq, eq_comm (a := w)]
  rw [hrefused, add_eq_error_iff, htaken, e.name_configured, and_assoc]

/-- Whitelists with the same fields in another order find the same fields. -/
theorem looksUpAs_of_perm (hw : w.Answers ds) (hv : v.Answers es) (h : ds.Perm es) :
    w.LooksUpAs v := by
  intro name
  apply Option.ext
  intro f
  rw [hv.find?_iff, hw.find?_iff]
  simp only [h.mem_iff]

/-- **A whitelist keeps the first field of each name, and a refused registration changes nothing.**
After any history it answers as one that holds the accepted enrolments.  A further enrolment is
refused exactly if an accepted one has its key: the refusal carries the name as it was given, and
the whitelist is the same as before.  A history of distinct fields comes to the same for every
filter in whatever order they are registered. -/
theorem answers_of_history (es : List Enrolment) :
    ((∅ : Whitelist).enterAll es).Answers ((∅ : Whitelist).entered es) ∧
      (∀ e r v, (enter e).run ((∅ : Whitelist).enterAll es) = .error r v ↔
        (∃ d ∈ (∅ : Whitelist).entered es, d.key = e.key) ∧ r = .duplicateField e.field.name ∧
          v = (∅ : Whitelist).enterAll es) ∧
      ((es.map Enrolment.key).Nodup → (∅ : Whitelist).entered es = es ∧
        ∀ es', es.Perm es' → ∀ filter,
          ((∅ : Whitelist).enterAll es').parse filter =
            ((∅ : Whitelist).enterAll es).parse filter) := by
  have hanswers : ∀ es, ((∅ : Whitelist).enterAll es).Answers ((∅ : Whitelist).entered es) :=
    fun es => answers_of_fields_eq (fields_enterAll_empty es)
  have hentered : ∀ es, (es.map Enrolment.key).Nodup → (∅ : Whitelist).entered es = es :=
    fun es => entered_eq_of_nodup fun _ _ f hf => absurd hf List.not_mem_nil
  refine ⟨hanswers es, fun e r v => run_enter_eq_error_iff (hanswers es), fun hnodup => ?_⟩
  refine ⟨hentered es hnodup, fun es' hperm filter => ?_⟩
  have hnodup' : (es'.map Enrolment.key).Nodup := (hperm.map Enrolment.key).nodup_iff.1 hnodup
  refine (looksUpAs_of_perm (hanswers es) (hanswers es') ?_).parse_eq filter
  rwa [hentered es hnodup, hentered es' hnodup']

/-- A text field and a number, each with settings that follow its registration. -/
def crew : List Enrolment :=
  [⟨.ofType "Name" .string, [.upperCase, .rename "Person.Name"]⟩,
    ⟨.ofType "age" .long, [.upperCase, .notNull]⟩]

/-- A field whose name is taken in another spelling. -/
def namesake : Enrolment :=
  ⟨.ofType "NAME" .bool, [.rename "Flag"]⟩

/-- The namesake is refused under its own name and changes nothing, each field has its own settings
alone, and the two fields can be registered in the other order. -/
theorem answers_of_history_namesake :
    (crew.map Enrolment.key).Nodup ∧ crew.Perm crew.reverse ∧
      (enter namesake).run ((∅ : Whitelist).enterAll crew) =
        .error (.duplicateField "NAME") ((∅ : Whitelist).enterAll crew) ∧
      (∃ f, ((∅ : Whitelist).enterAll crew).find? "nAmE" = some f ∧ f.name = "Name" ∧
        f.target = "Person.Name" ∧ f.ignoreCase = true ∧ f.checkNotNull = false) ∧
      ((∅ : Whitelist).enterAll crew).parse (some "NAME eq 'x' and age gt 1") =
        .ok (some ⟨"Person.Name.ToUpper() == @0 && (age != null && age > @1)",
          [.string (some "X"), .long (some 1)]⟩) ∧
      ((∅ : Whitelist).enterAll crew.reverse).parse (some "NAME eq 'x' and age gt 1") =
        ((∅ : Whitelist).enterAll crew).parse (some "NAME eq 'x' and age gt 1") := by
  obtain ⟨hanswers, hrefused, horder⟩ := answers_of_history crew
  have hnodup : (crew.map Enrolment.key).Nodup := by decide +kernel
  have hperm : crew.Perm crew.reverse := (List.reverse_perm crew).symm
  obtain ⟨hentered, hparse⟩ := horder hnodup
  rw [hentered] at hanswers hrefused
  have hkey : ∃ d ∈ crew, d.key = namesake.key :=
    ⟨_, List.mem_cons_self, by decide +kernel⟩
  have hname : ∃ f, ((∅ : Whitelist).enterAll crew).find? "nAmE" = some f ∧ f = _ :=
    ⟨_, (hanswers.find?_iff _ _).2 ⟨_, List.mem_cons_self, by decide +kernel, rfl⟩, rfl⟩
  obtain ⟨f, hfind, rfl⟩ := hname
  exact ⟨hnodup, hperm, (hrefused _ _ _).2 ⟨hkey, rfl, rfl⟩, ⟨_, hfind, rfl, rfl, rfl, rfl⟩,
    by decide +kernel, hparse _ hperm _⟩

end Whitelist

end FilterQuery
