/-
**A schema is read back from its text.**

What an option is written as and what it stands for when it is left out are set separately, and an
option would be lost where the two disagree.  They do not: an option that may be absent is left out
exactly if it is absent, and every other option is written, whatever it is.  So a list of operators
without any operator stays apart from no list, and what a direction is without a word of it never
matters.  A schema is read back from its compact text, and from any other text of the same document.

Main definitions:

* `Json.recordMembers` — the members of an object that is written slot by slot;
* `Json.Inverts` — a reader that reads back whatever a writer writes;
* `FieldEntry.slots`, `SortEntry.slots`, `Schema.slots` — what is written of entries and schemas.

Main results:

* `Json.slots?_record`, `Json.writes_record` — slots with distinct names are read back, and the
  compact text of a record is one of its texts;
* `Json.Inverts.list`, `Json.Inverts.slotD_nullable?` — lists and values that may be absent are read
  back if their parts are;
* `FieldEntry.inverts`, `SortEntry.inverts`, `Schema.inverts` — entries and schemas are read back
  from their documents;
* `Schema.ofText?_of_isTextOf` — **a schema is read back from its compact text, and from any other
  text of its document**.
-/

import FilterQuery.Proofs.Documents
import FilterQuery.Schema.Text

set_option relaxedAutoImplicit false
set_option autoImplicit false

namespace FilterQuery

namespace Json

variable {α : Type} {read : Json → Option α} {write : α → Json} {name : String}
  {slots : List (String × Option Json)}

/-! ### Records -/

/-- The members that are written for slots: an empty one has none. -/
def recordMembers (slots : List (String × Option Json)) : List (Json.Text × Json) :=
  slots.flatMap fun slot => member? slot.1 slot.2

theorem recordMembers_cons (slot : String × Option Json) (slots : List (String × Option Json)) :
    recordMembers (slot :: slots) = member? slot.1 slot.2 ++ recordMembers slots :=
  List.flatMap_cons

/-- A member is written for each slot that holds a value, and for nothing else. -/
theorem mem_recordMembers {m : Json.Text × Json} :
    m ∈ recordMembers slots ↔ ∃ name value, (name, some value) ∈ slots ∧ m = member name value := by
  simp only [recordMembers, List.mem_flatMap, member?, Option.mem_toList, Option.map_eq_some_iff]
  constructor
  · rintro ⟨⟨name, value?⟩, hslot, value, rfl, rfl⟩
    exact ⟨name, value, hslot, rfl⟩
  · rintro ⟨name, value, hslot, rfl⟩
    exact ⟨(name, some value), hslot, value, rfl, rfl⟩

theorem valuesOf_append (name : String) (members more : List (Json.Text × Json)) :
    valuesOf name (members ++ more) = valuesOf name members ++ valuesOf name more := by
  rw [valuesOf, List.filter_append, List.map_append]
  rfl

theorem valuesOf_member? (name other : String) (value? : Option Json) :
    valuesOf name (member? other value?) = if other = name then value?.toList else [] := by
  by_cases h : other = name <;> cases value? <;> simp [valuesOf, member?, member, h]

/-- A name that no slot has is given no value. -/
theorem valuesOf_eq_nil (h : name ∉ slots.map Prod.fst) :
    valuesOf name (recordMembers slots) = [] := by
  induction slots with
  | nil => rfl
  | cons slot slots ih =>
      rw [List.map_cons, List.mem_cons, not_or] at h
      rw [recordMembers_cons, valuesOf_append, valuesOf_member?, if_neg (Ne.symm h.1), ih h.2]
      rfl

/-- Where no two slots have one name, the name of a slot is given its value. -/
theorem valuesOf_eq_toList (hnodup : (slots.map Prod.fst).Nodup) {slot : String × Option Json}
    (h : slot ∈ slots) : valuesOf slot.1 (recordMembers slots) = slot.2.toList := by
  induction slots with
  | nil => contradiction
  | cons first slots ih =>
      rw [List.map_cons, List.nodup_cons] at hnodup
      rw [recordMembers_cons, valuesOf_append, valuesOf_member?]
      rcases List.mem_cons.1 h with rfl | h
      · rw [if_pos rfl, valuesOf_eq_nil hnodup.1, List.append_nil]
      · have hne : first.1 ≠ slot.1 := fun heq => hnodup.1 (heq ▸ List.mem_map_of_mem h)
        rw [if_neg hne, ih hnodup.2 h, List.nil_append]

/-- The items of a list are read one by one. -/
theorem mapM_map_eq_some {β γ δ : Type} {f : β → γ} {g : γ → Option δ} {value : β → δ} {l : List β}
    (h : ∀ b ∈ l, g (f b) = some (value b)) : (l.map f).mapM g = some (l.map value) := by
  induction l with
  | nil => rfl
  | cons b l ih =>
      rw [List.forall_mem_cons] at h
      rw [List.map_cons, List.mapM_cons, h.1, ih h.2]
      rfl

/-- The slots of a record are read back. -/
theorem slots?_record (hnodup : (slots.map Prod.fst).Nodup) :
    (Json.object (recordMembers slots)).slots? (slots.map Prod.fst) =
      some (slots.map Prod.snd) := by
  have hnames : ∀ m ∈ recordMembers slots, m.1.isSome = true := by
    intro m hm
    obtain ⟨name, value, -, rfl⟩ := mem_recordMembers.1 hm
    rfl
  rw [slots?, if_pos (List.all_eq_true.2 hnames)]
  refine mapM_map_eq_some fun slot hslot => ?_
  rw [slot?, valuesOf_eq_toList hnodup hslot]
  cases slot.2 <;> rfl

/-- The compact text of a record is one of its texts if those of its values are. -/
theorem writes_record (h : ∀ slot ∈ slots, ∀ value ∈ slot.2, Writes value value.render) :
    Writes (.object (recordMembers slots)) (Json.object (recordMembers slots)).render := by
  refine writes_object fun m hm => ?_
  obtain ⟨name, value, hslot, rfl⟩ := mem_recordMembers.1 hm
  exact ⟨rfl, h _ hslot value rfl⟩

/-- The compact text of a list is one of its texts if those of its items are. -/
theorem writes_map {l : List α} (h : ∀ a ∈ l, Writes (write a) (write a).render) :
    Writes (.array (l.map write)) (Json.array (l.map write)).render :=
  writes_array (List.forall_mem_map.2 h)

/-! ### Readers that read back what is written -/

/-- The reader reads back whatever the writer writes. -/
def Inverts (read : Json → Option α) (write : α → Json) : Prop :=
  ∀ a, read (write a) = some a

theorem inverts_string : Inverts string? ofString :=
  fun _ => rfl

theorem inverts_bool : Inverts bool? .bool :=
  fun _ => rfl

/-- A value that is written is read back, whatever stands for one that is left out. -/
theorem Inverts.slotD (h : Inverts read write) (default a : α) :
    Json.slotD read default (some (write a)) = some a :=
  h a

/-- The items of a list are read back one by one. -/
theorem Inverts.list (h : Inverts read write) :
    Inverts (list? read) fun as => .array (as.map write) := by
  intro as
  have hitems := mapM_map_eq_some fun a (_ : a ∈ as) => h a
  rwa [List.map_id'] at hitems

/-- A value that may be absent is read back if none is written as null. -/
theorem Inverts.slotD_nullable? (h : Inverts read write) (hnull : ∀ a, write a ≠ .null)
    (a? : Option α) : Json.slotD (nullable? read) none (a?.map write) = some a? := by
  cases a? with
  | none => rfl
  | some a =>
      have hread : nullable? read (write a) = (read (write a)).map some := by
        unfold nullable?
        split
        next hj => exact absurd hj (hnull a)
        next => rfl
      rw [Option.map_some, Json.slotD, hread, h a, Option.map_some]

end Json

open Json

/-! ### Entries -/

theorem FieldType.fieldType?_keyword (t : FieldType) : fieldType? (ofString t.keyword) = some t :=
  ofKeyword?_keyword t

/-- The slots of a field's document. -/
def FieldEntry.slots (e : FieldEntry) : List (String × Option Json) :=
  [("name", some (ofString e.name)), ("rename", e.renamed?.map ofString),
    ("type", some (ofString e.type.keyword)), ("ignore_case", some (.bool e.ignoreCase)),
    ("check_not_null", some (.bool e.checkNotNull)),
    ("operators", e.operators?.map fun os => .array (os.map ofString))]

theorem FieldEntry.toJson_eq (e : FieldEntry) : e.toJson = .object (recordMembers e.slots) := by
  simp [FieldEntry.toJson, FieldEntry.slots, recordMembers, member?, member]

/-- A field is read back from its document. -/
theorem FieldEntry.inverts : Inverts FieldEntry.ofJson? FieldEntry.toJson := by
  intro e
  have hslots := slots?_record (show (e.slots.map Prod.fst).Nodup by simp [FieldEntry.slots])
  have hrenamed := inverts_string.slotD_nullable? nofun e.renamed?
  have hoperators := inverts_string.list.slotD_nullable? nofun e.operators?
  rw [← e.toJson_eq] at hslots
  simp only [FieldEntry.slots, List.map_cons, List.map_nil] at hslots
  rw [FieldEntry.ofJson?, hslots]
  simp only [inverts_string e.name, hrenamed, e.type.fieldType?_keyword,
    inverts_bool.slotD false, hoperators]
  rfl

/-- The slots of a sortable field's document. -/
def SortEntry.slots (e : SortEntry) : List (String × Option Json) :=
  [("name", some (ofString e.name)), ("rename", e.renamed?.map ofString),
    ("ascending", some (.bool e.ascending)), ("descending", some (.bool e.descending))]

theorem SortEntry.toJson_eq (e : SortEntry) : e.toJson = .object (recordMembers e.slots) := by
  simp [SortEntry.toJson, SortEntry.slots, recordMembers, member?, member]

/-- A sortable field is read back from its document. -/
theorem SortEntry.inverts : Inverts SortEntry.ofJson? SortEntry.toJson := by
  intro e
  have hslots := slots?_record (show (e.slots.map Prod.fst).Nodup by simp [SortEntry.slots])
  have hrenamed := inverts_string.slotD_nullable? nofun e.renamed?
  rw [← e.toJson_eq] at hslots
  simp only [SortEntry.slots, List.map_cons, List.map_nil] at hslots
  rw [SortEntry.ofJson?, hslots]
  simp only [inverts_string e.name, hrenamed, inverts_bool.slotD true]
  rfl

/-! ### Schemas -/

/-- The slots of a schema's document. -/
def Schema.slots (s : Schema) : List (String × Option Json) :=
  [("fields", some (.array (s.fields.map FieldEntry.toJson))),
    ("order_by", some (.array (s.sorts.map SortEntry.toJson))),
    ("default_order", s.defaultOrder?.map ofString)]

theorem Schema.toJson_eq (s : Schema) : s.toJson = .object (recordMembers s.slots) := by
  simp [Schema.toJson, Schema.slots, recordMembers, member?, member]

/-- A schema is read back from its document. -/
theorem Schema.inverts : Inverts Schema.ofJson? Schema.toJson := by
  intro s
  have hslots := slots?_record (show (s.slots.map Prod.fst).Nodup by simp [Schema.slots])
  have horder := inverts_string.slotD_nullable? nofun s.defaultOrder?
  rw [← s.toJson_eq] at hslots
  simp only [Schema.slots, List.map_cons, List.map_nil] at hslots
  rw [Schema.ofJson?, hslots]
  simp only [FieldEntry.inverts.list.slotD [], SortEntry.inverts.list.slotD [], horder]
  rfl

/-! ### Their texts -/

/-- The compact text of a field's document is one of its texts. -/
theorem FieldEntry.writes_toJson (e : FieldEntry) : Writes e.toJson e.toJson.render := by
  have hoperators := fun os : List String =>
    writes_map fun o (_ : o ∈ os) => writes_ofString o
  rw [e.toJson_eq]
  apply writes_record
  simp [FieldEntry.slots, writes_ofString, writes_bool, hoperators]

/-- The compact text of a sortable field's document is one of its texts. -/
theorem SortEntry.writes_toJson (e : SortEntry) : Writes e.toJson e.toJson.render := by
  rw [e.toJson_eq]
  apply writes_record
  simp [SortEntry.slots, writes_ofString, writes_bool]

/-- The compact text of a schema is a text of its document. -/
theorem Schema.isTextOf_toText (s : Schema) : s.toJson.IsTextOf s.toText := by
  have hfields := writes_map fun e (_ : e ∈ s.fields) => e.writes_toJson
  have hsorts := writes_map fun e (_ : e ∈ s.sorts) => e.writes_toJson
  apply isTextOf_render
  rw [s.toJson_eq]
  apply writes_record
  simp [Schema.slots, writes_ofString, hfields, hsorts]

/-- **A schema is read back from its text.**  It is read back from the compact text that it is
written as, and from every other text of its document, which has other blanks between its parts. -/
theorem Schema.ofText?_of_isTextOf (s : Schema) :
    Schema.ofText? s.toText = some s ∧
      ∀ text, s.toJson.IsTextOf text → Schema.ofText? text = some s := by
  have hread : ∀ text, s.toJson.IsTextOf text → Schema.ofText? text = some s := by
    intro text htext
    rw [Schema.ofText?, htext.parse?_eq, Option.bind_some, Schema.inverts s]
  exact ⟨hread _ s.isTextOf_toText, hread⟩

/-- A schema is read back from a text that has been laid out on several lines.  Its field has no
operator, and its sortable field no descending order. -/
theorem Schema.ofText?_of_isTextOf_lines :
    let field : FieldEntry := ⟨"born", some "birthDate", .date, false, true, some []⟩
    let sort : SortEntry := ⟨"born", none, true, false⟩
    let s : Schema := ⟨[field], [sort], some "the \"name\"\\\x01"⟩
    let text := "\x7b\n  \"fields\": [\n    \x7b\n      \"name\": \"born\",\n" ++
      "      \"rename\": \"birthDate\",\n      \"type\": \"date\",\n" ++
      "      \"ignore_case\": false,\n      \"check_not_null\": true,\n" ++
      "      \"operators\": [ ]\n    \x7d\n  ],\n  \"order_by\": [\n" ++
      "    \x7b \"name\": \"born\", \"ascending\": true, \"descending\": false \x7d\n  ],\n" ++
      "  \"default_order\": \"the \\\"name\\\"\\\\\\u0001\"\n\x7d\n"
    s.toJson.IsTextOf text ∧ Schema.ofText? s.toText = some s ∧ Schema.ofText? text = some s := by
  intro field sort s text
  have hblank : IsGap [' '] := by decide
  have hend : IsGap ['\n'] := by decide
  have houter : IsGap "\n  ".toList := by decide
  have hentry : IsGap "\n    ".toList := by decide
  have hinner : IsGap "\n      ".toList := by decide
  have hfield : Writes field.toJson _ := .object hentry
    (.cons (.mk hinner "name" isGap_nil (.text hblank _)) isGap_nil
      (.cons (.mk hinner "rename" isGap_nil (.text hblank _)) isGap_nil
        (.cons (.mk hinner "type" isGap_nil (.text hblank _)) isGap_nil
          (.cons (.mk hinner "ignore_case" isGap_nil (.bool hblank _)) isGap_nil
            (.cons (.mk hinner "check_not_null" isGap_nil (.bool hblank _)) isGap_nil
              (.last (.mk hinner "operators" isGap_nil (.noItems hblank hblank)) hentry))))))
  have hsort : Writes sort.toJson _ := .object hentry
    (.cons (.mk hblank "name" isGap_nil (.text hblank _)) isGap_nil
      (.cons (.mk hblank "ascending" isGap_nil (.bool hblank _)) isGap_nil
        (.last (.mk hblank "descending" isGap_nil (.bool hblank _)) hblank)))
  have hschema : Writes s.toJson _ := .object isGap_nil
    (.cons (.mk houter "fields" isGap_nil (.array hblank (.last hfield houter))) isGap_nil
      (.cons (.mk houter "order_by" isGap_nil (.array hblank (.last hsort houter))) isGap_nil
        (.last (.mk houter "default_order" isGap_nil (.text hblank _)) hend)))
  have htext : s.toJson.IsTextOf text := by
    refine ⟨_, _, hschema, hend, ?_⟩
    -- Each line is decoded by itself.
    simp only [text, String.toList_append]
    decide +kernel
  obtain ⟨hcompact, hall⟩ := Schema.ofText?_of_isTextOf s
  exact ⟨htext, hcompact, hall text htext⟩

end FilterQuery
