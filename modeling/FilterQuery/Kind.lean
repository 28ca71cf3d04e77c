/-
**Kinds of tokens, and sets of kinds.**

Every token that is read off a text has exactly one kind.  What a field supports and what a
position expects are sets of kinds, and a token is tested against such a set as a whole.

Main definitions:

* `Kind` — the kinds of tokens;
* `KindSet` — sets of kinds, with `KindSet.union`, `KindSet.inter`, `KindSet.meets` and
  `KindSet.covers`;
* `KindSet.equality`, `KindSet.comparison`, `KindSet.stringFunction`, `KindSet.constant`,
  `KindSet.logical` — the classes of kinds that the grammar speaks of;
* `Kind.ofKeyword?` — the kind of a keyword;
* `KindSet.operatorSymbol?`, `KindSet.functionName?`, `KindSet.logicalSymbol?` — the output text of
  a set that consists of one operator.

Main results:

* `KindSet.meets_single`, `KindSet.covers_single` — on single kinds both tests are membership.
-/

import FilterQuery.Text.Casing

set_option relaxedAutoImplicit false
set_option autoImplicit false

namespace FilterQuery

/-- What a token is. -/
inductive Kind where
  | openParen
  | closeParen
  | comma
  | literal
  | value
  | nullWord
  | trueWord
  | falseWord
  | field
  | conjunction
  | disjunction
  | negation
  | equal
  | notEqual
  | greater
  | greaterOrEqual
  | less
  | lessOrEqual
  | memberOf
  | startsWith
  | endsWith
  | contains
deriving DecidableEq

namespace Kind

/-- Every kind, in order. -/
def all : List Kind :=
  [.openParen, .closeParen, .comma, .literal, .value, .nullWord, .trueWord, .falseWord, .field,
    .conjunction, .disjunction, .negation, .equal, .notEqual, .greater, .greaterOrEqual, .less,
    .lessOrEqual, .memberOf, .startsWith, .endsWith, .contains]

theorem mem_all (k : Kind) : k ∈ all := by
  cases k <;> decide

/-- The name of a kind in diagnostics. -/
def label : Kind → String
  | .openParen => "OPEN_PAREN"
  | .closeParen => "CLOSE_PAREN"
  | .comma => "COMMA"
  | .literal => "LITERAL"
  | .value => "VALUE"
  | .nullWord => "NULL"
  | .trueWord => "TRUE"
  | .falseWord => "FALSE"
  | .field => "FIELD"
  | .conjunction => "AND"
  | .disjunction => "OR"
  | .negation => "NOT"
  | .equal => "EQUAL"
  | .notEqual => "NOT_EQUAL"
  | .greater => "GREATER_THAN"
  | .greaterOrEqual => "GREATER_THAN_OR_EQUAL"
  | .less => "LESS_THAN"
  | .lessOrEqual => "LESS_THAN_OR_EQUAL"
  | .memberOf => "IN"
  | .startsWith => "STARTS_WITH"
  | .endsWith => "ENDS_WITH"
  | .contains => "CONTAINS"

/-! ### Keywords -/

/-- The keywords in lower case, with their kinds. -/
def keywords : List (String × Kind) :=
  [("eq", .equal), ("ne", .notEqual), ("gt", .greater), ("ge", .greaterOrEqual), ("lt", .less),
    ("le", .lessOrEqual), ("in", .memberOf), ("true", .trueWord), ("false", .falseWord),
    ("null", .nullWord), ("and", .conjunction), ("or", .disjunction), ("not", .negation),
    ("startswith", .startsWith), ("endswith", .endsWith), ("contains", .contains)]

/-- The length of the longest keyword in bytes. -/
def maxKeywordBytes : Nat := 10

/-- No keyword is longer. -/
theorem utf8ByteSize_le_of_mem_keywords {p : String × Kind} (hp : p ∈ keywords) :
    p.1.utf8ByteSize ≤ maxKeywordBytes := by
  have hkeywords : ∀ p ∈ keywords, p.1.utf8ByteSize ≤ maxKeywordBytes := by decide
  exact hkeywords p hp

/-- The kind of a word that is a keyword in any ASCII case.  A word that is longer than every
keyword is not looked up. -/
def ofKeyword? (word : String) : Option Kind :=
  if maxKeywordBytes < word.utf8ByteSize then none
  else keywords.lookup (Text.lowerAscii word)

/-- What is read as a keyword is listed in lower case. -/
theorem mem_keywords_of_ofKeyword? {word : String} {k : Kind} (h : ofKeyword? word = some k) :
    (Text.lowerAscii word, k) ∈ keywords := by
  obtain ⟨-, hlookup⟩ := Option.ite_none_left_eq_some.1 h
  obtain ⟨before, after, heq, -⟩ := List.lookup_eq_some_iff.1 hlookup
  simp [heq]

/-! ### Output text -/

/-- The output text of a comparison operator. -/
def operatorSymbol? : Kind → Option String
  | .equal => some "=="
  | .notEqual => some "!="
  | .greater => some ">"
  | .greaterOrEqual => some ">="
  | .less => some "<"
  | .lessOrEqual => some "<="
  | .memberOf => some "in"
  | _ => none

/-- The output name of a string function. -/
def functionName? : Kind → Option String
  | .startsWith => some "StartsWith"
  | .endsWith => some "EndsWith"
  | .contains => some "Contains"
  | _ => none

/-- The output text of a logical operator. -/
def logicalSymbol? : Kind → Option String
  | .conjunction => some "&&"
  | .disjunction => some "||"
  | .negation => some "!"
  | _ => none

end Kind

/-! ### Sets of kinds -/

/-- A set of kinds, given by its membership test. -/
structure KindSet where
  has : Kind → Bool

namespace KindSet

instance : Membership Kind KindSet where
  mem s k := s.has k = true

theorem mem_iff {k : Kind} {s : KindSet} : k ∈ s ↔ s.has k = true := Iff.rfl

instance (k : Kind) (s : KindSet) : Decidable (k ∈ s) :=
  inferInstanceAs (Decidable (s.has k = true))

@[ext] theorem ext {s t : KindSet} (h : ∀ k, k ∈ s ↔ k ∈ t) : s = t := by
  cases s with
  | mk f =>
      cases t with
      | mk g =>
          congr 1
          funext k
          exact Bool.eq_iff_iff.2 (h k)

/-- The members of a set, in order. -/
def toList (s : KindSet) : List Kind :=
  Kind.all.filter s.has

@[simp] theorem mem_toList {k : Kind} {s : KindSet} : k ∈ s.toList ↔ k ∈ s := by
  simp [toList, Kind.mem_all, mem_iff]

theorem toList_inj {s t : KindSet} : s.toList = t.toList ↔ s = t := by
  constructor
  · intro h
    ext k
    rw [← mem_toList, h, mem_toList]
  · rintro rfl
    rfl

instance : DecidableEq KindSet := fun _ _ =>
  decidable_of_iff _ toList_inj

/-- The set with the given members. -/
def ofList (ks : List Kind) : KindSet :=
  ⟨fun k => ks.contains k⟩

@[simp] theorem mem_ofList {k : Kind} {ks : List Kind} : k ∈ ofList ks ↔ k ∈ ks := by
  simp [mem_iff, ofList]

/-- The set with no member. -/
def empty : KindSet :=
  ⟨fun _ => false⟩

instance : EmptyCollection KindSet := ⟨empty⟩

@[simp] theorem not_mem_empty (k : Kind) : ¬ k ∈ (∅ : KindSet) := by
  simp [mem_iff, EmptyCollection.emptyCollection, empty]

/-- The set with one member. -/
def single (k : Kind) : KindSet :=
  ⟨fun l => l == k⟩

@[simp] theorem mem_single {k l : Kind} : k ∈ single l ↔ k = l := by
  simp [mem_iff, single]

/-- The members of either set. -/
def union (s t : KindSet) : KindSet :=
  ⟨fun k => s.has k || t.has k⟩

@[simp] theorem mem_union {k : Kind} {s t : KindSet} : k ∈ s.union t ↔ k ∈ s ∨ k ∈ t := by
  simp [mem_iff, union]

/-- The members of both sets. -/
def inter (s t : KindSet) : KindSet :=
  ⟨fun k => s.has k && t.has k⟩

@[simp] theorem mem_inter {k : Kind} {s t : KindSet} : k ∈ s.inter t ↔ k ∈ s ∧ k ∈ t := by
  simp [mem_iff, inter]

/-- Whether two sets have a member in common. -/
def meets (s t : KindSet) : Bool :=
  Kind.all.any fun k => s.has k && t.has k

theorem meets_iff {s t : KindSet} : s.meets t = true ↔ ∃ k, k ∈ s ∧ k ∈ t := by
  simp [meets, Kind.mem_all, mem_iff]

/-- Whether every member of `t` is a member of `s`. -/
def covers (s t : KindSet) : Bool :=
  Kind.all.all fun k => !t.has k || s.has k

theorem covers_iff {s t : KindSet} : s.covers t = true ↔ ∀ k, k ∈ t → k ∈ s := by
  simp only [covers, List.all_eq_true, Kind.mem_all, true_implies, Bool.or_eq_true,
    Bool.not_eq_true', mem_iff]
  refine forall_congr' fun k => ?_
  cases t.has k <;> simp

/-- A single kind meets the sets it belongs to. -/
@[simp] theorem meets_single {k : Kind} {s : KindSet} :
    (single k).meets s = true ↔ k ∈ s := by
  simp [meets_iff]

/-- A single kind is covered by the sets it belongs to. -/
@[simp] theorem covers_single {k : Kind} {s : KindSet} :
    s.covers (single k) = true ↔ k ∈ s := by
  simp [covers_iff]

/-! ### Classes -/

/-- The operators that compare for equality. -/
def equality : KindSet :=
  .ofList [.equal, .notEqual]

/-- The comparison operators. -/
def comparison : KindSet :=
  .ofList [.equal, .notEqual, .greater, .greaterOrEqual, .less, .lessOrEqual, .memberOf]

/-- The string functions. -/
def stringFunction : KindSet :=
  .ofList [.startsWith, .endsWith, .contains]

/-- The truth values. -/
def boolean : KindSet :=
  .ofList [.trueWord, .falseWord]

/-- The constants. -/
def constant : KindSet :=
  .ofList [.literal, .value, .nullWord, .trueWord, .falseWord]

/-- The logical operators. -/
def logical : KindSet :=
  .ofList [.conjunction, .disjunction, .negation]

/-! ### Output text -/

/-- The sole member of a set. -/
def only? (s : KindSet) : Option Kind :=
  match s.toList with
  | [k] => some k
  | _ => none

/-- The output text of a set that is one comparison operator. -/
def operatorSymbol? (s : KindSet) : Option String :=
  s.only?.bind Kind.operatorSymbol?

/-- The output name of a set that is one string function. -/
def functionName? (s : KindSet) : Option String :=
  s.only?.bind Kind.functionName?

/-- The output text of a set that is one logical operator. -/
def logicalSymbol? (s : KindSet) : Option String :=
  s.only?.bind Kind.logicalSymbol?

@[simp] theorem only?_single (k : Kind) : (single k).only? = some k := by
  cases k <;> rfl

/-- The form in which a diagnostic shows a set. -/
def diagnostic (s : KindSet) : String :=
  let labels := s.toList.map Kind.label
  let body := if labels.isEmpty then "0x0" else " | ".intercalate labels
  "TokenKind(" ++ body ++ ")"

end KindSet

end FilterQuery
