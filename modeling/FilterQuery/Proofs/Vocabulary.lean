/-
**Tokens that can be written in any filter.**

To write down a filter one needs texts that are read as the tokens that are meant.  For marks and
keywords these are always the same.  The name of a field is read as a field if it looks like an
identifier.  And every type has a constant whose text does not depend on the registered fields, as
long as their names are identifiers: it is a literal, a keyword, or starts with a digit, and no name
that starts with a letter comes to start with a digit in lower case.

Main definitions:

* `IsIdentifier` — what the name of a field looks like where it is plain;
* `Kind.spelling`, `Token.mark` — the marks and the keywords;
* `Field.mention` — the name of a field;
* `FieldType.sample` — a constant of each type.

Main results:

* `Text.isCaseless_isDigit` — lower-casing neither makes nor removes a digit;
* `Kind.ofKeyword?_eq_some_iff` — keywords are their spellings in any case;
* `Whitelist.standsAlone_mark`, `Whitelist.standsAlone_mention`, `Whitelist.standsAlone_sample` —
  these texts are read as these tokens;
* `Whitelist.names_mention`, `Field.exists_admits_sample` — which name the field, and are constants
  of the fields of the type.
-/

import FilterQuery.Proofs.Caseless
import FilterQuery.Proofs.Quotation

set_option relaxedAutoImplicit false
set_option autoImplicit false

namespace FilterQuery

/-! ### Digits in lower case -/

/-- Lower-casing neither makes nor removes a digit. -/
theorem Text.isCaseless_isDigit : IsCaseless Char.isDigit := by
  have hranges : Char.isDigit = fun c => inRanges [(48, 57)] c.toNat := by
    funext c
    simp [Char.isDigit, inRanges, UInt32.le_iff_toNat_le]
  rw [hranges]
  exact isCaseless_inRanges (ignoresCase_of_letters (by decide)) (by decide) (by decide +kernel)

/-! ### Names -/

/-- The name is read as the name of a field wherever it stands: it starts with a letter or an
underscore, has no blank and no punctuation, and is neither a keyword nor an identifier. -/
structure IsIdentifier (name : String) : Prop where
  startsName : startsName name.toList = true
  isWordChar : name.toList.all isWordChar = true
  ofKeyword?_eq : Kind.ofKeyword? name = none
  guid_eq : Guid.read? name.toList = none

/-- A text that starts like a name does not start with a digit. -/
theorem head?_isDigit_of_startsName {cs : List Char} (h : startsName cs = true) :
    cs.head?.any Char.isDigit = false := by
  cases cs with
  | nil => rfl
  | cons c cs =>
      have hc : Text.isAlphabetic c = true ∨ c = '_' := by simpa [startsName] using h
      change c.isDigit = false
      rcases hc with hc | rfl
      · rw [Bool.eq_false_iff]
        intro hdigit
        have hrange := Text.toNat_of_isDigit hdigit
        have hascii : c.toNat < 128 := by omega
        rw [Text.isAlphabetic_eq_isAlpha hascii, Text.isAlpha_of_isDigit hdigit] at hc
        contradiction
      · decide

/-- The name of a field as a token. -/
def Field.mention (f : Field) : Token :=
  ⟨.single .field, 0, f.name⟩

/-! ### Marks and keywords -/

/-- The text of a mark or a keyword, and nothing for the other kinds. -/
def Kind.spelling : Kind → String
  | .openParen => "("
  | .closeParen => ")"
  | .comma => ","
  | k => ((keywords.find? fun p => p.2 == k).map Prod.fst).getD ""

theorem Kind.spelling_of_mem_keywords {p : String × Kind} (hp : p ∈ keywords) :
    p.2.spelling = p.1 := by
  have hkeywords : ∀ p ∈ keywords, p.2.spelling = p.1 := by decide
  exact hkeywords p hp

/-- A word is a keyword exactly if it is the spelling of one in any case. -/
theorem Kind.ofKeyword?_eq_some_iff {k : Kind} {word : String} :
    ofKeyword? word = some k ↔
      k ∈ keywords.map Prod.snd ∧ Text.CaseVariant word.toList k.spelling.toList := by
  have hkeywords : ∀ p ∈ keywords, Text.lowerAscii p.1 = p.1 ∧ keywords.lookup p.1 = some p.2 := by
    decide
  constructor
  · intro h
    have hmem := mem_keywords_of_ofKeyword? h
    have hspelling : k.spelling = Text.lowerAscii word := spelling_of_mem_keywords hmem
    refine ⟨List.mem_map.2 ⟨_, hmem, rfl⟩, Text.sameAsciiCase_iff.1 ?_⟩
    rw [Text.sameAsciiCase, hspelling, (hkeywords _ hmem).1, beq_self_eq_true]
  · rintro ⟨hk, hword⟩
    obtain ⟨p, hp, rfl⟩ := List.mem_map.1 hk
    rw [spelling_of_mem_keywords hp] at hword
    -- The word is as long as the keyword, so it is looked up.
    have hsize := utf8ByteSize_le_of_mem_keywords hp
    rw [← Text.utf8ByteSize_eq hword] at hsize
    rw [ofKeyword?, if_neg (Nat.not_lt.2 hsize), Text.lowerAscii_eq hword, (hkeywords p hp).1,
      (hkeywords p hp).2]

/-- A mark or a keyword as a token. -/
def Token.mark (k : Kind) : Token :=
  ⟨.single k, 0, k.spelling⟩

theorem Token.isA_mark (k : Kind) : (mark k).IsA k := rfl

/-! ### Constants -/

/-- A constant of the type: a literal, a keyword, or a word that starts with a digit. -/
def FieldType.sample : FieldType → Token
  | .string => ⟨.single .literal, 0, "''"⟩
  | .bool => ⟨.single .trueWord, 0, "true"⟩
  | .guid => ⟨.single .value, 0, "00000000000000000000000000000000"⟩
  | .date => ⟨.single .value, 0, "2000-01-01"⟩
  | .dateTime => ⟨.single .value, 0, "2000-01-01T00:00:00Z"⟩
  | _ => ⟨.single .value, 0, "0"⟩

theorem FieldType.isSome_read?_sample {type : FieldType} (htype : type ≠ .string) :
    (Value.read? type type.sample.text).isSome = true := by
  cases type with
  | string => contradiction
  | _ => decide +kernel

theorem FieldType.exists_isA_sample {type : FieldType} (htype : type ≠ .string) :
    ∃ k, type.sample.IsA k ∧ k ∈ [.value, .trueWord, .falseWord] ∧ k ∈ type.constantKinds := by
  cases type with
  | string => contradiction
  | bool => exact ⟨.trueWord, rfl, by decide, by decide⟩
  | _ => exact ⟨.value, rfl, by decide, by decide⟩

/-- A field whose texts are converted as usual admits the constant of its type. -/
theorem Field.exists_admits_sample {f : Field} (hf : f.convert = Value.read? f.type)
    (allowNull : Bool) : ∃ v, f.Admits allowNull f.type.sample (.value v) := by
  have hvalue : ∀ {text}, (Value.read? f.type text).isSome = true →
      ∃ v, f.valueOf? text = some v := by
    intro text htext
    obtain ⟨v, hv⟩ := Option.isSome_iff_exists.1 htext
    exact ⟨_, by rw [valueOf?, hf, hv, Option.map_some]⟩
  by_cases htype : f.type = .string
  · have hread : (Value.read? f.type f.type.sample.literalValue).isSome = true := by
      rw [htype]
      rfl
    obtain ⟨v, hv⟩ := hvalue hread
    refine ⟨v, .literal ?_ ?_ hv⟩
    · rw [htype]
      rfl
    · rw [htype]
      decide
  · obtain ⟨k, hk, hword, hkind⟩ := FieldType.exists_isA_sample htype
    obtain ⟨v, hv⟩ := hvalue (FieldType.isSome_read?_sample htype)
    exact ⟨v, .word hk hword hkind hv⟩

/-! ### Tokens that stand alone -/

namespace Whitelist

variable {w : Whitelist} {f : Field} {k : Kind} {word : String}

/-- A word that does not start with a quote is a token by itself, of the kind of the word. -/
theorem standsAlone_of_word {c : Char} {cs : List Char} (hword : word.toList = c :: cs)
    (hc : c ≠ '\'') (hchars : word.toList.all isWordChar = true)
    (hkind : w.wordKind word.toList = k) : w.StandsAlone ⟨.single k, 0, word⟩ := by
  refine ⟨k, rfl, ?_⟩
  rw [hword] at hchars hkind ⊢
  rw [← hkind]
  exact lexeme_word w hc hchars

theorem wordKind_of_keyword (h : Kind.ofKeyword? word = some k) :
    w.wordKind word.toList = k := by
  rw [wordKind, String.ofList_toList, h]

/-- Marks and keywords are read as such. -/
theorem standsAlone_mark (hk : k ∉ [.literal, .value, .field]) : w.StandsAlone (Token.mark k) := by
  cases k with
  | openParen => exact ⟨.openParen, rfl, .openParen []⟩
  | closeParen => exact ⟨.closeParen, rfl, .closeParen []⟩
  | comma => exact ⟨.comma, rfl, .comma []⟩
  | literal => simp at hk
  | value => simp at hk
  | field => simp at hk
  | _ => exact standsAlone_of_word rfl (by decide) (by decide) (wordKind_of_keyword (by decide))

/-- An identifier is read as a field. -/
theorem lexeme_of_isIdentifier {name : String} (h : IsIdentifier name) :
    w.Lexeme .field name.toList [] := by
  have hstart := h.startsName
  have hchars := h.isWordChar
  have hkind : w.wordKind name.toList = .field := by
    rw [wordKind, String.ofList_toList, h.ofKeyword?_eq, h.guid_eq, hstart]
    rfl
  cases hname : name.toList with
  | nil =>
      rw [hname] at hstart
      contradiction
  | cons c cs =>
      rw [hname] at hstart hchars hkind
      rw [← hkind]
      refine lexeme_word w ?_ hchars
      rintro rfl
      exact absurd (show (Text.isAlphabetic '\'' || '\'' == '_') = true from hstart) (by decide)

/-- A field with a plain name is read as a field. -/
theorem standsAlone_mention (h : IsIdentifier f.name) : w.StandsAlone f.mention :=
  ⟨_, rfl, lexeme_of_isIdentifier h⟩

/-- A field is found under its name. -/
theorem names_mention (hf : f ∈ w.fields) : w.Names f.mention f :=
  ⟨rfl, find?_eq_some_iff.2 ⟨hf, rfl⟩⟩

/-- Where all names are identifiers, none is a text that starts with a digit. -/
theorem contains_eq_false_of_isDigit (hw : ∀ f ∈ w.fields, IsIdentifier f.name)
    (hword : word.toList.head?.any Char.isDigit = true) : w.contains word = false := by
  rw [contains_eq_false_iff]
  intro f hf hkey
  have hlower : Text.lowerAfter [] f.name.toList = Text.lowerAfter [] word.toList := by
    rw [← Text.toList_lower, ← Text.toList_lower, ← hkey]
    rfl
  have hname := head?_isDigit_of_startsName (hw f hf).startsName
  rw [← Text.isCaseless_isDigit.head?_any_lowerAfter [], hlower,
    Text.isCaseless_isDigit.head?_any_lowerAfter, hword] at hname
  contradiction

/-- Where all names are identifiers, a word that starts with a digit is a value. -/
theorem wordKind_of_isDigit (hw : ∀ f ∈ w.fields, IsIdentifier f.name)
    (hword : word.toList.head?.any Char.isDigit = true) (hkeyword : Kind.ofKeyword? word = none)
    (hstart : startsName word.toList = false) : w.wordKind word.toList = .value := by
  rw [wordKind, String.ofList_toList, hkeyword, contains_eq_false_of_isDigit hw hword, hstart]
  dsimp only
  split <;> rfl

/-- The constants of the types are read as such. -/
theorem standsAlone_sample (hw : ∀ f ∈ w.fields, IsIdentifier f.name) (type : FieldType) :
    w.StandsAlone type.sample := by
  cases type with
  | string => exact ⟨.literal, rfl, .literal .nil (by simp)⟩
  | bool => exact standsAlone_of_word rfl (by decide) (by decide) (wordKind_of_keyword (by decide))
  | _ =>
      refine standsAlone_of_word rfl (by decide) (by decide) ?_
      exact wordKind_of_isDigit hw (by decide) (by decide) (by decide)

end Whitelist

end FilterQuery
