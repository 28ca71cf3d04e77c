/-
**Reading JSON documents.**

The grammar is the strict one of RFC 8259: four kinds of blanks, no trailing commas, no leading
zeros, no control characters inside texts, and nothing after the document.  Arrays and objects may
nest to any depth.

Main definitions:

* `Json.CodeUnit`, `Json.decodeUnits` — the units of a text, and the text they make up;
* `Json.readText?`, `Json.readNumber?` — a text after its opening quote, and a numeral;
* `Json.readValue?` — a value and what follows it;
* `Json.parse?` — a whole document.
-/

import FilterQuery.Json

set_option relaxedAutoImplicit false
set_option autoImplicit false

namespace FilterQuery

namespace Json

/-! ### Texts -/

/-- A unit of a text: a character as it is, or an escaped 16-bit unit. -/
inductive CodeUnit where
  | plain (c : Char)
  | escaped (unit : Nat)

/-- Whether a 16-bit unit is the first half of a pair. -/
def isHighHalf (n : Nat) : Bool := 0xd800 ≤ n && n ≤ 0xdbff

/-- Whether a 16-bit unit is the second half of a pair. -/
def isLowHalf (n : Nat) : Bool := 0xdc00 ≤ n && n ≤ 0xdfff

/-- The code point of a pair of halves. -/
def joinHalves (high low : Nat) : Nat :=
  0x10000 + (high - 0xd800) * 0x400 + (low - 0xdc00)

/-- The characters that units make up.  There are none if a half has no partner. -/
def decodeUnits : List CodeUnit → Option (List Char)
  | [] => some []
  | .plain c :: units => (decodeUnits units).map (c :: ·)
  | .escaped n :: units =>
      if isHighHalf n then
        match units with
        | .escaped m :: units =>
            if isLowHalf m then (decodeUnits units).map (Char.ofNat (joinHalves n m) :: ·)
            else none
        | _ => none
      else if isLowHalf n then none
      else (decodeUnits units).map (Char.ofNat n :: ·)

/-- The value of four hexadecimal digits, and the rest. -/
def takeUnit? : List Char → Option (Nat × List Char)
  | a :: b :: c :: d :: rest =>
      ([a, b, c, d].mapM FilterQuery.Text.hexValue?).map fun ds =>
        (ds.foldl (fun n d => n * 16 + d.val) 0, rest)
  | _ => none

/-- The unit that a backslash and what follows it stand for, and the rest. -/
def takeEscape? : List Char → Option (CodeUnit × List Char)
  | '"' :: rest => some (.plain '"', rest)
  | '\\' :: rest => some (.plain '\\', rest)
  | '/' :: rest => some (.plain '/', rest)
  | 'b' :: rest => some (.plain '\x08', rest)
  | 'f' :: rest => some (.plain '\x0c', rest)
  | 'n' :: rest => some (.plain '\n', rest)
  | 'r' :: rest => some (.plain '\r', rest)
  | 't' :: rest => some (.plain '\t', rest)
  | 'u' :: rest => (takeUnit? rest).map fun r => (.escaped r.1, r.2)
  | _ => none

/-- The units of a text after its opening quote, and what follows the closing quote.  The number
bounds the units. -/
def takeUnits? : Nat → List Char → Option (List CodeUnit × List Char)
  | 0, _ => none
  | _, [] => none
  | _, '"' :: rest => some ([], rest)
  | n + 1, '\\' :: rest =>
      (takeEscape? rest).bind fun e =>
        (takeUnits? n e.2).map fun r => (e.1 :: r.1, r.2)
  | n + 1, c :: rest =>
      if c.toNat < 32 then none
      else (takeUnits? n rest).map fun r => (.plain c :: r.1, r.2)

/-- A text after its opening quote, and what follows the closing quote. -/
def readText? (cs : List Char) : Option (Json.Text × List Char) :=
  (takeUnits? (cs.length + 1) cs).map fun r => ((decodeUnits r.1).map String.ofList, r.2)

/-! ### Numbers -/

/-- The digits at the front, of which there must be one, and the rest. -/
def takeDigits? (cs : List Char) : Option (List Char × List Char) :=
  let ds := cs.takeWhile Char.isDigit
  if ds.isEmpty then none else some (ds, cs.dropWhile Char.isDigit)

/-- The digits before the point: zero alone, or digits of which the first is not zero. -/
def takeWhole? : List Char → Option (List Char × List Char)
  | '0' :: rest => if rest.head?.any Char.isDigit then none else some (['0'], rest)
  | cs => takeDigits? cs

/-- An optional point with its digits. -/
def takeFraction? : List Char → Option (List Char × List Char)
  | '.' :: rest => (takeDigits? rest).map fun r => ('.' :: r.1, r.2)
  | cs => some ([], cs)

/-- An optional sign. -/
def takeSign : List Char → List Char × List Char
  | '+' :: rest => (['+'], rest)
  | '-' :: rest => (['-'], rest)
  | cs => ([], cs)

/-- An optional power of ten. -/
def takePower? : List Char → Option (List Char × List Char)
  | c :: rest =>
      if c = 'e' ∨ c = 'E' then
        let sign := takeSign rest
        (takeDigits? sign.2).map fun r => (c :: sign.1 ++ r.1, r.2)
      else some ([], c :: rest)
  | [] => some ([], [])

/-- An optional minus sign. -/
def takeMinus : List Char → List Char × List Char
  | '-' :: rest => (['-'], rest)
  | cs => ([], cs)

/-- A numeral at the front, and the rest. -/
def readNumber? (cs : List Char) : Option (List Char × List Char) := do
  let (minus, cs) := takeMinus cs
  let (whole, cs) ← takeWhole? cs
  let (fraction, cs) ← takeFraction? cs
  let (power, cs) ← takePower? cs
  return (minus ++ whole ++ fraction ++ power, cs)

/-! ### Values -/

/-- Whether a character is a blank between the parts of a document. -/
def isSpace (c : Char) : Bool :=
  c == ' ' || c == '\t' || c == '\n' || c == '\r'

/-- The text without leading blanks. -/
def skipSpaces (cs : List Char) : List Char :=
  cs.dropWhile isSpace

/-- The rest after the given word. -/
def dropWord? (word : String) (cs : List Char) : Option (List Char) :=
  if word.toList.isPrefixOf cs then some (cs.drop word.length) else none

/-- A word or a number at the front, and the rest. -/
def readScalar? (cs : List Char) : Option (Json × List Char) :=
  match cs with
  | 'n' :: _ => (dropWord? "null" cs).map (.null, ·)
  | 't' :: _ => (dropWord? "true" cs).map (.bool true, ·)
  | 'f' :: _ => (dropWord? "false" cs).map (.bool false, ·)
  | _ => (readNumber? cs).map fun r => (.number r.1, r.2)

mutual

/-- A value behind blanks, and what follows it.  The number bounds the steps. -/
def readValue? : Nat → List Char → Option (Json × List Char)
  | 0, _ => none
  | n + 1, cs =>
      match skipSpaces cs with
      | '"' :: rest => (readText? rest).map fun r => (.text r.1, r.2)
      | '[' :: rest =>
          match skipSpaces rest with
          | ']' :: rest => some (.array [], rest)
          | rest => (readItems? n rest).map fun r => (.array r.1, r.2)
      | '\x7b' :: rest =>
          match skipSpaces rest with
          | '\x7d' :: rest => some (.object [], rest)
          | rest => (readMembers? n rest).map fun r => (.object r.1, r.2)
      | rest => readScalar? rest

/-- The items of an array, at least one, and what follows the closing bracket. -/
def readItems? : Nat → List Char → Option (List Json × List Char)
  | 0, _ => none
  | n + 1, cs =>
      (readValue? n cs).bind fun v =>
        match skipSpaces v.2 with
        | ',' :: rest => (readItems? n rest).map fun r => (v.1 :: r.1, r.2)
        | ']' :: rest => some ([v.1], rest)
        | _ => none

/-- The members of an object, at least one, and what follows the closing brace. -/
def readMembers? : Nat → List Char → Option (List (Json.Text × Json) × List Char)
  | 0, _ => none
  | n + 1, cs =>
      (readMember? n cs).bind fun m =>
        match skipSpaces m.2 with
        | ',' :: rest => (readMembers? n rest).map fun r => (m.1 :: r.1, r.2)
        | '\x7d' :: rest => some ([m.1], rest)
        | _ => none

/-- A name, a colon and a value, and what follows them. -/
def readMember? : Nat → List Char → Option ((Json.Text × Json) × List Char)
  | 0, _ => none
  | n + 1, cs =>
      match skipSpaces cs with
      | '"' :: rest =>
          (readText? rest).bind fun name =>
            match skipSpaces name.2 with
            | ':' :: rest => (readValue? n rest).map fun v => ((name.1, v.1), v.2)
            | _ => none
      | _ => none

end

/-- A whole document.  Every character allows three steps, which no document exceeds. -/
def parse? (text : String) : Option Json :=
  let cs := text.toList
  (readValue? (3 * cs.length + 3) cs).bind fun r =>
    if (skipSpaces r.2).isEmpty then some r.1 else none

end Json

end FilterQuery
