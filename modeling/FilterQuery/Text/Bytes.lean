/-
**Byte positions in a text.**

Positions are counted in bytes of the UTF-8 form, while texts are handled as characters.  This
module measures characters in bytes and cuts a text at two byte positions.

Main definitions:

* `Text.byteLength` — the length of characters in bytes;
* `Text.dropBytes`, `Text.takeBytes` — the characters that start at or after, and before, a byte
  position;
* `Text.cut` — the part of a text between two byte positions.

Main results:

* `Text.byteLength_append` — lengths add up;
* `Text.utf8ByteSize_ofList` — the measure agrees with the stored size of a text;
* `Text.cut_append` — characters are cut out of a text at their byte positions.
-/

set_option relaxedAutoImplicit false
set_option autoImplicit false

namespace FilterQuery

namespace Text

/-- The number of bytes that the characters take in UTF-8. -/
def byteLength : List Char → Nat
  | [] => 0
  | c :: rest => c.utf8Size + byteLength rest

@[simp] theorem byteLength_nil : byteLength [] = 0 := rfl

@[simp] theorem byteLength_cons (c : Char) (rest : List Char) :
    byteLength (c :: rest) = c.utf8Size + byteLength rest := rfl

@[simp] theorem byteLength_append (a b : List Char) :
    byteLength (a ++ b) = byteLength a + byteLength b := by
  induction a with
  | nil => simp
  | cons c rest ih => simp [ih, Nat.add_assoc]

/-- The measure agrees with the stored size of a text. -/
theorem utf8ByteSize_ofList (cs : List Char) :
    (String.ofList cs).utf8ByteSize = byteLength cs := by
  induction cs with
  | nil => rfl
  | cons c rest ih =>
      have h : String.ofList (c :: rest) = String.ofList [c] ++ String.ofList rest := by
        rw [← String.ofList_append]; rfl
      have hc : (String.ofList [c]).utf8ByteSize = c.utf8Size := by
        rw [← String.singleton_eq_ofList]
        simp
      rw [h, String.utf8ByteSize_append, ih, hc, byteLength_cons]

theorem byteLength_toList (s : String) : byteLength s.toList = s.utf8ByteSize := by
  rw [← utf8ByteSize_ofList, String.ofList_toList]

/-- The characters that start at or after a byte position. -/
def dropBytes : Nat → List Char → List Char
  | 0, cs => cs
  | _, [] => []
  | n, c :: rest => dropBytes (n - c.utf8Size) rest

/-- The characters that start before a byte position. -/
def takeBytes : Nat → List Char → List Char
  | 0, _ => []
  | _, [] => []
  | n, c :: rest => c :: takeBytes (n - c.utf8Size) rest

/-- The part of a text between two byte positions. -/
def cut (s : String) (start stop : Nat) : String :=
  String.ofList (takeBytes (stop - start) (dropBytes start s.toList))

theorem dropBytes_byteLength (as bs : List Char) : dropBytes (byteLength as) (as ++ bs) = bs := by
  induction as with
  | nil => rw [byteLength_nil, dropBytes, List.nil_append]
  | cons a as ih =>
      have hpos := a.utf8Size_pos
      rw [byteLength_cons, List.cons_append, dropBytes.eq_3 _ _ _ (by omega),
        Nat.add_sub_cancel_left, ih]

theorem takeBytes_byteLength (as bs : List Char) : takeBytes (byteLength as) (as ++ bs) = as := by
  induction as with
  | nil => rw [byteLength_nil, takeBytes]
  | cons a as ih =>
      have hpos := a.utf8Size_pos
      rw [byteLength_cons, List.cons_append, takeBytes.eq_3 _ _ _ (by omega),
        Nat.add_sub_cancel_left, ih]

/-- The characters between two others are cut out at their byte positions. -/
theorem cut_append (as bs cs : List Char) :
    cut (String.ofList (as ++ (bs ++ cs))) (byteLength as) (byteLength as + byteLength bs) =
      String.ofList bs := by
  rw [cut, String.toList_ofList, dropBytes_byteLength, Nat.add_sub_cancel_left,
    takeBytes_byteLength]

end Text

end FilterQuery
