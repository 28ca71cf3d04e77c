/-
**Typed lines: a backspace takes back what was typed before it.**

A backspace takes back a whole cluster, so that a letter goes with its marks, and not a single
character.  At the start of a line it does nothing.

Main definitions:

* `Text.clusterSize` — the number of bytes that a backspace takes back for a cluster;
* `Text.typed` — the line that remains of what was typed.

Main results:

* `Text.typed_eq_self` — without a backspace a line remains as it was typed.
-/

import FilterQuery.Text.Bytes
import FilterQuery.Text.Cluster

set_option relaxedAutoImplicit false
set_option autoImplicit false

namespace FilterQuery

namespace Text

/-- The number of bytes that a backspace takes back for a cluster.  It is kept in one byte, so only
the remainder counts for a cluster of 256 bytes or more. -/
def clusterSize (cluster : List Char) : Nat :=
  byteLength cluster % 256

/-- The line that remains of the given clusters behind a line that is written already.  The written
line is given back to front, as are the sizes of its clusters. -/
def typedFrom (written : List Char) (sizes : List Nat) : List (List Char) → List Char
  | [] => written.reverse
  | cluster :: rest =>
      if cluster = ['\x08'] then
        match sizes with
        | [] => typedFrom written [] rest
        | size :: sizes => typedFrom (dropBytes size written) sizes rest
      else typedFrom (cluster.reverse ++ written) (clusterSize cluster :: sizes) rest

/-- The line that remains of what was typed. -/
def typed (cs : List Char) : List Char :=
  typedFrom [] [] (clusters cs)

theorem typedFrom_of_ne (written : List Char) (sizes : List Nat) {gs : List (List Char)}
    (h : ∀ g ∈ gs, g ≠ ['\x08']) : typedFrom written sizes gs = written.reverse ++ gs.flatten := by
  induction gs generalizing written sizes with
  | nil => simp [typedFrom]
  | cons g gs ih =>
      have hg : g ≠ ['\x08'] := h g (by simp)
      simp [typedFrom, hg, ih _ _ fun x hx => h x (by simp [hx])]

/-- Without a backspace a line remains as it was typed. -/
theorem typed_eq_self {cs : List Char} (h : '\x08' ∉ cs) : typed cs = cs := by
  rw [typed, typedFrom_of_ne]
  · simp
  · rintro g hg rfl
    have hm : '\x08' ∈ (clusters cs).flatten := List.mem_flatten.2 ⟨_, hg, by simp⟩
    exact h (by simpa using hm)

end Text

end FilterQuery
