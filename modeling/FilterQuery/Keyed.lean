/-
**Lists whose members have distinct keys.**

The registered fields of a filter and those of an ordering are kept in lists, and they are found by
a key that no two of them share.  So at most one member is found, and a member with a new key can
be put behind the others.

Main results:

* `List.find?_key_eq_some_iff` — a key finds the one member that has it;
* `List.nodup_map_append_of_forall_ne` — the keys stay distinct when a member with a new one comes
  last.
-/

set_option relaxedAutoImplicit false
set_option autoImplicit false

namespace FilterQuery

variable {α : Type} {key : α → String} {l : List α} {a : α}

/-- A key finds the one member that has it. -/
theorem List.find?_key_eq_some_iff {k : String} (h : (l.map key).Nodup) :
    (l.find? fun b => key b == k) = some a ↔ a ∈ l ∧ key a = k := by
  induction l with
  | nil => simp
  | cons b l ih =>
      rw [List.map_cons, List.nodup_cons] at h
      by_cases hb : key b = k
      -- The first member has the key, so no later one does.
      · simp only [List.find?_cons, hb, beq_self_eq_true, Option.some.injEq, List.mem_cons]
        constructor
        · rintro rfl
          exact ⟨.inl rfl, hb⟩
        · rintro ⟨rfl | ha, hk⟩
          · rfl
          · exact absurd (List.mem_map.2 ⟨a, ha, hk.trans hb.symm⟩) h.1
      -- The first member has another key, and the search goes on.
      · have hb' : (key b == k) = false := by simpa using hb
        simp only [List.find?_cons, hb', ih h.2, List.mem_cons]
        constructor
        · rintro ⟨ha, hk⟩
          exact ⟨.inr ha, hk⟩
        · rintro ⟨rfl | ha, hk⟩
          · exact absurd hk hb
          · exact ⟨ha, hk⟩

/-- The keys stay distinct when a member with a new one comes last. -/
theorem List.nodup_map_append_of_forall_ne (h : (l.map key).Nodup)
    (ha : ∀ b ∈ l, key b ≠ key a) : ((l ++ [a]).map key).Nodup := by
  rw [List.map_append, List.nodup_append]
  refine ⟨h, by simp, ?_⟩
  intro x hx y hy
  obtain ⟨b, hb, rfl⟩ := List.mem_map.1 hx
  obtain ⟨c, hc, rfl⟩ := List.mem_map.1 hy
  obtain rfl := List.mem_singleton.1 hc
  exact ha b hb

end FilterQuery
