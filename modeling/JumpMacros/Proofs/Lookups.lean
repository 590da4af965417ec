import Mathlib.Data.List.Basic

/-!
# Lookups in lists of entries

A list of entries is looked up from its front: the first entry of a key counts. Which one that is
does not matter if the keys are all different (`lookup_eq_some_of_nodup`), and it is the greatest
one if the entries are sorted downwards by their values (`lookup_eq_some_of_sorted`).
-/

namespace JumpMacros

variable {α β : Type} [BEq α] [LawfulBEq α]

/-- Entries of other keys can be taken out. -/
theorem lookup_filter_key {es : List (α × β)} {k : α} {p : α → Bool} (hp : p k = true) :
    (es.filter fun e => p e.1).lookup k = es.lookup k := by
  induction es with
  | nil => rfl
  | cons e es ih =>
    obtain ⟨k', v⟩ := e
    by_cases hk : k = k'
    · subst hk
      rw [List.filter_cons, if_pos hp, List.lookup_cons_self, List.lookup_cons_self]
    · have hne : (k == k') = false := by simpa using hk
      rw [List.lookup_cons, hne, ← ih, List.filter_cons]
      cases p k' with
      | true => rw [if_pos rfl, List.lookup_cons, hne]
      | false => rfl

/-- In entries for different keys, a lookup finds what is there. -/
theorem lookup_eq_some_of_nodup {es : List (α × β)} (h : (es.map Prod.fst).Nodup)
    {k : α} {v : β} : es.lookup k = some v ↔ (k, v) ∈ es := by
  induction es with
  | nil => simp
  | cons e es ih =>
    obtain ⟨k', w⟩ := e
    obtain ⟨hk', hes⟩ := List.nodup_cons.1 h
    by_cases hk : k = k'
    · subst hk
      have hno : (k, v) ∉ es := fun hmem => hk' (List.mem_map.2 ⟨_, hmem, rfl⟩)
      simp [hno, eq_comm]
    · have hne : (k == k') = false := by simpa using hk
      rw [List.lookup_cons, hne, List.mem_cons, Prod.mk.injEq]
      simp [hk, ih hes]

/-- In a list that is sorted downwards by its values, a lookup finds the greatest value of a key. -/
theorem lookup_eq_some_of_sorted {es : List (String × String)}
    (hs : es.Pairwise fun a b => b.2 ≤ a.2) {k v : String} :
    es.lookup k = some v ↔ (k, v) ∈ es ∧ ∀ v', (k, v') ∈ es → v' ≤ v := by
  induction es with
  | nil => simp
  | cons e es ih =>
    obtain ⟨k', w⟩ := e
    obtain ⟨hle, hrest⟩ := List.pairwise_cons.1 hs
    by_cases hk : k = k'
    · subst hk
      rw [List.lookup_cons_self]
      constructor
      · rintro ⟨⟩
        refine ⟨List.mem_cons_self, fun v' hv' => ?_⟩
        rcases List.mem_cons.1 hv' with heq | hv'
        · exact (Prod.mk.inj heq).2 ▸ String.le_refl _
        · exact hle _ hv'
      · rintro ⟨hmem, hmax⟩
        have hvw : v ≤ w := by
          rcases List.mem_cons.1 hmem with heq | hmem
          · exact (Prod.mk.inj heq).2 ▸ String.le_refl _
          · exact hle _ hmem
        rw [String.le_antisymm hvw (hmax w List.mem_cons_self)]
    · have hne : (k == k') = false := by simpa using hk
      have hmem (v' : String) : (k, v') ∈ (k', w) :: es ↔ (k, v') ∈ es := by simp [hk]
      rw [List.lookup_cons, hne]
      simp only [ih hrest, hmem]

end JumpMacros
