import JumpMacros.Flag
import Mathlib.Data.List.Nodup
import Mathlib.Data.List.Perm.Subperm

/-!
# Flags are new names

**Theorem (`freshFlag_not_mem`).** A fresh flag is none of the names taken.

The candidates for a flag are pairwise distinct, since the number at the end of a name can be read
back. There is one candidate more than there are names taken, so they cannot all be taken.
-/

namespace JumpMacros

/-- The decimal form of a number determines it. -/
theorem toString_nat_injective {m n : Nat} (h : toString m = toString n) : m = n := by
  have hd : Nat.toDigits 10 m = Nat.toDigits 10 n := by
    rw [← Nat.toList_repr, ← Nat.toList_repr]
    exact congrArg String.toList h
  rw [← Nat.ofDigitChars_ten_toDigits (n := m), hd, Nat.ofDigitChars_ten_toDigits]

theorem flagCandidate_injective (base : String) : Function.Injective (flagCandidate base) := by
  -- A number after the base makes the name longer than the base.
  have longer (k : Nat) : flagCandidate base (k + 1) ≠ base := by
    intro h
    have := congrArg String.length h
    have hlen : "_".length = 1 := rfl
    simp only [flagCandidate, String.length_append, hlen] at this
    omega
  intro m n h
  cases m with
  | zero =>
    cases n with
    | zero => rfl
    | succ n => exact absurd h.symm (longer n)
  | succ m =>
    cases n with
    | zero => exact absurd h (longer m)
    | succ n => exact toString_nat_injective (String.append_right_inj _ |>.1 h)

/-- Among one more candidates than names taken there is one that is not taken. -/
theorem exists_candidate_not_mem (taken : List String) (base : String) :
    ∃ c ∈ (List.range (taken.length + 1)).map (flagCandidate base), c ∉ taken := by
  by_contra hall
  have hsub : (List.range (taken.length + 1)).map (flagCandidate base) ⊆ taken := by
    intro c hc
    by_contra hn
    exact hall ⟨c, hc, hn⟩
  have hnodup := (List.nodup_range (n := taken.length + 1)).map (flagCandidate_injective base)
  have hle := (List.subperm_of_subset hnodup hsub).length_le
  rw [List.length_map, List.length_range] at hle
  omega

/-- `x` is a name for the flag of jumps of a kind to a loop with a name. -/
def IsFlagName (flagPrefix : String) (k : JumpKind) (name x : String) : Prop :=
  ∃ i, x = flagCandidate (flagBase flagPrefix k.name name) i

/-- Flags are names of their own: `x` is none of the names `users` of a tree, and is made from the
kind and the label. -/
def IsFlagFor (users : List String) (flagPrefix : String) (k : JumpKind) (name x : String) :
    Prop :=
  x ∉ users ∧ IsFlagName flagPrefix k name x

/-- A fresh flag is the first of its candidates that is not taken. -/
theorem exists_firstCandidate (taken : List String) (base : String) :
    ∃ i, freshFlag taken base = flagCandidate base i ∧ flagCandidate base i ∉ taken ∧
      ∀ j < i, flagCandidate base j ∈ taken := by
  obtain ⟨c, hc, hn⟩ := exists_candidate_not_mem taken base
  unfold freshFlag
  cases h : ((List.range (taken.length + 1)).map (flagCandidate base)).find?
      fun c => !taken.contains c with
  | none =>
    have := List.find?_eq_none.1 h c hc
    simp [hn] at this
  | some x =>
    rw [List.find?_map] at h
    obtain ⟨i, hi, rfl⟩ := Option.map_eq_some_iff.1 h
    obtain ⟨hfree, -, hleast⟩ := List.find?_range_eq_some.1 hi
    exact ⟨i, rfl, by simpa using hfree, fun j hj => by simpa using hleast j hj⟩

theorem freshFlag_spec (taken : List String) (base : String) :
    freshFlag taken base ∉ taken ∧ ∃ i, freshFlag taken base = flagCandidate base i := by
  obtain ⟨i, hi, hfree, -⟩ := exists_firstCandidate taken base
  exact ⟨hi ▸ hfree, i, hi⟩

/-- **A fresh flag is not among the names taken.** -/
theorem freshFlag_not_mem (taken : List String) (base : String) :
    freshFlag taken base ∉ taken :=
  (freshFlag_spec taken base).1

theorem isFlagName_freshFlag (flagPrefix : String) (taken : List String) (k : JumpKind)
    (name : String) :
    IsFlagName flagPrefix k name (freshFlag taken (flagBase flagPrefix k.name name)) :=
  (freshFlag_spec taken _).2

end JumpMacros
