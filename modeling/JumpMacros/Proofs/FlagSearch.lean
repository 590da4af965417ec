import JumpMacros.Proofs.FlagNames

/-!
# The search for a flag

A flag is searched by trying its base, then the base with the numbers from 1 on, until a name turns
up that is not taken. `Search` is this loop, which has no bound of its own, and `FirstFree` says
what it is to find.

**Theorem (`flags_first_free`).** The search for a flag ends, whatever names are taken, and
`allocate` gives what it finds: the base if that is free, or else the base with the least number
that is. Flags allocated one after the other are all different, and none of them was taken before.

That some number is free is counted (`exists_candidate_not_mem`). Flags with different bases cannot
meet either, although one base may be another one with a number (labels `x` and `x_1`): what was
allocated is taken from then on, and a search never ends at a name that is taken.
-/

namespace JumpMacros

/-! ## The loop -/

/-- `Search taken base candidate n flag`: the loop that tries `candidate`, and then the base with
the numbers from `n` on, comes to an end and finds `flag`. -/
inductive Search (taken : List String) (base : String) : String → Nat → String → Prop
  | found {candidate : String} {n : Nat} (h : candidate ∉ taken) :
      Search taken base candidate n candidate
  | next {candidate flag : String} {n : Nat} (h : candidate ∈ taken)
      (rest : Search taken base (base ++ "_" ++ toString n) (n + 1) flag) :
      Search taken base candidate n flag

/-- A name is the first that is free for a base: the base itself, or the base with the least number
from 1 on. -/
inductive FirstFree (taken : List String) (base : String) : String → Prop
  | base (h : base ∉ taken) : FirstFree taken base base
  | numbered {n : Nat} (h : base ∈ taken) (hn : 1 ≤ n) (hfree : base ++ "_" ++ toString n ∉ taken)
      (hleast : ∀ m, 1 ≤ m → m < n → base ++ "_" ++ toString m ∈ taken) :
      FirstFree taken base (base ++ "_" ++ toString n)

section

variable {taken : List String} {base : String}

/-- The loop can end in one way only. -/
theorem Search.unique {candidate flag flag' : String} {n : Nat}
    (h : Search taken base candidate n flag) (h' : Search taken base candidate n flag') :
    flag = flag' := by
  induction h with
  | found hfree =>
    cases h' with
    | found => rfl
    | next htaken => exact absurd htaken hfree
  | next htaken _ ih =>
    cases h' with
    | found hfree => exact absurd htaken hfree
    | next _ rest => exact ih rest

/-- From any candidate the loop goes on to the first later one that is not taken. -/
theorem search_flagCandidate {k d : Nat} (hfree : flagCandidate base (k + d) ∉ taken)
    (htaken : ∀ j < k + d, flagCandidate base j ∈ taken) :
    Search taken base (flagCandidate base k) (k + 1) (flagCandidate base (k + d)) := by
  induction d generalizing k with
  | zero => exact .found hfree
  | succ d ih =>
    have hshift : k + (d + 1) = k + 1 + d := by omega
    rw [hshift] at hfree htaken ⊢
    exact .next (htaken k (by omega)) (ih hfree htaken)

theorem search_freshFlag (taken : List String) (base : String) :
    Search taken base base 1 (freshFlag taken base) := by
  obtain ⟨i, hi, hfree, htaken⟩ := exists_firstCandidate taken base
  rw [← Nat.zero_add i] at hi hfree htaken
  rw [hi]
  exact search_flagCandidate hfree htaken

/-- **The loop ends, and what it finds is the fresh flag.** -/
theorem search_iff {flag : String} :
    Search taken base base 1 flag ↔ flag = freshFlag taken base :=
  ⟨fun h => h.unique (search_freshFlag taken base), fun h => h ▸ search_freshFlag taken base⟩

theorem firstFree_freshFlag (taken : List String) (base : String) :
    FirstFree taken base (freshFlag taken base) := by
  obtain ⟨i, hi, hfree, htaken⟩ := exists_firstCandidate taken base
  rw [hi]
  cases i with
  | zero => exact .base hfree
  | succ n =>
    refine .numbered (htaken 0 n.succ_pos) (Nat.le_add_left 1 n) hfree fun m hm hlt => ?_
    obtain ⟨m, rfl⟩ := Nat.exists_eq_add_of_le' hm
    exact htaken (m + 1) hlt

end

/-! ## Flags one after the other -/

section

variable (flagPrefix : String)

theorem allocateAll_cons (taken : List String) (kind label : String)
    (requests : List (String × String)) :
    allocateAll flagPrefix taken ((kind, label) :: requests) =
      freshFlag taken (flagBase flagPrefix kind label) ::
        allocateAll flagPrefix (freshFlag taken (flagBase flagPrefix kind label) :: taken)
          requests := rfl

theorem length_allocateAll (taken : List String) (requests : List (String × String)) :
    (allocateAll flagPrefix taken requests).length = requests.length := by
  induction requests generalizing taken with
  | nil => rfl
  | cons r requests ih => rw [allocateAll_cons, List.length_cons, List.length_cons, ih]

/-- What is taken stays taken, so no later flag is one of the names taken at the start. -/
theorem disjoint_allocateAll (taken : List String) (requests : List (String × String)) :
    (allocateAll flagPrefix taken requests).Disjoint taken := by
  induction requests generalizing taken with
  | nil => exact List.disjoint_nil_left taken
  | cons r requests ih =>
    rw [allocateAll_cons, List.disjoint_cons_left]
    exact ⟨freshFlag_not_mem taken _, (List.disjoint_cons_right.1 (ih _)).2⟩

theorem nodup_allocateAll (taken : List String) (requests : List (String × String)) :
    (allocateAll flagPrefix taken requests).Nodup := by
  induction requests generalizing taken with
  | nil => exact List.nodup_nil
  | cons r requests ih =>
    rw [allocateAll_cons, List.nodup_cons]
    exact ⟨(List.disjoint_cons_right.1 (disjoint_allocateAll flagPrefix _ requests)).1, ih _⟩

/-- **Flags are the first free names of their bases, and all different.** -/
theorem flags_first_free (taken : List String) :
    (∀ kind label : String,
      (∀ flag, Search taken (flagPrefix ++ kind ++ "_" ++ label)
          (flagPrefix ++ kind ++ "_" ++ label) 1 flag ↔
        flag = (allocate flagPrefix taken kind label).1) ∧
      FirstFree taken (flagPrefix ++ kind ++ "_" ++ label)
        (allocate flagPrefix taken kind label).1) ∧
    ∀ requests : List (String × String),
      (allocateAll flagPrefix taken requests).length = requests.length ∧
      (allocateAll flagPrefix taken requests).Nodup ∧
      (allocateAll flagPrefix taken requests).Disjoint taken :=
  ⟨fun _ _ => ⟨fun _ => search_iff, firstFree_freshFlag taken _⟩, fun requests =>
    ⟨length_allocateAll flagPrefix taken requests, nodup_allocateAll flagPrefix taken requests,
      disjoint_allocateAll flagPrefix taken requests⟩⟩

/-- The base of one label can be a flag of another. -/
example : allocateAll "_flow_" ["_flow_break_x"]
    [("break", "x"), ("break", "x_1"), ("break", "x"), ("break", "x_1_1")] =
      ["_flow_break_x_1", "_flow_break_x_1_1", "_flow_break_x_2", "_flow_break_x_1_1_1"] := by
  decide

end

end JumpMacros
