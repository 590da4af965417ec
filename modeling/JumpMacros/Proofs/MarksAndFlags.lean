import JumpMacros.Proofs.Coupling
import JumpMacros.Proofs.Dialects

/-!
# Flags hold the marks

`Matches` is the invariant that ties the flags of a lowered tree to the marks of the tree before:
inside of the loops `fs`, the flag of each loop for each kind of jump has the value of the loop's
mark, and a loop without a flag has no mark. Writing one flag sets one mark, since no two flags
are the same.

The end of this file compares what is found after a loop: the first check whose flag is true
belongs to the first jump whose mark is there.
-/

namespace JumpMacros

/-! ## The invariant -/

/-- The flags of a loop hold its marks. -/
structure MatchesOne (f : Frame) (m : Mark) (φ : Flags) : Prop where
  label_eq : m.label = f.label
  flag : ∀ k x, f.flag k = some x → φ x = some (m.raised k)
  unmarked : ∀ k, f.flag k = none → m.raised k = false

/-- The flags of all loops around hold their marks. -/
def Matches (fs : List Frame) (ms : List Mark) (φ : Flags) : Prop :=
  List.Forall₂ (fun f m => MatchesOne f m φ) fs ms

/-- Marks are set, and not cleared, while what is inside of the loops runs. -/
def Mark.Grows (m m' : Mark) : Prop :=
  m'.label = m.label ∧ ∀ k, m.raised k = true → m'.raised k = true

abbrev Marks.Grow : List Mark → List Mark → Prop := List.Forall₂ Mark.Grows

theorem Mark.Grows.refl (m : Mark) : m.Grows m := ⟨rfl, fun _ h => h⟩

theorem Marks.Grow.refl (ms : List Mark) : Marks.Grow ms ms := by
  induction ms with
  | nil => exact .nil
  | cons m ms ih => exact .cons (.refl m) ih

theorem Marks.Grow.trans {ms ms' ms'' : List Mark} (h : Marks.Grow ms ms')
    (h' : Marks.Grow ms' ms'') : Marks.Grow ms ms'' := by
  induction h generalizing ms'' with
  | nil => exact h'
  | cons hm _ ih =>
    cases h' with
    | cons hm' hms' =>
      exact .cons ⟨hm'.1.trans hm.1, fun k hk => hm'.2 k (hm.2 k hk)⟩ (ih hms')

theorem Marks.Grow.isRaised {ms ms' : List Mark} (h : Marks.Grow ms ms') {j : NamedJump}
    (hj : Mark.isRaised ms j = true) : Mark.isRaised ms' j = true := by
  induction h with
  | nil => exact hj
  | cons hm _ ih =>
    simp only [Mark.isRaised, hm.1] at hj ⊢
    split at hj
    · exact (if_pos ‹_›).trans (hm.2 _ hj)
    · exact (if_neg ‹_›).trans (ih hj)

theorem Mark.label_raise (m : Mark) (k : JumpKind) : (m.raise k).label = m.label := by
  cases k <;> rfl

theorem Mark.raised_raise_self (m : Mark) (k : JumpKind) : (m.raise k).raised k = true := by
  cases k <;> rfl

theorem Mark.raised_raise_of_ne (m : Mark) {k k' : JumpKind} (h : k' ≠ k) :
    (m.raise k).raised k' = m.raised k' := by
  cases k <;> cases k' <;> first | rfl | exact absurd rfl h

theorem Mark.grow_raiseIn (j : NamedJump) (ms : List Mark) : Marks.Grow ms (raiseIn j ms) := by
  induction ms with
  | nil => exact .nil
  | cons m ms ih =>
    unfold raiseIn
    split
    · refine .cons ⟨m.label_raise j.1, fun k hk => ?_⟩ (Marks.Grow.refl ms)
      by_cases h : k = j.1
      · rw [h, raised_raise_self]
      · rwa [raised_raise_of_ne m h]
    · exact .cons (.refl m) ih

theorem Mark.grow_jump (j : NamedJump) (ms : List Mark) : Marks.Grow ms (jump j ms) := by
  cases ms with
  | nil => exact .nil
  | cons m ms =>
    rw [jump]
    split
    · exact Marks.Grow.refl _
    · exact .cons (.refl m) (grow_raiseIn j ms)

/-! ## Reading and writing flags -/

variable {fs : List Frame} {ms : List Mark} {φ : Flags}

theorem Matches.labels (h : Matches fs ms φ) : ms.map Mark.label = fs.map Frame.label := by
  induction h with
  | nil => rfl
  | cons hm _ ih => rw [List.map_cons, List.map_cons, hm.label_eq, ih]

/-- The flag of a jump holds the mark of the loop that it goes to. -/
theorem Matches.flagOf? (h : Matches fs ms φ) {j : NamedJump} {x : String}
    (hx : flagOf? fs j = some x) : φ x = some (Mark.isRaised ms j) := by
  induction h with
  | nil => cases hx
  | cons hm _ ih =>
    simp only [JumpMacros.flagOf?, Mark.isRaised, hm.label_eq] at hx ⊢
    split at hx
    · rw [if_pos ‹_›]
      exact hm.flag _ _ hx
    · rw [if_neg ‹_›]
      exact ih hx

/-- Without a flag there is no mark. -/
theorem Matches.isRaised_eq_false (h : Matches fs ms φ) {j : NamedJump}
    (hx : JumpMacros.flagOf? fs j = none) : Mark.isRaised ms j = false := by
  induction h with
  | nil => rfl
  | cons hm _ ih =>
    simp only [JumpMacros.flagOf?, Mark.isRaised, hm.label_eq] at hx ⊢
    split at hx
    · rw [if_pos ‹_›]
      exact hm.unmarked _ hx
    · rw [if_neg ‹_›]
      exact ih hx

/-- The flag of a jump is one that is allowed for it. -/
theorem FlagsOk.flagOf? {Allowed : JumpKind → String → String → Prop} (h : FlagsOk Allowed fs)
    {j : NamedJump} {x : String} (hx : JumpMacros.flagOf? fs j = some x) : Allowed j.1 j.2 x := by
  induction fs with
  | nil => cases hx
  | cons f fs ih =>
    unfold JumpMacros.flagOf? at hx
    split at hx
    · rename_i hl
      obtain ⟨name, hname, ha⟩ := h.allowed f List.mem_cons_self _ _ hx
      obtain rfl := Option.some.inj (hl.symm.trans hname)
      exact ha
    · exact ih (flagsOk_cons.1 h).2.1 hx

/-- Writing a variable that is none of the flags changes nothing. -/
theorem Matches.update (h : Matches fs ms φ) {x : String} (hx : x ∉ flagsOf fs)
    (v : Option Bool) : Matches fs ms (Function.update φ x v) := by
  induction h with
  | nil => exact .nil
  | @cons f m fs ms hm _ ih =>
    refine .cons ⟨hm.label_eq, fun k y hy => ?_, hm.unmarked⟩
      (ih fun hmem => hx (List.mem_append_right _ hmem))
    rw [Function.update_of_ne]
    · exact hm.flag k y hy
    · rintro rfl
      exact hx (List.mem_append_left _ (Frame.mem_flags.2 ⟨k, hy⟩))

/-- Setting the flag of a jump marks the loop that it goes to. -/
theorem Matches.raiseIn (h : Matches fs ms φ) (hn : (flagsOf fs).Nodup) {j : NamedJump}
    {x : String} (hx : JumpMacros.flagOf? fs j = some x) :
    Matches fs (Mark.raiseIn j ms) (Function.update φ x (some true)) := by
  induction h with
  | nil => cases hx
  | @cons f m fs ms hm hms ih =>
    rw [flagsOf_cons, List.nodup_append'] at hn
    obtain ⟨hf, hfs, hdisj⟩ := hn
    simp only [JumpMacros.flagOf?, Mark.raiseIn, hm.label_eq] at hx ⊢
    split at hx
    · rw [if_pos ‹_›]
      have hmem : x ∈ f.flags := Frame.mem_flags.2 ⟨_, hx⟩
      refine .cons ⟨(m.label_raise _).trans hm.label_eq, fun k y hy => ?_, fun k hk => ?_⟩ ?_
      · by_cases hk : k = j.1
        · subst hk
          obtain rfl := Option.some.inj (hx.symm.trans hy)
          rw [Function.update_self, Mark.raised_raise_self]
        · have hne : y ≠ x := by
            rintro rfl
            exact hk (Frame.flag_injective hf hx hy)
          rw [Function.update_of_ne hne, Mark.raised_raise_of_ne m hk]
          exact hm.flag k y hy
      · have hne : k ≠ j.1 := by
          rintro rfl
          cases hk.symm.trans hx
        rw [Mark.raised_raise_of_ne m hne]
        exact hm.unmarked k hk
      · exact Matches.update hms (hdisj hmem) _
    · rw [if_neg ‹_›]
      have hmem : x ∈ flagsOf fs := mem_flagsOf_of_flagOf? hx
      refine .cons ⟨hm.label_eq, fun k y hy => ?_, hm.unmarked⟩ (ih hfs hx)
      have hne : y ≠ x := by
        rintro rfl
        exact hdisj (Frame.mem_flags.2 ⟨k, hy⟩) hmem
      rw [Function.update_of_ne hne]
      exact hm.flag k y hy

theorem Mark.jump_eq_raiseIn {j : NamedJump} (h : namesHead fs j.2 = false)
    (hms : ms.map Mark.label = fs.map Frame.label) : Mark.jump j ms = Mark.raiseIn j ms := by
  cases ms with
  | nil => rfl
  | cons m ms =>
    cases fs with
    | nil => cases hms
    | cons f fs =>
      have hl : m.label = f.label := (List.cons.inj hms).1
      have hne : m.label ≠ some j.2 := by
        rw [hl]
        simpa [namesHead] using h
      rw [Mark.jump, Mark.raiseIn, if_neg hne, if_neg hne]

/-- A jump across loops sets its flag and marks its target. -/
theorem Matches.jump (h : Matches fs ms φ) (hn : (flagsOf fs).Nodup) {j : NamedJump} {x : String}
    (hx : JumpMacros.flagOf? fs j = some x) (hhead : namesHead fs j.2 = false) :
    Matches fs (Mark.jump j ms) (Function.update φ x (some true)) ∧
      Mark.isRaised (Mark.jump j ms) j = true := by
  rw [Mark.jump_eq_raiseIn hhead h.labels]
  have hm := h.raiseIn hn hx
  refine ⟨hm, ?_⟩
  have hval := hm.flagOf? hx
  rw [Function.update_self] at hval
  exact (Option.some.inj hval).symm

/-- A jump to the innermost loop leaves no mark. -/
theorem Mark.jump_eq_self {j : NamedJump} (h : namesHead fs j.2 = true)
    (hms : ms.map Mark.label = fs.map Frame.label) : Mark.jump j ms = ms := by
  cases ms with
  | nil => rfl
  | cons m ms =>
    cases fs with
    | nil => cases hms
    | cons f fs =>
      have hl : m.label = f.label := (List.cons.inj hms).1
      have heq : m.label = some j.2 := by
        rw [hl]
        simpa [namesHead] using h
      rw [Mark.jump, if_pos heq]

/-! ## What is found after a loop -/

/-- That checks are not repeated does not matter for the first that is found. -/
theorem find?_foldl_addCheck (p : Exit → Bool) (es acc : List Exit) :
    (es.foldl addCheck acc).find? p = (acc ++ es).find? p := by
  induction es generalizing acc with
  | nil => simp
  | cons e es ih =>
    rw [List.foldl_cons, ih, addCheck]
    split
    · rename_i hmem
      rw [List.find?_append, List.find?_append, List.find?_cons]
      cases hacc : acc.find? p with
      | some e' => simp
      | none =>
        have hno : p e = false := by
          have := List.find?_eq_none.1 hacc e (by simpa using hmem)
          simpa using this
        simp [hno]
    · rw [List.append_assoc, List.singleton_append]

/-- The first check whose flag is true is that of the first jump whose mark is there. -/
theorem Matches.find?_exits (h : Matches fs ms φ) (js : List NamedJump) :
    ((js.filterMap (exitOf? fs)).foldl addCheck []).find? (fun e => φ e.1 == some true) =
      (js.find? (Mark.isRaised ms)).bind (exitOf? fs) := by
  rw [find?_foldl_addCheck, List.nil_append, List.find?_filterMap]
  congr 2
  funext j
  unfold exitOf?
  cases hx : JumpMacros.flagOf? fs j with
  | none => simp [h.isRaised_eq_false hx]
  | some x =>
    have hval := h.flagOf? hx
    cases hr : Mark.isRaised ms j <;> simp [hval, hr]

end JumpMacros
