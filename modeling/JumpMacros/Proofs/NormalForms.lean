import JumpMacros.Unicode.Normal
import Mathlib.Data.List.Basic

/-!
# Normal forms hold no line ends

**Theorem (`normalForm_no_line`).** The normal form of a text without control characters has no
line end.

Decomposing, putting marks in order and composing each give no control character where there was
none. The tables are looked through once for that.
-/

namespace JumpMacros.Text

namespace Normal

/-- A code point that is no control character of ASCII. -/
abbrev Visible (c : Nat) : Prop := 0x20 ≤ c

/-! ## Tables -/

theorem decompositions_visible :
    (decompositionTables.all fun t => t.2.2.all fun e => e.2.all (0x20 ≤ ·)) = true := by
  decide +kernel

theorem compositions_visible : (compositions.all fun e => 0x20 ≤ e.2.2) = true := by
  decide +kernel

/-! ## Steps -/

theorem decomposeHangul_visible (c : Nat) : ∀ d ∈ decomposeHangul c, Visible d := by
  unfold decomposeHangul leadBase vowelBase trailBase Visible
  dsimp only
  split
  · simp only [List.forall_mem_cons]
    exact ⟨by omega, by omega, nofun⟩
  · simp only [List.cons_append, List.nil_append, List.forall_mem_cons]
    exact ⟨by omega, by omega, by omega, nofun⟩

theorem decompose_visible {c : Nat} (h : Visible c) : ∀ d ∈ decompose c, Visible d := by
  have hself : ∀ d ∈ [c], Visible d := List.forall_mem_singleton.2 h
  unfold decompose
  split
  · exact hself
  · split
    · exact decomposeHangul_visible c
    · split
      · exact hself
      · rename_i lo hi table hfind
        have htable := List.all_eq_true.1
          (List.all_eq_true.1 decompositions_visible _ (List.mem_of_find?_eq_some hfind))
        cases hl : table.lookup c with
        | none => exact hself
        | some ds =>
          obtain ⟨front, back, rfl, -⟩ := List.lookup_eq_some_iff.1 hl
          have hentry := htable (c, ds) (List.mem_append_right front List.mem_cons_self)
          exact fun d hd => of_decide_eq_true (List.all_eq_true.1 hentry d hd)

theorem insertMark_visible {c : Nat} (h : Visible c) {ds : List Nat} (hds : ∀ d ∈ ds, Visible d) :
    ∀ d ∈ insertMark c ds, Visible d := by
  induction ds with
  | nil => exact List.forall_mem_singleton.2 h
  | cons d ds ih =>
    unfold insertMark
    obtain ⟨hd, hrest⟩ := List.forall_mem_cons.1 hds
    split
    · exact List.forall_mem_cons.2 ⟨hd, ih hrest⟩
    · exact List.forall_mem_cons.2 ⟨h, hds⟩

theorem order_visible {cs : List Nat} (h : ∀ c ∈ cs, Visible c) : ∀ c ∈ order cs, Visible c := by
  have hfold (seen : List Nat) (hseen : ∀ c ∈ seen, Visible c) :
      ∀ c ∈ cs.foldl (fun seen c => insertMark c seen) seen, Visible c := by
    induction cs generalizing seen with
    | nil => exact hseen
    | cons c cs ih =>
      obtain ⟨hc, hcs⟩ := List.forall_mem_cons.1 h
      exact ih hcs _ (insertMark_visible hc hseen)
  exact fun c hc => hfold [] nofun c (List.mem_reverse.1 hc)

theorem composePair_visible {a b c : Nat} (h : composePair a b = some c) : Visible c := by
  unfold composePair at h
  split at h
  · rename_i d hd
    cases h
    unfold composeHangul isHangul hangulBase leadBase vowelBase trailBase at hd
    split at hd
    · have heq := Option.some.inj hd
      omega
    · split at hd
      · rename_i hcond
        simp only [Bool.and_eq_true, decide_eq_true_eq] at hcond
        have heq := Option.some.inj hd
        omega
      · cases hd
  · obtain ⟨e, he, rfl⟩ := Option.map_eq_some_iff.1 h
    have hmem := List.mem_of_find?_eq_some he
    exact of_decide_eq_true (List.all_eq_true.1 compositions_visible e hmem)

/-! ## Composition -/

/-- All that an open composition holds is visible. -/
structure Open.Visible (o : Open) : Prop where
  finished : ∀ c ∈ o.finished, Normal.Visible c
  starter : ∀ c ∈ o.starter, Normal.Visible c
  marks : ∀ c ∈ o.marks, Normal.Visible c

theorem Open.Visible.flush {o : Open} (h : o.Visible) : ∀ c ∈ o.flush, Normal.Visible c := by
  unfold Open.flush
  refine List.forall_mem_append.2 ⟨List.forall_mem_append.2 ⟨h.marks, ?_⟩, h.finished⟩
  split
  · exact nofun
  · exact List.forall_mem_singleton.2 (h.starter _ ‹_›)

theorem Open.Visible.push {o : Open} (h : o.Visible) {c : Nat} (hc : Normal.Visible c) :
    (o.push c).Visible := by
  unfold Open.push
  dsimp only
  split
  · rename_i d hd
    refine ⟨h.finished, ?_, h.marks⟩
    rintro _ ⟨⟩
    split at hd
    · split at hd
      all_goals
        split at hd
        · cases hd
        · exact composePair_visible hd
    · cases hd
  · split
    · exact ⟨h.flush, fun d hd => Option.some.inj hd ▸ hc, nofun⟩
    · exact ⟨h.finished, h.starter, List.forall_mem_cons.2 ⟨hc, h.marks⟩⟩

theorem compose_visible {cs : List Nat} (h : ∀ c ∈ cs, Visible c) :
    ∀ c ∈ compose cs, Visible c := by
  have hfold (o : Open) (ho : o.Visible) : (cs.foldl Open.push o).Visible := by
    induction cs generalizing o with
    | nil => exact ho
    | cons c cs ih =>
      obtain ⟨hc, hcs⟩ := List.forall_mem_cons.1 h
      exact ih hcs _ (ho.push hc)
  exact fun c hc => (hfold ⟨[], none, []⟩ ⟨nofun, nofun, nofun⟩).flush c (List.mem_reverse.1 hc)

theorem normalise_visible {cs : List Nat} (h : ∀ c ∈ cs, Visible c) :
    ∀ c ∈ normalise cs, Visible c :=
  compose_visible (order_visible (List.forall_mem_flatMap.2 fun c hc => decompose_visible (h c hc)))

end Normal

/-- **A normal form adds no line end.** -/
theorem normalForm_no_line {s : String} (h : ∀ c ∈ s.toList, 0x20 ≤ c.toNat) :
    '\n' ∉ (normalForm s).toList := by
  intro hmem
  unfold normalForm at hmem
  split at hmem
  · exact absurd (h _ hmem) (by decide)
  · rw [String.toList_ofList] at hmem
    obtain ⟨n, hn, heq⟩ := List.mem_map.1 hmem
    have hvisible : 0x20 ≤ n := Normal.normalise_visible (List.forall_mem_map.2 h) n hn
    by_cases hvalid : n.isValidChar
    · have hnat : n = 10 := by
        have := congrArg Char.toNat heq
        rwa [Char.ofNat, dif_pos hvalid] at this
      omega
    · rw [Char.ofNat, dif_neg hvalid] at heq
      exact absurd heq (by decide)

end JumpMacros.Text
