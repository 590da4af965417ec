import JumpMacros.Proofs.MarksAndFlags
import JumpMacros.Proofs.EveryNode

/-!
# Marks and flags, step by step

What the plain reading does with the statements that lowering makes, and what that is in the tracked
reading. `coupling` relates the two inside of some loops: a jump across loops is a `break` on the
right side. That it goes on to its target is the work of the checks, and `sim_checks` is the step
that carries the proof: after a loop, the first check whose flag is true belongs to the first jump
whose mark is there.
-/

namespace JumpMacros

open Host Run Coupling Lower

namespace FlagMeaning

variable {H : Host} {users : List String} {flagPrefix : String}

/-! ## Running lowered statements -/

/-- The signal of a plain jump. -/
def signalOf : JumpKind → H.Signal
  | .breaks => .breaks
  | .continues => .continues

/-- The flag that is reset by the last of some statements. -/
def lastLabel (users : List String) (flagPrefix : String) (label : Option String) :
    List (Stmt Empty) → Option String
  | [] => label
  | s :: rest => lastLabel users flagPrefix (Plain.label users flagPrefix s) rest

theorem block_append (label : Option String) (a b : List (Stmt Empty)) :
    (plain H users flagPrefix).block () label (a ++ b) =
      andNext ((plain H users flagPrefix).block () label a)
        ((plain H users flagPrefix).block () (lastLabel users flagPrefix label a) b) := by
  induction a generalizing label with
  | nil => exact (andNext_pure_normal _).symm
  | cons s rest ih =>
    show andNext _ ((plain H users flagPrefix).block () _ (rest ++ b)) = andNext (andNext _ _) _
    rw [ih, andNext_assoc]
    rfl

theorem stmt_plainJump (sp : Span) (k : JumpKind) (label : Option String) :
    (plain H users flagPrefix).stmt () label (plainJump sp k) = pure (signalOf k) := by
  cases k <;> rfl

theorem flagWrite?_setFlag {x : String} (hx : x ∉ users) (p : Position) (v : Bool) :
    Plain.flagWrite? users (.assign [.name p x .store] (.const p (.bool v))) = some (x, v) := by
  simp [Plain.flagWrite?, hx]

theorem stmt_setFlag {x : String} (hx : x ∉ users) (sp : Span) (v : Bool)
    (label : Option String) :
    (plain H users flagPrefix).stmt () label (setFlag sp x v) = (do
      adjust fun φ => Function.update φ x (some v)
      pure .normal) := by
  rw [setFlag_eq]
  show Plain.simple users _ = _
  simp only [Plain.simple, flagWrite?_setFlag hx]

/-- Setting a flag comes first and changes only that. -/
theorem andNext_setFlag {x : String} (hx : x ∉ users) (sp : Span) (v : Bool)
    (label : Option String) (k : H.Exec Flags FlagProbe H.Signal) (s : H.Store) (φ : Flags) :
    andNext ((plain H users flagPrefix).stmt () label (setFlag sp x v)) k (s, φ) =
      k (s, Function.update φ x (some v)) := by
  rw [stmt_setFlag hx, andNext_bind, adjust_bind, andNext_pure_normal]

/-- A check goes on leaving if its flag is true. -/
theorem stmt_check {x : String} (hx : x ∉ users) (sp : Span) (k : JumpKind)
    (label : Option String) {φ : Flags} {v : Bool} (hv : φ x = some v)
    (rest : H.Exec Flags FlagProbe H.Signal) (s : H.Store) :
    andNext ((plain H users flagPrefix).stmt () label (check sp (x, k))) rest (s, φ) =
      (if v then mayStop ⟨sp, x⟩ >>= fun _ => pure (signalOf k) else rest) (s, φ) := by
  have hbody : (plain H users flagPrefix).block () none [plainJump sp k] = pure (signalOf k) := by
    show andNext ((plain H users flagPrefix).stmt () none (plainJump sp k)) (pure .normal) = _
    rw [andNext_normal, stmt_plainJump]
  have hread : Plain.flagRead? users (.name sp.start x .load) = some x := by
    simp [Plain.flagRead?, hx]
  rw [check_eq]
  show andNext (choose (Plain.test users sp (.name sp.start x .load)) _ _) rest (s, φ) = _
  rw [hbody]
  simp only [choose, Plain.test, hread, andNext_orRaise]
  simp only [orRaise, bind_assoc]
  rw [inspect_bind, hv]
  cases v with
  | true =>
    refine congrFun (congrArg (mayStop _ >>= ·) (funext fun _ => ?_)) _
    rw [pure_bind]
    cases k <;> exact pure_bind _ _
  | false =>
    refine Eq.trans (congrFun (pure_bind () _) _) ?_
    rw [pure_bind]
    exact congrFun (andNext_pure_normal rest) _

/-- What the first check whose flag is true does, if there is one. -/
def leaveBy (sp : Span) : Option Exit → H.Exec Flags FlagProbe H.Signal
  | none => pure .normal
  | some e => mayStop ⟨sp, e.1⟩ >>= fun _ => pure (signalOf e.2)

/-- Checks one after the other: the first whose flag is true decides. -/
theorem block_checks (sp : Span) (φ : Flags) (s : H.Store) (label : Option String)
    (es : List Exit) (hes : ∀ e ∈ es, e.1 ∉ users ∧ (φ e.1).isSome = true) :
    (plain H users flagPrefix).block () label (es.map (check sp)) (s, φ) =
      leaveBy sp (es.find? fun e => φ e.1 == some true) (s, φ) := by
  induction es generalizing label with
  | nil => rfl
  | cons e es ih =>
    obtain ⟨hx, hv⟩ := hes e List.mem_cons_self
    obtain ⟨v, hv⟩ := Option.isSome_iff_exists.1 hv
    show andNext ((plain H users flagPrefix).stmt () label (check sp e)) _ (s, φ) = _
    rw [show e = (e.1, e.2) from rfl, stmt_check hx sp e.2 label hv, List.find?_cons]
    cases v with
    | true => simp [hv, leaveBy]
    | false =>
      simp only [hv, Bool.false_eq_true, if_false]
      exact ih _ fun e' he' => hes e' (List.mem_cons_of_mem _ he')

/-! ## The coupling -/

/-- A mark is found where a flag for its jumps is found to be true. -/
def link (users : List String) (flagPrefix : String) : Link MarkProbe FlagProbe where
  same p q := q.span = p.span ∧ IsFlagFor users flagPrefix p.jump.1 p.jump.2 q.flag
  free _ := False
  bad _ := False

/-- What stands for a jump inside of the loops `fs`: a plain jump if it goes to the innermost of
them, and otherwise a `break` with a mark. -/
def JumpAs (fs : List Frame) (js : List NamedJump) (j : NamedJump) (ms : List Mark)
    (sig : H.Signal) : Prop :=
  j ∈ js ∧ if namesHead fs j.2 then sig = signalOf j.1
    else sig = .breaks ∧ Mark.isRaised ms j = true

/-- Inside of the loops `fs` the flags hold the marks, and statements with the jumps `js` end with
no others. -/
def coupling (H : Host) (fs : List Frame) (js : List NamedJump) :
    Coupling H (List Mark) Flags where
  Inv := Matches fs
  Le := Marks.Grow
  Jump := JumpAs fs js
  refl := Marks.Grow.refl
  trans := Marks.Grow.trans
  mono := by
    rintro ms ms' j sig hle ⟨hj, h⟩
    refine ⟨hj, ?_⟩
    split at h
    · rwa [if_pos ‹_›]
    · rw [if_neg ‹_›]
      exact ⟨h.1, hle.isRaised h.2⟩
  abrupt := by
    rintro ms j sig ⟨-, h⟩
    split at h
    · cases hk : j.1
      · exact .inl (h.trans (by rw [hk]; rfl))
      · exact .inr (.inl (h.trans (by rw [hk]; rfl)))
    · exact .inl h.1

variable {L : Link MarkProbe FlagProbe} {fs : List Frame} {js js' : List NamedJump}

theorem agrees_subset (hsub : js ⊆ js') {ms : List Mark} {sig sig' : H.Signal}
    (h : (coupling H fs js).Agrees ms sig sig') : (coupling H fs js').Agrees ms sig sig' := by
  cases h with
  | normal => exact .normal
  | breaks => exact .breaks
  | continues => exact .continues
  | returns v => exact .returns v
  | raises e => exact .raises e
  | jumps h => exact .jumps ⟨hsub h.1, h.2⟩

theorem keeps_subset (hsub : js ⊆ js') {m : H.Exec (List Mark) MarkProbe H.Signal}
    {n : H.Exec Flags FlagProbe H.Signal} (h : (coupling H fs js).Keeps L m n) :
    (coupling H fs js').Keeps L m n :=
  fun ms φ hI => (h ms φ hI).imp fun _ _ _ _ hpost =>
    ⟨hpost.1, hpost.2.1, agrees_subset hsub hpost.2.2⟩

/-- Where no loop is around nothing ends with a jump. -/
theorem closed_of_post {x ms : List Mark} {φ : Flags} {sig sig' : H.Signal}
    (h : (coupling H [] js').Post x sig ms sig' φ) :
    Closed (coupling H fs js) sig ms sig' φ := by
  intro _
  cases h.2.2 with
  | normal => exact .normal
  | breaks => exact .breaks
  | continues => exact .continues
  | returns v => exact .returns v
  | raises e => exact .raises e
  | jumps h =>
    have hms : ms = [] := List.forall₂_nil_left_iff.1 ‹(coupling H [] js').Post _ _ _ _ _›.1
    subst hms
    cases h.2.2

/-! ## The checks after a loop -/

/-- The checks after a loop find what the marks show. A jump that has just left the loop has its
mark, so it is found as well. -/
theorem sim_checks {carried : List NamedJump} {pending : List NamedJump} {sp : Span}
    {label : Option String} {ms : List Mark} {φ : Flags}
    (hok : FlagsOk (IsFlagFor users flagPrefix) fs) (hI : Matches fs ms φ)
    (hsub : carried ⊆ js) {sig : H.Signal}
    (hsig : sig = .normal ∨ ∃ j ∈ carried, sig = .jumps j ∧ Mark.isRaised ms j = true) :
    Sim (link users flagPrefix) (Tracked.check pending sp carried sig)
      ((plain H users flagPrefix).block () label
        (((carried.filterMap (exitOf? fs)).foldl addCheck []).map (check sp)))
      ms φ ((coupling H fs js).Post ms) := by
  have hes : ∀ e ∈ (carried.filterMap (exitOf? fs)).foldl addCheck [],
      e.1 ∉ users ∧ (φ e.1).isSome = true := by
    intro e he
    rcases mem_foldl_addCheck he with he | he
    · cases he
    · obtain ⟨j, -, hj⟩ := List.mem_filterMap.1 he
      obtain ⟨x, hx, rfl⟩ := Option.map_eq_some_iff.1 hj
      exact ⟨(hok.flagOf? hx).1, by rw [hI.flagOf? hx]; rfl⟩
  refine Sim.congr (fun s => inspect_bind _ _ s ms)
    (fun s => block_checks sp φ s label _ hes) ?_
  rw [hI.find?_exits]
  cases hfound : carried.find? (Mark.isRaised ms) with
  | none =>
    rcases hsig with rfl | ⟨j, hj, rfl, hr⟩
    · exact sim_pure hI .normal
    · exact absurd hr (List.find?_eq_none.1 hfound j hj)
  | some j =>
    have hr : Mark.isRaised ms j = true := List.find?_some hfound
    cases hx : flagOf? fs j with
    | none => cases (hI.isRaised_eq_false hx).symm.trans hr
    | some x =>
      rw [Option.bind_some, exitOf?, hx]
      refine Sim.mayStop ⟨rfl, hok.flagOf? hx⟩ (sim_pure hI (.jumps ⟨?_, ?_⟩))
      · exact hsub (List.mem_of_find?_eq_some hfound)
      · split
        · rfl
        · exact ⟨rfl, hr⟩

/-! ## Jumps -/

theorem keeps_jump {sp : Span} {k : JumpKind} {l : Expr} {name : String}
    {out : List (Stmt Empty)} (hok : FlagsOk (IsFlagFor users flagPrefix) fs)
    (hl : labelOf? l = some name) (hmem : some name ∈ fs.map Frame.label)
    (hout : JumpLowersTo fs sp k l out) (hj : (k, name) ∈ js) :
    (coupling H fs js).Keeps L (Tracked.hole (.jump k l))
      ((plain H users flagPrefix).block () none out) := by
  intro ms φ hI
  simp only [Tracked.hole, hl]
  have hcontains : (fs.map Frame.label).contains (some name) = true :=
    List.contains_iff_mem.2 hmem
  simp only [JumpLowersTo, hl, hcontains, Bool.not_true, Bool.false_or] at hout
  by_cases hhead : namesHead fs name = true
  · rw [if_pos hhead] at hout
    subst hout
    have hright :
        (plain H users flagPrefix).block () none [plainJump sp k] = pure (signalOf k) := by
      show andNext ((plain H users flagPrefix).stmt () none (plainJump sp k)) (pure .normal) = _
      rw [andNext_normal, stmt_plainJump]
    refine Sim.congr (fun s => adjust_bind _ _ s ms) (fun s => congrFun hright (s, φ)) ?_
    rw [Mark.jump_eq_self hhead hI.labels]
    exact sim_pure hI (.jumps ⟨hj, by rw [if_pos hhead]⟩)
  · rw [if_neg hhead] at hout
    obtain ⟨x, hx, rfl⟩ := hout
    refine Sim.congr (fun s => adjust_bind _ _ s ms)
      (fun s => andNext_setFlag (hok.flagOf? hx).1 sp true none _ s φ) ?_
    have hbreak : (plain H users flagPrefix).block () (Plain.label users flagPrefix
        (setFlag sp x true)) [.simple sp .breaks] = pure .breaks := andNext_normal (pure .breaks)
    obtain ⟨hm, hr⟩ := hI.jump hok.nodup hx (Bool.eq_false_iff.2 hhead)
    refine Sim.congr (fun s => rfl) (fun s => congrFun hbreak _) (Sim.pure ⟨hm, ?_, .jumps ?_⟩)
    · exact Mark.grow_jump _ ms
    · exact ⟨hj, by rw [if_neg hhead]; exact ⟨rfl, hr⟩⟩

end FlagMeaning

end JumpMacros
