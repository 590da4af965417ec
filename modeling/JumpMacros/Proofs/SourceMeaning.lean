import JumpMacros.Proofs.Coupling
import JumpMacros.Proofs.Dialects

/-!
# Replacing macro calls keeps the meaning

**Theorem (`stmt_keeps`, `block_keeps`).** A source tree in the labelled reading and its expanded
tree in the tracked reading simulate each other, unless the latter can come to the end of a loop
where it finds the mark of a jump that does not arrive there.

The left side adds nothing to the store. Marks only show in what happens after a loop, so all that
has to be known of them is that without such a disturbed check they show nothing there that the
signal does not.
-/

namespace JumpMacros

open Host Run Coupling

namespace SourceMeaning

/-- A mark of a jump that does not arrive is found after a loop. -/
def Disturbed (q : MarkProbe) : Prop := q.beforeRound = false ∧ q.arriving = false

/-- The source has no probes, and the expanded tree is left alone where a check is disturbed. -/
def link : Link Empty MarkProbe where
  same _ _ := False
  free _ := True
  bad := Disturbed

/-- Signals are the same on both sides. -/
def coupling (H : Host) : Coupling H Unit (List Mark) where
  Inv _ _ := True
  Le _ _ := True
  Jump j _ sig := sig = .jumps j
  refl _ := trivial
  trans _ _ := trivial
  mono _ h := h
  abrupt h := .inr (.inr ⟨_, h⟩)

variable {H : Host}

theorem agrees_refl (x : Unit) (sig : H.Signal) : (coupling H).Agrees x sig sig := by
  cases sig with
  | normal => exact .normal
  | breaks => exact .breaks
  | continues => exact .continues
  | returns v => exact .returns v
  | raises e => exact .raises e
  | jumps j => exact .jumps rfl

theorem eq_of_agrees {x : Unit} {sig sig' : H.Signal} (h : (coupling H).Agrees x sig sig') :
    sig' = sig := by
  cases h with
  | jumps h => exact h
  | normal => rfl
  | breaks => rfl
  | continues => rfl
  | returns v => rfl
  | raises e => rfl

/-! ## Macro calls -/

/-- A call of a macro that a rule fits. -/
def Fits (i : Invocation) : Prop :=
  ∃ m r, Macro.ofName? i.name = some m ∧ i.replacement m = .ok r

/-- A replacement is what a rule of the macro builds from the arguments. -/
theorem build_of_replacement {m : Macro} {i : Invocation} {r : Replacement} {rule : Rule}
    (h : i.replacement m = .ok (r, rule)) : rule ∈ m.rules ∧ rule.build i.args = some r := by
  unfold Invocation.replacement at h
  cases hrule : i.rule m with
  | error p => simp [hrule] at h
  | ok rule' =>
    simp only [hrule] at h
    split at h
    · rename_i x hbuild
      obtain ⟨rfl, rfl⟩ := Prod.mk.inj (Except.ok.inj h)
      refine ⟨?_, hbuild⟩
      unfold Invocation.rule at hrule
      split at hrule
      · cases hrule
      · split at hrule
        · rename_i hfind
          exact Except.ok.inj hrule ▸ List.mem_of_find?_eq_some hfind
        · cases hrule
    · cases h

/-- What a transfer of control means. -/
def transfer : Transfer → H.Exec Unit Empty H.Signal
  | .breaks => pure .breaks
  | .continues => pure .continues
  | .returns none => pure (.returns H.nothing)
  | .returns (some v) => orRaise (act (H.eval v)) fun x => pure (.returns x)
  | .jump k l => jumpTo k l

/-- What a replacement means. -/
def meaning : Replacement → H.Exec Unit Empty H.Signal
  | .guarded p x => guarded p (transfer x)
  | .loopLabel _ => pure .normal

/-- The label that a replacement puts on the statement after it. -/
def labelOf : Replacement → Option String
  | .guarded _ _ => none
  | .loopLabel l => Lower.labelOf? l

theorem one_build {a : String} {f : Expr → Replacement} {as : List Expr} {r : Replacement}
    (h : (Rule.one a f).build as = some r) : ∃ x, as = [x] ∧ f x = r := by
  unfold Rule.one at h
  dsimp only at h
  split at h
  · exact ⟨_, rfl, Option.some.inj h⟩
  · cases h

theorem two_build {a b : String} {f : Expr → Expr → Replacement} {as : List Expr}
    {r : Replacement} (h : (Rule.two a b f).build as = some r) :
    ∃ x y, as = [x, y] ∧ f x y = r := by
  unfold Rule.two at h
  dsimp only at h
  split at h
  · exact ⟨_, _, rfl, Option.some.inj h⟩
  · cases h

/-- The shapes of calls with their replacements. -/
inductive Shape : Macro → List Expr → Replacement → Prop
  | breaks (p : Expr) : Shape .breakIf [p] (.guarded p .breaks)
  | breaksTo (p l : Expr) : Shape .breakIf [p, l] (.guarded p (.jump .breaks l))
  | continues (p : Expr) : Shape .continueIf [p] (.guarded p .continues)
  | continuesTo (p l : Expr) : Shape .continueIf [p, l] (.guarded p (.jump .continues l))
  | returns (p : Expr) : Shape .returnIf [p] (.guarded p (.returns none))
  | returnsValue (p v : Expr) : Shape .returnIf [p, v] (.guarded p (.returns (some v)))
  | label (l : Expr) : Shape .label [l] (.loopLabel l)

theorem shape_of_replacement {i : Invocation} {m : Macro} {r : Replacement} {rule : Rule}
    (h : i.replacement m = .ok (r, rule)) : Shape m i.args r := by
  obtain ⟨hmem, hbuild⟩ := build_of_replacement h
  generalize i.args = as at hbuild ⊢
  cases m <;> simp only [Macro.rules, List.mem_cons, List.not_mem_nil, or_false] at hmem
  case breakIf =>
    obtain rfl | rfl := hmem
    · obtain ⟨p, rfl, rfl⟩ := one_build hbuild
      exact .breaks p
    · obtain ⟨p, l, rfl, rfl⟩ := two_build hbuild
      exact .breaksTo p l
  case continueIf =>
    obtain rfl | rfl := hmem
    · obtain ⟨p, rfl, rfl⟩ := one_build hbuild
      exact .continues p
    · obtain ⟨p, l, rfl, rfl⟩ := two_build hbuild
      exact .continuesTo p l
  case returnIf =>
    obtain rfl | rfl := hmem
    · obtain ⟨p, rfl, rfl⟩ := one_build hbuild
      exact .returns p
    · obtain ⟨p, v, rfl, rfl⟩ := two_build hbuild
      exact .returnsValue p v
  case label =>
    subst hmem
    obtain ⟨l, rfl, rfl⟩ := one_build hbuild
    exact .label l

/-- A call means what its replacement says. -/
theorem invoke_eq {i : Invocation} {m : Macro} {r : Replacement}
    (hm : Macro.ofName? i.name = some m) (h : Shape m i.args r) :
    (invoke i : H.Exec Unit Empty H.Signal) = meaning r := by
  unfold invoke
  rw [hm]
  generalize i.args = as at h ⊢
  cases h <;> rfl

/-- A call puts the label on the statement after it that its replacement puts there. -/
theorem label?_eq {i : Invocation} {m : Macro} {r : Replacement}
    (hm : Macro.ofName? i.name = some m) (h : Shape m i.args r) : i.label? = labelOf r := by
  unfold Invocation.label?
  rw [hm]
  generalize i.args = as at h ⊢
  cases h <;> rfl

section

variable {pending : List NamedJump} {label : Option String}

theorem keeps_transfer (sp : Span) (x : Transfer) : (coupling H).Keeps link (transfer x)
    ((tracked H).stmt pending label (x.toStmt sp)) := by
  cases x with
  | breaks => exact keeps_simple .breaks
  | continues => exact keeps_simple .continues
  | returns v =>
    cases v with
    | none => exact keeps_simple (.returns none)
    | some e => exact keeps_simple (.returns (some e))
  | jump k l =>
    show (coupling H).Keeps link (jumpTo k l) (Tracked.hole (.jump k l))
    simp only [jumpTo, Tracked.hole]
    cases Lower.labelOf? l with
    | none => exact fun _ _ _ => ⟨fun _ _ _ h => h.elim, fun _ _ _ h => h.elim⟩
    | some name =>
      intro x y _
      refine Sim.congr (fun _ => rfl) (fun s => adjust_bind _ _ s y) ?_
      exact sim_pure trivial (agrees_refl _ _)

theorem keeps_meaning (sp : Span) (r : Replacement) : (coupling H).Keeps link (meaning r)
    ((tracked H).stmt pending label (r.toStmt sp)) := by
  cases r with
  | guarded p x =>
    have hx : (coupling H).Keeps link (transfer x)
        ((tracked H).stmt pending none (x.toStmt sp)) := keeps_transfer sp x
    refine Keeps.choose ?_ (keeps_pure fun _ => .normal)
    show (coupling H).Keeps link _ (andNext _ (pure .normal))
    rw [andNext_normal]
    exact hx
  | loopLabel l => exact keeps_pure fun _ => .normal

end

/-! ## The end of a loop -/

theorem eq_jumps_of_isJump {sig : H.Signal} {j : NamedJump} (h : sig.isJump j = true) :
    sig = .jumps j := by
  cases sig with
  | jumps j' => exact congrArg _ (beq_iff_eq.1 h)
  | normal => cases h
  | breaks => cases h
  | continues => cases h
  | returns v => cases h
  | raises e => cases h

/-- Without a disturbed check, marks show nothing that the signal does not. -/
theorem sim_afterLoop (pending : List NamedJump) (sp : Span) (carried : List NamedJump)
    (sig : H.Signal) (x : Unit) (y : List Mark) :
    Sim link (pure sig) (Tracked.afterLoop pending sp carried sig) x y ((coupling H).Post x) := by
  have hcheck (sig : H.Signal) : Sim link (pure sig) (Tracked.check pending sp carried sig) x y
      ((coupling H).Post x) := by
    refine Sim.congr (fun _ => rfl) (fun s => inspect_bind _ _ s y) ?_
    cases carried.find? (Mark.isRaised y) with
    | none => exact sim_pure trivial (agrees_refl _ _)
    | some j =>
      by_cases hj : sig.isJump j = true
      · obtain rfl := eq_jumps_of_isJump hj
        exact Sim.mayStop_right trivial (sim_pure trivial (agrees_refl _ _))
      · refine Sim.of_escapes fun s => ⟨[], _, mayStop_bind.2 (.inr ⟨rfl, rfl⟩), rfl, ?_⟩
        exact Bool.eq_false_iff.2 hj
  cases sig with
  | normal => exact hcheck .normal
  | jumps j => exact hcheck (.jumps j)
  | breaks => exact sim_pure trivial .breaks
  | continues => exact sim_pure trivial .continues
  | returns v => exact sim_pure trivial (.returns v)
  | raises e => exact sim_pure trivial (.raises e)

/-- Marks that are found before a round are no matter here. -/
theorem sim_round (sp : Span) (label : Option String) (x : Unit) (y : List Mark) :
    Sim (H := H) link (pure ()) (Tracked.round sp label) x y fun _ _ _ _ => True := by
  cases label with
  | none => exact Sim.pure trivial
  | some name =>
    refine Sim.congr (fun _ => rfl) (fun s => adjust_bind _ _ s y) ?_
    refine Sim.congr (fun _ => rfl) (fun s => inspect_bind _ _ s _) ?_
    cases Mark.leftMark (Mark.startRound y) with
    | false => exact Sim.pure trivial
    | true =>
      have h := Sim.mayStop_right (H := H) (L := link)
        (q := ⟨sp, (.breaks, name), true, false, false⟩) trivial
        (Sim.pure (a := ()) (b := ()) (x := x) (y := Mark.startRound y) (R := fun _ _ _ _ => True)
          trivial)
      rwa [bind_pure] at h

/-! ## The traversal -/

theorem sim_step {label : Option String} {sig sig' : H.Signal} (h : sig' = sig) (x : Unit)
    (y : List Mark) : StepRel (fun _ _ => True) (fun sig _ sig' _ => sig' = sig)
      (afterRound label sig) x (afterRound label sig') y := by
  subst h
  cases afterRound label sig' with
  | none => exact .again trivial
  | some sig => exact .last rfl

/-- The calls of macros in statements, with what is visible there. -/
abbrev calls (env : Env) (s : Stmt Empty) : List Invocation := (s.invocation? env).toList

theorem label_expand (package : String) {env : Env} {s : Stmt Empty}
    (h : ∀ i ∈ calls env s, Fits i) :
    Layer.labelFrom (some (s.expand package env)) = (s.invocation? env).bind Invocation.label? := by
  cases s with
  | simple sp s =>
    simp only [Stmt.expand, Simple.expand]
    cases hi : (Stmt.simple sp s).invocation? env with
    | none => rfl
    | some i =>
      obtain ⟨m, ⟨r, rule⟩, hm, hr⟩ := h i (by simp [calls, hi])
      simp only [hm, Option.map_some, hr, Option.bind_some]
      rw [label?_eq hm (shape_of_replacement hr)]
      cases r <;> rfl
  | hole _ h => exact nomatch h
  | branch _ _ _ _ => rfl
  | loop _ _ _ _ => rfl
  | function _ _ _ => rfl
  | klass _ _ _ => rfl
  | withItems _ _ _ _ => rfl
  | attempt _ _ _ _ _ _ => rfl
  | select _ _ _ => rfl

theorem keeps_simple_expand {package : String} {env : Env} {pending : List NamedJump}
    {label : Option String} {sp : Span} {s : Simple} (h : ∀ i ∈ calls env (.simple sp s), Fits i) :
    (coupling H).Keeps link ((labelled H package).stmt env label (.simple sp s))
      ((tracked H).stmt pending label (s.expand env sp)) := by
  show (coupling H).Keeps link ((labelled H package).simple env sp s) _
  simp only [Simple.expand]
  cases hi : (Stmt.simple sp s).invocation? env with
  | none => exact keeps_simple s
  | some i =>
    obtain ⟨m, ⟨r, rule⟩, hm, hr⟩ := h i (by simp [calls, hi])
    simp only [hm, Option.map_some, hr]
    rw [invoke_eq hm (shape_of_replacement hr)]
    exact keeps_meaning sp r

/-- A loop keeps the meaning if its body and its `else` part do. -/
theorem keeps_loop {package : String} {env : Env} {pending : List NamedJump}
    {label : Option String} {sp : Span} {h : LoopHead} {b o : List (Stmt Empty)}
    {b' o' : List (Stmt Placeholder)}
    (hb : (coupling H).Keeps link ((labelled H package).block env none b)
      ((tracked H).block (leaving label pending) none b'))
    (ho : (coupling H).Keeps link ((labelled H package).block env none o)
      ((tracked H).block pending none o')) :
    (coupling H).Keeps link ((labelled H package).stmt env label (.loop sp h b o))
      ((tracked H).stmt pending label (.loop sp h b' o')) := by
  refine Keeps.orRaise_act fun c x y _ => ?_
  refine (Sim.adjust _ _ x y).bind fun _ x _ y _ => ?_
  refine (sim_rounds (I := fun _ _ => True) (E := fun sig _ sig' _ => sig' = sig)
    (fun _ _ _ _ => rfl) (fun x y _ => ?_) trivial).bind fun ending x ending' y hend => ?_
  · refine (sim_round sp label x y).bind fun _ x _ y _ => ?_
    exact (hb x y trivial).imp fun sig x sig' y hpost => sim_step (eq_of_agrees hpost.2.2) x y
  · refine (Sim.adjust _ _ x y).bind fun _ x _ y _ => ?_
    cases hend with
    | last heq =>
      subst heq
      exact sim_afterLoop _ sp _ _ x y
    | again _ => exact ho.andNext (fun x y _ => sim_afterLoop _ sp _ .normal x y) x y trivial

mutual

/-- A statement means the same before and after its calls are replaced. -/
theorem stmt_keeps (H : Host) (package : String) (env : Env) (pending : List NamedJump)
    (label : Option String) : ∀ s : Stmt Empty,
      (∀ i ∈ s.gather package calls env, Fits i) →
      (coupling H).Keeps link ((labelled H package).stmt env label s)
        ((tracked H).stmt pending label (s.expand package env))
  | .simple sp s, h => by
    refine keeps_simple_expand fun i hi => h i ?_
    simpa [Stmt.gather] using hi
  | .hole _ h, _ => nomatch h
  | .branch sp t b o, h => by
    simp only [Stmt.gather, List.mem_append] at h
    have hb := block_keeps H package env pending none b fun i hi => h i (.inr (.inl hi))
    have ho := block_keeps H package env pending none o fun i hi => h i (.inr (.inr hi))
    exact hb.choose ho
  | .loop sp hd b o, h => by
    simp only [Stmt.gather, List.mem_append] at h
    exact keeps_loop
      (block_keeps H package env (leaving label pending) none b fun i hi => h i (.inr (.inl hi)))
      (block_keeps H package env pending none o fun i hi => h i (.inr (.inr hi)))
  | .function sp hd b, h => by
    simp only [Stmt.gather, List.mem_append] at h
    have hb := block_keeps H package (env.enterFunction package hd b) [] none b
      fun i hi => h i (.inr hi)
    exact Keeps.defining hd ((hb () [] trivial).imp fun _ _ _ _ hpost _ => hpost.2.2)
  | .klass sp hd b, h => by
    simp only [Stmt.gather, List.mem_append] at h
    have hb := block_keeps H package (env.enterClass package b) [] none b
      fun i hi => h i (.inr hi)
    exact Keeps.inClass hd ((hb () [] trivial).imp fun _ _ _ _ hpost _ => hpost.2.2)
  | .withItems sp a is b, h => by
    simp only [Stmt.gather, List.mem_append] at h
    exact (block_keeps H package env pending none b fun i hi => h i (.inr hi)).underManagers a is
  | .attempt sp star b hs o f, h => by
    simp only [Stmt.gather, List.mem_append] at h
    have hb := block_keeps H package env pending none b
      fun i hi => h i (.inr (.inl (.inl (.inl hi))))
    have hh := handlers_keep H package env pending hs
      fun i hi => h i (.inr (.inl (.inl (.inr hi))))
    have ho := block_keeps H package env pending none o fun i hi => h i (.inr (.inl (.inr hi)))
    refine (hb.withHandlers star hh ho).withFinal fun sig sig' x hag => ?_
    exact block_keeps H package env _ none f fun i hi => h i (.inr (.inr hi))
  | .select sp e cs, h => by
    simp only [Stmt.gather, List.mem_append] at h
    have hc := cases_keep H package env pending cs fun i hi => h i (.inr hi)
    exact Keeps.orRaise_act fun v => Keeps.select v hc

/-- **A block means the same before and after its calls are replaced.** -/
theorem block_keeps (H : Host) (package : String) (env : Env) (pending : List NamedJump)
    (label : Option String) : ∀ b : List (Stmt Empty),
      (∀ i ∈ Stmt.gatherAll package calls env b, Fits i) →
      (coupling H).Keeps link ((labelled H package).block env label b)
        ((tracked H).block pending label (Stmt.expandAll package env b))
  | [], _ => keeps_pure fun _ => .normal
  | s :: rest, h => by
    simp only [Stmt.gatherAll, List.mem_append] at h
    have hs := stmt_keeps H package env pending label s fun i hi => h i (.inl hi)
    have hrest := block_keeps H package env pending
      ((s.invocation? env).bind Invocation.label?) rest fun i hi => h i (.inr hi)
    have hlabel := label_expand package (s := s) fun i hi =>
      h i (.inl (Stmt.gather.eq_def package calls env s ▸ List.mem_append_left _ hi))
    refine hs.andNext ?_
    show (coupling H).Keeps link _
      ((tracked H).block pending (Layer.labelFrom (some (s.expand package env))) _)
    rw [hlabel]
    exact hrest

theorem handlers_keep (H : Host) (package : String) (env : Env) (pending : List NamedJump) :
    ∀ hs : List (Handler Empty), (∀ i ∈ Handler.gatherAll package calls env hs, Fits i) →
      List.Forall₂ (CatchRel (coupling H) link) ((labelled H package).handlers env hs)
        ((tracked H).handlers pending (Handler.expandAll package env hs))
  | [], _ => .nil
  | .mk p t n b :: hs, h => by
    simp only [Handler.gatherAll, List.mem_append] at h
    exact .cons ⟨rfl, rfl, block_keeps H package env pending none b fun i hi => h i (.inl hi)⟩
      (handlers_keep H package env pending hs fun i hi => h i (.inr hi))

theorem cases_keep (H : Host) (package : String) (env : Env) (pending : List NamedJump) :
    ∀ cs : List (Case Empty), (∀ i ∈ Case.gatherAll package calls env cs, Fits i) →
      List.Forall₂ (ChoiceRel (coupling H) link) ((labelled H package).cases env cs)
        ((tracked H).cases pending (Case.expandAll package env cs))
  | [], _ => .nil
  | .mk p g b :: cs, h => by
    simp only [Case.gatherAll, List.mem_append] at h
    exact .cons ⟨rfl, rfl, block_keeps H package env pending none b fun i hi => h i (.inl hi)⟩
      (cases_keep H package env pending cs fun i hi => h i (.inr hi))

end

end SourceMeaning

end JumpMacros
