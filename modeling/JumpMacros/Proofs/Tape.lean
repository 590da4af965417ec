import JumpMacros.Proofs.Interception

/-!
# Runs that can be computed

`Run.Traces` says all there is about a run that has one way to go: where it can be stopped, and how
it ends. Traces are put together as runs are (`Traces.bind`, `Traces.again`), so that the runs of
a given tree can be computed step by step.

`tape` is a host for such runs. It reads the answer to every question, whether a test holds or an
iterator has another item, from a tape, and shows the simple statements that it executes.
-/

namespace JumpMacros

open Host Run

namespace Run

variable {State Event Probe α β : Type}

/-- From a state a run can be stopped at `stops` and otherwise ends in one way. -/
def Traces (m : Run State Event Probe α) (s : State) (stops : List (List Event × Probe))
    (es : List Event) (a : α) (t : State) : Prop :=
  ∀ es' r, m s es' r ↔ (es' = es ∧ r = .done a t) ∨ ∃ p, (es', p) ∈ stops ∧ r = .stopped p

/-- Stops after some events. -/
def later (es : List Event) (stops : List (List Event × Probe)) : List (List Event × Probe) :=
  stops.map fun p => (es ++ p.1, p.2)

@[simp] theorem later_nil (stops : List (List Event × Probe)) : later [] stops = stops := by
  simp [later]

@[simp] theorem later_nil_right (es : List Event) :
    later es ([] : List (List Event × Probe)) = [] := rfl

namespace Traces

variable {m : Run State Event Probe α} {s t u : State} {stops stops' : List (List Event × Probe)}
  {es es' : List Event} {a : α} {b : β}

theorem pure (a : α) (s : State) : Traces (Pure.pure a : Run State Event Probe α) s [] [] a s := by
  intro es r
  simp only [List.not_mem_nil, false_and, exists_false, or_false]
  rfl

theorem mayStop (p : Probe) (s : State) :
    Traces (Run.mayStop p : Run State Event Probe Unit) s [([], p)] [] () s := by
  intro es r
  constructor
  · rintro ⟨rfl, rfl | rfl⟩
    · exact .inl ⟨rfl, rfl⟩
    · exact .inr ⟨p, List.mem_cons_self, rfl⟩
  · rintro (⟨rfl, rfl⟩ | ⟨q, hq, rfl⟩)
    · exact ⟨rfl, .inl rfl⟩
    · obtain ⟨rfl, rfl⟩ := Prod.mk.inj (List.mem_singleton.1 hq)
      exact ⟨rfl, .inr rfl⟩

theorem look (f : State → α) (s : State) :
    Traces (Run.look f : Run State Event Probe α) s [] [] (f s) s := by
  intro es r
  simp only [List.not_mem_nil, false_and, exists_false, or_false]
  rfl

theorem update (f : State → State) (s : State) :
    Traces (Run.update f : Run State Event Probe Unit) s [] [] () (f s) := by
  intro es r
  simp only [List.not_mem_nil, false_and, exists_false, or_false]
  rfl

theorem bind {f : α → Run State Event Probe β} (hm : Traces m s stops es a t)
    (hf : Traces (f a) t stops' es' b u) :
    Traces (m >>= f) s (stops ++ later es stops') (es ++ es') b u := by
  intro es₀ r
  constructor
  · rintro (⟨p, hp, rfl⟩ | ⟨a', t', es₁, es₂, h₁, h₂, rfl⟩)
    · rcases (hm _ _).1 hp with ⟨-, hr⟩ | ⟨q, hq, hr⟩
      · cases hr
      · cases hr
        exact .inr ⟨p, List.mem_append_left _ hq, rfl⟩
    · rcases (hm _ _).1 h₁ with ⟨rfl, hr⟩ | ⟨q, -, hr⟩
      · cases hr
        rcases (hf _ _).1 h₂ with ⟨rfl, rfl⟩ | ⟨q, hq, rfl⟩
        · exact .inl ⟨rfl, rfl⟩
        · exact .inr ⟨q, List.mem_append_right _ (List.mem_map.2 ⟨_, hq, rfl⟩), rfl⟩
      · cases hr
  · rintro (⟨rfl, rfl⟩ | ⟨p, hp, rfl⟩)
    · exact .inr ⟨a, t, es, es', (hm _ _).2 (.inl ⟨rfl, rfl⟩), (hf _ _).2 (.inl ⟨rfl, rfl⟩), rfl⟩
    · rcases List.mem_append.1 hp with hp | hp
      · exact .inl ⟨p, (hm _ _).2 (.inr ⟨p, hp, rfl⟩), rfl⟩
      · obtain ⟨⟨es₂, q⟩, hq, heq⟩ := List.mem_map.1 hp
        obtain ⟨rfl, rfl⟩ := Prod.mk.inj heq
        exact .inr ⟨a, t, es, es₂, (hm _ _).2 (.inl ⟨rfl, rfl⟩),
          (hf _ _).2 (.inr ⟨q, hq, rfl⟩), rfl⟩

/-- A run after one that shows nothing. -/
theorem after {f : α → Run State Event Probe β} (hm : Traces m s [] [] a t)
    (hf : Traces (f a) t stops es b u) : Traces (m >>= f) s stops es b u := by
  have h := bind hm hf
  rwa [later_nil, List.nil_append, List.nil_append] at h

/-- A run that shows nothing, after one. -/
theorem finish {f : α → Run State Event Probe β} (hm : Traces m s stops es a t)
    (hf : Traces (f a) t [] [] b u) : Traces (m >>= f) s stops es b u := by
  have h := bind hm hf
  rwa [later_nil_right, List.append_nil, List.append_nil] at h

theorem map (g : α → β) (hm : Traces m s stops es a t) :
    Traces (m >>= fun a => Pure.pure (g a)) s stops es (g a) t :=
  finish hm (pure (g a) t)

/-- A loop whose step gives a result. -/
theorem last {step : Run State Event Probe (Option α)} (h : Traces step s stops es (some a) t) :
    Traces (Loops step) s stops es a t := by
  intro es₀ r
  constructor
  · intro hr
    cases hr with
    | last h' =>
      rcases (h _ _).1 h' with ⟨rfl, hr⟩ | ⟨q, -, hr⟩
      · cases hr
        exact .inl ⟨rfl, rfl⟩
      · cases hr
    | halt h' =>
      rcases (h _ _).1 h' with ⟨-, hr⟩ | ⟨q, hq, hr⟩
      · cases hr
      · cases hr
        exact .inr ⟨_, hq, rfl⟩
    | again h' _ =>
      rcases (h _ _).1 h' with ⟨-, hr⟩ | ⟨q, -, hr⟩ <;> cases hr
  · rintro (⟨rfl, rfl⟩ | ⟨p, hp, rfl⟩)
    · exact .last ((h _ _).2 (.inl ⟨rfl, rfl⟩))
    · exact .halt ((h _ _).2 (.inr ⟨p, hp, rfl⟩))

/-- A loop whose step gives none goes on. -/
theorem again {step : Run State Event Probe (Option α)} (h : Traces step s stops es none t)
    (hrest : Traces (Loops step) t stops' es' a u) :
    Traces (Loops step) s (stops ++ later es stops') (es ++ es') a u := by
  intro es₀ r
  constructor
  · intro hr
    cases hr with
    | last h' =>
      rcases (h _ _).1 h' with ⟨-, hr⟩ | ⟨q, -, hr⟩ <;> cases hr
    | halt h' =>
      rcases (h _ _).1 h' with ⟨-, hr⟩ | ⟨q, hq, hr⟩
      · cases hr
      · cases hr
        exact .inr ⟨_, List.mem_append_left _ hq, rfl⟩
    | again h' rest =>
      rcases (h _ _).1 h' with ⟨rfl, hr⟩ | ⟨q, -, hr⟩
      · cases hr
        rcases (hrest _ _).1 rest with ⟨rfl, rfl⟩ | ⟨q, hq, rfl⟩
        · exact .inl ⟨rfl, rfl⟩
        · exact .inr ⟨q, List.mem_append_right _ (List.mem_map.2 ⟨_, hq, rfl⟩), rfl⟩
      · cases hr
  · rintro (⟨rfl, rfl⟩ | ⟨p, hp, rfl⟩)
    · exact .again ((h _ _).2 (.inl ⟨rfl, rfl⟩)) ((hrest _ _).2 (.inl ⟨rfl, rfl⟩))
    · rcases List.mem_append.1 hp with hp | hp
      · exact .halt ((h _ _).2 (.inr ⟨p, hp, rfl⟩))
      · obtain ⟨⟨es₂, q⟩, hq, heq⟩ := List.mem_map.1 hp
        obtain ⟨rfl, rfl⟩ := Prod.mk.inj heq
        exact .again ((h _ _).2 (.inl ⟨rfl, rfl⟩)) ((hrest _ _).2 (.inr ⟨q, hq, rfl⟩))

end Traces

end Run

/-! ## A host with a tape -/

namespace Tape

/-- Nothing is done. -/
def quiet {α : Type} (a : α) : Action (List Bool) Simple String α := fun s es x t =>
  es = [] ∧ x = .ok a ∧ t = s

/-- The next answer on the tape. -/
def answer : Action (List Bool) Simple String Bool := fun s es x t =>
  es = [] ∧ ∃ b, s = b :: t ∧ x = .ok b

end Tape

open Tape in
/-- The host that reads its answers from a tape. -/
def tape : Host where
  Store := List Bool
  Event := Simple
  Value := Unit
  Error := String
  Cursor := Unit
  Manager := Unit
  nothing := ()
  unbound x := x
  exec s := fun t es x t' => es = [s] ∧ x = .ok () ∧ t' = t
  eval _ := quiet ()
  test _ := answer
  iterate _ _ := quiet ()
  advance _ _ _ := answer
  enter _ _ := quiet ()
  assign _ _ := quiet ()
  leave _ _ _ := quiet false
  handles _ _ := answer
  split _ e := quiet (some e, none)
  regroup _ _ rest := quiet rest
  hold _ _ := quiet ()
  release _ := quiet ()
  accepts _ _ := answer
  define _ _ := quiet ()
  openClass _ := quiet ()
  closeClass _ _ := quiet ()

namespace Tape

theorem releasesQuietly : tape.ReleasesQuietly := by
  rintro name s es x t ⟨-, rfl, -⟩
  exact ⟨(), rfl⟩

variable {X P α : Type}

/-- What the host does in one way only. -/
theorem act_traces {a : Action (List Bool) Simple String α} {s t : List Bool} {es : List Simple}
    {r : Except String α} (h : ∀ es' r' t', a s es' r' t' ↔ es' = es ∧ r' = r ∧ t' = t) (x : X) :
    Traces (act a : tape.Exec X P _) (s, x) [] es r (t, x) := by
  intro es' r'
  simp only [List.not_mem_nil, false_and, exists_false, or_false]
  constructor
  · rintro ⟨r'', t', ha, rfl⟩
    obtain ⟨rfl, rfl, rfl⟩ := (h _ _ _).1 ha
    exact ⟨rfl, rfl⟩
  · rintro ⟨rfl, rfl⟩
    exact ⟨r, t, (h _ _ _).2 ⟨rfl, rfl, rfl⟩, rfl⟩

theorem answer_traces (b : Bool) (s : List Bool) (x : X) :
    Traces (act answer : tape.Exec X P _) (b :: s, x) [] [] (.ok b) (s, x) := by
  refine act_traces (fun es r t => ?_) x
  constructor
  · rintro ⟨rfl, b', heq, rfl⟩
    obtain ⟨rfl, rfl⟩ := List.cons.inj heq
    exact ⟨rfl, rfl, rfl⟩
  · rintro ⟨rfl, rfl, rfl⟩
    exact ⟨rfl, b, rfl, rfl⟩

/-- A statement that is executed is shown. -/
theorem exec_traces (s : Simple) (t : List Bool) (x : X) :
    Traces (act (tape.exec s) : tape.Exec X P _) (t, x) [] [s] (.ok ()) (t, x) :=
  act_traces (fun _ _ _ => Iff.rfl) x

theorem begin_traces (isAsync : Bool) (target e : Expr) (s : List Bool) (x : X) :
    Traces (act (begin (.over isAsync target e)) : tape.Exec X P _) (s, x) [] []
      (.ok (some ())) (s, x) := by
  refine act_traces (fun es r t => ?_) x
  constructor
  · rintro ⟨_, ⟨rfl, rfl, rfl⟩, rfl⟩
    exact ⟨rfl, rfl, rfl⟩
  · rintro ⟨rfl, rfl, rfl⟩
    exact ⟨_, ⟨rfl, rfl, rfl⟩, rfl⟩

/-! ## Sequences and loops -/

section

variable {m m' : tape.Exec X P tape.Signal} {s t u : List Bool × X}
  {stops stops' stops₀ : List (List Simple × P)} {es es' es₀ : List Simple} {sig : tape.Signal}

theorem next_traces (h : Traces m s stops es .normal t) (h' : Traces m' t stops' es' sig u)
    (hstops : stops₀ = stops ++ later es stops') (hes : es₀ = es ++ es') :
    Traces (andNext m m') s stops₀ es₀ sig u := by
  subst hstops hes
  exact Traces.bind h h'

/-- What follows a statement that leaves is not run. -/
theorem leave_traces (h : Traces m s stops es sig t) (hsig : sig ≠ .normal) :
    Traces (andNext m m') s stops es sig t := by
  refine Traces.finish h ?_
  cases sig with
  | normal => exact absurd rfl hsig
  | _ => exact Traces.pure _ t

/-- A jump passes the handlers, and is overridden by a last part that leaves. -/
theorem override_traces {star : Bool} {cs : List (Catch tape X P)} {j : NamedJump}
    {last : tape.Signal → tape.Exec X P tape.Signal} (h : Traces m s [] [] (.jumps j) t)
    (hlast : Traces (last (.jumps j)) t stops es sig u) (hsig : sig ≠ .normal) :
    Traces (withFinal (withHandlers star m cs m') last) s stops es sig u := by
  have hh : Traces (withHandlers star m cs m') s [] [] (.jumps j) t :=
    Traces.finish h (Traces.pure _ t)
  refine Traces.after hh (Traces.finish hlast ?_)
  cases sig with
  | normal => exact absurd rfl hsig
  | _ => exact Traces.pure _ u

theorem test_traces {b : Bool} {s : List Bool} {x : X} {f : Bool → tape.Exec X P tape.Signal}
    (h : Traces (f b) (s, x) stops es sig t) :
    Traces (orRaise (act answer) f) (b :: s, x) stops es sig t :=
  Traces.after (answer_traces b s x) h

/-- What the rounds of a loop do, by what the first of them does. -/
def afterFirst (label : Option String) (body : tape.Exec X P tape.Signal) :
    Except String Bool → tape.Exec X P (Option (Option tape.Signal))
  | .error e => pure (some (some (.raises e)))
  | .ok false => pure (some none)
  | .ok true => do
    let sig ← body
    pure ((afterRound label sig).map some)

theorem rounds_eq (label : Option String) (body : tape.Exec X P tape.Signal) :
    rounds label answer body = Loops (act answer >>= afterFirst label body) := by
  unfold rounds
  congr 2
  funext r
  cases r with
  | error e => rfl
  | ok more => cases more <;> rfl

/-- A loop that the tape gives no more rounds. -/
theorem rounds_traces_end (label : Option String) (body : tape.Exec X P tape.Signal)
    (s : List Bool) (x : X) :
    Traces (rounds label answer body) (false :: s, x) [] [] none (s, x) := by
  rw [rounds_eq]
  exact Traces.last (Traces.after (answer_traces false s x) (Traces.pure (some none) (s, x)))

/-- What a round does, by the ending of its body. -/
theorem round_traces (label : Option String) {body : tape.Exec X P tape.Signal} {s : List Bool}
    {x : X} (hbody : Traces body (s, x) stops es sig t) :
    Traces (act answer >>= afterFirst label body : tape.Exec X P _) (true :: s, x) stops es
      ((afterRound label sig).map some) t := by
  refine Traces.after (f := afterFirst label body) (answer_traces true s x) ?_
  exact Traces.map (fun sig => (afterRound label sig).map some) hbody

/-- A round after which the loop goes on. -/
theorem rounds_traces_again (label : Option String) {body : tape.Exec X P tape.Signal}
    {s : List Bool} {x : X} {ending : Option tape.Signal}
    (hbody : Traces body (s, x) stops es sig t) (hsig : afterRound label sig = none)
    (hrest : Traces (rounds label answer body) t stops' es' ending u)
    (hstops : stops₀ = stops ++ later es stops') (hes : es₀ = es ++ es') :
    Traces (rounds label answer body) (true :: s, x) stops₀ es₀ ending u := by
  subst hstops hes
  have h := round_traces label hbody
  rw [rounds_eq] at hrest ⊢
  rw [hsig] at h
  exact Traces.again h hrest

/-- A round with which the loop ends. -/
theorem rounds_traces_last (label : Option String) {body : tape.Exec X P tape.Signal}
    {s : List Bool} {x : X} {ending : tape.Signal}
    (hbody : Traces body (s, x) stops es sig t) (hsig : afterRound label sig = some ending) :
    Traces (rounds label answer body) (true :: s, x) stops es (some ending) t := by
  have h := round_traces label hbody
  rw [rounds_eq]
  rw [hsig] at h
  exact Traces.last h

/-- A loop over items, by its rounds and by what comes after them. -/
theorem loop_traces {D : Dialect tape} {env : D.Env} {label : Option String} {sp : Span}
    {isAsync : Bool} {target e : Expr} {b o : List (Stmt D.Hole)} {s t : List Bool}
    {x y : D.Extra} {u : List Bool × D.Extra} {stops stops' stops₀ : List (List Simple × D.Probe)}
    {ending : Option tape.Signal}
    (hrounds : Traces (rounds label answer (D.round sp label >>= fun _ =>
      D.block (D.inLoop label env) none b)) (s, D.enterLoop label x) stops es ending (t, y))
    (hafter : Traces (match ending with
      | some sig => D.afterLoop env sp label b sig
      | none => andNext (D.block env none o) (D.afterLoop env sp label b .normal))
      (t, D.exitLoop y) stops' es' sig u)
    (hstops : stops₀ = stops ++ later es stops') (hes : es₀ = es ++ es') :
    Traces (D.stmt env label (.loop sp (.over isAsync target e) b o)) (s, x) stops₀ es₀ sig u := by
  subst hstops hes
  refine Traces.after (begin_traces isAsync target e s x) (Traces.after (Traces.update _ _)
    (Traces.bind hrounds (Traces.after (Traces.update _ _) ?_)))
  cases ending with
  | some sig => exact hafter
  | none => exact hafter

end

end Tape

end JumpMacros
