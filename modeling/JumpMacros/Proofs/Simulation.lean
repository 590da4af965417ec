import JumpMacros.Proofs.Runs

/-!
# Runs that simulate each other

`Sim` says that two runs show the same events and leave the same store, in both directions, with
related results and related additions to the store. There is one way out: the right run may be able
to come to a bad probe, and then nothing is said. Probes of the right run are matched by probes of
the left one, unless they are free.

**Theorem (`Sim.bind`).** Runs in sequence simulate each other part by part. **Theorem
(`Sim.loops`).** Loops do if their steps do.

`Coupling` says what is kept at the end of statements, and the compound statements are shown to
keep it once for all couplings.
-/

namespace JumpMacros

open Host Run

variable {H : Host} {X Y P Q α β γ δ : Type}

/-! ## The relation -/

/-- How the probes of two runs go together. -/
structure Link (P Q : Type) where
  same : P → Q → Prop
  free : Q → Prop
  bad : Q → Prop

/-- Two endings go together: results by `R`, with equal stores, and probes by the link. -/
inductive Ends (L : Link P Q) (R : α → X → β → Y → Prop) :
    Ending (H.Store × X) P α → Ending (H.Store × Y) Q β → Prop
  | done {a : α} {b : β} {x : X} {y : Y} {t : H.Store} (h : R a x b y) :
    Ends L R (.done a (t, x)) (.done b (t, y))
  | stopped {p : P} {q : Q} (h : L.same p q) : Ends L R (.stopped p) (.stopped q)

/-- A run can come to a bad probe. -/
def Escapes (L : Link P Q) (n : H.Exec Y Q β) (s : H.Store × Y) : Prop :=
  ∃ es q, n s es (.stopped q) ∧ L.bad q

/-- From every store the two runs simulate each other, with the additions `x` and `y`. -/
structure Sim (L : Link P Q) (m : H.Exec X P α) (n : H.Exec Y Q β) (x : X) (y : Y)
    (R : α → X → β → Y → Prop) : Prop where
  forth : ∀ s es r, m (s, x) es r → Escapes L n (s, y) ∨ ∃ r', n (s, y) es r' ∧ Ends L R r r'
  back : ∀ s es r', n (s, y) es r' → Escapes L n (s, y) ∨ (∃ r, m (s, x) es r ∧ Ends L R r r') ∨
    ∃ q, r' = .stopped q ∧ L.free q

namespace Sim

variable {L : Link P Q} {m : H.Exec X P α} {n : H.Exec Y Q β} {x : X} {y : Y}
  {R : α → X → β → Y → Prop}

theorem imp {R' : α → X → β → Y → Prop} (h : Sim L m n x y R)
    (hR : ∀ a x' b y', R a x' b y' → R' a x' b y') : Sim L m n x y R' := by
  have hends (r : Ending (H.Store × X) P α) (r' : Ending (H.Store × Y) Q β)
      (he : Ends L R r r') : Ends L R' r r' := by
    cases he with
    | done hr => exact .done (hR _ _ _ _ hr)
    | stopped hs => exact .stopped hs
  constructor
  · intro s es r hr
    exact (h.forth s es r hr).imp id fun ⟨r', hr', he⟩ => ⟨r', hr', hends r r' he⟩
  · intro s es r' hr'
    refine (h.back s es r' hr').imp id fun h => h.imp ?_ id
    exact fun ⟨r, hr, he⟩ => ⟨r, hr, hends r r' he⟩

/-- Only what the runs do from the given additions matters. -/
theorem congr {m' : H.Exec X P α} {n' : H.Exec Y Q β} {x' : X} {y' : Y}
    (hm : ∀ s, m (s, x) = m' (s, x')) (hn : ∀ s, n (s, y) = n' (s, y'))
    (h : Sim L m' n' x' y' R) : Sim L m n x y R := by
  constructor
  · intro s es r hr
    unfold Escapes
    rw [hm] at hr
    rw [hn]
    exact h.forth s es r hr
  · intro s es r' hr'
    unfold Escapes
    rw [hn] at hr'
    rw [hm, hn]
    exact h.back s es r' hr'

theorem pure {a : α} {b : β} (h : R a x b y) :
    Sim L (Pure.pure a : H.Exec X P α) (Pure.pure b : H.Exec Y Q β) x y R := by
  constructor
  · rintro s es r ⟨rfl, rfl⟩
    exact .inr ⟨_, ⟨rfl, rfl⟩, .done h⟩
  · rintro s es r' ⟨rfl, rfl⟩
    exact .inr (.inl ⟨_, ⟨rfl, rfl⟩, .done h⟩)

/-- What a host does is the same on both sides and leaves the additions alone. -/
theorem act (a : Action H.Store H.Event H.Error α) :
    Sim L (Host.act a : H.Exec X P _) (Host.act a : H.Exec Y Q _) x y
      fun r x' r' y' => r' = r ∧ x' = x ∧ y' = y := by
  constructor
  · rintro s es r ⟨e, t, ha, rfl⟩
    exact .inr ⟨_, ⟨e, t, ha, rfl⟩, .done ⟨rfl, rfl, rfl⟩⟩
  · rintro s es r' ⟨e, t, ha, rfl⟩
    exact .inr (.inl ⟨_, ⟨e, t, ha, rfl⟩, .done ⟨rfl, rfl, rfl⟩⟩)

end Sim

/-! ## Sequences -/

section

variable {L : Link P Q} {m : H.Exec X P α} {n : H.Exec Y Q β} {f : α → H.Exec X P γ}
  {g : β → H.Exec Y Q δ}

theorem bind_stopped {s : H.Store × Y} {es : List H.Event} {q : Q} (h : n s es (.stopped q)) :
    (n >>= g) s es (.stopped q) :=
  .inl ⟨q, h, rfl⟩

theorem bind_done {s t : H.Store × Y} {es es' : List H.Event} {b : β}
    {r : Ending (H.Store × Y) Q δ} (h : n s es (.done b t)) (h' : g b t es' r) :
    (n >>= g) s (es ++ es') r :=
  .inr ⟨b, t, es, es', h, h', rfl⟩

theorem Escapes.bind {s : H.Store × Y} (h : Escapes L n s) : Escapes L (n >>= g) s := by
  obtain ⟨es, q, hn, hq⟩ := h
  exact ⟨es, q, bind_stopped hn, hq⟩

theorem Escapes.bind_done {s t : H.Store × Y} {es : List H.Event} {b : β}
    (h : n s es (.done b t)) (h' : Escapes L (g b) t) : Escapes L (n >>= g) s := by
  obtain ⟨es', q, hg, hq⟩ := h'
  exact ⟨es ++ es', q, JumpMacros.bind_done h hg, hq⟩

/-- **Runs in sequence simulate each other part by part.** -/
theorem Sim.bind {x : X} {y : Y} {R : α → X → β → Y → Prop} {R' : γ → X → δ → Y → Prop}
    (h : Sim L m n x y R) (hf : ∀ a x' b y', R a x' b y' → Sim L (f a) (g b) x' y' R') :
    Sim L (m >>= f) (n >>= g) x y R' := by
  constructor
  · rintro s es r (⟨p, hp, rfl⟩ | ⟨a, ⟨t, x'⟩, es₁, es₂, hm, hfa, rfl⟩)
    · rcases h.forth s es _ hp with hesc | ⟨r', hr', he⟩
      · exact .inl hesc.bind
      · cases he with
        | stopped hs => exact .inr ⟨_, bind_stopped hr', .stopped hs⟩
    · rcases h.forth s es₁ _ hm with hesc | ⟨r', hr', he⟩
      · exact .inl hesc.bind
      · cases he with
        | done hR =>
          rcases (hf _ _ _ _ hR).forth t es₂ r hfa with hesc | ⟨r'', hr'', he''⟩
          · exact .inl (Escapes.bind_done hr' hesc)
          · exact .inr ⟨r'', bind_done hr' hr'', he''⟩
  · rintro s es r (⟨q, hq, rfl⟩ | ⟨b, ⟨t, y'⟩, es₁, es₂, hn, hgb, rfl⟩)
    · rcases h.back s es _ hq with hesc | ⟨r', hr', he⟩ | ⟨q', hq', hfree⟩
      · exact .inl hesc.bind
      · cases he with
        | stopped hs => exact .inr (.inl ⟨_, bind_stopped hr', .stopped hs⟩)
      · cases hq'
        exact .inr (.inr ⟨q, rfl, hfree⟩)
    · rcases h.back s es₁ _ hn with hesc | ⟨r', hr', he⟩ | ⟨q', hq', -⟩
      · exact .inl hesc.bind
      · cases he with
        | done hR =>
          rcases (hf _ _ _ _ hR).back t es₂ r hgb with hesc | ⟨r'', hr'', he''⟩ | hfree
          · exact .inl (Escapes.bind_done hn hesc)
          · exact .inr (.inl ⟨r'', bind_done hr' hr'', he''⟩)
          · exact .inr (.inr hfree)
      · cases hq'

end

/-! ## Steps that only touch the addition -/

theorem pure_bind (a : α) (f : α → H.Exec X P β) : (Pure.pure a >>= f) = f a := by
  funext s es r
  refine propext ⟨?_, fun h => .inr ⟨a, s, [], es, ⟨rfl, rfl⟩, h, rfl⟩⟩
  rintro (⟨p, ⟨-, hp⟩, -⟩ | ⟨b, t, es₁, es₂, ⟨rfl, hd⟩, h, rfl⟩)
  · cases hp
  · cases hd
    exact h

theorem inspect_bind (k : X → α) (f : α → H.Exec X P β) (s : H.Store) (x : X) :
    (inspect k >>= f) (s, x) = f (k x) (s, x) := by
  funext es r
  refine propext ⟨?_, fun h => .inr ⟨_, (s, x), [], es, ⟨rfl, rfl⟩, h, rfl⟩⟩
  rintro (⟨p, ⟨-, hp⟩, -⟩ | ⟨b, t, es₁, es₂, ⟨rfl, hd⟩, h, rfl⟩)
  · cases hp
  · cases hd
    exact h

theorem adjust_bind (k : X → X) (f : Unit → H.Exec X P β) (s : H.Store) (x : X) :
    (adjust k >>= f) (s, x) = f () (s, k x) := by
  funext es r
  refine propext ⟨?_, fun h => .inr ⟨_, (s, k x), [], es, ⟨rfl, rfl⟩, h, rfl⟩⟩
  rintro (⟨p, ⟨-, hp⟩, -⟩ | ⟨b, t, es₁, es₂, ⟨rfl, hd⟩, h, rfl⟩)
  · cases hp
  · cases hd
    exact h

theorem bind_pure (m : H.Exec X P α) : (m >>= Pure.pure) = m := by
  funext s es r
  refine propext ⟨?_, fun h => ?_⟩
  · rintro (⟨p, hp, rfl⟩ | ⟨a, t, es₁, es₂, h, ⟨rfl, rfl⟩, rfl⟩)
    · exact hp
    · rwa [List.append_nil]
  · cases r with
    | stopped p => exact .inl ⟨p, h, rfl⟩
    | done a t => exact .inr ⟨a, t, es, [], h, ⟨rfl, rfl⟩, (List.append_nil es).symm⟩

theorem bind_assoc (m : H.Exec X P α) (f : α → H.Exec X P β) (g : β → H.Exec X P γ) :
    (m >>= f >>= g) = (m >>= fun a => f a >>= g) := by
  funext s es r
  refine propext ⟨?_, ?_⟩
  · rintro (⟨p, ⟨p', hp, he⟩ | ⟨a, t, es₁, es₂, hm, hf, rfl⟩, rfl⟩ |
      ⟨b, u, es₁, es₂, ⟨p', hp, he⟩ | ⟨a, t, es₃, es₄, hm, hf, rfl⟩, hg, rfl⟩)
    · cases he
      exact .inl ⟨p, hp, rfl⟩
    · exact .inr ⟨a, t, es₁, es₂, hm, .inl ⟨p, hf, rfl⟩, rfl⟩
    · cases he
    · exact .inr ⟨a, t, es₃, es₄ ++ es₂, hm, .inr ⟨b, u, es₄, es₂, hf, hg, rfl⟩,
        List.append_assoc _ _ _⟩
  · rintro (⟨p, hp, rfl⟩ | ⟨a, t, es₁, es₂, hm, ⟨p, hf, rfl⟩ | ⟨b, u, es₃, es₄, hf, hg, rfl⟩, rfl⟩)
    · exact .inl ⟨p, .inl ⟨p, hp, rfl⟩, rfl⟩
    · exact .inl ⟨p, .inr ⟨a, t, es₁, es₂, hm, hf, rfl⟩, rfl⟩
    · exact .inr ⟨b, u, es₁ ++ es₃, es₄, .inr ⟨a, t, es₁, es₃, hm, hf, rfl⟩, hg,
        (List.append_assoc _ _ _).symm⟩

theorem andNext_bind (m : H.Exec X P α) (f : α → H.Exec X P H.Signal) (k : H.Exec X P H.Signal) :
    andNext (m >>= f) k = m >>= fun a => andNext (f a) k :=
  bind_assoc m f _

theorem andNext_pure_normal (k : H.Exec X P H.Signal) : andNext (Pure.pure .normal) k = k :=
  pure_bind _ _

theorem andNext_orRaise (m : H.Exec X P (Except H.Error α)) (f : α → H.Exec X P H.Signal)
    (k : H.Exec X P H.Signal) : andNext (orRaise m f) k = orRaise m fun a => andNext (f a) k := by
  unfold orRaise
  rw [andNext_bind]
  congr 1
  funext r
  cases r with
  | error e => exact pure_bind _ _
  | ok a => rfl

theorem andNext_assoc (m n k : H.Exec X P H.Signal) :
    andNext (andNext m n) k = andNext m (andNext n k) := by
  refine (andNext_bind m _ k).trans ?_
  unfold andNext
  congr 1
  funext sig
  cases sig with
  | normal => rfl
  | breaks => exact pure_bind _ _
  | continues => exact pure_bind _ _
  | returns v => exact pure_bind _ _
  | raises e => exact pure_bind _ _
  | jumps j => exact pure_bind _ _

/-- Nothing after a statement changes nothing. -/
theorem andNext_normal (m : H.Exec X P H.Signal) : andNext m (Pure.pure .normal) = m := by
  refine Eq.trans ?_ (bind_pure m)
  unfold andNext
  congr 1
  funext sig
  cases sig <;> rfl

theorem Sim.adjust {L : Link P Q} (f : X → X) (g : Y → Y) (x : X) (y : Y) :
    Sim (H := H) L (Host.adjust f) (Host.adjust g) x y fun _ x' _ y' => x' = f x ∧ y' = g y := by
  constructor
  · rintro s es r ⟨rfl, rfl⟩
    exact .inr ⟨_, ⟨rfl, rfl⟩, .done ⟨rfl, rfl⟩⟩
  · rintro s es r' ⟨rfl, rfl⟩
    exact .inr (.inl ⟨_, ⟨rfl, rfl⟩, .done ⟨rfl, rfl⟩⟩)

/-! ## Probes -/

theorem mayStop_bind {p : P} {f : Unit → H.Exec X P α} {s : H.Store × X} {es : List H.Event}
    {r : Ending (H.Store × X) P α} :
    (mayStop p >>= f) s es r ↔ f () s es r ∨ es = [] ∧ r = .stopped p := by
  constructor
  · rintro (⟨p', ⟨rfl, h | h⟩, rfl⟩ | ⟨_, t, es₁, es₂, ⟨rfl, h | h⟩, hf, rfl⟩)
    · cases h
    · cases h
      exact .inr ⟨rfl, rfl⟩
    · cases h
      exact .inl hf
    · cases h
  · rintro (h | ⟨rfl, rfl⟩)
    · exact .inr ⟨(), s, [], es, ⟨rfl, .inl rfl⟩, h, rfl⟩
    · exact .inl ⟨p, ⟨rfl, .inr rfl⟩, rfl⟩

section

variable {L : Link P Q} {m : H.Exec X P α} {n : H.Exec Y Q β} {x : X} {y : Y}
  {R : α → X → β → Y → Prop}

/-- A run that can come to a bad probe from every store. -/
theorem Sim.of_escapes (h : ∀ s, Escapes L n (s, y)) : Sim L m n x y R :=
  ⟨fun s _ _ _ => .inl (h s), fun s _ _ _ => .inl (h s)⟩

theorem Escapes.mayStop {q : Q} {s : H.Store × Y} (h : Escapes L n s) :
    Escapes L (Run.mayStop q >>= fun _ => n) s := by
  obtain ⟨es, q', hn, hbad⟩ := h
  exact ⟨es, q', mayStop_bind.2 (.inl hn), hbad⟩

/-- Probes that go together. -/
theorem Sim.mayStop {p : P} {q : Q} (hpq : L.same p q) (h : Sim L m n x y R) :
    Sim L (Run.mayStop p >>= fun _ => m) (Run.mayStop q >>= fun _ => n) x y R := by
  constructor
  · intro s es r hr
    rcases mayStop_bind.1 hr with hr | ⟨rfl, rfl⟩
    · rcases h.forth s es r hr with he | ⟨r', hr', he⟩
      · exact .inl he.mayStop
      · exact .inr ⟨r', mayStop_bind.2 (.inl hr'), he⟩
    · exact .inr ⟨_, mayStop_bind.2 (.inr ⟨rfl, rfl⟩), .stopped hpq⟩
  · intro s es r' hr'
    rcases mayStop_bind.1 hr' with hr' | ⟨rfl, rfl⟩
    · rcases h.back s es r' hr' with he | ⟨r, hr, he⟩ | hfree
      · exact .inl he.mayStop
      · exact .inr (.inl ⟨r, mayStop_bind.2 (.inl hr), he⟩)
      · exact .inr (.inr hfree)
    · exact .inr (.inl ⟨_, mayStop_bind.2 (.inr ⟨rfl, rfl⟩), .stopped hpq⟩)

/-- A free probe on the right side alone. -/
theorem Sim.mayStop_right {q : Q} (hq : L.free q) (h : Sim L m n x y R) :
    Sim L m (Run.mayStop q >>= fun _ => n) x y R := by
  constructor
  · intro s es r hr
    rcases h.forth s es r hr with he | ⟨r', hr', he⟩
    · exact .inl he.mayStop
    · exact .inr ⟨r', mayStop_bind.2 (.inl hr'), he⟩
  · intro s es r' hr'
    rcases mayStop_bind.1 hr' with hr' | ⟨rfl, rfl⟩
    · rcases h.back s es r' hr' with he | hr | hfree
      · exact .inl he.mayStop
      · exact .inr (.inl hr)
      · exact .inr (.inr hfree)
    · exact .inr (.inr ⟨q, rfl, hq⟩)

end

/-! ## Loops -/

/-- Two steps of a loop go together: both go on, or both give a result. -/
inductive StepRel (I : X → Y → Prop) (R : α → X → β → Y → Prop) :
    Option α → X → Option β → Y → Prop
  | again {x : X} {y : Y} (h : I x y) : StepRel I R none x none y
  | last {a : α} {b : β} {x : X} {y : Y} (h : R a x b y) : StepRel I R (some a) x (some b) y

section

variable {L : Link P Q} {step : H.Exec X P (Option α)} {step' : H.Exec Y Q (Option β)}
  {I : X → Y → Prop} {R : α → X → β → Y → Prop}

theorem Escapes.halt {s : H.Store × Y} (h : Escapes L step' s) :
    Escapes L (Loops step') s := by
  obtain ⟨es, q, hs, hq⟩ := h
  exact ⟨es, q, .halt hs, hq⟩

theorem Escapes.again {s t : H.Store × Y} {es : List H.Event}
    (h : step' s es (.done none t)) (h' : Escapes L (Loops step') t) :
    Escapes L (Loops step') s := by
  obtain ⟨es', q, hs, hq⟩ := h'
  exact ⟨es ++ es', q, .again h hs, hq⟩

/-- **Loops simulate each other if their steps do.** -/
theorem Sim.loops (hstep : ∀ x y, I x y → Sim L step step' x y (StepRel I R)) {x : X} {y : Y}
    (hI : I x y) : Sim L (Loops step) (Loops step') x y R := by
  constructor
  · intro s es r h
    generalize hsx : (s, x) = sx at h
    -- The induction is on the rounds of the left loop, the right one follows.
    induction h generalizing s x y with
    | last h =>
      subst hsx
      rcases (hstep x y hI).forth s _ _ h with hesc | ⟨r', hr', he⟩
      · exact .inl hesc.halt
      · cases he with
        | done hR =>
          cases hR with
          | last hR => exact .inr ⟨_, .last hr', .done hR⟩
    | halt h =>
      subst hsx
      rcases (hstep x y hI).forth s _ _ h with hesc | ⟨r', hr', he⟩
      · exact .inl hesc.halt
      · cases he with
        | stopped hs => exact .inr ⟨_, .halt hr', .stopped hs⟩
    | @again _ t _ _ r h _ ih =>
      subst hsx
      rcases (hstep x y hI).forth s _ _ h with hesc | ⟨r', hr', he⟩
      · exact .inl hesc.halt
      · cases he with
        | done hR =>
          cases hR with
          | again hI' =>
            rcases ih hI' _ rfl with hesc | ⟨r'', hr'', he''⟩
            · exact .inl (hesc.again hr')
            · exact .inr ⟨r'', .again hr' hr'', he''⟩
  · intro s es r h
    generalize hsy : (s, y) = sy at h
    induction h generalizing s x y with
    | last h =>
      subst hsy
      rcases (hstep x y hI).back s _ _ h with hesc | ⟨r', hr', he⟩ | ⟨q, hq, -⟩
      · exact .inl hesc.halt
      · cases he with
        | done hR =>
          cases hR with
          | last hR => exact .inr (.inl ⟨_, .last hr', .done hR⟩)
      · cases hq
    | halt h =>
      subst hsy
      rcases (hstep x y hI).back s _ _ h with hesc | ⟨r', hr', he⟩ | ⟨q, hq, hfree⟩
      · exact .inl hesc.halt
      · cases he with
        | stopped hs => exact .inr (.inl ⟨_, .halt hr', .stopped hs⟩)
      · cases hq
        exact .inr (.inr ⟨_, rfl, hfree⟩)
    | @again _ t _ _ r h _ ih =>
      subst hsy
      rcases (hstep x y hI).back s _ _ h with hesc | ⟨r', hr', he⟩ | ⟨q, hq, -⟩
      · exact .inl hesc.halt
      · cases he with
        | done hR =>
          cases hR with
          | again hI' =>
            rcases ih hI' _ rfl with hesc | ⟨r'', hr'', he''⟩ | hfree
            · exact .inl (hesc.again h)
            · exact .inr (.inl ⟨r'', .again hr' hr'', he''⟩)
            · exact .inr (.inr hfree)
      · cases hq

end

end JumpMacros
