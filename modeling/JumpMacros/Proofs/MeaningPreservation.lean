import JumpMacros.Expand
import JumpMacros.Proofs.FlagMeaning
import JumpMacros.Proofs.LabelResolution
import JumpMacros.Proofs.SourceMeaning
import JumpMacros.Proofs.Tape

/-!
# Expansion and meaning

**Theorem (`expandModule_preserves_meaning`).** An expanded module runs as the tracked reading of
its tree says. From every store from which no overridden jump is taken up again after a loop, these
are the runs of the source in the labelled reading; and if no jump has to pass a place where it can
be overridden, there is no such store to be avoided.

**Theorem (`expandModule_flags_follow_jumps`).** A flag is found to be true exactly where its mark
is found. So flags belong to jumps that are on their way as far as marks do.

The labelled reading forgets a jump that is overridden, while its flag stays. With two nested loops
and a `continue` in the last part of a `try` statement the two readings differ, which is shown at
the end of each part.
-/

namespace JumpMacros

open Host Run

/-! ## What is known of an expanded module -/

/-- The names of the user in an expanded module. -/
def Module.userNames (s : Settings) (m : Module Empty) : List String := namesIn (m.expand s).body

/-- What a module has to be like if it can be expanded. -/
structure Expands (s : Settings) (file : Option String) (m : Module Empty) (e : Expanded) :
    Prop where
  fits : ∀ i ∈ invocations s.package (.ofTable (moduleTable s m)) m.body, SourceMeaning.Fits i
  faultless : ∀ site ∈ (m.expand s).sites, site.faults = []
  module_eq : e.module = ((m.expand s).lower s file).module

theorem fits_of_verdict {file : Option String} {i : Invocation}
    (hu : (i.verdict file).unknown? = none) (hd : (i.verdict file).diagnostic? = none) :
    SourceMeaning.Fits i := by
  unfold Invocation.verdict at hu hd
  cases hm : Macro.ofName? i.name with
  | none => simp [hm, Verdict.unknown?] at hu
  | some m =>
    cases hr : i.replacement m with
    | error p => simp [hm, hr, Verdict.diagnostic?] at hd
    | ok r => exact ⟨m, r, hm, hr⟩

theorem faultless_of_lower {s : Settings} {file : Option String} {m : Module Placeholder}
    (hu : (m.lower s file).unwritable = none) (hd : (m.lower s file).diagnostics = []) :
    ∀ site ∈ m.sites, site.faults = [] := by
  obtain ⟨hdiag, hunw⟩ := m.lower_reports s file
  have hmap := Module.map_diagnostic?_of_writable file (hunw.symm.trans hu)
  rw [← hdiag, hd] at hmap
  exact Module.labelFaults_eq_nil.1 (List.map_eq_nil_iff.1 hmap.symm)

/-- How an expansion that succeeds has come about. -/
structure Succeeds (s : Settings) (file : Option String) (m : Module Empty) (e : Expanded) :
    Prop where
  known : ∀ i ∈ invocations s.package (.ofTable (moduleTable s m)) m.body,
    (i.verdict file).unknown? = none
  accepted : ∀ i ∈ invocations s.package (.ofTable (moduleTable s m)) m.body,
    (i.verdict file).diagnostic? = none
  placed : misplacedCalls s.package (.ofTable (moduleTable s m)) m.body = []
  writable : ((m.expand s).lower s file).unwritable = none
  labelled : ((m.expand s).lower s file).diagnostics = []
  module_eq : e.module = ((m.expand s).lower s file).module
  written : e.module.written = .ok e.source

theorem succeeds_of_ok {s : Settings} {file : Option String} {m : Module Empty} {e : Expanded}
    (h : expandModule s file m = .ok e) : Succeeds s file m e := by
  unfold expandModule at h
  dsimp only at h
  split at h
  · cases h
  · rename_i hunknown
    split at h
    · cases h
    · rename_i hds
      simp only [Bool.not_eq_true, Bool.not_eq_false', List.isEmpty_iff] at hds
      obtain ⟨hverdicts, hmisplaced⟩ := List.append_eq_nil_iff.1 hds
      split at h
      · cases h
      · cases h
      · rename_i hunw hdiag
        split at h
        · cases h
        · rename_i htext
          obtain rfl := Except.ok.inj h
          exact ⟨List.findSome?_eq_none_iff.1 hunknown, List.filterMap_eq_nil_iff.1 hverdicts,
            List.map_eq_nil_iff.1 hmisplaced, hunw, hdiag, rfl, htext⟩

theorem Succeeds.expands {s : Settings} {file : Option String} {m : Module Empty} {e : Expanded}
    (h : Succeeds s file m e) : Expands s file m e :=
  ⟨fun i hi => fits_of_verdict (h.known i hi) (h.accepted i hi),
    faultless_of_lower h.writable h.labelled, h.module_eq⟩

theorem expands_of_ok {s : Settings} {file : Option String} {m : Module Empty} {e : Expanded}
    (h : expandModule s file m = .ok e) : Expands s file m e :=
  (succeeds_of_ok h).expands

/-! ## The two steps -/

variable {s : Settings} {file : Option String} {m : Module Empty} {e : Expanded} {H : Host}

/-- Whole modules in the tracked and in the plain reading. -/
theorem Expands.keeps_plain (h : Expands s file m e) (H : Host) :
    (FlagMeaning.coupling H [] (Stmt.blockJumps none (m.expand s).body)).Keeps
      (FlagMeaning.link (m.userNames s) s.flagPrefix)
      ((tracked H).block [] none (m.expand s).body)
      ((plain H (m.userNames s) s.flagPrefix).block () none e.module.body) :=
  h.module_eq ▸ FlagMeaning.block_keeps H (m.userNames s) s.flagPrefix [] none [] [] rfl (.nil _)
    (m.expand s).body _ (Node.namedIn_namesIn _) h.faultless ((m.expand s).lower_lowersTo s file)

/-- Whole modules in the labelled and in the tracked reading. -/
theorem Expands.keeps_tracked (h : Expands s file m e) (H : Host) :
    (SourceMeaning.coupling H).Keeps SourceMeaning.link
      ((labelled H s.package).block (.ofTable (moduleTable s m)) none m.body)
      ((tracked H).block [] none (m.expand s).body) :=
  SourceMeaning.block_keeps H s.package _ [] none m.body h.fits

/-- No loop is around a module, so it does not end with a jump. -/
theorem eq_of_post {js : List NamedJump} {ms ms' : List Mark} {φ : Flags} {sig sig' : H.Signal}
    (h : (FlagMeaning.coupling H [] js).Post ms sig ms' sig' φ) : sig' = sig := by
  obtain ⟨hI, -, hag⟩ := h
  cases hag with
  | normal => rfl
  | breaks => rfl
  | continues => rfl
  | returns v => rfl
  | raises e => rfl
  | jumps hj =>
    obtain rfl : ms' = [] := List.forall₂_nil_left_iff.1 hI
    cases hj.2.2

/-- An expanded module runs as the tracked reading says. -/
theorem Expands.tracked_iff_plain (h : Expands s file m e) {σ τ : H.Store} {es : List H.Event}
    {sig : H.Signal} :
    (tracked H).Runs [] (m.expand s).body σ es sig τ ↔
      (plain H (m.userNames s) s.flagPrefix).Runs () e.module.body σ es sig τ := by
  have hsim := h.keeps_plain H [] (fun _ => none) .nil
  constructor
  · rintro ⟨ms, hrun⟩
    rcases hsim.forth _ _ _ hrun with ⟨_, _, _, hbad⟩ | ⟨r', hrun', hends⟩
    · cases hbad
    · cases hends with
      | done hpost =>
        obtain rfl := eq_of_post hpost
        exact ⟨_, hrun'⟩
  · rintro ⟨φ, hrun⟩
    rcases hsim.back _ _ _ hrun with ⟨_, _, _, hbad⟩ | ⟨r, hrun', hends⟩ | ⟨_, _, hfree⟩
    · cases hbad
    · cases hends with
      | done hpost =>
        obtain rfl := eq_of_post hpost
        exact ⟨_, hrun'⟩
    · cases hfree

/-- No jump that was overridden is taken up again after a loop, in any run from a store. -/
def Module.Undisturbed (H : Host) (s : Settings) (m : Module Empty) (σ : H.Store) : Prop :=
  ∀ es q, (tracked H).Reaches [] (m.expand s).body σ es q → ¬ SourceMeaning.Disturbed q

/-- A source module runs as the tracked reading says, unless a jump is taken up again. -/
theorem Expands.labelled_iff_tracked (h : Expands s file m e) {σ τ : H.Store}
    (hσ : m.Undisturbed H s σ) {es : List H.Event} {sig : H.Signal} :
    (labelled H s.package).Runs (.ofTable (moduleTable s m)) m.body σ es sig τ ↔
      (tracked H).Runs [] (m.expand s).body σ es sig τ := by
  have hsim := h.keeps_tracked H () [] trivial
  have hsafe : ¬ Escapes SourceMeaning.link ((tracked H).block [] none (m.expand s).body)
      (σ, ([] : List Mark)) := by
    rintro ⟨es, q, hreach, hbad⟩
    exact hσ es q hreach hbad
  constructor
  · rintro ⟨x, hrun⟩
    rcases hsim.forth _ _ _ hrun with hbad | ⟨r', hrun', hends⟩
    · exact absurd hbad hsafe
    · cases hends with
      | done hpost =>
        obtain rfl := SourceMeaning.eq_of_agrees hpost.2.2
        exact ⟨_, hrun'⟩
  · rintro ⟨ms, hrun⟩
    rcases hsim.back _ _ _ hrun with hbad | ⟨r, hrun', hends⟩ | ⟨q, hq, -⟩
    · exact absurd hbad hsafe
    · cases hends with
      | done hpost =>
        obtain rfl := SourceMeaning.eq_of_agrees hpost.2.2
        exact ⟨_, hrun'⟩
    · cases hq

/-- A flag is found to be true only where its mark is found. -/
theorem Expands.reaches_tracked (h : Expands s file m e) {σ : H.Store} {es : List H.Event}
    {q : FlagProbe} (hq : (plain H (m.userNames s) s.flagPrefix).Reaches () e.module.body σ es q) :
    ∃ p, (tracked H).Reaches [] (m.expand s).body σ es p ∧
      (FlagMeaning.link (m.userNames s) s.flagPrefix).same p q := by
  have hsim := h.keeps_plain H [] (fun _ => none) .nil
  rcases hsim.back _ _ _ hq with ⟨_, _, _, hbad⟩ | ⟨r, hrun, hends⟩ | ⟨_, _, hfree⟩
  · cases hbad
  · cases hends with
    | stopped hsame => exact ⟨_, hrun, hsame⟩
  · cases hfree

/-- Where a mark is found its flag is found to be true. -/
theorem Expands.reaches_plain (h : Expands s file m e) {σ : H.Store} {es : List H.Event}
    {p : MarkProbe} (hp : (tracked H).Reaches [] (m.expand s).body σ es p) :
    ∃ q, (plain H (m.userNames s) s.flagPrefix).Reaches () e.module.body σ es q ∧
      (FlagMeaning.link (m.userNames s) s.flagPrefix).same p q := by
  have hsim := h.keeps_plain H [] (fun _ => none) .nil
  rcases hsim.forth _ _ _ hp with ⟨_, _, _, hbad⟩ | ⟨r', hrun, hends⟩
  · cases hbad
  · cases hends with
    | stopped hsame => exact ⟨_, hrun, hsame⟩

/-- If all jumps pass, marks are found only where their jumps arrive. -/
theorem arriving_of_jumpsPass (hH : H.ReleasesQuietly)
    (hpass : Stmt.allJumpsPass (m.expand s).body = true) {σ : H.Store} {es : List H.Event}
    {p : MarkProbe} (hp : (tracked H).Reaches [] (m.expand s).body σ es p) : p.arriving = true :=
  (Interception.block_calm hH [] none [] Mark.clear_nil _ hpass).stopped σ es p hp

theorem undisturbed_of_jumpsPass (hH : H.ReleasesQuietly)
    (hpass : Stmt.allJumpsPass (m.expand s).body = true) (σ : H.Store) : m.Undisturbed H s σ := by
  intro es q hq hdisturbed
  cases (arriving_of_jumpsPass hH hpass hq).symm.trans hdisturbed.2

/-! ## Two nested loops

A jump out of both loops, and the same jump in a `try` statement whose last part is a `continue`.
-/

namespace Nested

open Tape

def line (n : Nat) : Span := ⟨n, 0, n, 0⟩

def var (x : String) : Expr := .name ⟨0, 0⟩ x .load

def target (x : String) : Expr := .name ⟨0, 0⟩ x .store

def call (f : String) (args : List Expr) : Simple := .expr (.call ⟨0, 0⟩ (var f) args [])

def importing : Simple :=
  .importsFrom (some "flow_control") [⟨⟨1, 0⟩, "break_if", none⟩, ⟨⟨1, 0⟩, "label", none⟩] 0

def innerLoop {Hole : Type} (body : List (Stmt Hole)) : Stmt Hole :=
  .loop (line 4) (.over false (target "b") (var "ys")) body []

/-- The body of the outer loop. -/
def round {Hole : Type} (body : List (Stmt Hole)) : List (Stmt Hole) :=
  [innerLoop body, .simple (line 9) (call "f" [])]

/-- The outer loop, which has the label `outer`. -/
def loops {Hole : Type} (body : List (Stmt Hole)) : Stmt Hole :=
  .loop (line 3) (.over false (target "a") (var "xs")) (round body) []

def module (body : List (Stmt Empty)) : Module Empty :=
  ⟨[.simple (line 1) importing, .simple (line 2) (call "label" [var "outer"]), loops body]⟩

/-- The call that leaves both loops. -/
def leave : Stmt Empty := .simple (line 6) (call "break_if" [var "p", var "outer"])

/-- What it is replaced by. -/
def leaveReplaced : Stmt Placeholder :=
  .branch (line 6) (var "p") [.hole (line 6) (.jump .breaks (var "outer"))] []

/-- A statement after which the inner loop goes on in any case. -/
def goingOn {Hole : Type} (s : Stmt Hole) : Stmt Hole :=
  .attempt (line 5) false [s] [] [] [.simple (line 8) .continues]

/-- The jump is made. -/
def made : Module Empty := module [leave]

/-- The jump is overridden. -/
def overridden : Module Empty := module [goingOn leave]

theorem ok_of_toOption {ε α : Type} {x : Except ε α} (h : x.toOption.isSome = true) :
    ∃ a, x = .ok a := by
  cases x with
  | ok a => exact ⟨a, rfl⟩
  | error e => cases h

theorem made_expands : ∃ e, expandModule .default none made = .ok e :=
  ok_of_toOption (by with_unfolding_all decide)

theorem overridden_expands : ∃ e, expandModule .default none overridden = .ok e :=
  ok_of_toOption (by with_unfolding_all decide)

theorem made_jumpsPass : Stmt.allJumpsPass (made.expand .default).body = true := by
  with_unfolding_all decide

theorem moduleTable_overridden :
    moduleTable .default overridden = [("label", "label"), ("break_if", "break_if")] := by
  with_unfolding_all decide

theorem expand_overridden : (overridden.expand .default).body =
    [.simple (line 1) importing, .hole (line 2) (.loopLabel (var "outer")),
      loops [goingOn leaveReplaced]] := by
  unfold Module.expand
  rw [moduleTable_overridden]
  rfl

/-- Each loop has one round, and the test of the jump holds. -/
def answers : List Bool := [true, true, true, false, false]

/-! The labelled reading: the inner loop goes on, and `f` is called. -/

abbrev source : Dialect tape := labelled tape "flow_control"

def env : Env := .ofTable [("label", "label"), ("break_if", "break_if")]

theorem source_body : Traces (source.block env none [goingOn leave]) ([true, false, false], ()) []
    [] .continues ([false, false], ()) := by
  have hjump : Traces (source.stmt env none leave) ([true, false, false], ()) [] []
      (.jumps (.breaks, "outer")) ([false, false], ()) := test_traces (Traces.pure _ _)
  have hgoOn : Traces (source.block env none [.simple (line 8) .continues]) ([false, false], ()) []
      [] .continues ([false, false], ()) := leave_traces (Traces.pure _ _) nofun
  exact leave_traces (override_traces (leave_traces hjump nofun) hgoOn nofun) nofun

theorem source_loops : Traces (source.stmt env (some "outer") (loops [goingOn leave]))
    (answers, ()) [] [call "f" []] .normal ([], ()) := by
  have hround := Traces.after (f := fun _ => source.block env none [goingOn leave])
    (Traces.pure () _) source_body
  have hrounds := rounds_traces_again none hround rfl (rounds_traces_end none _ [false] ()) rfl
    rfl
  have hinner : Traces (source.stmt env none (innerLoop [goingOn leave]))
      ([true, true, false, false], ()) [] [] .normal ([false], ()) :=
    loop_traces (D := source) hrounds
      (Traces.after (Traces.pure Signal.normal _) (Traces.pure Signal.normal _)) rfl rfl
  have hcall : Traces (source.stmt env none (.simple (line 9) (call "f" []))) ([false], ()) []
      [call "f" []] .normal ([false], ()) :=
    Traces.finish (exec_traces (call "f" []) [false] ()) (Traces.pure Signal.normal _)
  have hbody := Traces.after (f := fun _ => source.block env none (round [goingOn leave]))
    (Traces.pure () _)
    (next_traces hinner (next_traces hcall (Traces.pure Signal.normal _) rfl rfl) rfl rfl)
  have hall := rounds_traces_again (some "outer") hbody rfl
    (rounds_traces_end (some "outer") _ [] ()) rfl rfl
  exact loop_traces (D := source) hall
    (Traces.after (Traces.pure Signal.normal _) (Traces.pure Signal.normal _)) rfl rfl

theorem source_traces :
    Traces (source.block (.ofTable (moduleTable .default overridden)) none overridden.body)
      (answers, ()) [] [importing, call "f" []] .normal ([], ()) := by
  rw [moduleTable_overridden]
  have himport : Traces (source.stmt env none (.simple (line 1) importing)) (answers, ()) []
      [importing] .normal (answers, ()) :=
    Traces.finish (exec_traces importing answers ()) (Traces.pure Signal.normal _)
  have hlabel : Traces (source.stmt env none (.simple (line 2) (call "label" [var "outer"])))
      (answers, ()) [] [] .normal (answers, ()) := Traces.pure Signal.normal _
  exact next_traces himport (next_traces hlabel
    (next_traces source_loops (Traces.pure Signal.normal _) rfl rfl) rfl rfl) rfl rfl

/-! The tracked reading: the mark of the jump is found after the inner loop, and the outer loop is
left. -/

/-- The mark is found although the jump is no longer on its way. -/
def stale : MarkProbe := ⟨line 4, (.breaks, "outer"), false, false, false⟩

theorem tracked_body :
    Traces ((tracked tape).block [] none [goingOn leaveReplaced])
      ([true, false, false], [.ofLabel none, .ofLabel (some "outer")]) [] [] .continues
      ([false, false], [.ofLabel none, ⟨some "outer", true, false⟩]) := by
  have hjump : Traces ((tracked tape).stmt [] none leaveReplaced)
      ([true, false, false], [.ofLabel none, .ofLabel (some "outer")]) [] []
      (.jumps (.breaks, "outer")) ([false, false], [.ofLabel none, ⟨some "outer", true, false⟩]) :=
    test_traces (leave_traces (Traces.after (Traces.update _ _) (Traces.pure _ _)) nofun)
  have hgoOn : Traces ((tracked tape).block [(.breaks, "outer")] none
      [.simple (line 8) .continues]) ([false, false], [.ofLabel none, ⟨some "outer", true, false⟩])
      [] [] .continues ([false, false], [.ofLabel none, ⟨some "outer", true, false⟩]) :=
    leave_traces (Traces.pure _ _) nofun
  exact leave_traces (override_traces (leave_traces hjump nofun) hgoOn nofun) nofun

theorem tracked_loops :
    Traces ((tracked tape).stmt [] (some "outer") (loops [goingOn leaveReplaced])) (answers, [])
      [([], stale)] [] .normal ([false], []) := by
  have hround := Traces.after (f := fun _ => (tracked tape).block [] none [goingOn leaveReplaced])
    (Traces.pure () _) tracked_body
  have hcheck : Traces ((tracked tape).afterLoop [] (line 4) none [goingOn leaveReplaced] .normal)
      ([false], [⟨some "outer", true, false⟩]) [([], stale)] [] (.jumps (.breaks, "outer"))
      ([false], [⟨some "outer", true, false⟩]) :=
    Traces.after (Traces.look _ _) (Traces.finish (Traces.mayStop _ _) (Traces.pure _ _))
  have hrounds := rounds_traces_again none hround rfl (rounds_traces_end none _ [false] _) rfl
    rfl
  have hinner : Traces ((tracked tape).stmt [] none (innerLoop [goingOn leaveReplaced]))
      ([true, true, false, false], [.ofLabel (some "outer")]) [([], stale)] []
      (.jumps (.breaks, "outer")) ([false], [⟨some "outer", true, false⟩]) :=
    loop_traces (D := tracked tape) hrounds
      (Traces.after (Traces.pure Signal.normal _) hcheck) rfl rfl
  have hstart : Traces (Tracked.round (line 3) (some "outer") : tape.Exec _ _ _)
      ([true, true, false, false], [.ofLabel (some "outer")]) [] [] ()
      ([true, true, false, false], [.ofLabel (some "outer")]) :=
    Traces.after (Traces.update _ _) (Traces.after (Traces.look _ _) (Traces.pure () _))
  have hbody := Traces.after
    (f := fun _ => (tracked tape).block [] none (round [goingOn leaveReplaced])) hstart
    (leave_traces hinner nofun)
  have hall := rounds_traces_last (some "outer") hbody rfl
  exact loop_traces (D := tracked tape) hall
    (Traces.after (Traces.look _ _) (Traces.pure Signal.normal _)) rfl rfl

theorem tracked_traces :
    Traces ((tracked tape).block [] none (overridden.expand .default).body) (answers, [])
      [([importing], stale)] [importing] .normal ([false], []) := by
  rw [expand_overridden]
  have himport : Traces ((tracked tape).stmt [] none (.simple (line 1) importing)) (answers, []) []
      [importing] .normal (answers, []) :=
    Traces.finish (exec_traces importing answers []) (Traces.pure Signal.normal _)
  have hlabel : Traces ((tracked tape).stmt [] none (.hole (line 2) (.loopLabel (var "outer"))))
      (answers, []) [] [] .normal (answers, []) := Traces.pure Signal.normal _
  exact next_traces himport (next_traces hlabel
    (next_traces tracked_loops (Traces.pure Signal.normal _) rfl rfl) rfl rfl) rfl rfl

end Nested

/-! ## Meaning -/

/-- **What an expanded module means.** Its runs are those of the tracked reading. They are those of
the source, with the same events, endings and stores, whenever no overridden jump is taken up again;
and that never happens if all jumps pass. -/
theorem expandModule_preserves_meaning {s : Settings} {file : Option String} {m : Module Empty}
    {e : Expanded} (h : expandModule s file m = .ok e) (H : Host) (σ : H.Store) :
    (∀ es sig τ, (tracked H).Runs [] (m.expand s).body σ es sig τ ↔
      (plain H (m.userNames s) s.flagPrefix).Runs () e.module.body σ es sig τ) ∧
    (m.Undisturbed H s σ → ∀ es sig τ,
      (labelled H s.package).Runs (.ofTable (moduleTable s m)) m.body σ es sig τ ↔
        (plain H (m.userNames s) s.flagPrefix).Runs () e.module.body σ es sig τ) ∧
    (H.ReleasesQuietly → Stmt.allJumpsPass (m.expand s).body = true → m.Undisturbed H s σ) := by
  have hexp := expands_of_ok h
  refine ⟨fun es sig τ => hexp.tracked_iff_plain, fun hσ es sig τ => ?_, fun hH hpass => ?_⟩
  · exact (hexp.labelled_iff_tracked hσ).trans hexp.tracked_iff_plain
  · exact undisturbed_of_jumpsPass hH hpass σ

/-- The two loops with the jump mean the same after expansion, on all tapes. -/
theorem expandModule_preserves_meaning_made : ∃ e,
    expandModule .default none Nested.made = .ok e ∧ ∀ σ es sig τ,
      (labelled tape "flow_control").Runs (.ofTable (moduleTable .default Nested.made))
        Nested.made.body σ es sig τ ↔
      (plain tape (Nested.made.userNames .default) "_flow_").Runs () e.module.body σ es sig τ := by
  obtain ⟨e, he⟩ := Nested.made_expands
  refine ⟨e, he, fun σ => ?_⟩
  obtain ⟨-, hsame, hpass⟩ := expandModule_preserves_meaning he tape σ
  exact hsame (hpass Tape.releasesQuietly Nested.made_jumpsPass)

/-- With the overridden jump they do not: the source calls `f`, and the expanded module does
not. -/
theorem expandModule_overridden_jump : ∃ e,
    expandModule .default none Nested.overridden = .ok e ∧
      (labelled tape "flow_control").Runs (.ofTable (moduleTable .default Nested.overridden))
        Nested.overridden.body Nested.answers [Nested.importing, Nested.call "f" []] .normal [] ∧
      ¬ (plain tape (Nested.overridden.userNames .default) "_flow_").Runs () e.module.body
        Nested.answers [Nested.importing, Nested.call "f" []] .normal [] := by
  obtain ⟨e, he⟩ := Nested.overridden_expands
  refine ⟨e, he, ⟨(), (Nested.source_traces _ _).2 (.inl ⟨rfl, rfl⟩)⟩, fun hrun => ?_⟩
  obtain ⟨ms, hrun⟩ := (expands_of_ok he).tracked_iff_plain.2 hrun
  rcases (Nested.tracked_traces _ _).1 hrun with ⟨hes, -⟩ | ⟨p, -, hr⟩
  · cases hes
  · cases hr

/-! ## Flags -/

/-- **What the flags of an expanded module show.** A flag is found to be true only where its mark
is found, and it belongs to a jump that is on its way exactly as far as all marks do. If no
overridden jump is taken up again the module runs as its source; and both hold if all jumps
pass. -/
theorem expandModule_flags_follow_jumps {s : Settings} {file : Option String} {m : Module Empty}
    {e : Expanded} (h : expandModule s file m = .ok e) (H : Host) (σ : H.Store) :
    (∀ es q, (plain H (m.userNames s) s.flagPrefix).Reaches () e.module.body σ es q →
      ∃ p, (tracked H).Reaches [] (m.expand s).body σ es p ∧ q.span = p.span ∧
        IsFlagFor (m.userNames s) s.flagPrefix p.jump.1 p.jump.2 q.flag) ∧
    ((∀ es q, (plain H (m.userNames s) s.flagPrefix).Reaches () e.module.body σ es q →
        ∀ p, (tracked H).Reaches [] (m.expand s).body σ es p →
          (FlagMeaning.link (m.userNames s) s.flagPrefix).same p q → p.unwinding = true) ↔
      ∀ es p, (tracked H).Reaches [] (m.expand s).body σ es p → p.unwinding = true) ∧
    (m.Undisturbed H s σ → ∀ es sig τ,
      (plain H (m.userNames s) s.flagPrefix).Runs () e.module.body σ es sig τ ↔
        (labelled H s.package).Runs (.ofTable (moduleTable s m)) m.body σ es sig τ) ∧
    (H.ReleasesQuietly → Stmt.allJumpsPass (m.expand s).body = true →
      m.Undisturbed H s σ ∧
        ∀ es p, (tracked H).Reaches [] (m.expand s).body σ es p → p.unwinding = true) := by
  have hexp := expands_of_ok h
  refine ⟨fun es q hq => hexp.reaches_tracked hq, ⟨fun hall es p hp => ?_, ?_⟩, ?_, ?_⟩
  · obtain ⟨q, hq, hsame⟩ := hexp.reaches_plain hp
    exact hall es q hq p hp hsame
  · exact fun hall es q _ p hp _ => hall es p hp
  · exact fun hσ es sig τ => ((hexp.labelled_iff_tracked hσ).trans hexp.tracked_iff_plain).symm
  · intro hH hpass
    refine ⟨undisturbed_of_jumpsPass hH hpass σ, fun es p hp => ?_⟩
    simp [MarkProbe.unwinding, arriving_of_jumpsPass hH hpass hp]

/-- A jump out of two loops that nothing overrides: no flag outlives it, on any tape. -/
theorem expandModule_flags_follow_jumps_made : ∃ e,
    expandModule .default none Nested.made = .ok e ∧ ∀ σ es q,
      (plain tape (Nested.made.userNames .default) "_flow_").Reaches () e.module.body σ es q →
        ∃ p, (tracked tape).Reaches [] (Nested.made.expand .default).body σ es p ∧
          q.span = p.span ∧ p.unwinding = true := by
  obtain ⟨e, he⟩ := Nested.made_expands
  refine ⟨e, he, fun σ es q hq => ?_⟩
  obtain ⟨hflag, -, -, hpass⟩ := expandModule_flags_follow_jumps he tape σ
  obtain ⟨p, hp, hspan, -⟩ := hflag es q hq
  exact ⟨p, hp, hspan, (hpass Tape.releasesQuietly Nested.made_jumpsPass).2 es p hp⟩

/-- After the overridden jump its flag is found to be true, though no jump is on its way. -/
theorem expandModule_stale_flag : ∃ e, expandModule .default none Nested.overridden = .ok e ∧
    (∃ q, (plain tape (Nested.overridden.userNames .default) "_flow_").Reaches () e.module.body
      Nested.answers [Nested.importing] q ∧ q.span = Nested.line 4 ∧
        IsFlagFor (Nested.overridden.userNames .default) "_flow_" .breaks "outer" q.flag) ∧
    ∀ es p, (tracked tape).Reaches [] (Nested.overridden.expand .default).body Nested.answers es p →
      p.unwinding = false := by
  obtain ⟨e, he⟩ := Nested.overridden_expands
  have hstale : (tracked tape).Reaches [] (Nested.overridden.expand .default).body Nested.answers
      [Nested.importing] Nested.stale :=
    (Nested.tracked_traces _ _).2 (.inr ⟨_, List.mem_cons_self, rfl⟩)
  refine ⟨e, he, (expands_of_ok he).reaches_plain hstale, fun es p hp => ?_⟩
  rcases (Nested.tracked_traces _ _).1 hp with ⟨-, hr⟩ | ⟨p', hp', hr⟩
  · cases hr
  · cases hr
    obtain ⟨-, rfl⟩ := Prod.mk.inj (List.mem_singleton.1 hp')
    rfl

end JumpMacros
