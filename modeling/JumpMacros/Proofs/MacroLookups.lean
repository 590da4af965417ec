import JumpMacros.Proofs.CallAccounts
import JumpMacros.Proofs.LabelResolution
import JumpMacros.Proofs.MeaningPreservation
import JumpMacros.Proofs.NamespaceTables
import JumpMacros.Proofs.ScopeTraversal
import JumpMacros.Proofs.SettingsFiles

/-!
# Lookups of macros do not fail

**Theorem (`macro_lookups_defined`).** Under settings that list names for macros only, the traversal
of a module never looks at an empty stack and never finds a macro without rules. It ends with the
stack that it started with, and the expansion of the module fails with diagnostics only, except that
a tree or a label may have no text.

Settings that are loaded list names for macros only, and so do those that are made of them for bare
names or for a namespace (`NamesMacros.withBareNames`, `NamesMacros.withNamespace`).
-/

namespace JumpMacros

/-! ## Settings that list names for macros -/

/-- The values in a namespace that stand for macros carry names of macros. -/
def TagsMacros (ns : List (String × Bound)) : Prop :=
  ∀ e ∈ ns, ∀ tag, e.2.macroName? = some tag → tag ∈ Macro.names

namespace Settings.NamesMacros

variable {s : Settings}

theorem withBareNames (s : Settings) : s.withBareNames.NamesMacros := by
  intro e he
  obtain ⟨m, hm, rfl⟩ := List.mem_map.1 he
  exact hm

theorem of_load {files : FileTree} {path : Option String} (h : load files path = .ok s) :
    s.NamesMacros :=
  (wellFormed_of_load h).macros

theorem known_namespaceTable {package : String} {ns : List (String × Bound)} (h : TagsMacros ns) :
    (namespaceTable package ns).Known := by
  have hspellings : ∀ e ∈ ns.flatMap fun e => e.2.spellings package e.1, e.2 ∈ Macro.names := by
    rintro ⟨x, name⟩ hx
    obtain ⟨e, he, hx⟩ := List.mem_flatMap.1 hx
    obtain ⟨y, b⟩ := e
    have htag := h (y, b) he
    dsimp only at hx
    unfold Bound.spellings at hx
    split at hx
    · cases List.mem_singleton.1 hx
      exact htag name rfl
    · split at hx
      · obtain ⟨m, hm, heq⟩ := List.mem_map.1 hx
        cases heq
        exact hm
      · cases hx
    · cases hx
  have hfold (es : List (String × String)) (hes : ∀ e ∈ es, e.2 ∈ Macro.names) :
      ∀ t : Table, t.Known → (es.foldl (fun t e => t.insert e.1 e.2) t).Known := by
    induction es with
    | nil => exact fun t ht => ht
    | cons e es ih =>
      obtain ⟨he, hes⟩ := List.forall_mem_cons.1 hes
      exact fun t ht => ih hes _ (ht.insert e.1 he)
  exact hfold _ hspellings [] (List.forall_mem_nil _)

theorem addName {names : List (String × List String)} (h : ∀ e ∈ names, e.1 ∈ Macro.names)
    {n : String} (hn : n ∈ Macro.names) (x : String) :
    ∀ e ∈ Settings.addName names n x, e.1 ∈ Macro.names := by
  induction names with
  | nil => exact List.forall_mem_singleton.2 hn
  | cons e names ih =>
    obtain ⟨he, hnames⟩ := List.forall_mem_cons.1 h
    unfold Settings.addName
    split
    · exact List.forall_mem_cons.2 ⟨he, hnames⟩
    · exact List.forall_mem_cons.2 ⟨he, ih hnames⟩

theorem withNamespace (h : s.NamesMacros) {ns : List (String × Bound)} (hns : TagsMacros ns) :
    (s.withNamespace ns).NamesMacros := by
  have hfold (es : List (String × String)) (hes : ∀ e ∈ es, e.2 ∈ Macro.names) :
      ∀ names : List (String × List String), (∀ e ∈ names, e.1 ∈ Macro.names) →
        ∀ e ∈ es.foldl (fun names e => Settings.addName names e.2 e.1) names,
          e.1 ∈ Macro.names := by
    induction es with
    | nil => exact fun names hnames => hnames
    | cons e es ih =>
      obtain ⟨he, hes⟩ := List.forall_mem_cons.1 hes
      exact fun names hnames => ih hes _ (addName hnames he e.1)
  have htable : ∀ e ∈ (namespaceTable s.package ns).sorted, e.2 ∈ Macro.names :=
    fun e he => known_namespaceTable hns e ((List.mergeSort_perm _ _).mem_iff.1 he)
  exact hfold _ htable s.implicitNames h

end Settings.NamesMacros

/-! ## Expansion -/

section

variable {s : Settings} {file : Option String} {m : Module Empty}

/-- Where all invocations are of macros, an expansion that fails has diagnostics, or something in
the tree has no text. -/
theorem error_of_expandModule
    (h : ∀ i ∈ invocations s.package (.ofTable (moduleTable s m)) m.body, i.name ∈ Macro.names)
    {err : ExpandError} (herr : expandModule s file m = .error err) :
    (∃ ds, ds ≠ [] ∧ err = .diagnostics ds) ∨ ∃ u, err = .unwritable u ∧
      (((m.expand s).lower s file).unwritable = some u ∨
        ((m.expand s).lower s file).module.written = .error u) := by
  have hknown : ((invocations s.package (.ofTable (moduleTable s m)) m.body).findSome? fun i =>
      (i.verdict file).unknown?) = none := by
    refine List.findSome?_eq_none_iff.2 fun i hi => ?_
    obtain ⟨x, -, hx⟩ := List.mem_map.1 (h i hi)
    exact Invocation.unknown?_verdict hx
  have hsorted {ds : List Diagnostic} (hne : ds ≠ []) : Diagnostic.sort ds ≠ [] :=
    fun hnil => hne (sort_eq_nil.1 hnil)
  unfold expandModule at herr
  simp only [hknown] at herr
  split at herr
  · rename_i hds
    cases herr
    exact .inl ⟨_, hsorted (by simpa using hds), rfl⟩
  · split at herr
    · rename_i u hu
      cases herr
      exact .inr ⟨u, rfl, .inl ‹_›⟩
    · cases herr
      exact .inl ⟨_, hsorted (List.cons_ne_nil _ _), rfl⟩
    · split at herr
      · rename_i u hu
        cases herr
        exact .inr ⟨u, rfl, .inr hu⟩
      · cases herr

end

open Expander (Reaches start)

/-- The traversal of a module does not fail, and its expansion fails with diagnostics or for want of
a text only. -/
structure Module.ExpandsSafely (s : Settings) (file : Option String) (m : Module Empty) : Prop where
  /-- In each state there is a scope, all tables hold macros, and there is a next state if there is
  work to do. -/
  running : ∀ w, Reaches s.package (start s m) w →
    w.scopes ≠ [] ∧ w.scopes.Known ∧ (w.todo ≠ [] → ∃ w', w.step s.package = some w')
  /-- The traversal comes to an end. -/
  ending : ∃ w, Reaches s.package (start s m) w ∧ w.todo = []
  /-- At the end there is the table of the module again, and what has been found are the invocations
  and the misplaced calls of the module. -/
  ended : ∀ w, Reaches s.package (start s m) w → w.todo = [] →
    w.scopes = [(moduleTable s m, false)] ∧
    w.invocations = invocations s.package (.ofTable (moduleTable s m)) m.body ∧
    w.misplaced.Perm (misplacedCalls s.package (.ofTable (moduleTable s m)) m.body)
  /-- Each invocation is one of a macro, which has rules. -/
  ruled : ∀ i ∈ invocations s.package (.ofTable (moduleTable s m)) m.body,
    ∃ x : Macro, Macro.ofName? i.name = some x ∧ x.rules ≠ []
  failing : ∀ err, expandModule s file m = .error err →
    (∃ ds, ds ≠ [] ∧ err = .diagnostics ds) ∨ ∃ u, err = .unwritable u ∧
      (((m.expand s).lower s file).unwritable = some u ∨
        ((m.expand s).lower s file).module.written = .error u)

theorem expandsSafely_of_namesMacros {s : Settings} (h : s.NamesMacros) (file : Option String)
    (m : Module Empty) : m.ExpandsSafely s file := by
  have hsound {w : Expander} (hw : Reaches s.package (start s m) w) : w.Sound s m :=
    (Expander.sound_start h m).reaches hw
  obtain ⟨w, hreach, hend⟩ := (Expander.sound_start h m).exists_end
  have hnames : ∀ i ∈ invocations s.package (.ofTable (moduleTable s m)) m.body,
      i.name ∈ Macro.names := by
    intro i hi
    rw [← ((hsound hreach).of_end hend).2.1] at hi
    exact (hsound hreach).macros i (.inl hi)
  refine ⟨fun w hw => ?_, ⟨w, hreach, hend⟩, fun w hw hend => (hsound hw).of_end hend,
    fun i hi => ?_, fun err herr => error_of_expandModule hnames herr⟩
  · refine ⟨(hsound hw).scopes_ne, (hsound hw).known, fun htodo => ?_⟩
    obtain ⟨w', hnext, -⟩ := (hsound hw).exists_next htodo
    exact ⟨w', hnext⟩
  · obtain ⟨x, -, hx⟩ := List.mem_map.1 (hnames i hi)
    refine ⟨x, hx ▸ ofName?_name x, ?_⟩
    cases x <;> exact List.cons_ne_nil _ _

/-- **Lookups of macros do not fail** under settings that list names for macros only, and these are
all that are loaded, or made of such settings for bare names or for a namespace. -/
theorem macro_lookups_defined (s : Settings) (file : Option String) (m : Module Empty) :
    (∀ files path, Settings.load files path = .ok s → s.NamesMacros) ∧
    s.withBareNames.NamesMacros ∧
    (∀ ns, s.NamesMacros → TagsMacros ns → (s.withNamespace ns).NamesMacros) ∧
    (s.NamesMacros → m.ExpandsSafely s file) :=
  ⟨fun _ _ h => .of_load h, .withBareNames s, fun _ h hns => h.withNamespace hns,
    fun h => expandsSafely_of_namesMacros h file m⟩

/-- A namespace in which `stop` is a macro. -/
def stopNamespace : List (String × Bound) := [("stop", .callable (some "break_if")), ("xs", .other)]

/-- The settings for that namespace. -/
theorem macro_lookups_defined_stop : Settings.load .empty none = .ok .default ∧
    TagsMacros stopNamespace ∧
    (Settings.default.withBareNames.withNamespace stopNamespace).NamesMacros ∧
    Nested.overridden.ExpandsSafely
      (Settings.default.withBareNames.withNamespace stopNamespace) none := by
  have hload : Settings.load .empty none = .ok .default := rfl
  have htagged : TagsMacros stopNamespace := by
    intro e he tag htag
    rcases List.mem_cons.1 he with rfl | he
    · cases htag
      decide
    · cases List.mem_singleton.1 he
      cases htag
  obtain ⟨-, hbare, -, -⟩ := macro_lookups_defined .default none Nested.overridden
  obtain ⟨-, -, hnamespace, -⟩ :=
    macro_lookups_defined Settings.default.withBareNames none Nested.overridden
  obtain ⟨-, -, -, hsafe⟩ := macro_lookups_defined
    (Settings.default.withBareNames.withNamespace stopNamespace) none Nested.overridden
  have hnames := hnamespace _ hbare htagged
  exact ⟨hload, htagged, hnames, hsafe hnames⟩

/-- A formatted string that has no text, as a statement. -/
def bellStatement : Module Empty := ⟨[.simple ⟨1, 0, 1, 12⟩ (.expr bellLabel)]⟩

/-- Why an expansion has no text. -/
def ExpandError.unwritable? : ExpandError → Option Unwritable
  | .unwritable u => some u
  | _ => none

/-- Its expansion fails without a diagnostic. -/
theorem expandModule_bellStatement : Settings.default.NamesMacros ∧
    expandModule .default none bellStatement = .error (.unwritable .backslash) := by
  refine ⟨by decide, ?_⟩
  have hfails : (match expandModule .default none bellStatement with
      | .error e => e.unwritable?
      | .ok _ => none) = some .backslash := by with_unfolding_all decide
  cases hx : expandModule .default none bellStatement with
  | ok e => simp [hx] at hfails
  | error e =>
    rw [hx] at hfails
    cases e with
    | unwritable u => rw [Option.some.inj hfails]
    | diagnostics ds => cases hfails
    | unknownMacro name => cases hfails

end JumpMacros
