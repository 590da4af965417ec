import JumpMacros.CommandLine.Command
import JumpMacros.Proofs.DiagnosticOrder
import JumpMacros.Proofs.LabelResolution

/-!
# What the steps of a command report

A command reads the settings, loads a file, expands it and compiles it, and stops at the first
step that finds something. Each cause belongs to one `Step`, and the diagnostics that a step stops
with are `Findings` of that step: there is at least one, they are in the order in which they are
reported, and only expansion finds more than one.

**Lemmas (`loadSource_error`, `parseSource_error`, `expandModule_error`, `compileModule_error`,
`settings_error`).** Every step that stops with diagnostics stops with findings of its own.

Checking a file goes through `expandPath` and running it through `compileSource`. The two take the
same steps, but the second raises the first diagnostic where the first collects all of them
(`outcome_expandPath`).
-/

namespace JumpMacros

/-! ## Steps -/

/-- The steps of a command that can find something. -/
inductive Step where
  | settings
  | loading
  | expansion
  | compilation
deriving DecidableEq, Repr

/-- The step that finds a cause, if it is one of a command's. -/
def Cause.step? : Cause → Option Step
  | .settingsNotFound _ | .settingsUnreadable _ | .settingsUnparsable _ | .settingsInvalid _ =>
    some .settings
  | .fileNotFound | .unsupportedFormat | .fileUnreadable _ | .unparsable _ => some .loading
  | .shapeMismatch _ _ _ | .misplacedCall _ | .invalidLabel _ | .labelWithoutLoop
  | .unknownLabel _ => some .expansion
  | .refused _ => some .compilation
  | .given _ _ _ | .closure _ _ | .sourceUnavailable _ _ | .sourceNotDef _ | .unknownFormat _ =>
    none

/-- The diagnostics that a step stops with. -/
structure Findings (step : Step) (ds : List Diagnostic) : Prop where
  nonempty : ds ≠ []
  sorted : Diagnostic.Sorted ds
  ofStep : ∀ d ∈ ds, d.cause.step? = some step
  single : step ≠ .expansion → ∃ d, ds = [d]

namespace Findings

theorem singleton {step : Step} {d : Diagnostic} (h : d.cause.step? = some step) :
    Findings step [d] where
  nonempty := List.cons_ne_nil _ _
  sorted := List.pairwise_singleton ..
  ofStep := by simpa using h
  single _ := ⟨d, rfl⟩

/-- What expansion finds is sorted before it is reported. -/
theorem sort {ds : List Diagnostic} (hne : ds ≠ [])
    (h : ∀ d ∈ ds, d.cause.step? = some .expansion) :
    Findings .expansion (Diagnostic.sort ds) where
  nonempty hnil := hne ((hnil ▸ Diagnostic.sort_perm ds).symm.eq_nil)
  sorted := Diagnostic.sorted_sort ds
  ofStep d hd := h d ((Diagnostic.sort_perm ds).mem_iff.1 hd)
  single hstep := absurd rfl hstep

theorem exists_cons {step : Step} {ds : List Diagnostic} (h : Findings step ds) :
    ∃ d rest, ds = d :: rest :=
  List.exists_cons_of_ne_nil h.nonempty

end Findings

/-! ## Loading -/

theorem loadSource_error {files : FileTree} {path : String} {d : Diagnostic}
    (h : loadSource files path = .error (.diagnostic d)) : Findings .loading [d] := by
  refine .singleton ?_
  simp only [loadSource] at h
  split at h
  · cases h
  · cases h; rfl
  · split at h
    · cases h; rfl
    · split at h
      · cases h
      · cases h; rfl
      · cases h; rfl

theorem parseSource_error {path text : String} {d : Diagnostic}
    (h : parseSource path text = .error (.diagnostic d)) : Findings .loading [d] := by
  refine .singleton ?_
  simp only [parseSource] at h
  split at h
  · cases h
  · cases h
  · cases h; rfl

/-! ## Expansion -/

theorem Invocation.step_of_diagnostic? {file : Option String} {i : Invocation} {d : Diagnostic}
    (h : (i.verdict file).diagnostic? = some d) : d.cause.step? = some .expansion := by
  simp only [Invocation.verdict] at h
  split at h
  · cases h
  · split at h
    · cases h
    · cases h; rfl

theorem LabelFault.step_of_diagnostic? {file : Option String} {sp : Span} {f : LabelFault}
    {d : Diagnostic} (h : f.diagnostic? file sp = some d) :
    d.cause.step? = some .expansion := by
  obtain ⟨c, hc, rfl⟩ := Option.map_eq_some_iff.1 h
  cases f with
  | invalid l =>
    simp only [cause?] at hc
    split at hc
    · cases hc; rfl
    · cases hc
  | withoutLoop => cases hc; rfl
  | unknown n => cases hc; rfl

theorem step_of_mem_expansionDiagnostics {file : Option String} {is : List Invocation}
    {cs : List MisplacedCall} {d : Diagnostic} (h : d ∈ expansionDiagnostics file is cs) :
    d.cause.step? = some .expansion := by
  rcases List.mem_append.1 h with h | h
  · obtain ⟨i, -, hi⟩ := List.mem_filterMap.1 h
    exact Invocation.step_of_diagnostic? hi
  · obtain ⟨c, -, rfl⟩ := List.mem_map.1 h
    rfl

theorem Module.step_of_mem_lower {s : Settings} {file : Option String} {m : Module Placeholder}
    {d : Diagnostic} (h : d ∈ (m.lower s file).diagnostics) :
    d.cause.step? = some .expansion := by
  rw [(m.lower_reports s file).1] at h
  obtain ⟨f, -, hf⟩ := List.mem_filterMap.1 h
  exact LabelFault.step_of_diagnostic? hf

theorem expandModule_error {s : Settings} {file : Option String} {m : Module Empty}
    {ds : List Diagnostic} (h : expandModule s file m = .error (.diagnostics ds)) :
    Findings .expansion ds := by
  simp only [expandModule] at h
  split at h
  · cases h
  · split at h
    next hne =>
      cases h
      exact .sort (by simpa using hne) fun d hd => step_of_mem_expansionDiagnostics hd
    · split at h
      · cases h
      next d ds' hds =>
        cases h
        exact .sort (List.cons_ne_nil _ _) fun d' hd' => Module.step_of_mem_lower (hds ▸ hd')
      · split at h <;> cases h

/-! ## Compilation -/

theorem compileModule_error {file : String} {notes : Bool} {m : Module Empty} {d : Diagnostic}
    (h : compileModule file notes m = .error (.diagnostic d)) : Findings .compilation [d] := by
  refine .singleton ?_
  simp only [compileModule] at h
  split at h
  · cases h
  next r _ _ =>
    cases h
    cases hp : r.place <;> simp only [Refused.diagnostic, hp] <;> rfl
  · cases h

/-! ## Settings -/

theorem Settings.load_error {files : FileTree} {path : Option String} {d : Diagnostic}
    (h : Settings.load files path = .error (.diagnostic d)) :
    d.cause.step? = some .settings ∧ d.cause.code ≠ "E_CONFIG_NOT_FOUND" := by
  have hload (p : String) (o : Overrides → Settings)
      (h : (Settings.loadOverrides files p).map o = .error (.diagnostic d)) :
      d.cause.step? = some .settings ∧ d.cause.code ≠ "E_CONFIG_NOT_FOUND" := by
    simp only [Settings.loadOverrides] at h
    repeat' split at h
    all_goals
      first
      | (cases h; done)
      | (cases h; exact ⟨rfl, by simp [Diagnostic.ofFile, Cause.code]⟩)
  cases path with
  | none => cases h
  | some p =>
    simp only [Settings.load] at h
    split at h
    · cases h
    · exact hload p _ h

theorem settings_error {a : Arguments} {files : FileTree} {d : Diagnostic} {status : Int}
    (h : a.settings files = .error (.inr (d, status))) : Findings .settings [d] ∧
      status = if d.cause.code = "E_CONFIG_NOT_FOUND" then 1 else 2 := by
  simp only [Arguments.settings] at h
  split at h
  · cases h
  · cases h
    exact ⟨.singleton rfl, rfl⟩
  next hd =>
    cases h
    obtain ⟨hstep, hcode⟩ := Settings.load_error hd
    exact ⟨.singleton hstep, (if_neg hcode).symm⟩
  · cases h

/-! ## The steps together -/

variable {files : FileTree} {session : Session} {s : Settings} {path : String} {e : Expanded}

theorem expandPath_failed {ds : List Diagnostic} (h : expandPath files s path = .failed ds) :
    Findings .loading ds ∨ Findings .expansion ds := by
  simp only [expandPath] at h
  split at h
  next hl =>
    cases h
    exact .inl (loadSource_error hl)
  · cases h
  · split at h
    next hp =>
      cases h
      exact .inl (parseSource_error hp)
    · cases h
    · split at h
      · cases h
      next hx =>
        cases h
        exact .inr (expandModule_error hx)
      · cases h

/-- What an attempt comes to where the first diagnostic stands for all. -/
def Attempt.outcome : Attempt → Except Raised Expanded
  | .expanded e => .ok e
  | .failed ds => .error (ExpandError.diagnostics ds).raised
  | .crashed r => .error r

/-- Collecting the diagnostics of a file and raising the first one take the same steps. -/
theorem outcome_expandPath (files : FileTree) (s : Settings) (path : String) :
    (expandPath files s path).outcome =
      match loadSource files path with
      | .error r => .error r
      | .ok text => expandSource s path text := by
  cases hl : loadSource files path with
  | error r => cases r <;> simp only [expandPath, hl] <;> rfl
  | ok text =>
    cases hp : parseSource path text with
    | error r => cases r <;> simp only [expandPath, expandSource, hl, hp] <;> rfl
    | ok m =>
      have hsource : expandSource s path text =
          (expandModule s (some path) m).mapError ExpandError.raised := by
        simp only [expandSource, hp, bind, Except.bind]
        cases expandModule s (some path) m <;> rfl
      simp only [expandPath, hl, hp, hsource]
      cases expandModule s (some path) m with
      | ok e => rfl
      | error x => cases x <;> rfl

/-- Checking goes on with the compiler, where a file can be expanded. -/
theorem checkPath_of_expandPath {x : Attempt} : expandPath files s path = x →
    checkPath files s path =
      match x with
      | .expanded e =>
        match compileModule path false e.module with
        | .ok _ => .expanded e
        | .error (.diagnostic d) => .failed [d]
        | .error r => .crashed r
      | other => other := by
  rintro rfl
  rfl

/-- A script that cannot be expanded is not run. -/
theorem runPath_of_error {r : Raised} (h : (expandPath files s path).outcome = .error r)
    (arguments : List String) :
    Script.runPath files session s path arguments = (.error r, session) := by
  rw [outcome_expandPath] at h
  have hcompile : Script.compilePath files s path = .error r := by
    simp only [Script.compilePath, compileSource, bind, Except.bind]
    cases hl : loadSource files path with
    | error r => rw [hl] at h; cases h; rfl
    | ok text => simp only [hl] at h; simp only [h]
  simp only [Script.runPath, Script.runPathBy, hcompile]
  rfl

/-- A script that can be expanded runs if it can be compiled, and only then. -/
theorem runPath_of_expanded (h : expandPath files s path = .expanded e) (session : Session)
    (arguments : List String) :
    (∀ r, compileModule path false e.module = .error r →
      Script.runPath files session s path arguments = (.error r, session)) ∧
    (compileModule path false e.module = .ok () →
      ∃ r after, Script.runPath files session s path arguments = (.ok r, after)) := by
  have hout := outcome_expandPath files s path
  rw [h] at hout
  simp only [Script.runPath, Script.runPathBy, Script.compilePath, compileSource, bind, Except.bind]
  cases hl : loadSource files path with
  | error d => rw [hl] at hout; cases hout
  | ok text =>
    simp only [hl] at hout
    simp only [← hout]
    exact ⟨fun r hr => by simp [Attempt.outcome, Except.map, hr],
      fun hc => by simp [Attempt.outcome, Except.map, hc, pure, Except.pure]⟩

end JumpMacros
