import JumpMacros.Proofs.CommandLines
import JumpMacros.Proofs.CommandSteps
import JumpMacros.Proofs.PathNames
import JumpMacros.Proofs.WrittenFiles

/-!
# The commands agree

**Theorem (`commands_agree`).** Unless checking a file runs into an error that is no diagnostic,
there is one list of diagnostics behind the three commands. `check` reports it; `expand` reports
the same with the same status, except for what the compiler refuses, which it does not look for;
`run` reports the first of them and runs nothing. If there are none, all three succeed on the same
expanded module, and `expand` writes into a file what it prints without one.

There is one case for each step that can stop a command. The settings are read in one place, so
that case is the same for all commands. For the other steps `outcome_expandPath` says that `run`
raises the first diagnostic of the list that the other two report.
-/

namespace JumpMacros

/-! ## Statuses and reports -/

/-- A fault of a file itself: a source file that cannot be loaded or compiled, or a settings file
that is missing. -/
def Diagnostic.isFileFault (d : Diagnostic) : Bool :=
  d.cause.family == .sourceLoad || d.cause.code == "E_CONFIG_NOT_FOUND"

/-- The status for diagnostics. -/
def statusOf (ds : List Diagnostic) : Int := if ds.all Diagnostic.isFileFault then 1 else 2

/-- What a command leaves that stops with diagnostics: lines, or one structured report. What is
wrong with the settings is reported in lines in any case. -/
def stopped (w : Surroundings) (ds : List Diagnostic) (report : Payload) : Format → Outcome
  | .text => refuse w (statusOf ds) ds
  | .json =>
    if ds.any fun d => d.cause.family == .config then refuse w (statusOf ds) ds
    else .printing w (statusOf ds) (report.text ++ "\n") ""

/-- The only diagnostic is that the compiler refuses the expanded module. -/
def CompileOnly (ds : List Diagnostic) : Prop := ds.map (·.cause.code) = ["E_COMPILE"]

/-! ## Agreement -/

/-- The answer when a file was written. -/
def Expanded.confirmation (e : Expanded) (target : String) : Format → String
  | .text => "OK: wrote expanded source to " ++ target ++ "\n"
  | .json => (reportPayload "expand" [] e.records none).text ++ "\n"

/-- The answer when a file was checked. -/
def Expanded.approval (e : Expanded) : Format → String
  | .text => "OK: " ++ toString e.records.length ++ " invocation(s) expanded\n"
  | .json => (reportPayload "check" [] e.records none).text ++ "\n"

/-- `expand` succeeds: it prints the expanded module, or writes it. -/
structure Query.Shows (q : Query) (w : Surroundings) (e : Expanded) : Prop where
  text : q.expand w .text none = .printing w 0 (e.source ++ "\n") ""
  json : q.expand w .json none = .printing w 0
    ((reportPayload "expand" [] e.records (some (.str e.source))).text ++ "\n") ""
  written : ∀ target files, target ≠ "" → writeSource w.files target e.source = .ok files →
    (∀ f, q.expand w f (some target) =
      .printing { w with files := files } 0 (e.confirmation target f) "") ∧
    (∃ place, files.Wrote (.ofString target) (Text.Utf8.encode (withFinalLineEnd e.source)) place ∧
      w.files.KeepsBut files place) ∧
    (files.isReadable (.ofString target) = true → files.read (.ofString target) =
      .ok (Text.Utf8.encode (withFinalLineEnd e.source)))
  same : e.source.endsWith "\n" = false →
    withFinalLineEnd e.source = (q.expand w .text none).out

/-- `check` and `run` succeed: the script is executed. -/
structure Query.Passes (q : Query) (w : Surroundings) (e : Expanded) : Prop where
  check : ∀ f, q.check w f = .printing w 0 (e.approval f) ""
  run : ∃ s r session, q.settings w.files = .ok s ∧
    Script.runPath w.files w.session s q.path [] = (.ok r, session) ∧
    q.run w = scriptOutcome ⟨r.machine.files, session⟩ r.machine.printed r.stop

/-- **How the commands agree** about the diagnostics of a file. -/
structure CommandsAgree (w : Surroundings) (q : Query) (ds : List Diagnostic) : Prop where
  sorted : Diagnostic.sort ds = ds
  alike : (∀ d ∈ ds, d.isFileFault = true) ∨ ∀ d ∈ ds, d.isFileFault = false
  check_status : ∀ f, (q.check w f).status = 0 ↔ ds = []
  check : ds ≠ [] → ∀ f, q.check w f = stopped w ds (reportPayload "check" ds [] none) f
  expand_status : ∀ f, (q.expand w f none).status = 0 ↔ ds = [] ∨ CompileOnly ds
  expand : ds ≠ [] → ¬CompileOnly ds → ∀ f target,
    q.expand w f target = stopped w ds (reportPayload "expand" ds [] (some .null)) f
  run : ds ≠ [] → q.run w = refuse w (statusOf ds) (ds.take 1)
  executes : ds = [] ↔ ∃ s r session, q.settings w.files = .ok s ∧
    Script.runPath w.files w.session s q.path [] = (.ok r, session)
  succeeds : ds = [] ∨ CompileOnly ds → ∃ e, q.Shows w e ∧ (ds = [] → q.Passes w e)

/-! ## What one step reports -/

/-- What the step that finds a cause says about the family and the code of the cause. -/
theorem Cause.of_step {c : Cause} {step : Step} (h : c.step? = some step) :
    (c.family == .config) = decide (step = .settings) ∧
      (c.family == .sourceLoad) = decide (step = .loading ∨ step = .compilation) ∧
      (c.code = "E_COMPILE" ↔ step = .compilation) ∧
      (step ≠ .settings → c.code ≠ "E_CONFIG_NOT_FOUND") := by
  cases c <;> cases h <;> simp [family, code]

theorem isFileFault_of_step {d : Diagnostic} {step : Step} (h : d.cause.step? = some step) :
    d.isFileFault = match step with
      | .settings => d.cause.code == "E_CONFIG_NOT_FOUND"
      | .loading | .compilation => true
      | .expansion => false := by
  obtain ⟨-, hload, -, hfound⟩ := Cause.of_step h
  rw [Diagnostic.isFileFault, hload]
  cases step with
  | expansion => simpa using hfound
  | _ => simp

theorem statusOf_ne_zero (ds : List Diagnostic) : statusOf ds ≠ 0 := by
  unfold statusOf
  split <;> decide

theorem sort_eq_self {ds : List Diagnostic} (h : Diagnostic.Sorted ds) : Diagnostic.sort ds = ds :=
  List.mergeSort_of_pairwise h

namespace Findings

variable {step : Step} {ds : List Diagnostic}

/-- What one step finds is of one kind. -/
theorem alike (h : Findings step ds) :
    (∀ d ∈ ds, d.isFileFault = true) ∨ ∀ d ∈ ds, d.isFileFault = false := by
  cases step with
  | settings =>
    obtain ⟨d, rfl⟩ := h.single (by decide)
    cases hd : d.isFileFault <;> simp [hd]
  | loading => exact .inl fun d hd => isFileFault_of_step (h.ofStep d hd)
  | expansion => exact .inr fun d hd => isFileFault_of_step (h.ofStep d hd)
  | compilation => exact .inl fun d hd => isFileFault_of_step (h.ofStep d hd)

/-- The status for all is the status for the first one. -/
theorem statusOf_first {d : Diagnostic} (h : Findings step (d :: ds)) :
    statusOf [d] = statusOf (d :: ds) := by
  unfold statusOf
  rcases h.alike with hall | hnone
  · rw [if_pos (by simpa using hall d), if_pos (List.all_eq_true.2 hall)]
  · have hd := hnone d List.mem_cons_self
    rw [if_neg (by simp [hd]), if_neg (by simp [hd])]

theorem compileOnly_iff (h : Findings step ds) : CompileOnly ds ↔ step = .compilation := by
  constructor
  · intro hcode
    obtain ⟨d, rest, rfl⟩ := h.exists_cons
    exact (Cause.of_step (h.ofStep d List.mem_cons_self)).2.2.1.1 (List.cons.inj hcode).1
  · rintro rfl
    obtain ⟨d, rfl⟩ := h.single (by decide)
    rw [CompileOnly, List.map_singleton,
      (Cause.of_step (h.ofStep d List.mem_cons_self)).2.2.1.2 rfl]

/-- Apart from the settings, the families of the diagnostics give the status. -/
theorem statusOf_eq (h : Findings step ds) (hstep : step ≠ .settings) :
    statusOf ds = Diagnostic.exitCode ds := by
  have hfault : ∀ d ∈ ds, d.isFileFault = decide (step = .loading ∨ step = .compilation) := by
    intro d hd
    rw [isFileFault_of_step (h.ofStep d hd)]
    cases step <;> simp at hstep ⊢
  have hload (d : Diagnostic) (hd : d ∈ ds) := (Cause.of_step (h.ofStep d hd)).2.1
  unfold statusOf Diagnostic.exitCode
  by_cases hfile : step = .loading ∨ step = .compilation
  · obtain ⟨d, rest, rfl⟩ := h.exists_cons
    have hall : ∀ d' ∈ d :: rest, d'.isFileFault = true := fun d' hd' => by
      simp [hfault d' hd', hfile]
    have hfirst : (d.cause.family == .sourceLoad) = true := by simp [hload d, hfile]
    rw [if_pos (List.all_eq_true.2 hall), if_pos (by simp [hfirst])]
    rfl
  · obtain ⟨d, rest, rfl⟩ := h.exists_cons
    have hfirst : d.isFileFault = false := by simp [hfault d, hfile]
    have hnone : ∀ d' ∈ d :: rest, ¬(d'.cause.family == .sourceLoad) = true := fun d' hd' => by
      simp [hload d' hd', hfile]
    rw [if_neg (by simp [hfirst]), if_neg (by simpa using hnone)]
    rfl

/-- Diagnostics that are not about the settings are reported in either format, with the status
that their families give. -/
theorem stopped_eq (h : Findings step ds) (hstep : step ≠ .settings) (w : Surroundings)
    (report : Payload) (f : Format) : stopped w ds report f =
      match f with
      | .text => refuse w (Diagnostic.exitCode ds) ds
      | .json => .printing w (Diagnostic.exitCode ds) (report.text ++ "\n") "" := by
  have hconfig : (ds.any fun d => d.cause.family == .config) = false := by
    refine List.any_eq_false.2 fun d hd => ?_
    simp [(Cause.of_step (h.ofStep d hd)).1, hstep]
  cases f with
  | text => rw [stopped, h.statusOf_eq hstep]
  | json => simp only [stopped, h.statusOf_eq hstep, hconfig]; rfl

/-- What is wrong with the settings is reported in lines. -/
theorem stopped_settings (h : Findings .settings ds) (w : Surroundings) (report : Payload)
    (f : Format) : stopped w ds report f = refuse w (statusOf ds) ds := by
  obtain ⟨d, rfl⟩ := h.single (by decide)
  have hconfig := (Cause.of_step (h.ofStep d List.mem_cons_self)).1
  cases f with
  | text => rfl
  | json => simp [stopped, hconfig]

end Findings

/-! ## One step stops the commands, or none -/

@[simp] theorem stopped_status (w : Surroundings) (ds : List Diagnostic) (report : Payload)
    (f : Format) : (stopped w ds report f).status = statusOf ds := by
  unfold stopped
  split
  · rfl
  · split <;> rfl

@[simp] theorem printing_status (w : Surroundings) (status : Int) (out err : String) :
    (Outcome.printing w status out err).status = status := rfl

section

variable {w : Surroundings} {q : Query} {s : Settings}

/-- Expanding succeeds, whether or not the module compiles. -/
theorem Query.Shows.status {e : Expanded} (h : q.Shows w e) (f : Format) :
    (q.expand w f none).status = 0 := by
  cases f with
  | text => rw [h.text]; rfl
  | json => rw [h.json]; rfl

/-- The commands agree if one of the steps stops them. -/
theorem CommandsAgree.of_findings {step : Step} {ds : List Diagnostic} (h : Findings step ds)
    (hcheck : ∀ f, q.check w f = stopped w ds (reportPayload "check" ds [] none) f)
    (hexpand : step ≠ .compilation → ∀ f target,
      q.expand w f target = stopped w ds (reportPayload "expand" ds [] (some .null)) f)
    (hshows : step = .compilation → ∃ e, q.Shows w e)
    (hrun : q.run w = refuse w (statusOf ds) (ds.take 1))
    (hidle : ∀ s, q.settings w.files = .ok s →
      ∃ r, Script.runPath w.files w.session s q.path [] = (.error r, w.session)) :
    CommandsAgree w q ds where
  sorted := sort_eq_self h.sorted
  alike := h.alike
  check_status f := by simp [hcheck, statusOf_ne_zero, h.nonempty]
  check _ := hcheck
  expand_status f := by
    rw [h.compileOnly_iff, or_iff_right h.nonempty]
    by_cases hstep : step = .compilation
    · obtain ⟨e, he⟩ := hshows hstep
      simp [he.status, hstep]
    · simp [hexpand hstep, statusOf_ne_zero, hstep]
  expand _ hcompile := hexpand fun hstep => hcompile (h.compileOnly_iff.2 hstep)
  run _ := hrun
  executes := by
    refine iff_of_false h.nonempty ?_
    rintro ⟨s, r, session, hs, hr⟩
    obtain ⟨r', hr'⟩ := hidle s hs
    rw [hr'] at hr
    cases hr
  succeeds hds := by
    obtain ⟨e, he⟩ := hshows (h.compileOnly_iff.1 (hds.resolve_left h.nonempty))
    exact ⟨e, he, fun hnil => absurd hnil h.nonempty⟩

/-! ### Settings that cannot be read -/

theorem agree_of_settings_error {d : Diagnostic} {status : Int}
    (hs : q.settings w.files = .error (.inr (d, status))) : CommandsAgree w q [d] := by
  obtain ⟨hfindings, hstatus⟩ := settings_error hs
  have hrefuse : refuse w status [d] = refuse w (statusOf [d]) [d] := by
    have hfault := isFileFault_of_step (hfindings.ofStep d List.mem_cons_self)
    by_cases hcode : d.cause.code = "E_CONFIG_NOT_FOUND" <;>
      simp [hstatus, statusOf, hfault, hcode]
  refine .of_findings hfindings (fun f => ?_) (fun _ f target => ?_) (fun h => by cases h) ?_ ?_
  · rw [hfindings.stopped_settings, ← hrefuse, (q.refuse_of_settings_error hs f none).1]
  · rw [hfindings.stopped_settings, ← hrefuse, (q.refuse_of_settings_error hs f target).2.1]
  · rw [(q.refuse_of_settings_error hs .text none).2.2, hrefuse]
    rfl
  · intro s hs'
    rw [hs] at hs'
    cases hs'

/-! ### A file that cannot be expanded -/

theorem agree_of_failed {ds : List Diagnostic} (hs : q.settings w.files = .ok s)
    (hx : expandPath w.files s q.path = .failed ds) : CommandsAgree w q ds := by
  obtain ⟨step, hfindings, hstep, hcompile⟩ :
      ∃ step, Findings step ds ∧ step ≠ .settings ∧ step ≠ .compilation := by
    rcases expandPath_failed hx with h | h
    · exact ⟨_, h, by decide, by decide⟩
    · exact ⟨_, h, by decide, by decide⟩
  obtain ⟨d, rest, rfl⟩ := hfindings.exists_cons
  have hidle : Script.runPath w.files w.session s q.path [] =
      (.error (.diagnostic d), w.session) :=
    runPath_of_error (by rw [hx]; rfl) []
  refine .of_findings hfindings (fun f => ?_) (fun _ f target => ?_) (absurd · hcompile) ?_ ?_
  · rw [hfindings.stopped_eq hstep, q.check_of_settings hs]
    cases f <;> simp only [checkPath_of_expandPath hx]
  · cases f <;> rw [hfindings.stopped_eq hstep, q.expand_of_failed hs hx]
  · have hfirst := Findings.singleton (hfindings.ofStep d List.mem_cons_self)
    rw [q.run_of_settings hs, hidle, ← hfindings.statusOf_first, hfirst.statusOf_eq hstep]
    rfl
  · intro s' hs'
    rw [hs] at hs'
    cases hs'
    exact ⟨_, hidle⟩

/-! ### A file that can be expanded -/

theorem shows_of_expanded {e : Expanded} (hs : q.settings w.files = .ok s)
    (hx : expandPath w.files s q.path = .expanded e) : q.Shows w e where
  text := (q.expand_of_expanded hs hx .text).1
  json := (q.expand_of_expanded hs hx .json).1
  written target files ht hwrite := by
    refine ⟨fun f => ?_, writeSource_eq_ok hwrite, read_writeSource hwrite⟩
    rw [(q.expand_of_expanded hs hx f).2 target files ht hwrite]
    cases f <;> rfl
  same hend := by
    rw [(q.expand_of_expanded hs hx .text).1, withFinalLineEnd, hend]
    rfl

theorem agree_of_refused {e : Expanded} {d : Diagnostic} (hs : q.settings w.files = .ok s)
    (hx : expandPath w.files s q.path = .expanded e)
    (hc : compileModule q.path false e.module = .error (.diagnostic d)) :
    CommandsAgree w q [d] := by
  have hfindings := compileModule_error hc
  have hidle := (runPath_of_expanded hx w.session []).1 _ hc
  refine .of_findings hfindings (fun f => ?_) (absurd rfl ·)
    (fun _ => ⟨e, shows_of_expanded hs hx⟩) ?_ ?_
  · rw [hfindings.stopped_eq (by decide), q.check_of_settings hs]
    cases f <;> simp only [checkPath_of_expandPath hx, hc]
  · rw [q.run_of_settings hs, hidle, hfindings.statusOf_eq (by decide)]
    rfl
  · intro s' hs'
    rw [hs] at hs'
    cases hs'
    exact ⟨_, hidle⟩

theorem agree_of_compiled {e : Expanded} (hs : q.settings w.files = .ok s)
    (hx : expandPath w.files s q.path = .expanded e)
    (hc : compileModule q.path false e.module = .ok ()) : CommandsAgree w q [] := by
  obtain ⟨r, session, hr⟩ := (runPath_of_expanded hx w.session []).2 hc
  have hshows := shows_of_expanded hs hx
  have hcheck (f : Format) : q.check w f = .printing w 0 (e.approval f) "" := by
    rw [q.check_of_settings hs, checkPath_of_expandPath hx]
    simp only [hc]
    cases f <;> rfl
  have hrun : q.run w = scriptOutcome ⟨r.machine.files, session⟩ r.machine.printed r.stop := by
    rw [q.run_of_settings hs, hr]
  exact {
    sorted := sort_eq_self .nil
    alike := .inl (by simp)
    check_status := by simp [hcheck]
    check := absurd rfl
    expand_status := by simp [hshows.status]
    expand := absurd rfl
    run := absurd rfl
    executes := iff_of_true rfl ⟨s, r, session, hs, hr⟩
    succeeds := fun _ => ⟨e, hshows, fun _ => ⟨hcheck, s, r, session, hs, hr, hrun⟩⟩ }

end

/-- **The commands agree** unless `check` runs into an error that is no diagnostic. -/
theorem commands_agree (w : Surroundings) (q : Query) (h : (q.check w .text).raised = none) :
    ∃ ds, CommandsAgree w q ds := by
  cases hs : q.settings w.files with
  | error e =>
    cases e with
    | inl r =>
      rw [q.check_of_settings_raised hs] at h
      cases h
    | inr found => exact ⟨_, agree_of_settings_error hs⟩
  | ok s =>
    rw [q.check_of_settings hs] at h
    cases hx : expandPath w.files s q.path with
    | failed ds => exact ⟨ds, agree_of_failed hs hx⟩
    | crashed r =>
      rw [checkPath_of_expandPath hx] at h
      cases h
    | expanded e =>
      cases hc : compileModule q.path false e.module with
      | ok _ => exact ⟨_, agree_of_compiled hs hx hc⟩
      | error r =>
        rw [checkPath_of_expandPath hx] at h
        simp only [hc] at h
        cases r with
        | diagnostic d => exact ⟨_, agree_of_refused hs hx hc⟩
        | _ => cases h

/-- The commands agree about a file that does not exist. -/
theorem commands_agree_missing :
    (Query.check ⟨"m.py", none, false⟩ ⟨FileTree.empty, Session.idle⟩ .text).raised = none ∧
      ∃ ds, CommandsAgree ⟨FileTree.empty, Session.idle⟩ ⟨"m.py", none, false⟩ ds := by
  have hload : loadSource FileTree.empty "m.py" =
      .error (.diagnostic (.ofFile .fileNotFound (some "m.py"))) := by
    have hpath : Path.ofString "m.py" = ⟨false, ["m.py"]⟩ := by
      rw [Path.ofString_eq]
      with_unfolding_all decide
    rw [loadSource, hpath]
    decide
  have h : (Query.check ⟨"m.py", none, false⟩ ⟨FileTree.empty, Session.idle⟩ .text).raised =
      none := by
    have hx : expandPath FileTree.empty .default "m.py" =
        .failed [.ofFile .fileNotFound (some "m.py")] := by
      simp only [expandPath, hload]
    rw [Query.check_of_settings (s := .default) rfl, checkPath_of_expandPath hx]
    rfl
  exact ⟨h, commands_agree _ _ h⟩

end JumpMacros
