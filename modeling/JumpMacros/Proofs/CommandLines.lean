import JumpMacros.CommandLine.Command
import Mathlib

/-!
# Queries and their command lines

A `Query` is what the commands have in common: a path, a settings file and whether macros are
recognised by their bare names. Each command gets it on its command line, behind its own options
for the format and the file to write.

**Lemmas (`check_eq`, `expand_eq`, `run_eq`).** Every query reaches the command it is for, with the
path and the options as they were given, and the options of one command do not change the settings
(`settings_arguments`).
-/

namespace JumpMacros

/-! ## Queries -/

/-- What the commands are asked about: a file, perhaps a settings file, and whether macros are
recognised by their bare names. -/
structure Query where
  path : String
  config : Option String
  implicit : Bool

namespace Query

/-- The options with a value, those of one command last. -/
def values (q : Query) (own : List (String × String)) : List (String × String) :=
  (q.config.map ("--config", ·)).toList ++ own

def flags (q : Query) : List String := if q.implicit then ["--implicit"] else []

/-- The command line. The path stands behind a double dash, so that it may begin with a dash. -/
def argv (q : Query) (command : String) (own : List (String × String)) : List String :=
  command :: ((q.values own).flatMap (fun e => [e.1, e.2]) ++ q.flags ++ ["--", q.path])

/-- The same, sorted out. -/
def arguments (q : Query) (own : List (String × String)) : Arguments :=
  ⟨q.values own, q.flags, [q.path]⟩

@[simp] theorem positional_arguments (q : Query) (own : List (String × String)) :
    (q.arguments own).positional = [q.path] := rfl

@[simp] theorem path_arguments (q : Query) (own : List (String × String)) :
    (q.arguments own).path = q.path := rfl

/-- The settings asked for. -/
def settings (q : Query) (files : FileTree) : Except (Sum Raised (Diagnostic × Int)) Settings :=
  (q.arguments []).settings files

end Query

/-- The option for a format; text needs none. -/
def Format.option : Format → List (String × String)
  | .text => []
  | .json => [("--format", "json")]

/-- The option for a file to write. -/
def outOption (target : Option String) : List (String × String) :=
  (target.map ("--out", ·)).toList

namespace Query

def check (q : Query) (w : Surroundings) (f : Format) : Outcome :=
  commandLine w (q.argv "check" f.option)

def expand (q : Query) (w : Surroundings) (f : Format) (target : Option String) : Outcome :=
  commandLine w (q.argv "expand" (f.option ++ outOption target))

def run (q : Query) (w : Surroundings) : Outcome := commandLine w (q.argv "run" [])

end Query

namespace CommandSpec

/-- A command knows an option by its full name. -/
structure Knows (c : CommandSpec) (name : String) (takesValue : Bool) : Prop where
  dash : (name.startsWith "-" && decide (name.length > 1)) = true
  notEnd : name ≠ "--"
  whole : splitValue name = (name, none)
  found : (c.allOptions.find? (·.name == name)).map (·.takesValue) = some takesValue

instance (c : CommandSpec) (name : String) (takesValue : Bool) :
    Decidable (c.Knows name takesValue) :=
  decidable_of_iff
    ((name.startsWith "-" && decide (name.length > 1)) = true ∧ name ≠ "--" ∧
      splitValue name = (name, none) ∧
      (c.allOptions.find? (·.name == name)).map (·.takesValue) = some takesValue)
    ⟨fun ⟨h₁, h₂, h₃, h₄⟩ => ⟨h₁, h₂, h₃, h₄⟩, fun ⟨h₁, h₂, h₃, h₄⟩ => ⟨h₁, h₂, h₃, h₄⟩⟩

variable {c : CommandSpec} {name : String}

/-- An option that a command knows is taken with the argument behind it, or alone. -/
theorem sortOut_known {takesValue : Bool} (h : c.Knows name takesValue) (a : Arguments) (v : String)
    (rest : List String) :
    c.sortOut a (name :: v :: rest) =
      if takesValue then c.sortOut (a.addValue name v) rest
      else c.sortOut (a.addFlag name) (v :: rest) := by
  obtain ⟨o, ho, rfl⟩ := Option.map_eq_some_iff.1 h.found
  rw [sortOut.eq_def]
  split
  next heq => cases heq
  next heq => exact absurd (List.cons.inj heq).1 h.notEnd
  next heq =>
    obtain ⟨rfl, rfl⟩ := List.cons.inj heq
    simp [h.dash, h.whole, ho]

theorem sortOut_values {es : List (String × String)} (h : ∀ e ∈ es, c.Knows e.1 true)
    (a : Arguments) (rest : List String) :
    c.sortOut a (es.flatMap (fun e => [e.1, e.2]) ++ rest) =
      c.sortOut { a with values := a.values ++ es } rest := by
  induction es generalizing a with
  | nil => simp
  | cons e es ih =>
    have hes := ih (fun e' he' => h e' (List.mem_cons_of_mem _ he')) (a.addValue e.1 e.2)
    simp only [List.flatMap_cons, List.cons_append, List.nil_append]
    rw [sortOut_known (h e List.mem_cons_self), if_pos rfl, hes]
    simp [Arguments.addValue]

/-- A command that knows all options of a query reads its arguments. -/
theorem read_argv (q : Query) {own : List (String × String)}
    (hvalues : ∀ e ∈ q.values own, c.Knows e.1 true) (hflag : c.Knows "--implicit" false)
    (hpath : c.needsPath = true) :
    c.read (q.argv name own).tail = .go (q.arguments own) := by
  have hsort : c.sortOut .empty (q.argv name own).tail = some (q.arguments own) := by
    rw [Query.argv, List.tail_cons, List.append_assoc, sortOut_values hvalues]
    unfold Query.flags
    split
    next himplicit =>
      rw [List.singleton_append, sortOut_known hflag, if_neg Bool.false_ne_true, sortOut.eq_2]
      simp [Arguments.addFlag, Arguments.addPositional, Arguments.empty, Query.arguments,
        Query.flags, himplicit]
    next himplicit =>
      rw [List.nil_append, sortOut.eq_2]
      simp [Arguments.addPositional, Arguments.empty, Query.arguments, Query.flags, himplicit]
  have hhelp : (q.arguments own).hasFlag helpOption.name = false := by
    unfold Query.arguments Query.flags Arguments.hasFlag helpOption
    split <;> simp
  simp [read, hsort, hhelp, hpath]

end CommandSpec

namespace Query

variable {q : Query}

/-- The options of other names do not change the settings. -/
theorem settings_arguments (q : Query) (own : List (String × String))
    (h : ∀ e ∈ own, e.1 ≠ "--config") (files : FileTree) :
    (q.arguments own).settings files = q.settings files := by
  have hown : own.reverse.lookup "--config" = none :=
    List.lookup_eq_none_iff.2 fun e he => by simpa using (h e (List.mem_reverse.1 he)).symm
  have hvalue : (q.arguments own).value? "--config" = (q.arguments []).value? "--config" := by
    simp [Arguments.value?, arguments, values, List.reverse_append, List.lookup_append, hown]
  simp only [settings, Arguments.settings, hvalue]
  rfl

theorem format_arguments (q : Query) (f : Format) (target : Option String) :
    (q.arguments (f.option ++ outOption target)).format = .ok f := by
  cases f <;> cases target <;> cases hc : q.config <;>
    simp [Arguments.format, Arguments.value?, arguments, values, Format.option, outOption, hc,
      Format.ofName?, List.lookup]

theorem name_of_mem_option {f : Format} {e : String × String} (h : e ∈ f.option) :
    e.1 = "--format" := by
  cases f with
  | text => cases h
  | json => exact (List.mem_singleton.1 h) ▸ rfl

theorem name_of_mem_options {f : Format} {target : Option String} {e : String × String}
    (h : e ∈ f.option ++ outOption target) : e.1 = "--format" ∨ e.1 = "--out" := by
  rcases List.mem_append.1 h with h | h
  · exact .inl (name_of_mem_option h)
  · obtain ⟨t, -, rfl⟩ : ∃ t, target = some t ∧ ("--out", t) = e := by simpa [outOption] using h
    exact .inr rfl

/-- The first argument names the command. -/
theorem commandLine_dispatch (w : Surroundings) {name : String}
    (hname : name ∈ ["check", "expand", "run"]) (own : List (String × String)) :
    commandLine w (q.argv name own) = dispatch w name (q.argv name own).tail := by
  simp only [List.mem_cons, List.not_mem_nil, or_false] at hname
  rcases hname with rfl | rfl | rfl <;> simp [argv, commandLine, leading]

/-- A command that gets the arguments of a query. -/
theorem commandLine_argv (w : Surroundings) {name : String} {c : CommandSpec}
    {go : Surroundings → Arguments → Outcome} {own : List (String × String)}
    (hname : name ∈ ["check", "expand", "run"])
    (hfind : commands.find? (fun c => c.1.name == name) = some (c, go))
    (hconfig : c.Knows "--config" true) (hown : ∀ e ∈ own, c.Knows e.1 true)
    (hflag : c.Knows "--implicit" false) (hpath : c.needsPath = true) :
    commandLine w (q.argv name own) = go w (q.arguments own) := by
  have hvalues : ∀ e ∈ q.values own, c.Knows e.1 true := by
    intro e he
    rcases List.mem_append.1 he with he | he
    · obtain ⟨path, -, rfl⟩ := by simpa using he
      exact hconfig
    · exact hown e he
  rw [commandLine_dispatch w hname, dispatch]
  simp only [hfind, CommandSpec.read_argv q hvalues hflag hpath]

/-- Formats and targets do not change which settings are read. -/
theorem withFormat_arguments (q : Query) (w : Surroundings) (f : Format) (target : Option String)
    (go : Format → Settings → Outcome) :
    withFormat w (q.arguments (f.option ++ outOption target)) go =
      withSettings w (q.arguments []) (go f) := by
  have hsettings := q.settings_arguments (f.option ++ outOption target) (fun e he => by
    rcases name_of_mem_options he with h | h <;> simp [h]) w.files
  simp only [withFormat, format_arguments, withSettings, hsettings, settings]

/-- Each command knows the options that queries have for it. -/
theorem knows_options :
    (checkSpec.Knows "--config" true ∧ checkSpec.Knows "--implicit" false ∧
      checkSpec.Knows "--format" true) ∧
    (expandSpec.Knows "--config" true ∧ expandSpec.Knows "--implicit" false ∧
      expandSpec.Knows "--format" true ∧ expandSpec.Knows "--out" true) ∧
    runSpec.Knows "--config" true ∧ runSpec.Knows "--implicit" false := by
  with_unfolding_all decide

theorem check_eq (q : Query) (w : Surroundings) (f : Format) :
    q.check w f = checkCommand w (q.arguments (f.option ++ outOption none)) := by
  obtain ⟨hconfig, hflag, hformat⟩ := knows_options.1
  have hopts : f.option ++ outOption none = f.option := List.append_nil _
  rw [hopts]
  exact commandLine_argv w (by simp) rfl hconfig
    (fun e he => name_of_mem_option he ▸ hformat) hflag rfl

theorem expand_eq (q : Query) (w : Surroundings) (f : Format) (target : Option String) :
    q.expand w f target = expandCommand w (q.arguments (f.option ++ outOption target)) := by
  obtain ⟨hconfig, hflag, hformat, hout⟩ := knows_options.2.1
  refine commandLine_argv w (by simp) rfl hconfig (fun e he => ?_)
    hflag rfl
  rcases name_of_mem_options he with h | h
  · exact h ▸ hformat
  · exact h ▸ hout

theorem run_eq (q : Query) (w : Surroundings) : q.run w = runCommand w (q.arguments []) := by
  obtain ⟨hconfig, hflag⟩ := knows_options.2.2
  exact commandLine_argv w (by simp) rfl hconfig (by simp) hflag rfl

/-! ### What a command does with its settings -/

variable {w : Surroundings} {s : Settings} {f : Format} {target : Option String}

theorem withSettings_ok (h : q.settings w.files = .ok s) (go : Settings → Outcome) :
    withSettings w (q.arguments []) go = go s := by
  rw [settings] at h
  simp only [withSettings, h]

theorem check_of_settings (h : q.settings w.files = .ok s) (f : Format) : q.check w f =
    match checkPath w.files s q.path with
    | .crashed r => .crash w r
    | .failed ds =>
      match f with
      | .text => refuse w (Diagnostic.exitCode ds) ds
      | .json => .printing w (Diagnostic.exitCode ds)
          ((reportPayload "check" ds [] none).text ++ "\n") ""
    | .expanded e =>
      match f with
      | .text =>
        .printing w 0 ("OK: " ++ toString e.records.length ++ " invocation(s) expanded\n") ""
      | .json => .printing w 0 ((reportPayload "check" [] e.records none).text ++ "\n") "" := by
  rw [check_eq, checkCommand, withFormat_arguments, withSettings_ok h]
  rfl

theorem expand_of_failed {ds : List Diagnostic} (h : q.settings w.files = .ok s)
    (hx : expandPath w.files s q.path = .failed ds) (f : Format) (target : Option String) :
    q.expand w f target =
      match f with
      | .text => refuse w (Diagnostic.exitCode ds) ds
      | .json => .printing w (Diagnostic.exitCode ds)
          ((reportPayload "expand" ds [] (some .null)).text ++ "\n") "" := by
  rw [expand_eq, expandCommand, withFormat_arguments, withSettings_ok h]
  cases f <;> simp only [path_arguments, hx]

theorem out_arguments (q : Query) (f : Format) (target : Option String) :
    (q.arguments (f.option ++ outOption target)).value? "--out" = target := by
  cases f <;> cases target <;> cases hc : q.config <;>
    simp [Arguments.value?, arguments, values, Format.option, outOption, hc, List.lookup]

theorem expand_of_expanded {e : Expanded} (h : q.settings w.files = .ok s)
    (hx : expandPath w.files s q.path = .expanded e) (f : Format) :
    (q.expand w f none =
      match f with
      | .text => .printing w 0 (e.source ++ "\n") ""
      | .json => .printing w 0
          ((reportPayload "expand" [] e.records (some (.str e.source))).text ++ "\n") "") ∧
    ∀ t files, t ≠ "" → writeSource w.files t e.source = .ok files →
      q.expand w f (some t) =
        match f with
        | .text => .printing { w with files := files } 0
            ("OK: wrote expanded source to " ++ t ++ "\n") ""
        | .json => .printing { w with files := files } 0
            ((reportPayload "expand" [] e.records none).text ++ "\n") "" := by
  have hquiet (own : List (String × String)) : (q.arguments own).hasFlag "--verbose" = false := by
    unfold arguments flags Arguments.hasFlag
    split <;> simp
  refine ⟨?_, fun t files ht hwrite => ?_⟩
  · rw [expand_eq, expandCommand, withFormat_arguments, withSettings_ok h]
    simp only [path_arguments, hx, hquiet, out_arguments]
    cases f <;> rfl
  · have htarget : (some t).filter (fun t => !t.isEmpty) = some t := by simp [ht]
    rw [expand_eq, expandCommand, withFormat_arguments, withSettings_ok h]
    simp only [path_arguments, hx, hquiet, out_arguments, htarget, hwrite]
    cases f <;> rfl

theorem run_of_settings (h : q.settings w.files = .ok s) : q.run w =
    match Script.runPath w.files w.session s q.path [] with
    | (.error (.diagnostic d), session) =>
      refuse { w with session := session } (Diagnostic.exitCode [d]) [d]
    | (.error r, session) => .crash { w with session := session } r
    | (.ok r, session) => scriptOutcome ⟨r.machine.files, session⟩ r.machine.printed r.stop := by
  rw [run_eq, runCommand, withSettings_ok h]
  rfl

/-- Without settings no command gets further. -/
theorem refuse_of_settings_error {d : Diagnostic} {status : Int}
    (h : q.settings w.files = .error (.inr (d, status))) (f : Format) (target : Option String) :
    q.check w f = refuse w status [d] ∧ q.expand w f target = refuse w status [d] ∧
      q.run w = refuse w status [d] := by
  have hstop (go : Settings → Outcome) :
      withSettings w (q.arguments []) go = refuse w status [d] := by
    rw [settings] at h
    rw [withSettings, h]
  refine ⟨?_, ?_, ?_⟩
  · rw [check_eq, checkCommand, withFormat_arguments, hstop]
  · rw [expand_eq, expandCommand, withFormat_arguments, hstop]
  · rw [run_eq, runCommand, hstop]

theorem check_of_settings_raised {r : Raised} (h : q.settings w.files = .error (.inl r))
    (f : Format) : q.check w f = .crash w r := by
  rw [check_eq, checkCommand, withFormat_arguments, withSettings, ← settings, h]

end Query

end JumpMacros
