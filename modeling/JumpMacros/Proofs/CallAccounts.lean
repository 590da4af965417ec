import JumpMacros.Expand
import JumpMacros.Proofs.CallVisits
import JumpMacros.Proofs.DiagnosticOrder
import JumpMacros.Proofs.KnownMacros

/-!
# Every resolved call is accounted for

**Theorem (`resolved_calls_accounted`).** Each call in a tree is visited exactly once, and each
visited call that denotes a macro gives one account: a record if it is a statement that fits a
rule, a mismatch if it is a statement that fits none, and a diagnostic of its position otherwise.
There are no other records and no other diagnostics of calls.

Mismatches and misplaced calls are collected one after the other, while accounts come in the order
of the visits. Sorting makes up for that, since the codes of the two differ.
-/

namespace JumpMacros

open Node (ofStmts)

/-! ## Accounts -/

/-- What a resolved call gives. -/
inductive Account where
  | record (r : Record)
  | error (d : Diagnostic)

namespace Account

def record? : Account → Option Record
  | .record r => some r
  | .error _ => none

def error? : Account → Option Diagnostic
  | .record _ => none
  | .error d => some d

end Account

/-- Whether an argument is not starred. -/
def Expr.isPlain : Expr → Bool
  | .starred _ _ => false
  | _ => true

/-- The arguments of a call fit none of a macro's rules, and what is wrong with them. -/
inductive Macro.Misfits (m : Macro) : List Expr → List Keyword → ShapeProblem → Prop
  | keywords {as : List Expr} {ks : List Keyword} (h : ks ≠ []) : Misfits m as ks .keywords
  | starred {as : List Expr} (h : ∃ a ∈ as, a.isPlain = false) : Misfits m as [] .starred
  | count {as : List Expr} (h : ∀ a ∈ as, a.isPlain = true)
    (hn : ∀ r ∈ m.rules, r.arity ≠ as.length) : Misfits m as [] (.count as.length)

/-- **The account of a visited call** whose callee denotes a macro at its place. -/
inductive Visit.Accounts (s : Settings) (file : Option String) : Visit → Account → Prop
  | record {place : Place} {sp : Span} {p : Position} {f : Expr} {as : List Expr} {m : Macro}
    {r : Rule} (hm : (envAt s place).resolve f.dotted = some m.name)
    (hplain : ∀ a ∈ as, a.isPlain = true) (hr : r ∈ m.rules) (hn : r.arity = as.length) :
    Accounts s file ⟨place, .stmt (.simple sp (.expr (.call p f as [])))⟩
      (.record ⟨m.name, r.describe, some sp.line, some sp.col⟩)
  | mismatch {place : Place} {sp : Span} {p : Position} {f : Expr} {as : List Expr}
    {ks : List Keyword} {m : Macro} {problem : ShapeProblem}
    (hm : (envAt s place).resolve f.dotted = some m.name) (h : m.Misfits as ks problem) :
    Accounts s file ⟨place, .stmt (.simple sp (.expr (.call p f as ks)))⟩
      (.error (.located (.shapeMismatch m.name (m.rules.map Rule.describe) problem) file sp.start))
  | misplaced {place : Place} {p : Position} {f : Expr} {as : List Expr} {ks : List Keyword}
    {m : Macro} (hm : (envAt s place).resolve f.dotted = some m.name) :
    Accounts s file ⟨place, .expr (.call p f as ks)⟩
      (.error (.located (.misplacedCall m.name) file p))

/-! ### Invocations -/

theorem badForm_eq (i : Invocation) : i.badForm =
    if !i.keywords.isEmpty then some .keywords
    else if i.args.any (fun a => !a.isPlain) then some .starred else none := by
  unfold Invocation.badForm
  have hstarred : (fun a : Expr => match a with
      | .starred _ _ => true
      | _ => false) = fun a => !a.isPlain := funext fun a => by cases a <;> rfl
  exact hstarred ▸ rfl

/-- A rule builds a replacement from as many arguments as its shape names. -/
theorem build_of_arity {m : Macro} {r : Rule} (hr : r ∈ m.rules) {as : List Expr}
    (hn : r.arity = as.length) : ∃ x, r.build as = some x := by
  have one (a : String) (f : Expr → Replacement) (h : (Rule.one a f).arity = as.length) :
      ∃ x, (Rule.one a f).build as = some x := by
    obtain ⟨x, rfl⟩ := List.length_eq_one_iff.1 h.symm
    exact ⟨f x, rfl⟩
  have two (a b : String) (f : Expr → Expr → Replacement)
      (h : (Rule.two a b f).arity = as.length) : ∃ x, (Rule.two a b f).build as = some x := by
    obtain ⟨x, y, rfl⟩ := List.length_eq_two.1 h.symm
    exact ⟨f x y, rfl⟩
  cases m <;> simp only [Macro.rules, List.mem_cons, List.not_mem_nil, or_false] at hr
  case label =>
    subst hr
    exact one _ _ hn
  all_goals
    obtain rfl | rfl := hr
    · exact one _ _ hn
    · exact two _ _ _ hn

/-- What comes of an invocation: a record if its arguments are plain and a rule accepts their
number, and a mismatch otherwise. -/
theorem verdict_cases (file : Option String) (m : Macro) (as : List Expr) (ks : List Keyword)
    (sp : Span) :
    (ks = [] ∧ (∀ a ∈ as, a.isPlain = true) ∧ ∃ r ∈ m.rules, r.arity = as.length ∧
      Invocation.verdict file ⟨m.name, as, ks, some sp⟩ =
        .expanded ⟨m.name, r.describe, some sp.line, some sp.col⟩) ∨
    ∃ problem, m.Misfits as ks problem ∧ Invocation.verdict file ⟨m.name, as, ks, some sp⟩ =
      .refused (.located (.shapeMismatch m.name (m.rules.map Rule.describe) problem) file
        sp.start) := by
  have hfits (x : Replacement) (r : Rule) (h : Invocation.replacement m ⟨m.name, as, ks, some sp⟩ =
      .ok (x, r)) : Invocation.verdict file ⟨m.name, as, ks, some sp⟩ =
        .expanded ⟨m.name, r.describe, some sp.line, some sp.col⟩ := by
    simp [Invocation.verdict, ofName?_name, h, Invocation.line, Invocation.col]
  have hmisfits (problem : ShapeProblem) (h : Invocation.replacement m ⟨m.name, as, ks, some sp⟩ =
      .error problem) : Invocation.verdict file ⟨m.name, as, ks, some sp⟩ =
        .refused (.located (.shapeMismatch m.name (m.rules.map Rule.describe) problem) file
          sp.start) := by
    simp only [Invocation.verdict, ofName?_name, h]
    rfl
  by_cases hks : ks = []
  · by_cases hplain : ∀ a ∈ as, a.isPlain = true
    · have hform : as.any (fun a => !a.isPlain) = false := by simpa using hplain
      cases hfind : m.rules.find? fun r => r.arity = as.length with
      | none =>
        refine .inr ⟨.count as.length, hks ▸ .count hplain fun r hr => ?_, hmisfits _ ?_⟩
        · simpa using List.find?_eq_none.1 hfind r hr
        · simp [Invocation.replacement, Invocation.rule, badForm_eq, hks, hform, hfind]
      | some r =>
        have hr := List.mem_of_find?_eq_some hfind
        have hn : r.arity = as.length := by simpa using List.find?_some hfind
        obtain ⟨x, hx⟩ := build_of_arity hr hn
        refine .inl ⟨hks, hplain, r, hr, hn, hfits x r ?_⟩
        simp [Invocation.replacement, Invocation.rule, badForm_eq, hks, hform, hfind, hx]
    · have hstar : ∃ a ∈ as, a.isPlain = false := by simpa using hplain
      have hform : as.any (fun a => !a.isPlain) = true := by simpa using hstar
      refine .inr ⟨.starred, hks ▸ .starred hstar, hmisfits _ ?_⟩
      simp [Invocation.replacement, Invocation.rule, badForm_eq, hks, hform]
  · refine .inr ⟨.keywords, .keywords hks, hmisfits _ ?_⟩
    simp [Invocation.replacement, Invocation.rule, badForm_eq, hks]

/-- The rules of a macro differ in the number of their arguments. -/
theorem rule_unique {m : Macro} {r r' : Rule} (hr : r ∈ m.rules) (hr' : r' ∈ m.rules)
    (h : r.arity = r'.arity) : r = r' := by
  cases m <;> simp only [Macro.rules, List.mem_cons, List.not_mem_nil, or_false] at hr hr'
  case label => rw [hr, hr']
  all_goals
    obtain rfl | rfl := hr <;> obtain rfl | rfl := hr' <;> first | rfl | cases h

namespace Macro.Misfits

variable {m : Macro} {as : List Expr} {problem problem' : ShapeProblem}

/-- Arguments that fit a rule do not misfit. -/
theorem not_fitting (h : m.Misfits as [] problem) (hplain : ∀ a ∈ as, a.isPlain = true) {r : Rule}
    (hr : r ∈ m.rules) : r.arity ≠ as.length := by
  cases h with
  | keywords h => exact absurd rfl h
  | starred h =>
    obtain ⟨a, ha, hstar⟩ := h
    rw [hplain a ha] at hstar
    cases hstar
  | count _ hn => exact hn r hr

theorem unique {ks : List Keyword} (h : m.Misfits as ks problem)
    (h' : m.Misfits as ks problem') : problem = problem' := by
  have plain_starred {as : List Expr} (hplain : ∀ a ∈ as, a.isPlain = true)
      (hstar : ∃ a ∈ as, a.isPlain = false) : False := by
    obtain ⟨a, ha, hstar⟩ := hstar
    rw [hplain a ha] at hstar
    cases hstar
  cases h with
  | keywords hks =>
    cases h' with
    | keywords _ => rfl
    | starred _ | count _ _ => exact absurd rfl hks
  | starred hstar =>
    cases h' with
    | keywords hks => exact absurd rfl hks
    | starred _ => rfl
    | count hplain _ => exact (plain_starred hplain hstar).elim
  | count hplain _ =>
    cases h' with
    | keywords hks => exact absurd rfl hks
    | starred hstar => exact (plain_starred hplain hstar).elim
    | count _ _ => rfl

end Macro.Misfits

theorem Macro.name_injective {m m' : Macro} (h : m.name = m'.name) : m = m' := by
  have hof := ofName?_name m
  rw [h, ofName?_name] at hof
  exact (Option.some.inj hof).symm

/-- A visited call has one account. -/
theorem Visit.Accounts.unique {s : Settings} {file : Option String} {v : Visit} {a a' : Account}
    (h : v.Accounts s file a) (h' : v.Accounts s file a') : a = a' := by
  cases h with
  | record hm hplain hr hn =>
    cases h' with
    | record hm' _ hr' hn' =>
      obtain rfl := Macro.name_injective (Option.some.inj (hm.symm.trans hm'))
      rw [rule_unique hr hr' (hn.trans hn'.symm)]
    | mismatch hm' hmis =>
      obtain rfl := Macro.name_injective (Option.some.inj (hm.symm.trans hm'))
      exact absurd hn (hmis.not_fitting hplain hr)
  | mismatch hm hmis =>
    cases h' with
    | record hm' hplain hr hn =>
      obtain rfl := Macro.name_injective (Option.some.inj (hm.symm.trans hm'))
      exact absurd hn (hmis.not_fitting hplain hr)
    | mismatch hm' hmis' =>
      obtain rfl := Macro.name_injective (Option.some.inj (hm.symm.trans hm'))
      rw [hmis.unique hmis']
  | misplaced hm =>
    cases h' with
    | misplaced hm' =>
      obtain rfl := Macro.name_injective (Option.some.inj (hm.symm.trans hm'))
      rfl

/-! ### From visits to accounts -/

namespace Visit

variable (s : Settings) (file : Option String)

/-- The record of a visited statement. -/
def record? (v : Visit) : Option Record :=
  (v.invocation? s).bind fun i => (i.verdict file).record?

/-- The mismatch of a visited statement. -/
def mismatch? (v : Visit) : Option Diagnostic :=
  (v.invocation? s).bind fun i => (i.verdict file).diagnostic?

/-- The diagnostic of a visited expression that is a misplaced call. -/
def position? (v : Visit) : Option Diagnostic := (v.misplaced? s).map (·.diagnostic file)

/-- The diagnostic of a visited call. -/
def error? (v : Visit) : Option Diagnostic := v.mismatch? s file <|> v.position? s file

end Visit

/-- A call that denotes a macro gives what its account says. -/
theorem exists_account {s : Settings} (h : s.NamesMacros) (file : Option String) {v : Visit}
    (hv : (v.macroName? s).isSome = true) : ∃ a, v.Accounts s file a ∧
      v.record? s file = a.record? ∧ v.error? s file = a.error? := by
  obtain ⟨place, n⟩ := v
  obtain ⟨name, hname⟩ := Option.isSome_iff_exists.1 hv
  obtain ⟨f, hf, hr⟩ := Option.bind_eq_some_iff.1 hname
  obtain ⟨m, rfl⟩ := macro_of_resolve h hr
  dsimp only at hr
  unfold Visit.callee? at hf
  split at hf
  · rename_i sp p f' as ks hn
    obtain rfl : n = _ := hn
    obtain rfl := Option.some.inj hf
    have hi : Visit.invocation? s ⟨place, .stmt (.simple sp (.expr (.call p f' as ks)))⟩ =
        some ⟨m.name, as, ks, some sp⟩ := by
      simp [Visit.invocation?, Stmt.invocation?, hr]
    have hp : Visit.misplaced? s ⟨place, .stmt (.simple sp (.expr (.call p f' as ks)))⟩ = none :=
      rfl
    simp only [Visit.record?, Visit.error?, Visit.mismatch?, Visit.position?, hi, hp,
      Option.bind_some, Option.map_none, Option.orElse_eq_orElse]
    rcases verdict_cases file m as ks sp with
      ⟨rfl, hplain, r, hrule, hn, hverdict⟩ | ⟨problem, hmis, hverdict⟩
    · exact ⟨_, .record hr hplain hrule hn, by rw [hverdict]; rfl, by rw [hverdict]; rfl⟩
    · exact ⟨_, .mismatch hr hmis, by rw [hverdict]; rfl, by rw [hverdict]; rfl⟩
  · rename_i p f' as ks hn
    obtain rfl : n = _ := hn
    obtain rfl := Option.some.inj hf
    refine ⟨_, .misplaced hr, rfl, ?_⟩
    simp [Visit.error?, Visit.mismatch?, Visit.position?, Visit.misplaced?, Visit.invocation?, hr,
      MisplacedCall.diagnostic, Account.error?]
  · cases hf

/-- Nothing else gives a record or a diagnostic. -/
theorem no_account {s : Settings} (file : Option String) {v : Visit}
    (hv : v.macroName? s = none) : v.record? s file = none ∧ v.error? s file = none := by
  simp [Visit.record?, Visit.error?, Visit.mismatch?, Visit.position?,
    v.invocation?_eq_none hv, v.misplaced?_eq_none hv]

/-- The visited calls that denote macros account for all records and diagnostics of visits. -/
theorem exists_accounts {s : Settings} (h : s.NamesMacros) (file : Option String)
    (vs : List Visit) : ∃ accounts : List Account,
      List.Forall₂ (Visit.Accounts s file) (vs.filter fun v => (v.macroName? s).isSome) accounts ∧
      vs.filterMap (Visit.record? s file) = accounts.filterMap Account.record? ∧
      vs.filterMap (Visit.error? s file) = accounts.filterMap Account.error? := by
  induction vs with
  | nil => exact ⟨[], .nil, rfl, rfl⟩
  | cons v vs ih =>
    obtain ⟨accounts, hall, hrecords, herrors⟩ := ih
    cases hv : v.macroName? s with
    | none =>
      obtain ⟨hrecord, herror⟩ := no_account file hv
      refine ⟨accounts, ?_, ?_, ?_⟩
      · simpa [hv] using hall
      · simpa [hrecord] using hrecords
      · simpa [herror] using herrors
    | some name =>
      obtain ⟨a, ha, hrecord, herror⟩ := exists_account h file (v := v) (by simp [hv])
      refine ⟨a :: accounts, ?_, ?_, ?_⟩
      · simpa [hv] using And.intro ha hall
      · rw [List.filterMap_cons, List.filterMap_cons, hrecord, hrecords]
      · rw [List.filterMap_cons, List.filterMap_cons, herror, herrors]

/-! ## The whole module -/

section

variable {s : Settings} {file : Option String} {m : Module Empty}

theorem invocation_eq {v : Visit} {i : Invocation} (h : v.invocation? s = some i) :
    ∃ spelling, (envAt s v.place).resolve spelling = some i.name := by
  unfold Visit.invocation? Stmt.invocation? at h
  split at h
  · split at h
    · obtain ⟨name, hname, rfl⟩ := Option.map_eq_some_iff.1 h
      exact ⟨_, hname⟩
    · cases h
  · cases h

/-- A call of a macro is not one of an unknown macro. -/
theorem Invocation.unknown?_verdict {i : Invocation} {x : Macro} (hx : x.name = i.name) :
    (i.verdict file).unknown? = none := by
  rw [Invocation.verdict, ← hx, ofName?_name]
  dsimp only
  split <;> rfl

/-- Every invocation is one of a macro. -/
theorem findSome?_unknown (h : s.NamesMacros) :
    ((m.visits.filterMap (Visit.invocation? s)).findSome? fun i => (i.verdict file).unknown?) =
      none := by
  refine List.findSome?_eq_none_iff.2 fun i hi => ?_
  obtain ⟨v, -, hv⟩ := List.mem_filterMap.1 hi
  obtain ⟨spelling, hr⟩ := invocation_eq hv
  obtain ⟨n, hn⟩ := macro_of_resolve h hr
  exact Invocation.unknown?_verdict hn

/-- Mismatches and misplaced calls are told apart by their codes. -/
theorem key_ne_of_mismatch {v w : Visit} {d d' : Diagnostic}
    (hd : v.mismatch? s file = some d) (hd' : w.position? s file = some d') : d.key ≠ d'.key := by
  have hcode : d.key.code = "E_SHAPE_MISMATCH" := by
    obtain ⟨i, -, hi⟩ := Option.bind_eq_some_iff.1 hd
    unfold Invocation.verdict at hi
    split at hi
    · cases hi
    · split at hi
      · cases hi
      · cases hi
        rfl
  have hcode' : d'.key.code = "E_INVOCATION_POSITION" := by
    obtain ⟨c, -, rfl⟩ := Option.map_eq_some_iff.1 hd'
    rfl
  intro heq
  rw [heq, hcode'] at hcode
  exact absurd hcode (by decide)

/-- A visit is a statement or an expression, so it has at most one diagnostic. -/
theorem mismatch_or_position (v : Visit) :
    v.mismatch? s file = none ∨ v.position? s file = none := by
  obtain ⟨place, n⟩ := v
  cases n with
  | stmt st => exact .inr rfl
  | _ => exact .inl rfl

/-- The diagnostics of a module in the order of its visits, when sorted. -/
theorem sort_expansionDiagnostics (s : Settings) (file : Option String) (m : Module Empty) :
    Diagnostic.sort (expansionDiagnostics file (m.visits.filterMap (Visit.invocation? s))
      (m.visits.filterMap (Visit.misplaced? s))) =
    Diagnostic.sort (m.visits.filterMap (Visit.error? s file)) := by
  rw [expansionDiagnostics, List.filterMap_filterMap, List.map_filterMap]
  exact Diagnostic.sort_append_filterMap m.visits mismatch_or_position
    fun v w d d' hd hd' => key_ne_of_mismatch hd hd'

theorem sort_eq_nil {ds : List Diagnostic} : Diagnostic.sort ds = [] ↔ ds = [] := by
  have h := (Diagnostic.sort_perm ds).length_eq
  rw [← List.length_eq_zero_iff, ← List.length_eq_zero_iff, h]

end

/-- **Every resolved call is accounted for exactly once.** The visits of a module have all its
calls, each once. Those that denote a macro where they stand have one account each. If these hold
errors then just these come out, in their order; otherwise a result has their records, and
nothing but labels or the text of the result can still fail. -/
theorem resolved_calls_accounted {s : Settings} (h : s.NamesMacros) (file : Option String)
    (m : Module Empty) :
    (m.visits.filterMap Visit.call?).Perm
      ((Node.all (ofStmts m.body)).filterMap Node.call?) ∧
    (∀ v a a', Visit.Accounts s file v a → Visit.Accounts s file v a' → a = a') ∧
    ∃ accounts : List Account,
      List.Forall₂ (Visit.Accounts s file) (m.visits.filter fun v => (v.macroName? s).isSome)
        accounts ∧
      (accounts.filterMap Account.error? ≠ [] → expandModule s file m =
        .error (.diagnostics (Diagnostic.sort (accounts.filterMap Account.error?)))) ∧
      (accounts.filterMap Account.error? = [] →
        (∀ e, expandModule s file m = .ok e → e.records = accounts.filterMap Account.record?) ∧
        ∀ err, expandModule s file m = .error err →
          err = .diagnostics (Diagnostic.sort ((m.expand s).lower s file).diagnostics) ∨
            ∃ u, err = .unwritable u) := by
  refine ⟨Multiset.coe_eq_coe.1 m.calls_visits, fun v a a' ha ha' => ha.unique ha', ?_⟩
  obtain ⟨accounts, hall, hrecords, herrors⟩ := exists_accounts h file m.visits
  have hsort := sort_expansionDiagnostics s file m
  rw [herrors] at hsort
  refine ⟨accounts, hall, ?_⟩
  unfold expandModule
  simp only [invocations_eq, misplacedCalls_eq, findSome?_unknown h, hsort]
  by_cases hnone : accounts.filterMap Account.error? = []
  · have hempty := sort_eq_nil.1 (hsort.trans (sort_eq_nil.2 hnone))
    rw [hempty]
    refine ⟨fun hne => absurd hnone hne, fun _ => ?_⟩
    simp only [List.isEmpty_nil, Bool.not_true, Bool.false_eq_true, if_false]
    split
    · exact ⟨nofun, fun err herr => .inr ⟨_, (Except.error.inj herr).symm⟩⟩
    · rename_i hd
      exact ⟨nofun, fun err herr => .inl (hd ▸ (Except.error.inj herr).symm)⟩
    · split
      · exact ⟨nofun, fun err herr => .inr ⟨_, (Except.error.inj herr).symm⟩⟩
      · refine ⟨fun e he => ?_, nofun⟩
        rw [← Except.ok.inj he, ← hrecords, List.filterMap_filterMap]
        rfl
  · have hne : (expansionDiagnostics file (m.visits.filterMap (Visit.invocation? s))
        (m.visits.filterMap (Visit.misplaced? s))) ≠ [] := fun hnil =>
      hnone (sort_eq_nil.1 (hsort.symm.trans (sort_eq_nil.2 hnil)))
    refine ⟨fun _ => ?_, fun hnil => absurd hnil hnone⟩
    simp [hne]

/-- `leave` stands for `break_if` without an import. -/
def leaveSettings : Settings := ⟨[("break_if", ["leave"])], "flow_control", "_flow_"⟩

/-- `while p: leave(q)` -/
def leaveModule : Module Empty :=
  ⟨[.loop ⟨1, 0, 2, 12⟩ (.whilst (.name ⟨1, 6⟩ "p" .load))
    [.simple ⟨2, 4, 2, 12⟩ (.expr (.call ⟨2, 4⟩ (.name ⟨2, 4⟩ "leave" .load)
      [.name ⟨2, 10⟩ "q" .load] []))] []]⟩

/-- The call of `leave` is accounted for by its record. -/
theorem resolved_calls_accounted_leave : leaveSettings.NamesMacros ∧ ∃ accounts : List Account,
    List.Forall₂ (Visit.Accounts leaveSettings none)
      (leaveModule.visits.filter fun v => (v.macroName? leaveSettings).isSome) accounts ∧
    accounts.filterMap Account.record? = [⟨"break_if", "(predicate)", some 2, some 4⟩] := by
  have hmacros : leaveSettings.NamesMacros := by decide
  have hexp : (expandModule leaveSettings none leaveModule).toOption.map Expanded.records =
      some [⟨"break_if", "(predicate)", some 2, some 4⟩] := by with_unfolding_all decide
  obtain ⟨-, -, accounts, hall, herrors, hnone⟩ :=
    resolved_calls_accounted hmacros none leaveModule
  refine ⟨hmacros, accounts, hall, ?_⟩
  cases hx : expandModule leaveSettings none leaveModule with
  | error err => simp [hx, Except.toOption] at hexp
  | ok e =>
    have hempty : accounts.filterMap Account.error? = [] := by
      by_contra hne
      rw [herrors hne] at hx
      cases hx
    rw [← (hnone hempty).1 e hx]
    simpa [hx, Except.toOption] using hexp

end JumpMacros
