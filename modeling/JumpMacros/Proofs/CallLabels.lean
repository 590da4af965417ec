import JumpMacros.Proofs.CallSites
import JumpMacros.Proofs.SourceMeaning

/-!
# Labels of calls

**Theorem (`block_labelNamed`).** If an expanded tree has no label faults, the labels in the calls
of its source are names of loops.

What is gathered from statements with the names visible at them is gathered from the list of all
statements, each with what is visible at it (`gather_eq_flatMap`), so a property of all calls is
shown for one statement at a time.
-/

namespace JumpMacros

open Lower (labelOf?)
open SourceMeaning (Shape)

/-! ## Statements and what is visible at them -/

/-- A statement with the names visible at it. -/
abbrev located (env : Env) (s : Stmt Empty) : List (Env × Stmt Empty) := [(env, s)]

section

variable {α : Type} (package : String) (own : Env → Stmt Empty → List α)

mutual

/-- What is gathered comes from the statements and what is visible at them. -/
theorem gather_eq_flatMap (env : Env) : ∀ s : Stmt Empty, s.gather package own env =
    (s.gather package located env).flatMap fun q => own q.1 q.2
  | .simple sp x => by simp [Stmt.gather]
  | .hole _ h => nomatch h
  | .branch sp t b o => by
    simp [Stmt.gather, gatherAll_eq_flatMap env b, gatherAll_eq_flatMap env o]
  | .loop sp hd b o => by
    simp [Stmt.gather, gatherAll_eq_flatMap env b, gatherAll_eq_flatMap env o]
  | .function sp hd b => by simp [Stmt.gather, gatherAll_eq_flatMap _ b]
  | .klass sp hd b => by simp [Stmt.gather, gatherAll_eq_flatMap _ b]
  | .withItems sp a is b => by simp [Stmt.gather, gatherAll_eq_flatMap env b]
  | .attempt sp star b hs o f => by
    simp [Stmt.gather, gatherAll_eq_flatMap env b, handlers_eq_flatMap env hs,
      gatherAll_eq_flatMap env o, gatherAll_eq_flatMap env f]
  | .select sp e cs => by simp [Stmt.gather, cases_eq_flatMap env cs]

theorem gatherAll_eq_flatMap (env : Env) : ∀ b : List (Stmt Empty),
    Stmt.gatherAll package own env b =
      (Stmt.gatherAll package located env b).flatMap fun q => own q.1 q.2
  | [] => rfl
  | s :: rest => by
    simp [Stmt.gatherAll, gather_eq_flatMap env s, gatherAll_eq_flatMap env rest]

theorem handlers_eq_flatMap (env : Env) : ∀ hs : List (Handler Empty),
    Handler.gatherAll package own env hs =
      (Handler.gatherAll package located env hs).flatMap fun q => own q.1 q.2
  | [] => rfl
  | .mk _ _ _ b :: hs => by
    simp [Handler.gatherAll, gatherAll_eq_flatMap env b, handlers_eq_flatMap env hs]

theorem cases_eq_flatMap (env : Env) : ∀ cs : List (Case Empty),
    Case.gatherAll package own env cs =
      (Case.gatherAll package located env cs).flatMap fun q => own q.1 q.2
  | [] => rfl
  | .mk _ _ b :: cs => by
    simp [Case.gatherAll, gatherAll_eq_flatMap env b, cases_eq_flatMap env cs]

end

end

/-! ## What a call leaves behind -/

/-- The argument of a transfer of control that stays. -/
def Transfer.values : Transfer → List Expr
  | .returns v => v.toList
  | .breaks | .continues | .jump _ _ => []

/-- The arguments that stay in a replacement after lowering. -/
def Replacement.values : Replacement → List Expr
  | .guarded p x => p :: x.values
  | .loopLabel _ => []

/-- The label in a replacement, which does not stay. -/
def Replacement.label? : Replacement → Option Expr
  | .guarded _ (.jump _ l) | .loopLabel l => some l
  | .guarded _ _ => none

theorem args_eq {m : Macro} {as : List Expr} {r : Replacement} (h : Shape m as r) :
    as = r.values ++ r.label?.toList := by
  cases h <;> rfl

/-- A call with keyword arguments fits no rule. -/
theorem keywords_of_replacement {i : Invocation} {m : Macro} {r : Replacement × Rule}
    (h : i.replacement m = .ok r) : i.keywords = [] := by
  by_contra hne
  have hform : i.badForm = some .keywords := by simp [Invocation.badForm, hne]
  simp [Invocation.replacement, Invocation.rule, hform] at h

/-- An invocation is a call whose callee denotes its macro. -/
theorem invocation?_eq_some {env : Env} {s : Stmt Empty} {i : Invocation}
    (h : s.invocation? env = some i) : ∃ sp p f,
      s = .simple sp (.expr (.call p f i.args i.keywords)) ∧
        env.resolve f.dotted = some i.name := by
  unfold Stmt.invocation? at h
  split at h
  · obtain ⟨n, hn, rfl⟩ := Option.map_eq_some_iff.1 h
    exact ⟨_, _, _, rfl, hn⟩
  · cases h

/-! ## Labels are named -/

/-- The label of a call, if it has one, names a loop. -/
def LabelNamed (env : Env) (s : Stmt Empty) : Prop :=
  ∀ i m r, s.invocation? env = some i → Macro.ofName? i.name = some m →
    i.replacement m = .ok r → ∀ l, r.1.label? = some l → (labelOf? l).isSome = true

theorem labelOf?_isSome {site : Site} {l : Expr} (h : site.faults = [])
    (hl : (∃ k, site.hole = .jump k l) ∨ site.hole = .loopLabel l) :
    (labelOf? l).isSome = true := by
  cases hname : labelOf? l with
  | some name => rfl
  | none =>
    obtain ⟨k, hhole⟩ | hhole := hl
    · simp [Site.faults, hhole, hname] at h
    · simp [Site.faults, Site.labelFaults, hhole, hname] at h

theorem labelNamed_of_none {env : Env} {s : Stmt Empty} (h : s.invocation? env = none) :
    LabelNamed env s := fun i m r hi => by
  cases h.symm.trans hi

theorem labelNamed_simple {env : Env} {sp : Span} {x : Simple} {around : List Layer}
    {before after : Option (Stmt Placeholder)}
    (h : ∀ site ∈ (x.expand env sp).sites around before after, site.faults = []) :
    LabelNamed env (.simple sp x) := by
  intro i m r hi hm hr l hl
  simp only [Simple.expand, hi, hm, Option.map_some, hr] at h
  obtain ⟨r, rule⟩ := r
  cases r with
  | loopLabel l' =>
    obtain rfl := Option.some.inj hl
    exact labelOf?_isSome (h _ List.mem_cons_self) (.inr rfl)
  | guarded p x =>
    cases x with
    | jump k l' =>
      obtain rfl := Option.some.inj hl
      exact labelOf?_isSome (h _ List.mem_cons_self) (.inl ⟨k, rfl⟩)
    | breaks | continues | returns v => cases hl

section

variable (package : String)

mutual

/-- In a tree without label faults the labels of all calls are named. -/
theorem stmt_labelNamed (env : Env) (around : List Layer)
    (before after : Option (Stmt Placeholder)) : ∀ s : Stmt Empty,
      (∀ site ∈ (s.expand package env).sites around before after, site.faults = []) →
      ∀ q ∈ s.gather package located env, LabelNamed q.1 q.2
  | .simple sp x, h, q, hq => by
    obtain rfl : q = (env, .simple sp x) := by simpa [Stmt.gather] using hq
    exact labelNamed_simple h
  | .hole _ hole, _, _, _ => nomatch hole
  | .branch sp t b o, h, q, hq => by
    simp only [Stmt.gather, List.cons_append, List.nil_append, List.mem_cons, List.mem_append] at hq
    simp only [Stmt.expand, Stmt.sites, List.mem_append] at h
    obtain rfl | hq | hq := hq
    · exact labelNamed_of_none rfl
    · exact block_labelNamed env _ none b (fun site hs => h site (.inl hs)) q hq
    · exact block_labelNamed env _ none o (fun site hs => h site (.inr hs)) q hq
  | .loop sp hd b o, h, q, hq => by
    simp only [Stmt.gather, List.cons_append, List.nil_append, List.mem_cons, List.mem_append] at hq
    simp only [Stmt.expand, Stmt.sites, List.mem_append] at h
    obtain rfl | hq | hq := hq
    · exact labelNamed_of_none rfl
    · exact block_labelNamed env _ none b (fun site hs => h site (.inl hs)) q hq
    · exact block_labelNamed env _ none o (fun site hs => h site (.inr hs)) q hq
  | .function sp hd b, h, q, hq => by
    simp only [Stmt.gather, List.cons_append, List.nil_append, List.mem_cons] at hq
    obtain rfl | hq := hq
    · exact labelNamed_of_none rfl
    · exact block_labelNamed _ _ none b h q hq
  | .klass sp hd b, h, q, hq => by
    simp only [Stmt.gather, List.cons_append, List.nil_append, List.mem_cons] at hq
    obtain rfl | hq := hq
    · exact labelNamed_of_none rfl
    · exact block_labelNamed _ _ none b h q hq
  | .withItems sp a is b, h, q, hq => by
    simp only [Stmt.gather, List.cons_append, List.nil_append, List.mem_cons] at hq
    obtain rfl | hq := hq
    · exact labelNamed_of_none rfl
    · exact block_labelNamed env _ none b h q hq
  | .attempt sp star b hs o f, h, q, hq => by
    simp only [Stmt.gather, List.cons_append, List.nil_append, List.mem_cons, List.mem_append,
      or_assoc] at hq
    simp only [Stmt.expand, Stmt.sites, List.mem_append, or_assoc] at h
    obtain rfl | hq | hq | hq | hq := hq
    · exact labelNamed_of_none rfl
    · exact block_labelNamed env _ none b (fun site hs => h site (.inl hs)) q hq
    · exact handlers_labelNamed env _ hs (fun site hs => h site (.inr (.inl hs))) q hq
    · exact block_labelNamed env _ none o (fun site hs => h site (.inr (.inr (.inl hs)))) q hq
    · exact block_labelNamed env _ none f (fun site hs => h site (.inr (.inr (.inr hs)))) q hq
  | .select sp e cs, h, q, hq => by
    simp only [Stmt.gather, List.cons_append, List.nil_append, List.mem_cons] at hq
    obtain rfl | hq := hq
    · exact labelNamed_of_none rfl
    · exact cases_labelNamed env _ cs h q hq

theorem block_labelNamed (env : Env) (around : List Layer) (before : Option (Stmt Placeholder)) :
    ∀ b : List (Stmt Empty),
      (∀ site ∈ Stmt.blockSites around before (Stmt.expandAll package env b), site.faults = []) →
      ∀ q ∈ Stmt.gatherAll package located env b, LabelNamed q.1 q.2
  | [], _, _, hq => nomatch hq
  | s :: rest, h, q, hq => by
    simp only [Stmt.expandAll, Stmt.blockSites, List.mem_append] at h
    rcases List.mem_append.1 hq with hq | hq
    · exact stmt_labelNamed env around before _ s (fun site hs => h site (.inl hs)) q hq
    · exact block_labelNamed env around _ rest (fun site hs => h site (.inr hs)) q hq

theorem handlers_labelNamed (env : Env) (around : List Layer) : ∀ hs : List (Handler Empty),
    (∀ site ∈ Handler.sites around (Handler.expandAll package env hs), site.faults = []) →
    ∀ q ∈ Handler.gatherAll package located env hs, LabelNamed q.1 q.2
  | [], _, _, hq => nomatch hq
  | .mk p t n b :: hs, h, q, hq => by
    simp only [Handler.expandAll, Handler.sites, List.mem_append] at h
    rcases List.mem_append.1 hq with hq | hq
    · exact block_labelNamed env around none b (fun site hs => h site (.inl hs)) q hq
    · exact handlers_labelNamed env around hs (fun site hs => h site (.inr hs)) q hq

theorem cases_labelNamed (env : Env) (around : List Layer) : ∀ cs : List (Case Empty),
    (∀ site ∈ Case.sites around (Case.expandAll package env cs), site.faults = []) →
    ∀ q ∈ Case.gatherAll package located env cs, LabelNamed q.1 q.2
  | [], _, _, hq => nomatch hq
  | .mk p g b :: cs, h, q, hq => by
    simp only [Case.expandAll, Case.sites, List.mem_append] at h
    rcases List.mem_append.1 hq with hq | hq
    · exact block_labelNamed env around none b (fun site hs => h site (.inl hs)) q hq
    · exact cases_labelNamed env around cs (fun site hs => h site (.inr hs)) q hq

end

end

end JumpMacros
