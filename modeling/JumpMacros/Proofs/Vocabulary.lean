import JumpMacros.Proofs.NameUses
import JumpMacros.Scope
import JumpMacros.Token.Basic

/-!
# Trees over a vocabulary

Imports name modules by names of the text, joined by full stops. A `Vocabulary` says which names
those can be, and `Stmt.Read` says of a statement that it could have been read from a text with
that vocabulary: its names are used as their places say (`Stmt.Read.proper`), and it imports
modules by names of the vocabulary only.

**Theorem (`not_denotes_of_read`).** If the name of the package is not made of names of the
vocabulary, nothing in such a statement makes a spelling denote a macro.
-/

namespace JumpMacros

open Node (ofStmts ofExprs)

/-- The names that a text may hold. -/
class Vocabulary where
  knows : String → Prop

/-- The vocabulary of any text. -/
abbrev Vocabulary.any : Vocabulary := ⟨fun _ => True⟩

section

variable [Vocabulary]

/-- A token is no name, or one of the vocabulary. -/
def Token.Known (t : Token) : Prop :=
  ∀ id written, t.kind = .name id written → Vocabulary.knows id

omit [Vocabulary] in
theorem Token.known_any (t : Token) : @Token.Known .any t := fun _ _ _ => trivial

/-- A path is joined from names of the vocabulary. -/
def Vocabulary.Joins (path : String) : Prop :=
  ∃ n ns, (∀ x ∈ n :: ns, Vocabulary.knows x) ∧ path = ".".intercalate (n :: ns)

open Vocabulary (Joins)

/-! ## Statements -/

/-- The modules that a simple statement imports have names of the vocabulary. -/
def Simple.ImportsKnown : Simple → Prop
  | .imports as => ∀ a ∈ as, Joins a.name
  | .importsFrom (some path) _ _ => Joins path
  | _ => True

/-- A simple statement that could have been read. -/
structure Simple.Read (s : Simple) : Prop where
  proper : s.Proper
  imports : s.ImportsKnown

mutual

/-- A statement that could have been read. -/
inductive Stmt.Read : Stmt Empty → Prop
  | simple {sp : Span} {s : Simple} (hs : s.Read) : Stmt.Read (.simple sp s)
  | branch {sp : Span} {t : Expr} {b o : List (Stmt Empty)} (ht : t.Proper .load)
    (hb : ∀ s ∈ b, Stmt.Read s) (ho : ∀ s ∈ o, Stmt.Read s) : Stmt.Read (.branch sp t b o)
  | loop {sp : Span} {h : LoopHead} {b o : List (Stmt Empty)} (hh : h.Proper)
    (hb : ∀ s ∈ b, Stmt.Read s) (ho : ∀ s ∈ o, Stmt.Read s) : Stmt.Read (.loop sp h b o)
  | function {sp : Span} {h : FunctionHead} {b : List (Stmt Empty)}
    (hh : ∀ e ∈ h.exprs, e.Proper .load) (hb : ∀ s ∈ b, Stmt.Read s) :
    Stmt.Read (.function sp h b)
  | klass {sp : Span} {h : ClassHead} {b : List (Stmt Empty)}
    (hh : ∀ e ∈ h.exprs, e.Proper .load) (hb : ∀ s ∈ b, Stmt.Read s) : Stmt.Read (.klass sp h b)
  | withItems {sp : Span} {a : Bool} {is : List WithItem} {b : List (Stmt Empty)}
    (hi : ∀ i ∈ is, i.Proper) (hb : ∀ s ∈ b, Stmt.Read s) : Stmt.Read (.withItems sp a is b)
  | attempt {sp : Span} {star : Bool} {b o f : List (Stmt Empty)} {hs : List (Handler Empty)}
    (hb : ∀ s ∈ b, Stmt.Read s) (hh : ∀ h ∈ hs, Handler.Read h) (ho : ∀ s ∈ o, Stmt.Read s)
    (hf : ∀ s ∈ f, Stmt.Read s) : Stmt.Read (.attempt sp star b hs o f)
  | select {sp : Span} {e : Expr} {cs : List (Case Empty)} (he : e.Proper .load)
    (hc : ∀ c ∈ cs, Case.Read c) : Stmt.Read (.select sp e cs)

inductive Handler.Read : Handler Empty → Prop
  | mk {p : Position} {t : Option Expr} {n : Option String} {b : List (Stmt Empty)}
    (ht : ∀ e ∈ t, e.Proper .load) (hb : ∀ s ∈ b, Stmt.Read s) : Handler.Read (.mk p t n b)

inductive Case.Read : Case Empty → Prop
  | mk {p : Pattern} {g : Option Expr} {b : List (Stmt Empty)} (hp : p.Proper)
    (hg : ∀ e ∈ g, e.Proper .load) (hb : ∀ s ∈ b, Stmt.Read s) : Case.Read (.mk p g b)

end

mutual

/-- What could have been read is proper. -/
theorem Stmt.Read.proper : ∀ {s : Stmt Empty}, s.Read → s.Proper
  | _, .simple hs => .simple hs.proper
  | _, .branch ht hb ho => .branch ht (fun s h => (hb s h).proper) fun s h => (ho s h).proper
  | _, .loop hh hb ho => .loop hh (fun s h => (hb s h).proper) fun s h => (ho s h).proper
  | _, .function hh hb => .function hh fun s h => (hb s h).proper
  | _, .klass hh hb => .klass hh fun s h => (hb s h).proper
  | _, .withItems hi hb => .withItems hi fun s h => (hb s h).proper
  | _, .attempt hb hh ho hf =>
    .attempt (fun s h => (hb s h).proper) (fun c h => (hh c h).proper)
      (fun s h => (ho s h).proper) fun s h => (hf s h).proper
  | _, .select he hc => .select he fun c h => (hc c h).proper

theorem Handler.Read.proper : ∀ {h : Handler Empty}, h.Read → h.Proper
  | _, .mk ht hb => .mk ht fun s h => (hb s h).proper

theorem Case.Read.proper : ∀ {c : Case Empty}, c.Read → c.Proper
  | _, .mk hp hg hb => .mk hp hg fun s h => (hb s h).proper

end

/-! ## Nodes -/

/-- A node under a statement that could have been read. -/
def Node.Read : Node Empty → Prop
  | .stmt s => s.Read
  | .handler h => h.Read
  | .case c => c.Read
  | .expr _ | .pattern _ => True

namespace Node

theorem read_ofExprs (es : List Expr) : ∀ n ∈ ofExprs es, Node.Read n :=
  List.forall_mem_map.2 fun _ _ => trivial

theorem read_ofStmts {ss : List (Stmt Empty)} (h : ∀ s ∈ ss, s.Read) :
    ∀ n ∈ ofStmts ss, Node.Read n :=
  List.forall_mem_map.2 h

theorem read_append {ns ms : List (Node Empty)} (hn : ∀ n ∈ ns, Node.Read n)
    (hm : ∀ n ∈ ms, Node.Read n) : ∀ n ∈ ns ++ ms, Node.Read n :=
  List.forall_mem_append.2 ⟨hn, hm⟩

theorem Read.ofStmt {s : Stmt Empty} (h : s.Read) : ∀ n ∈ ofStmt s, Node.Read n := by
  cases h with
  | simple hs => exact read_ofExprs _
  | branch ht hb ho =>
    exact List.forall_mem_cons.2 ⟨trivial, read_append (read_ofStmts hb) (read_ofStmts ho)⟩
  | loop hh hb ho =>
    exact read_append (read_append (read_ofExprs _) (read_ofStmts hb)) (read_ofStmts ho)
  | function hh hb => exact read_append (read_ofExprs _) (read_ofStmts hb)
  | klass hh hb => exact read_append (read_ofExprs _) (read_ofStmts hb)
  | withItems hi hb => exact read_append (read_ofExprs _) (read_ofStmts hb)
  | attempt hb hh ho hf =>
    exact read_append (read_append (read_append (read_ofStmts hb) (List.forall_mem_map.2 hh))
      (read_ofStmts ho)) (read_ofStmts hf)
  | select he hc => exact List.forall_mem_cons.2 ⟨trivial, List.forall_mem_map.2 hc⟩

theorem Read.children {n : Node Empty} (h : n.Read) : ∀ c ∈ n.children, c.Read := by
  cases n with
  | stmt s => exact Read.ofStmt h
  | expr e => exact read_ofExprs _
  | pattern p => exact read_append (read_ofExprs _) (List.forall_mem_map.2 fun _ _ => trivial)
  | handler h' =>
    obtain ⟨ht, hb⟩ := h
    exact read_append (read_ofExprs _) (read_ofStmts hb)
  | case c =>
    obtain ⟨hp, hg, hb⟩ := h
    exact List.forall_mem_cons.2 ⟨trivial, read_append (read_ofExprs _) (read_ofStmts hb)⟩

/-- A node imports nothing from a package that it cannot name. -/
theorem Read.not_denotes {n : Node Empty} (h : n.Read) {package : String}
    (hpackage : ¬Joins package) (spelling name : String) :
    .denotes spelling name ∉ n.bindings package := by
  intro hb
  unfold Node.bindings at hb
  split at hb
  · rename_i sp path as level
    obtain ⟨a, -, ha⟩ := List.mem_flatMap.1 hb
    have hforeign : (decide (level = 0) && path == some package) = false := by
      cases path with
      | none => simp
      | some path =>
        obtain ⟨-, hpath⟩ : Simple.Read (.importsFrom (some path) as level) := by
          cases h with
          | simple hs => exact hs
        have hne : path ≠ package := fun heq => hpackage (heq ▸ hpath)
        simp [hne]
    simp only [importFromBindings, hforeign] at ha
    split at ha <;> simp at ha
  · rename_i sp as
    obtain ⟨a, hmem, ha⟩ := List.mem_flatMap.1 hb
    obtain ⟨-, himports⟩ : Simple.Read (.imports as) := by
      cases h with
      | simple hs => exact hs
    have hne : a.name ≠ package := fun heq => hpackage (heq ▸ himports a hmem)
    simp only [importBindings, beq_iff_eq, hne, if_false] at ha
    cases hn : a.asName with
    | some n => simp [hn] at ha
    | none =>
      simp only [hn] at ha
      split at ha <;> simp at ha
  all_goals simp at hb

end Node

/-- **Nothing in a scope denotes a macro of a package that the scope cannot name.** -/
theorem not_denotes_of_read {body : List (Stmt Empty)} (h : ∀ s ∈ body, s.Read)
    {package : String} (hpackage : ¬Joins package) (spelling name : String) :
    .denotes spelling name ∉ scopeBindings package body := by
  intro hb
  obtain ⟨n, hn, hb⟩ := List.mem_flatMap.1 hb
  have hread := Node.forall_mem_walk (fun n => !n.opensScope) (fun n => Node.Read.children (n := n))
    (Node.read_ofStmts h)
  exact (hread n hn).not_denotes hpackage spelling name hb

end

end JumpMacros
