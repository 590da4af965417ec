import JumpMacros.Decimal.Binary64
import JumpMacros.Text.Points

/-!
# Expressions and patterns

The expression trees of a Python module. Every expression carries the place where it starts, for
diagnostics to point at. Of the contexts in which an expression can stand (read, assigned,
deleted) only that of a name is kept, since only names are bound.
-/

namespace JumpMacros

open Text (Points)
open Decimal (Binary64)

/-- A place in a source text: lines count from 1, columns from 0 in UTF-8 bytes. -/
structure Position where
  line : Nat
  col : Nat
deriving DecidableEq, Repr, Inhabited

/-- Whether a name is read, assigned or deleted. -/
inductive NameUse where
  | load
  | store
  | delete
deriving DecidableEq, Repr, Inhabited

/-- Whether a use binds the name in its scope. -/
def NameUse.binds : NameUse → Bool
  | .load => false
  | .store | .delete => true

inductive UnaryOp where
  | invert
  | not
  | plus
  | minus
deriving DecidableEq, Repr

inductive BinaryOp where
  | add | sub | mul | matMul | div | mod | floorDiv | pow
  | shiftLeft | shiftRight | bitOr | bitXor | bitAnd
deriving DecidableEq, Repr

inductive BoolOp where
  | and
  | or
deriving DecidableEq, Repr

inductive CompareOp where
  | eq | notEq | lt | ltEq | gt | gtEq | is | isNot | isIn | notIn
deriving DecidableEq, Repr

/-- The displays that list their elements. -/
inductive DisplayKind where
  | tuple
  | list
  | set
deriving DecidableEq, Repr

/-- The comprehensions with a single element expression. -/
inductive ComprehensionKind where
  | list
  | set
  | generator
deriving DecidableEq, Repr

/-- Literal values. `str` remembers whether its first literal was marked with a `u`. -/
inductive Constant where
  | none
  | bool (value : Bool)
  | ellipsis
  | int (value : Nat)
  | float (value : Binary64)
  | imaginary (value : Binary64)
  | str (value : Points) (marked : Bool)
  | bytes (value : List Nat)
deriving DecidableEq, Repr, Inhabited

mutual

inductive Expr where
  | name (pos : Position) (id : String) (use : NameUse)
  | const (pos : Position) (value : Constant)
  | fstring (pos : Position) (pieces : List Piece)
  | attr (pos : Position) (value : Expr) (member : String)
  | subscript (pos : Position) (value index : Expr)
  | starred (pos : Position) (value : Expr)
  | call (pos : Position) (func : Expr) (args : List Expr) (keywords : List Keyword)
  | unary (pos : Position) (op : UnaryOp) (operand : Expr)
  | binary (pos : Position) (op : BinaryOp) (left right : Expr)
  | boolean (pos : Position) (op : BoolOp) (operands : List Expr)
  | compare (pos : Position) (left : Expr) (rest : List Comparand)
  | conditional (pos : Position) (test body orelse : Expr)
  | lambda (pos : Position) (params : Params) (body : Expr)
  | display (pos : Position) (kind : DisplayKind) (elements : List Expr)
  | dict (pos : Position) (entries : List Entry)
  | comprehension (pos : Position) (kind : ComprehensionKind) (element : Expr)
      (clauses : List Clause)
  | dictComprehension (pos : Position) (key value : Expr) (clauses : List Clause)
  | await (pos : Position) (value : Expr)
  | yield (pos : Position) (value : Option Expr)
  | yieldFrom (pos : Position) (value : Expr)
  | named (pos : Position) (target value : Expr)
  | slice (pos : Position) (lower upper step : Option Expr)

/-- A keyword argument; without a name it is the `**` form. -/
inductive Keyword where
  | mk (pos : Position) (name : Option String) (value : Expr)

/-- A comparison operator with the operand to its right. -/
inductive Comparand where
  | mk (op : CompareOp) (operand : Expr)

/-- A parameter with its annotation and its default value. -/
inductive Param where
  | mk (pos : Position) (name : String) (note : Option Expr) (default : Option Expr)

/-- The parameters of a function, in the order in which they are written. -/
inductive Params where
  | mk (positionalOnly positional : List Param) (rest : Option Param)
      (keywordOnly : List Param) (keywordRest : Option Param)

/-- An entry of a dictionary display: a pair, or the `**` form. -/
inductive Entry where
  | pair (key value : Expr)
  | spread (value : Expr)

/-- A `for` clause of a comprehension with its conditions. -/
inductive Clause where
  | mk (isAsync : Bool) (target iter : Expr) (conditions : List Expr)

/-- A piece of a formatted string: literal text, or a field with its conversion and format. -/
inductive Piece where
  | text (value : Points)
  | field (value : Expr) (conversion : Option Char) (format : Option (List Piece))

end

instance : Inhabited Expr := ⟨.const default .none⟩

namespace Param

def pos : Param → Position
  | .mk p _ _ _ => p

def name : Param → String
  | .mk _ n _ _ => n

def note : Param → Option Expr
  | .mk _ _ n _ => n

def default : Param → Option Expr
  | .mk _ _ _ d => d

/-- The expressions a parameter holds. -/
def exprs : Param → List Expr
  | .mk _ _ n d => n.toList ++ d.toList

end Param

namespace Params

def empty : Params := .mk [] [] none [] none

/-- All parameters. -/
def toList : Params → List Param
  | .mk po ps r ko kr => po ++ ps ++ r.toList ++ ko ++ kr.toList

/-- Whether there are parameters that take a positional argument of their own. -/
def hasPositional : Params → Bool
  | .mk po ps _ _ _ => !po.isEmpty || !ps.isEmpty

/-- The names the parameters bind. -/
def names (ps : Params) : List String := ps.toList.map Param.name

/-- The annotations and default values of the parameters. -/
def exprs (ps : Params) : List Expr := ps.toList.flatMap Param.exprs

end Params

namespace Keyword

def pos : Keyword → Position
  | .mk p _ _ => p

def name : Keyword → Option String
  | .mk _ n _ => n

def value : Keyword → Expr
  | .mk _ _ v => v

end Keyword

namespace Comparand

def op : Comparand → CompareOp
  | .mk o _ => o

def operand : Comparand → Expr
  | .mk _ e => e

end Comparand

/-- The expressions of a dictionary entry. -/
def Entry.exprs : Entry → List Expr
  | .pair k v => [k, v]
  | .spread v => [v]

/-- The expressions of a comprehension clause. -/
def Clause.exprs : Clause → List Expr
  | .mk _ t i cs => t :: i :: cs

mutual

/-- The expressions directly under a piece of a formatted string, its format included. -/
def Piece.exprs : Piece → List Expr
  | .text _ => []
  | .field v _ none => [v]
  | .field v _ (some ps) => v :: Piece.listExprs ps

def Piece.listExprs : List Piece → List Expr
  | [] => []
  | p :: ps => p.exprs ++ Piece.listExprs ps

end

namespace Expr

/-- Where an expression starts. -/
def pos : Expr → Position
  | .name p _ _ | .const p _ | .fstring p _ | .attr p _ _ | .subscript p _ _ | .starred p _
  | .call p _ _ _ | .unary p _ _ | .binary p _ _ _ | .boolean p _ _ | .compare p _ _
  | .conditional p _ _ _ | .lambda p _ _ | .display p _ _ | .dict p _ | .comprehension p _ _ _
  | .dictComprehension p _ _ _ | .await p _ | .yield p _ | .yieldFrom p _ | .named p _ _
  | .slice p _ _ _ => p

/-- The expressions directly under an expression. -/
def children : Expr → List Expr
  | .name _ _ _ | .const _ _ => []
  | .fstring _ ps => Piece.listExprs ps
  | .attr _ v _ => [v]
  | .subscript _ v i => [v, i]
  | .starred _ v => [v]
  | .call _ f as ks => f :: as ++ ks.map Keyword.value
  | .unary _ _ e => [e]
  | .binary _ _ l r => [l, r]
  | .boolean _ _ es => es
  | .compare _ l cs => l :: cs.map Comparand.operand
  | .conditional _ t b o => [t, b, o]
  | .lambda _ ps b => ps.exprs ++ [b]
  | .display _ _ es => es
  | .dict _ es => es.flatMap Entry.exprs
  | .comprehension _ _ e cs => e :: cs.flatMap Clause.exprs
  | .dictComprehension _ k v cs => k :: v :: cs.flatMap Clause.exprs
  | .await _ v => [v]
  | .yield _ v => v.toList
  | .yieldFrom _ v => [v]
  | .named _ t v => [t, v]
  | .slice _ l u s => l.toList ++ u.toList ++ s.toList

end Expr

/-! ## Children are smaller -/

theorem Param.sizeOf_lt {p : Param} {e : Expr} (h : e ∈ p.exprs) : sizeOf e < sizeOf p := by
  obtain ⟨_, _, n, d⟩ := p
  cases n <;> cases d <;> simp [Param.exprs] at h ⊢ <;> grind

theorem Params.sizeOf_lt {ps : Params} {e : Expr} (h : e ∈ ps.exprs) :
    sizeOf e < sizeOf ps := by
  obtain ⟨po, pl, r, ko, kr⟩ := ps
  obtain ⟨p, hp, he⟩ := List.mem_flatMap.1 h
  have hlt := Param.sizeOf_lt he
  simp only [Params.toList, List.mem_append, Option.mem_toList] at hp
  rcases hp with (((hp | hp) | hp) | hp) | hp
  · have := List.sizeOf_lt_of_mem hp; simp; omega
  · have := List.sizeOf_lt_of_mem hp; simp; omega
  · subst hp; simp; omega
  · have := List.sizeOf_lt_of_mem hp; simp; omega
  · subst hp; simp; omega

theorem Entry.sizeOf_lt {x : Entry} {e : Expr} (h : e ∈ x.exprs) : sizeOf e < sizeOf x := by
  cases x <;> simp [Entry.exprs] at h ⊢ <;> grind

theorem Clause.sizeOf_lt {x : Clause} {e : Expr} (h : e ∈ x.exprs) : sizeOf e < sizeOf x := by
  obtain ⟨_, t, i, cs⟩ := x
  simp only [Clause.exprs, List.mem_cons] at h
  rcases h with rfl | rfl | h
  · simp; omega
  · simp; omega
  · have := List.sizeOf_lt_of_mem h
    simp; omega

mutual

theorem Piece.sizeOf_lt {p : Piece} {e : Expr} (h : e ∈ p.exprs) : sizeOf e < sizeOf p := by
  match p with
  | .text _ => simp [Piece.exprs] at h
  | .field v _ none => simp [Piece.exprs] at h; subst h; simp; omega
  | .field v _ (some ps) =>
    simp only [Piece.exprs, List.mem_cons] at h
    rcases h with rfl | h
    · simp; omega
    · have := Piece.list_sizeOf_lt h
      simp; omega

theorem Piece.list_sizeOf_lt {ps : List Piece} {e : Expr} (h : e ∈ Piece.listExprs ps) :
    sizeOf e < sizeOf ps := by
  match ps with
  | [] => simp [Piece.listExprs] at h
  | p :: ps =>
    simp only [Piece.listExprs, List.mem_append] at h
    rcases h with h | h
    · have := Piece.sizeOf_lt h
      simp; omega
    · have := Piece.list_sizeOf_lt h
      simp; omega

end

theorem Expr.sizeOf_lt_of_mem_list {α : Type} [SizeOf α] {f : α → Expr} {xs : List α} {e : Expr}
    (hf : ∀ x, sizeOf (f x) < sizeOf x) (h : e ∈ xs.map f) : sizeOf e < sizeOf xs := by
  obtain ⟨x, hx, rfl⟩ := List.mem_map.1 h
  have := List.sizeOf_lt_of_mem hx
  have := hf x
  omega

theorem Expr.sizeOf_lt_of_mem_flatMap {α : Type} [SizeOf α] {f : α → List Expr} {xs : List α}
    {e : Expr} (hf : ∀ x, e ∈ f x → sizeOf e < sizeOf x) (h : e ∈ xs.flatMap f) :
    sizeOf e < sizeOf xs := by
  obtain ⟨x, hx, he⟩ := List.mem_flatMap.1 h
  have := List.sizeOf_lt_of_mem hx
  have := hf x he
  omega

/-- A child of an expression is smaller than the expression. -/
theorem Expr.sizeOf_lt {e c : Expr} (h : c ∈ e.children) : sizeOf c < sizeOf e := by
  have kw : ∀ k : Keyword, sizeOf k.value < sizeOf k := by
    rintro ⟨_, _, v⟩; simp only [Keyword.value, Keyword.mk.sizeOf_spec]; omega
  have co : ∀ k : Comparand, sizeOf k.operand < sizeOf k := by
    rintro ⟨_, v⟩; simp only [Comparand.operand, Comparand.mk.sizeOf_spec]; omega
  cases e with
  | name | const => simp [Expr.children] at h
  | fstring _ ps => have := Piece.list_sizeOf_lt h; simp; omega
  | attr | starred | unary | await | yieldFrom =>
    simp [Expr.children] at h; subst h; simp; try omega
  | subscript | binary | conditional | named =>
    simp [Expr.children] at h; simp; grind
  | call p f as ks =>
    simp only [Expr.children, List.mem_cons, List.mem_append, List.cons_append] at h
    rcases h with rfl | h | h
    · simp; omega
    · have := List.sizeOf_lt_of_mem h; simp; omega
    · have := Expr.sizeOf_lt_of_mem_list kw h; simp; omega
  | boolean _ _ es | display _ _ es =>
    have := List.sizeOf_lt_of_mem (show c ∈ es from h)
    simp; omega
  | compare _ l cs =>
    simp only [Expr.children, List.mem_cons] at h
    rcases h with rfl | h
    · simp; omega
    · have := Expr.sizeOf_lt_of_mem_list co h; simp; omega
  | lambda p ps b =>
    simp only [Expr.children, List.mem_append, List.mem_singleton] at h
    rcases h with h | rfl
    · have := Params.sizeOf_lt h; simp; omega
    · simp only [Expr.lambda.sizeOf_spec]; omega
  | dict _ es =>
    have := Expr.sizeOf_lt_of_mem_flatMap (fun _ => Entry.sizeOf_lt) h
    simp; omega
  | comprehension _ k e cs =>
    simp only [Expr.children, List.mem_cons] at h
    rcases h with rfl | h
    · simp; omega
    · have := Expr.sizeOf_lt_of_mem_flatMap (fun _ => Clause.sizeOf_lt) h
      simp; omega
  | dictComprehension _ k v cs =>
    simp only [Expr.children, List.mem_cons] at h
    rcases h with rfl | rfl | h
    · simp; omega
    · simp; omega
    · have := Expr.sizeOf_lt_of_mem_flatMap (fun _ => Clause.sizeOf_lt) h
      simp; omega
  | yield _ v => cases v <;> simp [Expr.children] at h ⊢; grind
  | slice _ l u s =>
    cases l <;> cases u <;> cases s <;> simp [Expr.children] at h ⊢ <;> grind

/-! ## Patterns -/

/-- The patterns of a `case`, each with the place where it starts. A capture without a name is the
wildcard. -/
inductive Pattern where
  | value (pos : Position) (e : Expr)
  | singleton (pos : Position) (c : Constant)
  | sequence (pos : Position) (patterns : List Pattern)
  | mapping (pos : Position) (keys : List Expr) (patterns : List Pattern) (rest : Option String)
  | klass (pos : Position) (cls : Expr) (patterns : List Pattern) (names : List String)
      (namedPatterns : List Pattern)
  | star (pos : Position) (name : Option String)
  | capture (pos : Position) (name : Option String)
  | named (pos : Position) (pattern : Pattern) (name : String)
  | alternatives (pos : Position) (patterns : List Pattern)

instance : Inhabited Pattern := ⟨.capture default none⟩

namespace Pattern

/-- Where a pattern starts. -/
def pos : Pattern → Position
  | .value p _ | .singleton p _ | .sequence p _ | .mapping p _ _ _ | .klass p _ _ _ _ | .star p _
  | .capture p _ | .named p _ _ | .alternatives p _ => p

/-- The expressions directly under a pattern. -/
def exprs : Pattern → List Expr
  | .value _ e => [e]
  | .mapping _ ks _ _ => ks
  | .klass _ c _ _ _ => [c]
  | _ => []

/-- The patterns directly under a pattern. -/
def children : Pattern → List Pattern
  | .value _ _ | .singleton _ _ | .star _ _ | .capture _ _ => []
  | .sequence _ ps | .mapping _ _ ps _ | .alternatives _ ps => ps
  | .klass _ _ ps _ qs => ps ++ qs
  | .named _ p _ => [p]

/-- The name a pattern binds itself. -/
def binds : Pattern → Option String
  | .star _ n | .capture _ n => n
  | .named _ _ n => some n
  | .mapping _ _ _ r => r
  | _ => none

mutual

/-- All expressions in a pattern, those in the patterns under it included. -/
def allExprs : Pattern → List Expr
  | .value _ e => [e]
  | .singleton _ _ | .star _ _ | .capture _ _ => []
  | .sequence _ ps | .alternatives _ ps => listExprs ps
  | .mapping _ ks ps _ => ks ++ listExprs ps
  | .klass _ c ps _ qs => c :: listExprs ps ++ listExprs qs
  | .named _ p _ => p.allExprs

def listExprs : List Pattern → List Expr
  | [] => []
  | p :: ps => p.allExprs ++ listExprs ps

end

theorem sizeOf_lt {p q : Pattern} (h : q ∈ p.children) : sizeOf q < sizeOf p := by
  cases p with
  | value | singleton | star | capture => simp [children] at h
  | sequence _ ps | mapping _ _ ps | alternatives _ ps =>
    have := List.sizeOf_lt_of_mem (show q ∈ ps from h)
    simp; omega
  | klass _ c ps ns qs =>
    simp only [children, List.mem_append] at h
    rcases h with h | h <;> have := List.sizeOf_lt_of_mem h <;> simp <;> omega
  | named _ p n => simp [children] at h; subst h; simp; omega

end Pattern

end JumpMacros
