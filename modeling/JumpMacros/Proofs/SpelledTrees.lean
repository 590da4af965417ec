import JumpMacros.Proofs.Walk

/-!
# How trees are spelled

`Node.identifiers` lists the identifiers that a node is written with, and `Node.bare f` is what is
left of a node without its place and without what is under it, with its identifiers spelled as `f`
says. The bare nodes of a module, in order, are the module up to places: they tell how many trees
are under each node.

**Theorem (`Node.bare_congr`).** Two ways to spell that agree on the identifiers of a node give the
same bare node.
-/

namespace JumpMacros

open Text (rootOf)

/-! ## Identifiers -/

/-- The identifiers of an import: its path, and the name that it binds. -/
def Alias.identifiers (a : Alias) : List String := a.name :: rootOf a.bound :: a.asName.toList

/-- The identifiers of a pattern itself: the names it binds and the attributes it looks at. -/
def Pattern.identifiers : Pattern → List String
  | .klass _ _ _ names _ => names
  | p => p.binds.toList

/-- The identifiers that a node itself is written with. -/
def Node.identifiers {Hole : Type} : Node Hole → List String
  | .expr (.name _ x _) | .expr (.attr _ _ x) => [x]
  | .expr (.call _ _ _ ks) => ks.filterMap Keyword.name
  | .expr (.lambda _ ps _) => ps.names
  | .stmt (.function _ h _) => h.name :: h.params.names
  | .stmt (.klass _ h _) => h.name :: h.keywords.filterMap Keyword.name
  | .stmt (.simple _ (.imports as)) => as.flatMap Alias.identifiers
  | .stmt (.simple _ (.importsFrom path as _)) => path.toList ++ as.flatMap Alias.identifiers
  | .stmt (.simple _ (.globals ns)) | .stmt (.simple _ (.nonlocals ns)) => ns
  | .handler (.mk _ _ n _) => n.toList
  | .pattern p => p.identifiers
  | _ => []

/-- The names of a node are among its identifiers. -/
theorem Node.ownNames_subset_identifiers {Hole : Type} (n : Node Hole) :
    n.ownNames ⊆ n.identifiers := by
  have halias (as : List Alias) :
      as.map (fun a => rootOf a.bound) ⊆ as.flatMap Alias.identifiers := by
    refine List.forall_mem_map.2 fun a ha => List.mem_flatMap.2 ⟨a, ha, ?_⟩
    exact List.mem_cons_of_mem _ List.mem_cons_self
  unfold ownNames
  split
  case h_4 sp h b => exact List.cons_subset_cons _ (List.nil_subset _)
  case h_5 sp as => exact halias as
  case h_6 sp path as level => exact List.subset_append_of_subset_right _ (halias as)
  case h_10 p => cases p <;> simp [identifiers, Pattern.identifiers, Pattern.binds]
  case h_11 => exact List.nil_subset _
  all_goals exact List.Subset.refl _

/-! ## Bare nodes -/

/-- What stands for something that is left out. -/
def blank {α β : Type} [Inhabited β] (_ : α) : β := default

instance {Hole : Type} : Inhabited (Handler Hole) := ⟨.mk default none none []⟩

instance {Hole : Type} : Inhabited (Case Hole) := ⟨.mk default none []⟩

section

variable (f : String → String)

def Keyword.bare : Keyword → Keyword
  | .mk _ n _ => .mk default (n.map f) default

def Param.bare : Param → Param
  | .mk p n t d => .mk (blank p) (f n) (t.map blank) (d.map blank)

def Params.bare : Params → Params
  | .mk po ps r ko kr => .mk (po.map (Param.bare f)) (ps.map (Param.bare f)) (r.map (Param.bare f))
      (ko.map (Param.bare f)) (kr.map (Param.bare f))

def Entry.bare : Entry → Entry
  | .pair _ _ => .pair default default
  | .spread _ => .spread default

def Clause.bare : Clause → Clause
  | .mk a _ _ cs => .mk a default default (cs.map blank)

def Alias.bare (a : Alias) : Alias := ⟨default, f a.name, a.asName.map f⟩

mutual

/-- A piece of a formatted string without its expressions. -/
def Piece.bare : Piece → Piece
  | .text t => .text t
  | .field _ c none => .field default c none
  | .field _ c (some ps) => .field default c (some (Piece.allBare ps))

def Piece.allBare : List Piece → List Piece
  | [] => []
  | p :: ps => p.bare :: Piece.allBare ps

end

/-- An expression without its place and the expressions under it. -/
def Expr.bare : Expr → Expr
  | .name _ x u => .name default (f x) u
  | .const _ c => .const default c
  | .fstring _ ps => .fstring default (Piece.allBare ps)
  | .attr _ _ x => .attr default default (f x)
  | .subscript _ _ _ => .subscript default default default
  | .starred _ _ => .starred default default
  | .call _ _ as ks => .call default default (as.map blank) (ks.map (Keyword.bare f))
  | .unary _ op _ => .unary default op default
  | .binary _ op _ _ => .binary default op default default
  | .boolean _ op es => .boolean default op (es.map blank)
  | .compare _ _ cs => .compare default default (cs.map fun c => .mk c.op default)
  | .conditional _ _ _ _ => .conditional default default default default
  | .lambda _ ps _ => .lambda default (ps.bare f) default
  | .display _ k es => .display default k (es.map blank)
  | .dict _ es => .dict default (es.map Entry.bare)
  | .comprehension _ k _ cs => .comprehension default k default (cs.map Clause.bare)
  | .dictComprehension _ _ _ cs => .dictComprehension default default default (cs.map Clause.bare)
  | .await _ _ => .await default default
  | .yield _ v => .yield default (v.map blank)
  | .yieldFrom _ _ => .yieldFrom default default
  | .named _ _ _ => .named default default default
  | .slice _ l u s => .slice default (l.map blank) (u.map blank) (s.map blank)

/-- A pattern without its place and what is under it. -/
def Pattern.bare : Pattern → Pattern
  | .value _ _ => .value default default
  | .singleton _ c => .singleton default c
  | .sequence _ ps => .sequence default (ps.map blank)
  | .mapping _ ks ps r => .mapping default (ks.map blank) (ps.map blank) (r.map f)
  | .klass _ _ ps ns qs => .klass default default (ps.map blank) (ns.map f) (qs.map blank)
  | .star _ n => .star default (n.map f)
  | .capture _ n => .capture default (n.map f)
  | .named _ _ n => .named default default (f n)
  | .alternatives _ ps => .alternatives default (ps.map blank)

/-- A simple statement without the expressions under it. -/
def Simple.bare : Simple → Simple
  | .expr _ => .expr default
  | .assign ts _ => .assign (ts.map blank) default
  | .augmented _ op _ => .augmented default op default
  | .annotated _ _ v b => .annotated default default (v.map blank) b
  | .deletes ts => .deletes (ts.map blank)
  | .pass => .pass
  | .breaks => .breaks
  | .continues => .continues
  | .returns v => .returns (v.map blank)
  | .raises e c => .raises (e.map blank) (c.map blank)
  | .asserts _ m => .asserts default (m.map blank)
  | .globals ns => .globals (ns.map f)
  | .nonlocals ns => .nonlocals (ns.map f)
  | .imports as => .imports (as.map (Alias.bare f))
  | .importsFrom path as level => .importsFrom (path.map f) (as.map (Alias.bare f)) level

def LoopHead.bare : LoopHead → LoopHead
  | .over a _ _ => .over a default default
  | .whilst _ => .whilst default

/-- The line of the first decorator is a place and is left out. -/
def FunctionHead.bare (h : FunctionHead) : FunctionHead :=
  ⟨h.isAsync, f h.name, h.params.bare f, h.decorators.map blank, h.returns.map blank, 0⟩

def ClassHead.bare (h : ClassHead) : ClassHead :=
  ⟨f h.name, h.bases.map blank, h.keywords.map (Keyword.bare f), h.decorators.map blank⟩

def WithItem.bare (i : WithItem) : WithItem := ⟨default, i.target.map blank⟩

/-- A statement without its place and what is under it. -/
def Stmt.bare : Stmt Empty → Stmt Empty
  | .simple _ s => .simple default (s.bare f)
  | .hole _ h => nomatch h
  | .branch _ _ b o => .branch default default (b.map blank) (o.map blank)
  | .loop _ h b o => .loop default h.bare (b.map blank) (o.map blank)
  | .function _ h b => .function default (h.bare f) (b.map blank)
  | .klass _ h b => .klass default (h.bare f) (b.map blank)
  | .withItems _ a is b => .withItems default a (is.map WithItem.bare) (b.map blank)
  | .attempt _ star b hs o fin =>
    .attempt default star (b.map blank) (hs.map blank) (o.map blank) (fin.map blank)
  | .select _ _ cs => .select default default (cs.map blank)

/-- A node without its place and what is under it, with its identifiers spelled as `f` says. How
many trees of each kind are under it is left. -/
def Node.bare : Node Empty → Node Empty
  | .stmt s => .stmt (s.bare f)
  | .expr e => .expr (e.bare f)
  | .pattern p => .pattern (p.bare f)
  | .handler (.mk _ t n b) => .handler (.mk default (t.map blank) (n.map f) (b.map blank))
  | .case (.mk _ g b) => .case (.mk default (g.map blank) (b.map blank))

/-- The bare nodes of a module, in order: the module up to places. -/
def Module.bareNodes (m : Module Empty) : List (Node Empty) :=
  (Node.all (Node.ofStmts m.body)).map (Node.bare f)

end

section

variable {f g : String → String}

theorem map_eq_of_toList {o : Option String} (h : ∀ x ∈ o.toList, f x = g x) :
    o.map f = o.map g :=
  Option.map_congr fun x hx => h x (Option.mem_toList.2 hx)

theorem keywords_bare_congr {ks : List Keyword} (h : ∀ x ∈ ks.filterMap Keyword.name, f x = g x) :
    ks.map (Keyword.bare f) = ks.map (Keyword.bare g) := by
  refine List.map_congr_left fun ⟨p, n, v⟩ hk => ?_
  have hname : n.map f = n.map g :=
    Option.map_congr fun x hx => h x (List.mem_filterMap.2 ⟨_, hk, hx⟩)
  rw [Keyword.bare, Keyword.bare, hname]

theorem Params.bare_congr {ps : Params} (h : ∀ x ∈ ps.names, f x = g x) :
    ps.bare f = ps.bare g := by
  have hparam : ∀ p ∈ ps.toList, p.bare f = p.bare g := by
    rintro ⟨pos, n, t, d⟩ hp
    rw [Param.bare, Param.bare, h n (List.mem_map.2 ⟨_, hp, rfl⟩)]
  obtain ⟨po, pl, r, ko, kr⟩ := ps
  simp only [toList, List.forall_mem_append, Option.mem_toList] at hparam
  obtain ⟨⟨⟨⟨hpo, hpl⟩, hr⟩, hko⟩, hkr⟩ := hparam
  simp only [Params.bare, List.map_congr_left hpo, List.map_congr_left hpl, List.map_congr_left hko,
    Option.map_congr hr, Option.map_congr hkr]

theorem aliases_bare_congr {as : List Alias} (h : ∀ x ∈ as.flatMap Alias.identifiers, f x = g x) :
    as.map (Alias.bare f) = as.map (Alias.bare g) := by
  refine List.map_congr_left fun a ha => ?_
  have hown : ∀ x ∈ a.identifiers, f x = g x := fun x hx => h x (List.mem_flatMap.2 ⟨a, ha, hx⟩)
  obtain ⟨hname, hrest⟩ := List.forall_mem_cons.1 hown
  rw [Alias.bare, Alias.bare, hname,
    map_eq_of_toList fun x hx => hrest x (List.mem_cons_of_mem _ hx)]

theorem Expr.bare_congr {e : Expr} (h : ∀ x ∈ (Node.expr e : Node Empty).identifiers, f x = g x) :
    e.bare f = e.bare g := by
  cases e with
  | name p x u => rw [bare, bare, h x (List.mem_singleton_self x)]
  | attr p v x => rw [bare, bare, h x (List.mem_singleton_self x)]
  | call p fn as ks => rw [bare, bare, keywords_bare_congr h]
  | lambda p ps b => rw [bare, bare, Params.bare_congr h]
  | _ => rfl

theorem Pattern.bare_congr {p : Pattern} (h : ∀ x ∈ p.identifiers, f x = g x) :
    p.bare f = p.bare g := by
  cases p with
  | mapping p ks ps r => rw [bare, bare, map_eq_of_toList (o := r) h]
  | klass p c ps ns qs => rw [bare, bare, List.map_congr_left (l := ns) h]
  | star p n => rw [bare, bare, map_eq_of_toList (o := n) h]
  | capture p n => rw [bare, bare, map_eq_of_toList (o := n) h]
  | named p q n => rw [bare, bare, h n (List.mem_singleton_self n)]
  | _ => rfl

theorem Stmt.bare_congr {s : Stmt Empty} (h : ∀ x ∈ (Node.stmt s).identifiers, f x = g x) :
    s.bare f = s.bare g := by
  cases s with
  | simple sp s =>
    refine congrArg (Stmt.simple default) ?_
    cases s with
    | globals ns => exact congrArg Simple.globals (List.map_congr_left h)
    | nonlocals ns => exact congrArg Simple.nonlocals (List.map_congr_left h)
    | imports as => exact congrArg Simple.imports (aliases_bare_congr h)
    | importsFrom path as level =>
      obtain ⟨hpath, has⟩ := List.forall_mem_append.1 h
      rw [Simple.bare, Simple.bare, map_eq_of_toList hpath, aliases_bare_congr has]
    | _ => rfl
  | hole sp hole => cases hole
  | function sp hd b =>
    obtain ⟨hname, hparams⟩ := List.forall_mem_cons.1 h
    rw [bare, bare, FunctionHead.bare, FunctionHead.bare, hname, Params.bare_congr hparams]
  | klass sp hd b =>
    obtain ⟨hname, hkeywords⟩ := List.forall_mem_cons.1 h
    rw [bare, bare, ClassHead.bare, ClassHead.bare, hname, keywords_bare_congr hkeywords]
  | _ => rfl

/-- Spellings that agree on the identifiers of a node give the same node. -/
theorem Node.bare_congr {n : Node Empty} (h : ∀ x ∈ n.identifiers, f x = g x) :
    n.bare f = n.bare g := by
  cases n with
  | stmt s => exact congrArg Node.stmt (Stmt.bare_congr h)
  | expr e => exact congrArg Node.expr (Expr.bare_congr h)
  | pattern p => exact congrArg Node.pattern (Pattern.bare_congr h)
  | handler c =>
    obtain ⟨p, t, n, b⟩ := c
    rw [bare, bare, map_eq_of_toList (o := n) h]
  | case c =>
    obtain ⟨p, g, b⟩ := c
    rfl

end

end JumpMacros
