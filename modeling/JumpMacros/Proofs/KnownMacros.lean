import JumpMacros.Proofs.CallSites

/-!
# Tables hold macros

**Theorem (`macro_of_resolve`).** If the implicit names are given for macros only, a callee that
denotes something denotes a macro, wherever it stands.

All that imports bring into a table are macros, and a scope only takes over entries of the tables
around.
-/

namespace JumpMacros

/-- All names that a table gives are those of macros. -/
def Table.Known (t : Table) : Prop := ∀ e ∈ t, e.2 ∈ Macro.names

namespace Table.Known

variable {t : Table}

theorem without (h : t.Known) (names : List String) : (t.without names).Known :=
  fun e he => h e (List.mem_of_mem_filter he)

theorem insert (h : t.Known) (spelling : String) {name : String} (hn : name ∈ Macro.names) :
    (t.insert spelling name).Known := by
  intro e he
  rcases List.mem_cons.1 he with rfl | he
  · exact hn
  · exact h e (List.mem_of_mem_filter he)

theorem addDenoted {bs : List Binding} (h : t.Known)
    (hbs : ∀ spelling name, .denotes spelling name ∈ bs → name ∈ Macro.names) :
    (addDenoted t bs).Known := by
  induction bs generalizing t with
  | nil => exact h
  | cons b bs ih =>
    have hrest (spelling name) (hb : .denotes spelling name ∈ bs) : name ∈ Macro.names :=
      hbs spelling name (List.mem_cons_of_mem _ hb)
    cases b with
    | denotes spelling name => exact ih (h.insert spelling (hbs _ name List.mem_cons_self)) hrest
    | binds name => exact ih h hrest

theorem lookup (h : t.Known) {spelling name : String} (hl : t.lookup spelling = some name) :
    name ∈ Macro.names := by
  obtain ⟨l, l', rfl, -⟩ := List.lookup_eq_some_iff.1 hl
  exact h (spelling, name) (by simp)

end Table.Known

/-- What a node makes a spelling denote is a macro. -/
theorem known_of_denotes {package spelling name : String} {n : Node Empty}
    (h : .denotes spelling name ∈ n.bindings package) : name ∈ Macro.names := by
  unfold Node.bindings at h
  split at h
  · obtain ⟨a, -, ha⟩ := List.mem_flatMap.1 h
    unfold importFromBindings at ha
    dsimp only at ha
    split at ha
    · split at ha
      · obtain ⟨m, hm, heq⟩ := List.mem_map.1 ha
        cases heq
        exact hm
      · cases ha
    · split at ha
      · rename_i hname
        cases List.mem_singleton.1 ha
        simpa using (Bool.and_eq_true_iff.1 hname).2
      · cases List.mem_singleton.1 ha
  · obtain ⟨a, -, ha⟩ := List.mem_flatMap.1 h
    unfold importBindings at ha
    split at ha
    · obtain ⟨m, hm, heq⟩ := List.mem_map.1 ha
      cases heq
      exact hm
    · cases hn : a.asName with
      | some n => simp [hn] at ha
      | none =>
        simp only [hn] at ha
        split at ha <;> simp at ha
  all_goals simp at h

theorem known_scopeTable (package : String) {t : Table} (h : t.Known) (body : List (Stmt Empty))
    (params : List String) : (scopeTable package body t params).Known := by
  refine Table.Known.without (h.addDenoted fun spelling name hb => ?_) _
  obtain ⟨n, -, hb⟩ := List.mem_flatMap.1 hb
  exact known_of_denotes hb

/-- The implicit names are given for macros only. -/
def Settings.NamesMacros (s : Settings) : Prop := ∀ e ∈ s.implicitNames, e.1 ∈ Macro.names

instance (s : Settings) : Decidable s.NamesMacros :=
  inferInstanceAs (Decidable (∀ e ∈ s.implicitNames, e.1 ∈ Macro.names))

theorem known_implicitTable {s : Settings} (h : s.NamesMacros) : s.implicitTable.Known := by
  have spellings {t : Table} (ht : t.Known) {name : String} (hn : name ∈ Macro.names)
      (sps : List String) : (sps.foldl (fun t sp => t.insert sp name) t).Known := by
    induction sps generalizing t with
    | nil => exact ht
    | cons sp sps ih => exact ih (ht.insert sp hn)
  have entries (es : List (String × List String)) (hes : ∀ e ∈ es, e.1 ∈ Macro.names) {t : Table}
      (ht : t.Known) :
      (es.foldl (fun t e => e.2.foldl (fun t sp => t.insert sp e.1) t) t).Known := by
    induction es generalizing t with
    | nil => exact ht
    | cons e es ih =>
      exact ih (fun e he => hes e (List.mem_cons_of_mem _ he))
        (spellings ht (hes e List.mem_cons_self) e.2)
  refine entries _ (fun e he => h e ?_) fun e he => (List.not_mem_nil he).elim
  exact (List.mergeSort_perm s.implicitNames _).mem_iff.1 he

/-- What is visible at a place are macros. -/
theorem known_envAt {s : Settings} (h : s.NamesMacros) :
    ∀ place : Place, (envAt s place).here.Known ∧ (envAt s place).inner.Known
  | [] => ⟨known_implicitTable h, known_implicitTable h⟩
  | .module b :: _ =>
    have hb := known_scopeTable s.package (known_implicitTable h) b []
    ⟨hb, hb⟩
  | .function hd b :: outer =>
    have hb := known_scopeTable s.package (known_envAt h outer).2 b hd.params.names
    ⟨hb, hb⟩
  | .klass b :: outer => ⟨known_scopeTable s.package (known_envAt h outer).2 b [],
    (known_envAt h outer).2⟩
  | .lambda ps _ :: outer =>
    have hb := (known_envAt h outer).2.without ps.names
    ⟨hb, hb⟩
  | .comprehension _ _ :: outer => known_envAt h outer

/-- A callee that denotes something denotes a macro. -/
theorem macro_of_resolve {s : Settings} (h : s.NamesMacros) {place : Place}
    {spelling : Option String} {name : String}
    (hr : (envAt s place).resolve spelling = some name) : ∃ m : Macro, m.name = name := by
  obtain ⟨sp, -, hl⟩ := Option.bind_eq_some_iff.1 hr
  have hname := (known_envAt h place).1.lookup hl
  obtain ⟨m, -, rfl⟩ := List.mem_map.1 hname
  exact ⟨m, rfl⟩

theorem ofName?_name (m : Macro) : Macro.ofName? m.name = some m := by
  cases m <;> decide

end JumpMacros
