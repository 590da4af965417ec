import JumpMacros.Proofs.DocumentKeys
import JumpMacros.Proofs.KnownMacros
import JumpMacros.Proofs.TableLookups

/-!
# Macros under their own names

`Settings.withBareNames` lists every macro under its own name, in front of the names that are
configured for it.

**Theorem (`lookup_withBareNames_iff`).** In a module that binds no name of a macro, the name of a
macro then denotes that macro, exactly if it is not configured as a name of a macro that is later in
the order of names. All other spellings denote what they did before.

A spelling that several macros list goes to the last of them (`lookup_implicitTable`), and being
listed first for its own macro does not save a name from that.
-/

namespace JumpMacros

open Text (rootOf)

/-! ## Lookups in the table of a module -/

section

variable {sp : String}

theorem denotes_of_lookup {bs : List Binding} {name : String}
    (h : (bs.filterMap Binding.entry?).reverse.lookup sp = some name) :
    .denotes sp name ∈ bs := by
  obtain ⟨later, earlier, heq, -⟩ := List.lookup_eq_some_iff.1 h
  have hmem : (sp, name) ∈ (bs.filterMap Binding.entry?).reverse := by
    rw [heq]
    exact List.mem_append_right later List.mem_cons_self
  obtain ⟨b, hb, hentry⟩ := List.mem_filterMap.1 (List.mem_reverse.1 hmem)
  cases b with
  | denotes =>
    cases hentry
    exact hb
  | binds => cases hentry

/-- What a scope takes over from the table around it does not depend on the other entries there. -/
theorem lookup_scopeTable_congr {package : String} {body : List (Stmt Empty)} {t t' : Table}
    {params : List String} (h : t'.lookup sp = t.lookup sp) :
    (scopeTable package body t' params).lookup sp =
      (scopeTable package body t params).lookup sp := by
  unfold scopeTable
  simp only [Table.lookup_without, addDenoted_eq, Table.lookup_insertAll, h]

/-- A name that a node binds for the scan of a scope is one that it binds. -/
theorem rebound_of_binds {package x : String} {n : Node Empty}
    (h : .binds x ∈ n.bindings package) : x ∈ n.rebound package := by
  unfold Node.bindings at h
  split at h
  · rename_i path as level
    obtain ⟨a, ha, hx⟩ := List.mem_flatMap.1 h
    refine List.mem_flatMap.2 ⟨a, ha, ?_⟩
    unfold importFromBindings at hx
    dsimp only at hx
    unfold reboundFrom
    split at hx
    · split at hx <;> simp at hx
    · rename_i hstar
      split at hx
      · simp at hx
      · rename_i hmacro
        have hcase : ¬(a.name == "*" || (decide (level = 0) && path == some package &&
            Macro.names.contains a.name)) = true := by
          rw [Bool.or_eq_true, not_or]
          exact ⟨hstar, hmacro⟩
        rw [if_neg hcase]
        simpa using hx
  · obtain ⟨a, ha, hx⟩ := List.mem_flatMap.1 h
    refine List.mem_flatMap.2 ⟨a, ha, ?_⟩
    unfold importBindings at hx
    unfold reboundBy
    split at hx
    · simp at hx
    · rename_i hne
      rw [if_neg hne]
      cases has : a.asName with
      | some n => simpa [has] using hx
      | none =>
        simp only [has] at hx ⊢
        split at hx
        · cases hx
        · rename_i hsub
          rw [if_neg hsub]
          simpa using hx
  · simpa [Node.rebound] using h
  · simpa [Node.rebound] using h
  · rename_i id use
    cases use <;> simp [NameUse.binds] at h <;> simp [Node.rebound, h]
  · simpa [Node.rebound] using h
  · rename_i p
    cases p <;> simp [Pattern.binds] at h <;> simp [Node.rebound, h]
  · cases h

/-- A name that a module does not bind denotes what the settings say. -/
theorem lookup_moduleTable_of_unbound {s : Settings} {m : Module Empty}
    (h : rootOf sp ∉ (Scope.module m.body).names s.package) :
    (moduleTable s m).lookup sp = s.implicitTable.lookup sp := by
  have hnode {n : Node Empty} (hn : n ∈ Node.scopeNodes m.body) :
      n ∈ Node.binding (Scope.module m.body).roots := Node.walk_subset_binding _ hn
  have hbound : rootOf sp ∉ boundNames (scopeBindings s.package m.body) := by
    intro hmem
    obtain ⟨n, hn, hb⟩ := List.mem_flatMap.1 (mem_boundNames.1 hmem)
    refine h (List.mem_append_left _ (List.mem_append_right _ ?_))
    exact List.mem_flatMap.2 ⟨n, hnode hn, rebound_of_binds hb⟩
  have himported : ((scopeBindings s.package m.body).filterMap
      Binding.entry?).reverse.lookup sp = none := by
    refine Option.eq_none_iff_forall_ne_some.2 fun name hl => ?_
    obtain ⟨n, hn, hb⟩ := List.mem_flatMap.1 (denotes_of_lookup hl)
    refine h (List.mem_append_right _ ?_)
    exact List.mem_flatMap.2 ⟨n, hnode hn, imported_of_denotes hb⟩
  unfold moduleTable scopeTable
  rw [Table.lookup_without, List.nil_append, if_neg hbound, addDenoted_eq, Table.lookup_insertAll,
    himported, Option.none_or]

end

/-! ## Settings with the names of the macros -/

namespace Settings

variable {s : Settings}

theorem mem_dedup {names : List String} {x : String} : x ∈ dedup names ↔ x ∈ names := by
  have hfold (rest : List String) : ∀ seen : List String,
      x ∈ rest.foldl (fun seen n => if seen.contains n then seen else seen ++ [n]) seen ↔
        x ∈ seen ∨ x ∈ rest := by
    induction rest with
    | nil => simp
    | cons y rest ih =>
      intro seen
      rw [List.foldl_cons, ih, List.mem_cons]
      by_cases hy : y ∈ seen
      · rw [if_pos (List.contains_iff_mem.2 hy)]
        refine or_congr_right' fun hx => ?_
        exact (or_iff_right fun heq : x = y => hx (heq ▸ hy)).symm
      · rw [if_neg (by simpa using hy), List.mem_append, List.mem_singleton, or_assoc]
  rw [dedup, hfold]
  simp

/-- Under these settings a macro is listed under its own name, and as before. -/
theorem lists_withBareNames (hmacros : s.NamesMacros) (honce : (s.implicitNames.map Prod.fst).Nodup)
    {m sp : String} : s.withBareNames.Lists m sp ↔ m ∈ Macro.names ∧ sp = m ∨ s.Lists m sp := by
  have hlookup : sp ∈ (s.implicitNames.lookup m).getD [] ↔ s.Lists m sp := by
    unfold Lists
    cases hl : s.implicitNames.lookup m with
    | none =>
      refine iff_of_false List.not_mem_nil ?_
      rintro ⟨sps, hmem, -⟩
      rw [(lookup_eq_some_of_nodup honce).2 hmem] at hl
      cases hl
    | some sps =>
      have hmem := (lookup_eq_some_of_nodup honce).1 hl
      refine ⟨fun hsp => ⟨sps, hmem, hsp⟩, ?_⟩
      rintro ⟨sps', hmem', hsp⟩
      rw [(lookup_eq_some_of_nodup honce).2 hmem'] at hl
      obtain rfl := Option.some.inj hl
      exact hsp
  have hknown (h : s.Lists m sp) : m ∈ Macro.names := by
    obtain ⟨sps, hmem, -⟩ := h
    exact hmacros _ hmem
  constructor
  · rintro ⟨sps, hmem, hsp⟩
    obtain ⟨m', hm', heq⟩ := List.mem_map.1 hmem
    obtain ⟨rfl, rfl⟩ := Prod.mk.inj heq
    rcases List.mem_cons.1 (mem_dedup.1 hsp) with rfl | hsp
    · exact .inl ⟨hm', rfl⟩
    · exact .inr (hlookup.1 hsp)
  · intro h
    have hm : m ∈ Macro.names := h.elim And.left hknown
    refine ⟨_, List.mem_map.2 ⟨m, hm, rfl⟩, mem_dedup.2 ?_⟩
    rcases h with ⟨-, rfl⟩ | h
    · exact List.mem_cons_self
    · exact List.mem_cons_of_mem _ (hlookup.2 h)

/-- Of the macros that list the name of a macro, its own comes last exactly if no later one is
configured for it. -/
theorem lookup_implicitTable_withBareNames (hmacros : s.NamesMacros)
    (honce : (s.implicitNames.map Prod.fst).Nodup) (x : Macro) :
    s.withBareNames.implicitTable.lookup x.name = some x.name ↔
      ∀ y : Macro, s.Lists y.name x.name → y.name ≤ x.name := by
  have hx : x.name ∈ Macro.names := by cases x <;> decide
  rw [lookup_implicitTable]
  simp only [lists_withBareNames hmacros honce]
  constructor
  · rintro ⟨-, hmax⟩ y hy
    exact hmax y.name (.inr hy)
  · intro h
    refine ⟨.inl ⟨hx, trivial⟩, ?_⟩
    rintro m (⟨-, hm⟩ | hm)
    · exact hm ▸ String.le_refl _
    · obtain ⟨sps, hmem, -⟩ := id hm
      obtain ⟨y, -, rfl⟩ := List.mem_map.1 (hmacros _ hmem)
      exact h y hm

/-- A spelling that is no name of a macro is listed as before. -/
theorem lookup_implicitTable_withBareNames_of_notMem (hmacros : s.NamesMacros)
    (honce : (s.implicitNames.map Prod.fst).Nodup) {sp : String} (hsp : sp ∉ Macro.names) :
    s.withBareNames.implicitTable.lookup sp = s.implicitTable.lookup sp := by
  refine lookup_implicitTable_congr fun m => ?_
  rw [lists_withBareNames hmacros honce]
  exact or_iff_right fun ⟨hm, heq⟩ => hsp (heq ▸ hm)

/-- **Macros under their own names.** Where a module binds no name of a macro, the name of each
macro denotes it, unless it is configured for a later macro; all other spellings denote what they
did before, whatever the module binds. -/
theorem lookup_withBareNames_iff {files : FileTree} {path : Option String}
    (hs : load files path = .ok s) (m : Module Empty) :
    ((∀ x : Macro, x.name ∉ (Scope.module m.body).names s.package) → ∀ x : Macro,
      (moduleTable s.withBareNames m).lookup x.name = some x.name ↔
        ∀ y : Macro, s.Lists y.name x.name → y.name ≤ x.name) ∧
    ∀ sp ∉ Macro.names,
      (moduleTable s.withBareNames m).lookup sp = (moduleTable s m).lookup sp := by
  have hmacros : s.NamesMacros := (wellFormed_of_load hs).macros
  have honce := nodup_macros_of_load hs
  constructor
  · intro hm x
    have hroot : rootOf x.name = x.name := by cases x <;> decide
    have hx : rootOf x.name ∉ (Scope.module m.body).names s.withBareNames.package := by
      rw [hroot]
      exact hm x
    rw [lookup_moduleTable_of_unbound hx, lookup_implicitTable_withBareNames hmacros honce]
  · intro sp hsp
    exact lookup_scopeTable_congr (lookup_implicitTable_withBareNames_of_notMem hmacros honce hsp)

/-- `from jumps.core import return_if as done`. -/
def quotedModule : Module Empty :=
  ⟨[.simple ⟨1, 0, 1, 40⟩
    (.importsFrom (some "jumps.core") [⟨⟨1, 23⟩, "return_if", some "done"⟩] 0)]⟩

/-- Under the settings of a file that configures another name the macros are known by their own
names, too. -/
theorem lookup_withBareNames_quoted :
    load (settingsFile quotedText) (some "jumps.yaml") = .ok quotedSettings ∧
    (∀ x : Macro, x.name ∉ (Scope.module quotedModule.body).names quotedSettings.package) ∧
    (∀ x : Macro,
      (moduleTable quotedSettings.withBareNames quotedModule).lookup x.name = some x.name) ∧
    (moduleTable quotedSettings.withBareNames quotedModule).lookup "leave" =
      (moduleTable quotedSettings quotedModule).lookup "leave" := by
  have hload : load (settingsFile quotedText) (some "jumps.yaml") = .ok quotedSettings :=
    (load_eq_ok_of_read read_quoted.1 read_quoted.2).2 given_quoted
  have hnames : ∀ x : Macro,
      x.name ∉ (Scope.module quotedModule.body).names quotedSettings.package := by
    intro x
    cases x <;> with_unfolding_all decide
  refine ⟨hload, hnames, fun x => ?_, ?_⟩
  · refine ((lookup_withBareNames_iff hload quotedModule).1 hnames x).2 ?_
    rintro y ⟨sps, hmem, hsp⟩
    obtain rfl : sps = ["leave"] := (Prod.mk.inj (List.mem_singleton.1 hmem)).2
    exact absurd hsp (by cases x <;> decide)
  · exact (lookup_withBareNames_iff hload quotedModule).2 "leave" (by decide)

/-- The name of a macro for a later one. -/
def takenText : String :=
  "\x7b\"implicit_names\": \x7b\"label\": [\"break_if\"]\x7d, \"package\": \"flow_control\"\x7d"

def takenValue : Yaml :=
  .map [(.text "implicit_names", .map [(.text "label", .list [.text "break_if"])]),
    (.text "package", .text "flow_control")]

def takenSettings : Settings := ⟨[("label", ["break_if"])], "flow_control", "_flow_"⟩

theorem load_taken : load (settingsFile takenText) (some "jumps.yaml") = .ok takenSettings := by
  have hread : Yaml.read takenText = .ok takenValue :=
    read_of_texts (by decide) (by decide) (by decide +kernel)
  refine (load_eq_ok_of_read (readText_settingsFile (by decide)) hread).2 ?_
  refine .map ?_ (.present (.map (.cons ⟨rfl, by decide, ?_⟩ .nil))) (.present ?_) .absent
  · simp [Yaml.KnownKeys]
  · have hids : ∀ x ∈ ["break_if"], Text.isIdentifier x = true := by decide
    exact .list (by simp) hids
  · have hjoin : "flow_control" = ".".intercalate ["flow_control"] := by decide
    rw [takenSettings, hjoin]
    exact .text (by simp) (by decide)

/-- A file may give the name of a macro to a later one, which then keeps it: in the empty module
`break_if` denotes the macro for labels. -/
theorem lookup_withBareNames_taken :
    load (settingsFile takenText) (some "jumps.yaml") = .ok takenSettings ∧
    (∀ x : Macro, x.name ∉ (Scope.module []).names takenSettings.package) ∧
    (moduleTable takenSettings.withBareNames ⟨[]⟩).lookup Macro.breakIf.name =
      some Macro.label.name := by
  have hnames : ∀ x : Macro, x.name ∉ (Scope.module []).names takenSettings.package := by
    intro x
    cases x <;> with_unfolding_all decide
  refine ⟨load_taken, hnames, ?_⟩
  have hlists (m : String) : takenSettings.withBareNames.Lists m "break_if" ↔
      m = "break_if" ∨ m = "label" := by
    have hown : takenSettings.Lists m "break_if" ↔ m = "label" := by
      simp [Lists, takenSettings]
    have hmem : m ∈ Macro.names ∧ "break_if" = m ↔ m = "break_if" :=
      ⟨fun h => h.2.symm, fun h => ⟨h ▸ by decide, h.symm⟩⟩
    rw [lists_withBareNames (s := takenSettings) (by decide) (List.nodup_singleton "label"), hown,
      hmem]
  rw [lookup_moduleTable_of_unbound (by with_unfolding_all decide), lookup_implicitTable]
  refine ⟨(hlists "label").2 (.inr rfl), fun m hm => ?_⟩
  rcases (hlists m).1 hm with rfl | rfl
  · decide
  · exact String.le_refl _

end Settings

end JumpMacros
