import JumpMacros.Proofs.SettingsFiles
import Mathlib.Data.List.Nodup

/-!
# Keys of documents

**Theorem (`nodup_macros_of_load`).** Settings that are loaded list each macro once.

A mapping of a document never has a text for the keys of two entries: an entry with the key of an
earlier one takes its place (`putEntry_keys`). This holds of all mappings in a document, since the
values in a mapping are again values of nodes (`Document.entry`).
-/

namespace JumpMacros

namespace Yaml

/-! ## Putting entries into mappings -/

/-- No text is the key of two entries. -/
def TextsOnce (entries : List (Yaml × Yaml)) : Prop :=
  (entries.map Prod.fst).Pairwise fun k k' => ∀ x, k = .text x → k' ≠ .text x

/-- An entry takes the place of one with an equal key, or it comes last. -/
theorem putEntry_keys (k v : Yaml) (es : List (Yaml × Yaml)) :
    (putEntry k v es).map Prod.fst = es.map Prod.fst ∨
      (∀ e ∈ es, e.1.sameKey k = false) ∧
        (putEntry k v es).map Prod.fst = es.map Prod.fst ++ [k] := by
  induction es with
  | nil => exact .inr ⟨List.forall_mem_nil _, rfl⟩
  | cons e es ih =>
    unfold putEntry
    by_cases h : e.1.sameKey k = true
    · rw [if_pos h]
      exact .inl rfl
    · rw [if_neg h]
      refine ih.imp (congrArg (e.1 :: ·)) (And.imp (fun hother => ?_) (congrArg (e.1 :: ·)))
      exact List.forall_mem_cons.2 ⟨by simpa using h, hother⟩

theorem TextsOnce.putEntry {es : List (Yaml × Yaml)} (h : TextsOnce es) (k v : Yaml) :
    TextsOnce (putEntry k v es) := by
  unfold TextsOnce
  rcases putEntry_keys k v es with hkeys | ⟨hother, hkeys⟩
  · rwa [hkeys]
  · rw [hkeys, List.pairwise_append]
    refine ⟨h, List.pairwise_singleton _ k, ?_⟩
    rintro k' hk' _ hlast x rfl rfl
    obtain ⟨e, he, hkey⟩ := List.mem_map.1 hk'
    obtain rfl := List.mem_singleton.1 hlast
    have hsame := hother e he
    simp [hkey, sameKey] at hsame

/-- Mappings hold what was put into them. -/
theorem mem_putEntry {k v : Yaml} {es : List (Yaml × Yaml)} {e : Yaml × Yaml}
    (he : e ∈ putEntry k v es) : e.2 = v ∨ e ∈ es := by
  induction es with
  | nil => exact .inl (congrArg Prod.snd (List.mem_singleton.1 he))
  | cons e' es ih =>
    unfold putEntry at he
    split at he
    · rcases List.mem_cons.1 he with rfl | he
      · exact .inl rfl
      · exact .inr (List.mem_cons_of_mem _ he)
    · rcases List.mem_cons.1 he with rfl | he
      · exact .inr List.mem_cons_self
      · exact (ih he).imp_right (List.mem_cons_of_mem _)

/-- A mapping is made of its entries one by one. -/
theorem ofEntries_induction {P : List (Yaml × Yaml) → Prop} (es : List (Yaml × Yaml))
    (hnil : P []) (hput : ∀ done, ∀ e ∈ es, P done → P (putEntry e.1 e.2 done)) :
    P (ofEntries es) := by
  have hfold (rest done : List (Yaml × Yaml)) (hrest : rest ⊆ es) (hdone : P done) :
      P (rest.foldl (fun done e => putEntry e.1 e.2 done) done) := by
    induction rest generalizing done with
    | nil => exact hdone
    | cons e rest ih =>
      exact ih _ (fun _ he => hrest (List.mem_cons_of_mem _ he))
        (hput done e (hrest List.mem_cons_self) hdone)
  exact hfold es [] (List.Subset.refl es) hnil

theorem textsOnce_ofEntries (es : List (Yaml × Yaml)) : TextsOnce (ofEntries es) :=
  ofEntries_induction es List.Pairwise.nil fun _ e _ h => h.putEntry e.1 e.2

theorem exists_of_mem_ofEntries {es : List (Yaml × Yaml)} {e : Yaml × Yaml}
    (he : e ∈ ofEntries es) : ∃ e' ∈ es, e'.2 = e.2 := by
  revert he
  refine ofEntries_induction (P := fun done => e ∈ done → ∃ e' ∈ es, e'.2 = e.2) es ?_ ?_
  · exact fun he => absurd he List.not_mem_nil
  · rintro done e' he' ih he
    rcases mem_putEntry he with heq | he
    · exact ⟨e', he', heq.symm⟩
    · exact ih he

/-! ## Values of nodes -/

namespace Node

/-- Some node has the value of each entry. -/
def OfNodes (es : List (Yaml × Yaml)) : Prop := ∀ e ∈ es, ∃ n : Node, n.value = e.2

theorem OfNodes.append {es es' : List (Yaml × Yaml)} (h : OfNodes es) (h' : OfNodes es') :
    OfNodes (es ++ es') :=
  List.forall_mem_append.2 ⟨h, h'⟩

theorem ofNodes_nil : OfNodes [] := List.forall_mem_nil _

theorem ofNodes_ownEntries (entries : List (Node × Node)) : OfNodes (ownEntries entries) := by
  induction entries with
  | nil =>
    rw [ownEntries]
    exact ofNodes_nil
  | cons e rest ih =>
    rw [ownEntries]
    split
    · exact ih
    · exact List.forall_mem_cons.2 ⟨⟨e.2, rfl⟩, ih⟩

mutual

theorem ofNodes_mergedEntries : (entries : List (Node × Node)) → OfNodes (mergedEntries entries)
  | [] => by
    rw [mergedEntries]
    exact ofNodes_nil
  | (k, .mapping m t es) :: rest => by
    rw [mergedEntries]
    refine OfNodes.append ?_ (ofNodes_mergedEntries rest)
    split
    · exact (ofNodes_mergedEntries es).append (ofNodes_ownEntries es)
    · exact ofNodes_nil
  | (k, .sequence m t items) :: rest => by
    rw [mergedEntries]
    refine OfNodes.append ?_ (ofNodes_mergedEntries rest)
    split
    · exact ofNodes_eachMerged items
    · exact ofNodes_nil
  | (k, .scalar m t s) :: rest => by
    rw [mergedEntries, ite_self] <;> first | exact ofNodes_mergedEntries rest | nofun
  | (k, .recursive m) :: rest => by
    rw [mergedEntries, ite_self] <;> first | exact ofNodes_mergedEntries rest | nofun

theorem ofNodes_eachMerged : (items : List Node) → OfNodes (eachMerged items)
  | [] => by
    rw [eachMerged]
    exact ofNodes_nil
  | .mapping m t es :: rest => by
    rw [eachMerged]
    exact (ofNodes_eachMerged rest).append
      ((ofNodes_mergedEntries es).append (ofNodes_ownEntries es))
  | .sequence m t items :: rest => by
    rw [eachMerged, List.append_nil] <;> first | exact ofNodes_eachMerged rest | nofun
  | .scalar m t s :: rest => by
    rw [eachMerged, List.append_nil] <;> first | exact ofNodes_eachMerged rest | nofun
  | .recursive m :: rest => by
    rw [eachMerged, List.append_nil] <;> first | exact ofNodes_eachMerged rest | nofun

end

end Node

theorem readReal_isKey {s : String} {v : Yaml} (h : readReal s = .ok v) : v.isKey = true := by
  simp only [readReal, bind, Except.bind, pure, Except.pure] at h
  repeat' split at h
  all_goals cases h
  all_goals rfl

theorem isKey_of_map {α : Type} {f : α → Yaml} (hf : ∀ a, (f a).isKey = true)
    {r : Except Unreadable α} {v : Yaml} (h : r.map f = .ok v) : v.isKey = true := by
  cases r with
  | error u => cases h
  | ok a =>
    cases h
    exact hf a

/-- The value of a scalar can be a key. -/
theorem scalar_isKey {t : Tag} {s : String} {v : Yaml} (h : t.scalar s = .ok v) :
    v.isKey = true := by
  unfold Tag.scalar at h
  split at h
  · cases h
    rfl
  · exact isKey_of_map (fun _ => rfl) h
  · exact isKey_of_map (fun _ => rfl) h
  · exact readReal_isKey h
  · exact isKey_of_map (fun _ => rfl) h
  · cases h
    rfl
  · cases h
    rfl

/-- What is made of a scalar's text is no mapping. -/
theorem getD_scalar_ne_map {r : Option Yaml} (hr : ∀ v, r = some v → v.isKey = true)
    {es : List (Yaml × Yaml)} : r.getD .null ≠ .map es := by
  intro h
  cases r with
  | none => cases h
  | some v =>
    have hkey := hr v rfl
    rw [show v = .map es from h] at hkey
    cases hkey

/-- A node whose value is a mapping has been made of entries of nodes. -/
theorem Node.value_eq_map {n : Node} {es : List (Yaml × Yaml)} (h : n.value = .map es) :
    ∃ entries, es = ofEntries (Node.allEntries entries) := by
  have hscalar {t : Tag} {s : String} (v : Yaml) (hv : (t.scalar s).toOption = some v) :
      v.isKey = true := scalar_isKey (Settings.eq_ok_of_toOption hv)
  cases n with
  | scalar m t s =>
    rw [Node.value] at h
    exact absurd h (getD_scalar_ne_map hscalar)
  | sequence m t items =>
    rw [Node.value] at h
    cases h
  | recursive m =>
    rw [Node.value] at h
    cases h
  | mapping m t entries =>
    by_cases ht : t = .set
    · rw [ht, Node.value] at h
      cases h
    · rw [Node.value] at h
      · split at h
        · refine absurd h (getD_scalar_ne_map fun v hv => ?_)
          obtain ⟨s, -, hs⟩ := Option.bind_eq_some_iff.1 hv
          exact hscalar v hs
        · exact ⟨entries, (Yaml.map.inj h).symm⟩
      · exact ht

/-! ## Documents -/

/-- A value that stands in a document, or that of an empty one. -/
def InDocument (v : Yaml) : Prop := v = .null ∨ ∃ n : Node, n.value = v

theorem InDocument.textsOnce {es : List (Yaml × Yaml)} (h : InDocument (.map es)) :
    TextsOnce es := by
  rcases h with h | ⟨n, hn⟩
  · cases h
  · obtain ⟨entries, rfl⟩ := Node.value_eq_map hn
    exact textsOnce_ofEntries _

theorem InDocument.entry {es : List (Yaml × Yaml)} (h : InDocument (.map es)) {e : Yaml × Yaml}
    (he : e ∈ es) : InDocument e.2 := by
  rcases h with h | ⟨n, hn⟩
  · cases h
  · obtain ⟨entries, rfl⟩ := Node.value_eq_map hn
    obtain ⟨e', he', heq⟩ := exists_of_mem_ofEntries he
    rw [Node.allEntries] at he'
    obtain ⟨n', hn'⟩ :=
      (Node.ofNodes_mergedEntries entries).append (Node.ofNodes_ownEntries entries) e' he'
    exact .inr ⟨n', hn'.trans heq⟩

theorem InDocument.get? {es : List (Yaml × Yaml)} (h : InDocument (.map es)) {key : String}
    {v : Yaml} (hv : Yaml.get? es key = some v) : InDocument v := by
  obtain ⟨e, he, rfl⟩ := Option.map_eq_some_iff.1 hv
  exact h.entry (List.mem_of_find?_eq_some he)

theorem inDocument_of_read {text : String} {v : Yaml} (h : Yaml.read text = .ok v) :
    InDocument v := by
  have hconstruct {n : Node} {v : Yaml} (h : n.construct = .ok v) : InDocument v := by
    unfold Node.construct at h
    dsimp only at h
    split at h
    · cases h
    · exact .inr ⟨n, Except.ok.inj h⟩
  unfold Yaml.read at h
  split at h
  · rename_i v' hdocument
    cases h
    simp only [document, bind, Except.bind, pure, Except.pure] at hdocument
    split at hdocument
    · cases hdocument
    · split at hdocument
      · cases hdocument
      · split at hdocument
        · exact hconstruct hdocument
        · exact .inl (Except.ok.inj hdocument).symm
  · cases h
  · cases h

end Yaml

/-! ## Macros of settings -/

namespace Settings

open Yaml (InDocument)

variable {s : Settings}

/-- Settings that a value of a document gives list each macro once. -/
theorem Given.nodup_macros {v : Yaml} (h : Given v s) (hv : InDocument v) :
    (s.implicitNames.map Prod.fst).Nodup := by
  cases h with
  | null => exact List.nodup_nil
  | map hkeys hnames hpackage hstart =>
    generalize hgiven : Yaml.get? _ _ = given at hnames
    generalize s.implicitNames = names at hnames
    cases hnames with
    | absent => exact List.nodup_nil
    | present hnames =>
      obtain ⟨hall⟩ := hnames
      have honce := (hv.get? hgiven).textsOnce
      rename_i es
      have hkeys : es.map Prod.fst = (names.map Prod.fst).map .text := by
        clear hgiven honce
        induction hall with
        | nil => rfl
        | cons he _ ih => exact congrArg₂ List.cons he.key ih
      rw [Yaml.TextsOnce, hkeys, List.pairwise_map] at honce
      exact honce.imp fun hne heq => hne _ rfl (congrArg Yaml.text heq.symm)

/-- **Settings that are loaded list each macro once.** -/
theorem nodup_macros_of_load {files : FileTree} {path : Option String}
    (h : load files path = .ok s) : (s.implicitNames.map Prod.fst).Nodup := by
  rcases exists_given_of_load h with rfl | ⟨text, v, hv, hs⟩
  · exact List.nodup_nil
  · exact hs.nodup_macros (Yaml.inDocument_of_read hv)

end Settings

end JumpMacros
