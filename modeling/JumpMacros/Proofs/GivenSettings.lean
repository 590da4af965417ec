import JumpMacros.Proofs.JoinedNames
import JumpMacros.Proofs.PathNames
import JumpMacros.Settings.File

/-!
# Values that give settings

`Settings.Given` says which values of documents give settings, and which settings they give: nothing
at all gives the standard settings, and a mapping with known keys whose values are in order gives
what it holds, and the standard settings for the keys it lacks.

**Theorem (`given_iff`).** A value passes all checks exactly if it gives settings, and with just
these.

**Theorem (`ofYaml_unwritable`).** A key that is a number with too many digits cannot be put into a
report. Checking ends with that exactly if such a key is at fault (`Yaml.Unreportable`).

The checks are taken in the order in which they are made. Each has one lemma that says when it is
passed, with what result, and one that says that a failed check has a report; only the names of
macros need more, since there a key at fault is written (`namesByMacro_cons`).
-/

namespace JumpMacros

open Text (dottedParts isDottedIdentifier isIdentifier no_stop_of_isIdentifier)

/-! ## Names joined by full stops -/

theorem dottedParts_eq (s : String) :
    dottedParts s = (s.toList.splitOn '.').map String.ofList :=
  Path.splitOn_char '.' s

/-- A text is the join of its parts. -/
theorem intercalate_dottedParts (s : String) : ".".intercalate (dottedParts s) = s := by
  apply String.toList_injective
  have hid : String.toList ∘ String.ofList = id := funext fun cs => String.toList_ofList
  rw [String.toList_intercalate, dottedParts_eq, List.map_map, hid, List.map_id]
  exact List.intercalate_splitOn '.'

/-- Parts that hold no full stops are found again. -/
theorem dottedParts_intercalate {parts : List String} (hne : parts ≠ [])
    (h : ∀ p ∈ parts, '.' ∉ p.toList) : dottedParts (".".intercalate parts) = parts := by
  have hsplit : List.splitOn '.' (['.'].intercalate (parts.map String.toList)) =
      parts.map String.toList := by
    refine List.splitOn_intercalate '.' ?_ (by simpa using hne)
    simpa using h
  have hid : String.ofList ∘ String.toList = id := funext fun s => String.ofList_toList
  have hdot : ".".toList = ['.'] := rfl
  rw [dottedParts_eq, String.toList_intercalate, hdot, hsplit, List.map_map, hid, List.map_id]

/-- A dotted identifier is identifiers joined by full stops. -/
theorem isDottedIdentifier_iff {s : String} : isDottedIdentifier s = true ↔
    ∃ parts : List String, parts ≠ [] ∧ (∀ p ∈ parts, isIdentifier p = true) ∧
      s = ".".intercalate parts := by
  rw [isDottedIdentifier, List.all_eq_true]
  constructor
  · intro h
    refine ⟨dottedParts s, ?_, h, (intercalate_dottedParts s).symm⟩
    rw [dottedParts_eq, ne_eq, List.map_eq_nil_iff]
    exact List.splitOn_ne_nil _ _
  · rintro ⟨parts, hne, h, rfl⟩
    rwa [dottedParts_intercalate hne fun p hp => no_stop_of_isIdentifier (h p hp)]

/-- An identifier is a dotted one with a single part. -/
theorem isIdentifier_iff_dotted {s : String} : isIdentifier s = true ↔
    isDottedIdentifier s = true ∧ (dottedParts s).length = 1 := by
  have hjoin : ".".intercalate [s] = s := String.intercalate_singleton
  constructor
  · intro h
    have hparts : dottedParts s = [s] := by
      have hback : dottedParts (".".intercalate [s]) = [s] :=
        dottedParts_intercalate (by simp) (by simpa using no_stop_of_isIdentifier h)
      rwa [hjoin] at hback
    simp [isDottedIdentifier, hparts, h]
  · rintro ⟨h, hone⟩
    obtain ⟨p, hp⟩ := List.length_eq_one_iff.1 hone
    have hs : p = s := by
      have hback := intercalate_dottedParts s
      rwa [hp, String.intercalate_singleton] at hback
    simpa [isDottedIdentifier, hp, hs] using h

/-! ## Values that give settings -/

namespace Yaml

/-- A text that is an identifier gives a name. -/
inductive GivesName : Yaml → String → Prop
  | text {x : String} (h : isIdentifier x = true) : GivesName (.text x) x

/-- A list of identifiers that is not empty gives names. -/
inductive GivesNames : Yaml → List String → Prop
  | list {names : List String} (hne : names ≠ []) (h : ∀ x ∈ names, isIdentifier x = true) :
    GivesNames (.list (names.map .text)) names

/-- An entry gives names for a macro. -/
structure GivesMacro (e : Yaml × Yaml) (r : String × List String) : Prop where
  key : e.1 = .text r.1
  known : r.1 ∈ Macro.names
  names : e.2.GivesNames r.2

theorem GivesNames.spec {v : Yaml} {names : List String} (h : v.GivesNames names) :
    names ≠ [] ∧ ∀ x ∈ names, isIdentifier x = true := by
  obtain ⟨hne, hids⟩ := h
  exact ⟨hne, hids⟩

theorem GivesNames.unique {v : Yaml} {names names' : List String} (h : v.GivesNames names)
    (h' : v.GivesNames names') : names = names' := by
  obtain ⟨-, -⟩ := h
  generalize hv : Yaml.list _ = v at h'
  obtain ⟨-, -⟩ := h'
  exact List.map_injective_iff.2 (fun _ _ => Yaml.text.inj) (Yaml.list.inj hv)

theorem GivesMacro.unique {e : Yaml × Yaml} {r r' : String × List String} (h : GivesMacro e r)
    (h' : GivesMacro e r') : r' = r := by
  have hkey : r'.1 = r.1 := Yaml.text.inj (h'.key.symm.trans h.key)
  exact Prod.ext hkey (h'.names.unique h.names)

/-- A mapping whose entries all give names for macros gives implicit names. -/
inductive GivesImplicitNames : Yaml → List (String × List String) → Prop
  | map {entries : List (Yaml × Yaml)} {names : List (String × List String)}
    (h : List.Forall₂ GivesMacro entries names) : GivesImplicitNames (.map entries) names

/-- A text of identifiers joined by full stops gives a package. -/
inductive GivesPackage : Yaml → String → Prop
  | text {parts : List String} (hne : parts ≠ []) (h : ∀ p ∈ parts, isIdentifier p = true) :
    GivesPackage (.text (".".intercalate parts)) (".".intercalate parts)

/-- All keys of a mapping are those of settings. -/
def KnownKeys (entries : List (Yaml × Yaml)) : Prop :=
  ∀ e ∈ entries, ∃ k ∈ ["implicit_names", "package", "flag_prefix"], e.1 = .text k

/-- A setting is what the value at its key gives, and the standard one if there is no value. -/
inductive Takes {α : Type} (gives : Yaml → α → Prop) (standard : α) : Option Yaml → α → Prop
  | present {v : Yaml} {x : α} (h : gives v x) : Takes gives standard (some v) x
  | absent : Takes gives standard none standard

/-- What holds of the standard setting, and of all that values give, holds of a setting. -/
theorem Takes.of {α : Type} {gives : Yaml → α → Prop} {standard x : α} {given : Option Yaml}
    (h : Takes gives standard given x) (P : α → Prop) (hstandard : P standard)
    (hgives : ∀ v x, gives v x → P x) : P x := by
  cases h with
  | present h => exact hgives _ _ h
  | absent => exact hstandard

end Yaml

open Yaml (KnownKeys Takes GivesMacro)

/-- **A document's value gives settings.** -/
inductive Settings.Given : Yaml → Settings → Prop
  | null : Given .null .default
  | map {entries : List (Yaml × Yaml)} {s : Settings} (hkeys : KnownKeys entries)
    (hnames : Takes Yaml.GivesImplicitNames default.implicitNames
      (Yaml.get? entries "implicit_names") s.implicitNames)
    (hpackage : Takes Yaml.GivesPackage default.package (Yaml.get? entries "package") s.package)
    (hstart : Takes Yaml.GivesName default.flagPrefix (Yaml.get? entries "flag_prefix")
      s.flagPrefix) : Given (.map entries) s

/-- A key that has too many digits to be written is at fault: it is one of the mapping, or all keys
of the mapping are known and it is the first among the implicit names that is not in order. -/
inductive Yaml.Unreportable : Yaml → Prop
  | key {entries : List (Yaml × Yaml)} {e : Yaml × Yaml} (he : e ∈ entries)
    (h : e.1.isTooLong = true) : Unreportable (.map entries)
  | name {entries before after : List (Yaml × Yaml)} {e : Yaml × Yaml}
    {names : List (String × List String)} (hkeys : KnownKeys entries)
    (hv : Yaml.get? entries "implicit_names" = some (.map (before ++ e :: after)))
    (hbefore : List.Forall₂ GivesMacro before names) (h : e.1.isTooLong = true) :
    Unreportable (.map entries)

/-- Settings as they may be used: macros are known by identifiers, and the package and the prefix of
flags are made of identifiers. -/
structure Settings.WellFormed (s : Settings) : Prop where
  macros : ∀ e ∈ s.implicitNames, e.1 ∈ Macro.names
  names : ∀ e ∈ s.implicitNames, e.2 ≠ [] ∧ ∀ x ∈ e.2, isIdentifier x = true
  package : ∃ parts : List String, parts ≠ [] ∧ (∀ p ∈ parts, isIdentifier p = true) ∧
    s.package = ".".intercalate parts
  flagPrefix : isIdentifier s.flagPrefix = true

namespace Settings.Overrides

/-! ## Each check -/

theorem mapM_text {items : List Yaml} {names : List String} :
    items.mapM text? = some names ↔ items = names.map .text := by
  induction items generalizing names with
  | nil => cases names <;> simp
  | cons v items ih =>
    rw [List.mapM_cons]
    cases v with
    | text s =>
      cases names with
      | nil => simp [text?, Option.bind_eq_some_iff]
      | cons x names => simp [text?, Option.bind_eq_some_iff, ih, and_comm]
    | _ => cases names <;> simp [text?]

/-- The names of a macro. -/
theorem namesOf_eq_ok {name : String} {v : Yaml} {names : List String} :
    namesOf name v = .ok names ↔ v.GivesNames names := by
  constructor
  · intro h
    unfold namesOf at h
    split at h
    · rename_i x xs
      split at h
      · rename_i names' hmap
        split at h
        · rename_i hall
          obtain rfl := Except.ok.inj h
          have hitems : x :: xs = names'.map .text := mapM_text.1 hmap
          rw [hitems]
          refine .list ?_ (by simpa using hall)
          rintro rfl
          cases hitems
        · cases h
      · cases h
    · cases h
  · rintro ⟨hne, hall⟩
    obtain ⟨x, xs, rfl⟩ := List.exists_cons_of_ne_nil hne
    have hmap : (Yaml.text x :: xs.map .text).mapM text? = some (x :: xs) := mapM_text.2 rfl
    have hids : (x :: xs).all isIdentifier = true := by simpa using hall
    rw [List.map_cons, namesOf, hmap]
    exact if_pos hids

theorem namesOf_error {name : String} {v : Yaml} {p : SettingsProblem}
    (h : namesOf name v = .error p) : p ≠ .unwritableKey := by
  unfold namesOf at h
  repeat' split at h
  all_goals cases h
  all_goals simp

theorem packageOf_eq_ok {v : Yaml} {x : String} : packageOf v = .ok x ↔ v.GivesPackage x := by
  constructor
  · intro h
    unfold packageOf at h
    split at h
    · rename_i s hs
      split at h
      · rename_i hdotted
        obtain rfl := Except.ok.inj h
        obtain ⟨parts, hne, hall, rfl⟩ := isDottedIdentifier_iff.1 hdotted
        cases v <;> cases hs
        exact .text hne hall
      · cases h
    · cases h
  · rintro ⟨hne, hall⟩
    exact if_pos (isDottedIdentifier_iff.2 ⟨_, hne, hall, rfl⟩)

theorem packageOf_error {v : Yaml} {p : SettingsProblem} (h : packageOf v = .error p) :
    p ≠ .unwritableKey := by
  unfold packageOf at h
  repeat' split at h
  all_goals cases h
  all_goals simp

theorem flagPrefixOf_eq_ok {v : Yaml} {x : String} : flagPrefixOf v = .ok x ↔ v.GivesName x := by
  constructor
  · intro h
    unfold flagPrefixOf at h
    split at h
    · rename_i s hs
      split at h
      · cases h
      · rename_i hdotted
        split at h
        · cases h
        · rename_i hone
          obtain rfl := Except.ok.inj h
          cases v <;> cases hs
          exact .text (isIdentifier_iff_dotted.2 ⟨by simpa using hdotted, not_not.1 hone⟩)
    · cases h
  · rintro ⟨hid⟩
    obtain ⟨hdotted, hone⟩ := isIdentifier_iff_dotted.1 hid
    simp [flagPrefixOf, text?, hdotted, hone]

theorem flagPrefixOf_error {v : Yaml} {p : SettingsProblem} (h : flagPrefixOf v = .error p) :
    p ≠ .unwritableKey := by
  unfold flagPrefixOf at h
  repeat' split at h
  all_goals cases h
  all_goals simp

/-- **An entry of the implicit names** is in order, or it is reported unless its key is too long. -/
theorem namesByMacro_cons (e : Yaml × Yaml) (rest : List (Yaml × Yaml)) :
    (∃ r, GivesMacro e r ∧
      namesByMacro (e :: rest) = (namesByMacro rest).map (r :: ·)) ∨
    (¬∃ r, GivesMacro e r) ∧ ∃ p, namesByMacro (e :: rest) = .error p ∧
      (p = .unwritableKey ↔ e.1.isTooLong = true) := by
  obtain ⟨k, v⟩ := e
  cases hk : text? k with
  | none =>
    have hno : ¬∃ r, GivesMacro (k, v) r := by
      rintro ⟨r, hkey, -, -⟩
      obtain rfl : k = .text r.1 := hkey
      cases hk
    by_cases hlong : k.isTooLong = true
    · exact .inr ⟨hno, .unwritableKey, by simp [namesByMacro, hk, hlong, throw, throwThe,
        MonadExceptOf.throw], by simp [hlong]⟩
    · exact .inr ⟨hno, .unknownMacro k.keyText Macro.names, by simp [namesByMacro, hk, hlong,
        throw, throwThe, MonadExceptOf.throw], by simp [hlong]⟩
  | some name =>
    obtain rfl : k = .text name := by cases k <;> cases hk; rfl
    have hshort : ¬(Yaml.text name).isTooLong = true := by simp [Yaml.isTooLong]
    by_cases hknown : name ∈ Macro.names
    · cases hn : namesOf name v with
      | ok names =>
        refine .inl ⟨(name, names), ⟨rfl, hknown, namesOf_eq_ok.1 hn⟩, ?_⟩
        simp only [namesByMacro, hk, List.contains_iff_mem.2 hknown, hn, bind, Except.bind]
        cases namesByMacro rest <;> rfl
      | error p =>
        refine .inr ⟨?_, p, ?_, iff_of_false (namesOf_error hn) hshort⟩
        · rintro ⟨r, hkey, -, hnames⟩
          obtain rfl : name = r.1 := by simpa using hkey
          have hok : namesOf r.1 v = .ok r.2 := namesOf_eq_ok.2 hnames
          rw [hn] at hok
          cases hok
        · simp [namesByMacro, hk, hknown, hn, bind, Except.bind]
    · refine .inr ⟨?_, .unknownMacro name Macro.names, ?_, by simp [Yaml.isTooLong]⟩
      · rintro ⟨r, hkey, hmem, -⟩
        obtain rfl : name = r.1 := by simpa using hkey
        exact hknown hmem
      · simp [namesByMacro, hk, hknown, throw, throwThe, MonadExceptOf.throw, bind, Except.bind]

/-- **The implicit names.** They are given exactly if all entries are in order. -/
theorem namesByMacro_eq_ok {entries : List (Yaml × Yaml)}
    {names : List (String × List String)} :
    namesByMacro entries = .ok names ↔ List.Forall₂ GivesMacro entries names := by
  induction entries generalizing names with
  | nil =>
    have hnil : namesByMacro [] = .ok [] := rfl
    rw [hnil, Except.ok.injEq, List.forall₂_nil_left_iff, eq_comm]
  | cons e rest ih =>
    rw [List.forall₂_cons_left_iff]
    rcases namesByMacro_cons e rest with ⟨r, hr, heq⟩ | ⟨hno, p, heq, -⟩
    · rw [heq]
      constructor
      · intro h
        cases hrest : namesByMacro rest with
        | error p => simp [hrest, Except.map] at h
        | ok ns =>
          rw [hrest] at h
          exact ⟨r, ns, hr, ih.1 hrest, (Except.ok.inj h).symm⟩
      · rintro ⟨r', ns, hr', hns, rfl⟩
        rw [ih.2 hns, hr.unique hr']
        rfl
    · rw [heq]
      refine iff_of_false nofun ?_
      rintro ⟨r, -, hr, -, -⟩
      exact hno ⟨r, hr⟩

/-- An entry whose key is too long stops reading if all entries before it are in order. -/
theorem namesByMacro_unwritable {entries : List (Yaml × Yaml)} :
    namesByMacro entries = .error .unwritableKey ↔ ∃ before e after names,
      entries = before ++ e :: after ∧ List.Forall₂ GivesMacro before names ∧
        e.1.isTooLong = true := by
  induction entries with
  | nil =>
    have hnil : namesByMacro [] = .ok [] := rfl
    simp [hnil]
  | cons e rest ih =>
    rcases namesByMacro_cons e rest with ⟨r, hr, heq⟩ | ⟨hno, p, heq, hp⟩
    · have hrest : namesByMacro (e :: rest) = .error .unwritableKey ↔
          namesByMacro rest = .error .unwritableKey := by
        rw [heq]
        cases namesByMacro rest <;> simp [Except.map]
      rw [hrest, ih]
      constructor
      · rintro ⟨before, e', after, names, rfl, hbefore, hlong⟩
        exact ⟨e :: before, e', after, r :: names, rfl, .cons hr hbefore, hlong⟩
      · rintro ⟨before, e', after, names, hsplit, hbefore, hlong⟩
        cases hbefore with
        | nil =>
          obtain ⟨rfl, -⟩ := List.cons.inj hsplit
          rw [hr.key] at hlong
          cases hlong
        | cons hd hbefore =>
          obtain ⟨-, rfl⟩ := List.cons.inj hsplit
          exact ⟨_, e', after, _, rfl, hbefore, hlong⟩
    · rw [heq, Except.error.injEq, hp]
      constructor
      · exact fun hlong => ⟨[], e, rest, [], rfl, .nil, hlong⟩
      · rintro ⟨before, e', after, names, hsplit, hbefore, hlong⟩
        cases hbefore with
        | nil =>
          obtain ⟨rfl, -⟩ := List.cons.inj hsplit
          exact hlong
        | cons hd _ =>
          obtain ⟨rfl, -⟩ := List.cons.inj hsplit
          exact absurd ⟨_, hd⟩ hno

theorem implicitNamesOf_eq_ok {v : Yaml} {names : List (String × List String)} :
    implicitNamesOf v = .ok names ↔ v.GivesImplicitNames names := by
  constructor
  · intro h
    unfold implicitNamesOf at h
    split at h
    · exact .map (namesByMacro_eq_ok.1 h)
    · cases h
  · rintro ⟨h⟩
    exact namesByMacro_eq_ok.2 h

theorem implicitNamesOf_unwritable {v : Yaml} : implicitNamesOf v = .error .unwritableKey ↔
    ∃ entries, v = .map entries ∧ namesByMacro entries = .error .unwritableKey := by
  cases v <;> simp [implicitNamesOf]

/-- The mapping has no unknown keys. -/
theorem unknownKeys_eq_nil {entries : List (Yaml × Yaml)} :
    unknownKeys entries = [] ↔ KnownKeys entries := by
  rw [unknownKeys, ← List.length_eq_zero_iff, List.length_mergeSort, List.length_eq_zero_iff,
    List.filterMap_eq_nil_iff]
  refine forall₂_congr fun e _ => ?_
  obtain ⟨k, v⟩ := e
  cases k with
  | text s =>
    simp [knownKeys]
    tauto
  | _ => simp

theorem not_isTooLong {entries : List (Yaml × Yaml)} (h : KnownKeys entries) :
    (entries.any fun e => e.1.isTooLong) = false := by
  rw [List.any_eq_false]
  intro e he
  obtain ⟨k, -, hk⟩ := h e he
  rw [hk]
  nofun

/-! ## The whole value -/

/-- A value that is not there needs no check. -/
theorem mapM_eq_ok {α : Type} {f : Yaml → Except SettingsProblem α} {gives : Yaml → α → Prop}
    (hf : ∀ v x, f v = .ok x ↔ gives v x) {given : Option Yaml} {r : Option α} :
    given.mapM f = .ok r ↔ Option.Rel gives given r := by
  cases given with
  | none =>
    constructor
    · rintro ⟨⟩
      exact .none
    · rintro ⟨⟩
      rfl
  | some v =>
    cases hv : f v with
    | error p =>
      refine iff_of_false (by simp [hv, Functor.map, Except.map]) ?_
      rintro ⟨h⟩
      simp [(hf v _).2 h] at hv
    | ok x =>
      constructor
      · intro h
        obtain rfl : some x = r := by simpa [hv, Functor.map, Except.map] using h
        exact .some ((hf v x).1 hv)
      · rintro ⟨h⟩
        simp [(hf v _).2 h, Functor.map, Except.map]

theorem mapM_eq_error {α : Type} {f : Yaml → Except SettingsProblem α} {given : Option Yaml}
    {p : SettingsProblem} : given.mapM f = .error p ↔ ∃ v, given = some v ∧ f v = .error p := by
  cases given with
  | none => exact iff_of_false nofun (by simp)
  | some v => cases hv : f v <;> simp [hv, Functor.map, Except.map]

/-- The settings of a mapping with known keys are read one after the other. -/
theorem ofYaml_map {entries : List (Yaml × Yaml)} (h : KnownKeys entries) :
    ofYaml (.map entries) =
      ((Yaml.get? entries "implicit_names").mapM implicitNamesOf).bind fun names =>
        ((Yaml.get? entries "package").mapM packageOf).bind fun package =>
          ((Yaml.get? entries "flag_prefix").mapM flagPrefixOf).map fun start =>
            ⟨names, package, start⟩ := by
  simp only [ofYaml, not_isTooLong h, unknownKeys_eq_nil.2 h]
  rfl

/-- A mapping with another key is refused. -/
theorem ofYaml_map_of_unknown {entries : List (Yaml × Yaml)} (h : ¬KnownKeys entries) :
    ofYaml (.map entries) = .error (if entries.any fun e => e.1.isTooLong then .unwritableKey
      else .unknownKeys (unknownKeys entries)) := by
  have hne : (unknownKeys entries).isEmpty = false := by
    simpa using fun hnil => h (unknownKeys_eq_nil.1 hnil)
  by_cases hlong : (entries.any fun e => e.1.isTooLong) = true
  · simp [ofYaml, hlong, throw, throwThe, MonadExceptOf.throw, bind, Except.bind]
  · simp [ofYaml, hlong, hne, throw, throwThe, MonadExceptOf.throw, bind, Except.bind]

theorem ofYaml_map_eq_ok {entries : List (Yaml × Yaml)} {o : Overrides} :
    ofYaml (.map entries) = .ok o ↔ KnownKeys entries ∧
      Option.Rel Yaml.GivesImplicitNames (Yaml.get? entries "implicit_names") o.implicitNames ∧
      Option.Rel Yaml.GivesPackage (Yaml.get? entries "package") o.package ∧
      Option.Rel Yaml.GivesName (Yaml.get? entries "flag_prefix") o.flagPrefix := by
  by_cases h : KnownKeys entries
  · rw [ofYaml_map h, ← mapM_eq_ok fun _ _ => implicitNamesOf_eq_ok,
      ← mapM_eq_ok fun _ _ => packageOf_eq_ok, ← mapM_eq_ok fun _ _ => flagPrefixOf_eq_ok]
    obtain ⟨names, package, start⟩ := o
    cases (Yaml.get? entries "implicit_names").mapM implicitNamesOf with
    | error p => simp [Except.bind]
    | ok names' =>
      cases (Yaml.get? entries "package").mapM packageOf with
      | error p => simp [Except.bind]
      | ok package' =>
        cases (Yaml.get? entries "flag_prefix").mapM flagPrefixOf with
        | error p => simp [Except.bind, Except.map]
        | ok start' => simp [Except.bind, Except.map, h]
  · simp [ofYaml_map_of_unknown h, h]

/-- **A key that cannot be written stops reading** exactly where it is at fault. -/
theorem ofYaml_unwritable {v : Yaml} : ofYaml v = .error .unwritableKey ↔ v.Unreportable := by
  cases v with
  | map entries =>
    by_cases h : KnownKeys entries
    · have hinner : ofYaml (.map entries) = .error .unwritableKey ↔
          ((Yaml.get? entries "implicit_names").mapM implicitNamesOf) =
            .error .unwritableKey := by
        rw [ofYaml_map h]
        cases (Yaml.get? entries "implicit_names").mapM implicitNamesOf with
        | error p => simp [Except.bind]
        | ok names =>
          refine iff_of_false ?_ nofun
          cases hp : (Yaml.get? entries "package").mapM packageOf with
          | error p =>
            obtain ⟨v, -, hv⟩ := mapM_eq_error.1 hp
            simpa [Except.bind] using packageOf_error hv
          | ok package =>
            cases hs : (Yaml.get? entries "flag_prefix").mapM flagPrefixOf with
            | error p =>
              obtain ⟨v, -, hv⟩ := mapM_eq_error.1 hs
              simpa [Except.bind, Except.map] using flagPrefixOf_error hv
            | ok start => simp [Except.bind, Except.map]
      rw [hinner, mapM_eq_error]
      constructor
      · rintro ⟨v, hv, himplicit⟩
        obtain ⟨es, rfl, hes⟩ := implicitNamesOf_unwritable.1 himplicit
        obtain ⟨before, e, after, names, rfl, hbefore, hlong⟩ := namesByMacro_unwritable.1 hes
        exact .name h hv hbefore hlong
      · rintro (⟨he, hlong⟩ | ⟨-, hv, hbefore, hlong⟩)
        · exact absurd hlong (by simpa using List.any_eq_false.1 (not_isTooLong h) _ he)
        · exact ⟨_, hv, namesByMacro_unwritable.2 ⟨_, _, _, _, rfl, hbefore, hlong⟩⟩
    · rw [ofYaml_map_of_unknown h, Except.error.injEq]
      constructor
      · intro hif
        split at hif
        · rename_i hany
          obtain ⟨e, he, hlong⟩ := List.any_eq_true.1 hany
          exact .key he hlong
        · cases hif
      · rintro (⟨he, hlong⟩ | ⟨hkeys, -, -, -⟩)
        · exact if_pos (List.any_eq_true.2 ⟨_, he, hlong⟩)
        · exact absurd hkeys h
  | _ => exact iff_of_false (by simp [ofYaml]) nofun

end Settings.Overrides

namespace Settings

open Overrides

theorem takes_iff {α : Type} {gives : Yaml → α → Prop} {standard x : α} {given : Option Yaml} :
    Takes gives standard given x ↔ ∃ r, Option.Rel gives given r ∧ r.getD standard = x := by
  constructor
  · rintro (h | _)
    · exact ⟨_, .some h, rfl⟩
    · exact ⟨_, .none, rfl⟩
  · rintro ⟨r, h | _, rfl⟩
    · exact .present h
    · exact .absent

/-- What a value gives is what its overrides make of the standard settings. -/
theorem given_iff {v : Yaml} {s : Settings} :
    Given v s ↔ ∃ o, ofYaml v = .ok o ∧ ofOverrides o = s := by
  constructor
  · rintro (_ | ⟨hkeys, hnames, hpackage, hstart⟩)
    · exact ⟨.empty, rfl, rfl⟩
    · obtain ⟨names, hnames, hn⟩ := takes_iff.1 hnames
      obtain ⟨package, hpackage, hp⟩ := takes_iff.1 hpackage
      obtain ⟨start, hstart, hs⟩ := takes_iff.1 hstart
      refine ⟨⟨names, package, start⟩, ofYaml_map_eq_ok.2 ⟨hkeys, hnames, hpackage, hstart⟩, ?_⟩
      rw [ofOverrides, hn, hp, hs]
  · rintro ⟨o, ho, rfl⟩
    cases v with
    | null =>
      obtain rfl := Except.ok.inj ho
      exact .null
    | map entries =>
      obtain ⟨hkeys, hnames, hpackage, hstart⟩ := ofYaml_map_eq_ok.1 ho
      exact .map hkeys (takes_iff.2 ⟨_, hnames, rfl⟩) (takes_iff.2 ⟨_, hpackage, rfl⟩)
        (takes_iff.2 ⟨_, hstart, rfl⟩)
    | _ => cases ho

theorem wellFormed_default : WellFormed .default where
  macros := nofun
  names := nofun
  package := ⟨["flow_control"], by simp, by decide, rfl⟩
  flagPrefix := by decide

/-- **All settings that are given are well formed.** -/
theorem Given.wellFormed {v : Yaml} {s : Settings} (h : Given v s) : s.WellFormed := by
  cases h with
  | null => exact wellFormed_default
  | map hkeys hnames hpackage hstart =>
    have hmacros : ∀ e ∈ s.implicitNames, e.1 ∈ Macro.names ∧
        e.2 ≠ [] ∧ ∀ x ∈ e.2, isIdentifier x = true := by
      refine hnames.of (fun ns => ∀ e ∈ ns, e.1 ∈ Macro.names ∧ e.2 ≠ [] ∧
        ∀ x ∈ e.2, isIdentifier x = true) (List.forall_mem_nil _) ?_
      rintro _ _ ⟨hall⟩
      induction hall with
      | nil => exact List.forall_mem_nil _
      | cons he _ ih => exact List.forall_mem_cons.2 ⟨⟨he.known, he.names.spec⟩, ih⟩
    refine ⟨fun e he => (hmacros e he).1, fun e he => (hmacros e he).2, ?_, ?_⟩
    · refine hpackage.of (fun p => ∃ parts : List String, parts ≠ [] ∧
        (∀ p ∈ parts, isIdentifier p = true) ∧ p = ".".intercalate parts)
        wellFormed_default.package ?_
      rintro _ _ ⟨hne, hids⟩
      exact ⟨_, hne, hids, rfl⟩
    · refine hstart.of (fun x => isIdentifier x = true) wellFormed_default.flagPrefix ?_
      rintro _ _ ⟨hid⟩
      exact hid

end Settings

end JumpMacros
