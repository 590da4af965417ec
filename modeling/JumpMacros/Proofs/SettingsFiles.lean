import JumpMacros.Proofs.GivenSettings
import JumpMacros.Proofs.LongKeys
import JumpMacros.Proofs.SourceRoundTrip

/-!
# What a settings file gives

**Theorem (`load_iff_given`).** A settings file is loaded exactly if its value gives settings, and
with just these. Any other file is reported as invalid, unless a key of it is a number with too many
digits: where such a key is at fault, it cannot be put into the report.

**Counterexample (`longKey_not_reported`).** A file with such a key for its only entry gives no
settings and is not reported.
-/

namespace JumpMacros

open Text (isIdentifier)
open Yaml (KnownKeys)

namespace Settings

open Overrides

/-! ## Loading -/

section

variable {files : FileTree} {path text : String} {v : Yaml}

/-- A file with a text that is read as a value. -/
theorem loadOverrides_eq (ht : readText files (Path.ofString path) = .ok text)
    (hv : Yaml.read text = .ok v) : loadOverrides files path =
      match ofYaml v with
      | .error .unwritableKey => .error (.valueError Decimal.tooLongToWrite)
      | .error p => .error (.diagnostic
          (.ofFile (.settingsInvalid p) (some (Path.ofString path).text)))
      | .ok o => .ok o := by
  cases ho : ofYaml v with
  | ok o => simp only [loadOverrides, ht, hv, ho]
  | error p => cases p <;> simp only [loadOverrides, ht, hv, ho]

theorem isEmpty_of_readText (ht : readText files (Path.ofString path) = .ok text) :
    path.isEmpty = false := by
  rw [Bool.eq_false_iff]
  intro hempty
  obtain rfl : path = "" := by simpa using hempty
  have hpath : Path.ofString "" = ⟨false, []⟩ := by
    rw [Path.ofString_eq]
    decide
  obtain ⟨a, hdir⟩ := FileTree.exists_directory (t := files)
    (List.isPrefixOf_iff_prefix.2 List.prefix_rfl)
  obtain ⟨e, hread⟩ := FileTree.read_of_directory (p := ⟨false, []⟩)
    (FileTree.resolve_of_directory rfl hdir)
  rw [hpath, readText, hread] at ht
  cases ht

/-- Loading goes on from the overrides of the file. -/
theorem load_eq (ht : readText files (Path.ofString path) = .ok text) :
    load files (some path) = (loadOverrides files path).map ofOverrides := by
  simp [load, isEmpty_of_readText ht]

theorem load_eq_ok_of_read (ht : readText files (Path.ofString path) = .ok text)
    (hv : Yaml.read text = .ok v) {s : Settings} :
    load files (some path) = .ok s ↔ Given v s := by
  rw [load_eq ht, loadOverrides_eq ht hv, given_iff]
  cases ho : ofYaml v with
  | ok o => simp [Except.map]
  | error p => cases p <;> simp [Except.map]

/-- Settings that are loaded are the standard ones, or the value of a file gives them. -/
theorem exists_given_of_load {path : Option String} {s : Settings}
    (h : load files path = .ok s) :
    s = .default ∨ ∃ text v, Yaml.read text = .ok v ∧ Given v s := by
  cases path with
  | none => exact .inl (Except.ok.inj h).symm
  | some p =>
    rw [load] at h
    split at h
    · exact .inl (Except.ok.inj h).symm
    · refine .inr ?_
      cases ht : readText files (Path.ofString p) with
      | error e =>
        rw [loadOverrides, ht] at h
        rcases e with (_ | _ | _ | _) | _ <;> cases h
      | ok text =>
        cases hv : Yaml.read text with
        | error e =>
          rw [loadOverrides, ht] at h
          simp only [hv] at h
          cases e <;> cases h
        | ok v => exact ⟨text, v, hv, (load_eq_ok_of_read ht hv).1 ((load_eq ht).trans h)⟩

theorem wellFormed_of_load {path : Option String} {s : Settings} (h : load files path = .ok s) :
    s.WellFormed := by
  rcases exists_given_of_load h with rfl | ⟨text, v, -, hs⟩
  · exact wellFormed_default
  · exact hs.wellFormed

/-- **A settings file is loaded exactly if its value gives settings.** Then just these come out,
and they are well formed. Any other file is reported as invalid, except that a key with too many
digits ends reading where it is at fault. -/
theorem load_iff_given (ht : readText files (Path.ofString path) = .ok text)
    (hv : Yaml.read text = .ok v) :
    ((∃ o, loadOverrides files path = .ok o) ↔ ∃ s, Given v s) ∧
    (∀ s, load files (some path) = .ok s ↔ Given v s) ∧
    (∀ s, Given v s → s.WellFormed) ∧
    ((¬∃ s, Given v s) → ¬v.Unreportable → ∃ d : Diagnostic,
      loadOverrides files path = .error (.diagnostic d) ∧ d.cause.family = .config ∧
        d.cause.code = "E_CONFIG_INVALID") ∧
    (v.Unreportable ↔ loadOverrides files path = .error (.valueError Decimal.tooLongToWrite)) := by
  have hload := loadOverrides_eq ht hv
  refine ⟨?_, fun s => load_eq_ok_of_read ht hv, fun s hs => hs.wellFormed, ?_, ?_⟩
  · simp only [given_iff, hload]
    cases ofYaml v with
    | ok o => simp
    | error p => cases p <;> simp
  · intro hno hreport
    rw [← ofYaml_unwritable] at hreport
    cases ho : ofYaml v with
    | ok o => exact absurd ⟨_, given_iff.2 ⟨o, ho, rfl⟩⟩ hno
    | error p =>
      rw [hload, ho]
      cases p with
      | unwritableKey => exact absurd ho hreport
      | _ => exact ⟨_, rfl, rfl, rfl⟩
  · rw [hload, ← ofYaml_unwritable]
    cases ofYaml v with
    | ok o => simp
    | error p => cases p <;> simp

end

/-! ## Texts of files -/

/-- The only file there is, with a text. -/
def settingsFile (text : String) : FileTree :=
  { entries := [(["jumps.yaml"], .file (Text.Utf8.encode text))] }

theorem readText_settingsFile {text : String} (h : '\r' ∉ text.toList) :
    readText (settingsFile text) (Path.ofString "jumps.yaml") = .ok text := by
  have hpath : Path.ofString "jumps.yaml" = ⟨false, ["jumps.yaml"]⟩ := by
    rw [Path.ofString_eq]
    with_unfolding_all decide
  have hplace : (settingsFile text).resolve (Path.ofString "jumps.yaml") =
      .ok (["jumps.yaml"], some (.file (Text.Utf8.encode text) .full)) := by
    rw [hpath]
    rfl
  exact readText_of_file hplace rfl (.of_notMem h)

/-- The texts of a document with a list of one name for one macro, and one more entry. -/
def texts? : Yaml.Node → Option (List String)
  | .mapping _ .mapping [(.scalar _ .text k, .mapping _ .mapping [(.scalar _ .text m,
      .sequence _ .sequence [.scalar _ .text x])]), (.scalar _ .text k', .scalar _ .text v)] =>
    some [k, m, x, k', v]
  | _ => none

theorem construct_texts {n : Yaml.Node} {k m x k' v : String} (hne : k ≠ k')
    (h : texts? n = some [k, m, x, k', v]) : n.construct =
      .ok (.map [(.text k, .map [(.text m, .list [.text x])]), (.text k', .text v)]) := by
  unfold texts? at h
  split at h
  · cases h
    have hmerge (p : Yaml.Mark) (s : String) : (Yaml.Node.scalar p .text s).isMerge = false := rfl
    have htag : (Yaml.Tag.mapping.isScalar || Yaml.Tag.mapping == .value) = false := by decide
    simp [Yaml.Node.construct, Yaml.Node.troubles, Yaml.Node.mergeTroubles,
      Yaml.Node.inheritedTroubles, Yaml.Node.ownTroubles, Yaml.Node.listTroubles,
      Yaml.Node.wrongKind, Yaml.Node.scalarTroubles, Yaml.Node.scalarText, Yaml.Node.isEquals,
      Yaml.Node.isKey, Yaml.Node.value, Yaml.Node.values, Yaml.Node.allEntries,
      Yaml.Node.mergedEntries, Yaml.Node.ownEntries, Yaml.Tag.scalar, Yaml.ofEntries,
      Yaml.putEntry, Yaml.sameKey, hmerge, htag, hne, Except.toOption]
  · cases h

theorem eq_ok_of_toOption {ε α : Type} {x : Except ε α} {a : α} (h : x.toOption = some a) :
    x = .ok a := by
  cases x with
  | error e => cases h
  | ok b => exact congrArg Except.ok (Option.some.inj h)

/-- A document is read by reading its texts. -/
theorem read_of_texts {text k m x k' v : String} (hne : k ≠ k')
    (hallowed : text.toList.findIdx? (fun c => !Yaml.isAllowed c) = none)
    (hnode : ((Yaml.Composer.stream (4 * (Yaml.scan text.toList).1.length + 4)).run
      ⟨(Yaml.scan text.toList).1, (Yaml.scan text.toList).2, [],
        Yaml.Composer.standardHandles⟩).toOption.bind (fun r => r.1.bind texts?) =
      some [k, m, x, k', v]) :
    Yaml.read text = .ok
      (.map [(.text k, .map [(.text m, .list [.text x])]), (.text k', .text v)]) := by
  obtain ⟨⟨n, r⟩, hrun, hn⟩ := Option.bind_eq_some_iff.1 hnode
  obtain ⟨n, rfl, htexts⟩ := Option.bind_eq_some_iff.1 hn
  have hscan : Yaml.scan text.toList = ((Yaml.scan text.toList).1, (Yaml.scan text.toList).2) :=
    Prod.mk.eta.symm
  rw [Yaml.read, Yaml.document_eq hallowed hscan (eq_ok_of_toOption hrun),
    construct_texts hne htexts]

/-! ### A file that gives settings -/

/-- A name for a macro and a package, written as strings. -/
def quotedText : String :=
  "\x7b\"implicit_names\": \x7b\"break_if\": [\"leave\"]\x7d, \"package\": \"jumps.core\"\x7d"

def quotedValue : Yaml :=
  .map [(.text "implicit_names", .map [(.text "break_if", .list [.text "leave"])]),
    (.text "package", .text "jumps.core")]

def quotedSettings : Settings := ⟨[("break_if", ["leave"])], "jumps.core", "_flow_"⟩

theorem given_quoted : Given quotedValue quotedSettings := by
  refine .map ?_ (.present (.map (.cons ⟨rfl, by decide, ?_⟩ .nil))) (.present ?_) .absent
  · simp [KnownKeys]
  · have hids : ∀ x ∈ ["leave"], isIdentifier x = true := by decide
    exact .list (by simp) hids
  · have hjoin : "jumps.core" = ".".intercalate ["jumps", "core"] := by decide
    rw [quotedSettings, hjoin]
    exact .text (by simp) (by decide)

theorem read_quoted :
    readText (settingsFile quotedText) (Path.ofString "jumps.yaml") = .ok quotedText ∧
      Yaml.read quotedText = .ok quotedValue :=
  ⟨readText_settingsFile (by decide),
    read_of_texts (by decide) (by decide) (by decide +kernel)⟩

/-- The file is loaded with the settings that its value gives. -/
theorem load_iff_given_quoted :
    readText (settingsFile quotedText) (Path.ofString "jumps.yaml") = .ok quotedText ∧
      Yaml.read quotedText = .ok quotedValue ∧ Given quotedValue quotedSettings ∧
      load (settingsFile quotedText) (some "jumps.yaml") = .ok quotedSettings :=
  ⟨read_quoted.1, read_quoted.2, given_quoted,
    ((load_iff_given read_quoted.1 read_quoted.2).2.1 quotedSettings).2 given_quoted⟩

/-! ### A key that is not reported -/

/-- A number with more digits than are written in decimal. -/
def longDigits : List Char := List.replicate 3600 'f'

/-- The number as a key, and nothing for its value. -/
def longText : String := String.ofList ('?' :: ' ' :: '0' :: 'x' :: longDigits)

def longValue : Yaml := .map [(.int (Int.ofNat (Yaml.hexNumber longDigits)), .null)]

theorem isTooLong_of_le {n : Nat} (h : Decimal.tooLarge ≤ n) :
    (Yaml.int (Int.ofNat n)).isTooLong = true := by
  rw [Yaml.isTooLong, Decimal.isTooLong, decide_eq_true_eq]
  exact h

theorem tooLarge_le_longDigits : Decimal.tooLarge ≤ Yaml.hexNumber longDigits := by
  have hnumber : Yaml.hexNumber longDigits + 1 = 16 ^ 3600 := Yaml.hexNumber_replicate 3600
  have hpow : Decimal.tooLarge < 16 ^ 3600 := by decide +kernel
  omega

theorem eq_of_mem_longDigits {c : Char} (h : c ∈ longDigits) : c = 'f' := List.eq_of_mem_replicate h

theorem length_longDigits : longDigits.length = 3600 := List.length_replicate

/-- The file is read as a mapping with the number for its key, which gives no settings. It is not
reported as invalid: the key is put into the report, and cannot be written. -/
theorem longKey_not_reported :
    readText (settingsFile longText) (Path.ofString "jumps.yaml") = .ok longText ∧
      Yaml.read longText = .ok longValue ∧ (¬∃ s, Given longValue s) ∧
      loadOverrides (settingsFile longText) "jumps.yaml" =
        .error (.valueError Decimal.tooLongToWrite) := by
  have hdigits : ∀ c ∈ longDigits, Yaml.isHex c := fun c hc =>
    eq_of_mem_longDigits hc ▸ (by decide : Yaml.isHex 'f' = true)
  have hfile : readText (settingsFile longText) (Path.ofString "jumps.yaml") = .ok longText := by
    refine readText_settingsFile fun hmem => ?_
    rw [longText, String.toList_ofList] at hmem
    simp only [List.mem_cons, Char.reduceEq, false_or] at hmem
    exact absurd (eq_of_mem_longDigits hmem) (by decide)
  have hread : Yaml.read longText = .ok longValue := by
    refine Yaml.read_hexKey ?_ hdigits
    rw [length_longDigits]
    decide
  have hlong := isTooLong_of_le tooLarge_le_longDigits
  have hof : ofYaml longValue = .error .unwritableKey :=
    ofYaml_unwritable.2 (.key (List.mem_singleton_self _) hlong)
  refine ⟨hfile, hread, ?_, ?_⟩
  · rintro ⟨s, hs⟩
    obtain ⟨o, ho, -⟩ := given_iff.1 hs
    rw [hof] at ho
    cases ho
  · rw [loadOverrides_eq hfile hread, hof]

end Settings

end JumpMacros
