import JumpMacros.Proofs.EmptyTexts
import JumpMacros.Proofs.PathNames
import JumpMacros.Script.Run

/-!
# Scripts leave the session as it was

A script is run by any function from sessions to sessions here: it may stop in any way, change
everything in the session, and install the hook or take it out as often as it likes.

**Result (`runPathBy_restores`).** If the script cannot be loaded or compiled, the session is not
touched. Otherwise the arguments, the directories and the main module are restored, provided that
there is a list of directories before the script, and when its body ends something that takes the
directories. The hook is not installed afterwards unless it was before, whatever the body leaves.

**Where it fails (`Session.leave_of_refillFault`).** If the body leaves something that refuses the
directories, putting them back fails. The arguments and the main module come after them and stay as
the body left them. Nor is a name restored that was barred (`Session.leave_of_taken`).

`Session.enter` and `Session.leave` are characterised one by one, and `Session.around` by the two
ways in which entering ends.
-/

namespace JumpMacros

/-- No hook is known once it has been taken out. -/
theorem Finders.isInstalled_uninstall (f : Finders) : f.uninstall.isInstalled = false := by
  unfold uninstall
  split
  · rfl
  · rename_i h
    simp [isInstalled, h]

/-! ## Lists of the host -/

namespace HostList

/-- A list stands there. -/
def IsList (l : HostList) : Prop := ∃ texts, l = .list texts

/-- A list takes other texts. -/
theorem IsList.refillFault {l : HostList} (h : l.IsList) (name : String) :
    l.refillFault name = none := by
  obtain ⟨texts, rfl⟩ := h
  rfl

theorem IsList.refilled {l : HostList} (h : l.IsList) (texts : List String) :
    l.refilled texts = .list texts := by
  obtain ⟨old, rfl⟩ := h
  rfl

/-- What takes other texts holds them then. -/
theorem texts_refilled {l : HostList} {name : String} (h : l.refillFault name = none)
    (texts : List String) : (l.refilled texts).texts = texts := by
  cases l with
  | list _ => rfl
  | lookalike v => rfl
  | absent => cases h

end HostList

namespace Session

/-- The arguments, the directories and the main module are those of the session before. -/
structure Restored (before after : Session) : Prop where
  arguments : after.arguments = before.arguments
  searchPath : after.searchPath = before.searchPath
  mainModule : after.mainModule = before.mainModule

/-! ## Leaving -/

section Leave

variable {after before : Session}

/-- Whether or not the directories can be put back, the hook is taken out if it was put in. -/
theorem leave_finders (after before : Session) (directories : List String) :
    (after.leave before directories).2.finders =
      if before.finders.isInstalled then after.finders else after.finders.uninstall := by
  unfold leave
  dsimp only
  split <;> rfl

/-- Into what takes the directories everything is put back, but a name that was barred is free. -/
theorem leave_of_taken (h : after.searchPath.refillFault "path" = none) (before : Session)
    (directories : List String) :
    (after.leave before directories).1 = none ∧
      (after.leave before directories).2.arguments = before.arguments ∧
      (after.leave before directories).2.searchPath = after.searchPath.refilled directories ∧
      (after.leave before directories).2.mainModule =
        before.mainModule.filter Option.isSome := by
  simp only [leave, HostList.refill, h, and_self]

/-- Nothing is put back but the hook if the directories are refused. -/
theorem leave_of_refillFault {r : Raised} (h : after.searchPath.refillFault "path" = some r)
    (before : Session) (directories : List String) :
    (after.leave before directories).1 = some r ∧
      after.Restored (after.leave before directories).2 := by
  simp only [leave, HostList.refill, h]
  exact ⟨trivial, rfl, rfl, rfl⟩

theorem filter_mainModule (hmain : before.mainModule ≠ some none) :
    before.mainModule.filter Option.isSome = before.mainModule := by
  cases hm : before.mainModule with
  | none => rfl
  | some name =>
    cases name with
    | none => exact absurd hm hmain
    | some name => rfl

theorem isInstalled_leave (h : before.finders.isInstalled = false) (after : Session)
    (directories : List String) :
    (after.leave before directories).2.finders.isInstalled = false := by
  rw [leave_finders, h, if_neg Bool.false_ne_true, Finders.isInstalled_uninstall]

end Leave

/-! ## Entering -/

section Enter

variable {before : Session} {s : Settings} {script directory : String} {arguments : List String}

/-- Without arguments, or directories to keep, the session is not entered. -/
theorem enter_of_error {r : Raised} (h : before.kept = .error r) (s : Settings)
    (script directory : String) (arguments : List String) :
    before.enter s script directory arguments = (.error r, before) := by
  rw [enter, h]

/-- A list of directories is kept as it is. -/
theorem enter_of_list {directories : List String} (harguments : before.arguments ≠ .absent)
    (hlist : before.searchPath = .list directories) :
    (before.enter s script directory arguments).1 = .ok directories := by
  have hkept : before.kept = .ok directories := by
    unfold kept
    split
    · contradiction
    · rw [hlist]
      rfl
  simp only [enter, hkept, hlist, HostList.insertFirst]

/-- A session that is not entered has the finders it had. -/
theorem enter_finders {r : Raised} (h : (before.enter s script directory arguments).1 = .error r) :
    (before.enter s script directory arguments).2.finders = before.finders := by
  unfold enter at h ⊢
  split at h
  · rfl
  · dsimp only at h ⊢
    split at h
    · rfl
    · cases h

end Enter

/-! ## Running a body -/

section Around

variable {α : Type} {before : Session} {s : Settings} {script directory : String}
  {arguments : List String} (body : Session → α × Session)

theorem around_of_error {r : Raised}
    (h : (before.enter s script directory arguments).1 = .error r) :
    before.around s script directory arguments body =
      (.unstarted r, (before.enter s script directory arguments).2) := by
  unfold around
  split
  · rename_i heq
    rw [heq] at h ⊢
    cases h
    rfl
  · rename_i heq
    rw [heq] at h
    cases h

theorem around_of_ok {directories : List String}
    (h : (before.enter s script directory arguments).1 = .ok directories) :
    before.around s script directory arguments body =
      let ran := body (before.enter s script directory arguments).2
      (.ran ran.1 (ran.2.leave before directories).1, (ran.2.leave before directories).2) := by
  unfold around
  split
  · rename_i heq
    rw [heq] at h
    cases h
  · rename_i heq
    rw [heq] at h ⊢
    cases h
    rfl

/-- A body does not leave the hook installed that was put in for it. -/
theorem isInstalled_around (h : before.finders.isInstalled = false) :
    (before.around s script directory arguments body).2.finders.isInstalled = false := by
  cases he : (before.enter s script directory arguments).1 with
  | error r => rw [around_of_error body he, enter_finders he, h]
  | ok directories =>
    rw [around_of_ok body he]
    exact isInstalled_leave h _ directories

/-- If what the body leaves takes the directories, nothing goes wrong around it, and the session has
its arguments, its directories and its main module again. -/
theorem around_of_taken (harguments : before.arguments ≠ .absent)
    (hlist : before.searchPath.IsList)
    (hleft : (body (before.enter s script directory arguments).2).2.searchPath.refillFault "path" =
      none) :
    let after := (before.around s script directory arguments body).2
    (before.around s script directory arguments body).1 =
        .ran (body (before.enter s script directory arguments).2).1 none ∧
      after.arguments = before.arguments ∧ after.searchPath.texts = before.searchPath.texts ∧
      (before.mainModule ≠ some none → after.mainModule = before.mainModule) ∧
      ((body (before.enter s script directory arguments).2).2.searchPath.IsList →
        after.searchPath = before.searchPath) := by
  obtain ⟨directories, hlist⟩ := hlist
  rw [around_of_ok body (enter_of_list harguments hlist)]
  obtain ⟨hfault, harguments', hpath, hmain'⟩ := leave_of_taken hleft before directories
  refine ⟨congrArg (Ended.ran _) hfault, harguments', ?_, fun hmain =>
    hmain'.trans (filter_mainModule hmain), fun his => ?_⟩
  · rw [hlist]
    exact (congrArg HostList.texts hpath).trans (HostList.texts_refilled hleft directories)
  · rw [hlist]
    exact hpath.trans (his.refilled directories)

/-- If it refuses them, a fault is raised, and what the body left stays there. -/
theorem around_of_refillFault (harguments : before.arguments ≠ .absent)
    (hlist : before.searchPath.IsList) {r : Raised}
    (hleft : (body (before.enter s script directory arguments).2).2.searchPath.refillFault "path" =
      some r) :
    (before.around s script directory arguments body).1 =
        .ran (body (before.enter s script directory arguments).2).1 (some r) ∧
      (body (before.enter s script directory arguments).2).2.Restored
        (before.around s script directory arguments body).2 := by
  obtain ⟨directories, hlist⟩ := hlist
  rw [around_of_ok body (enter_of_list harguments hlist)]
  obtain ⟨hfault, hstays⟩ := leave_of_refillFault hleft before directories
  exact ⟨congrArg (Ended.ran _) hfault, hstays⟩

end Around

end Session

/-! ## Scripts -/

namespace Script

section

variable {α : Type} {files : FileTree} {s : Settings} {path : String}

theorem runPathBy_of_error {r : Raised} (h : compilePath files s path = .error r)
    (run : Expanded → Session → α × Session) (before : Session) (arguments : List String) :
    runPathBy run files before s path arguments = (.error r, before) := by
  rw [runPathBy, h]

theorem runPathBy_of_ok {e : Expanded} (h : compilePath files s path = .ok e)
    (run : Expanded → Session → α × Session) (before : Session) (arguments : List String) :
    runPathBy run files before s path arguments =
      ((.ok (before.around s path (scriptDirectory files path) arguments (run e)).1),
        (before.around s path (scriptDirectory files path) arguments (run e)).2) := by
  rw [runPathBy, h]

/-- A script that cannot be compiled leaves the session untouched, and so does one without
arguments or directories to keep. Any other is run, and when its body has ended, the session is
restored if the body leaves a list, provided that there was a list before and no name was barred.
Where the body leaves something else that takes the directories, it is there again with the
directories of before. If they are refused, a fault is raised, and what the body left stays there.
The hook is not installed afterwards if it was not before. -/
theorem runPathBy_restores (run : Expanded → Session → α × Session) (before : Session)
    (arguments : List String) :
    (∀ r, compilePath files s path = .error r →
      runPathBy run files before s path arguments = (.error r, before)) ∧
    ∀ e, compilePath files s path = .ok e → ∃ ended after,
      runPathBy run files before s path arguments = (.ok ended, after) ∧
      (before.finders.isInstalled = false → after.finders.isInstalled = false) ∧
      (∀ r, before.kept = .error r → ended = .unstarted r ∧ after = before) ∧
      (before.arguments ≠ .absent → before.searchPath.IsList →
        let ran := run e (before.enter s path (scriptDirectory files path) arguments).2
        (ran.2.searchPath.IsList → ended = .ran ran.1 none ∧
          (before.mainModule ≠ some none → before.Restored after)) ∧
        (ran.2.searchPath.refillFault "path" = none → ended = .ran ran.1 none ∧
          after.arguments = before.arguments ∧
          after.searchPath.texts = before.searchPath.texts ∧
          (before.mainModule ≠ some none → after.mainModule = before.mainModule)) ∧
        (∀ r, ran.2.searchPath.refillFault "path" = some r →
          ended = .ran ran.1 (some r) ∧ ran.2.Restored after)) := by
  refine ⟨fun r h => runPathBy_of_error h run before arguments, fun e h =>
    ⟨_, _, runPathBy_of_ok h run before arguments, Session.isInstalled_around _, ?_, ?_⟩⟩
  · intro r hkept
    have hentered := Session.enter_of_error hkept s path (scriptDirectory files path) arguments
    rw [Session.around_of_error (run e) (congrArg Prod.fst hentered)]
    exact ⟨rfl, congrArg Prod.snd hentered⟩
  · intro harguments hlist
    refine ⟨fun his => ?_, fun htaken => ?_, fun r hrefused => ?_⟩
    · obtain ⟨hended, hargs, -, hmain, hpath⟩ :=
        Session.around_of_taken (run e) harguments hlist (his.refillFault "path")
      exact ⟨hended, fun hbarred => ⟨hargs, hpath his, hmain hbarred⟩⟩
    · obtain ⟨hended, hargs, hpath, hmain, -⟩ :=
        Session.around_of_taken (run e) harguments hlist htaken
      exact ⟨hended, hargs, hpath, hmain⟩
    · exact Session.around_of_refillFault (run e) harguments hlist hrefused

/-! ## An empty script -/

/-- A directory with an empty script. -/
def emptyScript : FileTree := { entries := [(["m.py"], .file [])] }

/-- A session of somebody else's. -/
def hostSession : Session := ⟨.list ["host", "m.py"], .list ["lib"], some (some "host"), .none⟩

theorem compilePath_emptyScript :
    compilePath emptyScript .default "m.py" = .ok ⟨⟨[]⟩, [], ""⟩ := by
  have hload : loadSource emptyScript "m.py" = .ok "" := by
    have hpath : Path.ofString "m.py" = ⟨false, ["m.py"]⟩ := by
      rw [Path.ofString_eq]
      with_unfolding_all decide
    rw [loadSource, hpath]
    with_unfolding_all decide
  have hscan : scan "" = [⟨.finish, ⟨1, 0⟩, ⟨1, 0⟩, some 0, 0, none⟩] := by decide
  simp only [compilePath, hload, bind, Except.bind]
  exact compileSource_of_finish (by decide) hscan rfl .default "m.py"

/-- Whatever else the body of a script does, it leaves a list of directories here. -/
theorem runPathBy_restores_meddling :
    let meddle (e : Expanded) (inner : Session) : Nat × Session :=
      (e.module.body.length, ⟨.absent, .list ["x"], none, (inner.finders.install .default).1⟩)
    ∃ after, runPathBy meddle emptyScript hostSession .default "m.py" ["a"] =
        (.ok (.ran 0 none), after) ∧
      hostSession.Restored after ∧ after.finders.isInstalled = false := by
  intro meddle
  obtain ⟨ended, after, hrun, hhook, -, hlist⟩ :=
    (runPathBy_restores meddle hostSession ["a"]).2 _ compilePath_emptyScript
  obtain ⟨hended, hrestored⟩ := (hlist (by decide) ⟨_, rfl⟩).1 ⟨_, rfl⟩
  exact ⟨after, hended ▸ hrun, hrestored (by decide), hhook (by decide)⟩

/-- A body that puts a tuple in place of the directories leaves its own arguments and its own main
module. -/
theorem runPathBy_tuple :
    let tupled (_ : Expanded) (inner : Session) : Unit × Session :=
      ((), { inner with searchPath := .fixed "tuple" (some inner.searchPath.texts) })
    let after : Session := ⟨.list ["m.py"], .fixed "tuple" (some [".", "lib"]),
      some (some "m.py"), ⟨[], none, 1⟩⟩
    runPathBy tupled emptyScript hostSession .default "m.py" [] =
        (.ok (.ran () (some (.typeError "'tuple' object does not support item assignment"))),
          after) ∧
      ¬hostSession.Restored after := by
  intro tupled after
  have hdirectory : scriptDirectory emptyScript "m.py" = "." := by
    rw [scriptDirectory, Path.ofString_eq]
    with_unfolding_all decide
  refine ⟨?_, fun h => absurd h.arguments (by decide)⟩
  rw [runPathBy_of_ok compilePath_emptyScript, hdirectory]
  rfl

end

end Script

end JumpMacros
