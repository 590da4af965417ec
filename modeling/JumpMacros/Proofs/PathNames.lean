import JumpMacros.Files.Path
import Mathlib.Data.String.Basic

/-!
# The names of a path

**Theorem (`Path.ofString_eq`).** The names of a path are what stands between its slashes, as
characters in a list.
-/

namespace JumpMacros.Path

open String (utf8Len ofList)

/-- Splitting at a character, when the text `l` is done and the word `m` has been started. -/
theorem splitOnAux_char (sep : Char) (l m r : List Char) (acc : List String) :
    (ofList (l ++ m ++ r)).splitOnAux (ofList [sep]) ⟨utf8Len l⟩ ⟨utf8Len l + utf8Len m⟩ 0 acc =
      acc.reverse ++ (List.splitOnPPrepend (· == sep) r m.reverse).map ofList := by
  induction r generalizing l m acc with
  | nil =>
    have hend : String.Pos.Raw.atEnd (ofList (l ++ m ++ [])) ⟨utf8Len l + utf8Len m⟩ = true := by
      simpa using String.atEnd_of_valid (l ++ m) []
    have hword := String.extract_of_valid l m []
    rw [String.splitOnAux, if_pos hend]
    simp only [hword]
    simp
  | cons c r ih =>
    have hend :
        ¬String.Pos.Raw.atEnd (ofList (l ++ m ++ c :: r)) ⟨utf8Len l + utf8Len m⟩ = true := by
      simpa using String.atEnd_of_valid (l ++ m) (c :: r)
    have hget : String.Pos.Raw.get (ofList (l ++ m ++ c :: r)) ⟨utf8Len l + utf8Len m⟩ = c := by
      simpa using String.get_of_valid (l ++ m) (c :: r)
    have hnext : String.Pos.Raw.next (ofList (l ++ m ++ c :: r)) ⟨utf8Len l + utf8Len m⟩ =
        ⟨utf8Len l + utf8Len m + c.utf8Size⟩ := by
      simpa using String.next_of_valid (l ++ m) c r
    have hword := String.extract_of_valid l m (c :: r)
    have hsep : String.Pos.Raw.get (ofList [sep]) 0 = sep := by
      simpa using String.get_of_valid [] [sep]
    have hsepNext : String.Pos.Raw.next (ofList [sep]) 0 = ⟨sep.utf8Size⟩ := by
      simpa using String.next_of_valid [] sep []
    have hsepEnd : String.Pos.Raw.atEnd (ofList [sep]) ⟨sep.utf8Size⟩ = true := by
      simpa using String.atEnd_of_valid [sep] []
    rw [String.splitOnAux, if_neg hend, hget, hsep]
    dsimp only
    by_cases hc : c = sep
    · have hback : String.Pos.Raw.unoffsetBy ⟨utf8Len l + utf8Len m + c.utf8Size⟩ ⟨sep.utf8Size⟩ =
          ⟨utf8Len l + utf8Len m⟩ := by
        simp [hc, String.Pos.Raw.unoffsetBy]
      rw [if_pos (by simp [hc]), hnext, hsepNext, if_pos hsepEnd, hback, hword]
      simpa [Nat.add_assoc, List.splitOnPPrepend_cons_eq_if, hc] using
        ih (l ++ m ++ [c]) [] (ofList m :: acc)
    · have hstay : String.Pos.Raw.unoffsetBy ⟨utf8Len l + utf8Len m⟩ 0 =
          ⟨utf8Len l + utf8Len m⟩ := rfl
      rw [if_neg (by simpa using hc), hstay, hnext]
      simpa [Nat.add_assoc, List.splitOnPPrepend_cons_eq_if, hc] using ih l (m ++ [c]) acc

/-- Splitting at a character gives what stands between its occurrences. -/
theorem splitOn_char (sep : Char) (s : String) :
    s.splitOn (ofList [sep]) = (s.toList.splitOn sep).map ofList := by
  have h := splitOnAux_char sep [] [] s.toList []
  simpa [String.splitOn, List.splitOn_eq_splitOnP] using h

theorem ofString_eq (s : String) : ofString s = ⟨s.startsWith "/",
    ((s.toList.splitOn '/').map ofList).filter fun n => n != "" && n != "."⟩ := by
  have hsplit : s.splitOn "/" = (s.toList.splitOn '/').map ofList := splitOn_char '/' s
  rw [ofString, hsplit]

end JumpMacros.Path
