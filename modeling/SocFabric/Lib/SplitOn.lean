import Mathlib.Data.List.Basic
import Mathlib.Data.String.Basic

/-!
# Texts split at a character

`String.splitOn` walks over byte positions; at a separator of one character it is `List.splitOn` on
the characters. Put back behind each part, the separator gives the text with one separator at its
end.
-/

namespace SplitOn
open String

/-- `splitOnAux` between valid positions, with the part read so far in `m`. -/
theorem splitOnAux_of_valid (c : Char) (l m r : List Char) (acc : List String) :
    splitOnAux (ofList (l ++ m ++ r)) (ofList [c]) ⟨utf8Len l⟩ ⟨utf8Len l + utf8Len m⟩ 0 acc =
      acc.reverse ++ (List.splitOnPPrepend (· == c) r m.reverse).map ofList := by
  unfold splitOnAux
  simp only [List.append_assoc, atEnd_iff, rawEndPos_ofList, utf8Len_append, Pos.Raw.mk_le_mk,
    Nat.add_le_add_iff_left, (by omega : utf8Len m + utf8Len r ≤ utf8Len m ↔ utf8Len r = 0), utf8Len_eq_zero]
  split
  · subst r
    simpa using extract_of_valid l m []
  · obtain ⟨d, r, rfl⟩ := r.exists_cons_of_ne_nil ‹_›
    have hget : Pos.Raw.get (ofList (l ++ (m ++ d :: r))) ⟨utf8Len l + utf8Len m⟩ = d := by
      simpa [-ofList_append] using get_of_valid (l ++ m) (d :: r)
    have hnext : Pos.Raw.next (ofList (l ++ (m ++ d :: r))) ⟨utf8Len l + utf8Len m⟩ =
        ⟨utf8Len l + utf8Len m + d.utf8Size⟩ := by
      simpa [-ofList_append] using next_of_valid (l ++ m) d r
    have hextract : Pos.Raw.extract (ofList (l ++ (m ++ d :: r))) ⟨utf8Len l⟩ ⟨utf8Len l + utf8Len m⟩ = ofList m := by
      simpa [-ofList_append] using extract_of_valid l m (d :: r)
    have hsep : Pos.Raw.get (ofList [c]) 0 = c := get_of_valid [] [c]
    have hsepNext : Pos.Raw.next (ofList [c]) 0 = ⟨c.utf8Size⟩ := by
      simpa [-ofList_cons] using next_of_valid [] c []
    rw [hget, hsep, hnext, hsepNext]
    by_cases h : d = c
    · subst h
      have hback : Pos.Raw.unoffsetBy ⟨utf8Len l + utf8Len m + d.utf8Size⟩ ⟨d.utf8Size⟩ = ⟨utf8Len l + utf8Len m⟩ := by
        simp [Pos.Raw.unoffsetBy]
      have ih := splitOnAux_of_valid d (l ++ m ++ [d]) [] r (ofList m :: acc)
      simp only [utf8Len_append, utf8Len_cons, utf8Len_nil, Nat.zero_add, Nat.add_zero, List.append_assoc,
        List.singleton_append, List.append_nil] at ih
      simp only [beq_self_eq_true, if_true, hback, hextract, utf8Len_cons, utf8Len_nil, Nat.zero_add]
      simp [List.splitOnPPrepend_cons_eq_if, ih, Nat.add_assoc, -ofList_append, -ofList_cons]
    · have hback : Pos.Raw.unoffsetBy ⟨utf8Len l + utf8Len m⟩ 0 = ⟨utf8Len l + utf8Len m⟩ := by
        simp [Pos.Raw.unoffsetBy]
      rw [if_neg (by simpa using h), hback, hnext]
      have ih := splitOnAux_of_valid c l (m ++ [d]) r acc
      simpa [Nat.add_assoc, List.splitOnPPrepend_cons_eq_if, h, -ofList_cons] using ih
termination_by r.length

theorem splitOn_char (s : String) (c : Char) : s.splitOn (ofList [c]) = (s.toList.splitOn c).map ofList := by
  have h := splitOnAux_of_valid c [] [] s.toList []
  have hne : (ofList [c] == "") = false := by
    refine beq_eq_false_iff_ne.mpr fun h => ?_
    rw [ofList_eq_empty_iff] at h
    cases h
  rw [splitOn, hne]
  simpa [List.splitOn_eq_splitOnP, -ofList_cons] using h

theorem flatten_splitOn {α : Type*} [BEq α] [LawfulBEq α] (c : α) (l : List α) :
    ((l.splitOn c).map (· ++ [c])).flatten = l ++ [c] := by
  induction l with
  | nil => simp
  | cons a l ih =>
    obtain ⟨x, rest, hrest⟩ := List.exists_cons_of_ne_nil (List.splitOn_ne_nil c l)
    rw [hrest] at ih
    rw [List.splitOn_cons_eq_if_modifyHead, hrest]
    split
    · rename_i h
      simp_all
    · simp_all

theorem join_splitOn_char (s : String) (c : Char) :
    String.join ((s.splitOn (ofList [c])).map (· ++ ofList [c])) = s ++ ofList [c] := by
  have hparts : (s.splitOn (ofList [c])).map (· ++ ofList [c]) = ((s.toList.splitOn c).map (· ++ [c])).map ofList := by
    simp [splitOn_char, -ofList_cons]
  rw [hparts, ← toList_inj, toList_join, List.flatMap_map]
  simpa [List.flatMap_id', -ofList_cons] using flatten_splitOn c s.toList

theorem splitOn_char_ne_nil (s : String) (c : Char) : s.splitOn (ofList [c]) ≠ [] := by
  rw [splitOn_char, Ne, List.map_eq_nil_iff]
  exact List.splitOn_ne_nil c s.toList

end SplitOn
