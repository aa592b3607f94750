import Mathlib.Data.Int.Notation
import Mathlib.Data.Nat.Init
import Mathlib.Data.String.Basic

/-!
# Decimal texts

The text of a natural number has digits only, that of an integer also a sign, and either determines
the number.
-/

namespace Decimal

theorem isDigit_of_mem_repr {n : Nat} {c : Char} (h : c ∈ n.repr.toList) : c.isDigit = true :=
  Nat.isDigit_of_mem_toDigits (by decide) (by decide) (Nat.toList_repr ▸ h)

theorem notMem_repr (n : Nat) {c : Char} (hc : c.isDigit = false) : c ∉ n.repr.toList := fun h =>
  Bool.false_ne_true (hc.symm.trans (isDigit_of_mem_repr h))

theorem notMem_int (n : Int) {c : Char} (hc : c.isDigit = false) (hsign : c ≠ '-') :
    c ∉ (toString n).toList := by
  cases n with
  | ofNat m => exact notMem_repr m hc
  | negSucc m =>
    show c ∉ ("-" ++ (m + 1).repr).toList
    rw [String.toList_append]
    exact List.mem_cons.not.mpr (not_or.mpr ⟨hsign, notMem_repr (m + 1) hc⟩)

theorem repr_inj {m n : Nat} : m.repr = n.repr ↔ m = n := by
  refine ⟨fun h => ?_, congrArg Nat.repr⟩
  simpa using congrArg (fun s => Nat.ofDigitChars 10 s.toList 0) h

theorem toString_int_inj {m n : Int} : toString m = toString n ↔ m = n := by
  refine ⟨fun h => ?_, congrArg toString⟩
  have hsign : ∀ k l : Nat, k.repr ≠ "-" ++ (l + 1).repr := by
    intro k l hkl
    have hmem : '-' ∈ k.repr.toList := by
      rw [hkl, String.toList_append]
      exact List.mem_cons_self
    exact notMem_repr k (by decide) hmem
  cases m with
  | ofNat k =>
    cases n with
    | ofNat l => exact congrArg Int.ofNat (repr_inj.mp h)
    | negSucc l => exact absurd h (hsign k l)
  | negSucc k =>
    cases n with
    | ofNat l => exact absurd h.symm (hsign l k)
    | negSucc l =>
      have hrepr := (String.append_right_inj "-").mp h
      exact congrArg Int.negSucc (Nat.succ_injective (repr_inj.mp hrepr))

end Decimal
