import Mathlib.Data.Fintype.Basic
import Mathlib.Data.List.Basic
import Mathlib.Data.Nat.Digits.Defs

/-!
# UUIDs

The 128 bits are kept as 32 hexadecimal digits. `Uuid.text` is the canonical text, in groups of 8, 4,
4, 4 and 12 digits.
-/

structure Uuid where
  digits : List (Fin 16)
  length : digits.length = 32
deriving DecidableEq, Repr

namespace Uuid

/-- The same digit throughout. -/
def repeated (n : Nat) : Uuid := ⟨List.replicate 32 (Fin.ofNat 16 n), List.length_replicate⟩

/-- In lower case. -/
def hexChar (d : Fin 16) : Char := Nat.digitChar d

def hex (u : Uuid) : List Char := u.digits.map hexChar

/-- Groups of these lengths, each with a dash behind it, and the rest. -/
def dashed : List Nat → List Char → List Char
  | [], cs => cs
  | n :: ns, cs => cs.take n ++ '-' :: dashed ns (cs.drop n)

/-- `str(uuid)`, and the text that the database writes. -/
def text (u : Uuid) : String := .ofList (dashed [8, 4, 4, 4] u.hex)

variable {u v : Uuid} {ns : List Nat} {cs : List Char}

theorem hexChar_inj {d e : Fin 16} : hexChar d = hexChar e ↔ d = e := by
  revert d e
  decide

theorem hexChar_ne_dash (d : Fin 16) : hexChar d ≠ '-' := by
  revert d
  decide

theorem dash_notMem_hex : '-' ∉ u.hex := by
  intro h
  obtain ⟨d, -, hd⟩ := List.mem_map.mp h
  exact hexChar_ne_dash d hd

theorem length_dashed : (dashed ns cs).length = cs.length + ns.length := by
  induction ns generalizing cs with
  | nil => rfl
  | cons n ns ih =>
    rw [dashed, List.length_append, List.length_cons, ih, List.length_take, List.length_drop,
      List.length_cons]
    omega

theorem filter_dashed (h : '-' ∉ cs) : (dashed ns cs).filter (· ≠ '-') = cs := by
  induction ns generalizing cs with
  | nil => exact List.filter_eq_self.mpr fun c hc => decide_eq_true (ne_of_mem_of_not_mem hc h)
  | cons n ns ih =>
    have htake : (cs.take n).filter (· ≠ '-') = cs.take n := List.filter_eq_self.mpr fun c hc =>
      decide_eq_true (ne_of_mem_of_not_mem (List.mem_of_mem_take hc) h)
    rw [dashed, List.filter_append, htake, List.filter_cons_of_neg (by simp),
      ih fun hc => h (List.mem_of_mem_drop hc), List.take_append_drop]

theorem length_text (u : Uuid) : u.text.length = 36 := by
  rw [text, String.length_ofList, length_dashed, hex, List.length_map, u.length]
  rfl

theorem text_ne_empty (u : Uuid) : u.text ≠ "" := fun h => by
  have hlength := length_text u
  rw [h] at hlength
  cases hlength

theorem text_inj : u.text = v.text ↔ u = v := by
  refine ⟨fun h => ?_, congrArg text⟩
  have hhex : u.hex = v.hex := by
    rw [← filter_dashed dash_notMem_hex, String.ofList_injective h, filter_dashed dash_notMem_hex]
  have hdigits : u.digits = v.digits := List.map_injective_iff.mpr (fun _ _ => hexChar_inj.mp) hhex
  cases u
  cases v
  cases hdigits
  rfl

end Uuid
