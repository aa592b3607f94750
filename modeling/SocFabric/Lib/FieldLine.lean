import SocFabric.Lib.Joined
import SocFabric.Lib.Regex

/-!
# Lines of named fields

A line is a head and fields `name=value`, each behind a blank. A search for `name=` and a run behind
it reads back the value of a field, if the head is free of the key, no earlier name ends in this one
and the run takes the characters of the value and no blank: a key has no blank and one `=`, so it
occurs neither across fields nor in a value.
-/

namespace FieldLine
open Regex

structure Field where
  name : List Char
  value : List Char
  noBlank : ' ' ∉ name
  noEqName : '=' ∉ name
  noEqValue : '=' ∉ value

def Field.text (f : Field) : List Char := f.name ++ '=' :: f.value

def Field.key (f : Field) : String := .ofList (f.name ++ ['='])

def text (head : List Char) (fs : List Field) : List Char := head ++ fs.flatMap (' ' :: ·.text)

variable {head : List Char} {f g : Field} {fs after : List Field} {cls : Char → Bool}

@[simp] theorem Field.key_toList : f.key.toList = f.name ++ ['='] := String.toList_ofList

theorem text_cons : text head (f :: fs) = text (head ++ ' ' :: f.text) fs := by
  simp [text]

theorem Field.blank_not_mem_key : ' ' ∉ f.key.toList := by
  simp [f.noBlank]

/-- A key occurs in a field only at its name. -/
theorem Field.suffix_of_key (h : f.key.toList <:+: g.text) : f.name <:+ g.name :=
  Joined.suffix_left (f.key_toList ▸ h) g.noEqName g.noEqValue

/-- A key occurs in a line only within the head or within one field. -/
theorem key_absent (hhead : ¬f.key.toList <:+: head) (hfs : ∀ g ∈ fs, ¬f.name <:+ g.name) :
    ¬f.key.toList <:+: text head fs := by
  induction fs generalizing head with
  | nil => simpa [text] using hhead
  | cons g fs ih =>
    rw [text_cons]
    refine ih (fun h => ?_) fun g' hg' => hfs g' (List.mem_cons_of_mem g hg')
    rcases Joined.infix_left_or_right h Field.blank_not_mem_key with h | h
    · exact hhead h
    · exact hfs g List.mem_cons_self (Field.suffix_of_key h)

/-- The run behind the key stops at the next field. -/
theorem takeWhile_value (hcls : ∀ c ∈ f.value, cls c) (hblank : cls ' ' = false) :
    (f.value ++ after.flatMap (' ' :: ·.text)).takeWhile cls = f.value := by
  rw [List.takeWhile_append_of_pos hcls]
  cases after with
  | nil => simp
  | cons g after => simp [hblank]

/-- A field is read back from the line. -/
theorem find1_key {s : String} (hs : s.toList = text head fs) (hf : f ∈ fs)
    (hnames : fs.Pairwise fun g f => ¬f.name <:+ g.name) (hhead : ¬f.key.toList <:+: head)
    (hvalue : f.value ≠ []) (hcls : ∀ c ∈ f.value, cls c) (hblank : cls ' ' = false) :
    find1 (lit f.key ++ group [.many cls]) s = some (.ofList f.value) := by
  obtain ⟨before, after, rfl⟩ := List.append_of_mem hf
  have hbefore : ∀ g ∈ before, ¬f.name <:+ g.name :=
    fun g hg => (List.pairwise_append.mp hnames).2.2 g hg f List.mem_cons_self
  have hline : s.toList = text head before ++ ' ' ::
      (f.key.toList ++ (f.value ++ after.flatMap (' ' :: ·.text))) := by
    simp [hs, text, Field.text]
  have hmatch : matchAt (lit f.key ++ group [.many cls]) none
      (f.key.toList ++ (f.value ++ after.flatMap (' ' :: ·.text))) = some [.ofList f.value] := by
    rw [matchAt_lit, Text.afterPrefix_append, Option.bind_some]
    exact matchAt_group_many (takeWhile_value hcls hblank) hvalue
  rw [find1, find, hline,
    findIn_lit_append Field.blank_not_mem_key (key_absent hhead hbefore), findIn_of_matchAt hmatch]
  rfl

end FieldLine
