import Mathlib.Data.List.Basic

/-!
# Loops that may raise

`forEach` is a loop over a list whose rounds first read their element, which may raise (`none`), and
then add what they read to an accumulator. Whether such a loop raises depends on the elements alone,
and what it adds up are the elements read, in their order. `mapM` is the loop that lists what it has
read.
-/

namespace RaisingLoop

variable {F E A : Type*} {read : F → Option E} {add : A → E → A} {fs : List F} {init : A}

def forEach (read : F → Option E) (add : A → E → A) (fs : List F) (init : A) : Option A :=
  fs.foldlM (fun a f => (read f).map (add a)) init

theorem forEach_eq_none_iff : forEach read add fs init = none ↔ ∃ f ∈ fs, read f = none := by
  induction fs generalizing init with
  | nil => simp [forEach]
  | cons f fs ih =>
    unfold forEach at ih ⊢
    rw [List.foldlM_cons]
    cases hf : read f with
    | none => simp [hf]
    | some e => simp [hf, ih]

theorem forEach_eq_some (h : ∀ f ∈ fs, read f ≠ none) :
    forEach read add fs init = some ((fs.filterMap read).foldl add init) := by
  induction fs generalizing init with
  | nil => rfl
  | cons f fs ih =>
    obtain ⟨e, he⟩ := Option.ne_none_iff_exists'.mp (h f List.mem_cons_self)
    have htail : ∀ f' ∈ fs, read f' ≠ none := fun f' hf' => h f' (List.mem_cons_of_mem f hf')
    unfold forEach at ih ⊢
    rw [List.foldlM_cons, he, List.filterMap_cons, he]
    exact ih htail

/-- A loop that returns has read every element. -/
theorem forEach_eq_some_iff {a : A} :
    forEach read add fs init = some a ↔ (∀ f ∈ fs, read f ≠ none) ∧
      a = (fs.filterMap read).foldl add init := by
  constructor
  · intro h
    have hread : ∀ f ∈ fs, read f ≠ none := by
      intro f hf hnone
      rw [forEach_eq_none_iff.mpr ⟨f, hf, hnone⟩] at h
      cases h
    rw [forEach_eq_some hread] at h
    exact ⟨hread, (Option.some.inj h).symm⟩
  · rintro ⟨hread, rfl⟩
    exact forEach_eq_some hread

/-! ### Elements read one by one -/

section
variable {α β : Type*} {f : α → Option β} {l : List α}

theorem isSome_mapM_iff : (l.mapM f).isSome = true ↔ ∀ a ∈ l, (f a).isSome = true := by
  induction l with
  | nil => simp
  | cons a l ih =>
    rw [List.forall_mem_cons, ← ih, List.mapM_cons]
    cases f a <;> cases l.mapM f <;> simp

theorem length_of_mapM {l' : List β} (h : l.mapM f = some l') : l'.length = l.length := by
  induction l generalizing l' with
  | nil =>
    cases h
    rfl
  | cons a l ih =>
    rw [List.mapM_cons] at h
    obtain ⟨b, -, h⟩ := Option.bind_eq_some_iff.mp h
    obtain ⟨bs, hbs, h⟩ := Option.bind_eq_some_iff.mp h
    cases h
    rw [List.length_cons, List.length_cons, ih hbs]

theorem getElem?_of_mapM {l' : List β} (h : l.mapM f = some l') (i : Nat) : l'[i]? = (l[i]?).bind f := by
  induction l generalizing l' i with
  | nil =>
    cases h
    rfl
  | cons a l ih =>
    simp only [List.mapM_cons, Option.bind_eq_bind, Option.pure_def, Option.bind_eq_some_iff,
      Option.some.injEq] at h
    obtain ⟨b, hb, bs, hbs, rfl⟩ := h
    cases i with
    | zero => simp [hb]
    | succ i => simp [ih hbs i]

theorem exists_of_mem_of_mapM {l' : List β} (h : l.mapM f = some l') {b : β} (hb : b ∈ l') :
    ∃ a ∈ l, f a = some b := by
  obtain ⟨i, hi⟩ := List.mem_iff_getElem?.mp hb
  rw [getElem?_of_mapM h i] at hi
  obtain ⟨a, ha, hfa⟩ := Option.bind_eq_some_iff.mp hi
  exact ⟨a, List.mem_of_getElem? ha, hfa⟩

/-- A field that the round copies from its element. -/
theorem map_of_mapM {γ : Type*} {g : α → γ} {g' : β → γ} {l' : List β} (h : l.mapM f = some l')
    (hg : ∀ a b, f a = some b → g' b = g a) : l'.map g' = l.map g := by
  refine List.ext_getElem? fun i => ?_
  rw [List.getElem?_map, List.getElem?_map, getElem?_of_mapM h i]
  cases ha : l[i]? with
  | none => rfl
  | some a =>
    have hlt : i < l'.length := by
      rw [length_of_mapM h]
      exact (List.getElem?_eq_some_iff.mp ha).1
    have hb : l'[i]? = f a := by rw [getElem?_of_mapM h i, ha, Option.bind_some]
    rw [List.getElem?_eq_getElem hlt] at hb
    rw [Option.bind_some, ← hb, Option.map_some, Option.map_some, hg a _ hb.symm]

theorem count_mapM {f : α → Option Bool} {xs : List α} {answers : List Bool}
    (h : xs.mapM f = some answers) : answers.count true = xs.countP fun x => f x = some true := by
  induction xs generalizing answers with
  | nil =>
    cases h
    rfl
  | cons x xs ih =>
    rw [List.mapM_cons] at h
    obtain ⟨b, hb, h⟩ := Option.bind_eq_some_iff.mp h
    obtain ⟨bs, hbs, h⟩ := Option.bind_eq_some_iff.mp h
    cases h
    rw [List.count_cons, List.countP_cons, ih hbs, hb]
    cases b <;> rfl

end

end RaisingLoop
