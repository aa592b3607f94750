import Mathlib.Data.List.Nodup
import Mathlib.Data.List.Perm.Basic
import Mathlib.Data.Option.Basic
import Mathlib.Data.Set.Function

/-!
# Loops over a keyed store

A loop whose rounds each read and rewrite one cell of a store `K → V`, and which may stop halfway
(`none`) with the cells written so far. Such a loop touches only the cells of its own keys
(`loop_of_not_mem`), and its answer and the cells of any set that contains these keys are determined
by the cells of that set (`loop_eqOn`); with distinct keys it stops exactly if a round would in the
store it started from (`loop_eq_none_iff`). `put` is an insertion-ordered dictionary, `groupLoop` a loop
over the groups of a list of items, which inherits both facts. Where the groups are commutative sums
of their items (`Summarizes`), the order of the items does not matter to them (`foldlM_perm`), nor
to a loop that only looks at these sums (`groupLoop_perm`). `map_update_column` is about tables,
lists of rows.
-/

namespace KeyedStore

variable {K V X A : Type*} [DecidableEq K]

/-! ### Dictionaries -/

def put (k : K) (v : V) : List (K × V) → List (K × V)
  | [] => [(k, v)]
  | (k', v') :: xs => if k' = k then (k', v) :: xs else (k', v') :: put k v xs

theorem mem_keys_put {k k' : K} {v : V} {xs : List (K × V)} (h : k' ∈ (put k v xs).map Prod.fst) :
    k' = k ∨ k' ∈ xs.map Prod.fst := by
  induction xs with
  | nil => exact .inl (List.mem_singleton.mp h)
  | cons x xs ih =>
    obtain ⟨k₀, v₀⟩ := x
    unfold put at h
    split at h
    · exact .inr h
    · rcases List.mem_cons.mp h with h | h
      · exact .inr (List.mem_cons.mpr (.inl h))
      · exact (ih h).imp id (List.mem_cons_of_mem _)

theorem mem_put {k : K} {v : V} {xs : List (K × V)} {x : K × V} (h : x ∈ put k v xs) :
    x = (k, v) ∨ x ∈ xs := by
  induction xs with
  | nil => exact .inl (List.mem_singleton.mp h)
  | cons y xs ih =>
    rw [put] at h
    split_ifs at h with hkey
    · rw [hkey] at h
      exact (List.mem_cons.mp h).imp id (List.mem_cons_of_mem y)
    · rcases List.mem_cons.mp h with rfl | h
      · exact .inr List.mem_cons_self
      · exact (ih h).imp id (List.mem_cons_of_mem y)

theorem keys_put (k : K) (v : V) (xs : List (K × V)) :
    (put k v xs).map Prod.fst = if k ∈ xs.map Prod.fst then xs.map Prod.fst else xs.map Prod.fst ++ [k] := by
  induction xs with
  | nil => rfl
  | cons x xs ih =>
    obtain ⟨k', v'⟩ := x
    rw [put]
    by_cases hkey : k' = k
    · simp [hkey]
    · rw [if_neg hkey, List.map_cons, ih]
      by_cases hmem : k ∈ xs.map Prod.fst
      · simp only [List.map_cons, List.mem_cons, hmem, or_true, if_true]
      · simp only [List.map_cons, List.mem_cons, hmem, or_false, Ne.symm hkey, if_false, List.cons_append]

theorem put_ne_nil (k : K) (v : V) (xs : List (K × V)) : put k v xs ≠ [] := by
  unfold put
  split
  · exact List.cons_ne_nil _ _
  · split <;> exact List.cons_ne_nil _ _

theorem nodup_keys_put {k : K} {v : V} {xs : List (K × V)} (h : (xs.map Prod.fst).Nodup) :
    ((put k v xs).map Prod.fst).Nodup := by
  induction xs with
  | nil => simp [put]
  | cons x xs ih =>
    obtain ⟨k₀, v₀⟩ := x
    obtain ⟨hx, hxs⟩ := List.nodup_cons.mp h
    unfold put
    split
    · exact h
    · rename_i hne
      refine List.nodup_cons.mpr ⟨fun hmem => ?_, ih hxs⟩
      exact (mem_keys_put hmem).elim hne hx

theorem lookup_cons (k k₀ : K) (v₀ : V) (xs : List (K × V)) :
    ((k₀, v₀) :: xs).lookup k = if k = k₀ then some v₀ else xs.lookup k := by
  rw [List.lookup_cons]
  by_cases h : k = k₀
  · rw [if_pos h, beq_iff_eq.mpr h]
  · rw [if_neg h, beq_eq_false_iff_ne.mpr h]

theorem lookup_put (k k' : K) (v : V) (xs : List (K × V)) :
    (put k v xs).lookup k' = if k' = k then some v else xs.lookup k' := by
  induction xs with
  | nil => exact lookup_cons ..
  | cons x xs ih =>
    obtain ⟨k₀, v₀⟩ := x
    unfold put
    split
    · rename_i h₀
      rw [lookup_cons, lookup_cons, h₀]
      split <;> rfl
    · rename_i h₀
      rw [lookup_cons, lookup_cons, ih]
      split
      · rename_i h
        rw [if_neg (h ▸ h₀)]
      · rfl

theorem mem_of_lookup {k : K} {v : V} {xs : List (K × V)} (h : xs.lookup k = some v) : (k, v) ∈ xs := by
  induction xs with
  | nil => cases h
  | cons x xs ih =>
    obtain ⟨k₀, v₀⟩ := x
    rw [lookup_cons] at h
    split_ifs at h with hk
    · cases h
      exact hk ▸ List.mem_cons_self
    · exact List.mem_cons_of_mem _ (ih h)

theorem mem_iff_lookup {k : K} {v : V} {xs : List (K × V)} (h : (xs.map Prod.fst).Nodup) :
    (k, v) ∈ xs ↔ xs.lookup k = some v := by
  induction xs with
  | nil => simp
  | cons x xs ih =>
    obtain ⟨k₀, v₀⟩ := x
    obtain ⟨hx, hxs⟩ := List.nodup_cons.mp h
    rw [lookup_cons, List.mem_cons, Prod.mk.injEq]
    split
    · rename_i hk
      have hnot : (k₀, v) ∉ xs := fun hmem => hx (List.mem_map.mpr ⟨_, hmem, rfl⟩)
      simp [hk, hnot, eq_comm]
    · rename_i hk
      simp [hk, ih hxs]

/-! ### Loops -/

def loop (key : X → K) (step : X → V → A → V × Option A) : List X → (K → V) → A → (K → V) × Option A
  | [], s, acc => (s, some acc)
  | x :: xs, s, acc =>
    match step x (s (key x)) acc with
    | (v, none) => (Function.update s (key x) v, none)
    | (v, some acc) => loop key step xs (Function.update s (key x) v) acc

variable {key : X → K} {step : X → V → A → V × Option A} {xs : List X} {s t : K → V} {acc : A}

theorem loop_of_not_mem {k : K} (h : k ∉ xs.map key) : (loop key step xs s acc).1 k = s k := by
  induction xs generalizing s acc with
  | nil => rfl
  | cons x xs ih =>
    rw [List.map_cons, List.mem_cons, not_or] at h
    unfold loop
    split
    · exact Function.update_of_ne h.1 _ _
    · rw [ih h.2]
      exact Function.update_of_ne h.1 _ _

theorem eqOn_update {H : Set K} {k : K} {v : V} (h : Set.EqOn s t H) :
    Set.EqOn (Function.update s k v) (Function.update t k v) H := by
  intro k' hk'
  by_cases hk : k' = k
  · rw [hk, Function.update_self, Function.update_self]
  · rw [Function.update_of_ne hk, Function.update_of_ne hk, h hk']

theorem loop_eqOn {H : Set K} (h : Set.EqOn s t H) (hx : ∀ x ∈ xs, key x ∈ H) :
    (loop key step xs s acc).2 = (loop key step xs t acc).2 ∧
      Set.EqOn (loop key step xs s acc).1 (loop key step xs t acc).1 H := by
  induction xs generalizing s t acc with
  | nil => exact ⟨rfl, h⟩
  | cons x xs ih =>
    have hcell : s (key x) = t (key x) := h (hx x (List.mem_cons_self ..))
    rw [loop, loop, hcell]
    split
    · exact ⟨rfl, eqOn_update h⟩
    · exact ih (eqOn_update h) fun y hy => hx y (List.mem_cons_of_mem _ hy)

/-- What every round keeps holds of the answer. -/
theorem loop_invariant {P : A → Prop} (hstep : ∀ {x v a v' a'}, step x v a = (v', some a') → P a → P a')
    {acc' : A} (h : (loop key step xs s acc).2 = some acc') (hacc : P acc) : P acc' := by
  induction xs generalizing s acc with
  | nil =>
    cases h
    exact hacc
  | cons x xs ih =>
    unfold loop at h
    split at h
    · cases h
    · rename_i heq
      exact ih h (hstep heq hacc)

/-- If a round that finds a good cell never stops and leaves a good one, a loop over a good store is
like that too. -/
theorem loop_total {Good : V → Prop}
    (hstep : ∀ x v a, Good v → Good (step x v a).1 ∧ (step x v a).2.isSome) (hs : ∀ k, Good (s k)) :
    (∀ k, Good ((loop key step xs s acc).1 k)) ∧ (loop key step xs s acc).2.isSome := by
  induction xs generalizing s acc with
  | nil => exact ⟨hs, rfl⟩
  | cons x xs ih =>
    have hx := hstep x (s (key x)) acc (hs (key x))
    unfold loop
    rcases heq : step x (s (key x)) acc with ⟨v, _ | a⟩
    · rw [heq] at hx
      cases hx.2
    · refine ih fun k => ?_
      rw [heq] at hx
      by_cases hk : k = key x
      · rw [hk, Function.update_self]
        exact hx.1
      · rw [Function.update_of_ne hk]
        exact hs k

/-- With distinct keys every round reads a cell of the store the loop started from, so what the
rounds append to a log can be read off that store. -/
theorem loop_log {B : Type*} (log : A → List B) (out : X → V → List B)
    (hstep : ∀ {x v a v' a'}, step x v a = (v', some a') → log a' = log a ++ out x v)
    (hkeys : (xs.map key).Nodup) {acc' : A} (h : (loop key step xs s acc).2 = some acc') :
    log acc' = log acc ++ xs.flatMap fun x => out x (s (key x)) := by
  induction xs generalizing s acc with
  | nil =>
    cases h
    exact (List.append_nil _).symm
  | cons x xs ih =>
    obtain ⟨hx, hxs⟩ := List.nodup_cons.mp hkeys
    unfold loop at h
    split at h
    · cases h
    · rename_i v a heq
      have hcells : xs.map (fun y => out y (Function.update s (key x) v (key y))) =
          xs.map fun y => out y (s (key y)) := by
        refine List.map_congr_left fun y hy => ?_
        have hne : key y ≠ key x := fun he => hx (he ▸ List.mem_map_of_mem hy)
        rw [Function.update_of_ne hne]
      rw [ih hxs h, hstep heq, List.flatMap_cons, List.append_assoc, List.flatMap_def, hcells,
        ← List.flatMap_def]

/-- With distinct keys a finished loop leaves in each of its cells what the round of that cell makes
of the store the loop started from. -/
theorem loop_cell {next : X → V → V} (hstep : ∀ {x v a v' a'}, step x v a = (v', some a') → v' = next x v)
    (hkeys : (xs.map key).Nodup) (h : (loop key step xs s acc).2.isSome) {x : X} (hx : x ∈ xs) :
    (loop key step xs s acc).1 (key x) = next x (s (key x)) := by
  induction xs generalizing s acc with
  | nil => cases hx
  | cons y ys ih =>
    obtain ⟨hy, hys⟩ := List.nodup_cons.mp hkeys
    unfold loop at h ⊢
    rcases heq : step y (s (key y)) acc with ⟨v, _ | a⟩
    · rw [heq] at h
      cases h
    · simp only [heq] at h ⊢
      rcases List.mem_cons.mp hx with rfl | hx
      · rw [loop_of_not_mem hy, Function.update_self]
        exact hstep heq
      · have hne : key x ≠ key y := fun he => hy (he ▸ List.mem_map_of_mem hx)
        rw [ih hys h hx, Function.update_of_ne hne]

/-- With distinct keys, a loop whose rounds stop by what they find in their cells stops exactly if a
round would in the store that the loop started from. -/
theorem loop_eq_none_iff {Stops : X → V → Prop} (hstep : ∀ x v a, (step x v a).2 = none ↔ Stops x v)
    (hkeys : (xs.map key).Nodup) : (loop key step xs s acc).2 = none ↔ ∃ x ∈ xs, Stops x (s (key x)) := by
  induction xs generalizing s acc with
  | nil => simp [loop]
  | cons x xs ih =>
    obtain ⟨hx, hxs⟩ := List.nodup_cons.mp hkeys
    have hfirst := hstep x (s (key x)) acc
    rw [loop, List.exists_mem_cons_iff]
    rcases heq : step x (s (key x)) acc with ⟨v, _ | a⟩
    · rw [heq] at hfirst
      exact iff_of_true rfl (.inl (hfirst.mp rfl))
    · rw [heq] at hfirst
      have hgo : ¬ Stops x (s (key x)) := fun hstop => by cases hfirst.mpr hstop
      rw [or_iff_right hgo]
      refine (ih hxs).trans (exists_congr fun y => and_congr_right fun hy => ?_)
      have hne : key y ≠ key x := fun he => hx (he ▸ List.mem_map_of_mem hy)
      rw [Function.update_of_ne hne]

/-! ### Grouping -/

/-- Collect the items in a dictionary, then loop over its entries. -/
def groupLoop {G : Type*} (collect : List (K × G) → X → Option (List (K × G)))
    (step : K × G → V → A → V × Option A) (xs : List X) (s : K → V) (acc : A) : (K → V) × Option A :=
  match xs.foldlM collect [] with
  | none => (s, none)
  | some groups => loop Prod.fst step groups s acc

section
variable {G : Type*} {collect : List (K × G) → X → Option (List (K × G))}
  {step : K × G → V → A → V × Option A}

theorem groupLoop_of_some {groups : List (K × G)} (h : xs.foldlM collect [] = some groups) :
    groupLoop collect step xs s acc = loop Prod.fst step groups s acc := by
  rw [groupLoop, h]

theorem groupLoop_of_none (h : xs.foldlM collect [] = none) :
    groupLoop collect step xs s acc = (s, none) := by
  rw [groupLoop, h]

omit [DecidableEq K] in
/-- An item that can be collected nowhere stops the collection. -/
theorem foldlM_of_stop {d : List (K × G)} {x : X} (hx : x ∈ xs) (hstop : ∀ d, collect d x = none) :
    xs.foldlM collect d = none := by
  induction xs generalizing d with
  | nil => cases hx
  | cons y ys ih =>
    rw [List.foldlM_cons]
    rcases List.mem_cons.mp hx with rfl | hx
    · rw [hstop]
      rfl
    · cases collect d y with
      | none => rfl
      | some d' => exact ih hx

theorem groups_of_groupLoop {acc' : A} (h : (groupLoop collect step xs s acc).2 = some acc') :
    ∃ groups, xs.foldlM collect [] = some groups ∧ (loop Prod.fst step groups s acc).2 = some acc' := by
  cases hg : xs.foldlM collect [] with
  | none =>
    rw [groupLoop_of_none hg] at h
    cases h
  | some groups =>
    rw [groupLoop_of_some hg] at h
    exact ⟨groups, rfl, h⟩

theorem groupLoop_good {Good : V → Prop}
    (hstep : ∀ x v a, Good v → Good (step x v a).1 ∧ (step x v a).2.isSome) (hs : ∀ k, Good (s k)) (k : K) :
    Good ((groupLoop collect step xs s acc).1 k) := by
  cases hg : xs.foldlM collect [] with
  | none =>
    rw [groupLoop_of_none hg]
    exact hs k
  | some groups =>
    rw [groupLoop_of_some hg]
    exact (loop_total hstep hs).1 k

/-- An item goes into the group of its key. -/
def Collects (key : X → K) (collect : List (K × G) → X → Option (List (K × G))) : Prop :=
  ∀ d x d', collect d x = some d' → ∃ g, d' = put (key x) g d

theorem mem_keys_foldlM (hc : Collects key collect) {d d' : List (K × G)} (h : xs.foldlM collect d = some d')
    {k : K} (hk : k ∈ d'.map Prod.fst) : k ∈ d.map Prod.fst ∨ k ∈ xs.map key := by
  induction xs generalizing d with
  | nil =>
    cases h
    exact .inl hk
  | cons x xs ih =>
    rw [List.foldlM_cons] at h
    obtain ⟨d₁, hd₁, h⟩ := Option.bind_eq_some_iff.mp h
    obtain ⟨g, rfl⟩ := hc _ _ _ hd₁
    rcases ih h with hk | hk
    · exact (mem_keys_put hk).elim (fun he => .inr (List.mem_cons.mpr (.inl he))) .inl
    · exact .inr (List.mem_cons_of_mem _ hk)

theorem nodup_keys_foldlM (hc : Collects key collect) {d d' : List (K × G)}
    (h : xs.foldlM collect d = some d')
    (hd : (d.map Prod.fst).Nodup) : (d'.map Prod.fst).Nodup := by
  induction xs generalizing d with
  | nil =>
    cases h
    exact hd
  | cons x xs ih =>
    rw [List.foldlM_cons] at h
    obtain ⟨d₁, hd₁, h⟩ := Option.bind_eq_some_iff.mp h
    obtain ⟨g, rfl⟩ := hc _ _ _ hd₁
    exact ih h (nodup_keys_put hd)

/-- Collecting an item rewrites the group of its key alone, by `cell`. -/
def RewritesCell (key : X → K) (cell : Option G → X → Option G)
    (collect : List (K × G) → X → Option (List (K × G))) : Prop :=
  ∀ d x, collect d x = (cell (d.lookup (key x)) x).map fun g => put (key x) g d

/-- The group of a key after the items of that key, by `cell`. -/
def cellAfter (key : X → K) (cell : Option G → X → Option G) (xs : List X) (k : K) (g : Option G) :
    Option (Option G) :=
  (xs.filter (key · = k)).foldlM (fun g x => (cell g x).map some) g

section
variable {cell : Option G → X → Option G} {x : X} {k : K} {g : Option G}

theorem RewritesCell.collects (h : RewritesCell key cell collect) : Collects key collect := by
  intro d x d' hd
  rw [h] at hd
  obtain ⟨g, -, rfl⟩ := Option.map_eq_some_iff.mp hd
  exact ⟨g, rfl⟩

theorem cellAfter_cons_self : cellAfter key cell (x :: xs) (key x) g =
    (cell g x).bind fun g' => cellAfter key cell xs (key x) (some g') := by
  rw [cellAfter, List.filter_cons_of_pos (by simp), List.foldlM_cons]
  cases cell g x <;> rfl

theorem cellAfter_cons_of_ne (h : key x ≠ k) : cellAfter key cell (x :: xs) k g = cellAfter key cell xs k g := by
  rw [cellAfter, List.filter_cons_of_neg (by simpa using h)]
  rfl

/-- A dictionary that is collected is, key by key, a fold over the items of the key. -/
theorem cellAfter_lookup (h : RewritesCell key cell collect) {d d' : List (K × G)}
    (hd : xs.foldlM collect d = some d') (k : K) :
    cellAfter key cell xs k (d.lookup k) = some (d'.lookup k) := by
  induction xs generalizing d with
  | nil =>
    cases hd
    rfl
  | cons x xs ih =>
    rw [List.foldlM_cons, h] at hd
    obtain ⟨d₁, hd₁, hd⟩ := Option.bind_eq_some_iff.mp hd
    obtain ⟨g, hg, rfl⟩ := Option.map_eq_some_iff.mp hd₁
    have hrest := ih hd
    rw [lookup_put] at hrest
    by_cases hk : k = key x
    · subst hk
      rw [if_pos rfl] at hrest
      rw [cellAfter_cons_self, hg]
      exact hrest
    · rw [if_neg hk] at hrest
      rw [cellAfter_cons_of_ne (Ne.symm hk)]
      exact hrest

/-- The collection stops exactly if the fold of some key does. -/
theorem foldlM_eq_none_iff (h : RewritesCell key cell collect) {d : List (K × G)} :
    xs.foldlM collect d = none ↔ ∃ x ∈ xs, cellAfter key cell xs (key x) (d.lookup (key x)) = none := by
  constructor
  · intro hnone
    induction xs generalizing d with
    | nil => cases hnone
    | cons x xs ih =>
      rw [List.foldlM_cons, h] at hnone
      cases hg : cell (d.lookup (key x)) x with
      | none =>
        refine ⟨x, List.mem_cons_self, ?_⟩
        rw [cellAfter_cons_self, hg]
        rfl
      | some g =>
        rw [hg] at hnone
        obtain ⟨y, hy, hstop⟩ := ih hnone
        rw [lookup_put] at hstop
        refine ⟨y, List.mem_cons_of_mem _ hy, ?_⟩
        by_cases hk : key y = key x
        · rw [if_pos hk, hk] at hstop
          rw [hk, cellAfter_cons_self, hg]
          exact hstop
        · rw [if_neg hk] at hstop
          rw [cellAfter_cons_of_ne (Ne.symm hk)]
          exact hstop
  · rintro ⟨x, -, hstop⟩
    cases hd : xs.foldlM collect d with
    | none => rfl
    | some d' =>
      rw [cellAfter_lookup h hd] at hstop
      cases hstop

/-- The groups of a collection that does not stop. -/
theorem mem_foldlM_iff (h : RewritesCell key cell collect) {groups : List (K × G)}
    (hd : xs.foldlM collect [] = some groups) {k : K} {g : G} :
    (k, g) ∈ groups ↔ ∃ x ∈ xs, key x = k ∧ cellAfter key cell xs k none = some (some g) := by
  have hkeys : (groups.map Prod.fst).Nodup := nodup_keys_foldlM h.collects hd List.nodup_nil
  have hgroup : cellAfter key cell xs k none = some (groups.lookup k) := cellAfter_lookup h hd k
  rw [mem_iff_lookup hkeys, hgroup, Option.some_inj]
  constructor
  · intro hlookup
    have hmem := (mem_iff_lookup hkeys).mpr hlookup
    rcases mem_keys_foldlM h.collects hd (List.mem_map_of_mem hmem) with hk | hk
    · cases hk
    · obtain ⟨x, hx, hxk⟩ := List.mem_map.mp hk
      exact ⟨x, hx, hxk, hlookup⟩
  · rintro ⟨x, hx, hxk, hlookup⟩
    exact hlookup

/-- A loop over groups stops exactly if the fold of some key does, or the round of its group. -/
theorem groupLoop_eq_none_iff (h : RewritesCell key cell collect) {Stops : K × G → V → Prop}
    (hstep : ∀ x v a, (step x v a).2 = none ↔ Stops x v) :
    (groupLoop collect step xs s acc).2 = none ↔
      ∃ x ∈ xs, cellAfter key cell xs (key x) none = none ∨
        ∃ g, cellAfter key cell xs (key x) none = some (some g) ∧ Stops (key x, g) (s (key x)) := by
  cases hd : xs.foldlM collect [] with
  | none =>
    rw [groupLoop_of_none hd]
    obtain ⟨x, hx, hstop⟩ := (foldlM_eq_none_iff h).mp hd
    exact iff_of_true rfl ⟨x, hx, .inl hstop⟩
  | some groups =>
    have hkeys : (groups.map Prod.fst).Nodup := nodup_keys_foldlM h.collects hd List.nodup_nil
    have hnot (k : K) : cellAfter key cell xs k none ≠ none := by
      rw [show cellAfter key cell xs k none = some (groups.lookup k) from cellAfter_lookup h hd k]
      exact Option.some_ne_none _
    rw [groupLoop_of_some hd, loop_eq_none_iff hstep hkeys]
    constructor
    · rintro ⟨⟨k, g⟩, hmem, hstop⟩
      obtain ⟨x, hx, rfl, hg⟩ := (mem_foldlM_iff h hd).mp hmem
      exact ⟨x, hx, .inr ⟨g, hg, hstop⟩⟩
    · rintro ⟨x, hx, hnone | ⟨g, hg, hstop⟩⟩
      · exact absurd hnone (hnot _)
      · exact ⟨(key x, g), (mem_foldlM_iff h hd).mpr ⟨x, hx, rfl, hg⟩, hstop⟩

end

theorem groupLoop_of_not_mem (hc : Collects key collect) {k : K} (h : k ∉ xs.map key) :
    (groupLoop collect step xs s acc).1 k = s k := by
  unfold groupLoop
  split
  · rfl
  · rename_i groups hg
    refine loop_of_not_mem fun hk => ?_
    rcases mem_keys_foldlM hc hg hk with hk | hk
    · cases hk
    · exact h hk

theorem groupLoop_eqOn (hc : Collects key collect) {H : Set K} (h : Set.EqOn s t H)
    (hx : ∀ x ∈ xs, key x ∈ H) :
    (groupLoop collect step xs s acc).2 = (groupLoop collect step xs t acc).2 ∧
      Set.EqOn (groupLoop collect step xs s acc).1 (groupLoop collect step xs t acc).1 H := by
  unfold groupLoop
  split
  · exact ⟨rfl, h⟩
  · rename_i groups hg
    refine loop_eqOn h fun g hmem => ?_
    rcases mem_keys_foldlM hc hg (List.mem_map_of_mem hmem) with hk | hk
    · cases hk
    · obtain ⟨x, hx', hkey⟩ := List.mem_map.mp hk
      exact hkey ▸ hx x hx'

end

/-! ### Groups that are sums of their items -/

section
variable {G P I : Type*}

/-- What matters of a group is `sum` of it, to which `add` adds an item; an item that cannot be read
stops the collection, and the order in which two items are added does not matter. -/
structure Summarizes (key : X → K) (read : X → Option I) (sum : G → P) (add : I → Option P → P)
    (collect : List (K × G) → X → Option (List (K × G))) : Prop where
  stop : ∀ {d x}, read x = none → collect d x = none
  collect : ∀ {d x i}, read x = some i →
    ∃ g, collect d x = some (put (key x) g d) ∧ sum g = add i ((d.lookup (key x)).map sum)
  comm : ∀ i j p, add i (some (add j p)) = add j (some (add i p))

/-- Dictionaries with the same sums. -/
structure SameSums (sum : G → P) (d d' : List (K × G)) : Prop where
  nodup : (d.map Prod.fst).Nodup
  nodup' : (d'.map Prod.fst).Nodup
  lookup : ∀ k, (d.lookup k).map sum = (d'.lookup k).map sum

variable {read : X → Option I} {sum : G → P} {add : I → Option P → P}
  {collect : List (K × G) → X → Option (List (K × G))} {d d' d'' : List (K × G)} {ys : List X}

theorem SameSums.refl (h : (d.map Prod.fst).Nodup) : SameSums sum d d := ⟨h, h, fun _ => rfl⟩

theorem SameSums.trans (h : SameSums sum d d') (h' : SameSums sum d' d'') : SameSums sum d d'' :=
  ⟨h.nodup, h'.nodup', fun k => (h.lookup k).trans (h'.lookup k)⟩

theorem SameSums.symm (h : SameSums sum d d') : SameSums sum d' d :=
  ⟨h.nodup', h.nodup, fun k => (h.lookup k).symm⟩

theorem SameSums.exists_mem (h : SameSums sum d d') {k : K} {g : G} (hg : (k, g) ∈ d) :
    ∃ g', (k, g') ∈ d' ∧ sum g = sum g' := by
  have hlookup := h.lookup k
  rw [(mem_iff_lookup h.nodup).mp hg, Option.map_some] at hlookup
  obtain ⟨g', hg', hsum⟩ := Option.map_eq_some_iff.mp hlookup.symm
  exact ⟨g', (mem_iff_lookup h.nodup').mpr hg', hsum.symm⟩

theorem SameSums.put (h : SameSums sum d d') {k : K} {g g' : G} (hg : sum g = sum g') :
    SameSums sum (put k g d) (put k g' d') := by
  refine ⟨nodup_keys_put h.nodup, nodup_keys_put h.nodup', fun k' => ?_⟩
  rw [lookup_put, lookup_put]
  split
  · exact congrArg some hg
  · exact h.lookup k'

/-- The sums, as a list with the keys, are the same up to the order. -/
theorem SameSums.perm (h : SameSums sum d d') :
    (d.map fun x => (x.1, sum x.2)).Perm (d'.map fun x => (x.1, sum x.2)) := by
  have hkeys (l : List (K × G)) (hl : (l.map Prod.fst).Nodup) :
      ((l.map fun x => (x.1, sum x.2)).map Prod.fst).Nodup := by
    rwa [List.map_map]
  have hmem (l : List (K × G)) (hl : (l.map Prod.fst).Nodup) (k : K) (p : P) :
      (k, p) ∈ l.map (fun x => (x.1, sum x.2)) ↔ (l.lookup k).map sum = some p := by
    rw [Option.map_eq_some_iff, List.mem_map]
    constructor
    · rintro ⟨⟨k', g⟩, hg, heq⟩
      obtain ⟨rfl, rfl⟩ := Prod.mk.inj heq
      exact ⟨g, (mem_iff_lookup hl).mp hg, rfl⟩
    · rintro ⟨g, hg, rfl⟩
      exact ⟨(k, g), (mem_iff_lookup hl).mpr hg, rfl⟩
  refine (List.perm_ext_iff_of_nodup (List.Nodup.of_map _ (hkeys d h.nodup))
    (List.Nodup.of_map _ (hkeys d' h.nodup'))).mpr ?_
  rintro ⟨k, p⟩
  rw [hmem d h.nodup, hmem d' h.nodup', h.lookup]

/-- Finished loops whose rounds rewrite the cell by the sum of the group leave the same store. -/
theorem SameSums.loop_eq {step : K × G → V → A → V × Option A} {next : K × P → V → V}
    (hstep : ∀ {x v a v' a'}, step x v a = (v', some a') → v' = next (x.1, sum x.2) v) (h : SameSums sum d d')
    (hd : (loop Prod.fst step d s acc).2.isSome) (hd' : (loop Prod.fst step d' s acc).2.isSome) :
    (loop Prod.fst step d s acc).1 = (loop Prod.fst step d' s acc).1 := by
  funext k
  by_cases hk : k ∈ d.map Prod.fst
  · obtain ⟨⟨k, g⟩, hg, rfl⟩ := List.mem_map.mp hk
    obtain ⟨g', hg', hsum⟩ := h.exists_mem hg
    have hcell := loop_cell (fun h => hstep h) h.nodup hd hg
    have hcell' := loop_cell (fun h => hstep h) h.nodup' hd' hg'
    dsimp only at hcell hcell' ⊢
    rw [hcell, hcell', hsum]
  · have hk' : k ∉ d'.map Prod.fst := by
      intro hmem
      obtain ⟨⟨_, g'⟩, hg', rfl⟩ := List.mem_map.mp hmem
      obtain ⟨g, hg, -⟩ := h.symm.exists_mem hg'
      exact hk (List.mem_map.mpr ⟨_, hg, rfl⟩)
    rw [loop_of_not_mem hk, loop_of_not_mem hk']

/-- What the rounds log, if it depends on the sum of the group and the cell, is the same up to the
order. -/
theorem SameSums.log_perm {B : Type*} {step : K × G → V → A → V × Option A} {log : A → List B}
    {out : K × P → V → List B}
    (hstep : ∀ {x v a v' a'}, step x v a = (v', some a') → log a' = log a ++ out (x.1, sum x.2) v)
    (h : SameSums sum d d') {a a' : A} (ha : (loop Prod.fst step d s acc).2 = some a)
    (ha' : (loop Prod.fst step d' s acc).2 = some a') : (log a).Perm (log a') := by
  have hlog := loop_log log (fun x v => out (x.1, sum x.2) v) hstep h.nodup ha
  have hlog' := loop_log log (fun x v => out (x.1, sum x.2) v) hstep h.nodup' ha'
  have hout := h.perm.flatMap_right fun y => out y (s y.1)
  rw [List.flatMap_map, List.flatMap_map] at hout
  rw [hlog, hlog']
  exact hout.append_left _

theorem rel_bind {B C : Type*} {r : B → B → Prop} {r' : C → C → Prop} {o o' : Option B} {f f' : B → Option C}
    (h : Option.Rel r o o') (hf : ∀ {b b'}, r b b' → Option.Rel r' (f b) (f' b')) :
    Option.Rel r' (o.bind f) (o'.bind f') := by
  cases h with
  | none => exact .none
  | some h => exact hf h

theorem rel_trans {o o' o'' : Option (List (K × G))} (h : Option.Rel (SameSums sum) o o')
    (h' : Option.Rel (SameSums sum) o' o'') : Option.Rel (SameSums sum) o o'' := by
  cases h with
  | none => exact h'
  | some h =>
    cases h' with
    | some h' => exact .some (h.trans h')

section
variable (hs : Summarizes key read sum add collect)
include hs

/-- One item, added to two dictionaries with the same sums. -/
theorem Summarizes.collect_rel (h : SameSums sum d d') (x : X) :
    Option.Rel (SameSums sum) (collect d x) (collect d' x) := by
  cases hx : read x with
  | none =>
    rw [hs.stop hx, hs.stop hx]
    exact .none
  | some i =>
    obtain ⟨g, hg, hsum⟩ := hs.collect (d := d) hx
    obtain ⟨g', hg', hsum'⟩ := hs.collect (d := d') hx
    rw [hg, hg']
    refine .some (h.put ?_)
    rw [hsum, hsum', h.lookup]

theorem Summarizes.foldlM_rel (h : SameSums sum d d') :
    Option.Rel (SameSums sum) (xs.foldlM collect d) (xs.foldlM collect d') := by
  induction xs generalizing d d' with
  | nil => exact .some h
  | cons x xs ih =>
    rw [List.foldlM_cons, List.foldlM_cons]
    exact rel_bind (hs.collect_rel h x) fun h => ih h

/-- Two items, in either order. -/
theorem Summarizes.collect_swap (h : SameSums sum d d') (x y : X) :
    Option.Rel (SameSums sum) ((collect d y).bind (collect · x)) ((collect d' x).bind (collect · y)) := by
  cases hx : read x with
  | none =>
    rw [hs.stop (d := d') hx]
    cases collect d y with
    | none => exact .none
    | some d₁ => simp [hs.stop (d := d₁) hx]
  | some i =>
    obtain ⟨gx, hgx, hsumx⟩ := hs.collect (d := d') hx
    cases hy : read y with
    | none =>
      rw [hs.stop (d := d) hy, hgx]
      simp [hs.stop hy]
    | some j =>
      obtain ⟨gy, hgy, hsumy⟩ := hs.collect (d := d) hy
      obtain ⟨gx', hgx', hsumx'⟩ := hs.collect (d := KeyedStore.put (key y) gy d) hx
      obtain ⟨gy', hgy', hsumy'⟩ := hs.collect (d := KeyedStore.put (key x) gx d') hy
      rw [hgx, hgy, Option.bind_some, Option.bind_some, hgx', hgy']
      refine .some ⟨nodup_keys_put (nodup_keys_put h.nodup), nodup_keys_put (nodup_keys_put h.nodup'), fun k => ?_⟩
      rw [lookup_put] at hsumx' hsumy'
      simp only [lookup_put]
      by_cases hxy : key x = key y
      · -- both items go into one group
        rw [if_pos hxy, Option.map_some, hsumy] at hsumx'
        rw [if_pos hxy.symm, Option.map_some, hsumx] at hsumy'
        rw [hxy] at hsumy' ⊢
        split
        · rw [Option.map_some, Option.map_some, hsumx', hsumy', hs.comm, h.lookup]
        · exact h.lookup k
      · rw [if_neg hxy] at hsumx'
        rw [if_neg (Ne.symm hxy)] at hsumy'
        by_cases hkx : k = key x
        · have hky : k ≠ key y := fun he => hxy (hkx.symm.trans he)
          rw [if_pos hkx, if_neg hky, if_pos hkx, Option.map_some, Option.map_some, hsumx', hsumx, h.lookup]
        · rw [if_neg hkx, if_neg hkx]
          split
          · rw [Option.map_some, Option.map_some, hsumy, hsumy', h.lookup]
          · exact h.lookup k

/-- The order of the items does not matter to the sums. -/
theorem Summarizes.foldlM_perm (hp : xs.Perm ys) (h : SameSums sum d d') :
    Option.Rel (SameSums sum) (xs.foldlM collect d) (ys.foldlM collect d') := by
  induction hp generalizing d d' with
  | nil => exact .some h
  | cons x _ ih =>
    rw [List.foldlM_cons, List.foldlM_cons]
    exact rel_bind (hs.collect_rel h x) fun h => ih h
  | swap x y l =>
    simp only [List.foldlM_cons, Option.bind_eq_bind, ← Option.bind_assoc]
    exact rel_bind (hs.collect_swap h x y) fun h => hs.foldlM_rel h
  | trans _ _ ih₁ ih₂ => exact rel_trans (ih₁ (.refl h.nodup)) (ih₂ h)

/-- A loop over groups that looks at their sums only, and that no store or group makes stop, does
the same for every order of the items. -/
theorem Summarizes.groupLoop_perm {B : Type*} {step : K × G → V → A → V × Option A} (acc : A)
    (next : K × P → V → V) (log : A → List B) (out : K × P → V → List B)
    (hnext : ∀ {x v a v' a'}, step x v a = (v', some a') → v' = next (x.1, sum x.2) v)
    (hout : ∀ {x v a v' a'}, step x v a = (v', some a') → log a' = log a ++ out (x.1, sum x.2) v)
    (htotal : ∀ groups, (loop Prod.fst step groups s acc).2.isSome) (hp : xs.Perm ys) :
    (groupLoop collect step xs s acc).1 = (groupLoop collect step ys s acc).1 ∧
      Option.Rel (fun a a' => (log a).Perm (log a')) (groupLoop collect step xs s acc).2
        (groupLoop collect step ys s acc).2 := by
  have hgroups := hs.foldlM_perm hp (d := []) (.refl List.nodup_nil)
  unfold groupLoop
  cases hxs : xs.foldlM collect [] with
  | none =>
    cases hys : ys.foldlM collect [] with
    | none => exact ⟨rfl, .none⟩
    | some d' =>
      rw [hxs, hys] at hgroups
      cases hgroups
  | some d =>
    cases hys : ys.foldlM collect [] with
    | none =>
      rw [hxs, hys] at hgroups
      cases hgroups
    | some d' =>
      rw [hxs, hys] at hgroups
      cases hgroups with
      | some hsame =>
        obtain ⟨a, ha⟩ := Option.isSome_iff_exists.mp (htotal d)
        obtain ⟨a', ha'⟩ := Option.isSome_iff_exists.mp (htotal d')
        refine ⟨hsame.loop_eq hnext (htotal d) (htotal d'), ?_⟩
        dsimp only
        rw [ha, ha']
        exact .some (hsame.log_perm hout ha ha')

end

end

/-! ### Tables -/

/-- An update of some rows that leaves a column alone in each leaves it alone in the table. -/
theorem map_update_column {Row C : Type*} {column : Row → C} {p : Row → Prop} [DecidablePred p]
    {change : Row → Row} (h : ∀ row, column (change row) = column row) (rows : List Row) :
    (rows.map fun row => if p row then change row else row).map column = rows.map column := by
  rw [List.map_map]
  refine List.map_congr_left fun row _ => ?_
  show column (if p row then change row else row) = column row
  split
  · exact h row
  · rfl

end KeyedStore
