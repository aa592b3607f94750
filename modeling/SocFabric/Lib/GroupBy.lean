import Mathlib.Algebra.BigOperators.Group.List.Lemmas
import Mathlib.Algebra.Ring.Nat
import Mathlib.Data.List.Dedup
import Mathlib.Data.List.Induction
import SocFabric.Lib.KeyedStore

/-!
# Grouping by key

`group` collects items in an insertion-ordered dictionary: the first item of a key makes its group,
and every item of the key is added to it. So the group of a key is the sum of the items with that key
(`lookup_group`), and sizes of groups add up to the number of items (`sum_size_group`).
-/

namespace KeyedStore

variable {K V X : Type*} [DecidableEq K]

section
variable (key : X → K) (init : X → V) (add : V → X → V)

def upsert (d : List (K × V)) (x : X) : List (K × V) :=
  put (key x) (add ((d.lookup (key x)).getD (init x)) x) d

def group (xs : List X) : List (K × V) := xs.foldl (upsert key init add) []

end

variable {key : X → K} {init : X → V} {add : V → X → V} {xs : List X} {x : X} {k : K} {v : V}

theorem group_concat : group key init add (xs ++ [x]) = upsert key init add (group key init add xs) x :=
  List.foldl_concat ..

theorem nodup_keys_group (xs : List X) : ((group key init add xs).map Prod.fst).Nodup := by
  induction xs using List.reverseRecOn with
  | nil => exact List.nodup_nil
  | append_singleton xs x ih =>
    rw [group_concat]
    exact nodup_keys_put ih

theorem lookup_group (xs : List X) (k : K) :
    (group key init add xs).lookup k =
      (xs.filter (key · = k)).head?.map fun x => (xs.filter (key · = k)).foldl add (init x) := by
  induction xs using List.reverseRecOn with
  | nil => rfl
  | append_singleton xs x ih =>
    rw [group_concat, upsert, lookup_put, List.filter_append]
    by_cases hk : k = key x
    · subst hk
      rw [if_pos rfl, ih]
      cases hxs : xs.filter (key · = key x) with
      | nil => simp
      | cons y ys => simp
    · rw [if_neg hk, ih]
      simp [Ne.symm hk]

/-- A group and the items that it was made of. -/
theorem exists_of_mem_group (h : (k, v) ∈ group key init add xs) :
    ∃ x ys, xs.filter (key · = k) = x :: ys ∧ v = (x :: ys).foldl add (init x) := by
  rw [mem_iff_lookup (nodup_keys_group xs), lookup_group] at h
  obtain ⟨x, hx, rfl⟩ := Option.map_eq_some_iff.mp h
  obtain ⟨ys, hys⟩ := List.head?_eq_some_iff.mp hx
  exact ⟨x, ys, hys, by rw [hys]⟩

theorem exists_group_of_mem (hx : x ∈ xs) : ∃ v, (key x, v) ∈ group key init add xs := by
  have hmem : x ∈ xs.filter (key · = key x) := by simp [hx]
  obtain ⟨y, ys, hys⟩ := List.exists_cons_of_ne_nil (List.ne_nil_of_mem hmem)
  refine ⟨(y :: ys).foldl add (init y), ?_⟩
  rw [mem_iff_lookup (nodup_keys_group xs), lookup_group, hys]
  rfl

theorem keys_group_perm : ((group key init add xs).map Prod.fst).Perm (xs.map key).dedup := by
  refine (List.perm_ext_iff_of_nodup (nodup_keys_group xs) (List.nodup_dedup _)).mpr fun k => ?_
  rw [List.mem_dedup]
  constructor
  · intro h
    obtain ⟨⟨k, v⟩, hv, rfl⟩ := List.mem_map.mp h
    obtain ⟨x, ys, hx, -⟩ := exists_of_mem_group hv
    have hmem : x ∈ xs.filter (key · = k) := hx ▸ List.mem_cons_self
    exact List.mem_map.mpr ⟨x, (List.mem_filter.mp hmem).1, of_decide_eq_true (List.mem_filter.mp hmem).2⟩
  · intro h
    obtain ⟨x, hx, rfl⟩ := List.mem_map.mp h
    have hgroup : ∃ v, (key x, v) ∈ group key init add xs := exists_group_of_mem hx
    obtain ⟨v, hv⟩ := hgroup
    exact List.mem_map.mpr ⟨_, hv, rfl⟩

/-- Every item is counted in one group. -/
theorem sum_size_group {f : V → Nat}
    (hsize : ∀ {k v}, (k, v) ∈ group key init add xs → f v = xs.countP (key · = k)) :
    ((group key init add xs).map fun e => f e.2).sum = xs.length := by
  have hcount : (group key init add xs).map (fun e => f e.2) =
      ((group key init add xs).map Prod.fst).map fun k => (xs.map key).count k := by
    rw [List.map_map]
    refine List.map_congr_left fun e he => ?_
    rw [hsize (k := e.1) he, Function.comp_apply, List.count, List.countP_map]
    rfl
  rw [hcount, (keys_group_perm.map _).sum_eq, List.sum_map_count_dedup_eq_length, List.length_map]

end KeyedStore
