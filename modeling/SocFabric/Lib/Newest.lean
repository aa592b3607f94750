import Mathlib.Data.List.Sort

/-!
# The first rows of an ordering

`IsNewest key n rows l`: the list `l` is a possible answer to a query for `rows` by descending key,
limited to `n`; rows of equal key come in any order, and a sort gives one (`isNewest_sort`). All possible
answers have a property exactly if every row without it has `n` newer rows that have it
(`forall_isNewest_iff`).
-/

namespace Newest

variable {α K : Type*} [LinearOrder K] {key : α → K} {p : α → Bool} {n : Nat} {rows l : List α}

def IsNewest (key : α → K) (n : Nat) (rows l : List α) : Prop :=
  ∃ sorted : List α, sorted.Perm rows ∧ sorted.Pairwise (fun a b => key b ≤ key a) ∧ l = sorted.take n

theorem IsNewest.subset (h : IsNewest key n rows l) : l ⊆ rows := by
  obtain ⟨sorted, hperm, -, rfl⟩ := h
  exact fun a ha => hperm.subset (List.mem_of_mem_take ha)

theorem IsNewest.length (h : IsNewest key n rows l) : l.length = min n rows.length := by
  obtain ⟨sorted, hperm, -, rfl⟩ := h
  rw [List.length_take, hperm.length_eq]

theorem IsNewest.pairwise (h : IsNewest key n rows l) : l.Pairwise fun a b => key b ≤ key a := by
  obtain ⟨sorted, -, hsorted, rfl⟩ := h
  exact hsorted.sublist (List.take_sublist ..)

/-- No row that is left out is newer than one of the answer. -/
theorem IsNewest.exists_omitted (h : IsNewest key n rows l) :
    ∃ omitted, (l ++ omitted).Perm rows ∧ ∀ a ∈ l, ∀ b ∈ omitted, key b ≤ key a := by
  obtain ⟨sorted, hperm, hsorted, rfl⟩ := h
  rw [← List.take_append_drop n sorted, List.pairwise_append] at hsorted
  exact ⟨sorted.drop n, (List.take_append_drop n sorted).symm ▸ hperm, hsorted.2.2⟩

theorem isNewest_sort (key : α → K) (n : Nat) (rows : List α) :
    IsNewest key n rows ((rows.insertionSort fun a b => key b ≤ key a).take n) := by
  have : Std.Total fun a b : α => key b ≤ key a := ⟨fun _ _ => le_total _ _⟩
  have : IsTrans α fun a b => key b ≤ key a := ⟨fun _ _ _ h h' => h'.trans h⟩
  exact ⟨_, List.perm_insertionSort _ _, List.pairwise_insertionSort _ _, rfl⟩

/-- Of the rows with a property that all of the answer have, the answer is the newest. -/
theorem IsNewest.filter (h : IsNewest key n rows l) (hp : ∀ a ∈ l, p a = true) :
    IsNewest key n (rows.filter p) l := by
  obtain ⟨sorted, hperm, hsorted, rfl⟩ := h
  refine ⟨sorted.filter p, hperm.filter p, hsorted.sublist List.filter_sublist, ?_⟩
  have htake : (sorted.take n).filter p = sorted.take n := List.filter_eq_self.mpr hp
  rcases Nat.le_total n sorted.length with hn | hn
  · have hlength : (sorted.take n).length = n := List.length_take_of_le hn
    conv_rhs => rw [← List.take_append_drop n sorted, List.filter_append, htake]
    rw [List.take_append_of_le_length hlength.ge, List.take_of_length_le hlength.le]
  · rw [List.take_of_length_le hn] at htake ⊢
    rw [htake, List.take_of_length_le hn]

/-- Rows of equal key are put in the order of the property, those without it first. -/
def Before (key : α → K) (p : α → Bool) (a b : α) : Prop :=
  key b < key a ∨ key a = key b ∧ (p a = true → p b = true)

instance : DecidableRel (Before key p) := fun a b =>
  inferInstanceAs (Decidable (key b < key a ∨ key a = key b ∧ (p a = true → p b = true)))

theorem Before.key_le {a b : α} (h : Before key p a b) : key b ≤ key a :=
  h.elim le_of_lt fun h => h.1.ge

instance : Std.Total (Before key p) := ⟨fun a b => by
  rcases lt_trichotomy (key a) (key b) with hlt | heq | hlt
  · exact .inr (.inl hlt)
  · cases hp : p a with
    | false => exact .inl (.inr ⟨heq, fun h => Bool.noConfusion (hp.symm.trans h)⟩)
    | true => exact .inr (.inr ⟨heq.symm, fun _ => hp⟩)
  · exact .inl (.inl hlt)⟩

instance : IsTrans α (Before key p) := ⟨by
  rintro a b c (hab | ⟨hab, hp⟩) (hbc | ⟨hbc, hp'⟩)
  · exact .inl (hbc.trans hab)
  · exact .inl (hbc ▸ hab)
  · exact .inl (hab ▸ hbc)
  · exact .inr ⟨hab.trans hbc, fun h => hp' (hp h)⟩⟩

theorem isNewest_before :
    IsNewest key n rows ((rows.insertionSort (Before key p)).take n) :=
  ⟨_, List.perm_insertionSort _ _, (List.pairwise_insertionSort _ _).imp Before.key_le, rfl⟩

/-- A row that can be among the answer has fewer than `n` newer rows. -/
theorem IsNewest.countP_lt (h : IsNewest key n rows l) {f : α} (hf : f ∈ l) :
    rows.countP (key f < key ·) < n := by
  obtain ⟨sorted, hperm, hsorted, rfl⟩ := h
  obtain ⟨pre, post, hsplit⟩ := List.append_of_mem hf
  have heq : sorted = pre ++ f :: (post ++ sorted.drop n) := by
    rw [← List.cons_append, ← List.append_assoc, ← hsplit, List.take_append_drop]
  have hlen : pre.length < n := by
    have hle : (sorted.take n).length ≤ n := List.length_take_le ..
    rw [hsplit, List.length_append, List.length_cons] at hle
    omega
  generalize sorted.drop n = rest at heq
  subst heq
  have hpost : ∀ b ∈ f :: (post ++ rest), key b ≤ key f :=
    List.forall_mem_cons.mpr ⟨le_refl _, (List.pairwise_cons.mp (List.pairwise_append.mp hsorted).2.1).1⟩
  calc rows.countP (key f < key ·) = (pre ++ f :: (post ++ rest)).countP (key f < key ·) :=
        (hperm.countP_eq _).symm
    _ = pre.countP (key f < key ·) := by
      rw [List.countP_append, Nat.add_eq_left, List.countP_eq_zero]
      exact fun b hb => by simpa using hpost b hb
    _ ≤ pre.length := List.countP_le_length
    _ < n := hlen

theorem forall_isNewest_iff :
    (∀ l, IsNewest key n rows l → ∀ a ∈ l, p a = true) ↔
      ∀ f ∈ rows, p f = false → n ≤ rows.countP fun a => p a && decide (key f < key a) := by
  constructor
  · intro h f hf hpf
    have hall := h _ (isNewest_before (p := p))
    have hmem : f ∈ (rows.insertionSort (Before key p)).drop n := by
      have hsorted := (List.perm_insertionSort (Before key p) rows).symm.subset hf
      rw [← List.take_append_drop n (rows.insertionSort _), List.mem_append] at hsorted
      refine hsorted.resolve_left fun htake => ?_
      rw [hall f htake] at hpf
      cases hpf
    have hsplit := List.pairwise_insertionSort (Before key p) rows
    rw [← List.take_append_drop n (rows.insertionSort _), List.pairwise_append] at hsplit
    have hnewer : ∀ a ∈ (rows.insertionSort (Before key p)).take n,
        (p a && decide (key f < key a)) = true := by
      intro a ha
      rcases hsplit.2.2 a ha f hmem with hlt | ⟨-, himp⟩
      · rw [hall a ha, decide_eq_true hlt, Bool.and_self]
      · rw [himp (hall a ha)] at hpf
        cases hpf
    have hn : n ≤ (rows.insertionSort (Before key p)).length := by
      have hpos := List.length_pos_of_mem hmem
      rw [List.length_drop] at hpos
      omega
    calc n = ((rows.insertionSort (Before key p)).take n).length := (List.length_take_of_le hn).symm
      _ = ((rows.insertionSort (Before key p)).take n).countP fun a => p a && decide (key f < key a) :=
          (List.countP_eq_length.mpr hnewer).symm
      _ ≤ (rows.insertionSort (Before key p)).countP fun a => p a && decide (key f < key a) :=
          (List.take_sublist ..).countP_le
      _ = rows.countP fun a => p a && decide (key f < key a) := (List.perm_insertionSort _ _).countP_eq _
  · intro h l hl f hf
    by_contra hpf
    have hle := h f (hl.subset hf) (by simpa using hpf)
    have hmono : rows.countP (fun a => p a && decide (key f < key a)) ≤ rows.countP (key f < key ·) :=
      List.countP_mono_left fun a _ ha => (Bool.and_eq_true_iff.mp ha).2
    exact absurd (hle.trans hmono) (Nat.not_le.mpr (hl.countP_lt hf))

end Newest
