import Mathlib.Data.List.Nodup
import Mathlib.Data.List.Perm.Subperm
import Mathlib.Logic.Relation

/-!
# Breadth-first search

`loop next fuel s` works off a queue, and puts what `next` names and no round has seen at its end. Each
round takes one vertex off the queue and a vertex joins it once, when it is first seen, so the number of
rounds is bounded by the number of vertices (`loop_start`). What the search has seen at the end is what
can be reached from the start.
-/

namespace Search

variable {α : Type*} [DecidableEq α]

/-- What has been seen, in the order of discovery, and what is still to be worked off. -/
structure State (α : Type*) where
  visited : List α
  queue : List α

def start (a : α) : State α := ⟨[a], [a]⟩

def visit (s : State α) (a : α) : State α :=
  if a ∈ s.visited then s else ⟨s.visited ++ [a], s.queue ++ [a]⟩

/-- The rounds, until the queue is empty; `none` is for a loop that has not ended. -/
def loop (next : α → List α) : Nat → State α → Option (List α)
  | 0, _ => none
  | fuel + 1, ⟨visited, queue⟩ =>
    match queue with
    | [] => some visited
    | curr :: rest => loop next fuel ((next curr).foldl visit ⟨visited, rest⟩)

variable {next : α → List α} {s : State α} {a b root : α} {bs : List α}

theorem visited_visit : b ∈ (visit s a).visited ↔ b ∈ s.visited ∨ b = a := by
  unfold visit
  split_ifs with ha
  · exact (or_iff_left_of_imp fun hb => hb ▸ ha).symm
  · rw [List.mem_append, List.mem_singleton]

theorem queue_visit (h : b ∈ (visit s a).queue) : b ∈ s.queue ∨ b = a := by
  unfold visit at h
  split_ifs at h with ha
  · exact .inl h
  · rwa [List.mem_append, List.mem_singleton] at h

/-- What one round sees. -/
structure Seen (s : State α) (bs : List α) (s' : State α) : Prop where
  visited : ∀ b, b ∈ s'.visited ↔ b ∈ s.visited ∨ b ∈ bs
  kept : s.queue ⊆ s'.queue
  queued : ∀ b ∈ s'.visited, b ∈ s.visited ∨ b ∈ s'.queue
  new : ∀ b ∈ s'.queue, b ∈ s.queue ∨ b ∈ bs
  nodup : s.visited.Nodup → s'.visited.Nodup
  length : s'.visited.length + s.queue.length = s.visited.length + s'.queue.length

theorem seen_visit (s : State α) (a : α) : Seen s [a] (visit s a) := by
  refine ⟨fun b => by rw [visited_visit, List.mem_singleton], ?_, ?_, fun b hb => ?_, ?_, ?_⟩
  · unfold visit
    split_ifs
    · exact List.Subset.refl _
    · exact List.subset_append_left ..
  · intro b hb
    unfold visit at hb ⊢
    split_ifs at hb ⊢ with ha
    · exact .inl hb
    · exact (List.mem_append.mp hb).imp_right (List.mem_append_right _)
  · rw [List.mem_singleton]
    exact queue_visit hb
  · intro h
    unfold visit
    split_ifs with ha
    · exact h
    · exact List.nodup_append.mpr ⟨h, List.nodup_singleton a, by
        rintro b hb c hc rfl
        exact ha (List.mem_singleton.mp hc ▸ hb)⟩
  · unfold visit
    split_ifs
    · rfl
    · rw [List.length_append, List.length_append]
      omega

omit [DecidableEq α] in
theorem Seen.trans {s' s'' : State α} {cs : List α} (h : Seen s bs s') (h' : Seen s' cs s'') :
    Seen s (bs ++ cs) s'' where
  visited b := by rw [h'.visited, h.visited, List.mem_append, or_assoc]
  kept := List.Subset.trans h.kept h'.kept
  queued b hb := (h'.queued b hb).elim (fun hb => (h.queued b hb).imp_right (h'.kept ·)) .inr
  new b hb := by
    rw [List.mem_append, ← or_assoc]
    exact (h'.new b hb).imp_left (h.new b)
  nodup hs := h'.nodup (h.nodup hs)
  length := by have := h.length; have := h'.length; omega

theorem seen_foldl (bs : List α) (s : State α) : Seen s bs (bs.foldl visit s) := by
  induction bs generalizing s with
  | nil => exact ⟨by simp, List.Subset.refl _, fun _ => .inl, fun _ => .inl, id, rfl⟩
  | cons a bs ih => exact (seen_visit s a).trans (ih (visit s a))

/-! ### The search -/

abbrev Reaches (next : α → List α) : α → α → Prop := Relation.ReflTransGen fun a b => b ∈ next a

/-- The frontier: what has been seen can be reached, and leads to what has been seen unless it is
still in the queue. -/
structure Inv (next : α → List α) (root : α) (s : State α) : Prop where
  root_mem : root ∈ s.visited
  nodup : s.visited.Nodup
  sound : ∀ a ∈ s.visited, Reaches next root a
  queue : s.queue ⊆ s.visited
  closed : ∀ a ∈ s.visited, a ∈ s.queue ∨ next a ⊆ s.visited

omit [DecidableEq α] in
theorem inv_start (next : α → List α) (a : α) : Inv next a (start a) where
  root_mem := List.mem_singleton_self a
  nodup := List.nodup_singleton a
  sound b hb := by rw [List.mem_singleton.mp hb]
  queue := List.Subset.refl _
  closed _ := .inl

theorem Inv.round {curr : α} {visited rest : List α} (h : Inv next root ⟨visited, curr :: rest⟩) :
    Inv next root ((next curr).foldl visit ⟨visited, rest⟩) := by
  have hseen := seen_foldl (next curr) ⟨visited, rest⟩
  have hcurr : curr ∈ visited := h.queue List.mem_cons_self
  refine ⟨(hseen.visited _).mpr (.inl h.root_mem), hseen.nodup h.nodup, fun b hb => ?_, fun b hb => ?_,
    fun b hb => ?_⟩
  · rcases (hseen.visited b).mp hb with hold | hnew
    · exact h.sound b hold
    · exact (h.sound curr hcurr).tail hnew
  · rcases hseen.new b hb with hrest | hnew
    · exact (hseen.visited b).mpr (.inl (h.queue (List.mem_cons_of_mem _ hrest)))
    · exact (hseen.visited b).mpr (.inr hnew)
  · rcases hseen.queued b hb with hold | hqueue
    · rcases h.closed b hold with hmem | hnext
      · rcases List.mem_cons.mp hmem with rfl | hrest
        · exact .inr fun c hc => (hseen.visited c).mpr (.inr hc)
        · exact .inl (hseen.kept hrest)
      · exact .inr fun c hc => (hseen.visited c).mpr (.inl (hnext hc))
    · exact .inl hqueue

omit [DecidableEq α] in
/-- A search that has worked off its queue has seen all that can be reached. -/
theorem Inv.mem_iff {visited : List α} (h : Inv next root ⟨visited, []⟩) :
    a ∈ visited ↔ Reaches next root a := by
  refine ⟨h.sound a, fun hreach => ?_⟩
  induction hreach with
  | refl => exact h.root_mem
  | tail _ hab ih => exact (h.closed _ ih).resolve_left List.not_mem_nil hab

/-- More rounds do not change what has been found. -/
theorem loop_mono {visited : List α} {m n : Nat} (h : loop next n s = some visited) (hmn : n ≤ m) :
    loop next m s = some visited := by
  induction n generalizing m s with
  | zero => cases h
  | succ n ih =>
    obtain ⟨m, rfl⟩ := Nat.exists_eq_add_of_lt hmn
    obtain ⟨seen, queue⟩ := s
    cases queue with
    | nil => exact h
    | cons curr rest =>
      exact ih (s := (next curr).foldl visit ⟨seen, rest⟩) h (Nat.le_add_right n m)

/-- The search ends, within a number of rounds that the vertices bound. -/
theorem exists_loop {vertices : List α} (hnext : ∀ a, next a ⊆ vertices) {n : Nat} (h : Inv next root s)
    (hs : s.visited ⊆ vertices) (hn : vertices.length + s.queue.length < n + s.visited.length) :
    ∃ visited, loop next n s = some visited ∧ Inv next root ⟨visited, []⟩ := by
  induction n generalizing s with
  | zero =>
    have hle := (h.nodup.subperm hs).length_le
    omega
  | succ n ih =>
    obtain ⟨visited, queue⟩ := s
    cases queue with
    | nil => exact ⟨visited, rfl, h⟩
    | cons curr rest =>
      have hseen := seen_foldl (next curr) ⟨visited, rest⟩
      refine ih h.round (fun b hb => ?_) ?_
      · rcases (hseen.visited b).mp hb with hold | hnew
        · exact hs hold
        · exact hnext curr hnew
      · have hlength := hseen.length
        simp only [List.length_cons] at hn hlength ⊢
        omega

/-- The search from a vertex, with the set that it can reach as its answer. -/
theorem loop_start {vertices : List α} (hnext : ∀ a, next a ⊆ vertices) (root : α) :
    ∃ visited, (∀ n, vertices.length + 1 < n → loop next n (start root) = some visited) ∧
      visited.Nodup ∧ ∀ a, a ∈ visited ↔ Reaches next root a := by
  obtain ⟨visited, hloop, hinv⟩ := exists_loop (fun a => List.Subset.trans (hnext a) (List.subset_cons_self root _))
    (inv_start next root) (List.cons_subset_cons root (List.nil_subset _)) (n := vertices.length + 2)
    (by simp only [start, List.length_cons, List.length_nil]; omega)
  exact ⟨visited, fun n hn => loop_mono hloop hn, hinv.nodup, fun a => hinv.mem_iff⟩

end Search
