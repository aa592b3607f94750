import Mathlib.Data.Set.Insert
import Mathlib.Logic.Relation

/-!
# Directed graphs that grow

A set of vertices and a relation of arcs. A graph is closed if its arcs lead between its vertices,
rooted if moreover every vertex is reached from the root, and connected if any two vertices are joined
by arcs in either direction. `extend` adds vertices and arcs at once; `Rooted.extend` is the rule for
vertices hung below old ones, `Connected.extend` for vertices that an arc joins to an old one,
`closed_extend_iff` for vertices that point anywhere.
-/

structure DirGraph (α : Type*) where
  vertices : Set α
  Arc : α → α → Prop

namespace DirGraph

variable {α : Type*} {G : DirGraph α} {root : α} {V : Set α} {R : α → α → Prop}

structure Closed (G : DirGraph α) : Prop where
  source : ∀ {a b}, G.Arc a b → a ∈ G.vertices
  target : ∀ {a b}, G.Arc a b → b ∈ G.vertices

structure Rooted (G : DirGraph α) (root : α) : Prop extends Closed G where
  root_mem : root ∈ G.vertices
  reachable : ∀ {a}, a ∈ G.vertices → Relation.ReflTransGen G.Arc root a

structure Connected (G : DirGraph α) : Prop extends Closed G where
  joined : ∀ {a b}, a ∈ G.vertices → b ∈ G.vertices → Relation.EqvGen G.Arc a b

def extend (G : DirGraph α) (V : Set α) (R : α → α → Prop) : DirGraph α :=
  ⟨G.vertices ∪ V, fun a b => G.Arc a b ∨ R a b⟩

theorem Rooted.singleton (hV : G.vertices = {root}) (harc : ∀ a b, ¬ G.Arc a b) : G.Rooted root where
  source h := (harc _ _ h).elim
  target h := (harc _ _ h).elim
  root_mem := by rw [hV]; exact Set.mem_singleton root
  reachable ha := by
    rw [hV, Set.mem_singleton_iff] at ha
    rw [ha]

theorem closed_extend_iff (h : G.Closed) (hsource : ∀ {a b}, R a b → a ∈ V) :
    (G.extend V R).Closed ↔ ∀ a b, R a b → b ∈ G.vertices ∨ b ∈ V := by
  constructor
  · intro hc a b hab
    exact hc.target (.inr hab)
  · intro hR
    refine ⟨?_, ?_⟩
    · rintro a b (hab | hab)
      · exact .inl (h.source hab)
      · exact .inr (hsource hab)
    · rintro a b (hab | hab)
      · exact .inl (h.target hab)
      · exact hR a b hab

theorem Rooted.extend (h : G.Rooted root) (hR : ∀ {a b}, R a b → a ∈ G.vertices ∧ b ∈ V)
    (hV : ∀ b ∈ V, ∃ a, R a b) : (G.extend V R).Rooted root := by
  have hmono : ∀ {a}, a ∈ G.vertices → Relation.ReflTransGen (G.extend V R).Arc root a := fun ha =>
    (h.reachable ha).lift id fun _ _ => .inl
  refine ⟨⟨?_, ?_⟩, .inl h.root_mem, ?_⟩
  · rintro a b (hab | hab)
    · exact .inl (h.source hab)
    · exact .inl (hR hab).1
  · rintro a b (hab | hab)
    · exact .inl (h.target hab)
    · exact .inr (hR hab).2
  · rintro b (hb | hb)
    · exact hmono hb
    · obtain ⟨a, hab⟩ := hV b hb
      exact (hmono (hR hab).1).tail (.inr hab)

theorem Closed.mem_iff (h : G.Closed) {a b : α} (hab : Relation.EqvGen G.Arc a b) :
    a ∈ G.vertices ↔ b ∈ G.vertices := by
  induction hab with
  | rel a b hab => exact ⟨fun _ => h.target hab, fun _ => h.source hab⟩
  | refl a => exact Iff.rfl
  | symm a b _ ih => exact ih.symm
  | trans a b c _ _ hab hbc => exact hab.trans hbc

/-- From a vertex of a connected graph exactly its vertices can be reached, if arcs are taken both
ways. -/
theorem Connected.eqvGen_iff (h : G.Connected) {a b : α} (ha : a ∈ G.vertices) :
    Relation.EqvGen G.Arc a b ↔ b ∈ G.vertices :=
  ⟨fun hab => (h.mem_iff hab).mp ha, h.joined ha⟩

theorem Connected.singleton (hV : G.vertices = {root}) (harc : ∀ a b, ¬ G.Arc a b) : G.Connected where
  source h := (harc _ _ h).elim
  target h := (harc _ _ h).elim
  joined ha hb := by
    rw [hV, Set.mem_singleton_iff] at ha hb
    rw [ha, hb]
    exact .refl _

theorem Connected.extend (h : G.Connected) (hroot : root ∈ G.vertices)
    (hR : ∀ {a b}, R a b → (a ∈ G.vertices ∨ a ∈ V) ∧ (b ∈ G.vertices ∨ b ∈ V))
    (hV : ∀ b ∈ V, ∃ a ∈ G.vertices, R a b ∨ R b a) : (G.extend V R).Connected := by
  have hold : ∀ {a}, a ∈ G.vertices → Relation.EqvGen (G.extend V R).Arc root a := fun ha =>
    Relation.EqvGen.mono (fun _ _ => .inl) _ _ (h.joined hroot ha)
  have hall : ∀ {a}, a ∈ (G.extend V R).vertices → Relation.EqvGen (G.extend V R).Arc root a := by
    rintro b (hb | hb)
    · exact hold hb
    · obtain ⟨a, ha, hab | hba⟩ := hV b hb
      · exact (hold ha).trans _ _ _ (.rel _ _ (.inr hab))
      · exact (hold ha).trans _ _ _ (.symm _ _ (.rel _ _ (.inr hba)))
  refine ⟨⟨?_, ?_⟩, fun ha hb => .trans _ _ _ (.symm _ _ (hall ha)) (hall hb)⟩
  · rintro a b (hab | hab)
    · exact .inl (h.source hab)
    · exact (hR hab).1
  · rintro a b (hab | hab)
    · exact .inl (h.target hab)
    · exact (hR hab).2

end DirGraph
