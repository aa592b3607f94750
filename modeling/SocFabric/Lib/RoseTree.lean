import Mathlib.Data.List.Basic
import Mathlib.Logic.Relation
import Mathlib.Order.Lattice

/-!
# Rose trees

Labelled trees with a list of children at each node: the subtrees in preorder, the walk level by level,
which visits the same subtrees (`walk_perm`), and the height. `PadStep p` puts trees among the children
of a node that `p` allows, or some of these children under a new node there. Padding lowers neither the
height (`height_le_of_pads`) nor the number of subtrees of a kind that it does not touch
(`countP_le_of_pads`).
-/

inductive RoseTree (α : Type*)
  | node (label : α) (children : List (RoseTree α))

namespace RoseTree

variable {α : Type*} {a b : α} {cs cs' : List (RoseTree α)} {t t' : RoseTree α}

def label : RoseTree α → α
  | node a _ => a

def children : RoseTree α → List (RoseTree α)
  | node _ cs => cs

theorem induct {P : RoseTree α → Prop} (h : ∀ a cs, (∀ c ∈ cs, P c) → P (node a cs)) : ∀ t, P t := by
  intro t
  refine RoseTree.rec (motive_1 := P) (motive_2 := fun cs => ∀ c ∈ cs, P c) h ?_ ?_ t
  · exact fun c hc => absurd hc List.not_mem_nil
  · exact fun c cs hc hcs => List.forall_mem_cons.mpr ⟨hc, hcs⟩

/-! ### Subtrees -/

mutual

/-- In preorder. -/
def subtrees : RoseTree α → List (RoseTree α)
  | node a cs => node a cs :: subtreesAll cs

def subtreesAll : List (RoseTree α) → List (RoseTree α)
  | [] => []
  | c :: cs => subtrees c ++ subtreesAll cs

end

theorem subtreesAll_eq : subtreesAll cs = cs.flatMap subtrees := by
  induction cs with
  | nil => rfl
  | cons c cs ih => rw [subtreesAll, ih, List.flatMap_cons]

theorem subtrees_node : (node a cs).subtrees = node a cs :: cs.flatMap subtrees := by
  rw [subtrees, subtreesAll_eq]

/-- The rounds of a walk that takes the first tree of a queue and puts its children at the end. -/
def walkFrom : Nat → List (RoseTree α) → List (RoseTree α)
  | 0, _ => []
  | _ + 1, [] => []
  | n + 1, t :: queue => t :: walkFrom n (queue ++ t.children)

def walk (t : RoseTree α) : List (RoseTree α) := walkFrom t.subtrees.length [t]

theorem walkFrom_perm {n : Nat} (hn : (cs.flatMap subtrees).length ≤ n) :
    (walkFrom n cs).Perm (cs.flatMap subtrees) := by
  induction n generalizing cs with
  | zero =>
    rw [List.length_eq_zero_iff.mp (Nat.le_zero.mp hn)]
    exact List.Perm.nil
  | succ n ih =>
    cases cs with
    | nil => exact List.Perm.nil
    | cons t queue =>
      obtain ⟨a, cs⟩ := t
      rw [List.flatMap_cons, subtrees_node, List.cons_append, List.length_cons, List.length_append] at hn
      rw [List.flatMap_cons, subtrees_node, List.cons_append, walkFrom, children]
      refine List.Perm.cons _ ((ih ?_).trans ?_)
      · rw [List.flatMap_append, List.length_append]
        omega
      · rw [List.flatMap_append]
        exact List.perm_append_comm

/-- The walk visits every subtree once. -/
theorem walk_perm (t : RoseTree α) : t.walk.Perm t.subtrees := by
  have hsingle : [t].flatMap subtrees = t.subtrees := List.flatMap_singleton subtrees t
  rw [walk, ← hsingle]
  exact walkFrom_perm (Nat.le_refl _)

/-! ### Height -/

mutual

def height : RoseTree α → Nat
  | node _ cs => heightAll cs

/-- One more than the greatest height, or zero for no trees. -/
def heightAll : List (RoseTree α) → Nat
  | [] => 0
  | c :: cs => max (height c + 1) (heightAll cs)

end

theorem heightAll_append : heightAll (cs ++ cs') = max (heightAll cs) (heightAll cs') := by
  induction cs with
  | nil => rw [List.nil_append, heightAll, Nat.zero_max]
  | cons c cs ih => rw [List.cons_append, heightAll, heightAll, ih, Nat.max_assoc]

theorem heightAll_cons : heightAll (t :: cs) = max (t.height + 1) (heightAll cs) := rfl

/-! ### Padding -/

inductive PadStep (p : α → Prop) : RoseTree α → RoseTree α → Prop
  | insert {a : α} (ha : p a) (pre ts post : List (RoseTree α)) :
    PadStep p (node a (pre ++ post)) (node a (pre ++ (ts ++ post)))
  | wrap {a : α} (ha : p a) (b : α) (pre before inner after post : List (RoseTree α)) :
    PadStep p (node a (pre ++ (inner ++ post)))
      (node a (pre ++ node b (before ++ (inner ++ after)) :: post))
  | child (a : α) (pre post : List (RoseTree α)) {c c' : RoseTree α} (h : PadStep p c c') :
    PadStep p (node a (pre ++ c :: post)) (node a (pre ++ c' :: post))

abbrev Pads (p : α → Prop) : RoseTree α → RoseTree α → Prop := Relation.ReflTransGen (PadStep p)

section
variable {p : α → Prop}

theorem PadStep.label_eq (h : PadStep p t t') : t'.label = t.label := by
  cases h <;> rfl

theorem PadStep.height_le (h : PadStep p t t') : t.height ≤ t'.height := by
  induction h with
  | insert ha pre ts post =>
    simp only [height, heightAll_append]
    omega
  | wrap ha b pre before inner after post =>
    simp only [height, heightAll_append, heightAll_cons]
    omega
  | child a pre post h ih =>
    simp only [height, heightAll_append, heightAll_cons]
    omega

theorem height_le_of_pads (h : Pads p t t') : t.height ≤ t'.height := by
  induction h with
  | refl => exact Nat.le_refl _
  | tail _ hstep ih => exact ih.trans hstep.height_le

/-- A test of subtrees that looks at the label of the root, and for a root that padding leaves alone at
the labels below it. -/
structure Untouched (p : α → Prop) (q : RoseTree α → Bool) : Prop where
  allowed : ∀ {a}, p a → ∀ cs cs', q (node a cs) = q (node a cs')
  labels : ∀ a {cs cs' : List (RoseTree α)}, cs.map label = cs'.map label → q (node a cs) = q (node a cs')

variable {q : RoseTree α → Bool}

theorem countP_node : (node a cs).subtrees.countP q =
    (cs.flatMap subtrees).countP q + if q (node a cs) = true then 1 else 0 := by
  rw [subtrees_node, List.countP_cons]

theorem PadStep.countP_le (hq : Untouched p q) (h : PadStep p t t') :
    t.subtrees.countP q ≤ t'.subtrees.countP q := by
  induction h with
  | insert ha pre ts post =>
    rw [countP_node, countP_node, hq.allowed ha (pre ++ post) (pre ++ (ts ++ post))]
    simp only [List.flatMap_append, List.countP_append]
    omega
  | wrap ha b pre before inner after post =>
    rw [countP_node, countP_node, hq.allowed ha (pre ++ (inner ++ post))
      (pre ++ node b (before ++ (inner ++ after)) :: post)]
    simp only [List.flatMap_append, List.flatMap_cons, List.countP_append, countP_node]
    omega
  | @child a pre post c c' h ih =>
    have hlabels : (pre ++ c :: post).map label = (pre ++ c' :: post).map label := by
      rw [List.map_append, List.map_append, List.map_cons, List.map_cons, h.label_eq]
    rw [countP_node, countP_node, hq.labels a hlabels]
    simp only [List.flatMap_append, List.flatMap_cons, List.countP_append]
    omega

theorem countP_le_of_pads (hq : Untouched p q) (h : Pads p t t') :
    t.subtrees.countP q ≤ t'.subtrees.countP q := by
  induction h with
  | refl => exact Nat.le_refl _
  | tail _ hstep ih => exact ih.trans (hstep.countP_le hq)

end

end RoseTree
