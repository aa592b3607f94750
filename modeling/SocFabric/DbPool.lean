import SocFabric.Lib.Lts

/-!
# The connection pool (`Infrastructure/Http/Deps.py`)

The pool of the backend is a global variable that requests, background tasks, the start and the end
of the application read and assign, each between two of its `await`s. A task that finds no pool
creates one; the connection it gets goes back to the pool that the variable names by then. Pools
stay what they should be exactly if the variable never turns away from an open pool, which a creation
and a late end of a second close can make it do, and no close is broken off over connections that are
out (`pools_kept_iff`). What a pool of `asyncpg` does is a parameter.
-/

namespace SocFabric.DbPool
open Lts

/-! ### Pools -/

/-- A pool of `asyncpg`, by what its calls may make of it: `acquire` when it hands out a connection,
`release` when it takes back one of its own, `close` when it is called, when it returns and when it
raises. A call that waits may end in any of the states that the pool comes to in between. -/
structure PoolLib (P : Type) where
  closed : P → Bool
  given : P → Nat -- how many of its connections are out
  create : P → Bool
  acquire : P → P → Bool
  release : P → P → Bool
  beginClose : P → P → Bool
  endClose : P → P → Bool
  abortClose : P → P → Bool

variable {P : Type}

/-- The documented behaviour: a closed pool hands out nothing, `close` returns once all connections
are back, and where it raises it has terminated the pool and all its connections. -/
structure PoolLib.Documented (lib : PoolLib P) : Prop where
  create {pool : P} : lib.create pool = true → lib.closed pool = false ∧ lib.given pool = 0
  acquire {pool pool' : P} : lib.acquire pool pool' = true →
    lib.closed pool = false ∧ lib.closed pool' = false ∧ lib.given pool' = lib.given pool + 1
  release {pool pool' : P} : lib.release pool pool' = true →
    lib.closed pool' = lib.closed pool ∧ lib.given pool' = lib.given pool - 1
  beginClose {pool pool' : P} : lib.beginClose pool pool' = true →
    lib.closed pool' = lib.closed pool ∧ lib.given pool' = lib.given pool
  endClose {pool pool' : P} : lib.endClose pool pool' = true →
    lib.given pool = 0 ∧ lib.closed pool' = true ∧ lib.given pool' = 0
  abortClose {pool pool' : P} : lib.abortClose pool pool' = true →
    lib.closed pool' = true ∧ lib.given pool' = 0

/-! ### Tasks -/

inductive Result
  | initialized
  | unavailable -- the answer 503, at the start of the application a warning
  | released
  | releaseFailed
  | closed
  | closeFailed
deriving DecidableEq, Repr

/-- A run of `get_db` (`user`), of `init_db_pool` at the start, or of `close_db_pool`. -/
inductive Task
  | creating (user : Bool)
  | acquiring (p : Nat)
  | serving (p : Nat)
  | closing (p : Nat)
  | done (result : Result)
deriving DecidableEq, Repr

structure State (P : Type) where
  current : Option Nat := none -- `_db_pool`
  pools : List P := []
  tasks : List Task := []

/-- A call of the pool comes with the state that it leaves the pool in, or with none where it raises. -/
inductive Act (P : Type)
  | getDb
  | initDbPool
  | created (i : Nat) (pool : Option P)
  | acquired (i : Nat) (pool : Option P)
  | release (i : Nat) (pool : P)
  | closeDbPool (pool : P)
  | closed (i : Nat) (pool : P)
  | aborted (i : Nat) (pool : P)

/-- A call makes `pool'` of the pool `p`, and the tasks go on. -/
def State.call (s : State P) (may : P → P → Bool) (p : Nat) (pool' : P) (tasks : List Task) :
    Option (State P) :=
  match s.pools[p]? with
  | some pool => if may pool pool' then some { s with pools := s.pools.set p pool', tasks } else none
  | none => none

@[simp] def step (lib : PoolLib P) (s : State P) : Act P → Option (State P)
  | .getDb =>
    match s.current with
    | none => some { s with tasks := s.tasks ++ [.creating true] }
    | some p => some { s with tasks := s.tasks ++ [.acquiring p] }
  | .initDbPool =>
    match s.current with
    | none => some { s with tasks := s.tasks ++ [.creating false] }
    | some _ => some { s with tasks := s.tasks ++ [.done .initialized] }
  | .created i pool =>
    match s.tasks[i]?, pool with
    | some (.creating _), none => some { s with tasks := s.tasks.set i (.done .unavailable) }
    | some (.creating user), some pool =>
      if lib.create pool then
        some {
          current := some s.pools.length
          pools := s.pools ++ [pool]
          tasks := s.tasks.set i (if user then .acquiring s.pools.length else .done .initialized) }
      else none
    | _, _ => none
  | .acquired i pool =>
    match s.tasks[i]?, pool with
    | some (.acquiring _), none => some { s with tasks := s.tasks.set i (.done .unavailable) }
    | some (.acquiring p), some pool' => s.call lib.acquire p pool' (s.tasks.set i (.serving p))
    | _, _ => none
  | .release i pool' =>
    match s.tasks[i]? with
    | some (.serving p) =>
      -- another pool does not know the connection, and no pool has no `release`
      if s.current = some p then s.call lib.release p pool' (s.tasks.set i (.done .released))
      else some { s with tasks := s.tasks.set i (.done .releaseFailed) }
    | _ => none
  | .closeDbPool pool' =>
    match s.current with
    | none => some { s with tasks := s.tasks ++ [.done .closed] }
    | some p =>
      match s.pools[p]? with
      | none => none
      | some pool =>
        -- the `close` of a closed pool returns at once
        if lib.closed pool then some { s with current := none, tasks := s.tasks ++ [.done .closed] }
        else s.call lib.beginClose p pool' (s.tasks ++ [.closing p])
  | .closed i pool' =>
    match s.tasks[i]? with
    | some (.closing p) =>
      (s.call lib.endClose p pool' (s.tasks.set i (.done .closed))).map ({ · with current := none })
    | _ => none
  | .aborted i pool' =>
    match s.tasks[i]? with
    | some (.closing p) => s.call lib.abortClose p pool' (s.tasks.set i (.done .closeFailed))
    | _ => none

/-! ### What is kept -/

/-- All pools but the current one are closed, of each pool as many connections are out as tasks serve
with one, and these tasks will give theirs back to the pool it is from. -/
structure Kept (lib : PoolLib P) (s : State P) : Prop where
  current (p : Nat) : s.current = some p → p < s.pools.length
  others (p : Nat) (pool : P) : s.pools[p]? = some pool → s.current ≠ some p → lib.closed pool = true
  idle (p : Nat) (pool : P) : s.pools[p]? = some pool → lib.closed pool = true → lib.given pool = 0
  given (p : Nat) (pool : P) : s.pools[p]? = some pool → lib.given pool = s.tasks.count (.serving p)
  serving (p : Nat) : .serving p ∈ s.tasks → s.current = some p

/-- The variable names no open pool. -/
def Unused (lib : PoolLib P) (s : State P) : Prop :=
  ∀ (p : Nat) (pool : P), s.current = some p → s.pools[p]? = some pool → lib.closed pool = true

/-- A creation ends while there is no open pool, a close while there is none but its own, and a close
is broken off while no task serves with a connection. -/
def InTurn (lib : PoolLib P) (s : State P) : Act P → Prop
  | .created _ (some _) => Unused lib s
  | .closed i _ => Unused lib s ∨ ∃ p, s.current = some p ∧ s.tasks[i]? = some (.closing p)
  | .aborted i _ => ∀ p, s.tasks[i]? = some (.closing p) → .serving p ∉ s.tasks
  | _ => True

section
variable {lib : PoolLib P} {s s' : State P} {i p : Nat} {old : Task} {tasks : List Task} {pool pool' : P}
  {may : P → P → Bool}

theorem State.of_call (h : s.call may p pool' tasks = some s') :
    ∃ pool, s.pools[p]? = some pool ∧ may pool pool' = true ∧
      s' = { s with pools := s.pools.set p pool', tasks } := by
  unfold State.call at h
  split at h
  · rename_i pool hpool
    split at h <;> cases h
    exact ⟨pool, hpool, ‹_›, rfl⟩
  · cases h

theorem count_set (h : s.tasks[i]? = some old) (new t : Task) :
    (s.tasks.set i new).count t + (if old = t then 1 else 0) = s.tasks.count t + if new = t then 1 else 0 := by
  obtain ⟨hi, rfl⟩ := List.getElem?_eq_some_iff.mp h
  have hpos : s.tasks[i] = t → 0 < s.tasks.count t := fun heq =>
    List.count_pos_iff.mpr (heq ▸ List.getElem_mem hi)
  rw [List.count_set hi]
  simp only [beq_iff_eq]
  split
  · rename_i heq
    have := hpos heq
    omega
  · omega

/-- A task goes on from a point to another one that are both not counted. -/
theorem count_move (h : s.tasks[i]? = some old) (new t : Task) (hold : old ≠ t) (hnew : new ≠ t) :
    (s.tasks.set i new).count t = s.tasks.count t := by
  have hcount := count_set h new t
  rwa [if_neg hold, if_neg hnew] at hcount

theorem count_enter (new t : Task) (hnew : new ≠ t) : (s.tasks ++ [new]).count t = s.tasks.count t := by
  simp [hnew]

theorem getElem?_set_cases {pools : List P} {q : Nat} {qpool : P} (hpool : pools[p]? = some pool)
    (hq : (pools.set p pool')[q]? = some qpool) : q = p ∧ qpool = pool' ∨ q ≠ p ∧ pools[q]? = some qpool := by
  have hlt := (List.getElem?_eq_some_iff.mp hpool).1
  by_cases hqp : q = p
  · subst hqp
    exact .inl ⟨rfl, (Option.some.inj ((List.getElem?_set_self hlt).symm.trans hq)).symm⟩
  · exact .inr ⟨hqp, by rwa [List.getElem?_set_ne (Ne.symm hqp)] at hq⟩

namespace Kept

theorem init : Kept lib {} where
  current _ h := by cases h
  others _ _ h := by cases h
  idle _ _ h := by cases h
  given _ _ h := by cases h
  serving _ h := by cases h

/-- A step that no pool takes part in. -/
theorem of_counts (hk : Kept lib s) (hserving : ∀ q, tasks.count (.serving q) = s.tasks.count (.serving q)) :
    Kept lib { s with tasks } where
  current := hk.current
  others := hk.others
  idle := hk.idle
  given q pool hpool := (hk.given q pool hpool).trans (hserving q).symm
  serving q hmem := hk.serving q (List.count_pos_iff.mp (hserving q ▸ List.count_pos_iff.mpr hmem))

/-- A step of the current pool that stays as open as it was. -/
theorem of_change (hk : Kept lib s) (hp : s.current = some p) (hpool : s.pools[p]? = some pool)
    (hidle : lib.closed pool' = true → lib.given pool' = 0)
    (hgiven : lib.given pool' = tasks.count (.serving p))
    (hserving : ∀ q, q ≠ p → tasks.count (.serving q) = s.tasks.count (.serving q)) :
    Kept lib { s with pools := s.pools.set p pool', tasks } := by
  refine ⟨fun q hq => ?_, fun q qpool hq hne => ?_, fun q qpool hq hclosed => ?_, fun q qpool hq => ?_,
    fun q hmem => ?_⟩
  · rw [List.length_set]
    exact hk.current q hq
  · rcases getElem?_set_cases hpool hq with ⟨rfl, -⟩ | ⟨-, hq⟩
    · exact absurd hp hne
    · exact hk.others q qpool hq hne
  · rcases getElem?_set_cases hpool hq with ⟨rfl, rfl⟩ | ⟨-, hq⟩
    · exact hidle hclosed
    · exact hk.idle q qpool hq hclosed
  · rcases getElem?_set_cases hpool hq with ⟨rfl, rfl⟩ | ⟨hqp, hq⟩
    · exact hgiven
    · exact (hk.given q qpool hq).trans (hserving q hqp).symm
  · by_cases hqp : q = p
    · exact hqp ▸ hp
    · exact hk.serving q (List.count_pos_iff.mp (hserving q hqp ▸ List.count_pos_iff.mpr hmem))

/-- Where no connection of the current pool is out, no task serves. -/
theorem not_serving (hk : Kept lib s)
    (hidle : ∀ (p : Nat) (pool : P), s.current = some p → s.pools[p]? = some pool → lib.given pool = 0)
    (q : Nat) : .serving q ∉ s.tasks := by
  intro hmem
  have hcurrent := hk.serving q hmem
  have hlt := hk.current q hcurrent
  have hzero := hidle q _ hcurrent (List.getElem?_eq_getElem hlt)
  rw [hk.given q _ (List.getElem?_eq_getElem hlt)] at hzero
  exact List.count_eq_zero.mp hzero hmem

theorem not_serving_of_unused (hk : Kept lib s) (h : Unused lib s) (q : Nat) : .serving q ∉ s.tasks :=
  hk.not_serving (fun p pool hp hpool => hk.idle p pool hpool (h p pool hp hpool)) q

/-- The variable names no pool any more. -/
theorem of_none {pools : List P} (hclosed : ∀ (p : Nat) (pool : P), pools[p]? = some pool →
      lib.closed pool = true ∧ lib.given pool = 0) (hserving : ∀ p, .serving p ∉ tasks) :
    Kept lib ⟨none, pools, tasks⟩ where
  current _ h := by cases h
  others p pool hpool _ := (hclosed p pool hpool).1
  idle p pool hpool _ := (hclosed p pool hpool).2
  given p pool hpool := (hclosed p pool hpool).2.trans (List.count_eq_zero.mpr (hserving p)).symm
  serving p hmem := absurd hmem (hserving p)

/-- While the variable names no open pool, all pools are closed. -/
theorem all_closed (hk : Kept lib s) (h : Unused lib s) (hpool : s.pools[p]? = some pool) :
    lib.closed pool = true ∧ lib.given pool = 0 := by
  have hclosed : lib.closed pool = true := by
    by_cases hp : s.current = some p
    · exact h p pool hp hpool
    · exact hk.others p pool hpool hp
  exact ⟨hclosed, hk.idle p pool hpool hclosed⟩

/-- The first pool of all, or one after closed ones. -/
theorem append (hk : Kept lib s) (h : Unused lib s) (hopen : lib.closed pool = false)
    (hgiven : lib.given pool = 0) (hserving : ∀ q, .serving q ∉ tasks) :
    Kept lib ⟨some s.pools.length, s.pools ++ [pool], tasks⟩ := by
  have hold {q : Nat} {qpool : P} (hq : (s.pools ++ [pool])[q]? = some qpool) :
      q = s.pools.length ∧ qpool = pool ∨ s.pools[q]? = some qpool := by
    rw [List.getElem?_append] at hq
    split_ifs at hq with hlt
    · exact .inr hq
    · rw [List.getElem?_singleton] at hq
      split_ifs at hq
      exact .inl ⟨by omega, (Option.some.inj hq).symm⟩
  refine ⟨fun q hq => ?_, fun q qpool hq hne => ?_, fun q qpool hq hclosed => ?_, fun q qpool hq => ?_,
    fun q hmem => absurd hmem (hserving q)⟩
  · cases hq
    simp
  · rcases hold hq with ⟨rfl, -⟩ | hq
    · exact absurd rfl hne
    · exact (hk.all_closed h hq).1
  · rcases hold hq with ⟨-, rfl⟩ | hq
    · exact hgiven
    · exact hk.idle q qpool hq hclosed
  · rw [List.count_eq_zero.mpr (hserving q)]
    rcases hold hq with ⟨-, rfl⟩ | hq
    · exact hgiven
    · exact (hk.all_closed h hq).2

end Kept

/-! ### Steps -/

theorem kept_getDb (hs : step lib s .getDb = some s') (hk : Kept lib s) : Kept lib s' := by
  simp only [step] at hs
  split at hs <;> cases hs <;> exact hk.of_counts fun _ => count_enter _ _ nofun

theorem kept_initDbPool (hs : step lib s .initDbPool = some s') (hk : Kept lib s) : Kept lib s' := by
  simp only [step] at hs
  split at hs <;> cases hs <;> exact hk.of_counts fun _ => count_enter _ _ nofun

/-- A creation that ends after another one replaces an open pool, which nothing closes then. -/
theorem kept_created (hlib : lib.Documented) {created : Option P}
    (hs : step lib s (.created i created) = some s') (hk : Kept lib s) :
    Kept lib s' ↔ InTurn lib s (.created i created) := by
  simp only [step] at hs
  split at hs
  · rename_i hi
    cases hs
    exact iff_of_true (hk.of_counts fun _ => count_move hi _ _ nofun nofun) trivial
  · rename_i user pool hi
    have hcreate : lib.create pool = true := by
      by_contra hno
      rw [if_neg hno] at hs
      cases hs
    rw [if_pos hcreate] at hs
    cases hs
    obtain ⟨hopen, hgiven⟩ := hlib.create hcreate
    constructor
    · intro hk' p old hp hold
      have hlt := (List.getElem?_eq_some_iff.mp hold).1
      refine hk'.others p old ?_ fun heq => Nat.ne_of_lt hlt (Option.some.inj heq).symm
      rw [List.getElem?_append_left hlt]
      exact hold
    · intro hunused
      refine hk.append hunused hopen hgiven fun q hmem => ?_
      have hcount := count_move hi (if user then .acquiring s.pools.length else .done .initialized)
        (.serving q) nofun (by split <;> nofun)
      exact hk.not_serving_of_unused hunused q
        (List.count_pos_iff.mp (hcount ▸ List.count_pos_iff.mpr hmem))
  · cases hs

/-- Only the current pool is open and can hand out a connection. -/
theorem kept_acquired (hlib : lib.Documented) {acquired : Option P}
    (hs : step lib s (.acquired i acquired) = some s') (hk : Kept lib s) : Kept lib s' := by
  simp only [step] at hs
  split at hs
  · rename_i hi
    cases hs
    exact hk.of_counts fun _ => count_move hi _ _ nofun nofun
  · rename_i p pool' hi
    obtain ⟨pool, hpool, hacquire, rfl⟩ := State.of_call hs
    obtain ⟨hopen, hopen', hgiven⟩ := hlib.acquire hacquire
    have hp : s.current = some p := by
      by_contra hne
      cases hopen.symm.trans (hk.others p pool hpool hne)
    have hcount := count_set hi (.serving p) (.serving p)
    have hserving := hk.given p pool hpool
    refine hk.of_change hp hpool (fun hclosed => ?_) ?_ fun q hq => count_move hi _ _ nofun ?_
    · cases hopen'.symm.trans hclosed
    · simp at hcount
      omega
    · exact fun heq => hq (by cases heq; rfl)
  · cases hs

theorem kept_release (hlib : lib.Documented) (hs : step lib s (.release i pool') = some s')
    (hk : Kept lib s) : Kept lib s' := by
  simp only [step] at hs
  split at hs
  · rename_i p hi
    have hp : s.current = some p := hk.serving p (List.mem_of_getElem? hi)
    rw [if_pos hp] at hs
    obtain ⟨pool, hpool, hrelease, rfl⟩ := State.of_call hs
    obtain ⟨hclosed, hgiven⟩ := hlib.release hrelease
    have hcount := count_set hi (.done .released) (.serving p)
    have hserving := hk.given p pool hpool
    refine hk.of_change hp hpool (fun hclosed' => ?_) ?_ fun q hq => count_move hi _ _ ?_ nofun
    · rw [hgiven, hk.idle p pool hpool (hclosed ▸ hclosed')]
    · simp at hcount
      omega
    · exact fun heq => hq (by cases heq; rfl)
  · cases hs

theorem kept_closeDbPool (hlib : lib.Documented) (hs : step lib s (.closeDbPool pool') = some s')
    (hk : Kept lib s) : Kept lib s' := by
  simp only [step] at hs
  split at hs
  · cases hs
    exact hk.of_counts fun _ => count_enter _ _ nofun
  · rename_i p hp
    split at hs
    · cases hs
    · rename_i pool hpool
      split_ifs at hs with hclosed
      · cases hs
        have hunused : Unused lib s := by
          intro q qpool hq hqpool
          cases hp.symm.trans hq
          cases hpool.symm.trans hqpool
          exact hclosed
        refine Kept.of_none (fun q qpool hq => hk.all_closed hunused hq) fun q hmem => ?_
        have hcount := count_enter (s := s) (.done .closed) (.serving q) nofun
        exact hk.not_serving_of_unused hunused q
          (List.count_pos_iff.mp (hcount ▸ List.count_pos_iff.mpr hmem))
      · obtain ⟨pool₀, hpool₀, hbegin, rfl⟩ := State.of_call hs
        cases hpool.symm.trans hpool₀
        obtain ⟨hsame, hgiven⟩ := hlib.beginClose hbegin
        refine hk.of_change hp hpool (fun hclosed' => absurd (hsame.symm.trans hclosed') hclosed) ?_
          fun q _ => count_enter _ _ nofun
        exact hgiven.trans ((hk.given p pool hpool).trans (count_enter (.closing p) (.serving p) nofun).symm)

/-- A close that ends after another one, and after a creation, takes the variable from the new pool. -/
theorem kept_closed (hlib : lib.Documented) (hs : step lib s (.closed i pool') = some s')
    (hk : Kept lib s) : Kept lib s' ↔ InTurn lib s (.closed i pool') := by
  simp only [step] at hs
  split at hs
  · rename_i p hi
    obtain ⟨t, hcall, rfl⟩ := Option.map_eq_some_iff.mp hs
    obtain ⟨pool, hpool, hend, rfl⟩ := State.of_call hcall
    obtain ⟨hgiven, hclosed', hgiven'⟩ := hlib.endClose hend
    constructor
    · intro hk'
      by_cases hp : s.current = some p
      · exact .inr ⟨p, hp, hi⟩
      · refine .inl fun q qpool hq hqpool => hk'.others q qpool ?_ nofun
        have hpq : p ≠ q := fun heq => hp (heq ▸ hq)
        exact (List.getElem?_set_ne hpq).trans hqpool
    · intro hturn
      -- in both cases every pool but `p` is closed, and no task serves
      have hothers : ∀ (q : Nat) (qpool : P), s.pools[q]? = some qpool → q ≠ p →
          lib.closed qpool = true ∧ lib.given qpool = 0 := by
        intro q qpool hq hqp
        rcases hturn with hunused | ⟨r, hr, hir⟩
        · exact hk.all_closed hunused hq
        · cases hi.symm.trans hir
          have hclosed := hk.others q qpool hq fun heq => hqp (Option.some.inj (hr.symm.trans heq)).symm
          exact ⟨hclosed, hk.idle q qpool hq hclosed⟩
      refine Kept.of_none (fun q qpool hq => ?_) fun q hmem => ?_
      · rcases getElem?_set_cases hpool hq with ⟨-, rfl⟩ | ⟨hqp, hq⟩
        · exact ⟨hclosed', hgiven'⟩
        · exact hothers q qpool hq hqp
      · have hcount := count_move hi (.done .closed) (.serving q) nofun nofun
        refine hk.not_serving (fun r rpool _ hr => ?_) q
          (List.count_pos_iff.mp (hcount ▸ List.count_pos_iff.mpr hmem))
        by_cases hrp : r = p
        · subst hrp
          cases hpool.symm.trans hr
          exact hgiven
        · exact (hothers r rpool hr hrp).2
  · cases hs

/-- A close that is broken off takes their connections from the tasks that serve. -/
theorem kept_aborted (hlib : lib.Documented) (hs : step lib s (.aborted i pool') = some s')
    (hk : Kept lib s) : Kept lib s' ↔ InTurn lib s (.aborted i pool') := by
  simp only [step] at hs
  split at hs
  · rename_i p hi
    obtain ⟨pool, hpool, habort, rfl⟩ := State.of_call hs
    obtain ⟨hclosed', hgiven'⟩ := hlib.abortClose habort
    have hcount (q : Nat) := count_move hi (.done .closeFailed) (.serving q) nofun nofun
    have hset : (s.pools.set p pool')[p]? = some pool' :=
      List.getElem?_set_self (List.getElem?_eq_some_iff.mp hpool).1
    constructor
    · intro hk' q hq
      cases hi.symm.trans hq
      exact List.count_eq_zero.mp ((hcount p).symm.trans ((hk'.given p pool' hset).symm.trans hgiven'))
    · intro hturn
      have hzero : (s.tasks.set i (.done .closeFailed)).count (.serving p) = 0 :=
        (hcount p).trans (List.count_eq_zero.mpr (hturn p hi))
      by_cases hp : s.current = some p
      · exact hk.of_change hp hpool (fun _ => hgiven') (hgiven'.trans hzero.symm) fun q _ => hcount q
      · refine ⟨fun q hq => ?_, fun q qpool hq hne => ?_, fun q qpool hq hclosed => ?_, fun q qpool hq => ?_,
          fun q hmem => ?_⟩
        · rw [List.length_set]
          exact hk.current q hq
        · rcases getElem?_set_cases hpool hq with ⟨-, rfl⟩ | ⟨-, hq⟩
          · exact hclosed'
          · exact hk.others q qpool hq hne
        · rcases getElem?_set_cases hpool hq with ⟨-, rfl⟩ | ⟨-, hq⟩
          · exact hgiven'
          · exact hk.idle q qpool hq hclosed
        · rcases getElem?_set_cases hpool hq with ⟨rfl, rfl⟩ | ⟨-, hq⟩
          · exact hgiven'.trans hzero.symm
          · exact (hk.given q qpool hq).trans (hcount q).symm
        · exact hk.serving q (List.count_pos_iff.mp (hcount q ▸ List.count_pos_iff.mpr hmem))
  · cases hs

theorem kept_step (hlib : lib.Documented) {a : Act P} (hs : step lib s a = some s') (hk : Kept lib s) :
    Kept lib s' ↔ InTurn lib s a := by
  cases a with
  | getDb => exact iff_of_true (kept_getDb hs hk) trivial
  | initDbPool => exact iff_of_true (kept_initDbPool hs hk) trivial
  | created i pool => exact kept_created hlib hs hk
  | acquired i pool => exact iff_of_true (kept_acquired hlib hs hk) trivial
  | release i pool => exact iff_of_true (kept_release hlib hs hk) trivial
  | closeDbPool pool => exact iff_of_true (kept_closeDbPool hlib hs hk) trivial
  | closed i pool => exact kept_closed hlib hs hk
  | aborted i pool => exact kept_aborted hlib hs hk

end

/-! ### Runs -/

/-- In a run, the pools are kept in every state exactly if every creation and every close ends in
turn. -/
theorem pools_kept_iff (lib : PoolLib P) (hlib : lib.Documented) (acts : List (Act P)) (s : State P)
    (h : run (step lib) free {} acts = some s) :
    (∀ past rest t, acts = past ++ rest → run (step lib) free {} past = some t → Kept lib t) ↔
      ∀ past a rest t, acts = past ++ a :: rest → run (step lib) free {} past = some t → InTurn lib t a :=
  forall_reached_iff h .init fun hs hk => kept_step hlib hs hk

/-! ### A pool -/

structure AsyncPool where
  closing : Bool := false
  closed : Bool := false
  given : Nat := 0
deriving DecidableEq

/-- A pool that serves waiting tasks until it is closed, and may be closed by several tasks. -/
def asyncpg : PoolLib AsyncPool where
  closed := (·.closed)
  given := (·.given)
  create pool := pool = {}
  acquire pool pool' := !pool.closed && pool' = { pool with given := pool.given + 1 }
  release pool pool' := pool' = { pool with given := pool.given - 1 }
  beginClose pool pool' := pool' = { pool with closing := true }
  endClose pool pool' := pool.given = 0 && pool' = { pool with closing := false, closed := true }
  abortClose _ pool' := pool' = { closed := true }

theorem documented_asyncpg : asyncpg.Documented := by
  constructor <;> simp +contextual [asyncpg]

/-- The database is not up at the start, and the first request creates the pool. -/
def lateDatabase : List (Act AsyncPool) :=
  [.initDbPool, .created 0 none, .getDb, .created 1 (some {}), .acquired 1 (some { given := 1 })]

theorem late_database_kept :
    ∃ s, run (step asyncpg) free {} lateDatabase = some s ∧ s.tasks = [.done .unavailable, .serving 0] ∧
      Kept asyncpg s := by
  refine ⟨_, rfl, rfl, (pools_kept_iff asyncpg documented_asyncpg lateDatabase _ rfl).mpr ?_ lateDatabase [] _
    rfl rfl⟩
  intro past a rest t hacts ht
  match past, hacts with
  | [], hacts | [_], hacts | [_, _], hacts | [_, _, _, _], hacts =>
    cases hacts
    trivial
  | [_, _, _], hacts =>
    cases hacts
    cases ht
    intro p pool hp
    cases hp
  | _ :: _ :: _ :: _ :: _ :: past, hacts => simp [lateDatabase] at hacts

/-- The second request comes before the first has its pool. -/
def twoCreations : List (Act AsyncPool) :=
  [.getDb, .getDb, .created 0 (some {}), .acquired 0 (some { given := 1 }), .created 1 (some {}),
    .acquired 1 (some { given := 1 }), .release 0 {}]

theorem second_creation_leaks :
    ∃ s, run (step asyncpg) free {} twoCreations = some s ∧ s.tasks[0]? = some (.done .releaseFailed) ∧
      s.pools.map (·.given) = [1, 1] ∧ ¬ Kept asyncpg s := by
  refine ⟨_, rfl, rfl, rfl, fun hk => ?_⟩
  have hgiven := hk.given 0 _ rfl
  revert hgiven
  decide

end SocFabric.DbPool
