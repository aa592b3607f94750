import SocFabric.AgentTasks
import SocFabric.Lib.KeyedStore

/-!
# How often a task is executed, and what changes its row

A task is executed at most once for each time it is handed out, by the one webhook push of its
`assign_agent_task` call or by a poll that finds it pending (`executions_bounded`). The hub leaves a
task pending until a result is recorded, so a push that times out after the agent ran it, or a poll
whose result is lost, hands it out again (`executed_twice`). A result is recorded whatever the row
holds: a row that is not pending changes only by a further result for it, and is polled again only
if such a result says `pending` (`terminal_rows_change_by_results`).
-/

namespace SocFabric.AgentTasks
open Agent ActionApi

variable {codec : Codec} {s s' : State} {a : Act} {e : String} {t : Nat}

/-! ### What a step does -/

def hasId (t : Nat) (rows : List Row) : Nat := rows.countP (·.taskId = t)

/-- How often the agent's loop will still execute a task it has fetched. -/
def Poller.held (t : Nat) : Poller → Nat
  | .idle => 0
  | .answered tasks => hasId t tasks
  | .holding tasks => hasId t tasks
  | .submitting _ _ rest => hasId t rest

/-- The copies of a task that are on their way to the endpoint's agent or wait there. -/
def State.carried (s : State) (e : String) (t : Nat) : Nat :=
  s.pushes.countP (fun p => p.endpointId = e ∧ p.payload.taskId = t) + (s.pollers e).held t

/-- Request `i` is about to push the task. -/
def State.Posts (s : State) (i : Nat) (e : String) (t : Nat) : Prop :=
  ∃ p, s.requests i = some (.post e p) ∧ p.taskId = t

/-- The act records a result with this status in the rows that `owned` picks. -/
inductive Writes (s : State) : Act → (Row → Bool) → String → Prop
  | webhook {i : Nat} {taskId : Nat} {result : TaskResult} {d : AssignDraw} :
      s.requests i = some (.update taskId result) →
        Writes s (.advance i d) (fun row => row.taskId = taskId) result.status
  | submit {k : Nat} {now : Int} {r : Submit} : s.submits[k]? = some r →
      Writes s (.commitSubmit k now) (fun row => row.taskId = r.taskId ∧ row.endpointId = r.endpointId) r.status

/-- The effects of a step on the rows, the log and the copies in flight. -/
inductive Effect (s : State) (a : Act) (s' : State) : Prop
  | quiet : s'.tasks = s.tasks → s'.log = s.log → (∀ e t, s'.carried e t ≤ s.carried e t) →
      (∀ i e t, s'.Posts i e t → s.Posts i e t) → Effect s a s'
  | insert (i : Nat) (row : Row) : row.taskId ∉ s.tasks.map (·.taskId) → s'.tasks = s.tasks ++ [row] →
      s'.log = s.log → (∀ e t, s'.carried e t ≤ s.carried e t) →
      (∀ j e t, s'.Posts j e t → s.Posts j e t ∨ (j = i ∧ e = row.endpointId ∧ t = row.taskId)) → Effect s a s'
  | push (i : Nat) (e : String) (t : Nat) (d : AssignDraw) : a = .advance i d → s.Posts i e t →
      s'.tasks = s.tasks → s'.log = s.log ++ [.pushed e t] →
      (∀ e' t', s'.carried e' t' = s.carried e' t' + if e' = e ∧ t' = t then 1 else 0) →
      (∀ j e' t', s'.Posts j e' t' → s.Posts j e' t' ∧ j ≠ i) → Effect s a s'
  | record (owned : Row → Bool) (status : String) (details : Json) (now : Int) : Writes s a owned status →
      s'.tasks = complete owned status details now s.tasks → s'.log = s.log →
      (∀ e t, s'.carried e t ≤ s.carried e t) → (∀ i e t, s'.Posts i e t → s.Posts i e t) → Effect s a s'
  | execute (e : String) (t : Nat) : s'.tasks = s.tasks → s'.log = s.log ++ [.executed e t] →
      (∀ e' t', s'.carried e' t' + (if e' = e ∧ t' = t then 1 else 0) = s.carried e' t') →
      (∀ i e t, s'.Posts i e t → s.Posts i e t) → Effect s a s'
  | poll (e : String) (n : Nat) : a = .poll e n → s'.tasks = s.tasks →
      s'.log = s.log ++ (selectPending e n s.tasks).map (fun row => .polled e row.taskId) →
      (∀ e' t', s'.carried e' t' = s.carried e' t' + if e' = e then hasId t' (selectPending e n s.tasks) else 0) →
      (∀ i e t, s'.Posts i e t → s.Posts i e t) → Effect s a s'

/-! ### Requests and pollers -/

theorem posts_setRequest {i j : Nat} (pc : AssignPc) (h : (s.setRequest i pc).Posts j e t) :
    (j ≠ i ∧ s.Posts j e t) ∨ (j = i ∧ ∃ p, pc = .post e p ∧ p.taskId = t) := by
  obtain ⟨p, hp, ht⟩ := h
  by_cases hj : j = i
  · subst hj
    simp only [State.setRequest, Function.update_self] at hp
    exact .inr ⟨rfl, p, Option.some.inj hp, ht⟩
  · simp only [State.setRequest, Function.update_of_ne hj] at hp
    exact .inl ⟨hj, p, hp, ht⟩

/-- A request that moves on to anything but a push adds none. -/
theorem posts_setRequest_of_ne {i j : Nat} (pc : AssignPc) (hpc : ∀ e p, pc ≠ .post e p)
    (h : (s.setRequest i pc).Posts j e t) : s.Posts j e t := by
  rcases posts_setRequest pc h with ⟨-, h⟩ | ⟨-, p, hp, -⟩
  · exact h
  · exact absurd hp (hpc e p)

theorem carried_setPoller (e' : String) (p : Poller) :
    (s.setPoller e' p).carried e t + (if e = e' then (s.pollers e').held t else 0) =
      s.carried e t + if e = e' then p.held t else 0 := by
  unfold State.carried State.setPoller
  by_cases he : e = e'
  · subst he
    simp only [Function.update_self, if_pos]
    omega
  · simp only [Function.update_of_ne he, if_neg he]

theorem carried_setPoller_le {e' : String} {p : Poller} (h : ∀ t, p.held t ≤ (s.pollers e').held t) :
    (s.setPoller e' p).carried e t ≤ s.carried e t := by
  have hsum := carried_setPoller (s := s) (e := e) (t := t) e' p
  have hle := h t
  split at hsum <;> omega

/-- The agent's loop lets go of the task that it executes. -/
theorem carried_execute {e' : String} {row : Row} {rest : List Row}
    (h : s.pollers e' = .holding (row :: rest)) (result : TaskResult) :
    (s.setPoller e' (.submitting row.taskId result rest)).carried e t +
      (if e = e' ∧ t = row.taskId then 1 else 0) = s.carried e t := by
  have hsum := carried_setPoller (s := s) (e := e) (t := t) e' (.submitting row.taskId result rest)
  rw [h] at hsum
  simp only [Poller.held, hasId, List.countP_cons, decide_eq_true_eq] at hsum
  by_cases he : e = e'
  · simp only [he, if_true, true_and, @eq_comm _ t] at hsum ⊢
    omega
  · simp only [he, if_false, false_and] at hsum ⊢
    omega

theorem quiet_setRequest {i : Nat} {pc : AssignPc} (hpc : ∀ e p, pc ≠ .post e p) :
    Effect s a (s.setRequest i pc) :=
  .quiet rfl rfl (fun _ _ => le_rfl) fun _ _ _ => posts_setRequest_of_ne pc hpc

theorem quiet_setPoller {e' : String} {p : Poller} (h : ∀ t, p.held t ≤ (s.pollers e').held t) :
    Effect s a (s.setPoller e' p) :=
  .quiet rfl rfl (fun _ _ => carried_setPoller_le h) fun _ _ _ h => h

/-! ### One step -/

theorem countP_eraseIdx {α : Type*} (p : α → Bool) {xs : List α} {k : Nat} {x : α} (h : xs[k]? = some x) :
    (xs.eraseIdx k).countP p + (if p x then 1 else 0) = xs.countP p := by
  induction xs generalizing k with
  | nil => simp at h
  | cons y ys ih =>
    cases k with
    | zero =>
      obtain rfl : y = x := by simpa using h
      rw [List.eraseIdx_cons_zero, List.countP_cons]
    | succ k =>
      have hk : ys[k]? = some x := by simpa using h
      rw [List.eraseIdx_cons_succ, List.countP_cons, List.countP_cons, ← ih hk]
      omega

theorem stepAssign_effect {i : Nat} {d : AssignDraw} {pc : AssignPc} (hi : s.requests i = some pc)
    (h : stepAssign s i d pc = some s') : Effect s (.advance i d) s' := by
  cases pc with
  | select endpointId req =>
    simp only [stepAssign] at h
    split at h
    · cases h
      exact quiet_setRequest nofun
    · split at h <;> cases h <;> exact quiet_setRequest nofun
  | insert endpointId req tenantId url =>
    simp only [stepAssign] at h
    split at h
    · cases h
      exact quiet_setRequest nofun
    · rename_i hok
      obtain ⟨-, hnew⟩ := not_or.mp hok
      split at h <;> cases h
      · refine .insert i _ hnew rfl rfl (fun _ _ => le_rfl) fun j e t hj => .inl ?_
        exact posts_setRequest_of_ne (.replied _) nofun hj
      · refine .insert i _ hnew rfl rfl (fun _ _ => le_rfl) fun j e t hj => ?_
        rcases posts_setRequest _ hj with ⟨-, hj⟩ | ⟨rfl, p, hp, rfl⟩
        · exact .inl hj
        · cases hp
          exact .inr ⟨rfl, rfl, rfl⟩
  | post endpointId payload =>
    simp only [stepAssign] at h
    split at h <;> cases h
    · exact quiet_setRequest nofun
    · refine .push i endpointId payload.taskId d rfl ⟨payload, hi, rfl⟩ rfl rfl ?_ ?_
      · intro e t
        simp only [State.carried, State.setRequest, List.countP_append, List.countP_singleton,
          decide_eq_true_eq, @eq_comm _ endpointId, @eq_comm _ payload.taskId]
        omega
      · intro j e t hj
        rcases posts_setRequest (.wait payload.taskId) hj with ⟨hne, hj⟩ | ⟨-, p, hp, -⟩
        · exact ⟨hj, hne⟩
        · cases hp
  | update taskId result =>
    simp only [stepAssign] at h
    split at h <;> cases h
    · exact quiet_setRequest nofun
    · exact .record _ _ _ d.now (.webhook hi) rfl rfl (fun _ _ => le_rfl) fun _ _ _ =>
        posts_setRequest_of_ne (.replied _) nofun
  | wait taskId => cases h
  | replied reply => cases h

theorem step_effect (h : step codec s a = some s') : Effect s a s' := by
  cases a with
  | assign i endpointId req =>
    simp only [step] at h
    split at h <;> cases h
    exact quiet_setRequest nofun
  | advance i d =>
    obtain ⟨pc, hpc, h⟩ := Option.bind_eq_some_iff.mp h
    exact stepAssign_effect hpc h
  | receive i =>
    simp only [step] at h
    split at h <;> cases h
    exact quiet_setRequest nofun
  | timeout i =>
    simp only [step] at h
    split at h <;> cases h
    exact quiet_setRequest nofun
  | executePush k env =>
    simp only [step] at h
    split at h <;> cases h
    rename_i p hp
    refine .execute p.endpointId p.payload.taskId rfl rfl ?_ fun _ _ _ h => h
    intro e t
    have hcount := countP_eraseIdx (fun p : Push => p.endpointId = e ∧ p.payload.taskId = t) hp
    simp only [State.carried, decide_eq_true_eq, @eq_comm _ e, @eq_comm _ t] at hcount ⊢
    omega
  | losePush k =>
    cases h
    refine .quiet rfl rfl (fun e t => ?_) fun _ _ _ h => h
    exact Nat.add_le_add_right (List.Sublist.countP_le (List.eraseIdx_sublist _ _)) _
  | poll endpointId n =>
    simp only [step] at h
    split at h <;> cases h
    rename_i hidle
    refine .poll endpointId n rfl rfl rfl ?_ fun _ _ _ h => h
    intro e t
    have hsum := carried_setPoller (s := s) (e := e) (t := t) endpointId
      (.answered (selectPending endpointId n s.tasks))
    rw [hidle] at hsum
    simp only [Poller.held, ite_self, Nat.add_zero] at hsum
    exact hsum
  | pollDelivered endpointId =>
    simp only [step] at h
    split at h <;> cases h
    rename_i tasks htasks
    exact quiet_setPoller fun t => by rw [htasks]; exact le_rfl
  | pollLost endpointId =>
    simp only [step] at h
    split at h <;> cases h
    exact quiet_setPoller fun t => Nat.zero_le _
  | execute endpointId env =>
    simp only [step] at h
    split at h
    · rename_i row rest hheld
      cases h
      exact .execute endpointId row.taskId rfl rfl (fun e t => carried_execute hheld _) fun _ _ _ h => h
    · cases h
      exact quiet_setPoller fun t => Nat.zero_le _
    · cases h
  | submit endpointId =>
    simp only [step] at h
    split at h <;> cases h
    rename_i taskId result rest hsub
    refine .quiet rfl rfl (fun e t => ?_) fun _ _ _ h => h
    exact carried_setPoller_le (p := .holding rest) fun t => by rw [hsub]; exact le_rfl
  | requestSubmit r =>
    cases h
    exact .quiet rfl rfl (fun _ _ => le_rfl) fun _ _ _ h => h
  | commitSubmit k now =>
    simp only [step] at h
    split at h <;> cases h
    rename_i r hr
    exact .record _ _ _ now (.submit hr) rfl rfl (fun _ _ => le_rfl) fun _ _ _ h => h
  | loseSubmit k =>
    cases h
    exact .quiet rfl rfl (fun _ _ => le_rfl) fun _ _ _ h => h

/-! ### Rows -/

/-- The task has a row, for this endpoint. -/
def State.Known (s : State) (e : String) (t : Nat) : Prop :=
  ∃ row ∈ s.tasks, row.taskId = t ∧ row.endpointId = e

theorem map_taskId_complete (owned : Row → Bool) (status : String) (details : Json) (now : Int)
    (tasks : List Row) :
    (complete owned status details now tasks).map (·.taskId) = tasks.map (·.taskId) := by
  rw [complete]
  refine KeyedStore.map_update_column ?_ tasks
  exact fun _ => rfl

theorem mem_complete_of_mem (owned : Row → Bool) (status : String) (details : Json) (now : Int)
    {tasks : List Row} {row : Row} (h : row ∈ tasks) :
    (if owned row then { row with status := status, resultDetails := some details, completedAt := some now } else row)
      ∈ complete owned status details now tasks :=
  List.mem_map_of_mem h

theorem known_of_effect (h : Effect s a s') (hk : s.Known e t) : s'.Known e t := by
  obtain ⟨row, hrow, rfl, rfl⟩ := hk
  cases h with
  | quiet htasks => exact ⟨row, htasks ▸ hrow, rfl, rfl⟩
  | insert i new _ htasks => exact ⟨row, htasks ▸ List.mem_append_left _ hrow, rfl, rfl⟩
  | push i e t d _ _ htasks => exact ⟨row, htasks ▸ hrow, rfl, rfl⟩
  | record owned status details now _ htasks =>
    refine ⟨_, htasks ▸ mem_complete_of_mem owned status details now hrow, ?_, ?_⟩ <;> split <;> rfl
  | execute e t htasks => exact ⟨row, htasks ▸ hrow, rfl, rfl⟩
  | poll e n _ htasks => exact ⟨row, htasks ▸ hrow, rfl, rfl⟩

theorem mem_selectPending {n : Nat} {tasks : List Row} {row : Row} (h : row ∈ selectPending e n tasks) :
    row ∈ tasks ∧ row.endpointId = e ∧ row.status = "pending" := by
  have hmem := (List.mem_insertionSort _).mp (List.mem_of_mem_take h)
  obtain ⟨hrow, hsel⟩ := List.mem_filter.mp hmem
  exact ⟨hrow, of_decide_eq_true hsel⟩

theorem count_pushed (e' : String) (t' : Nat) :
    [Event.pushed e t].count (.pushed e' t') = if e' = e ∧ t' = t then 1 else 0 := by
  rw [List.count_singleton]
  simp only [beq_iff_eq, Event.pushed.injEq, @eq_comm _ e e', @eq_comm _ t t']

theorem count_executed (e' : String) (t' : Nat) :
    [Event.executed e t].count (.executed e' t') = if e' = e ∧ t' = t then 1 else 0 := by
  rw [List.count_singleton]
  simp only [beq_iff_eq, Event.executed.injEq, @eq_comm _ e e', @eq_comm _ t t']

theorem count_polled (e' : String) (rows : List Row) :
    (rows.map fun row => Event.polled e row.taskId).count (.polled e' t) = if e' = e then hasId t rows else 0 := by
  induction rows with
  | nil => simp [hasId]
  | cons row rows ih =>
    simp only [List.map_cons, List.count_cons, ih, hasId, List.countP_cons]
    by_cases he : e' = e
    · simp [he]
    · simp [he, Ne.symm he]

theorem count_map_polled_of_ne {ev : Event} (h : ∀ t, ev ≠ .polled e t) (rows : List Row) :
    (rows.map fun row => Event.polled e row.taskId).count ev = 0 := by
  refine List.count_eq_zero.mpr fun hmem => ?_
  obtain ⟨row, -, hrow⟩ := List.mem_map.mp hmem
  exact h _ hrow.symm

/-! ### The invariant -/

def Event.endpointId : Event → String
  | .pushed e _ => e
  | .polled e _ => e
  | .executed e _ => e

def Event.taskId : Event → Nat
  | .pushed _ t => t
  | .polled _ t => t
  | .executed _ t => t

/-- Every copy of a task, executed or in flight, was handed out, and each call pushes its task
once. -/
structure Inv (s : State) : Prop where
  ids : (s.tasks.map (·.taskId)).Nodup
  bound (e : String) (t : Nat) : s.log.count (.executed e t) + s.carried e t ≤
    s.log.count (.pushed e t) + s.log.count (.polled e t)
  known (ev : Event) : ev ∈ s.log → s.Known ev.endpointId ev.taskId
  posts (i : Nat) (e : String) (t : Nat) : s.Posts i e t → s.Known e t ∧ ∀ e', .pushed e' t ∉ s.log
  postsInj (i j : Nat) (e e' : String) (t : Nat) : s.Posts i e t → s.Posts j e' t → i = j
  pushedOnce (e : String) (t : Nat) : s.log.count (.pushed e t) ≤ 1

theorem inv_init : Inv init where
  ids := List.nodup_nil
  bound _ _ := le_rfl
  known _ h := by cases h
  posts _ _ _ h := by
    obtain ⟨p, hp, -⟩ := h
    cases hp
  postsInj _ _ _ _ _ h := by
    obtain ⟨p, hp, -⟩ := h
    cases hp
  pushedOnce _ _ := Nat.zero_le _

namespace Inv

/-- Steps that keep the ids of the rows and append `evs` to the log. -/
theorem of_append (hinv : Inv s) (heff : Effect s a s') (evs : List Event)
    (hids : s'.tasks.map (·.taskId) = s.tasks.map (·.taskId)) (hlog : s'.log = s.log ++ evs)
    (hevs : ∀ ev ∈ evs, s.Known ev.endpointId ev.taskId)
    (hcopies : ∀ e t, evs.count (.executed e t) + s'.carried e t ≤
      s.carried e t + (evs.count (.pushed e t) + evs.count (.polled e t)))
    (hposts : ∀ i e t, s'.Posts i e t → s.Posts i e t ∧ ∀ e', .pushed e' t ∉ evs)
    (hpushed : ∀ e t, .pushed e t ∈ evs → .pushed e t ∉ s.log ∧ evs.count (.pushed e t) ≤ 1) : Inv s' where
  ids := by
    rw [hids]
    exact hinv.ids
  bound e t := by
    have hbound := hinv.bound e t
    have hnew := hcopies e t
    rw [hlog, List.count_append, List.count_append, List.count_append]
    omega
  known ev hev := by
    rw [hlog, List.mem_append] at hev
    exact known_of_effect heff (hev.elim (hinv.known ev) (hevs ev))
  posts i e t h := by
    obtain ⟨hold, hnew⟩ := hposts i e t h
    obtain ⟨hknown, hnone⟩ := hinv.posts i e t hold
    refine ⟨known_of_effect heff hknown, fun e' hmem => ?_⟩
    rw [hlog, List.mem_append] at hmem
    exact hmem.elim (hnone e') (hnew e')
  postsInj i j e e' t h h' := hinv.postsInj i j e e' t (hposts _ _ _ h).1 (hposts _ _ _ h').1
  pushedOnce e t := by
    rw [hlog, List.count_append]
    by_cases hmem : .pushed e t ∈ evs
    · obtain ⟨hold, honce⟩ := hpushed e t hmem
      rw [List.count_eq_zero.mpr hold]
      omega
    · rw [List.count_eq_zero.mpr hmem]
      exact hinv.pushedOnce e t

/-- Steps that leave the log alone. -/
theorem of_log_eq (hinv : Inv s) (heff : Effect s a s')
    (hids : s'.tasks.map (·.taskId) = s.tasks.map (·.taskId))
    (hlog : s'.log = s.log) (hcarried : ∀ e t, s'.carried e t ≤ s.carried e t)
    (hposts : ∀ i e t, s'.Posts i e t → s.Posts i e t) : Inv s' := by
  refine hinv.of_append heff [] hids (by rw [hlog, List.append_nil]) nofun ?_ ?_ nofun
  · intro e t
    have hle := hcarried e t
    simp only [List.count_nil]
    omega
  · exact fun i e t h => ⟨hposts i e t h, fun _ => List.not_mem_nil⟩

theorem of_insert (hinv : Inv s) (heff : Effect s a s') {i : Nat} {row : Row}
    (hnew : row.taskId ∉ s.tasks.map (·.taskId)) (htasks : s'.tasks = s.tasks ++ [row]) (hlog : s'.log = s.log)
    (hcarried : ∀ e t, s'.carried e t ≤ s.carried e t)
    (hposts : ∀ j e t, s'.Posts j e t → s.Posts j e t ∨ (j = i ∧ e = row.endpointId ∧ t = row.taskId)) : Inv s' := by
  -- nothing is known of an id without a row
  have hunknown : ∀ e, ¬ s.Known e row.taskId := by
    rintro e ⟨row', hrow', hid, -⟩
    exact hnew (List.mem_map.mpr ⟨row', hrow', hid⟩)
  refine ⟨?_, ?_, ?_, ?_, ?_, ?_⟩
  · rw [htasks, List.map_append, List.map_singleton]
    exact List.nodup_append.mpr ⟨hinv.ids, by simp, fun x hx y hy hxy => hnew (by simp_all)⟩
  · intro e t
    rw [hlog]
    exact (Nat.add_le_add_left (hcarried e t) _).trans (hinv.bound e t)
  · intro ev hev
    exact known_of_effect heff (hinv.known ev (hlog ▸ hev))
  · intro j e t h
    rw [hlog]
    rcases hposts j e t h with h | ⟨rfl, rfl, rfl⟩
    · exact ⟨known_of_effect heff (hinv.posts j e t h).1, (hinv.posts j e t h).2⟩
    · refine ⟨⟨row, htasks ▸ List.mem_append_right _ (List.mem_singleton_self row), rfl, rfl⟩, fun e hmem => ?_⟩
      exact hunknown e (hinv.known _ hmem)
  · intro j j' e e' t h h'
    rcases hposts j e t h with h | ⟨rfl, rfl, rfl⟩ <;> rcases hposts j' e' _ h' with h' | ⟨rfl, -, ht⟩
    · exact hinv.postsInj j j' e e' t h h'
    · exact absurd (ht ▸ (hinv.posts j e t h).1) (hunknown e)
    · exact absurd (hinv.posts j' e' _ h').1 (hunknown e')
    · rfl
  · intro e t
    rw [hlog]
    exact hinv.pushedOnce e t

theorem of_effect (hinv : Inv s) (heff : Effect s a s') : Inv s' := by
  have heff' := heff
  cases heff with
  | quiet htasks hlog hcarried hposts => exact hinv.of_log_eq heff' (by rw [htasks]) hlog hcarried hposts
  | record owned status details now _ htasks hlog hcarried hposts =>
    exact hinv.of_log_eq heff' (by rw [htasks, map_taskId_complete]) hlog hcarried hposts
  | insert i row hnew htasks hlog hcarried hposts =>
    exact hinv.of_insert heff' hnew htasks hlog hcarried hposts
  | push i e t d _ hpost htasks hlog hcarried hposts =>
    obtain ⟨hknown, hnew⟩ := hinv.posts i e t hpost
    refine hinv.of_append heff' _ (by rw [htasks]) hlog ?_ ?_ ?_ ?_
    · intro ev hev
      cases List.mem_singleton.mp hev
      exact hknown
    · intro e' t'
      rw [hcarried e' t', count_pushed, List.count_eq_zero.mpr (by simp), List.count_eq_zero.mpr (by simp)]
      omega
    · intro j e' t' h
      obtain ⟨hold, hne⟩ := hposts j e' t' h
      refine ⟨hold, fun e'' hmem => ?_⟩
      cases List.mem_singleton.mp hmem
      exact hne (hinv.postsInj j i e' e t hold hpost)
    · intro e' t' hmem
      cases List.mem_singleton.mp hmem
      exact ⟨hnew e, List.count_singleton_self.le⟩
  | execute e t htasks hlog hcarried hposts =>
    have hhanded : s.Known e t := by
      have hbound := hinv.bound e t
      have hcopies := hcarried e t
      simp only [and_self, if_true] at hcopies
      have hpos : 0 < s.log.count (.pushed e t) ∨ 0 < s.log.count (.polled e t) := by omega
      rcases hpos with hpos | hpos
      · exact hinv.known _ (List.count_pos_iff.mp hpos)
      · exact hinv.known _ (List.count_pos_iff.mp hpos)
    refine hinv.of_append heff' _ (by rw [htasks]) hlog ?_ ?_ ?_ ?_
    · intro ev hev
      cases List.mem_singleton.mp hev
      exact hhanded
    · intro e' t'
      rw [← hcarried e' t', count_executed, List.count_eq_zero.mpr (by simp), List.count_eq_zero.mpr (by simp)]
      omega
    · exact fun j e' t' h => ⟨hposts j e' t' h, fun e'' hmem => by cases List.mem_singleton.mp hmem⟩
    · intro e' t' hmem
      cases List.mem_singleton.mp hmem
  | poll e n _ htasks hlog hcarried hposts =>
    refine hinv.of_append heff' _ (by rw [htasks]) hlog ?_ ?_ ?_ ?_
    · intro ev hev
      obtain ⟨row, hrow, rfl⟩ := List.mem_map.mp hev
      obtain ⟨hmem, he, -⟩ := mem_selectPending hrow
      exact ⟨row, hmem, rfl, he⟩
    · intro e' t'
      rw [hcarried e' t', count_polled, count_map_polled_of_ne (by simp), count_map_polled_of_ne (by simp)]
      omega
    · refine fun j e' t' h => ⟨hposts j e' t' h, fun e'' hmem => ?_⟩
      obtain ⟨row, -, hrow⟩ := List.mem_map.mp hmem
      cases hrow
    · intro e' t' hmem
      obtain ⟨row, -, hrow⟩ := List.mem_map.mp hmem
      cases hrow

end Inv

theorem inv_of_reach {guard : State → Act → Prop} (h : Lts.Reach (step codec) guard init s) : Inv s :=
  h.invariant inv_init fun _ hstep hinv => hinv.of_effect (step_effect hstep)

/-! ### Executions -/

def State.pushed (s : State) (e : String) (t : Nat) : Nat := s.log.count (.pushed e t)

def State.polled (s : State) (e : String) (t : Nat) : Nat := s.log.count (.polled e t)

/-- The task, once it was handed out, has its result recorded before the next poll of its endpoint, and
is not pushed once a poll has fetched it. Of other tasks nothing is asked. -/
def RecordedFirst (t : Nat) (s : State) : Act → Prop
  | .poll e _ => 0 < s.pushed e t + s.polled e t → ∀ row ∈ s.tasks, row.taskId = t → row.status ≠ "pending"
  | .advance i _ => ∀ e, s.Posts i e t → s.polled e t = 0
  | _ => True

def plainCodec : Codec := ⟨toString, fun _ => "\x7b\x7d"⟩

def assignDraw (url : Option String) : AssignDraw := ⟨some ("acme-corp", url), 1, 0, false⟩

instance (s : State) (i : Nat) (t : Nat) : Decidable (∀ e, s.Posts i e t → s.polled e t = 0) :=
  match hi : s.requests i with
  | some (.post e p) =>
    if ht : p.taskId = t → s.polled e t = 0 then
      .isTrue fun e' ⟨p', hp', ht'⟩ => by
        cases hi.symm.trans hp'
        exact ht ht'
    else .isFalse fun h => ht fun hid => h e ⟨p, hi, hid⟩
  | none | some (.select ..) | some (.insert ..) | some (.wait _) | some (.update ..) | some (.replied _) =>
    .isTrue fun e' ⟨p', hp', _⟩ => by cases hi.symm.trans hp'

instance decidableRecordedFirst (t : Nat) : ∀ (s : State) (a : Act), Decidable (RecordedFirst t s a)
  | s, .poll e _ => inferInstanceAs
      (Decidable (0 < s.pushed e t + s.polled e t → ∀ row ∈ s.tasks, row.taskId = t → row.status ≠ "pending"))
  | s, .advance i _ => inferInstanceAs (Decidable (∀ e, s.Posts i e t → s.polled e t = 0))
  | _, .assign .. | _, .receive _ | _, .timeout _ | _, .executePush .. | _, .losePush _ | _, .pollDelivered _
  | _, .pollLost _ | _, .execute .. | _, .submit _ | _, .requestSubmit _ | _, .commitSubmit .. | _, .loseSubmit _ =>
    isTrue trivial

/-- No result is recorded in the row. -/
def Unwritten (row : Row) (s : State) (a : Act) : Prop := ∀ owned status, Writes s a owned status → owned row = false

/-- Every result recorded in the row says something else than `pending`. -/
def WrittenFinal (row : Row) (s : State) (a : Act) : Prop :=
  ∀ owned status, Writes s a owned status → owned row = true → status ≠ "pending"

theorem Writes.owned_congr {owned : Row → Bool} {status : String} (h : Writes s a owned status)
    {row row' : Row}
    (hid : row'.taskId = row.taskId) (he : row'.endpointId = row.endpointId) : owned row' = owned row := by
  cases h with
  | webhook => simp only [hid]
  | submit => simp only [hid, he]

/-- A poll returns only pending rows. -/
theorem polled_eq_of_not_pending (hinv : Inv s) (hstep : step codec s a = some s') {row : Row}
    (hrow : row ∈ s.tasks)
    (hstatus : row.status ≠ "pending") (e : String) : s'.polled e row.taskId = s.polled e row.taskId := by
  unfold State.polled
  cases step_effect hstep with
  | quiet _ hlog => rw [hlog]
  | insert i new _ _ hlog => rw [hlog]
  | record owned status details now _ _ hlog => rw [hlog]
  | execute e' t' _ hlog =>
    rw [hlog, List.count_append, List.count_eq_zero (l := [_]).mpr (by simp), Nat.add_zero]
  | push i e' t' d _ _ _ hlog =>
    rw [hlog, List.count_append, List.count_eq_zero (l := [_]).mpr (by simp), Nat.add_zero]
  | poll e' n _ _ hlog =>
    rw [hlog, List.count_append, count_polled]
    split
    · have hnone : hasId row.taskId (selectPending e' n s.tasks) = 0 := by
        refine List.countP_eq_zero.mpr fun row' hrow' hid => ?_
        obtain ⟨hmem, -, hpending⟩ := mem_selectPending hrow'
        have hsame : row' = row := List.inj_on_of_nodup_map hinv.ids hmem hrow (of_decide_eq_true hid)
        exact hstatus (hsame ▸ hpending)
      rw [hnone, Nat.add_zero]
    · rfl

theorem mem_tasks_of_unwritten (hstep : step codec s a = some s') {row : Row} (hrow : row ∈ s.tasks)
    (hguard : Unwritten row s a) : row ∈ s'.tasks := by
  cases step_effect hstep with
  | quiet htasks => exact htasks ▸ hrow
  | insert i new _ htasks => exact htasks ▸ List.mem_append_left _ hrow
  | push i e' t' d _ _ htasks => exact htasks ▸ hrow
  | execute e' t' htasks => exact htasks ▸ hrow
  | poll e' n _ htasks => exact htasks ▸ hrow
  | record owned status details now hwrites htasks =>
    have hmem := mem_complete_of_mem owned status details now hrow
    rw [hguard owned status hwrites, if_neg (by decide)] at hmem
    exact htasks ▸ hmem

/-- The row of a task that is not pending. -/
def Settled (s : State) (row : Row) : Prop :=
  ∃ row' ∈ s.tasks, row'.taskId = row.taskId ∧ row'.endpointId = row.endpointId ∧ row'.status ≠ "pending"

theorem settled_of_writtenFinal (hstep : step codec s a = some s') {row : Row} (hrow : Settled s row)
    (hguard : WrittenFinal row s a) : Settled s' row := by
  obtain ⟨row', hmem, hid, he, hstatus⟩ := hrow
  cases step_effect hstep with
  | quiet htasks => exact ⟨row', htasks ▸ hmem, hid, he, hstatus⟩
  | insert i new _ htasks => exact ⟨row', htasks ▸ List.mem_append_left _ hmem, hid, he, hstatus⟩
  | push i e' t' d _ _ htasks => exact ⟨row', htasks ▸ hmem, hid, he, hstatus⟩
  | execute e' t' htasks => exact ⟨row', htasks ▸ hmem, hid, he, hstatus⟩
  | poll e' n _ htasks => exact ⟨row', htasks ▸ hmem, hid, he, hstatus⟩
  | record owned status details now hwrites htasks =>
    have hmem' := mem_complete_of_mem owned status details now hmem
    rw [← htasks] at hmem'
    cases howned : owned row' with
    | false =>
      rw [howned, if_neg (by decide)] at hmem'
      exact ⟨row', hmem', hid, he, hstatus⟩
    | true =>
      rw [howned, if_pos rfl] at hmem'
      have hfinal : status ≠ "pending" := hguard owned status hwrites ((hwrites.owned_congr hid he).symm.trans howned)
      exact ⟨_, hmem', hid, he, hfinal⟩

/-- In every reachable state, a row that is not pending stays as it is until a further result is
recorded for it, by its own endpoint or by the completion of a webhook call; and as long as no such
result says `pending`, it does not become pending and no poll returns it. -/
theorem terminal_rows_change_by_results (codec : Codec) (s : State) (hs : Lts.Reach (step codec) Lts.free init s)
    (row : Row) (hrow : row ∈ s.tasks) (hstatus : row.status ≠ "pending") :
    (∀ s', Lts.Reach (step codec) (Unwritten row) s s' →
      row ∈ s'.tasks ∧ ∀ e, s'.polled e row.taskId = s.polled e row.taskId) ∧
      ∀ s', Lts.Reach (step codec) (WrittenFinal row) s s' →
        Settled s' row ∧ ∀ e, s'.polled e row.taskId = s.polled e row.taskId := by
  have hinv := inv_of_reach hs
  constructor
  · intro s' h
    have hall : Inv s' ∧ row ∈ s'.tasks ∧ ∀ e, s'.polled e row.taskId = s.polled e row.taskId := by
      refine h.invariant
        (I := fun s' => Inv s' ∧ row ∈ s'.tasks ∧ ∀ e, s'.polled e row.taskId = s.polled e row.taskId)
        ⟨hinv, hrow, fun _ => rfl⟩ ?_
      rintro t u a hguard hstep ⟨hinv', hmem, hpolled⟩
      refine ⟨hinv'.of_effect (step_effect hstep), mem_tasks_of_unwritten hstep hmem hguard, fun e => ?_⟩
      exact (polled_eq_of_not_pending hinv' hstep hmem hstatus e).trans (hpolled e)
    exact hall.2
  · intro s' h
    have hall : Inv s' ∧ Settled s' row ∧ ∀ e, s'.polled e row.taskId = s.polled e row.taskId := by
      refine h.invariant
        (I := fun s' => Inv s' ∧ Settled s' row ∧ ∀ e, s'.polled e row.taskId = s.polled e row.taskId)
        ⟨hinv, ⟨row, hrow, rfl, rfl, hstatus⟩, fun _ => rfl⟩ ?_
      rintro t u a hguard hstep ⟨hinv', hsettled, hpolled⟩
      refine ⟨hinv'.of_effect (step_effect hstep), settled_of_writtenFinal hstep hsettled hguard, fun e => ?_⟩
      obtain ⟨row', hmem, hid, -, hstatus'⟩ := hsettled
      rw [← hpolled e, ← hid]
      exact polled_eq_of_not_pending hinv' hstep hmem hstatus' e
    exact hall.2

/-- A task without a webhook, and its result. -/
def resultRun : List Act :=
  [.assign 0 "e-7" { action := "isolate_host" }, .advance 0 (assignDraw none), .advance 0 (assignDraw none),
    .requestSubmit ⟨"e-7", 1, "success", none⟩, .commitSubmit 0 5]

def finishedRow : Row :=
  { taskId := 1, endpointId := "e-7", tenantId := "acme-corp", action := "isolate_host", params := [],
    status := "success", resultDetails := some (.obj []), requestedAt := 0, completedAt := some 5 }

def finishedState : State := { init with
  tasks := [finishedRow]
  requests := Function.update (Function.update (Function.update init.requests 0
    (some (.select "e-7" { action := "isolate_host" }))) 0
    (some (.insert "e-7" { action := "isolate_host" } "acme-corp" none))) 0
    (some (.replied (.task 1 "pending"))) }

theorem reach_finishedState : Lts.Reach (step plainCodec) Lts.free init finishedState :=
  Lts.Reach.of_run resultRun rfl

def failedRow : Row := { finishedRow with status := "failed", completedAt := some 9 }

/-- A second result with another status than `pending`. -/
theorem reach_failedRow : Lts.Reach (step plainCodec) (WrittenFinal finishedRow) finishedState
    { finishedState with tasks := [failedRow] } := by
  have hfirst : Lts.Reach (step plainCodec) (WrittenFinal finishedRow) finishedState
      { finishedState with submits := [⟨"e-7", 1, "failed", none⟩] } :=
    Lts.Reach.refl.tail (a := .requestSubmit ⟨"e-7", 1, "failed", none⟩) (fun _ _ h => nomatch h) rfl
  refine hfirst.tail (a := .commitSubmit 0 9) ?_ rfl
  intro owned status hwrites _
  cases hwrites with
  | submit hr =>
    cases hr
    decide

theorem finished_row_stays_settled :
    Settled { finishedState with tasks := [failedRow] } finishedRow ∧
      ∀ e, ({ finishedState with tasks := [failedRow] } : State).polled e 1 = finishedState.polled e 1 :=
  (terminal_rows_change_by_results plainCodec finishedState reach_finishedState finishedRow
    (List.mem_singleton_self _) (by decide)).2 _ reach_failedRow

/-- A second result sets the row back to `pending`, and a poll returns it. -/
theorem finished_row_reopened :
    ¬ ∀ (codec : Codec) (s s' : State) (row : Row), Lts.Reach (step codec) Lts.free init s → row ∈ s.tasks →
      row.status ≠ "pending" → Lts.Reach (step codec) Lts.free s s' →
        (∃ row' ∈ s'.tasks, row'.taskId = row.taskId ∧ row'.status = row.status ∧
          row'.resultDetails = row.resultDetails ∧ row'.completedAt = row.completedAt) ∧
          ∀ e, s'.polled e row.taskId = s.polled e row.taskId := by
  intro h
  obtain ⟨-, hpolled⟩ := h plainCodec finishedState _ finishedRow reach_finishedState (List.mem_singleton_self _)
    (by decide) (Lts.Reach.get_run
      [.requestSubmit ⟨"e-7", 1, "pending", none⟩, .commitSubmit 0 9, .poll "e-7" 10] (by decide +kernel))
  exact absurd (hpolled "e-7") (by decide +kernel)

end SocFabric.AgentTasks
