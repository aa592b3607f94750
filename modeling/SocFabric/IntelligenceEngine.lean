import Mathlib.Logic.Function.Basic
import SocFabric.Lib.BoundedQueue
import SocFabric.Lib.Float64
import SocFabric.Lib.Mealy

/-!
# The intelligence loop (`soc-backend/domain/Intelligence/AIIntelligenceEngine.py`)

`run_intelligence_loop` takes events off the internal bus one at a time. It keeps a window of each
tenant's last thousand events and the time of its last triage, and starts a triage when a window
crosses a threshold outside the cool-down. A run is a list of events with the clock reading at which
each is consumed; a step answers with the snapshot that is triaged, if any.
-/

namespace SocFabric
namespace Intelligence
open BoundedQueue

/-- The keys of an event that the engine reads. -/
structure Event where
  tenantID : Option String := none
  source : Option String := none
  severity : Option String := none
  message : Option String := none
deriving DecidableEq, Repr

def tenantOf (e : Event) : String := e.tenantID.getD "unknown"

def isWarning (e : Event) : Bool := e.severity = some "WARNING" || e.severity = some "WARN"

def isCritical (e : Event) : Bool := e.severity = some "CRITICAL" || e.severity = some "ERROR"

def anomalyThresholdWarning : Nat := 5

def anomalyThresholdCritical : Nat := 2

def checkAnomalyThresholds (window : List Event) : Bool :=
  anomalyThresholdWarning ≤ window.countP isWarning || anomalyThresholdCritical ≤ window.countP isCritical

def maxWindow : Nat := 1000

structure EngineState where
  windows : String → List Event := fun _ => []
  cooldown : String → Option Double := fun _ => none

def epoch : Double := .ofNat 0 (by decide)

/-- `(now - last_triage) < 60`, where a tenant that was never triaged was last triaged at 0. -/
def inCooldown (s : EngineState) (t : String) (now : Double) : Bool := now.subLt ((s.cooldown t).getD epoch) 60

/-- One turn of the loop: an event and the clock reading after it. -/
def step (s : EngineState) (x : Event × Double) : EngineState × Option (List Event) :=
  let t := tenantOf x.1
  let window := push maxWindow (s.windows t) x.1
  let s' := { s with windows := Function.update s.windows t window }
  if inCooldown s t x.2 then (s', none)
  else if !checkAnomalyThresholds window then (s', none)
  else ({ s' with cooldown := Function.update s'.cooldown t (some x.2) }, some window)

def stateAfter (steps : List (Event × Double)) : EngineState := steps.foldl (fun s x => (step s x).1) {}

/-- The steps of a tenant. -/
def own (t : String) (steps : List (Event × Double)) : List (Event × Double) :=
  steps.filter fun x => tenantOf x.1 = t

/-- The times at which the tenant is triaged. -/
def triageTimes (t : String) (s : EngineState) (steps : List (Event × Double)) : List Double :=
  ((Mealy.outputs step s steps).filter fun o => tenantOf o.1.1 = t).filterMap fun o => o.2.map fun _ => o.1.2

/-- The clock does not run backwards and starts at 60 or later. -/
structure Clocked (steps : List (Event × Double)) : Prop where
  start : ∀ x ∈ steps, 60 ≤ x.2.val
  mono : steps.Pairwise fun x y => x.2.val ≤ y.2.val

/-! ### One step -/

section
variable {s : EngineState} {x : Event × Double} {t : String}

theorem step_windows (s : EngineState) (x : Event × Double) :
    (step s x).1.windows =
      Function.update s.windows (tenantOf x.1) (push maxWindow (s.windows (tenantOf x.1)) x.1) := by
  simp only [step]
  split_ifs <;> rfl

/-- A triage happens outside the cool-down, on a window that crosses a threshold, and starts the
cool-down. -/
theorem step_cases (s : EngineState) (x : Event × Double) :
    ((step s x).2 = none ∧ (step s x).1.cooldown = s.cooldown) ∨
      ((step s x).2 = some (push maxWindow (s.windows (tenantOf x.1)) x.1) ∧
        inCooldown s (tenantOf x.1) x.2 = false ∧
        checkAnomalyThresholds (push maxWindow (s.windows (tenantOf x.1)) x.1) = true ∧
        (step s x).1.cooldown = Function.update s.cooldown (tenantOf x.1) (some x.2)) := by
  simp only [step]
  split_ifs with hcool hcheck
  · exact .inl ⟨rfl, rfl⟩
  · exact .inl ⟨rfl, rfl⟩
  · exact .inr ⟨rfl, by simpa using hcool, by simpa using hcheck, rfl⟩

theorem step_of_crossed (hcool : inCooldown s (tenantOf x.1) x.2 = false)
    (hcheck : checkAnomalyThresholds (push maxWindow (s.windows (tenantOf x.1)) x.1) = true) :
    (step s x).2 = some (push maxWindow (s.windows (tenantOf x.1)) x.1) := by
  simp [step, hcool, hcheck]

theorem step_of_not_crossed
    (hcheck : checkAnomalyThresholds (push maxWindow (s.windows (tenantOf x.1)) x.1) = false) :
    (step s x).1.cooldown = s.cooldown := by
  rcases step_cases s x with ⟨-, hcool⟩ | ⟨-, -, htrue, -⟩
  · exact hcool
  · rw [hcheck] at htrue
    cases htrue

/-- A step of another tenant changes nothing for this one. -/
theorem step_of_ne (h : tenantOf x.1 ≠ t) :
    (step s x).1.windows t = s.windows t ∧ (step s x).1.cooldown t = s.cooldown t := by
  refine ⟨?_, ?_⟩
  · rw [step_windows, Function.update_of_ne (Ne.symm h)]
  · rcases step_cases s x with ⟨-, hc⟩ | ⟨-, -, -, hc⟩
    · rw [hc]
    · rw [hc, Function.update_of_ne (Ne.symm h)]

/-- A step looks only at what the state holds for its tenant. -/
theorem step_congr {s' : EngineState} (hw : s.windows (tenantOf x.1) = s'.windows (tenantOf x.1))
    (hc : s.cooldown (tenantOf x.1) = s'.cooldown (tenantOf x.1)) :
    (step s x).2 = (step s' x).2 ∧
      (step s x).1.windows (tenantOf x.1) = (step s' x).1.windows (tenantOf x.1) ∧
      (step s x).1.cooldown (tenantOf x.1) = (step s' x).1.cooldown (tenantOf x.1) := by
  have hcool : inCooldown s (tenantOf x.1) x.2 = inCooldown s' (tenantOf x.1) x.2 := by
    rw [inCooldown, inCooldown, hc]
  simp only [step, hw, hcool]
  split_ifs <;> simp [hc]

end

/-! ### A run -/

section
variable {s : EngineState} {steps past : List (Event × Double)} {x : Event × Double} {t : String}

theorem stateAfter_concat (past : List (Event × Double)) (x : Event × Double) :
    stateAfter (past ++ [x]) = (step (stateAfter past) x).1 := by
  rw [stateAfter, List.foldl_concat]
  rfl

theorem own_concat (t : String) (past : List (Event × Double)) (x : Event × Double) :
    own t (past ++ [x]) = own t past ++ if tenantOf x.1 = t then [x] else [] := by
  rw [own, List.filter_append]
  by_cases h : tenantOf x.1 = t <;> simp [own, h]

/-- The window of a tenant is the end of its own events. -/
theorem windows_stateAfter (steps : List (Event × Double)) (t : String) :
    (stateAfter steps).windows t = ((own t steps).map (·.1)).rtake maxWindow := by
  induction steps using List.reverseRecOn with
  | nil => exact (List.rtake_nil maxWindow).symm
  | append_singleton past x ih =>
    rw [stateAfter_concat, own_concat, step_windows]
    by_cases h : tenantOf x.1 = t
    · rw [if_pos h, h, Function.update_self, ih, List.map_append, List.map_singleton, rtake_push]
    · rw [Function.update_of_ne (Ne.symm h), ih, if_neg h, List.append_nil]

/-- The triage times of a tenant are those of its own steps run alone. -/
theorem triageTimes_eq_own (t : String) (steps : List (Event × Double)) :
    triageTimes t {} steps =
      (Mealy.outputs step {} (own t steps)).filterMap fun o => o.2.map fun _ => o.1.2 := by
  have hfilter : (Mealy.outputs step {} steps).filter (fun o => decide (tenantOf o.1.1 = t)) =
      Mealy.outputs step {} (own t steps) := by
    refine Mealy.outputs_filter_eq_of_rel (fun x : Event × Double => decide (tenantOf x.1 = t))
      (R := fun s s' => s.windows t = s'.windows t ∧ s.cooldown t = s'.cooldown t) ?_ ?_ ⟨rfl, rfl⟩
    · intro s s' x hx hR
      obtain ⟨hw, hc⟩ := step_of_ne (s := s) (of_decide_eq_false hx)
      exact ⟨hw.trans hR.1, hc.trans hR.2⟩
    · intro s s' x hx hR
      obtain rfl := of_decide_eq_true hx
      exact step_congr hR.1 hR.2
  rw [triageTimes, hfilter]

theorem triageTimes_cons (t : String) (s : EngineState) (x : Event × Double) (rest : List (Event × Double)) :
    triageTimes t s (x :: rest) =
      (if tenantOf x.1 = t ∧ (step s x).2 ≠ none then [x.2] else []) ++ triageTimes t (step s x).1 rest := by
  by_cases h : tenantOf x.1 = t
  · cases hout : (step s x).2 <;> simp [triageTimes, Mealy.outputs, h, hout]
  · simp [triageTimes, Mealy.outputs, h]

theorem Clocked.tail {rest : List (Event × Double)} (h : Clocked (x :: rest)) : Clocked rest :=
  ⟨fun y hy => h.start y (List.mem_cons_of_mem x hy), (List.pairwise_cons.mp h.mono).2⟩

/-- What a run may rely on after a triage at `l`: the clock has reached `l`, and `l` is no earlier
than 60. -/
def LastTriage (s : EngineState) (t : String) (steps : List (Event × Double)) : Prop :=
  ∀ l, s.cooldown t = some l → 60 ≤ l.val ∧ ∀ x ∈ steps, l.val ≤ x.2.val

theorem LastTriage.step {rest : List (Event × Double)} (h : LastTriage s t (x :: rest))
    (hc : Clocked (x :: rest)) :
    LastTriage (step s x).1 t rest := by
  have hkeep : LastTriage s t rest := fun l hl =>
    ⟨(h l hl).1, fun y hy => (h l hl).2 y (List.mem_cons_of_mem x hy)⟩
  rcases step_cases s x with ⟨-, hcool⟩ | ⟨-, -, -, hcool⟩
  · rwa [LastTriage, hcool]
  · by_cases ht : tenantOf x.1 = t
    · intro l hl
      rw [hcool, ht, Function.update_self, Option.some.injEq] at hl
      rw [← hl]
      exact ⟨hc.start x List.mem_cons_self, (List.pairwise_cons.mp hc.mono).1⟩
    · rw [LastTriage, hcool, Function.update_of_ne (Ne.symm ht)]
      exact hkeep

/-- Triages of a tenant are a cool-down apart from each other and from the last one before. -/
theorem triageTimes_apart (hc : Clocked steps) (h : LastTriage s t steps) :
    (∀ l, s.cooldown t = some l → ∀ b ∈ triageTimes t s steps, l.val + 60 ≤ b.val) ∧
      (triageTimes t s steps).Pairwise fun a b => a.val + 60 ≤ b.val := by
  induction steps generalizing s with
  | nil => simp [triageTimes, Mealy.outputs]
  | cons x rest ih =>
    obtain ⟨hlast, hpair⟩ := ih hc.tail (h.step hc)
    rw [triageTimes_cons]
    by_cases hx : tenantOf x.1 = t ∧ (step s x).2 ≠ none
    · obtain ⟨rfl, hout⟩ := hx
      rcases step_cases s x with ⟨hnone, -⟩ | ⟨-, hcool, -, hafter⟩
      · exact absurd hnone hout
      rw [hafter, Function.update_self] at hlast
      have hlater := hlast x.2 rfl
      rw [if_pos ⟨rfl, hout⟩, List.singleton_append]
      refine ⟨?_, List.pairwise_cons.mpr ⟨hlater, hpair⟩⟩
      intro l hl b hb
      have hx60 : l.val + 60 ≤ x.2.val := by
        rw [inCooldown, hl, Option.getD_some] at hcool
        exact Double.le_of_not_subLt (h l hl).1 ((h l hl).2 x List.mem_cons_self) hcool
      rcases List.mem_cons.mp hb with rfl | hb
      · exact hx60
      · linarith [hlater b hb]
    · rw [if_neg hx, List.nil_append]
      refine ⟨?_, hpair⟩
      intro l hl b hb
      refine hlast l ?_ b hb
      rcases step_cases s x with ⟨-, hafter⟩ | ⟨hout, -, -, hafter⟩
      · rw [hafter, hl]
      · have ht : tenantOf x.1 ≠ t := fun ht => hx ⟨ht, by rw [hout]; exact Option.some_ne_none _⟩
        rw [hafter, Function.update_of_ne (Ne.symm ht), hl]

end

/-- Each tenant has the window of its own events, is triaged by its own steps alone, and at most
once a minute. -/
theorem tenant_windows_and_cooldown (steps : List (Event × Double)) (h : Clocked steps) (t : String) :
    (stateAfter steps).windows t = ((own t steps).map (·.1)).rtake 1000 ∧
    (∀ steps', Clocked steps' → own t steps' = own t steps → triageTimes t {} steps' = triageTimes t {} steps) ∧
    (triageTimes t {} steps).Pairwise fun a b => a.val + 60 ≤ b.val := by
  refine ⟨windows_stateAfter steps t, ?_, ?_⟩
  · intro steps' _ hown
    rw [triageTimes_eq_own, triageTimes_eq_own, hown]
  · exact (triageTimes_apart h (fun l hl => by cases hl)).2

def errorAt (t : String) (time : Nat) (h : time < 2 ^ 53) : Event × Double :=
  ({ tenantID := some t, severity := some "ERROR", message := some "disk failure" }, .ofNat time h)

theorem interleaved_tenants_apart :
    (triageTimes "acme-corp" {}
      [errorAt "acme-corp" 1000 (by decide), errorAt "globex" 1000 (by decide), errorAt "acme-corp" 1010 (by decide),
        errorAt "acme-corp" 1080 (by decide)]).Pairwise fun a b => a.val + 60 ≤ b.val :=
  (tenant_windows_and_cooldown _
    ⟨by simp [errorAt, Double.ofNat]; norm_num, by simp [errorAt, Double.ofNat]; norm_num⟩ "acme-corp").2.2

/-! ### Five minutes -/

/-- Outside the cool-down the tenant's window crosses no threshold with an event older than five
minutes. -/
def FreshAt (past : List (Event × Double)) (x : Event × Double) : Prop :=
  inCooldown (stateAfter past) (tenantOf x.1) x.2 = false →
    ∀ k ∈ [(isWarning, 5), (isCritical, 2)],
      k.2 ≤ ((own (tenantOf x.1) (past ++ [x])).rtake 1000).countP (fun y => k.1 y.1) →
      ∀ y ∈ (own (tenantOf x.1) (past ++ [x])).rtake 1000, k.1 y.1 = true → x.2.val - 300 ≤ y.2.val

/-- Enough events of the tenant were consumed in the five minutes up to the step. -/
def JustifiedAt (past : List (Event × Double)) (x : Event × Double) : Prop :=
  ∃ k ∈ [(isWarning, 5), (isCritical, 2)],
    k.2 ≤ (own (tenantOf x.1) (past ++ [x])).countP fun y => k.1 y.1 && decide (x.2.val - 300 ≤ y.2.val)

/-- Every triage of the run is justified by the last five minutes. -/
def FiveMinuteWindow (steps : List (Event × Double)) : Prop :=
  ∀ past x rest, steps = past ++ x :: rest → (step (stateAfter past) x).2 ≠ none → JustifiedAt past x

theorem window_step (past : List (Event × Double)) (x : Event × Double) :
    push maxWindow ((stateAfter past).windows (tenantOf x.1)) x.1 =
      ((own (tenantOf x.1) (past ++ [x])).rtake 1000).map (·.1) := by
  rw [windows_stateAfter, rtake_push, ← map_rtake, own_concat, if_pos rfl, List.map_append,
    List.map_singleton]
  rfl

theorem exists_threshold {window : List Event} (h : checkAnomalyThresholds window = true) :
    ∃ k ∈ [(isWarning, 5), (isCritical, 2)], k.2 ≤ window.countP k.1 := by
  rw [checkAnomalyThresholds, Bool.or_eq_true, decide_eq_true_eq, decide_eq_true_eq] at h
  rcases h with h | h
  · exact ⟨_, List.mem_cons_self, h⟩
  · exact ⟨_, List.mem_cons_of_mem _ (List.mem_singleton_self _), h⟩

theorem justifiedAt_of_freshAt {past : List (Event × Double)} {x : Event × Double} (hfresh : FreshAt past x)
    (h : (step (stateAfter past) x).2 ≠ none) : JustifiedAt past x := by
  rcases step_cases (stateAfter past) x with ⟨hnone, -⟩ | ⟨-, hcool, hcheck, -⟩
  · exact absurd hnone h
  rw [window_step] at hcheck
  obtain ⟨k, hk, hcount⟩ := exists_threshold hcheck
  rw [List.countP_map] at hcount
  have hrecent := hfresh hcool k hk hcount
  refine ⟨k, hk, hcount.trans ?_⟩
  -- The events of the window that count are all recent, and the window is a part of the tenant's events.
  calc ((own (tenantOf x.1) (past ++ [x])).rtake 1000).countP (k.1 ∘ (·.1))
      ≤ ((own (tenantOf x.1) (past ++ [x])).rtake 1000).countP
          (fun y => k.1 y.1 && decide (x.2.val - 300 ≤ y.2.val)) := by
        refine List.countP_mono_left fun y hy hky => ?_
        rw [Bool.and_eq_true, decide_eq_true_eq]
        exact ⟨hky, hrecent y hy hky⟩
    _ ≤ (own (tenantOf x.1) (past ++ [x])).countP (fun y => k.1 y.1 && decide (x.2.val - 300 ≤ y.2.val)) :=
        (rtake_sublist 1000 _).countP_le

/-- A run in which no threshold is crossed by the help of an event older than five minutes triages
on the last five minutes alone. -/
theorem fiveMinuteWindow_of_fresh (steps : List (Event × Double))
    (h : ∀ past x rest, steps = past ++ x :: rest → FreshAt past x) : FiveMinuteWindow steps :=
  fun past x rest hsteps htriage => justifiedAt_of_freshAt (h past x rest hsteps) htriage

theorem inCooldown_of_untriaged {s : EngineState} {t : String} (h : s.cooldown t = none) (now : Double) :
    inCooldown s t now = decide (now.val < 60) := by
  have hzero : now.val - epoch.val = now.val := sub_zero now.val
  rw [inCooldown, h, Option.getD_none, Double.subLt, hzero, now.round_val]

/-- Two errors of one tenant, with nothing in between. -/
def firstError : Event × Double := errorAt "acme-corp" 1000 (by decide)

def secondError : Event × Double := errorAt "acme-corp" 10000 (by decide)

theorem secondError_triaged : (step (stateAfter [firstError]) secondError).2 ≠ none := by
  have hcooldown : (stateAfter [firstError]).cooldown = fun _ => none :=
    step_of_not_crossed (s := {}) (by decide)
  have hcool : inCooldown (stateAfter [firstError]) (tenantOf secondError.1) secondError.2 = false := by
    rw [inCooldown_of_untriaged (by rw [hcooldown]), decide_eq_false_iff_not]
    norm_num [secondError, errorAt, Double.ofNat]
  have hcheck : checkAnomalyThresholds
      (push maxWindow ((stateAfter [firstError]).windows (tenantOf secondError.1)) secondError.1) = true := by
    rw [window_step]
    decide
  rw [step_of_crossed hcool hcheck]
  exact Option.some_ne_none _

/-- An error more than two hours old counts towards a triage. -/
theorem stale_error_counts : ¬ ∀ steps, FiveMinuteWindow steps := by
  intro h
  obtain ⟨k, hk, hcount⟩ := h [firstError, secondError] [firstError] secondError [] rfl secondError_triaged
  rcases List.mem_cons.mp hk with rfl | hk
  · exact absurd hcount (by decide)
  · rw [List.mem_singleton] at hk
    subst hk
    exact absurd hcount (by decide +kernel)

theorem recent_errors_fresh :
    FiveMinuteWindow [errorAt "acme-corp" 1000 (by decide), errorAt "acme-corp" 1100 (by decide)] := by
  apply fiveMinuteWindow_of_fresh
  intro past x rest hsteps _ k _ _ y hy _
  have hbounds : ∀ z ∈ [errorAt "acme-corp" 1000 (by decide), errorAt "acme-corp" 1100 (by decide)],
      1000 ≤ z.2.val ∧ z.2.val ≤ 1100 := by
    simp only [List.mem_cons, List.not_mem_nil, or_false]
    rintro z (rfl | rfl) <;> norm_num [errorAt, Double.ofNat]
  rw [hsteps] at hbounds
  have hypast : y ∈ past ++ [x] := List.mem_of_mem_filter ((rtake_sublist 1000 _).subset hy)
  have hxb := hbounds x (by simp)
  have hyb := hbounds y (by
    rw [← List.singleton_append, ← List.append_assoc]
    exact List.mem_append_left rest hypast)
  linarith [hxb.2, hyb.1]

end Intelligence
end SocFabric
