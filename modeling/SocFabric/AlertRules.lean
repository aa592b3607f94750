import Mathlib.Data.List.Basic
import Mathlib.Order.Nat
import SocFabric.Lib.Lts

/-!
# Toggling detection rules (`pages/detection/AlertRulesPage.tsx`)

`performToggle` shows the new flag at once and, if the request fails, puts back the whole list as it
was before, so that everything shown since is taken back with it. A run interleaves toggles of any
rules and the ends of their requests in any order. `toggles_converge` is about the runs in which a
request fails only after the requests that started later, those of a rule are acknowledged in the
order in which they started, and a toggle is approved while the rule is shown as it was.
-/

namespace SocFabric
namespace AlertRules
open Lts

/-- A rule; `details` are the members that toggling does not look at. -/
structure Rule where
  id : String
  enabled : Bool
  isAutoResponse : Bool
  details : List (String × String) := []
deriving DecidableEq, Repr

inductive Outcome
  | pending
  | succeeded
  | failed
deriving DecidableEq, Repr

/-- A call of `performToggle`: the flag it sends and the list it restores. -/
structure Request where
  ruleID : String
  enabled : Bool
  original : List Rule
  outcome : Outcome := .pending
deriving DecidableEq, Repr

/-- The page, with its requests in the order in which they started. `acknowledged`, which the code
does not have, are the flags that the server has acknowledged, in that order. -/
structure Page where
  data : List Rule
  pendingAction : Option Rule := none
  requests : List Request := []
  acknowledged : List (String × Bool) := []
deriving DecidableEq, Repr

namespace Page

def performToggle (s : Page) (rule : Rule) : Page :=
  { s with
    data := s.data.map fun r => if r.id = rule.id then { r with enabled := !r.enabled } else r
    requests := s.requests ++
      [{ ruleID := rule.id, enabled := !rule.enabled, original := s.data }] }

def toggleRule (s : Page) (rule : Rule) : Page :=
  if rule.enabled ∧ rule.isAutoResponse then { s with pendingAction := some rule } else s.performToggle rule

def succeed (s : Page) (i : Nat) (q : Request) : Page :=
  { s with
    pendingAction := none
    requests := s.requests.set i { q with outcome := .succeeded }
    acknowledged := s.acknowledged ++ [(q.ruleID, q.enabled)] }

def fail (s : Page) (i : Nat) (q : Request) : Page :=
  { s with data := q.original, requests := s.requests.set i { q with outcome := .failed } }

/-- The request that is on its way with this number. -/
def pendingRequest (s : Page) (i : Nat) : Option Request :=
  (s.requests[i]?).filter (·.outcome = .pending)

end Page

inductive Act
  | toggleRule (rule : Rule)
  | approve
  | cancel
  | succeeded (i : Nat)
  | failed (i : Nat)
deriving DecidableEq, Repr

def step (s : Page) : Act → Option Page
  -- the button is that of a rule in the list
  | .toggleRule rule => if rule ∈ s.data then some (s.toggleRule rule) else none
  | .approve => s.pendingAction.map s.performToggle
  | .cancel => some { s with pendingAction := none }
  | .succeeded i => (s.pendingRequest i).map (s.succeed i)
  | .failed i => (s.pendingRequest i).map (s.fail i)

/-! ### What a run is to keep -/

/-- The flag that the last write for a rule leaves. -/
def latest (writes : List (String × Bool)) (id : String) (enabled : Bool) : Bool :=
  writes.foldl (fun v w => if w.1 = id then w.2 else v) enabled

def after (writes : List (String × Bool)) (r : Rule) : Rule :=
  { r with enabled := latest writes r.id r.enabled }

/-- Once all requests are settled, each rule shows the flag that was acknowledged last, or the one
it had at first. -/
def Converged (rules : List Rule) (s : Page) : Prop :=
  (∀ q ∈ s.requests, q.outcome ≠ .pending) → s.data = rules.map (after s.acknowledged)

/-- The failure of a toggle leaves the other rules as they are shown. -/
def UndoesItselfOnly (s t : Page) (i : Nat) : Prop :=
  ∀ q, s.requests[i]? = some q → ∀ (k : Nat) (r : Rule), s.data[k]? = some r → r.id ≠ q.ruleID →
    t.data[k]? = some r

def ShowsRule (s : Page) (rule : Rule) : Prop :=
  ∀ r ∈ s.data, r.id = rule.id → r.enabled = rule.enabled

/-- A rule is toggled from the flag that is shown, a request fails after all that started later, and
is acknowledged before those for its rule that started later. -/
def InOrder (s : Page) : Act → Prop
  | .toggleRule rule => ¬ (rule.enabled ∧ rule.isAutoResponse) → ShowsRule s rule
  | .approve => ∀ rule ∈ s.pendingAction, ShowsRule s rule
  | .cancel => True
  | .succeeded i =>
    ∀ q ∈ s.requests[i]?, ∀ q' ∈ s.requests.drop (i + 1), q'.ruleID = q.ruleID →
      q'.outcome ≠ .succeeded
  | .failed i => ∀ q' ∈ s.requests.drop (i + 1), q'.outcome = .failed

instance (s : Page) (rule : Rule) : Decidable (ShowsRule s rule) :=
  inferInstanceAs (Decidable (∀ r ∈ s.data, r.id = rule.id → r.enabled = rule.enabled))

instance (s : Page) : ∀ a, Decidable (InOrder s a)
  | .toggleRule rule =>
    inferInstanceAs (Decidable (¬ (rule.enabled ∧ rule.isAutoResponse) → ShowsRule s rule))
  | .approve => inferInstanceAs (Decidable (∀ rule ∈ s.pendingAction, ShowsRule s rule))
  | .cancel => .isTrue trivial
  | .succeeded i =>
    inferInstanceAs (Decidable (∀ q ∈ s.requests[i]?, ∀ q' ∈ s.requests.drop (i + 1),
      q'.ruleID = q.ruleID → q'.outcome ≠ .succeeded))
  | .failed i => inferInstanceAs (Decidable (∀ q' ∈ s.requests.drop (i + 1), q'.outcome = .failed))

/-! ### Writes -/

section
variable {ws ws' : List (String × Bool)} {id : String} {b : Bool}

theorem latest_append (ws ws' : List (String × Bool)) (id : String) (b : Bool) :
    latest (ws ++ ws') id b = latest ws' id (latest ws id b) := List.foldl_append

theorem latest_of_ne (h : ∀ w ∈ ws, w.1 ≠ id) : latest ws id b = b := by
  induction ws with
  | nil => rfl
  | cons w ws ih =>
    obtain ⟨hw, hws⟩ := List.forall_mem_cons.mp h
    rw [latest, List.foldl_cons, if_neg hw]
    exact ih hws

theorem latest_concat (ws : List (String × Bool)) (id id' : String) (b v : Bool) :
    latest (ws ++ [(id', v)]) id b = if id' = id then v else latest ws id b := by
  rw [latest_append]
  rfl

end

/-- The writes of the requests with such an outcome. -/
def writes (p : Outcome → Bool) (requests : List Request) : List (String × Bool) :=
  (requests.filter fun q => p q.outcome).map fun q => (q.ruleID, q.enabled)

def standing (requests : List Request) : List (String × Bool) := writes (· ≠ .failed) requests

def succeeded (requests : List Request) : List (String × Bool) := writes (· = .succeeded) requests

theorem writes_append (p : Outcome → Bool) (qs qs' : List Request) :
    writes p (qs ++ qs') = writes p qs ++ writes p qs' := by
  simp [writes]

theorem writes_cons (p : Outcome → Bool) (q : Request) (qs : List Request) :
    writes p (q :: qs) = (if p q.outcome then [(q.ruleID, q.enabled)] else []) ++ writes p qs := by
  unfold writes
  rw [List.filter_cons]
  split_ifs <;> rfl

theorem writes_eq_nil {p : Outcome → Bool} {qs : List Request} (h : ∀ q ∈ qs, p q.outcome = false) :
    writes p qs = [] := by
  rw [writes, List.map_eq_nil_iff, List.filter_eq_nil_iff]
  exact fun q hq => Bool.eq_false_iff.mp (h q hq)

/-! ### One step -/

/-- What is shown is the list with every toggle that has not failed, a request has kept the list
with those before it, and the requests for a rule are acknowledged in their order. -/
structure Tidy (rules : List Rule) (s : Page) : Prop where
  data : s.data = rules.map (after (standing s.requests))
  original : ∀ (k : Nat) (q : Request), s.requests[k]? = some q → q.outcome ≠ .failed →
    q.original = rules.map (after (standing (s.requests.take k)))
  acknowledged : ∀ id b, latest s.acknowledged id b = latest (succeeded s.requests) id b

section
variable {rules : List Rule} {s t : Page} {rule : Rule} {i : Nat} {q : Request} {a : Act}

theorem Tidy.converged (h : Tidy rules s) : Converged rules s := by
  intro hsettled
  have hsame : standing s.requests = succeeded s.requests := by
    unfold standing succeeded writes
    congr 1
    refine List.filter_congr fun q hq => ?_
    have hne := hsettled q hq
    cases hq' : q.outcome with
    | pending => exact absurd hq' hne
    | succeeded => rfl
    | failed => rfl
  rw [h.data, hsame]
  refine List.map_congr_left fun r _ => ?_
  rw [after, after, h.acknowledged]

/-- Requests that have all failed show nothing. -/
theorem standing_eq_of_failed {pre post : List Request} (hq : q.outcome = .failed)
    (hpost : ∀ q' ∈ post, q'.outcome = .failed) : standing (pre ++ q :: post) = standing pre := by
  have hnil : writes (· ≠ .failed) (q :: post) = [] := by
    refine writes_eq_nil (List.forall_mem_cons.mpr ⟨by simp [hq], fun q' hq' => ?_⟩)
    simp [hpost q' hq']
  rw [standing, writes_append, hnil, List.append_nil, standing]

theorem Tidy.performToggle (h : Tidy rules s) (hshows : ShowsRule s rule) :
    Tidy rules (s.performToggle rule) := by
  have hnew : standing (s.requests ++ [⟨rule.id, !rule.enabled, s.data, .pending⟩]) =
      standing s.requests ++ [(rule.id, !rule.enabled)] := by
    rw [standing, writes_append]
    rfl
  refine ⟨?_, ?_, ?_⟩
  · dsimp only [Page.performToggle]
    rw [hnew, h.data, List.map_map]
    refine List.map_congr_left fun r hr => ?_
    have hshown : (after (standing s.requests) r).id = rule.id →
        (after (standing s.requests) r).enabled = rule.enabled :=
      hshows _ (h.data ▸ List.mem_map_of_mem hr)
    rw [Function.comp_apply]
    by_cases hid : (after (standing s.requests) r).id = rule.id
    · have hid' : rule.id = r.id := hid.symm
      rw [if_pos hid, hshown hid]
      simp only [after, latest_concat, if_pos hid']
    · have hid' : rule.id ≠ r.id := Ne.symm hid
      rw [if_neg hid]
      simp only [after, latest_concat, if_neg hid']
  · intro k q hk hq
    dsimp only [Page.performToggle] at hk ⊢
    rcases lt_trichotomy k s.requests.length with hlt | rfl | hgt
    · rw [List.getElem?_append_left hlt] at hk
      rw [List.take_append_of_le_length hlt.le]
      exact h.original k q hk hq
    · rw [List.getElem?_concat_length] at hk
      cases hk
      rw [List.take_left]
      exact h.data
    · rw [List.getElem?_eq_none (by rw [List.length_append]; exact hgt)] at hk
      cases hk
  · intro id b
    have hsame : succeeded (s.performToggle rule).requests = succeeded s.requests := by
      dsimp only [Page.performToggle]
      rw [succeeded, writes_append]
      exact List.append_nil _
    rw [hsame]
    exact h.acknowledged id b

theorem Tidy.toggleRule (h : Tidy rules s)
    (hshows : ¬ (rule.enabled ∧ rule.isAutoResponse) → ShowsRule s rule) :
    Tidy rules (s.toggleRule rule) := by
  unfold Page.toggleRule
  split_ifs with himpact
  · exact ⟨h.data, h.original, h.acknowledged⟩
  · exact h.performToggle (hshows himpact)

/-- A request on its way, with those before and after it. -/
theorem pendingRequest_eq_some (h : s.pendingRequest i = some q) :
    s.requests[i]? = some q ∧ q.outcome = .pending ∧
      s.requests = s.requests.take i ++ q :: s.requests.drop (i + 1) ∧
      ∀ q', s.requests.set i q' = s.requests.take i ++ q' :: s.requests.drop (i + 1) := by
  obtain ⟨hq, hpending⟩ := Option.filter_eq_some_iff.mp h
  obtain ⟨hlt, rfl⟩ := List.getElem?_eq_some_iff.mp hq
  refine ⟨hq, by simpa using hpending, ?_,
    fun q' => List.set_eq_take_append_cons_drop.trans (if_pos hlt)⟩
  rw [List.getElem_cons_drop, List.take_append_drop]

/-- An acknowledged request stands as it stood. -/
theorem standing_set_succeeded {requests : List Request} (hq : q.outcome = .pending)
    (h : ∀ q', requests[i]? = some q' → q' = q) :
    standing (requests.set i { q with outcome := .succeeded }) = standing requests := by
  by_cases hlt : i < requests.length
  · have hi : requests[i] = q := h _ (List.getElem?_eq_getElem hlt)
    have hsplit : requests = requests.take i ++ q :: requests.drop (i + 1) := by
      rw [← hi, List.getElem_cons_drop, List.take_append_drop]
    rw [List.set_eq_take_append_cons_drop, if_pos hlt]
    conv_rhs => rw [hsplit]
    simp only [standing, writes_append, writes_cons]
    simp [hq]
  · rw [List.set_eq_of_length_le (not_lt.mp hlt)]

theorem Tidy.succeed (h : Tidy rules s) (hi : s.pendingRequest i = some q)
    (hg : ∀ q' ∈ s.requests.drop (i + 1), q'.ruleID = q.ruleID → q'.outcome ≠ .succeeded) :
    Tidy rules (s.succeed i q) := by
  obtain ⟨hget, hpending, hsplit, hset⟩ := pendingRequest_eq_some hi
  have honly : ∀ q', s.requests[i]? = some q' → q' = q :=
    fun q' hq' => Option.some.inj (hq'.symm.trans hget)
  refine ⟨?_, ?_, ?_⟩
  · exact h.data.trans (by rw [Page.succeed, standing_set_succeeded hpending honly])
  · intro k q' hk hne
    dsimp only [Page.succeed] at hk ⊢
    have htake : standing ((s.requests.set i { q with outcome := .succeeded }).take k) =
        standing (s.requests.take k) := by
      rw [List.take_set, standing_set_succeeded hpending]
      intro q' hq'
      rw [List.getElem?_take] at hq'
      split_ifs at hq'
      exact honly q' hq'
    rw [htake]
    rw [List.getElem?_set] at hk
    split_ifs at hk with hik hlt
    · cases hk
      subst hik
      exact h.original i q hget (by simp [hpending])
    · exact h.original k q' hk hne
  · intro id b
    have hlater : ∀ w ∈ succeeded (s.requests.drop (i + 1)), w.1 ≠ q.ruleID := by
      intro w hw
      obtain ⟨q', hq', rfl⟩ := List.mem_map.mp hw
      obtain ⟨hmem, hsucceeded⟩ := List.mem_filter.mp hq'
      exact fun hid => hg q' hmem hid (by simpa using hsucceeded)
    have hold : latest s.acknowledged id b =
        latest (succeeded (s.requests.drop (i + 1))) id
          (latest (succeeded (s.requests.take i)) id b) := by
      rw [h.acknowledged, ← latest_append]
      conv_lhs => rw [hsplit]
      simp [succeeded, writes_append, writes_cons, hpending]
    have hnew : latest (succeeded (s.succeed i q).requests) id b =
        latest (succeeded (s.requests.drop (i + 1))) id
          (latest (succeeded (s.requests.take i) ++ [(q.ruleID, q.enabled)]) id b) := by
      rw [← latest_append, Page.succeed]
      dsimp only
      rw [hset]
      simp [succeeded, writes_append, writes_cons]
    rw [hnew, Page.succeed]
    dsimp only
    rw [latest_concat, latest_concat]
    split_ifs with hid
    · subst hid
      exact (latest_of_ne hlater).symm
    · exact hold

theorem Tidy.fail (h : Tidy rules s) (hi : s.pendingRequest i = some q)
    (hg : ∀ q' ∈ s.requests.drop (i + 1), q'.outcome = .failed) : Tidy rules (s.fail i q) := by
  obtain ⟨hget, hpending, hsplit, hset⟩ := pendingRequest_eq_some hi
  refine ⟨?_, ?_, ?_⟩
  · dsimp only [Page.fail]
    rw [hset, standing_eq_of_failed rfl hg]
    exact h.original i q hget (by simp [hpending])
  · intro k q' hk hne
    dsimp only [Page.fail] at hk ⊢
    -- a request that has not failed started before this one
    have hki : k < i := by
      by_contra hge
      rcases (not_lt.mp hge).eq_or_lt with rfl | hlt
      · rw [List.getElem?_set_self (List.getElem?_eq_some_iff.mp hget).1] at hk
        cases hk
        exact hne rfl
      · rw [List.getElem?_set_ne hlt.ne] at hk
        refine hne (hg q' ?_)
        rw [List.mem_iff_getElem?]
        refine ⟨k - (i + 1), ?_⟩
        rw [List.getElem?_drop, Nat.add_sub_cancel' hlt]
        exact hk
    rw [List.getElem?_set_ne hki.ne'] at hk
    rw [List.take_set_of_le hki.le]
    exact h.original k q' hk hne
  · intro id b
    refine (h.acknowledged id b).trans ?_
    have hsame : succeeded (s.fail i q).requests = succeeded s.requests := by
      rw [Page.fail]
      dsimp only
      rw [hset]
      conv_rhs => rw [hsplit]
      simp [succeeded, writes_append, writes_cons, hpending]
    rw [hsame]

theorem tidy_step (hg : InOrder s a) (hs : step s a = some t) (h : Tidy rules s) :
    Tidy rules t := by
  cases a with
  | toggleRule rule =>
    obtain ⟨-, hs⟩ := Option.ite_none_right_eq_some.mp hs
    cases hs
    exact h.toggleRule hg
  | approve =>
    obtain ⟨rule, hrule, rfl⟩ := Option.map_eq_some_iff.mp hs
    exact h.performToggle (hg rule hrule)
  | cancel =>
    cases hs
    exact ⟨h.data, h.original, h.acknowledged⟩
  | succeeded i =>
    obtain ⟨q, hq, rfl⟩ := Option.map_eq_some_iff.mp hs
    exact h.succeed hq (hg q (pendingRequest_eq_some hq).1)
  | failed i =>
    obtain ⟨q, hq, rfl⟩ := Option.map_eq_some_iff.mp hs
    exact h.fail hq hg

/-- What the failure takes back is the toggle itself, since all that came later has been taken back
already. -/
theorem Tidy.undoesItselfOnly (h : Tidy rules s) (hg : InOrder s (.failed i))
    (hs : step s (.failed i) = some t) :
    UndoesItselfOnly s t i := by
  obtain ⟨q, hi, rfl⟩ := Option.map_eq_some_iff.mp hs
  obtain ⟨hget, hpending, hsplit, -⟩ := pendingRequest_eq_some hi
  intro q' hq' k r hk hne
  cases hget.symm.trans hq'
  have hlater : standing (s.requests.drop (i + 1)) = [] :=
    writes_eq_nil fun q' hq' => by simp [hg q' hq']
  have hstanding : standing s.requests = standing (s.requests.take i) ++
      [(q.ruleID, q.enabled)] := by
    conv_lhs => rw [hsplit]
    rw [standing, writes_append, writes_cons, ← standing, ← standing, hlater]
    simp [hpending]
  rw [h.data, hstanding, List.getElem?_map, Option.map_eq_some_iff] at hk
  obtain ⟨r₀, hr₀, rfl⟩ := hk
  dsimp only [Page.fail]
  rw [h.original i q hget (by simp [hpending]), List.getElem?_map, hr₀, Option.map_some,
    Option.some.injEq]
  have hne' : q.ruleID ≠ r₀.id := Ne.symm hne
  simp only [after, latest_concat, if_neg hne']

end

/-! ### Runs -/

theorem tidy_init (rules : List Rule) : Tidy rules { data := rules } := by
  refine ⟨?_, nofun, fun _ _ => rfl⟩
  exact (List.map_id rules).symm

/-- Toggles in order converge, and the failure of one leaves what is shown of the other rules. -/
theorem toggles_converge (rules : List Rule) (s : Page)
    (h : Reach step InOrder { data := rules } s) :
    Converged rules s ∧ ∀ i t, InOrder s (.failed i) → step s (.failed i) = some t →
      UndoesItselfOnly s t i := by
  have htidy : Tidy rules s := h.invariant (tidy_init rules) tidy_step
  exact ⟨htidy.converged, fun i t hg hs => htidy.undoesItselfOnly hg hs⟩

def scanRule : Rule := ⟨"rule-scan", false, false, []⟩

def loginRule : Rule := ⟨"rule-login", false, false, []⟩

/-- The first toggle is acknowledged, the second fails. -/
def settledToggles : List Act :=
  [.toggleRule scanRule, .succeeded 0, .toggleRule loginRule, .failed 1]

theorem settled_toggles_converge :
    ∃ s, Reach step InOrder { data := [scanRule, loginRule] } s ∧
      s.requests.map (·.outcome) = [.succeeded, .failed] ∧
      s.data = [{ scanRule with enabled := true }, loginRule] ∧
        Converged [scanRule, loginRule] s := by
  have hrun : (run step InOrder { data := [scanRule, loginRule] } settledToggles).isSome := by
    decide
  have hreach := Reach.get_run settledToggles hrun
  exact ⟨_, hreach, rfl, rfl, (toggles_converge _ _ hreach).1⟩

/-- The first toggle fails after the second has been acknowledged. -/
def lateFailure : List Act := [.toggleRule scanRule, .toggleRule loginRule, .succeeded 1, .failed 0]

theorem late_failure_undoes_other :
    ¬ ∀ (rules : List Rule) (s : Page), Reach step free { data := rules } s →
      Converged rules s := by
  intro h
  have hconverged := h [scanRule, loginRule] _ (.of_run lateFailure rfl) (by decide)
  revert hconverged
  decide

end AlertRules
end SocFabric
