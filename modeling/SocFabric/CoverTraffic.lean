import SocFabric.Lib.PyNumber
import SocFabric.RatOrder

/-!
# Cover traffic

Flows of other connections beside those of a RAT take nothing from it: no check answers with less for
them (`Covers`), so a finding stays a finding with at least its score and its triggers. But `analyze`
converts their numbers, and a number that `int` or `float` does not take raises and hides it
(`long_flow_hides`); where the conversions succeed, and only there, the finding is kept
(`cover_traffic_hides_nothing_iff`).
-/

namespace SocFabric
namespace Rat
open Triage RaisingLoop

variable {R : Type} [PyNum R] {lib : RatLib R} {F G procs : List (Telemetry R)}

/-- The flows have the same connection tuple, as `_check_beacon_pattern` reads it. -/
def SameTuple (f g : Telemetry R) : Prop :=
  pyEq (f.get "source_ip" (.str "")) (g.get "source_ip" (.str "")) = true ∧
    pyEq (f.get "destination_ip" (.str "")) (g.get "destination_ip" (.str "")) = true ∧
    pyEq (f.get "destination_port" (.int 0)) (g.get "destination_port" (.int 0)) = true

/-- An answer with at least the score and the triggers of another. -/
def Covers (triggers : List (String × Json) → List String) (r r' : CheckResult) : Prop :=
  r.score ≤ r'.score ∧ r.triggers triggers ⊆ r'.triggers triggers

/-! ### Beacons -/

section
variable {lib : BeaconLib R}

theorem samplesOf_append (F G : List (Telemetry R)) :
    samplesOf lib (F ++ G) = samplesOf lib F ++ samplesOf lib G :=
  List.filterMap_append

/-- Samples of other connections belong to other keys. -/
theorem eq_false_of_disjoint (h : ∀ f ∈ F, ∀ g ∈ G, ¬ SameTuple f g) {s t : BeaconKey R × Datetime}
    (hs : s ∈ samplesOf lib F) (ht : t ∈ samplesOf lib G) : t.1.eq s.1 = false := by
  obtain ⟨f, hf, hs⟩ := List.mem_filterMap.mp hs
  obtain ⟨g, hg, ht⟩ := List.mem_filterMap.mp ht
  obtain ⟨hsrc, hdst, hport, -⟩ := of_sample (Option.join_eq_some_iff.mp hs)
  obtain ⟨hsrc', hdst', hport', -⟩ := of_sample (Option.join_eq_some_iff.mp ht)
  rw [Bool.eq_false_iff]
  intro heq
  obtain ⟨hsrceq, hdsteq, hporteq⟩ := BeaconKey.eq_iff.mp heq
  refine h f hf g hg ⟨?_, ?_, ?_⟩
  · rw [← hsrc, ← hsrc']
    exact pyEq_symm hsrceq
  · rw [← hdst, ← hdst', hdsteq]
    simp [pyEq]
  · rw [← hport, ← hport']
    exact pyEq_symm hporteq

theorem classOf_append_of_disjoint (h : ∀ f ∈ F, ∀ g ∈ G, ¬ SameTuple f g)
    {s : BeaconKey R × Datetime} (hs : s ∈ samplesOf lib F) :
    classOf (samplesOf lib (F ++ G)) s.1 = classOf (samplesOf lib F) s.1 := by
  have hnone : (samplesOf lib G).filter (fun t => t.1.eq s.1) = [] := by
    rw [List.filter_eq_nil_iff]
    exact fun t ht => Bool.eq_false_iff.mp (eq_false_of_disjoint h hs ht)
  rw [samplesOf_append, classOf, List.filter_append, hnone, List.append_nil, classOf]

theorem connectionScores_subset (h : ∀ f ∈ F, ∀ g ∈ G, ¬ SameTuple f g) :
    connectionScores lib (samplesOf lib F) ⊆ connectionScores lib (samplesOf lib (F ++ G)) := by
  rintro x (rfl | ⟨s, hs, rfl⟩)
  · exact .inl rfl
  · refine .inr ⟨s, ?_, by rw [classOf_append_of_disjoint h hs]⟩
    rw [samplesOf_append]
    exact List.mem_append_left _ hs

theorem covers_beacon [LawfulPyNum R] (h : ∀ f ∈ F, ∀ g ∈ G, ¬ SameTuple f g) {r r' : CheckResult}
    (hr : checkBeaconPattern lib F = some r) (hr' : checkBeaconPattern lib (F ++ G) = some r') :
    Covers (fun _ => ["beacon_pattern"]) r r' := by
  obtain ⟨hflag, hgreatest⟩ := isGreatest_beacon hr
  obtain ⟨hflag', hgreatest'⟩ := isGreatest_beacon hr'
  have hle : r.score ≤ r'.score := hgreatest'.2 (connectionScores_subset h hgreatest.1)
  have hpos : 0 ≤ r.score := hgreatest.2 (.inl rfl)
  refine ⟨hle, ?_⟩
  rw [hflag, hflag']
  split_ifs with hzero hzero'
  · simp
  · simp
  · omega
  · simp

end

/-! ### Sums -/

theorem longLivedEffect_nonneg {f : Telemetry R} {e : Effect} (h : longLivedEffect lib f = some e) :
    0 ≤ e.score := by
  simp only [longLivedEffect, Option.bind_eq_bind, Option.bind_eq_some_iff] at h
  obtain ⟨duration, -, h⟩ := h
  split_ifs at h
  · obtain ⟨x, -, h⟩ := Option.bind_eq_some_iff.mp h
    split_ifs at h <;> cases h
    · exact (by decide : 0 ≤ scoreLongLivedConn)
    · exact le_rfl
  · cases h
    exact le_rfl

theorem unknownBinaryEffect_nonneg {names : List (Int × String)} {f : Telemetry R} {e : Effect}
    (h : unknownBinaryEffect lib names f = some e) : 0 ≤ e.score := by
  simp only [unknownBinaryEffect, Option.bind_eq_bind, Option.bind_eq_some_iff] at h
  obtain ⟨external, -, h⟩ := h
  split_ifs at h
  · obtain ⟨name, -, h⟩ := Option.bind_eq_some_iff.mp h
    split_ifs at h with hname hbenign
    · cases h
      decide
    · obtain ⟨long, hlong, h⟩ := Option.bind_eq_some_iff.mp h
      cases h
      exact add_nonneg (by decide) (longLivedEffect_nonneg hlong)
    · obtain ⟨long, hlong, h⟩ := Option.bind_eq_some_iff.mp h
      cases h
      exact add_nonneg (show 0 ≤ scoreUnknownBinary by decide) (longLivedEffect_nonneg hlong)
  · cases h
    decide

theorem novelEffect_nonneg {f : Telemetry R} {e : Effect} (h : novelEffect lib f = some e) :
    0 ≤ e.score := by
  simp only [novelEffect, Option.bind_eq_bind, Option.bind_eq_some_iff] at h
  obtain ⟨port, -, sent, -, received, -, external, -, h⟩ := h
  split_ifs at h <;> cases h <;> simp [Effect.and, scoreSuspiciousPort, scoreNovelDest]

/-- Rounds that take nothing away only add to the score. -/
theorem score_le_of_append {effects effects' : List Effect} (h : ∀ e ∈ effects', 0 ≤ e.score) :
    (effects.foldl Tally.add {}).score ≤ ((effects ++ effects').foldl Tally.add {}).score := by
  rw [tally_score, tally_score, List.map_append, List.sum_append]
  have hsum : 0 ≤ (effects'.map Effect.score).sum := List.sum_nonneg (by simpa using h)
  omega

theorem covers_unknownBinary {r r' : CheckResult} (hr : checkUnknownBinary lib F procs = some r)
    (hr' : checkUnknownBinary lib (F ++ G) procs = some r') :
      Covers (fun _ => ["unknown_binary"]) r r' := by
  obtain ⟨names, hnames, -, rfl⟩ := checkUnknownBinary_eq_some_iff.mp hr
  obtain ⟨names', hnames', -, rfl⟩ := checkUnknownBinary_eq_some_iff.mp hr'
  cases hnames.symm.trans hnames'
  have happend : unknownBinaryEffects lib names (F ++ G) =
      unknownBinaryEffects lib names F ++ unknownBinaryEffects lib names G := List.filterMap_append
  rw [happend]
  refine ⟨score_le_of_append fun e he => ?_, ?_⟩
  · obtain ⟨g, -, hg⟩ := List.mem_filterMap.mp he
    exact unknownBinaryEffect_nonneg hg
  · rw [triggers_unknownBinary, triggers_unknownBinary]
    by_cases hnone : ∀ e ∈ unknownBinaryEffects lib names F, e.writes = [] ∧ e.binaries = []
    · rw [if_pos hnone]
      exact List.nil_subset _
    · rw [if_neg hnone, if_neg fun hall => hnone fun e he => hall e (List.mem_append_left _ he)]
      exact List.Subset.refl _

theorem covers_novelDestination {r r' : CheckResult} (hr : checkNovelDestination lib F = some r)
    (hr' : checkNovelDestination lib (F ++ G) = some r') : Covers novelTriggers r r' := by
  obtain ⟨-, rfl⟩ := checkNovelDestination_eq_some_iff.mp hr
  obtain ⟨-, rfl⟩ := checkNovelDestination_eq_some_iff.mp hr'
  have happend : novelEffects lib (F ++ G) = novelEffects lib F ++ novelEffects lib G :=
    List.filterMap_append
  rw [happend]
  refine ⟨score_le_of_append fun e he => ?_, ?_⟩
  · obtain ⟨g, -, hg⟩ := List.mem_filterMap.mp he
    exact novelEffect_nonneg hg
  · rw [triggers_novel, triggers_novel]
    intro key hkey
    obtain ⟨hkey, e, he, hwrites⟩ := mem_novelTriggers.mp hkey
    exact mem_novelTriggers.mpr ⟨hkey, e, List.mem_append_left _ he, hwrites⟩

theorem covers_c2Domain {r r' : CheckResult} (hr : checkC2Domain F = some r)
    (hr' : checkC2Domain (F ++ G) = some r') : Covers (fun _ => ["c2_domain"]) r r' := by
  obtain ⟨-, hyes, hno⟩ := of_checkC2Domain hr
  obtain ⟨-, hyes', hno'⟩ := of_checkC2Domain hr'
  by_cases hc2 : ShowsC2 F
  · obtain ⟨f, hf, hentry⟩ := hc2
    have hc2' : ShowsC2 (F ++ G) := ⟨f, List.mem_append_left _ hf, hentry⟩
    rw [Covers, (hyes ⟨f, hf, hentry⟩).1, (hyes ⟨f, hf, hentry⟩).2, (hyes' hc2').1, (hyes' hc2').2]
    exact ⟨le_rfl, List.Subset.refl _⟩
  · rw [Covers, (hno hc2).1, (hno hc2).2]
    refine ⟨?_, List.nil_subset _⟩
    by_cases hc2' : ShowsC2 (F ++ G)
    · rw [(hyes' hc2').1]
      decide
    · rw [(hno' hc2').1]

/-! ### Conversions -/

/-- The event gives a process with this pid a name. -/
def NamesPid (p : Telemetry R) (n : Int) : Prop :=
  (p.get "process_name" .none).truth = true ∧ (p.get "pid" .none).truth = true ∧
    (p.get "pid" .none).toInt = some n

/-- The process behind the flow has a name: the flow says it, or an event of its pid. -/
def Named (procs : List (Telemetry R)) (f : Telemetry R) : Prop :=
  (f.get "process_name" .none).truth = true ∨ (f.get "application" .none).truth = true ∨
    ∃ p ∈ procs, ∃ n, NamesPid p n ∧ pyEq (f.get "pid" .none) (.int n) = true

/-- `int` takes the port and the byte counts of the flow, and `float` its duration where a check reads
it: for an external destination and a process with a name. -/
structure Convertible (lib : RatLib R) (procs : List (Telemetry R)) (f : Telemetry R) : Prop where
  ints : ∀ key ∈ intFields, (f.get key (.int 0)).toInt ≠ none
  duration : isExternalIp (destinationIp f) = some true → Named procs f → DurationReadable lib f

theorem lowered_eq_empty_iff {v : PyVal R} {s : String} (h : lowered v = some s) :
    s = "" ↔ v.truth = false := by
  unfold lowered at h
  split_ifs at h with htruth
  · obtain ⟨t, ht, rfl⟩ := Option.map_eq_some_iff.mp h
    rw [Text.pyLower_eq_empty_iff, htruth]
    refine iff_of_false ?_ Bool.noConfusion
    rintro rfl
    cases v with
    | str s =>
      cases ht
      cases htruth
    | none | bool _ | int _ | num _ | datetime _ _ | other _ => cases ht
  · cases h
    exact iff_of_true rfl (Bool.eq_false_iff.mpr htruth)

/-- The pids of the map, and its names, which are not empty. -/
structure PidMap (names : List (Int × String)) (pids : Set Int) : Prop where
  keys : ∀ n, n ∈ names.map Prod.fst ↔ n ∈ pids
  named : ∀ x ∈ names, x.2 ≠ ""

theorem PidMap.put {names : List (Int × String)} {pids : Set Int} (h : PidMap names pids) {n : Int}
    {name : String} (hname : name ≠ "") : PidMap (KeyedStore.put n name names) (insert n pids) where
  keys m := by
    rw [KeyedStore.keys_put, Set.mem_insert_iff, ← h.keys]
    split_ifs with hmem
    · exact ⟨.inr, fun hm => hm.elim (fun heq => heq ▸ hmem) id⟩
    · rw [List.mem_append, List.mem_singleton, or_comm]
  named x hx := by
    rcases KeyedStore.mem_put hx with rfl | hx
    · exact hname
    · exact h.named x hx

/-- An event adds the pid that it names. -/
theorem PidMap.step {names names' : List (Int × String)} {pids : Set Int} {p : Telemetry R}
    (h : PidMap names pids) (hstep : pidStep names p = some names') :
    PidMap names' (pids ∪ {n | NamesPid p n}) := by
  unfold pidStep at hstep
  rw [Option.bind_eq_bind, Option.bind_eq_some_iff] at hstep
  obtain ⟨name, hname, hstep⟩ := hstep
  have htruth := lowered_eq_empty_iff hname
  split_ifs at hstep with hput
  · obtain ⟨n, hn, heq⟩ := Option.bind_eq_some_iff.mp hstep
    cases heq
    have hpids : {m | NamesPid p m} = {n} := by
      ext m
      simp [NamesPid, hput.1, hn, Bool.eq_true_of_not_eq_false (mt htruth.mpr hput.2), eq_comm]
    rw [hpids, Set.union_singleton]
    exact h.put hput.2
  · cases hstep
    have hpids : {m | NamesPid p m} = ∅ := by
      ext m
      refine iff_of_false (fun hm => hput ⟨hm.2.1, fun hempty => ?_⟩) (Set.notMem_empty m)
      exact Bool.noConfusion (hm.1.symm.trans (htruth.mp hempty))
    rwa [hpids, Set.union_empty]

theorem PidMap.foldlM {procs : List (Telemetry R)} {names names' : List (Int × String)}
    {pids : Set Int} (h : PidMap names pids) (hfold : procs.foldlM pidStep names = some names') :
    PidMap names' (pids ∪ {n | ∃ p ∈ procs, NamesPid p n}) := by
  induction procs generalizing names pids with
  | nil =>
    cases hfold
    simpa using h
  | cons p procs ih =>
    rw [List.foldlM_cons, Option.bind_eq_bind, Option.bind_eq_some_iff] at hfold
    obtain ⟨names₁, hstep, hfold⟩ := hfold
    have hunion : {n | ∃ q ∈ p :: procs, NamesPid q n} =
        {n | NamesPid p n} ∪ {n | ∃ q ∈ procs, NamesPid q n} := by
      ext n
      simp
    rw [hunion, ← Set.union_assoc]
    exact ih (h.step hstep) hfold

theorem pidMap_of_pidToName {names : List (Int × String)} (h : pidToName procs = some names) :
    PidMap names {n | ∃ p ∈ procs, NamesPid p n} := by
  have hnil : PidMap [] ∅ := ⟨by simp, by simp⟩
  simpa using hnil.foldlM h

theorem processName_eq_empty_iff {f : Telemetry R} (hf : WellTyped f) {names : List (Int × String)}
    (hnames : pidToName procs = some names) :
    processName names f = some "" ↔ ¬ Named procs f := by
  have hmap := pidMap_of_pidToName hnames
  have hpids : (∃ p ∈ procs, ∃ n, NamesPid p n ∧ pyEq (f.get "pid" .none) (.int n) = true) ↔
      ∃ x ∈ names, pyEq (f.get "pid" .none) (.int x.1) = true := by
    constructor
    · rintro ⟨p, hp, n, hn, heq⟩
      obtain ⟨x, hx, rfl⟩ := List.mem_map.mp ((hmap.keys n).mpr ⟨p, hp, hn⟩)
      exact ⟨x, hx, heq⟩
    · rintro ⟨x, hx, heq⟩
      obtain ⟨p, hp, hn⟩ := (hmap.keys x.1).mp (List.mem_map_of_mem hx)
      exact ⟨p, hp, x.1, hn, heq⟩
  rw [Named, hpids]
  unfold processName
  split_ifs with hname
  · have hkey : "process_name" ∈ textFields := by decide
    obtain ⟨s, hs⟩ := Option.ne_none_iff_exists'.mp (hf.getText hkey (.inl rfl)).lowered_ne_none
    have hempty := lowered_eq_empty_iff hs
    rw [hs, Option.some.injEq, hempty, hname]
    simp
  · rw [nameOfPid, if_pos (hf.getNumeric (by decide) (.inl rfl)).hashable]
    cases hfind : names.find? fun x => pyEq (f.get "pid" .none) (.int x.1) with
    | some x =>
      have hx := List.find?_some hfind
      refine iff_of_false ?_ (not_not.mpr (.inr (.inr ⟨x, List.mem_of_find?_eq_some hfind, hx⟩)))
      simp [Text.pyLower_eq_empty_iff, hmap.named x (List.mem_of_find?_eq_some hfind)]
    | none =>
      have hno : ¬ ∃ x ∈ names, pyEq (f.get "pid" .none) (.int x.1) = true := by
        simpa using hfind
      have hkey : "application" ∈ textFields := by decide
      obtain ⟨s, hs⟩ := Option.ne_none_iff_exists'.mp (hf.getText hkey (.inl rfl)).lowered_ne_none
      have hempty := lowered_eq_empty_iff hs
      simp [hs, hempty, hname, hno]

/-- The two checks that convert numbers of a flow answer for it if and only if it is convertible. -/
theorem convertible_iff {g : Telemetry R} (hg : WellTyped g) {names : List (Int × String)}
    (hnames : pidToName procs = some names) :
    Convertible lib procs g ↔ unknownBinaryEffect lib names g ≠ none ∧ novelEffect lib g ≠ none := by
  rw [unknownBinaryEffect_ne_none_iff hg, novelEffect_ne_none_iff hg, Ne,
    processName_eq_empty_iff hg hnames, not_not]
  exact ⟨fun h => ⟨h.duration, h.ints⟩, fun h => ⟨h.2, h.1⟩⟩

/-! ### The finding -/

/-- Where the checks have answered for some flows, they answer for more that are convertible, with no
less. -/
theorem answered_append [LawfulPyNum R] (h : ∀ f ∈ F, ∀ g ∈ G, ¬ SameTuple f g)
    (hkind : OneKind ((F ++ G).filterMap (timestamp lib.toBeaconLib)))
    (hG : ∀ g ∈ G, WellTyped g) (hconv : ∀ g ∈ G, Convertible lib procs g) {a : Answers}
    (ha : Answered (ratChecks lib) F procs a) :
    ∃ a', Answered (ratChecks lib) (F ++ G) procs a' ∧ a.score ≤ a'.score ∧
      a.triggers ⊆ a'.triggers := by
  have hkindF : OneKind (F.filterMap (timestamp lib.toBeaconLib)) := by
    rw [List.filterMap_append] at hkind
    exact hkind.imp (fun h t ht => h t (List.mem_append_left _ ht)) fun h t ht =>
      h t (List.mem_append_left _ ht)
  -- what the checks ask of a flow holds of `F`, since they have answered, and of `G` as assumed
  have hbeacon : (checkBeaconPattern lib.toBeaconLib (F ++ G)).isSome := by
    have hF := (checkBeaconPattern_isSome_iff hkindF).mp
        (Option.isSome_iff_exists.mpr ⟨_, ha.beacon⟩)
    exact (checkBeaconPattern_isSome_iff hkind).mpr
      (List.forall_mem_append.mpr ⟨hF, fun g hg => (hG g hg).keyReadable _⟩)
  obtain ⟨names, hnames, hunknownF⟩ := checkUnknownBinary_isSome_iff.mp
    (Option.isSome_iff_exists.mpr ⟨_, ha.unknownBinary⟩)
  have heffects (g : Telemetry R) (hg : g ∈ G) := (convertible_iff (hG g hg) hnames).mp (hconv g hg)
  have hunknown : (checkUnknownBinary lib (F ++ G) procs).isSome :=
    checkUnknownBinary_isSome_iff.mpr ⟨names, hnames, List.forall_mem_append.mpr
      ⟨hunknownF, fun g hg => (heffects g hg).1⟩⟩
  have hnovel : (checkNovelDestination lib (F ++ G)).isSome := by
    have hF := checkNovelDestination_isSome_iff.mp (Option.isSome_iff_exists.mpr ⟨_, ha.novel⟩)
    exact checkNovelDestination_isSome_iff.mpr
      (List.forall_mem_append.mpr ⟨hF, fun g hg => (heffects g hg).2⟩)
  have hc2 : (checkC2Domain (F ++ G)).isSome := by
    have hF := checkC2Domain_isSome_iff.mp (Option.isSome_iff_exists.mpr ⟨_, ha.c2⟩)
    exact checkC2Domain_isSome_iff.mpr (List.forall_mem_append.mpr
      ⟨hF, fun g hg => c2Entry_ne_none (hG g hg)⟩)
  obtain ⟨beacon, hbeacon⟩ := Option.isSome_iff_exists.mp hbeacon
  obtain ⟨unknownBinary, hunknown⟩ := Option.isSome_iff_exists.mp hunknown
  obtain ⟨novel, hnovel⟩ := Option.isSome_iff_exists.mp hnovel
  obtain ⟨c2, hc2⟩ := Option.isSome_iff_exists.mp hc2
  have hb := covers_beacon h ha.beacon hbeacon
  have hu := covers_unknownBinary ha.unknownBinary hunknown
  have hn := covers_novelDestination ha.novel hnovel
  have hc := covers_c2Domain ha.c2 hc2
  refine ⟨⟨beacon, unknownBinary, a.guiSpawn, novel, c2⟩,
    ⟨hbeacon, hunknown, ha.guiSpawn, hnovel, hc2⟩, ?_, ?_⟩
  · exact add_le_add (add_le_add (add_le_add (add_le_add hb.1 hu.1) le_rfl) hn.1) hc.1
  · intro x hx
    simp only [Answers.triggers, List.mem_append] at hx ⊢
    exact hx.imp (Or.imp (Or.imp_left (Or.imp (@hb.2 x) (@hu.2 x))) (@hn.2 x)) (@hc.2 x)

/-- An analysis that returns a finding has converted the numbers of every flow. -/
theorem convertible_of_analyze {threshold : Int} {processEvents : Option (List (Telemetry R))}
    {endpointID : Option String} {tenantID : String} {flows : List (Telemetry R)} {finding : Finding}
    (h : analyze (ratChecks lib) threshold flows processEvents endpointID tenantID =
      .returned (some finding)) {g : Telemetry R} (hg : g ∈ flows) (htyped : WellTyped g) :
    Convertible lib (processEvents.getD []) g := by
  obtain ⟨-, e, -, he, -⟩ := analyze_eq_found_iff.mp h
  obtain ⟨a, ha, -⟩ := answered_of_gather he
  obtain ⟨names, hnames, hunknown⟩ := checkUnknownBinary_isSome_iff.mp
    (Option.isSome_iff_exists.mpr ⟨_, ha.unknownBinary⟩)
  have hnovel := checkNovelDestination_isSome_iff.mp (Option.isSome_iff_exists.mpr ⟨_, ha.novel⟩)
  exact (convertible_iff htyped hnames).mpr ⟨hunknown g hg, hnovel g hg⟩

/-- More flows of other connections leave a finding with at least its score and its triggers, if and
only if their numbers are convertible. -/
theorem cover_traffic_hides_nothing_iff [LawfulPyNum R] (lib : RatLib R) (threshold : Int)
    (processEvents : Option (List (Telemetry R))) (endpointID : Option String) (tenantID : String)
    {F G : List (Telemetry R)} {finding : Finding}
    (hfound : analyze (ratChecks lib) threshold F processEvents endpointID tenantID =
      .returned (some finding))
    (hdisjoint : ∀ f ∈ F, ∀ g ∈ G, ¬ SameTuple f g)
    (hkind : OneKind ((F ++ G).filterMap (timestamp lib.toBeaconLib)))
    (hG : ∀ g ∈ G, WellTyped g) :
    (∃ finding', analyze (ratChecks lib) threshold (F ++ G) processEvents endpointID tenantID =
        .returned (some finding') ∧
      finding.score ≤ finding'.score ∧ finding.evidence.triggers ⊆ finding'.evidence.triggers) ↔
      ∀ g ∈ G, Convertible lib (processEvents.getD []) g := by
  constructor
  · rintro ⟨finding', hfound', -⟩ g hg
    exact convertible_of_analyze hfound' (List.mem_append_right F hg) (hG g hg)
  intro hconv
  obtain ⟨hne, e, ip, he, hle, hip, rfl⟩ := analyze_eq_found_iff.mp hfound
  obtain ⟨a, ha, htriggers, hscore⟩ := answered_of_gather he
  obtain ⟨a', ha', hscore_le, hsub⟩ := answered_append hdisjoint hkind hG hconv ha
  obtain ⟨e', he', htriggers', hscore'⟩ := gather_of_answered ha'
  rw [← hscore, ← hscore'] at hscore_le
  have hsource : (primarySourceIp lib (F ++ G)).isSome := by
    have hF := primarySourceIp_isSome_iff.mp (Option.isSome_iff_exists.mpr ⟨_, hip⟩)
    exact primarySourceIp_isSome_iff.mpr
      (List.forall_mem_append.mpr ⟨hF, fun g hg => countedSource_ne_none (hG g hg)⟩)
  obtain ⟨ip', hip'⟩ := Option.isSome_iff_exists.mp hsource
  refine ⟨_, analyze_eq_found_iff.mpr ⟨by simp [hne], e', ip', he', hle.trans hscore_le, hip', rfl⟩,
    ?_, ?_⟩
  · exact min_le_min_right 100 hscore_le
  · change e.triggers ⊆ e'.triggers
    rwa [htriggers, htriggers']

/-! ### A beacon among other flows -/

/-- A flow to another address. -/
def coverFlow : Telemetry Rat :=
  [("source_ip", .str "192.168.1.50"), ("destination_ip", .str "198.51.100.7"),
    ("destination_port", .int 443),
    ("timestamp", .str "2026-03-01T12:01:00Z"), ("bytes_out", .int 90000), ("bytes_in", .int 4000)]

theorem wellTyped_of_forall {f : Telemetry R}
    (h : ∀ x ∈ f, (x.1 ∈ textFields → IsText x.2) ∧ (x.1 ∈ numberFields → IsNumeric x.2)) :
    WellTyped f where
  text _ hkey _ hv := (h _ (KeyedStore.mem_of_lookup hv)).1 hkey
  number _ hkey _ hv := (h _ (KeyedStore.mem_of_lookup hv)).2 hkey

theorem coverFlow_wellTyped : WellTyped coverFlow :=
  wellTyped_of_forall (by simp [coverFlow, textFields, numberFields, IsText, IsNumeric, PyVal.number])

def Result.finding : Result → Option Finding
  | .raised => none
  | .returned finding => finding

theorem Result.finding_eq_some {r : Result} {f : Finding} (h : r.finding = some f) :
    r = .returned (some f) := by
  cases r with
  | raised => cases h
  | returned finding =>
    cases h
    rfl

theorem beacon_beside_cover_found :
    ∃ finding finding', analyze (ratChecks minuteRatLib) 55 minuteBeacon none none "default-tenant" =
        .returned (some finding) ∧
      analyze (ratChecks minuteRatLib) 55 (minuteBeacon ++ [coverFlow]) none none "default-tenant" =
        .returned (some finding') ∧
      finding.score ≤ finding'.score ∧ finding.evidence.triggers ⊆ finding'.evidence.triggers := by
  have hsome : (analyze (ratChecks minuteRatLib) 55 minuteBeacon none none "default-tenant").finding.isSome := by
    decide +kernel
  obtain ⟨finding, hfinding⟩ := Option.isSome_iff_exists.mp hsome
  have hdisjoint : ∀ f ∈ minuteBeacon, ∀ g ∈ [coverFlow], ¬ SameTuple f g := by
    unfold SameTuple
    decide +kernel
  have hints : ∀ key ∈ intFields, (coverFlow.get key (.int 0)).toInt ≠ none := by decide +kernel
  have hconv : Convertible minuteRatLib [] coverFlow := ⟨hints, fun _ _ => ⟨.int 0, rfl, by decide⟩⟩
  obtain ⟨finding', h⟩ := (cover_traffic_hides_nothing_iff minuteRatLib 55 none none "default-tenant"
    (Result.finding_eq_some hfinding) hdisjoint (by decide +kernel)
    (List.forall_mem_singleton.mpr coverFlow_wellTyped)).mpr (List.forall_mem_singleton.mpr hconv)
  exact ⟨finding, finding', Result.finding_eq_some hfinding, h⟩

/-! ### A number that is too large for a float -/

/-- The numbers of the flow are not negative. -/
def NonNegative (f : Telemetry R) : Prop :=
  ∀ key ∈ numberFields ++ ["flow_duration_ms", "flow_duration"], ∀ v, f.lookup key = some v →
    ∃ x, v.number = some x ∧ PyNum.le (PyNum.ofInt 0) x = true

/-- Python's numbers, for flows without a timestamp. -/
def timelessLib : RatLib PyNumber where
  datetime _ := none
  totalSeconds n := .float (n / 1000000)
  mean xs := .float ((xs.map PyNumber.val).sum / xs.length)
  stdev _ := .float 0
  round x _ := x
  json _ := .null
  times1000 _ := none
  str _ := ""

/-- An unknown binary talks to a C2 domain. -/
def implantFlow : Telemetry PyNumber :=
  [("source_ip", .str "192.168.1.50"), ("destination_ip", .str "203.0.113.9"),
    ("destination_port", .int 443), ("process_name", .str "updater.exe"),
    ("domain", .str "c2.evil-corp.com")]

/-- A duration that no double holds. -/
def longDuration : Int := 10 ^ 400

/-- A browser's flow. -/
def longFlow : Telemetry PyNumber :=
  [("source_ip", .str "192.168.1.50"), ("destination_ip", .str "198.51.100.7"),
    ("destination_port", .int 443), ("process_name", .str "chrome"),
    ("flow_duration_ms", .int longDuration)]

theorem longFlow_wellTyped : WellTyped longFlow :=
  wellTyped_of_forall (by simp [longFlow, textFields, numberFields, IsText, IsNumeric, PyVal.number])

theorem longDuration_large : (2 : Int) ^ 1024 ≤ longDuration := by
  have hroot : (2 : Int) ^ 128 ≤ 10 ^ 50 := by norm_num
  calc (2 : Int) ^ 1024 = (2 ^ 128) ^ 8 := by rw [← pow_mul]
    _ ≤ (10 ^ 50) ^ 8 := pow_le_pow_left₀ (by norm_num) hroot 8
    _ = longDuration := by rw [← pow_mul, longDuration]

theorem longFlow_nonNegative : NonNegative longFlow := by
  have hlong : 0 ≤ longDuration := (pow_nonneg (by norm_num) 1024).trans longDuration_large
  have hall : ∀ x ∈ longFlow, x.1 ∈ numberFields ++ ["flow_duration_ms", "flow_duration"] →
      ∃ n, x.2 = .int n ∧ 0 ≤ n := by
    simp [longFlow, numberFields, hlong]
  intro key hkey v hv
  obtain ⟨n, rfl, hn⟩ := hall _ (KeyedStore.mem_of_lookup hv) hkey
  exact ⟨_, rfl, (RoundingPyNum.le_ofInt 0 n).trans (decide_eq_true hn)⟩

theorem float_longDuration : PyVal.toFloat (.int longDuration : PyVal PyNumber) = none := by
  have hround : Float64.round longDuration = none := by
    refine Float64.round_eq_none (le_trans ?_ (le_abs_self _))
    have hcast := Int.cast_le (R := Rat).mpr longDuration_large
    rwa [Int.cast_pow] at hcast
  simp only [PyVal.toFloat, PyNum.float, PyNumber.ofRat, hround, Option.map_none]

theorem not_convertible_longFlow : ¬ Convertible timelessLib [] longFlow := by
  intro h
  have hexternal : isExternalIp (destinationIp longFlow) = some true := by decide +kernel
  obtain ⟨duration, hduration, hfloat⟩ := h.duration hexternal (.inl (by decide +kernel))
  have hlong : flowDuration timelessLib longFlow = some (.int longDuration) := by decide +kernel
  cases hlong.symm.trans hduration
  exact hfloat (by decide +kernel) float_longDuration

theorem long_flow_hides :
    ¬ ∀ (lib : RatLib PyNumber) (processEvents : Option (List (Telemetry PyNumber)))
        (F G : List (Telemetry PyNumber)) (finding : Finding),
      analyze (ratChecks lib) 55 F processEvents none "default-tenant" = .returned (some finding) →
      (∀ f ∈ F, ∀ g ∈ G, ¬ SameTuple f g) → OneKind ((F ++ G).filterMap (timestamp lib.toBeaconLib)) →
      (∀ g ∈ G, WellTyped g ∧ NonNegative g) →
      ∃ finding', analyze (ratChecks lib) 55 (F ++ G) processEvents none "default-tenant" =
          .returned (some finding') ∧
        finding.score ≤ finding'.score ∧ finding.evidence.triggers ⊆ finding'.evidence.triggers := by
  intro h
  have hsome : (analyze (ratChecks timelessLib) 55 [implantFlow] none none "default-tenant").finding.isSome := by
    decide +kernel
  obtain ⟨finding, hfinding⟩ := Option.isSome_iff_exists.mp hsome
  have hdisjoint : ∀ f ∈ [implantFlow], ∀ g ∈ [longFlow], ¬ SameTuple f g := by
    unfold SameTuple
    decide +kernel
  obtain ⟨finding', hfinding', -⟩ := h timelessLib none [implantFlow] [longFlow] finding
    (Result.finding_eq_some hfinding) hdisjoint (by decide +kernel)
    (List.forall_mem_singleton.mpr ⟨longFlow_wellTyped, longFlow_nonNegative⟩)
  exact not_convertible_longFlow
    (convertible_of_analyze hfinding' (g := longFlow) (by simp) longFlow_wellTyped)

end Rat
end SocFabric
