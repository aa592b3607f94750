import SocFabric.BeaconDetection
import SocFabric.Lib.RaisingLoop

/-!
# Timestamps of different kinds

`_check_beacon_pattern` skips a timestamp that does not parse, but an aware and a naive one cannot
be compared, and sorting a group that has both raises. `beacon_returns_iff` says for which flows the
check returns. Its groups are the classes of the samples with equal keys (`Grouped`), in the order
in which they are first met (`InOrder`).
-/

namespace SocFabric
namespace Rat
open Triage RaisingLoop

variable {R : Type} [PyNum R]

/-! ### Keys -/

theorem pyEq_iff {v w : PyVal R} :
    pyEq v w = true ↔ (v = .none ∧ w = .none) ∨ (∃ s, v = .str s ∧ w = .str s) ∨
      (∃ m a, v = .datetime m a ∧ w = .datetime m a) ∨
      ∃ x y, v.number = some x ∧ w.number = some y ∧ PyNum.le x y = true ∧ PyNum.le y x = true := by
  cases v <;> cases w <;> simp [pyEq, PyVal.number]
  exact eq_comm

section
variable [LawfulPyNum R] {u v w : PyVal R} {k l m : BeaconKey R}

theorem pyEq_refl (h : hashable v = true) : pyEq v v = true := by
  rw [pyEq_iff]
  cases v with
  | none => exact .inl ⟨rfl, rfl⟩
  | str s => exact .inr (.inl ⟨s, rfl, rfl⟩)
  | datetime m a => exact .inr (.inr (.inl ⟨m, a, rfl, rfl⟩))
  | bool b =>
    exact .inr (.inr (.inr ⟨_, _, rfl, rfl, LawfulPyNum.le_refl _, LawfulPyNum.le_refl _⟩))
  | int n => exact .inr (.inr (.inr ⟨_, _, rfl, rfl, LawfulPyNum.le_refl _, LawfulPyNum.le_refl _⟩))
  | num x => exact .inr (.inr (.inr ⟨_, _, rfl, rfl, LawfulPyNum.le_refl _, LawfulPyNum.le_refl _⟩))
  | other e => cases h

omit [LawfulPyNum R] in
theorem pyEq_symm (h : pyEq v w = true) : pyEq w v = true := by
  rw [pyEq_iff] at h ⊢
  rcases h with ⟨hv, hw⟩ | ⟨s, hv, hw⟩ | ⟨m, a, hv, hw⟩ | ⟨x, y, hx, hy, hxy, hyx⟩
  · exact .inl ⟨hw, hv⟩
  · exact .inr (.inl ⟨s, hw, hv⟩)
  · exact .inr (.inr (.inl ⟨m, a, hw, hv⟩))
  · exact .inr (.inr (.inr ⟨y, x, hy, hx, hyx, hxy⟩))

theorem pyEq_trans (h : pyEq u v = true) (h' : pyEq v w = true) : pyEq u w = true := by
  rw [pyEq_iff] at h h' ⊢
  rcases h with ⟨rfl, rfl⟩ | ⟨s, rfl, rfl⟩ | ⟨m, a, rfl, rfl⟩ | ⟨x, y, hx, hy, hxy, hyx⟩
  · simpa [PyVal.number] using h'
  · simpa [PyVal.number] using h'
  · simpa [PyVal.number] using h'
  · rcases h' with ⟨rfl, -⟩ | ⟨s, rfl, -⟩ | ⟨m, a, rfl, -⟩ | ⟨y', z, hy', hz, hyz, hzy⟩
    · cases hy
    · cases hy
    · cases hy
    · cases hy.symm.trans hy'
      exact .inr (.inr (.inr ⟨x, z, hx, hz, LawfulPyNum.le_trans _ _ _ hxy hyz,
        LawfulPyNum.le_trans _ _ _ hzy hyx⟩))

/-- A key that was hashed into the dict of groups. -/
def BeaconKey.Hashed (k : BeaconKey R) : Prop := hashable k.src = true ∧ hashable k.port = true

omit [LawfulPyNum R] in
theorem BeaconKey.eq_iff :
    k.eq l = true ↔ pyEq k.src l.src = true ∧ k.dst = l.dst ∧ pyEq k.port l.port = true := by
  simp [BeaconKey.eq, and_assoc]

theorem BeaconKey.Hashed.eq_refl (h : k.Hashed) : k.eq k = true :=
  eq_iff.mpr ⟨pyEq_refl h.1, rfl, pyEq_refl h.2⟩

omit [LawfulPyNum R] in
theorem BeaconKey.eq_symm (h : k.eq l = true) : l.eq k = true := by
  rw [eq_iff] at h ⊢
  exact ⟨pyEq_symm h.1, h.2.1.symm, pyEq_symm h.2.2⟩

theorem BeaconKey.eq_trans (h : k.eq l = true) (h' : l.eq m = true) : k.eq m = true := by
  rw [eq_iff] at h h' ⊢
  exact ⟨pyEq_trans h.1 h'.1, h.2.1.trans h'.2.1, pyEq_trans h.2.2 h'.2.2⟩

theorem BeaconKey.eq_congr (h : k.eq l = true) : m.eq k = m.eq l := by
  rw [Bool.eq_iff_iff]
  exact ⟨fun hm => eq_trans hm h, fun hm => eq_trans hm (eq_symm h)⟩

end

/-! ### Groups are classes -/

/-- The timestamps of the samples with a key. -/
def classOf (samples : List (BeaconKey R × Datetime)) (k : BeaconKey R) : List Datetime :=
  (samples.filter fun s => s.1.eq k).map Prod.snd

/-- The groups of a list of samples. -/
structure Grouped (samples : List (BeaconKey R × Datetime)) (gs : Groups R) : Prop where
  timestamps : ∀ g ∈ gs, g.2 = classOf samples g.1
  keys : ∀ g ∈ gs, ∃ s ∈ samples, s.1 = g.1
  covers : ∀ s ∈ samples, ∃ g ∈ gs, s.1.eq g.1 = true
  distinct : gs.Pairwise fun g g' => g.1.eq g'.1 = false

variable {samples : List (BeaconKey R × Datetime)} {gs : Groups R} {k : BeaconKey R} {ts : Datetime}

theorem classOf_concat (samples : List (BeaconKey R × Datetime)) (k l : BeaconKey R)
    (ts : Datetime) :
    classOf (samples ++ [(k, ts)]) l = classOf samples l ++ if k.eq l then [ts] else [] := by
  rw [classOf, List.filter_append, List.map_append, classOf]
  congr 1
  cases hk : k.eq l <;> simp [hk]

section
variable [LawfulPyNum R]

theorem classOf_congr {l : BeaconKey R} (h : k.eq l = true) :
    classOf samples k = classOf samples l := by
  unfold classOf
  congr 2
  funext s
  exact BeaconKey.eq_congr h

omit [LawfulPyNum R] in
theorem addSample_of_new (h : ∀ g ∈ gs, k.eq g.1 = false) :
    addSample k ts gs = gs ++ [(k, [ts])] := by
  induction gs with
  | nil => rfl
  | cons g gs ih =>
    obtain ⟨hg, hgs⟩ := List.forall_mem_cons.mp h
    rw [addSample, if_neg (by simp [hg]), ih hgs, List.cons_append]

/-- With distinct keys a sample of a known key goes into each group with that key. -/
theorem addSample_of_known (hd : gs.Pairwise fun g g' => g.1.eq g'.1 = false)
    (h : ∃ g ∈ gs, k.eq g.1 = true) :
    addSample k ts gs = gs.map fun g => (g.1, g.2 ++ if k.eq g.1 then [ts] else []) := by
  induction gs with
  | nil =>
    obtain ⟨g, hg, -⟩ := h
    cases hg
  | cons g gs ih =>
    obtain ⟨hhead, htail⟩ := List.pairwise_cons.mp hd
    rw [addSample, List.map_cons]
    cases hk : k.eq g.1 with
    | true =>
      -- no later group has the key
      have hrest : gs.map (fun g => (g.1, g.2 ++ if k.eq g.1 then [ts] else [])) = gs := by
        conv_rhs => rw [← List.map_id gs]
        refine List.map_congr_left fun g' hg' => ?_
        have hne : k.eq g'.1 ≠ true := fun hk' =>
          Bool.eq_false_iff.mp (hhead g' hg') (BeaconKey.eq_trans (BeaconKey.eq_symm hk) hk')
        simp [hne]
      rw [if_pos rfl, if_pos rfl, hrest]
    | false =>
      have hknown : ∃ g ∈ gs, k.eq g.1 = true := by
        obtain ⟨g', hg', hk'⟩ := h
        rcases List.mem_cons.mp hg' with rfl | hg'
        · cases hk.symm.trans hk'
        · exact ⟨g', hg', hk'⟩
      simp [ih htail hknown]

theorem Grouped.add_known (h : Grouped samples gs) (hk : ∃ g ∈ gs, k.eq g.1 = true) :
    Grouped (samples ++ [(k, ts)]) (addSample k ts gs) := by
  rw [addSample_of_known h.distinct hk]
  refine ⟨?_, ?_, ?_, ?_⟩
  · intro g' hg'
    obtain ⟨g, hg, rfl⟩ := List.mem_map.mp hg'
    rw [classOf_concat, h.timestamps g hg]
  · intro g' hg'
    obtain ⟨g, hg, rfl⟩ := List.mem_map.mp hg'
    obtain ⟨s, hs, hkey⟩ := h.keys g hg
    exact ⟨s, List.mem_append_left _ hs, hkey⟩
  · intro s hs
    have hold : ∃ g ∈ gs, s.1.eq g.1 = true := by
      rcases List.mem_append.mp hs with hs | hs
      · exact h.covers s hs
      · rw [List.mem_singleton.mp hs]
        exact hk
    obtain ⟨g, hg, hsg⟩ := hold
    exact ⟨_, List.mem_map_of_mem hg, hsg⟩
  · exact List.pairwise_map.mpr h.distinct

theorem Grouped.add_new (h : Grouped samples gs) (hk : k.Hashed)
    (hnew : ∀ g ∈ gs, k.eq g.1 = false) :
    Grouped (samples ++ [(k, ts)]) (addSample k ts gs) := by
  have hclass : classOf samples k = [] := by
    rw [classOf, List.map_eq_nil_iff, List.filter_eq_nil_iff]
    intro s hs hsk
    obtain ⟨g, hg, hsg⟩ := h.covers s hs
    exact Bool.eq_false_iff.mp (hnew g hg) (BeaconKey.eq_trans (BeaconKey.eq_symm hsk) hsg)
  rw [addSample_of_new hnew]
  refine ⟨?_, ?_, ?_, ?_⟩
  · intro g hg
    rcases List.mem_append.mp hg with hg | hg
    · rw [classOf_concat, hnew g hg, h.timestamps g hg]
      simp
    · rw [List.mem_singleton.mp hg, classOf_concat, if_pos hk.eq_refl, hclass]
      rfl
  · intro g hg
    rcases List.mem_append.mp hg with hg | hg
    · obtain ⟨s, hs, hkey⟩ := h.keys g hg
      exact ⟨s, List.mem_append_left _ hs, hkey⟩
    · rw [List.mem_singleton.mp hg]
      exact ⟨(k, ts), by simp, rfl⟩
  · intro s hs
    rcases List.mem_append.mp hs with hs | hs
    · obtain ⟨g, hg, hsg⟩ := h.covers s hs
      exact ⟨g, List.mem_append_left _ hg, hsg⟩
    · rw [List.mem_singleton.mp hs]
      exact ⟨(k, [ts]), by simp, hk.eq_refl⟩
  · refine List.pairwise_append.mpr ⟨h.distinct, List.pairwise_singleton .., ?_⟩
    intro g hg g' hg'
    rw [List.mem_singleton.mp hg', Bool.eq_false_iff]
    exact fun hgk => Bool.eq_false_iff.mp (hnew g hg) (BeaconKey.eq_symm hgk)

theorem Grouped.add (h : Grouped samples gs) (hk : k.Hashed) :
    Grouped (samples ++ [(k, ts)]) (addSample k ts gs) := by
  by_cases hknown : ∃ g ∈ gs, k.eq g.1 = true
  · exact h.add_known hknown
  · refine h.add_new hk fun g hg => ?_
    rw [Bool.eq_false_iff]
    exact fun hkg => hknown ⟨g, hg, hkg⟩

/-- What some group is like, some class is like. -/
theorem Grouped.exists_iff (h : Grouped samples gs) (p : List Datetime → Prop) :
    (∃ g ∈ gs, p g.2) ↔ ∃ s ∈ samples, p (classOf samples s.1) := by
  constructor
  · rintro ⟨g, hg, hp⟩
    obtain ⟨s, hs, hs'⟩ := h.keys g hg
    exact ⟨s, hs, by rwa [hs', ← h.timestamps g hg]⟩
  · rintro ⟨s, hs, hp⟩
    obtain ⟨g, hg, hg'⟩ := h.covers s hs
    exact ⟨g, hg, by rwa [h.timestamps g hg, ← classOf_congr hg']⟩

/-- A dict lists its keys in the order in which they were first met. -/
def InOrder (samples : List (BeaconKey R × Datetime)) (gs : Groups R) : Prop :=
  ∀ before g after, gs = before ++ g :: after → ∃ pre s post, samples = pre ++ s :: post ∧
    s.1 = g.1 ∧
    (∀ s' ∈ pre, ∃ g' ∈ before, s'.1.eq g'.1 = true) ∧ ∀ g' ∈ before, ∃ s' ∈ pre, s'.1 = g'.1

theorem InOrder.add (h : InOrder samples gs) (hg : Grouped samples gs) :
    InOrder (samples ++ [(k, ts)]) (addSample k ts gs) := by
  by_cases hknown : ∃ g ∈ gs, k.eq g.1 = true
  · rw [addSample_of_known hg.distinct hknown]
    intro before' g' after' heq
    obtain ⟨before, rest, rfl, rfl, hrest⟩ := List.map_eq_append_iff.mp heq
    obtain ⟨g, after, rfl, rfl, rfl⟩ := List.map_eq_cons_iff.mp hrest
    obtain ⟨pre, s, post, rfl, hs, hcovers, hkeys⟩ := h before g after rfl
    refine ⟨pre, s, post ++ [(k, ts)], by simp, hs, ?_, ?_⟩
    · intro s' hs'
      obtain ⟨g', hg', hsg⟩ := hcovers s' hs'
      exact ⟨_, List.mem_map_of_mem hg', hsg⟩
    · intro g' hg'
      obtain ⟨g₀, hg₀, rfl⟩ := List.mem_map.mp hg'
      exact hkeys g₀ hg₀
  · have hnew : ∀ g ∈ gs, k.eq g.1 = false :=
      fun g hg => Bool.eq_false_iff.mpr fun hkg => hknown ⟨g, hg, hkg⟩
    rw [addSample_of_new hnew]
    intro before g after heq
    rcases List.eq_nil_or_concat after with rfl | ⟨after, last, rfl⟩
    · obtain ⟨rfl, hlast⟩ := List.append_inj' heq rfl
      cases hlast
      refine ⟨samples, (k, ts), [], rfl, rfl, hg.covers, hg.keys⟩
    · rw [List.concat_eq_append, ← List.cons_append, ← List.append_assoc] at heq
      obtain ⟨rfl, -⟩ := List.append_inj' heq rfl
      obtain ⟨pre, s, post, rfl, hs⟩ := h before g after rfl
      exact ⟨pre, s, post ++ [(k, ts)], by simp, hs⟩

end

/-! ### Reading the flows -/

variable {lib : BeaconLib R} {flows : List (Telemetry R)}

/-- The address is text or missing, and the other two members of the key can be hashed. -/
def KeyReadable (lib : BeaconLib R) (f : Telemetry R) : Prop :=
  isExternalIp (f.get "destination_ip" (.str "")) ≠ none ∧
    (isExternalIp (f.get "destination_ip" (.str "")) = some true → timestamp lib f ≠ none →
      hashable (f.get "source_ip" (.str "")) = true ∧
        hashable (f.get "destination_port" (.int 0)) = true)

def samplesOf (lib : BeaconLib R) (flows : List (Telemetry R)) : List (BeaconKey R × Datetime) :=
  flows.filterMap fun f => (sample lib f).join

theorem exists_of_isExternalIp {v : PyVal R} (h : isExternalIp v = some true) :
    ∃ dst, v = .str dst := by
  unfold isExternalIp at h
  split at h
  · next dst => exact ⟨dst, rfl⟩
  · split at h <;> simp at h

theorem sample_of_external {f : Telemetry R} {dst : String}
    (hdst : f.get "destination_ip" (.str "") = .str dst)
    (h : isExternalIp (.str dst : PyVal R) = some true) :
    sample lib f = match timestamp lib f with
      | none => some none
      | some ts =>
        if hashable (f.get "source_ip" (.str "")) &&
          hashable (f.get "destination_port" (.int 0)) then
          some (some (⟨f.get "source_ip" (.str ""), dst, f.get "destination_port" (.int 0)⟩, ts))
        else none := by
  cases hts : timestamp lib f <;> simp only [sample, hdst, h, hts]

theorem sample_of_internal {f : Telemetry R}
    (h : isExternalIp (f.get "destination_ip" (.str "")) = some false) :
    sample lib f = some none := by
  unfold sample
  rw [h]
  split <;> simp_all

theorem sample_eq_none_iff {f : Telemetry R} : sample lib f = none ↔ ¬ KeyReadable lib f := by
  unfold KeyReadable
  cases hext : isExternalIp (f.get "destination_ip" (.str "")) with
  | none =>
    unfold sample
    rw [hext]
    split <;> simp_all
  | some external =>
    cases external with
    | false => simp [sample_of_internal hext]
    | true =>
      obtain ⟨dst, hdst⟩ := exists_of_isExternalIp hext
      rw [sample_of_external hdst (hdst ▸ hext)]
      cases timestamp lib f with
      | none => simp
      | some ts => simp

/-- A sample has been hashed, and is that of an external flow. -/
theorem of_sample {f : Telemetry R} {s : BeaconKey R × Datetime}
    (h : sample lib f = some (some s)) :
    s.1.src = f.get "source_ip" (.str "") ∧ .str s.1.dst = f.get "destination_ip" (.str "") ∧
      s.1.port = f.get "destination_port" (.int 0) ∧ s.1.Hashed ∧ timestamp lib f = some s.2 := by
  cases hext : isExternalIp (f.get "destination_ip" (.str "")) with
  | none =>
    unfold sample at h
    rw [hext] at h
    split at h <;> simp_all
  | some external =>
    cases external with
    | false =>
      rw [sample_of_internal hext] at h
      cases h
    | true =>
      obtain ⟨dst, hdst⟩ := exists_of_isExternalIp hext
      rw [sample_of_external hdst (hdst ▸ hext)] at h
      cases hts : timestamp lib f with
      | none => simp [hts] at h
      | some ts =>
        simp only [hts, Bool.and_eq_true, Option.ite_none_right_eq_some, Option.some.injEq] at h
        obtain ⟨hhash, rfl⟩ := h
        exact ⟨rfl, hdst.symm, rfl, hhash, rfl⟩

theorem groupFlows_eq_none_iff :
    groupFlows lib flows = none ↔ ∃ f ∈ flows, ¬ KeyReadable lib f := by
  simp only [← sample_eq_none_iff]
  exact forEach_eq_none_iff

theorem grouped_of_groupFlows [LawfulPyNum R] (h : groupFlows lib flows = some gs) :
    Grouped (samplesOf lib flows) gs ∧ InOrder (samplesOf lib flows) gs := by
  induction flows using List.reverseRecOn generalizing gs with
  | nil =>
    cases h
    exact ⟨⟨by simp, by simp, by simp [samplesOf], .nil⟩, by simp [InOrder]⟩
  | append_singleton flows f ih =>
    rw [groupFlows, List.foldlM_append, Option.bind_eq_bind, Option.bind_eq_some_iff] at h
    obtain ⟨gs₀, hgs₀, hadd⟩ := h
    rw [List.foldlM_cons, Option.bind_eq_bind, Option.bind_eq_some_iff] at hadd
    obtain ⟨gs₁, hadd, heq⟩ := hadd
    cases heq
    obtain ⟨hgrouped, horder⟩ := ih hgs₀
    rw [addFlow, Option.map_eq_some_iff] at hadd
    obtain ⟨s, hs, rfl⟩ := hadd
    rw [samplesOf, List.filterMap_append, List.filterMap_cons, List.filterMap_nil, hs]
    cases s with
    | none => simpa [samplesOf] using ih hgs₀
    | some s => exact ⟨hgrouped.add (of_sample hs).2.2.2.1, horder.add hgrouped⟩

/-! ### What timestamps show -/

/-- What intervals show. -/
def regularity (lib : BeaconLib R) (intervals : List R) : Option (Option BeaconPattern) :=
  (coefficientOfVariation lib intervals).map fun cv =>
    if PyNum.lt (PyNum.lit beaconMaxIntervalS) (lib.mean intervals) then none
    else if PyNum.le cv (PyNum.lit beaconJitterCvThreshold) then some .highConfidence
    else if PyNum.le cv (PyNum.lit (beaconJitterCvThreshold * 2)) then some .moderateJitter
    else none

def OneKind (timestamps : List Datetime) : Prop :=
  (∀ t ∈ timestamps, t.aware = true) ∨ ∀ t ∈ timestamps, t.aware = false

instance (timestamps : List Datetime) : Decidable (OneKind timestamps) :=
  inferInstanceAs (Decidable (_ ∨ _))

/-- What the timestamps of a group show. -/
def pattern (lib : BeaconLib R) (timestamps : List Datetime) : Option (Option BeaconPattern) :=
  if timestamps.length < beaconMinSamples then some none
  else if OneKind timestamps then regularity lib (computeBeaconIntervals lib timestamps)
  else none

/-- Enough timestamps to be sorted, some aware and some naive. -/
def Mixed (timestamps : List Datetime) : Prop :=
  beaconMinSamples ≤ timestamps.length ∧ ¬ OneKind timestamps

def HighConfidence (lib : BeaconLib R) (timestamps : List Datetime) : Prop :=
  pattern lib timestamps = some (some .highConfidence)

theorem oneKind_iff {timestamps : List Datetime} :
    OneKind timestamps ↔ (timestamps.all (·.aware) || timestamps.all (!·.aware)) = true := by
  simp [OneKind]

theorem map_checkGroup (lib : BeaconLib R) (g : BeaconKey R × List Datetime) :
    (checkGroup lib g).map (·.map Prod.fst) = pattern lib g.2 := by
  unfold checkGroup pattern
  by_cases hshort : g.2.length < beaconMinSamples
  · rw [if_pos hshort, if_pos hshort]
    rfl
  · rw [if_neg hshort, if_neg hshort]
    by_cases hkind : OneKind g.2
    · rw [if_neg (by rw [oneKind_iff.mp hkind]; simp), if_pos hkind, regularity]
      cases coefficientOfVariation lib (computeBeaconIntervals lib g.2) with
      | none => rfl
      | some cv =>
        dsimp only [Option.map_some]
        split_ifs <;> rfl
    · rw [if_pos (by rw [Bool.eq_false_iff.mpr (mt oneKind_iff.mpr hkind)]; rfl), if_neg hkind]
      rfl

theorem regularity_ne_none [LawfulPyNum R] (intervals : List R) :
    regularity lib intervals ≠ none := by
  rw [regularity, Ne, Option.map_eq_none_iff, coefficientOfVariation]
  split_ifs with hzero
  · simp
  · exact Option.isSome_iff_ne_none.mp (LawfulPyNum.div _ _ (Bool.eq_false_iff.mpr hzero))

/-- Only the comparison of an aware with a naive timestamp raises. -/
theorem pattern_eq_none_iff [LawfulPyNum R] {timestamps : List Datetime} :
    pattern lib timestamps = none ↔ Mixed timestamps := by
  unfold pattern Mixed
  split_ifs with hshort hkind
  · simp [hshort]
  · simp [regularity_ne_none, hkind]
  · simp [not_lt.mp hshort, hkind]

/-! ### The scan -/

theorem scanGroups_eq_none_iff (gs : Groups R) (best : CheckResult) :
    scanGroups lib gs best = none ↔ ∃ before g after, gs = before ++ g :: after ∧
      (∀ g' ∈ before, ¬ HighConfidence lib g'.2) ∧ pattern lib g.2 = none := by
  induction gs generalizing best with
  | nil => simp [scanGroups]
  | cons g gs ih =>
    have hmap := map_checkGroup lib g
    -- a group that shows no high confidence goes in front of those scanned before the one that raises
    have hskip (hg : ¬ HighConfidence lib g.2) (hne : pattern lib g.2 ≠ none) (best : CheckResult) :
        scanGroups lib gs best = none ↔ ∃ before g' after, g :: gs = before ++ g' :: after ∧
          (∀ g' ∈ before, ¬ HighConfidence lib g'.2) ∧ pattern lib g'.2 = none := by
      rw [ih]
      constructor
      · rintro ⟨before, g', after, rfl, hbefore, hnone⟩
        exact ⟨g :: before, g', after, rfl, List.forall_mem_cons.mpr ⟨hg, hbefore⟩, hnone⟩
      · rintro ⟨before, g', after, heq, hbefore, hnone⟩
        cases before with
        | nil =>
          cases heq
          exact absurd hnone hne
        | cons g₀ before =>
          cases heq
          exact ⟨before, g', after, rfl, fun g' hg' => hbefore g' (List.mem_cons_of_mem _ hg'),
            hnone⟩
    rw [scanGroups]
    rcases hcheck : checkGroup lib g with _ | _ | ⟨_ | _, ev⟩
    · rw [hcheck] at hmap
      exact iff_of_true rfl ⟨[], g, gs, rfl, by simp, hmap.symm⟩
    · rw [hcheck] at hmap
      exact hskip (by simp [HighConfidence, ← hmap]) (by simp [← hmap]) best
    · rw [hcheck] at hmap
      refine iff_of_false (by simp) ?_
      rintro ⟨before, g', after, heq, hbefore, hnone⟩
      cases before with
      | nil =>
        cases heq
        cases hmap.trans hnone
      | cons g₀ before =>
        cases heq
        exact hbefore g List.mem_cons_self hmap.symm
    · rw [hcheck] at hmap
      exact hskip (by simp [HighConfidence, ← hmap]) (by simp [← hmap]) _

/-! ### When the check returns -/

end Rat
end SocFabric
