import Mathlib.Algebra.BigOperators.Group.List.Basic
import Mathlib.Algebra.Order.BigOperators.Group.List
import Mathlib.Order.Bounds.Basic
import SocFabric.BeaconTimestamps
import SocFabric.RatChecks

/-!
# What the checks of the RAT detector add up

The score of a check over the flows is the sum of what its rounds add, and a trigger is raised when
some round writes its key (`tally_score`, `tally_writes`), whichever round writes last. The score of
the beacon check is the greatest of its groups' (`isGreatest_beacon`), although the scan stops at
the first group with high confidence. `gather_eq_some` says what `analyze` makes of the five.
-/

namespace SocFabric
namespace Rat
open Triage RaisingLoop

variable {R : Type} [PyNum R]

/-! ### Rounds -/

/-- Some round writes the key. -/
def Writes (effects : List Effect) (key : String) : Prop := ∃ e ∈ effects, ∃ w ∈ e.writes, w.1 = key

theorem tally_score (effects : List Effect) (t : Tally) :
    (effects.foldl Tally.add t).score = t.score + (effects.map Effect.score).sum := by
  induction effects generalizing t with
  | nil => simp
  | cons e effects ih =>
    rw [List.foldl_cons, ih, Tally.add, List.map_cons, List.sum_cons, add_assoc]

theorem lookup_foldl_put (writes evidence : List (String × Json)) (key : String) :
    ((writes.foldl (fun evidence w => KeyedStore.put w.1 w.2 evidence) evidence).lookup key).isSome ↔
      (evidence.lookup key).isSome ∨ ∃ w ∈ writes, w.1 = key := by
  induction writes generalizing evidence with
  | nil => simp
  | cons w writes ih =>
    rw [List.foldl_cons, ih, KeyedStore.lookup_put, List.exists_mem_cons_iff]
    split_ifs with hkey
    · simp [hkey]
    · simp [Ne.symm hkey]

/-- A key of the evidence is one that some round has written. -/
theorem tally_writes (effects : List Effect) (t : Tally) (key : String) :
    ((effects.foldl Tally.add t).evidence.lookup key).isSome ↔
      (t.evidence.lookup key).isSome ∨ Writes effects key := by
  induction effects generalizing t with
  | nil => simp [Writes]
  | cons e effects ih =>
    rw [List.foldl_cons, ih, Tally.add, lookup_foldl_put, Writes, Writes, List.exists_mem_cons_iff,
      or_assoc]

theorem foldl_insert_eq_nil_iff (names binaries : List String) :
    names.foldl (fun binaries b => if b ∈ binaries then binaries else binaries ++ [b])
        binaries = [] ↔
      binaries = [] ∧ names = [] := by
  induction names generalizing binaries with
  | nil => simp
  | cons b names ih =>
    rw [List.foldl_cons, ih]
    split_ifs with hb
    · simp [List.ne_nil_of_mem hb]
    · simp

theorem tally_binaries_eq_nil_iff (effects : List Effect) (t : Tally) :
    (effects.foldl Tally.add t).binaries = [] ↔ t.binaries = [] ∧
      ∀ e ∈ effects, e.binaries = [] := by
  induction effects generalizing t with
  | nil => simp
  | cons e effects ih =>
    rw [List.foldl_cons, ih, Tally.add, foldl_insert_eq_nil_iff, List.forall_mem_cons, and_assoc]

theorem eq_nil_iff_lookup {evidence : List (String × Json)} :
    evidence = [] ↔ ∀ key, ¬ (evidence.lookup key).isSome := by
  constructor
  · rintro rfl key
    simp
  · intro h
    cases evidence with
    | nil => rfl
    | cons w evidence =>
      obtain ⟨key, value⟩ := w
      exact absurd (by simp) (h key)

theorem tally_evidence_eq_nil_iff (effects : List Effect) :
    (effects.foldl Tally.add {}).evidence = [] ↔ ∀ e ∈ effects, e.writes = [] := by
  rw [eq_nil_iff_lookup]
  simp only [tally_writes, Writes]
  constructor
  · intro h e he
    rw [List.eq_nil_iff_forall_not_mem]
    exact fun w hw => h w.1 (.inr ⟨e, he, w, hw, rfl⟩)
  · rintro h key (hkey | ⟨e, he, w, hw, -⟩)
    · simp at hkey
    · rw [h e he] at hw
      cases hw

/-! ### Answers of the checks -/

/-- The triggers that an answer raises. -/
def CheckResult.triggers (triggers : List (String × Json) → List String) (r : CheckResult) :
    List String :=
  match r.found with
  | some members => triggers members
  | none => []

theorem found_orNone (score : Int) (evidence : List (String × Json)) :
    CheckResult.found ⟨score, orNone evidence⟩ = if evidence = [] then none else some evidence := by
  unfold CheckResult.found orNone
  cases evidence <;> rfl

@[simp]
theorem triggers_add (e : Evidence) (name : String) (triggers : List (String × Json) → List String)
    (r : CheckResult) :
    (e.add name triggers r).triggers = e.triggers ++ r.triggers triggers := by
  unfold Evidence.add CheckResult.triggers
  cases r.found <;> simp

@[simp]
theorem totalScore_add (e : Evidence) (name : String)
    (triggers : List (String × Json) → List String)
    (r : CheckResult) : (e.add name triggers r).totalScore = e.totalScore + r.score := by
  unfold Evidence.add
  split <;> rfl

/-- An answer with evidence from some round raises its trigger. -/
theorem triggers_unknownBinary (effects : List Effect) (name : String) :
    (effects.foldl Tally.add {}).unknownBinary.triggers (fun _ => [name]) =
      if ∀ e ∈ effects, e.writes = [] ∧ e.binaries = [] then [] else [name] := by
  have hempty : (∀ e ∈ effects, e.writes = [] ∧ e.binaries = []) ↔
      (effects.foldl Tally.add {}).evidence = [] ∧ (effects.foldl Tally.add {}).binaries = [] := by
    simp [tally_evidence_eq_nil_iff, tally_binaries_eq_nil_iff, forall_and]
  rw [if_congr hempty rfl rfl, CheckResult.triggers, Tally.unknownBinary, found_orNone]
  cases hb : (effects.foldl Tally.add {}).binaries with
  | nil => by_cases he : (effects.foldl Tally.add {}).evidence = [] <;> simp [he]
  | cons b binaries => simp [KeyedStore.put_ne_nil]

theorem triggers_novel (score : Int) (evidence : List (String × Json)) :
    CheckResult.triggers novelTriggers ⟨score, orNone evidence⟩ = novelTriggers evidence := by
  rw [CheckResult.triggers, found_orNone]
  cases evidence <;> rfl

/-- The triggers are the keys that some round has written. -/
theorem mem_novelTriggers {effects : List Effect} {key : String} :
    key ∈ novelTriggers (effects.foldl Tally.add {}).evidence ↔
      key ∈ ["suspicious_port", "novel_external_dest"] ∧ Writes effects key := by
  rw [novelTriggers, List.mem_filter, tally_writes]
  simp

/-! ### The five answers -/

structure Answers where
  beacon : CheckResult
  unknownBinary : CheckResult
  guiSpawn : CheckResult
  novel : CheckResult
  c2 : CheckResult

variable {F P : Type}

structure Answered (checks : Checks F P) (flows : List F) (procs : List P) (a : Answers) :
    Prop where
  beacon : checks.beaconPattern flows = some a.beacon
  unknownBinary : checks.unknownBinary flows procs = some a.unknownBinary
  guiSpawn : checks.guiSpawnScript procs = some a.guiSpawn
  novel : checks.novelDestination flows = some a.novel
  c2 : checks.c2Domain flows = some a.c2

def Answers.triggers (a : Answers) : List String :=
  a.beacon.triggers (fun _ => ["beacon_pattern"]) ++
    a.unknownBinary.triggers (fun _ => ["unknown_binary"]) ++
    a.guiSpawn.triggers (fun _ => ["gui_spawn_script"]) ++ a.novel.triggers novelTriggers ++
    a.c2.triggers (fun _ => ["c2_domain"])

def Answers.score (a : Answers) : Int :=
  a.beacon.score + a.unknownBinary.score + a.guiSpawn.score + a.novel.score + a.c2.score

theorem gather_of_answered {checks : Checks F P} {flows : List F} {procs : List P} {a : Answers}
    (h : Answered checks flows procs a) :
    ∃ e, gather checks flows procs = some e ∧ e.triggers = a.triggers ∧ e.totalScore = a.score := by
  unfold gather
  rw [h.beacon, h.unknownBinary, h.guiSpawn, h.novel, h.c2]
  exact ⟨_, rfl, by simp [Answers.triggers], by simp [Answers.score]⟩

theorem answered_of_gather {checks : Checks F P} {flows : List F} {procs : List P} {e : Evidence}
    (h : gather checks flows procs = some e) :
    ∃ a, Answered checks flows procs a ∧ e.triggers = a.triggers ∧ e.totalScore = a.score := by
  have h' := h
  simp only [gather, Option.bind_eq_bind, Option.bind_eq_some_iff] at h'
  obtain ⟨beacon, hbeacon, unknownBinary, hunknown, guiSpawn, hgui, novel, hnovel, c2, hc2, -⟩ := h'
  have ha : Answered checks flows procs ⟨beacon, unknownBinary, guiSpawn, novel, c2⟩ :=
    ⟨hbeacon, hunknown, hgui, hnovel, hc2⟩
  obtain ⟨e', he', hspec⟩ := gather_of_answered ha
  cases h.symm.trans he'
  exact ⟨_, ha, hspec⟩

/-! ### The checks over the flows -/

variable {lib : RatLib R} {flows procs : List (Telemetry R)} {r : CheckResult}

def unknownBinaryEffects (lib : RatLib R) (names : List (Int × String))
    (flows : List (Telemetry R)) : List Effect :=
  flows.filterMap (unknownBinaryEffect lib names)

def novelEffects (lib : RatLib R) (flows : List (Telemetry R)) : List Effect :=
  flows.filterMap (novelEffect lib)

theorem checkUnknownBinary_eq_some_iff :
    checkUnknownBinary lib flows procs = some r ↔ ∃ names, pidToName procs = some names ∧
      (∀ f ∈ flows, unknownBinaryEffect lib names f ≠ none) ∧
      ((unknownBinaryEffects lib names flows).foldl Tally.add {}).unknownBinary = r := by
  simp only [checkUnknownBinary, Option.bind_eq_bind, Option.bind_eq_some_iff, Option.pure_def,
    Option.some.injEq, forEach_eq_some_iff, unknownBinaryEffects, and_assoc, exists_and_left,
    exists_eq_left]

theorem checkUnknownBinary_isSome_iff :
    (checkUnknownBinary lib flows procs).isSome ↔ ∃ names, pidToName procs = some names ∧
      ∀ f ∈ flows, unknownBinaryEffect lib names f ≠ none := by
  rw [Option.isSome_iff_exists]
  constructor
  · rintro ⟨r, hr⟩
    obtain ⟨names, hnames, hread, -⟩ := checkUnknownBinary_eq_some_iff.mp hr
    exact ⟨names, hnames, hread⟩
  · rintro ⟨names, hnames, hread⟩
    exact ⟨_, checkUnknownBinary_eq_some_iff.mpr ⟨names, hnames, hread, rfl⟩⟩

theorem checkNovelDestination_eq_some_iff :
    checkNovelDestination lib flows = some r ↔ (∀ f ∈ flows, novelEffect lib f ≠ none) ∧
      ⟨((novelEffects lib flows).foldl Tally.add {}).score,
        orNone ((novelEffects lib flows).foldl Tally.add {}).evidence⟩ = r := by
  simp only [checkNovelDestination, Option.bind_eq_bind, Option.bind_eq_some_iff, Option.pure_def,
    Option.some.injEq, forEach_eq_some_iff, novelEffects, and_assoc, exists_and_left,
    exists_eq_left]

theorem checkNovelDestination_isSome_iff :
    (checkNovelDestination lib flows).isSome ↔ ∀ f ∈ flows, novelEffect lib f ≠ none := by
  rw [Option.isSome_iff_exists]
  constructor
  · rintro ⟨r, hr⟩
    exact (checkNovelDestination_eq_some_iff.mp hr).1
  · exact fun hread => ⟨_, checkNovelDestination_eq_some_iff.mpr ⟨hread, rfl⟩⟩

/-- Some flow's domain is a C2 or malware host. -/
def ShowsC2 (flows : List (Telemetry R)) : Prop :=
  ∃ f ∈ flows, ∃ entry, c2Entry f = some (some entry)

theorem foldl_toList_eq_nil_iff {α : Type} (entries : List (Option α)) (domains : List α) :
    entries.foldl (fun domains entry => domains ++ entry.toList) domains = [] ↔
      domains = [] ∧ ∀ entry ∈ entries, entry = none := by
  induction entries generalizing domains with
  | nil => simp
  | cons entry entries ih =>
    rw [List.foldl_cons, ih, List.append_eq_nil_iff, List.forall_mem_cons, and_assoc]
    cases entry <;> simp

/-- The score of a C2 domain does not depend on how many there are. -/
theorem of_checkC2Domain (h : checkC2Domain flows = some r) :
    (∀ f ∈ flows, c2Entry f ≠ none) ∧
      (ShowsC2 flows → r.score = scoreC2Domain ∧
        r.triggers (fun _ => ["c2_domain"]) = ["c2_domain"]) ∧
      (¬ ShowsC2 flows → r.score = 0 ∧ r.triggers (fun _ => ["c2_domain"]) = []) := by
  rw [checkC2Domain, Option.bind_eq_bind, Option.bind_eq_some_iff] at h
  obtain ⟨domains, hloop, hr⟩ := h
  obtain ⟨hread, hdomains⟩ := forEach_eq_some_iff.mp hloop
  cases hr
  have hempty : domains = [] ↔ ¬ ShowsC2 flows := by
    rw [hdomains, foldl_toList_eq_nil_iff]
    simp only [true_and, List.mem_filterMap, ShowsC2]
    constructor
    · rintro h ⟨f, hf, entry, hentry⟩
      cases h (some entry) ⟨f, hf, hentry⟩
    · rintro h (_ | entry) ⟨f, hf, hentry⟩
      · rfl
      · exact absurd ⟨f, hf, entry, hentry⟩ h
  refine ⟨hread, fun hshows => ?_, fun hshows => ?_⟩
  · have hne : domains ≠ [] := fun hnil => hempty.mp hnil hshows
    rw [if_neg (by simpa using hne)]
    exact ⟨rfl, rfl⟩
  · rw [hempty.mpr hshows]
    exact ⟨rfl, rfl⟩

theorem checkC2Domain_isSome_iff :
    (checkC2Domain flows).isSome ↔ ∀ f ∈ flows, c2Entry f ≠ none := by
  constructor
  · intro h
    obtain ⟨r, hr⟩ := Option.isSome_iff_exists.mp h
    exact (of_checkC2Domain hr).1
  · intro h
    rw [checkC2Domain, forEach_eq_some h]
    rfl

/-! ### The greatest beacon -/

def BeaconPattern.score : BeaconPattern → Int
  | highConfidence => scoreBeacon
  | moderateJitter => scoreBeaconHighJitter

/-- What a group with these timestamps is worth. -/
def groupScore (lib : BeaconLib R) (timestamps : List Datetime) : Int :=
  match pattern lib timestamps with
  | some (some p) => p.score
  | _ => 0

theorem BeaconPattern.score_le (p : BeaconPattern) : p.score ≤ scoreBeacon := by
  cases p <;> decide

theorem groupScore_le (lib : BeaconLib R) (timestamps : List Datetime) :
    groupScore lib timestamps ≤ scoreBeacon := by
  unfold groupScore
  split
  · exact BeaconPattern.score_le _
  · decide

/-- The evidence of a group is not empty. -/
theorem of_checkGroup {lib : BeaconLib R} {g : BeaconKey R × List Datetime} {p : BeaconPattern}
    {ev : List (String × Json)} (h : checkGroup lib g = some (some (p, ev))) :
    groupScore lib g.2 = p.score ∧ ev ≠ [] := by
  have hmap := map_checkGroup lib g
  rw [h] at hmap
  refine ⟨by simp [groupScore, ← hmap], ?_⟩
  unfold checkGroup at h
  cases hcv : coefficientOfVariation lib (computeBeaconIntervals lib g.2) with
  | none =>
    rw [hcv] at h
    split_ifs at h
    cases h
  | some cv =>
    rw [hcv] at h
    dsimp only at h
    split_ifs at h <;> cases h <;> exact List.cons_ne_nil _ _

/-- The trigger goes with a score. -/
def Flagged (r : CheckResult) : Prop :=
  r.triggers (fun _ => ["beacon_pattern"]) = if r.score = 0 then [] else ["beacon_pattern"]

theorem flagged_of_evidence {score : Int} {ev : List (String × Json)} (hscore : score ≠ 0)
    (hev : ev ≠ []) :
    Flagged ⟨score, some ev⟩ := by
  unfold Flagged CheckResult.triggers CheckResult.found
  cases ev with
  | nil => exact absurd rfl hev
  | cons w ev => exact (if_neg hscore).symm

/-- The scan answers with the greatest score, from the best so far on. -/
structure Greatest (lib : BeaconLib R) (gs : Groups R) (best r : CheckResult) : Prop where
  flagged : Flagged r
  le : best.score ≤ r.score
  bound : ∀ g ∈ gs, groupScore lib g.2 ≤ r.score
  attained : r.score = best.score ∨ ∃ g ∈ gs, groupScore lib g.2 = r.score

theorem Greatest.cons {lib : BeaconLib R} {gs : Groups R} {g : BeaconKey R × List Datetime}
    {best best' : CheckResult}
    (h : Greatest lib gs best' r) (hle : best.score ≤ best'.score)
    (hg : groupScore lib g.2 ≤ best'.score)
    (hor : best'.score = best.score ∨ groupScore lib g.2 = best'.score) :
    Greatest lib (g :: gs) best r where
  flagged := h.flagged
  le := hle.trans h.le
  bound := List.forall_mem_cons.mpr ⟨hg.trans h.le, h.bound⟩
  attained := by
    rcases h.attained with heq | ⟨g', hg', heq⟩
    · rcases hor with hbest | hbest
      · exact .inl (heq.trans hbest)
      · exact .inr ⟨g, List.mem_cons_self, hbest.trans heq.symm⟩
    · exact .inr ⟨g', List.mem_cons_of_mem g hg', heq⟩

theorem greatest_of_scanGroups {lib : BeaconLib R} {gs : Groups R} {best : CheckResult}
    (hbest : Flagged best)
    (hpos : 0 ≤ best.score) (hle : best.score ≤ scoreBeacon) (h : scanGroups lib gs best = some r) :
    Greatest lib gs best r := by
  induction gs generalizing best with
  | nil =>
    cases h
    exact ⟨hbest, le_rfl, by simp, .inl rfl⟩
  | cons g gs ih =>
    have hmap := map_checkGroup lib g
    rw [scanGroups] at h
    rcases hcheck : checkGroup lib g with _ | _ | ⟨p, ev⟩ <;> rw [hcheck] at h hmap
    · cases h
    · have hzero : groupScore lib g.2 = 0 := by simp [groupScore, ← hmap]
      exact (ih hbest hpos hle h).cons le_rfl (hzero ▸ hpos) (.inl rfl)
    · obtain ⟨hscore, hev⟩ := of_checkGroup hcheck
      cases p with
      | highConfidence =>
        cases h
        exact ⟨flagged_of_evidence (by decide) hev, hle, fun g' _ => groupScore_le lib g'.2,
          .inr ⟨g, by simp, hscore⟩⟩
      | moderateJitter =>
        dsimp only at h
        split_ifs at h with hmore
        · have hjitter : 0 ≤ scoreBeaconHighJitter ∧
              scoreBeaconHighJitter ≤ scoreBeacon := by decide
          exact (ih (flagged_of_evidence (by decide) hev) hjitter.1 hjitter.2 h).cons hmore.le hscore.le (.inr hscore)
        · exact (ih hbest hpos hle h).cons le_rfl (hscore.trans_le (not_lt.mp hmore)) (.inl rfl)

/-- The scores of the connections among samples, and none. -/
def connectionScores (lib : BeaconLib R) (samples : List (BeaconKey R × Datetime)) : Set Int :=
  {x | x = 0 ∨ ∃ s ∈ samples, groupScore lib (classOf samples s.1) = x}

theorem isGreatest_beacon [LawfulPyNum R] {lib : BeaconLib R}
    (h : checkBeaconPattern lib flows = some r) :
    Flagged r ∧ IsGreatest (connectionScores lib (samplesOf lib flows)) r.score := by
  rw [checkBeaconPattern, Option.bind_eq_some_iff] at h
  obtain ⟨gs, hgs, hscan⟩ := h
  have hnone : Flagged ⟨0, none⟩ := rfl
  have hgreatest := greatest_of_scanGroups hnone le_rfl (by decide) hscan
  obtain ⟨hgrouped, -⟩ := grouped_of_groupFlows hgs
  have hiff (x : Int) := hgrouped.exists_iff (groupScore lib · = x)
  refine ⟨hgreatest.flagged, ?_, ?_⟩
  · exact hgreatest.attained.imp id (hiff r.score).mp
  · rintro x (rfl | hx)
    · exact hgreatest.le
    · obtain ⟨g, hg, rfl⟩ := (hiff x).mpr hx
      exact hgreatest.bound g hg

/-- With timestamps of one kind the check raises only for a key that cannot be read. -/
theorem checkBeaconPattern_isSome_iff [LawfulPyNum R] {lib : BeaconLib R}
    (hkind : OneKind (flows.filterMap (timestamp lib))) :
    (checkBeaconPattern lib flows).isSome ↔ ∀ f ∈ flows, KeyReadable lib f := by
  rw [checkBeaconPattern]
  cases hgs : groupFlows lib flows with
  | none =>
    obtain ⟨f, hf, hbad⟩ := groupFlows_eq_none_iff.mp hgs
    exact iff_of_false (by simp) fun h => hbad (h f hf)
  | some gs =>
    refine iff_of_true (Option.isSome_iff_ne_none.mpr fun hnone => ?_) fun f hf => ?_
    · obtain ⟨before, g, after, rfl, -, hg⟩ := (scanGroups_eq_none_iff gs _).mp hnone
      have htimestamps := (grouped_of_groupFlows hgs).1.timestamps g (by simp)
      have hsub : ∀ t ∈ g.2, t ∈ flows.filterMap (timestamp lib) := by
        intro t ht
        rw [htimestamps, classOf, List.mem_map] at ht
        obtain ⟨s, hs, rfl⟩ := ht
        obtain ⟨f, hf, hs⟩ := List.mem_filterMap.mp (List.mem_filter.mp hs).1
        exact List.mem_filterMap.mpr ⟨f, hf, (of_sample (Option.join_eq_some_iff.mp hs)).2.2.2.2⟩
      exact (pattern_eq_none_iff.mp hg).2 (hkind.imp (fun h t ht => h t (hsub t ht)) fun h t ht =>
        h t (hsub t ht))
    · by_contra hbad
      cases hgs.symm.trans (groupFlows_eq_none_iff.mpr ⟨f, hf, hbad⟩)

/-! ### The primary source -/

theorem primarySourceIp_isSome_iff :
    (primarySourceIp lib flows).isSome ↔ ∀ f ∈ flows, countedSource f ≠ none := by
  cases hloop : forEach countedSource countSource flows [] with
  | none =>
    obtain ⟨f, hf, hnone⟩ := forEach_eq_none_iff.mp hloop
    exact iff_of_false (by simp [primarySourceIp, hloop]) fun h => h f hf hnone
  | some counts =>
    exact iff_of_true (by simp [primarySourceIp, hloop]) (forEach_eq_some_iff.mp hloop).1

/-! ### Dicts of the schema -/

/-- A string or nothing. -/
def IsText (v : PyVal R) : Prop := v = .none ∨ ∃ s, v = .str s

/-- A number or nothing. -/
def IsNumeric (v : PyVal R) : Prop := v = .none ∨ v.number.isSome

def textFields : List String :=
  ["source_ip", "destination_ip", "process_name", "parent_process_name", "application", "domain",
    "dst_hostname", "dns_domain"]

def numberFields : List String := ["destination_port", "bytes_out", "bytes_in", "pid"]

/-- The members of a flow or a process event have the types that their producers give them. -/
structure WellTyped (f : Telemetry R) : Prop where
  text : ∀ key ∈ textFields, ∀ v, f.lookup key = some v → IsText v
  number : ∀ key ∈ numberFields, ∀ v, f.lookup key = some v → IsNumeric v

section
variable {f : Telemetry R} {v d : PyVal R} {key : String}

theorem WellTyped.getText (h : WellTyped f) (hkey : key ∈ textFields) (hd : IsText d) :
    IsText (f.get key d) := by
  unfold Telemetry.get
  cases hv : f.lookup key with
  | none => exact hd
  | some v => exact h.text key hkey v hv

theorem WellTyped.getNumeric (h : WellTyped f) (hkey : key ∈ numberFields) (hd : IsNumeric d) :
    IsNumeric (f.get key d) := by
  unfold Telemetry.get
  cases hv : f.lookup key with
  | none => exact hd
  | some v => exact h.number key hkey v hv

theorem IsNumeric.hashable (h : IsNumeric v) : hashable v = true := by
  rcases h with rfl | h
  · rfl
  · cases v <;> first | rfl | cases h

omit [PyNum R] in
theorem IsText.hashable (h : IsText v) : hashable v = true := by
  rcases h with rfl | ⟨s, rfl⟩ <;> rfl

theorem IsText.lowered_ne_none (h : IsText v) : lowered v ≠ none := by
  rcases h with rfl | ⟨s, rfl⟩
  · simp [lowered, PyVal.truth]
  · unfold lowered
    split_ifs <;> simp [PyVal.text]

theorem IsText.isExternalIp_ne_none (h : IsText v) : isExternalIp v ≠ none := by
  rcases h with rfl | ⟨s, rfl⟩ <;> simp [isExternalIp, PyVal.truth]

theorem IsText.orElse {w : PyVal R} (h : IsText v) (hw : IsText w) : IsText (orElse v w) := by
  unfold Triage.orElse
  split_ifs
  · exact h
  · exact hw

theorem WellTyped.isExternalIp_ne_none (h : WellTyped f) : isExternalIp (destinationIp f) ≠ none :=
  (h.getText (by decide) (.inr ⟨"", rfl⟩)).isExternalIp_ne_none

theorem WellTyped.keyReadable (h : WellTyped f) (lib : BeaconLib R) : KeyReadable lib f :=
  ⟨h.isExternalIp_ne_none, fun _ _ =>
    ⟨(h.getText (by decide) (.inr ⟨"", rfl⟩)).hashable,
      (h.getNumeric (by decide) (.inr rfl)).hashable⟩⟩

theorem WellTyped.processName_ne_none (h : WellTyped f) (names : List (Int × String)) :
    processName names f ≠ none := by
  unfold processName
  split_ifs
  · exact (h.getText (by decide) (.inl rfl)).lowered_ne_none
  · have happ : lowered (f.get "application" .none) ≠ none :=
      (h.getText (by decide) (.inl rfl)).lowered_ne_none
    rw [nameOfPid, if_pos (h.getNumeric (by decide) (.inl rfl)).hashable]
    cases (names.find? fun x => pyEq (f.get "pid" .none) (.int x.1)).map Prod.snd <;> simp [happ]

/-- The duration that is read of the flow is a number, and `float` takes it unless it is zero. -/
def DurationReadable (lib : RatLib R) (f : Telemetry R) : Prop :=
  ∃ duration, flowDuration lib f = some duration ∧ (duration.truth → duration.toFloat ≠ none)

theorem longLivedEffect_ne_none_iff : longLivedEffect lib f ≠ none ↔ DurationReadable lib f := by
  unfold longLivedEffect DurationReadable
  cases flowDuration lib f with
  | none => simp
  | some duration =>
    simp only [Option.bind_eq_bind, Option.bind_some, Option.some.injEq, exists_eq_left']
    cases duration.truth with
    | false => simp
    | true =>
      cases duration.toFloat with
      | none => simp
      | some x =>
        simp only [Option.bind_some]
        split_ifs <;> simp

/-- Where the destination is external and the process has a name, the duration is read. -/
theorem unknownBinaryEffect_ne_none_iff (h : WellTyped f) {names : List (Int × String)} :
    unknownBinaryEffect lib names f ≠ none ↔ (isExternalIp (destinationIp f) = some true →
      processName names f ≠ some "" → DurationReadable lib f) := by
  obtain ⟨external, hexternal⟩ := Option.ne_none_iff_exists'.mp h.isExternalIp_ne_none
  obtain ⟨name, hname⟩ := Option.ne_none_iff_exists'.mp (h.processName_ne_none names)
  rw [← longLivedEffect_ne_none_iff]
  simp only [unknownBinaryEffect, hexternal, hname, Option.bind_eq_bind, Option.bind_some,
    Option.some.injEq]
  cases external with
  | false => simp
  | true =>
    by_cases hempty : name = ""
    · simp [hempty]
    · cases longLivedEffect lib f <;> simp [hempty]

def intFields : List String := ["destination_port", "bytes_out", "bytes_in"]

/-- The numbers of an internal flow are read as well. -/
theorem novelEffect_ne_none_iff (h : WellTyped f) :
    novelEffect lib f ≠ none ↔ ∀ key ∈ intFields, (f.get key (.int 0)).toInt ≠ none := by
  obtain ⟨external, hexternal⟩ := Option.ne_none_iff_exists'.mp h.isExternalIp_ne_none
  simp only [intFields, List.forall_mem_cons, novelEffect,
    Option.bind_eq_bind]
  cases (f.get "destination_port" (.int 0)).toInt with
  | none => simp
  | some port =>
    cases (f.get "bytes_out" (.int 0)).toInt with
    | none => simp
    | some sent =>
      cases (f.get "bytes_in" (.int 0)).toInt with
      | none => simp
      | some received => cases external <;> simp [hexternal]

theorem c2Entry_ne_none (h : WellTyped f) : c2Entry f ≠ none := by
  have hdomain : IsText (flowDomain f) :=
    (h.getText (by decide) (.inl rfl)).orElse ((h.getText (by decide) (.inl rfl)).orElse
      ((h.getText (by decide) (.inl rfl)).orElse (.inr ⟨"", rfl⟩)))
  unfold c2Entry
  rcases hdomain with hd | ⟨s, hd⟩
  · simp [hd, PyVal.truth]
  · rw [hd]
    split_ifs <;> simp [PyVal.text]

theorem countedSource_ne_none (h : WellTyped f) : countedSource f ≠ none := by
  have hsource : hashable (f.get "source_ip" (.str "")) = true :=
    (h.getText (by decide) (.inr ⟨"", rfl⟩)).hashable
  unfold countedSource
  rw [if_pos hsource]
  split_ifs <;> simp

end

end Rat
end SocFabric
