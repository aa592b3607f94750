import SocFabric.FlowForensics
import SocFabric.Lib.PyNumber

/-!
# The exfiltration risk of a flow (`NetworkForensicsSubagent.analyze_flow_features`)

The risk grows with the ratio of the bytes sent to the bytes received, and the ratio of two counts
is the rounded quotient, which grows with the first and falls with the second. Without any bytes
received there is no quotient: the ratio is 100 from 50001 bytes sent on and 1 below. So sending
more or receiving less keeps the flag except where the last received bytes are gone from a flow of
at most 50000 (`risk_kept_iff`).
-/

namespace SocFabric
namespace Triage

variable {R : Type} [PyNum R]

/-- The telemetry with these byte counts. -/
def Telemetry.withBytes (t : Telemetry R) (bytesOut bytesIn : Nat) : Telemetry R :=
  ("bytes_out", .int bytesOut) :: ("bytes_in", .int bytesIn) :: t

section
variable (t : Telemetry R) (sent received : Nat)

omit [PyNum R] in
@[simp]
theorem get_bytesOut (d : PyVal R) : (t.withBytes sent received).get "bytes_out" d = .int sent := by
  simp [Telemetry.get, Telemetry.withBytes]

omit [PyNum R] in
@[simp]
theorem get_bytesIn (d : PyVal R) :
    (t.withBytes sent received).get "bytes_in" d = .int received := by
  simp [Telemetry.get, Telemetry.withBytes, List.lookup_cons]

omit [PyNum R] in
theorem get_withBytes (key : String) (hkey : key ≠ "bytes_out" ∧ key ≠ "bytes_in") (d : PyVal R) :
    (t.withBytes sent received).get key d = t.get key d := by
  have hout : (key == "bytes_out") = false := beq_false_of_ne hkey.1
  have hin : (key == "bytes_in") = false := beq_false_of_ne hkey.2
  simp [Telemetry.get, Telemetry.withBytes, List.lookup_cons, hout, hin]

@[simp]
theorem domain_withBytes : (t.withBytes sent received).domain = t.domain := by
  simp only [Telemetry.domain, get_withBytes t sent received "domain" (by decide),
    get_withBytes t sent received "dst_hostname" (by decide),
    get_withBytes t sent received "dns_domain" (by decide)]

end

/-- The byte counts matter to the ratio only: an analysis that returns for some counts returns for
all that have a ratio. -/
theorem analyze_withBytes {t : Telemetry R} {sent received : Nat} {f : FlowFindings R}
    (h : analyzeFlowFeatures (t.withBytes sent received) = some f) :
    (∃ ratio, asymmetryRatio (.int sent : PyVal R) (.int received) = some ratio ∧
      f.exfiltrationRisk = exfiltrationRisk ratio f.domainCategory (.int sent)) ∧
    ∀ (sent' received' : Nat) (ratio' : R),
      asymmetryRatio (.int sent' : PyVal R) (.int received') = some ratio' →
      ∃ f', analyzeFlowFeatures (t.withBytes sent' received') = some f' ∧
        f'.exfiltrationRisk = exfiltrationRisk ratio' f.domainCategory (.int sent') := by
  simp only [analyzeFlowFeatures, Option.bind_eq_bind,
    get_withBytes t _ _ "application" (by decide), get_withBytes t _ _ "protocol" (by decide),
    get_withBytes t _ _ "destination_ip" (by decide), get_withBytes t _ _ "source_ip" (by decide),
    get_withBytes t _ _ "destination_port" (by decide), get_bytesOut, get_bytesIn,
    domain_withBytes] at h ⊢
  simp only [Option.bind_eq_some_iff, Option.pure_def, Option.some.injEq] at h
  obtain ⟨app, happ, protocol, hprotocol, destIP, hdest, sourceIP, hsource, category, hcategory,
    ratio, hratio, rfl⟩ := h
  refine ⟨⟨ratio, hratio, rfl⟩, fun sent' received' ratio' hratio' => ?_⟩
  simp only [happ, hprotocol, hdest, hsource, hcategory, hratio', Option.bind_some]
  exact ⟨_, rfl, rfl⟩

/-! ### Ratios -/

/-- The ratio of two byte counts, as a double. -/
def byteRatio (sent received : Nat) : Option Rat :=
  if 0 < sent ∧ 0 < received then Float64.round ((sent : Rat) / received)
  else some (if 50000 < sent ∧ received = 0 then 100 else 1)

/-- The flag, by the ratio as a number. -/
def Risky (ratio : Rat) (c : DomainCategory) (sent : Nat) : Prop :=
  50 ≤ ratio ∨ (10 ≤ ratio ∧ (c.isMalicious = true ∨ 100000 ≤ sent)) ∨ c.isMalicious = true

theorem round_byteRatio {sent received : Nat} {x : Rat} (h : byteRatio sent received = some x) :
    Float64.round x = some x := by
  unfold byteRatio at h
  split_ifs at h
  · exact Float64.round_round h
  · cases h
    exact Float64.round_natCast (n := 100) (by norm_num)
  · cases h
    exact Float64.round_natCast (n := 1) (by norm_num)

theorem byteRatio_isSome {sent received : Nat}
    (h : (Float64.round ((sent : Rat) / received)).isSome) : ∃ x, byteRatio sent received = some x := by
  unfold byteRatio
  split_ifs
  · exact Option.isSome_iff_exists.mp h
  · exact ⟨_, rfl⟩
  · exact ⟨_, rfl⟩

theorem Risky.mono {x y : Rat} {c : DomainCategory} {sent sent' : Nat} (h : Risky x c sent)
    (hxy : x ≤ y) (hsent : sent ≤ sent') : Risky y c sent' := by
  rcases h with h | ⟨h, hmal | hlarge⟩ | hmal
  · exact .inl (h.trans hxy)
  · exact .inr (.inr hmal)
  · exact .inr (.inl ⟨h.trans hxy, .inr (hlarge.trans hsent)⟩)
  · exact .inr (.inr hmal)

/-- A ratio of 1 is none that matters. -/
theorem risky_one_iff {c : DomainCategory} {sent : Nat} : Risky 1 c sent ↔ c.isMalicious = true := by
  unfold Risky
  norm_num

section
variable [RoundingPyNum R]

theorem asymmetryRatio_int (sent received : Nat) :
    asymmetryRatio (.int sent : PyVal R) (.int received) =
      (byteRatio sent received).map PyNum.lit := by
  have hcast : (50000 < (sent : Int) ∧ (received : Int) = 0) ↔ 50000 < sent ∧ received = 0 := by
    omega
  simp only [asymmetryRatio, PyVal.number, PyVal.eqZero, Option.bind_eq_bind, Option.bind_some,
    RoundingPyNum.lt_ofInt, Bool.and_eq_true, decide_eq_true_eq, byteRatio, Option.pure_def,
    Int.natCast_pos, hcast]
  by_cases hsent : 0 < sent
  · by_cases hreceived : 0 < received
    · rw [if_pos hsent, if_pos hreceived, if_pos ⟨hsent, hreceived⟩,
        RoundingPyNum.div_ofInt (by exact_mod_cast hsent) (by exact_mod_cast hreceived),
        Int.cast_natCast, Int.cast_natCast]
    · have hidle : ¬ (0 < sent ∧ 0 < received) := fun h => hreceived h.2
      rw [if_pos hsent, if_neg hreceived, if_neg hidle, Option.map_some, apply_ite PyNum.lit]
  · have hidle : ¬ (0 < sent ∧ 0 < received) := fun h => hsent h.1
    rw [if_neg hsent, if_neg hidle, Option.map_some, apply_ite PyNum.lit]

theorem exfiltrationRisk_lit {x : Rat} (hx : Float64.round x = some x) (c : DomainCategory)
    (sent : Nat) : exfiltrationRisk (PyNum.lit x : R) c (.int sent) = true ↔ Risky x c sent := by
  have h50 := RoundingPyNum.le_lit (R := R) (Float64.round_natCast (n := 50) (by norm_num)) hx
  have h10 := RoundingPyNum.le_lit (R := R) (Float64.round_natCast (n := 10) (by norm_num)) hx
  rw [Nat.cast_ofNat] at h50 h10
  simp only [exfiltrationRisk, PyVal.number, Option.any_some, RoundingPyNum.le_ofInt, h50, h10,
    Risky, Bool.or_eq_true, Bool.and_eq_true, decide_eq_true_eq, or_assoc]
  norm_cast

end

/-- The inbound bytes of a small flow are gone, and its domain says nothing. -/
def LosesInbound (received sent' received' : Nat) (c : DomainCategory) : Prop :=
  0 < received ∧ received' = 0 ∧ sent' ≤ 50000 ∧ c.isMalicious = false

theorem risky_byteRatio_iff {sent received sent' received' : Nat} {x y : Rat} {c : DomainCategory}
    (hsent : sent ≤ sent') (hreceived : received' ≤ received)
    (hx : byteRatio sent received = some x) (hy : byteRatio sent' received' = some y)
    (hrisky : Risky x c sent) : Risky y c sent' ↔ ¬ LosesInbound received sent' received' c := by
  rcases received'.eq_zero_or_pos with rfl | hpos
  · have hy' : y = if 50000 < sent' then 100 else 1 := by
      rw [byteRatio, if_neg (by simp)] at hy
      simpa using hy.symm
    by_cases hlarge : 50000 < sent'
    · rw [hy', if_pos hlarge]
      exact iff_of_true (.inl (by norm_num)) fun h => hlarge.not_ge h.2.2.1
    · rw [hy', if_neg hlarge, risky_one_iff]
      rcases received.eq_zero_or_pos with rfl | hreceived
      · -- Nothing was received before either, and the flow was no larger.
        have hx' : x = 1 := by
          rw [byteRatio, if_neg (by simp), if_neg fun h => hlarge (h.1.trans_le hsent)] at hx
          exact (Option.some.inj hx).symm
        rw [hx', risky_one_iff] at hrisky
        exact iff_of_true hrisky fun h => h.1.false
      · simp [LosesInbound, hreceived, not_lt.mp hlarge]
  · refine iff_of_true ?_ fun h => hpos.ne' h.2.1
    rcases sent.eq_zero_or_pos with rfl | hsent_pos
    · have hx' : x = 1 := by
        rw [byteRatio, if_neg (by simp), if_neg (by simp)] at hx
        exact (Option.some.inj hx).symm
      rw [hx', risky_one_iff] at hrisky
      exact .inr (.inr hrisky)
    · rw [byteRatio, if_pos ⟨hsent_pos, hpos.trans_le hreceived⟩] at hx
      rw [byteRatio, if_pos ⟨hsent_pos.trans_le hsent, hpos⟩] at hy
      have hquot : (sent : Rat) / received ≤ sent' / received' :=
        div_le_div₀ (by positivity) (by exact_mod_cast hsent) (by exact_mod_cast hpos)
          (by exact_mod_cast hreceived)
      obtain ⟨x', hx', hle⟩ := Float64.round_mono (by positivity) hquot hy
      cases hx.symm.trans hx'
      exact hrisky.mono hle hsent

/-! ### More sent, less received -/

theorem risk_kept_iff [RoundingPyNum R] {t : Telemetry R} {sent received sent' received' : Nat}
    {f : FlowFindings R} (hsent : sent ≤ sent') (hreceived : received' ≤ received)
    (h : analyzeFlowFeatures (t.withBytes sent received) = some f) (hrisk : f.exfiltrationRisk = true)
    (hquot : (Float64.round ((sent' : Rat) / received')).isSome) :
    ∃ f', analyzeFlowFeatures (t.withBytes sent' received') = some f' ∧
      (f'.exfiltrationRisk = true ↔
        ¬ (0 < received ∧ received' = 0 ∧ sent' ≤ 50000 ∧ f.domainCategory.isMalicious = false)) := by
  obtain ⟨⟨ratio, hratio, hflag⟩, hall⟩ := analyze_withBytes h
  rw [asymmetryRatio_int] at hratio
  obtain ⟨x, hx, rfl⟩ := Option.map_eq_some_iff.mp hratio
  obtain ⟨y, hy⟩ := byteRatio_isSome hquot
  obtain ⟨f', hf', hflag'⟩ := hall sent' received' (PyNum.lit y) (by rw [asymmetryRatio_int, hy]; rfl)
  have hrisky : Risky x f.domainCategory sent :=
    (exfiltrationRisk_lit (round_byteRatio hx) _ _).mp (hflag ▸ hrisk)
  refine ⟨f', hf', ?_⟩
  rw [hflag', exfiltrationRisk_lit (round_byteRatio hy)]
  exact risky_byteRatio_iff hsent hreceived hx hy hrisky

/-- A flow to a domain that no list knows. -/
def plainFlow : Telemetry PyNumber :=
  [("source_ip", .str "192.168.1.105"), ("destination_ip", .str "203.0.113.55"),
    ("domain", .str "example.com")]

theorem exists_plainFlow_flag {sent received : Nat} {x : Rat}
    (h : byteRatio sent received = some x) :
    ∃ f, analyzeFlowFeatures (plainFlow.withBytes sent received) = some f ∧
      (f.exfiltrationRisk = true ↔ Risky x .general sent) := by
  have hcategory : (analyzeFlowFeatures (plainFlow.withBytes 0 0)).map FlowFindings.domainCategory =
      some .general := by decide +kernel
  obtain ⟨f, hf, hgeneral⟩ := Option.map_eq_some_iff.mp hcategory
  obtain ⟨f', hf', hflag⟩ := (analyze_withBytes hf).2 sent received (PyNum.lit x)
    (by rw [asymmetryRatio_int, h]; rfl)
  refine ⟨f', hf', ?_⟩
  rw [hflag, hgeneral, exfiltrationRisk_lit (round_byteRatio h)]

theorem byteRatio_mul {n k : Nat} (hn : 0 < n) (hk : 0 < k) (h : k < 2 ^ 53) :
    byteRatio (k * n) n = some (k : Rat) := by
  have hne : (n : Rat) ≠ 0 := by exact_mod_cast hn.ne'
  rw [byteRatio, if_pos ⟨Nat.mul_pos hk hn, hn⟩, Nat.cast_mul, mul_div_cancel_right₀ _ hne]
  exact Float64.round_natCast h

theorem risk_kept_with_more_sent :
    ∃ f', analyzeFlowFeatures (plainFlow.withBytes 70000 50) = some f' ∧
      f'.exfiltrationRisk = true := by
  have hratio : byteRatio 60000 100 = some ((600 : Nat) : Rat) :=
    byteRatio_mul (n := 100) (k := 600) (by decide) (by decide) (by decide)
  have hquot : (Float64.round (((70000 : Nat) : Rat) / (50 : Nat))).isSome := by
    have heq : ((70000 : Nat) : Rat) / (50 : Nat) = (1400 : Nat) := by norm_num
    rw [heq, Float64.round_natCast (n := 1400) (by decide)]
    rfl
  obtain ⟨f, hf, hflag⟩ := exists_plainFlow_flag hratio
  obtain ⟨f', hf', hkept⟩ := risk_kept_iff (show 60000 ≤ 70000 by decide) (show 50 ≤ 100 by decide)
    hf (hflag.mpr (.inl (by norm_num))) hquot
  exact ⟨f', hf', hkept.mpr (by simp)⟩

/-- The last inbound bytes of a small upload take its flag away. -/
theorem risk_not_monotone :
    ¬ ∀ (t : Telemetry PyNumber) (sent received sent' received' : Nat) (f f' : FlowFindings PyNumber),
      sent ≤ sent' → received' ≤ received →
      analyzeFlowFeatures (t.withBytes sent received) = some f → f.exfiltrationRisk = true →
      analyzeFlowFeatures (t.withBytes sent' received') = some f' → f'.exfiltrationRisk = true := by
  have hratio : byteRatio 5000 10 = some ((500 : Nat) : Rat) :=
    byteRatio_mul (n := 10) (k := 500) (by decide) (by decide) (by decide)
  have hzero : byteRatio 5000 0 = some 1 := rfl
  obtain ⟨f, hf, hflag⟩ := exists_plainFlow_flag hratio
  obtain ⟨f', hf', hflag'⟩ := exists_plainFlow_flag hzero
  intro h
  have hrisk := h plainFlow 5000 10 5000 0 f f' le_rfl (by decide) hf
    (hflag.mpr (.inl (by norm_num))) hf'
  rw [hflag', risky_one_iff] at hrisk
  cases hrisk

end Triage
end SocFabric
