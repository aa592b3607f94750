import SocFabric.Lib.Decimal
import SocFabric.Lib.Joined
import SocFabric.Lib.Mealy
import SocFabric.LogQueries

/-!
# The novelty cache over a run (`core-ingest/network_analyzer.go`)

`CheckDestinationNovelty` skips the database for a flow whose joined text it finds in
`KnownDestinations`. The text joins tenant, addresses, port and protocol with `:`, which IPv6
addresses contain, so two flows can share a text. A run is a list of calls from an empty cache;
`noveltySound_iff` says which runs the fast path answers as the slow path would have.
-/

namespace SocFabric

/-- A call, with the database manager it finds. -/
structure NoveltyCall where
  db : Option (Query → Except String UInt64)
  newID : String := ""
  tenantID : String
  flow : NetworkFlow

namespace NoveltyCall
variable (c : NoveltyCall) (known : List String)

def hasAddresses : Prop := c.flow.sourceIP ≠ "" ∧ c.flow.destinationIP ≠ ""

def key : String := noveltyKey c.tenantID c.flow

/-- What the key is meant to stand for. -/
def tuple : String × String × String × UInt16 × String :=
  (c.tenantID, c.flow.sourceIP, c.flow.destinationIP, c.flow.destinationPort, c.flow.protocol)

/-- The history query of the call, were it issued, is answered with a count. -/
def answered : Prop := ∃ count n, c.db = some count ∧ count (noveltyQuery c.tenantID c.flow) = .ok n

def check : Novelty := checkDestinationNovelty c.db c.newID known c.tenantID c.flow

def fastPath : Prop := c.hasAddresses ∧ c.key ∈ known

end NoveltyCall

/-- One call on the cache that the calls before it left. -/
def noveltyStep (known : List String) (c : NoveltyCall) : List String × Novelty :=
  ((c.check known).known, c.check known)

def knownAfter (calls : List NoveltyCall) : List String :=
  calls.foldl (fun known c => (c.check known).known) []

/-- The signals that the calls with one tuple produce. -/
def noveltySignals (tuple : String × String × String × UInt16 × String) (known : List String)
    (calls : List NoveltyCall) : List NoveltySignal :=
  ((Mealy.outputs noveltyStep known calls).filter (·.1.tuple = tuple)).flatMap (·.2.signals)

structure NoveltySound (calls : List NoveltyCall) : Prop where
  fastPath : ∀ {past c rest}, calls = past ++ c :: rest → c.fastPath (knownAfter past) →
    ∃ earlier c' later, past = earlier ++ c' :: later ∧ (c'.check (knownAfter earlier)).err = none ∧
      c'.tuple = c.tuple
  failed : ∀ {past c rest}, calls = past ++ c :: rest → (c.check (knownAfter past)).err ≠ none →
    knownAfter (past ++ [c]) = knownAfter past
  once : ∀ tuple, (noveltySignals tuple [] calls).length ≤ 1

/-! ### One call -/

namespace NoveltyCall
variable {c c' : NoveltyCall} {known : List String}

theorem key_eq_of_tuple_eq (h : c.tuple = c'.tuple) : c.key = c'.key := by
  simp only [tuple, Prod.mk.injEq] at h
  obtain ⟨h1, h2, h3, h4, h5⟩ := h
  simp only [key, noveltyKey, h1, h2, h3, h4, h5]

theorem hasAddresses_of_tuple_eq (h : c.tuple = c'.tuple) (hc : c'.hasAddresses) : c.hasAddresses := by
  simp only [tuple, Prod.mk.injEq] at h
  obtain ⟨-, h2, h3, -, -⟩ := h
  rw [hasAddresses, h2, h3]
  exact hc

theorem check_of_not_hasAddresses (h : ¬ c.hasAddresses) : c.check known = { known } := by
  have hempty : c.flow.sourceIP = "" ∨ c.flow.destinationIP = "" := by
    by_contra hne
    exact h (not_or.mp hne)
  simp only [check, checkDestinationNovelty, if_pos hempty]

theorem check_of_fastPath (h : c.fastPath known) : c.check known = { known } := by
  have hk : noveltyKey c.tenantID c.flow ∈ known := h.2
  simp only [check, checkDestinationNovelty, if_neg (not_or.mpr h.1), if_pos hk]

theorem check_of_not_answered (ha : c.hasAddresses) (hk : c.key ∉ known) (h : ¬ c.answered) :
    (c.check known).signals = [] ∧ (c.check known).err ≠ none ∧ (c.check known).known = known := by
  rw [key] at hk
  simp only [check, checkDestinationNovelty, if_neg (not_or.mpr ha), if_neg hk]
  split
  · simp
  · next count hdb =>
    split
    · simp
    · next n hn => exact absurd ⟨count, n, hdb, hn⟩ h

theorem check_of_answered (ha : c.hasAddresses) (hk : c.key ∉ known) (h : c.answered) :
    (c.check known).signals.length ≤ 1 ∧ (c.check known).err = none ∧
      (c.check known).known = c.key :: known := by
  obtain ⟨count, n, hdb, hn⟩ := h
  rw [key] at hk ⊢
  simp only [check, checkDestinationNovelty, if_neg (not_or.mpr ha), if_neg hk, hdb, hn]
  split_ifs <;> simp

theorem mem_known_check_iff (k : String) :
    k ∈ (c.check known).known ↔ k ∈ known ∨ (c.hasAddresses ∧ c.answered ∧ c.key = k) := by
  by_cases ha : c.hasAddresses
  · by_cases hk : c.key ∈ known
    · rw [check_of_fastPath ⟨ha, hk⟩]
      refine ⟨.inl, ?_⟩
      rintro (h | ⟨-, -, rfl⟩)
      · exact h
      · exact hk
    · by_cases h : c.answered
      · simp [(check_of_answered ha hk h).2.2, ha, h, or_comm, eq_comm]
      · simp [(check_of_not_answered ha hk h).2.2, h]
  · simp [check_of_not_hasAddresses ha, ha]

theorem err_check_eq_none_iff (ha : c.hasAddresses) :
    (c.check known).err = none ↔ c.key ∈ known ∨ c.answered := by
  by_cases hk : c.key ∈ known
  · simp [check_of_fastPath ⟨ha, hk⟩, hk]
  · by_cases h : c.answered
    · simp [(check_of_answered ha hk h).2.1, h]
    · simp [(check_of_not_answered ha hk h).2.1, hk, h]

theorem known_check_of_err (h : (c.check known).err ≠ none) : (c.check known).known = known := by
  by_cases ha : c.hasAddresses
  · rw [Ne, err_check_eq_none_iff ha, not_or] at h
    exact (check_of_not_answered ha h.1 h.2).2.2
  · rw [check_of_not_hasAddresses ha]

end NoveltyCall

/-! ### A run -/

section
variable {calls past rest : List NoveltyCall} {c : NoveltyCall} {known : List String}

theorem knownAfter_concat (past : List NoveltyCall) (c : NoveltyCall) :
    knownAfter (past ++ [c]) = (c.check (knownAfter past)).known := by
  rw [knownAfter, List.foldl_concat]
  rfl

/-- The cache holds the texts of the calls that the database could answer. -/
theorem mem_knownAfter_iff (k : String) :
    k ∈ knownAfter calls ↔ ∃ c ∈ calls, c.hasAddresses ∧ c.answered ∧ c.key = k := by
  induction calls using List.reverseRecOn with
  | nil => simp [knownAfter]
  | append_singleton past c ih =>
    rw [knownAfter_concat, NoveltyCall.mem_known_check_iff, ih]
    simp only [List.mem_append, List.mem_singleton, or_and_right, exists_or, exists_eq_left]

variable {tuple : String × String × String × UInt16 × String}

theorem noveltySignals_cons (tuple : String × String × String × UInt16 × String) (known : List String)
    (c : NoveltyCall) (rest : List NoveltyCall) :
    noveltySignals tuple known (c :: rest) =
      (if c.tuple = tuple then (c.check known).signals else []) ++
        noveltySignals tuple (c.check known).known rest := by
  simp only [noveltySignals, Mealy.outputs, List.filter_cons, decide_eq_true_eq]
  split_ifs <;> rfl

/-- A tuple whose text is cached produces no signal. -/
theorem noveltySignals_eq_nil (hk : ∀ c : NoveltyCall, c.tuple = tuple → c.hasAddresses → c.key ∈ known) :
    noveltySignals tuple known calls = [] := by
  induction calls generalizing known with
  | nil => rfl
  | cons c rest ih =>
    rw [noveltySignals_cons, ih fun d hd ha => (NoveltyCall.mem_known_check_iff _).mpr (.inl (hk d hd ha)),
      List.append_nil]
    split_ifs with ht
    · by_cases ha : c.hasAddresses
      · rw [NoveltyCall.check_of_fastPath ⟨ha, hk c ht ha⟩]
      · rw [NoveltyCall.check_of_not_hasAddresses ha]
    · rfl

theorem length_noveltySignals_le (tuple : String × String × String × UInt16 × String) (known : List String)
    (calls : List NoveltyCall) : (noveltySignals tuple known calls).length ≤ 1 := by
  induction calls generalizing known with
  | nil => exact Nat.zero_le 1
  | cons c rest ih =>
    rw [noveltySignals_cons]
    split_ifs with ht
    · by_cases ha : c.hasAddresses
      · by_cases hk : c.key ∈ known
        · rw [NoveltyCall.check_of_fastPath ⟨ha, hk⟩]
          exact ih known
        · by_cases h : c.answered
          · -- The call that signals also caches its text, and with it every later call of the tuple.
            obtain ⟨hlen, -, hknown⟩ := NoveltyCall.check_of_answered ha hk h
            rw [hknown, noveltySignals_eq_nil, List.append_nil]
            · exact hlen
            · intro d hd _
              rw [NoveltyCall.key_eq_of_tuple_eq (hd.trans ht.symm)]
              exact List.mem_cons_self
          · obtain ⟨hnil, -, hknown⟩ := NoveltyCall.check_of_not_answered ha hk h
            rw [hnil, hknown]
            exact ih known
      · rw [NoveltyCall.check_of_not_hasAddresses ha]
        exact ih known
    · exact ih _

/-- A call whose text an earlier call left in the cache had the tuple of an earlier answered
call. -/
def Unaliased (calls : List NoveltyCall) : Prop :=
  ∀ past c rest, calls = past ++ c :: rest → c.hasAddresses →
    (∃ c' ∈ past, c'.hasAddresses ∧ c'.answered ∧ c'.key = c.key) → ∃ c' ∈ past, c'.answered ∧ c'.tuple = c.tuple

theorem Unaliased.sound (h : Unaliased calls) : NoveltySound calls := by
  refine ⟨?_, ?_, fun tuple => length_noveltySignals_le tuple [] calls⟩
  · intro past c rest hcalls hfast
    obtain ⟨c', hmem, hans, htuple⟩ := h past c rest hcalls hfast.1 ((mem_knownAfter_iff _).mp hfast.2)
    obtain ⟨earlier, later, rfl⟩ := List.append_of_mem hmem
    have ha' := NoveltyCall.hasAddresses_of_tuple_eq htuple hfast.1
    exact ⟨earlier, c', later, rfl, (NoveltyCall.err_check_eq_none_iff ha').mpr (.inr hans), htuple⟩
  · intro past c rest _ herr
    rw [knownAfter_concat, NoveltyCall.known_check_of_err herr]

theorem NoveltySound.unaliased (h : NoveltySound calls) : Unaliased calls := by
  intro past
  -- The first successful call with a tuple is not on the fast path, so the database answered it.
  induction hn : past.length using Nat.strong_induction_on generalizing past with
  | _ n ih =>
    intro c rest hcalls ha hkey
    obtain ⟨earlier, c', later, rfl, hok, htuple⟩ :=
      h.fastPath hcalls ⟨ha, (mem_knownAfter_iff _).mpr hkey⟩
    have ha' := NoveltyCall.hasAddresses_of_tuple_eq htuple ha
    rcases (NoveltyCall.err_check_eq_none_iff ha').mp hok with hk | hans
    · have hlt : earlier.length < n := by
        simp only [List.length_append, List.length_cons] at hn
        omega
      obtain ⟨d, hd, hans, hdt⟩ := ih _ hlt earlier rfl c' (later ++ c :: rest)
        (by simpa using hcalls) ha' ((mem_knownAfter_iff _).mp hk)
      exact ⟨d, List.mem_append_left _ hd, hans, hdt.trans htuple⟩
    · exact ⟨c', by simp, hans, htuple⟩

end

/-- The fast path of a run is sound exactly if a call shares its text with an earlier call that the
database could answer only where such a call had the very same tuple. A failed call never changes
the cache, and a tuple never signals twice. -/
theorem noveltySound_iff (calls : List NoveltyCall) : NoveltySound calls ↔ Unaliased calls :=
  ⟨NoveltySound.unaliased, Unaliased.sound⟩

def ipv6Call (sourceIP destinationIP : String) : NoveltyCall where
  db := some fun _ => .ok 0
  tenantID := "acme-corp"
  flow := { sourceIP, destinationIP, destinationPort := 443, protocol := "TCP" }

/-- Two IPv6 pairs with one joined text: the second is new, and is taken for the first. -/
theorem ipv6_pair_suppressed : ¬ ∀ calls, NoveltySound calls := by
  intro h
  obtain ⟨c', hmem, -, htuple⟩ :=
    (h [ipv6Call "2001:db8::2" "3:4:5::6", ipv6Call "2001:db8::2:3" "4:5::6"]).unaliased
      [ipv6Call "2001:db8::2" "3:4:5::6"] (ipv6Call "2001:db8::2:3" "4:5::6") [] rfl
      ⟨by decide, by decide⟩
      ⟨_, List.mem_singleton_self _, ⟨by decide, by decide⟩, ⟨_, 0, rfl, rfl⟩, by decide⟩
  rw [List.mem_singleton.mp hmem] at htuple
  exact absurd htuple (by decide)

/-! ### Addresses without a colon -/

namespace NoveltyCall

/-- The tenant id and the addresses do not contain the separator. -/
def colonFree (c : NoveltyCall) : Prop :=
  ':' ∉ c.tenantID.toList ∧ ':' ∉ c.flow.sourceIP.toList ∧ ':' ∉ c.flow.destinationIP.toList

theorem toList_key (c : NoveltyCall) :
    c.key.toList = c.tenantID.toList ++ ':' :: (c.flow.sourceIP.toList ++ ':' ::
      (c.flow.destinationIP.toList ++ ':' ::
        (c.flow.destinationPort.toNat.repr.toList ++ ':' :: c.flow.protocol.toList))) := by
  simp [key, noveltyKey]

theorem tuple_eq_of_key_eq {c c' : NoveltyCall} (hc : c.colonFree) (hc' : c'.colonFree) (h : c.key = c'.key) :
    c.tuple = c'.tuple := by
  have hlist := congrArg String.toList h
  rw [toList_key, toList_key] at hlist
  obtain ⟨htenant, hlist⟩ := Joined.left_injective hlist hc.1 hc'.1
  obtain ⟨hsrc, hlist⟩ := Joined.left_injective hlist hc.2.1 hc'.2.1
  obtain ⟨hdst, hlist⟩ := Joined.left_injective hlist hc.2.2 hc'.2.2
  obtain ⟨hport, hproto⟩ := Joined.left_injective hlist (Decimal.notMem_repr _ (by decide))
    (Decimal.notMem_repr _ (by decide))
  have hnat : c.flow.destinationPort.toNat = c'.flow.destinationPort.toNat :=
    Decimal.repr_inj.mp (String.toList_injective hport)
  simp only [tuple, String.toList_inj.mp htenant, String.toList_inj.mp hsrc, String.toList_inj.mp hdst,
    UInt16.toNat_inj.mp hnat, String.toList_inj.mp hproto]

end NoveltyCall

/-- Over IPv4 addresses the cache is sound. -/
theorem noveltySound_of_colonFree {calls : List NoveltyCall} (h : ∀ c ∈ calls, c.colonFree) :
    NoveltySound calls := by
  apply Unaliased.sound
  rintro past c rest rfl - ⟨c', hmem, -, hans, hkey⟩
  have hc := h c (by simp)
  have hc' := h c' (by simp [hmem])
  exact ⟨c', hmem, hans, NoveltyCall.tuple_eq_of_key_eq hc' hc hkey⟩

end SocFabric
