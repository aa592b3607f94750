import SocFabric.IngestServer
import SocFabric.Lib.Lts

/-!
# The tenant cache (`core-ingest/tenant_registry.go`)

`MemoryRegistry.FetchConfig` as the steps of concurrent calls: the lookup under the read lock, the
check of its age without a lock, and the second check, the query and the store under the write lock.
In between, the clock runs and rows of `tenant_registry` change. A check and the return it decides
are one step, and so are the query, `UpdatedAt` and the store. Whatever a call returns was a row of
the registry less than the time to live ago (`Sourced`), because every entry carries the instant of
its own query.
-/

namespace SocFabric
namespace TenantCache

/-- A row of `tenant_registry`; none of the columns can be null. -/
structure RegistryRow where
  tenantID : String
  webhookSecret : String
  clickhouseDB : String
  llmKey : String
deriving DecidableEq, Repr

inductive FetchError
  | perimeterInvalid (tenantID : String)
  | connection (err : String)
  | malformedSecret (secretHex : String)
deriving DecidableEq, Repr

/-- `hexError` is the text of the decoder's error for a string. -/
def FetchError.message (hexError : String → String) : FetchError → String
  | perimeterInvalid tenantID => "tenant registration perimeter invalid: " ++ tenantID
  | connection err => "metadata layer connection error: " ++ err
  | malformedSecret secretHex => "malformed cryptographic secret token configuration: " ++ hexError secretHex

/-- A `TenantConfig` in the cache, with its `UpdatedAt` in nanoseconds. -/
structure Entry where
  config : TenantConfig
  updatedAt : Int
deriving DecidableEq, Repr

inductive Pc
  | started
  | looked (entry : Option Entry) -- the read lock is released again
  | waiting -- for the write lock
  | locked
  | querying
  | returned (result : Except FetchError TenantConfig) (time : Int)
deriving DecidableEq

structure Call where
  tenantID : String
  pc : Pc := .started
deriving DecidableEq

structure World where
  now : Int
  rows : List RegistryRow
  cache : String → Option Entry := fun _ => none
  writer : Option Nat := none
  calls : List Call := []

def World.setPc (w : World) (c : Nat) (pc : Pc) : World :=
  { w with calls := w.calls.modify c fun call => { call with pc := pc } }

def decodeRow (row : RegistryRow) : Option TenantConfig :=
  (Sha256.hexDecode row.webhookSecret.toList).map fun secret =>
    ⟨row.tenantID, secret, row.clickhouseDB, row.llmKey⟩

def selectRow (rows : List RegistryRow) (tenantID : String) : Option RegistryRow :=
  rows.find? (·.tenantID = tenantID)

/-- The query and the decoding; `failure` is the error of the connection, if there is one. -/
def query (rows : List RegistryRow) (tenantID : String) (failure : Option String) : Except FetchError TenantConfig :=
  match failure with
  | some err => .error (.connection err)
  | none =>
    match selectRow rows tenantID with
    | none => .error (.perimeterInvalid tenantID)
    | some row =>
      match decodeRow row with
      | none => .error (.malformedSecret row.webhookSecret)
      | some config => .ok config

/-- `exists && time.Since(config.UpdatedAt) < mr.ttlTime` -/
def fresh (ttl now : Int) (entry : Option Entry) : Option TenantConfig :=
  entry.bind fun e => if now - e.updatedAt < ttl then some e.config else none

inductive Act
  | tick (d : Nat)
  | setRows (rows : List RegistryRow)
  | call (tenantID : String)
  | go (c : Nat) (failure : Option String)
deriving DecidableEq, Repr

/-- The next step of call `c`; `none` while it waits for a lock. -/
def advance (ttl : Int) (w : World) (c : Nat) (call : Call) (failure : Option String) : Option World :=
  match call.pc with
  | .started => if w.writer = none then some (w.setPc c (.looked (w.cache call.tenantID))) else none
  | .looked entry =>
    match fresh ttl w.now entry with
    | some config => some (w.setPc c (.returned (.ok config) w.now))
    | none => some (w.setPc c .waiting)
  | .waiting => if w.writer = none then some { w.setPc c .locked with writer := some c } else none
  | .locked =>
    match fresh ttl w.now (w.cache call.tenantID) with
    | some config => some { w.setPc c (.returned (.ok config) w.now) with writer := none }
    | none => some (w.setPc c .querying)
  | .querying =>
    match query w.rows call.tenantID failure with
    | .error e => some { w.setPc c (.returned (.error e) w.now) with writer := none }
    | .ok config =>
      some { w.setPc c (.returned (.ok config) w.now) with
        cache := Function.update w.cache call.tenantID (some ⟨config, w.now⟩)
        writer := none }
  | .returned _ _ => none

def step (ttl : Int) (w : World) : Act → Option World
  | .tick d => some { w with now := w.now + d }
  | .setRows rows => some { w with rows := rows }
  | .call tenantID => some { w with calls := w.calls ++ [{ tenantID := tenantID }] }
  | .go c failure => w.calls[c]?.bind (advance ttl w c · failure)

/-! ### What a step does -/

variable {ttl : Int} {w w' : World} {call : Call} {failure : Option String}

/-- The ways in which a call goes on, with its next place and the cache after the step. -/
inductive Advance (ttl : Int) (w : World) (call : Call) : Pc → (String → Option Entry) → Prop
  | look : Advance ttl w call (.looked (w.cache call.tenantID)) w.cache
  | wait {pc : Pc} : pc = .waiting ∨ pc = .locked ∨ pc = .querying → Advance ttl w call pc w.cache
  | hit {entry : Option Entry} {config : TenantConfig} :
      call.pc = .looked entry ∨ entry = w.cache call.tenantID → fresh ttl w.now entry = some config →
      Advance ttl w call (.returned (.ok config) w.now) w.cache
  | fail (e : FetchError) : Advance ttl w call (.returned (.error e) w.now) w.cache
  | load {row : RegistryRow} {config : TenantConfig} :
      selectRow w.rows call.tenantID = some row → decodeRow row = some config →
      Advance ttl w call (.returned (.ok config) w.now)
        (Function.update w.cache call.tenantID (some ⟨config, w.now⟩))

theorem query_eq_ok {rows : List RegistryRow} {tenantID : String} {config : TenantConfig}
    (h : query rows tenantID failure = .ok config) :
    ∃ row, selectRow rows tenantID = some row ∧ decodeRow row = some config := by
  unfold query at h
  split at h
  · cases h
  · split at h
    · cases h
    · rename_i row hrow
      split at h
      · cases h
      · rename_i config' hconfig
        cases h
        exact ⟨row, hrow, hconfig⟩

theorem advance_cases {c : Nat} (hs : advance ttl w c call failure = some w') :
    (∀ r time, call.pc ≠ .returned r time) ∧ w'.now = w.now ∧ w'.rows = w.rows ∧
      ∃ pc, w'.calls = (w.setPc c pc).calls ∧ Advance ttl w call pc w'.cache := by
  obtain ⟨tenantID, pc⟩ := call
  unfold advance at hs
  cases pc with
  | started =>
    dsimp only at hs
    split_ifs at hs
    cases hs
    exact ⟨nofun, rfl, rfl, _, rfl, .look⟩
  | looked entry =>
    dsimp only at hs
    split at hs
    · rename_i config hfresh
      cases hs
      exact ⟨nofun, rfl, rfl, _, rfl, .hit (.inl rfl) hfresh⟩
    · cases hs
      exact ⟨nofun, rfl, rfl, _, rfl, .wait (.inl rfl)⟩
  | waiting =>
    dsimp only at hs
    split_ifs at hs
    cases hs
    exact ⟨nofun, rfl, rfl, _, rfl, .wait (.inr (.inl rfl))⟩
  | locked =>
    dsimp only at hs
    split at hs
    · rename_i config hfresh
      cases hs
      exact ⟨nofun, rfl, rfl, _, rfl, .hit (.inr rfl) hfresh⟩
    · cases hs
      exact ⟨nofun, rfl, rfl, _, rfl, .wait (.inr (.inr rfl))⟩
  | querying =>
    dsimp only at hs
    split at hs
    · rename_i e _
      cases hs
      exact ⟨nofun, rfl, rfl, _, rfl, .fail e⟩
    · rename_i config hquery
      cases hs
      obtain ⟨row, hrow, hconfig⟩ := query_eq_ok hquery
      exact ⟨nofun, rfl, rfl, _, rfl, .load hrow hconfig⟩
  | returned r time => cases hs

/-! ### Where configurations come from -/

variable {w₀ : World} {ops : List Act} {tenantID : String} {u now : Int} {config : TenantConfig} {e : Entry}

/-- At some point of the run the clock shows `u` and the row of the tenant decodes to `config`. -/
def RowAt (ttl : Int) (w₀ : World) (ops : List Act) (tenantID : String) (u : Int) (config : TenantConfig) : Prop :=
  ∃ before after w row, ops = before ++ after ∧ Lts.run (step ttl) Lts.free w₀ before = some w ∧ w.now = u ∧
    selectRow w.rows tenantID = some row ∧ decodeRow row = some config

theorem RowAt.append (h : RowAt ttl w₀ ops tenantID u config) (more : List Act) :
    RowAt ttl w₀ (ops ++ more) tenantID u config := by
  obtain ⟨before, after, w, row, rfl, hrun⟩ := h
  exact ⟨before, after ++ more, w, row, List.append_assoc _ _ _, hrun⟩

theorem RowAt.tenantID_eq (h : RowAt ttl w₀ ops tenantID u config) : config.tenantID = tenantID := by
  obtain ⟨before, after, w, row, -, -, -, hrow, hconfig⟩ := h
  have hid : row.tenantID = tenantID := by simpa using List.find?_some hrow
  rw [decodeRow, Option.map_eq_some_iff] at hconfig
  obtain ⟨secret, -, rfl⟩ := hconfig
  exact hid

/-- The entry is a row of the tenant at the instant that it carries. -/
structure Sourced (ttl : Int) (w₀ : World) (ops : List Act) (now : Int) (tenantID : String) (e : Entry) : Prop where
  past : e.updatedAt ≤ now
  row : RowAt ttl w₀ ops tenantID e.updatedAt e.config

/-- The result is a row of the tenant less than the time to live before `time`. -/
def Recent (ttl : Int) (w₀ : World) (ops : List Act) (tenantID : String) (config : TenantConfig) (time : Int) : Prop :=
  ∃ u, time - ttl < u ∧ u ≤ time ∧ RowAt ttl w₀ ops tenantID u config

theorem Sourced.append (h : Sourced ttl w₀ ops now tenantID e) (more : List Act) {now' : Int}
    (hnow : now ≤ now') :
    Sourced ttl w₀ (ops ++ more) now' tenantID e :=
  ⟨Int.le_trans h.past hnow, h.row.append more⟩

theorem Sourced.recent {entry : Option Entry} (h : ∀ e, entry = some e → Sourced ttl w₀ ops now tenantID e)
    (hfresh : fresh ttl now entry = some config) : Recent ttl w₀ ops tenantID config now := by
  obtain ⟨e, hentry, he⟩ := Option.bind_eq_some_iff.mp hfresh
  rw [Option.ite_none_right_eq_some] at he
  obtain ⟨hage, ⟨⟩⟩ := he
  obtain ⟨hpast, hrow⟩ := h e hentry
  exact ⟨e.updatedAt, by omega, hpast, hrow⟩

theorem Recent.append {time : Int} (h : Recent ttl w₀ ops tenantID config time) (more : List Act) :
    Recent ttl w₀ (ops ++ more) tenantID config time := by
  obtain ⟨u, hlow, hhigh, hrow⟩ := h
  exact ⟨u, hlow, hhigh, hrow.append more⟩

/-- What a call has seen. -/
structure CallOk (ttl : Int) (w₀ : World) (ops : List Act) (now : Int) (call : Call) : Prop where
  looked : ∀ e, call.pc = .looked (some e) → Sourced ttl w₀ ops now call.tenantID e
  returned : ∀ config time, call.pc = .returned (.ok config) time → Recent ttl w₀ ops call.tenantID config time

theorem CallOk.append (h : CallOk ttl w₀ ops now call) (more : List Act) {now' : Int} (hnow : now ≤ now') :
    CallOk ttl w₀ (ops ++ more) now' call :=
  ⟨fun e he => (h.looked e he).append more hnow, fun config time hr => (h.returned config time hr).append more⟩

structure Inv (ttl : Int) (w₀ : World) (ops : List Act) (w : World) : Prop where
  run : Lts.run (step ttl) Lts.free w₀ ops = some w
  cache : ∀ tenantID e, w.cache tenantID = some e → Sourced ttl w₀ ops w.now tenantID e
  calls : ∀ (i : Nat) call, w.calls[i]? = some call → CallOk ttl w₀ ops w.now call

/-- A step that starts no query and moves no call. -/
theorem Inv.frame (h : Inv ttl w₀ ops w) (a : Act) (hs : step ttl w a = some w') (hnow : w.now ≤ w'.now)
    (hcache : w'.cache = w.cache)
    (hcalls : ∀ (i : Nat) call, w'.calls[i]? = some call → w.calls[i]? = some call ∨ call.pc = .started) :
    Inv ttl w₀ (ops ++ [a]) w' := by
  refine ⟨Lts.run_concat_eq_some.mpr ⟨w, h.run, trivial, hs⟩, ?_, ?_⟩
  · intro tenantID e he
    exact (h.cache tenantID e (hcache ▸ he)).append [a] hnow
  · intro i call hi
    rcases hcalls i call hi with hi | hstarted
    · exact (h.calls i call hi).append [a] hnow
    · refine ⟨?_, ?_⟩ <;> simp [hstarted]

theorem callOk_advance (httl : 0 < ttl) (h : Inv ttl w₀ ops w) {c : Nat}
    (hc : w.calls[c]? = some call) {pc : Pc}
    {cache : String → Option Entry} (hadv : Advance ttl w call pc cache) :
    CallOk ttl w₀ ops w.now { call with pc := pc } := by
  cases hadv with
  | look => exact ⟨fun e he => h.cache _ _ (by simpa using he), nofun⟩
  | wait hpc => rcases hpc with rfl | rfl | rfl <;> exact ⟨nofun, nofun⟩
  | @hit entry config hentry hfresh =>
    refine ⟨nofun, ?_⟩
    intro config' time heq
    cases heq
    refine Sourced.recent ?_ hfresh
    intro e he
    rcases hentry with hlooked | hcached
    · exact (h.calls c call hc).looked e (he ▸ hlooked)
    · exact h.cache _ _ (hcached ▸ he)
  | fail e => exact ⟨nofun, nofun⟩
  | @load row config hrow hconfig =>
    refine ⟨nofun, ?_⟩
    intro config' time heq
    cases heq
    exact ⟨w.now, by omega, Int.le_refl _, ops, [], w, row, (List.append_nil _).symm, h.run, rfl, hrow, hconfig⟩

theorem cache_advance (h : Inv ttl w₀ ops w) {pc : Pc} {cache : String → Option Entry}
    (hadv : Advance ttl w call pc cache) (hcached : cache tenantID = some e) :
    Sourced ttl w₀ ops w.now tenantID e := by
  cases hadv with
  | look | wait | hit | fail => exact h.cache _ _ hcached
  | @load row config hrow hconfig =>
    by_cases ht : tenantID = call.tenantID
    · subst ht
      rw [Function.update_self] at hcached
      cases hcached
      exact ⟨Int.le_refl _, ops, [], w, row, (List.append_nil _).symm, h.run, rfl, hrow, hconfig⟩
    · rw [Function.update_of_ne ht] at hcached
      exact h.cache _ _ hcached

theorem inv_step (httl : 0 < ttl) {a : Act} (hs : step ttl w a = some w') (h : Inv ttl w₀ ops w) :
    Inv ttl w₀ (ops ++ [a]) w' := by
  cases a with
  | tick d =>
    refine h.frame _ hs ?_ ?_ ?_ <;> cases hs
    · exact Int.le_add_of_nonneg_right (Int.natCast_nonneg d)
    · rfl
    · exact fun i call hi => .inl hi
  | setRows rows =>
    refine h.frame _ hs ?_ ?_ ?_ <;> cases hs
    · exact Int.le_refl _
    · rfl
    · exact fun i call hi => .inl hi
  | call tenantID =>
    refine h.frame _ hs ?_ ?_ ?_ <;> cases hs
    · exact Int.le_refl _
    · rfl
    · intro i call hi
      rw [List.getElem?_append] at hi
      split_ifs at hi
      · exact .inl hi
      · have hnew := List.mem_of_getElem? hi
        rw [List.mem_singleton.mp hnew]
        exact .inr rfl
  | go c failure =>
    obtain ⟨call, hc, hadvance⟩ := Option.bind_eq_some_iff.mp hs
    obtain ⟨-, hnow, -, pc, hcalls, hadv⟩ := advance_cases hadvance
    refine ⟨Lts.run_concat_eq_some.mpr ⟨w, h.run, trivial, hs⟩, ?_, ?_⟩
    · intro tenantID e he
      exact (cache_advance h hadv he).append _ (Int.le_of_eq hnow.symm)
    · intro i call' hi
      refine CallOk.append ?_ _ (Int.le_of_eq hnow.symm)
      rw [hcalls, World.setPc, List.getElem?_modify] at hi
      obtain ⟨before, hbefore, rfl⟩ := Option.map_eq_some_iff.mp hi
      split_ifs with heq
      · subst heq
        rw [hc] at hbefore
        cases hbefore
        exact callOk_advance httl h hc hadv
      · exact h.calls i before hbefore

/-! ### Errors -/

theorem returned_step {a : Act} (hs : step ttl w a = some w') {c : Nat} (hc : w.calls[c]? = some call)
    {r : Except FetchError TenantConfig} {time : Int} (hr : call.pc = .returned r time) : w'.calls[c]? = some call := by
  cases a with
  | tick d | setRows rows =>
    cases hs
    exact hc
  | call tenantID =>
    cases hs
    obtain ⟨hlt, -⟩ := List.getElem?_eq_some_iff.mp hc
    rw [List.getElem?_append_left hlt]
    exact hc
  | go c' failure =>
    obtain ⟨call', hc', hadvance⟩ := Option.bind_eq_some_iff.mp hs
    obtain ⟨hopen, -, -, pc, hcalls, -⟩ := advance_cases hadvance
    have hne : c' ≠ c := by
      rintro rfl
      rw [hc] at hc'
      cases hc'
      exact hopen r time hr
    rw [hcalls, World.setPc, List.getElem?_modify, hc]
    simp [hne]

theorem returned_run (h : Lts.run (step ttl) Lts.free w ops = some w') {c : Nat}
    (hc : w.calls[c]? = some call)
    {r : Except FetchError TenantConfig} {time : Int} (hr : call.pc = .returned r time) : w'.calls[c]? = some call :=
  Lts.run_invariant h (I := fun _ v => v.calls[c]? = some call) hc fun _ hs hv => returned_step hs hv hr

/-- A step of a call that writes to the cache returns a configuration. -/
theorem cache_eq_or_returned {c : Nat} (hs : step ttl w (.go c failure) = some w') :
    w'.cache = w.cache ∨
      ∃ call config, w'.calls[c]? = some call ∧ call.pc = .returned (.ok config) w.now := by
  obtain ⟨call, hc, hadvance⟩ := Option.bind_eq_some_iff.mp hs
  obtain ⟨-, -, -, pc, hcalls, hadv⟩ := advance_cases hadvance
  generalize w'.cache = cache at hadv ⊢
  cases hadv with
  | look | wait | hit | fail => exact .inl rfl
  | @load row config hrow hconfig =>
    right
    refine ⟨{ call with pc := .returned (.ok config) w.now }, config, ?_, rfl⟩
    rw [hcalls, World.setPc, List.getElem?_modify, hc]
    simp

theorem cache_of_error {c : Nat} {err : FetchError} {time : Int}
    (h : Lts.run (step ttl) Lts.free w₀ ops = some w) (hc : w.calls[c]? = some call)
    (herr : call.pc = .returned (.error err) time) {before after : List Act} {v v' : World}
    (hops : ops = before ++ .go c failure :: after)
    (hv : Lts.run (step ttl) Lts.free w₀ before = some v) (hs : step ttl v (.go c failure) = some v') :
    v'.cache = v.cache := by
  subst hops
  obtain ⟨t, t', ht, -, hst, hafter⟩ := Lts.run_split h
  obtain rfl : v = t := Option.some.inj (hv.symm.trans ht)
  obtain rfl : v' = t' := Option.some.inj (hs.symm.trans hst)
  rcases cache_eq_or_returned hs with hcache | ⟨call', config, hc', hok⟩
  · exact hcache
  · -- the call would have returned a configuration for good
    have hstays := returned_run hafter hc' hok
    rw [hc] at hstays
    cases hstays
    rw [herr] at hok
    cases hok

/-! ### The results of calls -/

theorem inv_of_run (httl : 0 < ttl) {rows : List RegistryRow} {start : Int}
    (h : Lts.run (step ttl) Lts.free ⟨start, rows, fun _ => none, none, []⟩ ops = some w) :
    Inv ttl ⟨start, rows, fun _ => none, none, []⟩ ops w :=
  Lts.run_invariant h (I := Inv ttl ⟨start, rows, fun _ => none, none, []⟩)
    ⟨rfl, nofun, nofun⟩ fun _ hs hinv => inv_step httl hs hinv

/-- In every run, a configuration that a call returns is the decoded row of its tenant at an instant
less than the time to live before the return, entries are stored under their own tenants, and the
steps of a call that ends in an error leave the cache as it is. -/
theorem fetchConfig_bounded_staleness (httl : 0 < ttl) {rows : List RegistryRow} {start : Int}
    (h : Lts.run (step ttl) Lts.free ⟨start, rows, fun _ => none, none, []⟩ ops = some w) :
    (∀ (c : Nat) call config time, w.calls[c]? = some call → call.pc = .returned (.ok config) time →
      config.tenantID = call.tenantID ∧
        Recent ttl ⟨start, rows, fun _ => none, none, []⟩ ops call.tenantID config time) ∧
    (∀ tenantID e, w.cache tenantID = some e → e.config.tenantID = tenantID) ∧
    ∀ (c : Nat) call err time, w.calls[c]? = some call → call.pc = .returned (.error err) time →
      ∀ before failure after v v', ops = before ++ .go c failure :: after →
        Lts.run (step ttl) Lts.free ⟨start, rows, fun _ => none, none, []⟩ before = some v →
        step ttl v (.go c failure) = some v' → v'.cache = v.cache := by
  have hinv := inv_of_run httl h
  refine ⟨?_, ?_, ?_⟩
  · intro c call config time hc hr
    obtain ⟨u, hlow, hhigh, hrow⟩ := (hinv.calls c call hc).returned config time hr
    exact ⟨hrow.tenantID_eq, u, hlow, hhigh, hrow⟩
  · intro tenantID e he
    exact (hinv.cache tenantID e he).row.tenantID_eq
  · intro c call err time hc herr before failure after v v' hops hv hs
    exact cache_of_error h hc herr hops hv hs

/-- The time to live that `main` sets, five minutes. -/
def mainTTL : Int := 300000000000

def acmeRow : RegistryRow := ⟨"acme-corp", "0123abcd", "clickhouse_db_acme", "sk"⟩

/-- A first call loads the row; the row is deleted, and a second call is answered from the cache
while a third one, for a tenant that is not there, fails. -/
def deletedRow : List Act :=
  [.call "acme-corp", .go 0 none, .go 0 none, .go 0 none, .go 0 none, .go 0 none, .tick 1000000000, .setRows [],
    .call "acme-corp", .go 1 none, .go 1 none, .call "acme", .go 2 none, .go 2 none, .go 2 none, .go 2 none,
    .go 2 none]

def deletedRowStart : World := ⟨0, [acmeRow], fun _ => none, none, []⟩

theorem deletedRow_runs : (Lts.run (step mainTTL) Lts.free deletedRowStart deletedRow).isSome := by
  decide +kernel

def acmeConfig : TenantConfig := ⟨"acme-corp", [0x01, 0x23, 0xab, 0xcd], "clickhouse_db_acme", "sk"⟩

theorem deletedRow_recent : Recent mainTTL deletedRowStart deletedRow "acme-corp" acmeConfig 1000000000 :=
  ((fetchConfig_bounded_staleness (by decide) (Option.some_get deletedRow_runs).symm).1 1
    ⟨"acme-corp", .returned (.ok acmeConfig) 1000000000⟩ acmeConfig 1000000000 (by decide +kernel) rfl).2

end TenantCache
end SocFabric
