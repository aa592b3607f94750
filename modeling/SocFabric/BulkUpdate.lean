import Mathlib.Data.List.Forall2
import Mathlib.Data.List.Nodup
import Mathlib.Tactic.SplitIfs

/-!
# Bulk actions on hosts (`pages/endpoints/HostManagementPage.tsx`)

`handleBulkAction` takes the selected hosts one after the other and writes the list of hosts once for
each of them. Every write starts from the list of the render in which the handler was made, so that
it takes back the writes before it: after any number of rounds the list has the update of the last
round alone (`rounds_data`), and the whole selection is updated only where all the other selected
hosts were up to date before (`handleBulkAction_update_iff`). The host of the last round is the one
that was ticked last, or that of the last row after a tick of all rows.
-/

namespace SocFabric
namespace HostManagement

/-! ### The page -/

inductive AgentHealth
  | healthy
  | stale
  | outdated
  | offline
deriving DecidableEq, Repr

structure EnhancedHost where
  id : String
  hostname : String
  os : String
  agentVersion : String
  latestVersion : String
  health : AgentHealth
  lastCheckIn : String
deriving DecidableEq, Repr

/-- A `Set<string>`, in the order of insertion. -/
structure IdSet where
  ids : List String
  nodup : ids.Nodup
deriving DecidableEq

namespace IdSet

def empty : IdSet := ⟨[], .nil⟩

def add (s : IdSet) (id : String) : IdSet :=
  if h : id ∈ s.ids then s else ⟨s.ids.concat id, s.nodup.concat h⟩

def delete (s : IdSet) (id : String) : IdSet := ⟨s.ids.erase id, s.nodup.erase id⟩

def ofList (ids : List String) : IdSet := ids.foldl add empty

/-- The id that a `for` loop over the set comes to last. -/
def last (s : IdSet) : Option String := s.ids.getLast?

theorem ids_add {s : IdSet} {id : String} (h : id ∉ s.ids) : (s.add id).ids = s.ids ++ [id] := by
  rw [add, dif_neg h]
  exact List.concat_eq_append

theorem last_add {s : IdSet} {id : String} (h : id ∉ s.ids) : (s.add id).last = some id := by
  rw [last, ids_add h, List.getLast?_concat]

theorem ids_foldl_add {s : IdSet} {ids : List String} (h : (s.ids ++ ids).Nodup) :
    (ids.foldl add s).ids = s.ids ++ ids := by
  induction ids generalizing s with
  | nil => exact (List.append_nil _).symm
  | cons id ids ih =>
    have hid : id ∉ s.ids := fun hmem => List.disjoint_of_nodup_append h hmem List.mem_cons_self
    rw [List.append_cons, ← ids_add hid] at h
    rw [List.foldl_cons, ih h, ids_add hid, ← List.append_cons]

theorem ids_ofList {ids : List String} (h : ids.Nodup) : (ofList ids).ids = ids := ids_foldl_add h

end IdSet

inductive BulkAction
  | restart
  | update
deriving DecidableEq, Repr

def BulkAction.text : BulkAction → String
  | restart => "restart"
  | update => "update"

structure BulkProgress where
  total : Nat
  completed : Nat
  failed : Nat
deriving DecidableEq, Repr

structure Toast where
  title : String
  desc : String
  type : String
deriving DecidableEq, Repr

structure Page where
  data : Option (List EnhancedHost)
  selectedIds : IdSet
  bulkAction : Option BulkAction := none
  bulkProgress : Option BulkProgress := none
  toastMessage : Option Toast := none
deriving DecidableEq

def toggleSelect (id : String) (p : Page) : Page :=
  { p with selectedIds := if id ∈ p.selectedIds.ids then p.selectedIds.delete id else p.selectedIds.add id }

/-- `filteredData` are the rows that the search and the filter leave. -/
def toggleSelectAll (filteredData : List EnhancedHost) (p : Page) : Page :=
  { p with
    selectedIds :=
      if p.selectedIds.ids.length = filteredData.length then .empty else .ofList (filteredData.map (·.id)) }

/-! ### The handler -/

/-- The page and the counters of the handler. -/
structure Loop where
  page : Page
  completed : Nat
  failed : Nat
deriving DecidableEq

def updateAgent (id : String) (h : EnhancedHost) : EnhancedHost :=
  if h.id = id then { h with agentVersion := h.latestVersion } else h

/-- One round of the loop. `data` and `total` belong to the render in which the handler was made, and
`missed` is `Math.random() > 0.9`. -/
def round (action : BulkAction) (data : Option (List EnhancedHost)) (total : Nat) (missed : Bool)
    (id : String) (s : Loop) : Loop :=
  let completed := if missed then s.completed else s.completed + 1
  let failed := if missed then s.failed + 1 else s.failed
  let page :=
    match action, data with
    | .update, some data => { s.page with data := some (data.map (updateAgent id)) }
    | _, _ => s.page
  ⟨{ page with bulkProgress := some ⟨total, completed, failed⟩ }, completed, failed⟩

/-- The rounds for `ids`, of which the first is number `i`. -/
def rounds (action : BulkAction) (data : Option (List EnhancedHost)) (total : Nat) (missed : Nat → Bool) :
    Nat → List String → Loop → Loop
  | _, [], s => s
  | i, id :: ids, s =>
    rounds action data total missed (i + 1) ids (round action data total (missed i) id s)

/-- The loop, from the call to the end of the last round. -/
def processSelection (missed : Nat → Bool) (action : BulkAction) (p : Page) : Loop :=
  let total := p.selectedIds.ids.length
  rounds action p.data total missed 0 p.selectedIds.ids
    ⟨{ p with bulkAction := some action, bulkProgress := some ⟨total, 0, 0⟩ }, 0, 0⟩

/-- The page when the timer after the loop has run out. -/
def handleBulkAction (missed : Nat → Bool) (action : BulkAction) (p : Page) : Page :=
  let s := processSelection missed action p
  { s.page with
    toastMessage := some ⟨"Bulk Action Complete",
      "Successfully executed " ++ action.text ++ " across " ++ s.completed.repr ++ " hosts.", "success"⟩
    bulkAction := none
    bulkProgress := none
    selectedIds := .empty }

/-! ### Runs of the loop -/

section
variable {action : BulkAction} {data : Option (List EnhancedHost)} {total : Nat} {missed : Nat → Bool}
  {hosts : List EnhancedHost} {ids : List String} {i : Nat} {s : Loop}

theorem round_data_update (m : Bool) (id : String) :
    (round .update (some hosts) total m id s).page.data = some (hosts.map (updateAgent id)) := rfl

/-- The list after some rounds is that of the last of them alone. -/
theorem rounds_data (id : String) :
    (rounds .update (some hosts) total missed i (ids ++ [id]) s).page.data =
      some (hosts.map (updateAgent id)) := by
  induction ids generalizing i s with
  | nil => exact round_data_update (missed i) id
  | cons id' ids ih => rw [List.cons_append, rounds, ih]

end

/-! ### One list against the other -/

/-- Of two lists of hosts, before and after: every selected host is on its latest version, and each
other host is as it was. -/
def Updated (selected : List String) : List EnhancedHost → List EnhancedHost → Prop :=
  List.Forall₂ fun h h' =>
    (h.id ∈ selected → h'.id = h.id ∧ h'.agentVersion = h'.latestVersion) ∧ (h.id ∉ selected → h' = h)

section
variable {selected : List String} {hosts : List EnhancedHost}

theorem updated_map_iff {f : EnhancedHost → EnhancedHost} :
    Updated selected hosts (hosts.map f) ↔
      ∀ h ∈ hosts, (h.id ∈ selected → (f h).id = h.id ∧ (f h).agentVersion = (f h).latestVersion) ∧
        (h.id ∉ selected → f h = h) := by
  rw [Updated, List.forall₂_map_right_iff, List.forall₂_same]

theorem updated_self_iff :
    Updated selected hosts hosts ↔ ∀ h ∈ hosts, h.id ∈ selected → h.agentVersion = h.latestVersion := by
  rw [Updated, List.forall₂_same]
  constructor
  · intro hu h hh hsel
    exact ((hu h hh).1 hsel).2
  · intro hc h hh
    exact ⟨fun hsel => ⟨rfl, hc h hh hsel⟩, fun _ => rfl⟩

theorem updateAgent_id (id : String) (h : EnhancedHost) : (updateAgent id h).id = h.id := by
  unfold updateAgent
  split_ifs
  · rfl
  · rfl

theorem updateAgent_of_eq {id : String} {h : EnhancedHost} (hid : h.id = id) :
    (updateAgent id h).agentVersion = (updateAgent id h).latestVersion := by
  rw [updateAgent, if_pos hid]

theorem updateAgent_of_ne {id : String} {h : EnhancedHost} (hid : h.id ≠ id) : updateAgent id h = h :=
  if_neg hid

/-- The update of one selected host is the update of the selection if the others need none. -/
theorem updated_updateAgent_iff {id : String} (hid : id ∈ selected) :
    Updated selected hosts (hosts.map (updateAgent id)) ↔
      ∀ h ∈ hosts, h.id ∈ selected → h.id ≠ id → h.agentVersion = h.latestVersion := by
  rw [updated_map_iff]
  constructor
  · intro hu h hh hsel hne
    have hlatest := ((hu h hh).1 hsel).2
    rwa [updateAgent_of_ne hne] at hlatest
  · intro hc h hh
    refine ⟨fun hsel => ⟨updateAgent_id id h, ?_⟩, fun hsel => updateAgent_of_ne fun heq => hsel (heq ▸ hid)⟩
    by_cases heq : h.id = id
    · exact updateAgent_of_eq heq
    · rw [updateAgent_of_ne heq]
      exact hc h hh hsel heq

end

/-! ### The whole selection -/

/-- The list of `p`, if it has been loaded, is in `p'` the list with the selection of `p` updated. -/
def SelectionUpdated (p p' : Page) : Prop :=
  ∀ hosts, p.data = some hosts → ∃ hosts', p'.data = some hosts' ∧ Updated p.selectedIds.ids hosts hosts'

/-- Of the selected hosts in the list only those with the last id may be behind their latest version. -/
def OthersUpToDate (p : Page) : Prop :=
  ∀ hosts, p.data = some hosts → ∀ h ∈ hosts, h.id ∈ p.selectedIds.ids → p.selectedIds.last ≠ some h.id →
    h.agentVersion = h.latestVersion

theorem handleBulkAction_data (missed : Nat → Bool) {p : Page} {hosts : List EnhancedHost} {id : String}
    (hdata : p.data = some hosts) (hlast : p.selectedIds.last = some id) :
    (handleBulkAction missed .update p).data = some (hosts.map (updateAgent id)) := by
  obtain ⟨ids, hids⟩ := List.getLast?_eq_some_iff.mp hlast
  show (processSelection missed .update p).page.data = _
  rw [processSelection, hids, hdata]
  exact rounds_data id

theorem handleBulkAction_data_of_empty (missed : Nat → Bool) (action : BulkAction) {p : Page}
    (hlast : p.selectedIds.last = none) : (handleBulkAction missed action p).data = p.data := by
  show (processSelection missed action p).page.data = _
  rw [processSelection, List.getLast?_eq_none_iff.mp hlast]
  rfl

/-- Of a selection made by hand, the host that was ticked last is the one that is updated. -/
theorem handleBulkAction_toggleSelect (missed : Nat → Bool) {p : Page} {hosts : List EnhancedHost}
    {id : String} (hdata : p.data = some hosts) (hid : id ∉ p.selectedIds.ids) :
    (handleBulkAction missed .update (toggleSelect id p)).data = some (hosts.map (updateAgent id)) := by
  have hlast : (toggleSelect id p).selectedIds.last = some id := by
    rw [toggleSelect, if_neg hid]
    exact IdSet.last_add hid
  exact handleBulkAction_data missed hdata hlast

/-- With all rows ticked at once it is the host of the last row. -/
theorem handleBulkAction_toggleSelectAll (missed : Nat → Bool) {p : Page} {hosts rows : List EnhancedHost}
    {h : EnhancedHost} (hdata : p.data = some hosts) (hrows : ((rows ++ [h]).map (·.id)).Nodup)
    (hsome : p.selectedIds.ids.length ≠ (rows ++ [h]).length) :
    (handleBulkAction missed .update (toggleSelectAll (rows ++ [h]) p)).data =
      some (hosts.map (updateAgent h.id)) := by
  have hlast : (toggleSelectAll (rows ++ [h]) p).selectedIds.last = some h.id := by
    rw [toggleSelectAll, if_neg hsome]
    show (IdSet.ofList ((rows ++ [h]).map (·.id))).ids.getLast? = some h.id
    rw [IdSet.ids_ofList hrows, List.map_append]
    exact List.getLast?_concat
  exact handleBulkAction_data missed hdata hlast

theorem handleBulkAction_update_iff (missed : Nat → Bool) (p : Page) :
    SelectionUpdated p (handleBulkAction missed .update p) ↔ OthersUpToDate p := by
  refine forall_congr' fun hosts => forall_congr' fun hdata => ?_
  cases hlast : p.selectedIds.last with
  | none =>
    have hnil : p.selectedIds.ids = [] := List.getLast?_eq_none_iff.mp hlast
    rw [handleBulkAction_data_of_empty missed .update hlast, hdata, hnil]
    exact ⟨fun _ _ _ hsel => absurd hsel List.not_mem_nil,
      fun _ => ⟨hosts, rfl, updated_self_iff.mpr fun _ _ hsel => absurd hsel List.not_mem_nil⟩⟩
  | some id =>
    have hmem : id ∈ p.selectedIds.ids := List.mem_of_getLast? hlast
    rw [handleBulkAction_data missed hdata hlast]
    constructor
    · rintro ⟨hosts', heq, hu⟩ h hh hsel hne
      cases heq
      exact (updated_updateAgent_iff hmem).mp hu h hh hsel fun hid => hne (congrArg some hid.symm)
    · intro hc
      refine ⟨_, rfl, (updated_updateAgent_iff hmem).mpr fun h hh hsel hne => hc h hh hsel ?_⟩
      exact fun hid => hne (Option.some.inj hid).symm

def outdatedHost (id hostname : String) : EnhancedHost where
  id := id
  hostname := hostname
  os := "Ubuntu 22.04"
  agentVersion := "0.9.0"
  latestVersion := "1.0.0"
  health := .healthy
  lastCheckIn := "2026-01-01T00:00:00"

/-- Two outdated hosts, both selected, and every attempt completed. -/
theorem first_update_lost :
    ¬ SelectionUpdated
      { data := some [outdatedHost "h1" "web-01", outdatedHost "h2" "web-02"]
        selectedIds := .ofList ["h1", "h2"] }
      (handleBulkAction (fun _ => false) .update
        { data := some [outdatedHost "h1" "web-01", outdatedHost "h2" "web-02"]
          selectedIds := .ofList ["h1", "h2"] }) := by
  intro h
  obtain ⟨hosts', hdata, hu⟩ := h _ rfl
  have hlist : hosts' =
      [outdatedHost "h1" "web-01", { outdatedHost "h2" "web-02" with agentVersion := "1.0.0" }] :=
    (Option.some.inj hdata).symm.trans (by decide)
  rw [hlist] at hu
  have hfirst := (List.forall₂_cons.mp hu).1.1 (by decide)
  exact absurd hfirst.2 (by decide)

end HostManagement
end SocFabric
