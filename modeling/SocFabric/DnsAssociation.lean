import Mathlib.Data.List.Perm.Basic
import SocFabric.NetworkAdapter

/-!
# Host names from DNS events (`core-ingest/network_adapter.go`)

`AssociateDNSWithFlow` looks for the name of a flow's destination: an event that resolved to the
address, or one of the same client shortly before. One loop looks for both and returns at the first
event of either kind, so an event of the second kind hides a resolved one behind it. The resolved
address is preferred in every order of the events exactly when there are not both kinds
(`resolved_preferred_iff`).
-/

namespace SocFabric
namespace Adapter

structure DNSEvent where
  eventID : String := ""
  timestamp : Time
  clientIP : String := ""
  clientMAC : String := ""
  clientHostname : String := ""
  queryName : String := ""
  queryType : String := ""
  responseIPs : List String := []
  resolverIP : String := ""
deriving DecidableEq, Repr

/-- `t.Sub(u)` in nanoseconds, saturated at the ends of a `Duration`. -/
def timeSub (t u : Time) : Int := max (-2 ^ 63) (min (2 ^ 63 - 1) (t.unixNano - u.unixNano))

def second : Int := 1000000000

section
variable (flow : NetworkFlow) (dns : DNSEvent)

/-- The event resolved to the destination. -/
def resolves : Bool := dns.responseIPs.any (flow.destinationIP = ·)

/-- The event is of the same client, from 30 seconds before the flow to 5 seconds after it. -/
def isNear : Bool :=
  flow.sourceIP = dns.clientIP ∧ -5 * second ≤ timeSub flow.timestamp dns.timestamp ∧
    timeSub flow.timestamp dns.timestamp ≤ 30 * second

end

/-- The loop over the events. -/
def associate (flow : NetworkFlow) : List DNSEvent → NetworkFlow
  | [] => flow
  | dns :: dnsEvents =>
    if resolves flow dns then { flow with dstHostname := dns.queryName }
    else if flow.dstHostname = "" ∧ isNear flow dns then { flow with dstHostname := dns.queryName }
    else associate flow dnsEvents

/-- The flow is a pointer, which may be nil. -/
def associateDNSWithFlow (flow : Option NetworkFlow) (dnsEvents : List DNSEvent) :
    Option NetworkFlow :=
  flow.map fun flow => if dnsEvents.isEmpty then flow else associate flow dnsEvents

/-! ### The event that is used -/

variable {flow : NetworkFlow} {dns : DNSEvent} {events events' : List DNSEvent}

theorem associateDNSWithFlow_some (flow : NetworkFlow) (events : List DNSEvent) :
    associateDNSWithFlow (some flow) events = some (associate flow events) := by
  cases events <;> rfl

def isUsed (flow : NetworkFlow) (dns : DNSEvent) : Bool := resolves flow dns || isNear flow dns

/-- The event at which the loop returns. -/
def usedEvent (flow : NetworkFlow) (events : List DNSEvent) : Option DNSEvent :=
  events.find? (isUsed flow)

theorem associate_eq (hempty : flow.dstHostname = "") :
    associate flow events =
      ((usedEvent flow events).map fun dns => { flow with dstHostname := dns.queryName }).getD flow := by
  induction events with
  | nil => rfl
  | cons dns events ih =>
    rw [associate, ih, usedEvent, usedEvent, List.find?_cons]
    cases hr : resolves flow dns <;> cases hn : isNear flow dns <;>
      simp [isUsed, hr, hn, hempty]

/-- A resolved match is used. -/
def usesResolved (flow : NetworkFlow) (events : List DNSEvent) : Bool :=
  (usedEvent flow events).any (resolves flow)

/-- Without events of the second kind, a resolved match is used where there is one. -/
theorem usesResolved_iff (h : ∀ e ∈ events, resolves flow e = false → isNear flow e = false) :
    usesResolved flow events = true ↔ ∃ e ∈ events, resolves flow e = true := by
  rw [usesResolved, Option.any_eq_true]
  constructor
  · rintro ⟨e, he, hr⟩
    exact ⟨e, List.mem_of_find?_eq_some he, hr⟩
  · rintro ⟨e, he, hr⟩
    have hsome : (usedEvent flow events).isSome :=
      List.find?_isSome.mpr ⟨e, he, by simp [isUsed, hr]⟩
    obtain ⟨e', he'⟩ := Option.isSome_iff_exists.mp hsome
    have hused := List.find?_some he'
    refine ⟨e', he', ?_⟩
    by_contra hnot
    rw [Bool.not_eq_true] at hnot
    rw [isUsed, hnot, h e' (List.mem_of_find?_eq_some he') hnot] at hused
    cases hused

theorem usesResolved_eq_false (h : ∀ e ∈ events, resolves flow e = false) :
    usesResolved flow events = false := by
  rw [Bool.eq_false_iff]
  intro huses
  obtain ⟨e, he, hr⟩ := (Option.any_eq_true _ _).mp huses
  cases hr.symm.trans (h e (List.mem_of_find?_eq_some he))

/-! ### Preference -/

/-- The name is that of a resolved match if there is one, else of a near event if it is set at all;
and moving the other events does not change whether a resolved match is used. -/
structure PrefersResolved (flow : NetworkFlow) (events : List DNSEvent) : Prop where
  resolved : (∃ e ∈ events, resolves flow e = true) →
    ∃ e ∈ events, resolves flow e = true ∧
      associateDNSWithFlow (some flow) events = some { flow with dstHostname := e.queryName }
  unresolved : (∀ e ∈ events, resolves flow e = false) →
    associateDNSWithFlow (some flow) events = some flow ∨
      ∃ e ∈ events, isNear flow e = true ∧
        associateDNSWithFlow (some flow) events = some { flow with dstHostname := e.queryName }
  stable : ∀ events', events'.Perm events →
    events'.filter (resolves flow) = events.filter (resolves flow) →
    usesResolved flow events' = usesResolved flow events

/-- With the resolved matches at the front one of them is used. -/
theorem usesResolved_of_front (h : ∃ e ∈ events, resolves flow e = true) :
    usesResolved flow (events.filter (resolves flow) ++ events.filter (!resolves flow ·)) = true := by
  obtain ⟨m, hm, hr⟩ := h
  have hmem : m ∈ events.filter (resolves flow) := List.mem_filter.mpr ⟨hm, hr⟩
  cases hfront : events.filter (resolves flow) with
  | nil =>
    rw [hfront] at hmem
    cases hmem
  | cons first front =>
    have hfirst : resolves flow first = true :=
      (List.mem_filter.mp (hfront ▸ List.mem_cons_self : first ∈ events.filter _)).2
    have hused : isUsed flow first = true := by rw [isUsed, hfirst, Bool.true_or]
    rw [List.cons_append, usesResolved, usedEvent, List.find?_cons_of_pos hused]
    exact hfirst

/-- At the back they are hidden by any near event. -/
theorem usesResolved_of_back (h : ∃ e ∈ events, resolves flow e = false ∧ isNear flow e = true) :
    usesResolved flow (events.filter (!resolves flow ·) ++ events.filter (resolves flow)) = false := by
  obtain ⟨e, he, hnot, hnear⟩ := h
  have hsome : ((events.filter (!resolves flow ·)).find? (isUsed flow)).isSome :=
    List.find?_isSome.mpr ⟨e, List.mem_filter.mpr ⟨he, by simp [hnot]⟩, by simp [isUsed, hnear]⟩
  obtain ⟨used, hused⟩ := Option.isSome_iff_exists.mp hsome
  have hother := (List.mem_filter.mp (List.mem_of_find?_eq_some hused)).2
  rw [usesResolved, usedEvent, List.find?_append, hused, Option.some_or, Option.any_some]
  simpa using hother

theorem not_stable (hresolved : ∃ e ∈ events, resolves flow e = true)
    (hnear : ∃ e ∈ events, resolves flow e = false ∧ isNear flow e = true) :
    ¬ PrefersResolved flow events := by
  intro h
  have hfront := h.stable _ (List.filter_append_perm (resolves flow) events) (by simp)
  have hback := h.stable _ (List.perm_append_comm.trans (List.filter_append_perm (resolves flow) events))
    (by simp)
  rw [usesResolved_of_front hresolved] at hfront
  rw [usesResolved_of_back hnear, ← hfront] at hback
  cases hback

theorem resolved_preferred_iff (hempty : flow.dstHostname = "") :
    PrefersResolved flow events ↔
      (∀ e ∈ events, resolves flow e = false) ∨
      ∀ e ∈ events, resolves flow e = false → isNear flow e = false := by
  constructor
  · intro h
    by_contra hboth
    push Not at hboth
    obtain ⟨⟨m, hm, hresolves⟩, e, he, hnot, hnear⟩ := hboth
    exact not_stable ⟨m, hm, by simpa using hresolves⟩ ⟨e, he, hnot, by simpa using hnear⟩ h
  · intro h
    have hstable : ∀ events', events'.Perm events →
        usesResolved flow events' = usesResolved flow events := by
      intro events' hperm
      rcases h with hnone | hnear
      · rw [usesResolved_eq_false hnone, usesResolved_eq_false fun e he => hnone e (hperm.mem_iff.mp he)]
      · rw [Bool.eq_iff_iff, usesResolved_iff hnear,
          usesResolved_iff fun e he => hnear e (hperm.mem_iff.mp he)]
        simp only [hperm.mem_iff]
    refine ⟨fun hresolved => ?_, fun hnone => ?_, fun events' hperm _ => hstable events' hperm⟩
    · have hnear : ∀ e ∈ events, resolves flow e = false → isNear flow e = false := by
        rcases h with hnone | hnear
        · obtain ⟨e, he, hr⟩ := hresolved
          cases hr.symm.trans (hnone e he)
        · exact hnear
      obtain ⟨e, he, hr⟩ := (Option.any_eq_true _ _).mp ((usesResolved_iff hnear).mpr hresolved)
      refine ⟨e, List.mem_of_find?_eq_some he, hr, ?_⟩
      rw [associateDNSWithFlow_some, associate_eq hempty, he]
      rfl
    · rw [associateDNSWithFlow_some, associate_eq hempty]
      cases hused : usedEvent flow events with
      | none => exact .inl rfl
      | some e =>
        have hmem := List.mem_of_find?_eq_some hused
        have hnear := List.find?_some hused
        rw [isUsed, hnone e hmem, Bool.false_or] at hnear
        exact .inr ⟨e, hmem, hnear, rfl⟩

def webFlow : NetworkFlow where
  timestamp := ⟨60000000000, 0⟩
  sourceIP := "192.168.1.105"
  destinationIP := "203.0.113.55"

/-- The client has just asked for another name. -/
def otherLookup : DNSEvent where
  timestamp := ⟨55000000000, 0⟩
  clientIP := "192.168.1.105"
  queryName := "ads.example.com"
  responseIPs := ["198.51.100.7"]

def resolvedLookup : DNSEvent where
  timestamp := ⟨10000000000, 0⟩
  clientIP := "192.168.1.105"
  queryName := "c2-malicious.org"
  responseIPs := ["203.0.113.55"]

theorem webFlow_prefers_resolved : PrefersResolved webFlow [resolvedLookup] :=
  (resolved_preferred_iff rfl).mpr (.inr (by decide))

/-- The name of the other lookup hides the one that resolved to the destination. -/
theorem other_lookup_hides_resolved :
    associateDNSWithFlow (some webFlow) [otherLookup, resolvedLookup] =
        some { webFlow with dstHostname := "ads.example.com" } ∧
      ¬ PrefersResolved webFlow [otherLookup, resolvedLookup] := by
  refine ⟨by decide, fun h => ?_⟩
  exact absurd (h.resolved (by decide)) (by decide)

end Adapter
end SocFabric
