import SocFabric.CdmGraph
import SocFabric.Lib.Joined

/-!
# Node ids across tenants

A node id is the tenant id, an underscore and a text that the payload has a say in. The graphs of
two tenants stay apart exactly if neither tenant id, with an underscore, starts the other
(`tenants_disjoint_iff`).
-/

namespace SocFabric
namespace Cdm
open ProvenanceGraph

/-- No two payloads of the tenants have a node in common. -/
def TenantsDisjoint (t₁ t₂ : String) : Prop :=
  ∀ clock₁ clock₂ p₁ p₂, List.Disjoint (parseToCDM clock₁ p₁ t₁).ids (parseToCDM clock₂ p₂ t₂).ids

/-- The id `t₂` continues `t₁` after an underscore. -/
def Continues (t₁ t₂ : String) : Prop := t₁.toList ++ ['_'] <+: t₂.toList

instance (t₁ t₂ : String) : Decidable (Continues t₁ t₂) := inferInstanceAs (Decidable (_ <+: _))

variable {t₁ t₂ : String}

theorem TenantsDisjoint.symm (h : TenantsDisjoint t₁ t₂) : TenantsDisjoint t₂ t₁ :=
  fun c₁ c₂ p₁ p₂ _ hx hx' => h c₂ c₁ p₂ p₁ hx' hx

theorem continues_of_tenantScoped_eq {a b : String} (hne : t₁ ≠ t₂)
    (h : tenantScoped t₁ a = tenantScoped t₂ b) :
    Continues t₁ t₂ ∨ Continues t₂ t₁ := by
  have hlist := congrArg String.toList h
  rw [toList_tenantScoped, toList_tenantScoped] at hlist
  rcases Joined.left_eq_or_prefix hlist with heq | hcont
  · exact absurd (String.toList_inj.mp heq) hne
  · exact hcont

/-- A payload of the shorter tenant whose source address completes the id of the longer one. -/
def completing (rest : String) : RemoteLogPayload := { rawData := { sourceIP := rest } }

theorem hostID_mem_ids (clock : Clock) (p : RemoteLogPayload) (tenantID : String) :
    hostID p tenantID ∈ (parseToCDM clock p tenantID).ids :=
  (mem_ids_parseToCDM clock p tenantID _).mpr (.inl rfl)

theorem not_tenantsDisjoint_of_continues (h : Continues t₁ t₂) : ¬ TenantsDisjoint t₁ t₂ := by
  intro hdisj
  obtain ⟨rest, hrest⟩ := h
  have hmem := hostID_mem_ids ⟨0, 0⟩ (completing (String.ofList (rest ++ ['_', 'x']))) t₁
  have hmem' := hostID_mem_ids ⟨0, 0⟩ (completing "x") t₂
  have heq : hostID (completing (String.ofList (rest ++ ['_', 'x']))) t₁ = hostID (completing "x") t₂ := by
    rw [hostID_eq, hostID_eq, ← String.toList_inj, toList_tenantScoped, toList_tenantScoped, ← hrest]
    simp [hostIP, completing]
  rw [heq] at hmem
  exact hdisj _ _ _ _ hmem hmem'

/-- The graphs of two tenants never share a node exactly if neither id continues the other after an
underscore. -/
theorem tenants_disjoint_iff (t₁ t₂ : String) (hne : t₁ ≠ t₂) :
    TenantsDisjoint t₁ t₂ ↔ ¬ Continues t₁ t₂ ∧ ¬ Continues t₂ t₁ := by
  constructor
  · intro h
    refine ⟨fun hcont => not_tenantsDisjoint_of_continues hcont h, fun hcont => ?_⟩
    exact not_tenantsDisjoint_of_continues hcont h.symm
  · rintro ⟨h₁, h₂⟩ clock₁ clock₂ p₁ p₂ x hx₁ hx₂
    obtain ⟨a, rfl⟩ := exists_tenantScoped clock₁ p₁ t₁ hx₁
    obtain ⟨b, hb⟩ := exists_tenantScoped clock₂ p₂ t₂ hx₂
    rcases continues_of_tenantScoped_eq hne hb with hcont | hcont
    · exact h₁ hcont
    · exact h₂ hcont

theorem sample_tenants_disjoint : TenantsDisjoint "acme-corp" "app_prod_01" :=
  (tenants_disjoint_iff "acme-corp" "app_prod_01" (by decide)).mpr ⟨by decide, by decide⟩

/-- The domain that one tenant resolves is the host of the other. -/
theorem dns_tenant_shares_node : ¬ ∀ t₁ t₂ : String, t₁ ≠ t₂ → TenantsDisjoint t₁ t₂ := by
  intro h
  have hdns : dnsID "acme" "fileserver" ∈
      (parseToCDM ⟨0, 0⟩ { rawData := { processName := "curl", dnsDomain := "fileserver" } } "acme").ids :=
    (mem_ids_parseToCDM _ _ _ _).mpr (.inr (.inr (.inl ⟨by decide, .inr (.inr ⟨by decide, rfl⟩)⟩)))
  have hhost := hostID_mem_ids ⟨0, 0⟩ { clientID := "fileserver" } "acme_dns"
  exact h "acme" "acme_dns" (by decide) _ _ _ _ hdns hhost

end Cdm
end SocFabric
