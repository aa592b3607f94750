import Mathlib.Data.Finset.Max
import SocFabric.FlowForensics

/-!
# The table of known domains (`AntigravityTriageAgent.classify_domain`)

A domain belongs to an entry of the table when it is the entry or a name under it. The scan asks
instead for the first entry that the lower-cased domain contains, anywhere. The two agree unless the
domain only contains an entry, or contains one of another category that is listed before those of
the right one (`lookedUp_iff`); so the entry of `accounts.google.com`, listed after `google.com`, is
never reached (`accounts_google_com_eq_cdn`).
-/

namespace SocFabric
namespace Triage

/-! ### First matches -/

section
variable {α β : Type} {table : List (α × β)} {p : α × β → Bool} {e : α × β}

/-- Every match with another value is listed after a match with this one. -/
def ListedFirst (table : List (α × β)) (p : α × β → Bool) (value : β) : Prop :=
  ∀ before x after, table = before ++ x :: after → p x = true → x.2 ≠ value →
    ∃ y ∈ before, p y = true ∧ y.2 = value

/-- The first match has the value of some match if that value is listed first. -/
theorem find?_value_iff (hmem : e ∈ table) (hp : p e = true) :
    (table.find? p).map Prod.snd = some e.2 ↔ ListedFirst table p e.2 := by
  have hsome : (table.find? p).isSome := List.find?_isSome.mpr ⟨e, hmem, hp⟩
  obtain ⟨first, hfirst⟩ := Option.isSome_iff_exists.mp hsome
  obtain ⟨hpfirst, before, after, rfl, hbefore⟩ := List.find?_eq_some_iff_append.mp hfirst
  rw [hfirst, Option.map_some, Option.some.injEq]
  constructor
  · intro hvalue before' x after' heq hpx hx
    -- A match of another value is not the first one, nor before it.
    rcases List.append_eq_append_iff.mp heq with ⟨mid, rfl, hmid⟩ | ⟨mid, rfl, hmid⟩
    · cases mid with
      | nil =>
        obtain ⟨rfl, -⟩ := List.cons.inj hmid
        exact absurd hvalue hx
      | cons z mid =>
        obtain ⟨rfl, -⟩ := List.cons.inj hmid
        exact ⟨first, by simp, hpfirst, hvalue⟩
    · cases mid with
      | nil =>
        obtain ⟨rfl, -⟩ := List.cons.inj hmid
        exact absurd hvalue hx
      | cons z mid =>
        obtain ⟨rfl, -⟩ := List.cons.inj hmid
        have hnot := hbefore x (by simp)
        rw [hpx] at hnot
        cases hnot
  · intro hlisted
    by_contra hne
    obtain ⟨y, hy, hpy, -⟩ := hlisted before first after rfl hpfirst hne
    have hnot := hbefore y hy
    rw [hpy] at hnot
    cases hnot

end

/-! ### Domains and entries -/

/-- The domain is the entry or a name under it. -/
def belongs (domain entry : String) : Bool :=
  domain = entry || ('.' :: entry.toList).isSuffixOf domain.toList

theorem belongs_iff {domain entry : String} :
    belongs domain entry = true ↔
      domain = entry ∨ '.' :: entry.toList <:+ domain.toList := by
  simp [belongs]

theorem suffix_of_belongs {domain entry : String} (h : belongs domain entry = true) :
    entry.toList <:+ domain.toList := by
  rcases belongs_iff.mp h with rfl | h
  · exact List.suffix_rfl
  · exact (List.suffix_cons '.' entry.toList).trans h

theorem contains_of_belongs {domain entry : String} (h : belongs domain entry = true) :
    Text.contains domain entry = true :=
  Text.contains_iff.mpr (suffix_of_belongs h).isInfix

/-- The longest entry that a domain belongs to. -/
structure LongestEntry (domain : String) (e : String × DomainCategory) : Prop where
  mem : e ∈ knownDomainCategories
  belongs : belongs domain e.1 = true
  longest : ∀ e' ∈ knownDomainCategories, Triage.belongs domain e'.1 = true →
    e'.1.length ≤ e.1.length

theorem LongestEntry.unique {domain : String} {e e' : String × DomainCategory}
    (h : LongestEntry domain e) (h' : LongestEntry domain e') : e = e' := by
  have hlength : e.1.length = e'.1.length :=
    le_antisymm (h'.longest e h.mem h.belongs) (h.longest e' h'.mem h'.belongs)
  have hname : e.1 = e'.1 := by
    rw [← String.toList_inj]
    rw [← String.length_toList, ← String.length_toList] at hlength
    refine List.IsSuffix.eq_of_length ?_ hlength
    exact List.suffix_of_suffix_length_le (suffix_of_belongs h.belongs)
      (suffix_of_belongs h'.belongs) hlength.le
  have hkeys : ∀ x ∈ knownDomainCategories, ∀ y ∈ knownDomainCategories, x.1 = y.1 → x = y := by
    decide
  exact hkeys e h.mem e' h'.mem hname

theorem exists_longestEntry {domain : String} {e : String × DomainCategory}
    (hmem : e ∈ knownDomainCategories) (h : belongs domain e.1 = true) :
    ∃ e, LongestEntry domain e := by
  let matching := (knownDomainCategories.filter fun e => belongs domain e.1).toFinset
  obtain ⟨longest, hlongest, hmax⟩ := matching.exists_max_image (fun e => e.1.length)
    ⟨e, by simp [matching, hmem, h]⟩
  simp only [matching, List.mem_toFinset, List.mem_filter] at hlongest hmax
  exact ⟨longest, hlongest.1, hlongest.2, fun e' he' hb => hmax e' ⟨he', hb⟩⟩

/-! ### The scan -/

/-- What the scan of the table answers, if anything. -/
def tableAnswer (domain : String) : Option DomainCategory :=
  (knownDomainCategories.find? fun entry => Text.contains (Text.pyLower domain) entry.1).map Prod.snd

theorem tableAnswer_isSome_iff {domain : String} :
    (tableAnswer domain).isSome ↔
      ∃ e ∈ knownDomainCategories, Text.contains (Text.pyLower domain) e.1 = true := by
  rw [tableAnswer, Option.isSome_map, List.find?_isSome]

/-- An answer of the table is the answer. -/
theorem classifyDomain_of_tableAnswer {domain : String} {c : DomainCategory}
    (h : tableAnswer domain = some c) : classifyDomain domain = c := by
  have hne : domain ≠ "" := by
    rintro rfl
    have hnone : tableAnswer "" = none := by decide
    cases hnone.symm.trans h
  obtain ⟨e, he, rfl⟩ := Option.map_eq_some_iff.mp h
  rw [classifyDomain, if_neg hne, he]

/-- The answer is that of the longest entry that the domain belongs to, and comes from the table for
no other domain. -/
structure LookedUp (domain : String) : Prop where
  listed : ∀ e, LongestEntry (Text.pyLower domain) e → classifyDomain domain = e.2
  unlisted : (∀ e ∈ knownDomainCategories, belongs (Text.pyLower domain) e.1 = false) →
    tableAnswer domain = none

/-- A domain that belongs to an entry gets its answer from the table. -/
theorem classifyDomain_eq_iff {domain : String} {e : String × DomainCategory}
    (h : LongestEntry (Text.pyLower domain) e) :
    classifyDomain domain = e.2 ↔ ListedFirst knownDomainCategories
      (fun x => Text.contains (Text.pyLower domain) x.1) e.2 := by
  have hcontains := contains_of_belongs h.belongs
  have hfirst := find?_value_iff (p := fun x => Text.contains (Text.pyLower domain) x.1) h.mem hcontains
  rw [← hfirst]
  obtain ⟨c, hc⟩ := Option.isSome_iff_exists.mp (tableAnswer_isSome_iff.mpr ⟨e, h.mem, hcontains⟩)
  rw [classifyDomain_of_tableAnswer hc, ← Option.some.injEq, ← hc]
  rfl

theorem lookedUp_iff (domain : String) :
    LookedUp domain ↔
      (∀ e ∈ knownDomainCategories, Text.contains (Text.pyLower domain) e.1 = false) ∨
      ∃ e, LongestEntry (Text.pyLower domain) e ∧
        ListedFirst knownDomainCategories
          (fun x => Text.contains (Text.pyLower domain) x.1) e.2 := by
  by_cases hbelongs : ∃ e ∈ knownDomainCategories, belongs (Text.pyLower domain) e.1 = true
  · obtain ⟨e₀, hmem, hb⟩ := hbelongs
    obtain ⟨e, he⟩ := exists_longestEntry hmem hb
    constructor
    · intro h
      exact .inr ⟨e, he, (classifyDomain_eq_iff he).mp (h.listed e he)⟩
    · rintro (hnone | ⟨e', he', hfirst⟩)
      · cases (contains_of_belongs hb).symm.trans (hnone e₀ hmem)
      · constructor
        · intro e'' he''
          rw [he''.unique he']
          exact (classifyDomain_eq_iff he').mpr hfirst
        · intro hnone
          cases hb.symm.trans (hnone e₀ hmem)
  · -- The domain is under no entry, so that the table may not answer at all.
    have hno : ∀ e ∈ knownDomainCategories, belongs (Text.pyLower domain) e.1 = false :=
      fun e he => Bool.eq_false_iff.mpr fun hb => hbelongs ⟨e, he, hb⟩
    constructor
    · intro h
      refine .inl fun e he => Bool.eq_false_iff.mpr fun hcontains => ?_
      have hsome := tableAnswer_isSome_iff.mpr ⟨e, he, hcontains⟩
      rw [h.unlisted hno] at hsome
      cases hsome
    · rintro (hnone | ⟨e, he, -⟩)
      · refine ⟨fun e he => absurd ⟨e, he.mem, he.belongs⟩ hbelongs, fun _ => ?_⟩
        rw [← Option.not_isSome_iff_eq_none, tableAnswer_isSome_iff]
        rintro ⟨e, he, hcontains⟩
        cases hcontains.symm.trans (hnone e he)
      · exact absurd ⟨e, he.mem, he.belongs⟩ hbelongs

/-- The login page of Google counts as a CDN, and so does a domain that only contains its name. -/
theorem accounts_google_com_not_lookedUp :
    classifyDomain "accounts.google.com" = .cdn ∧ ¬ LookedUp "accounts.google.com" ∧
      classifyDomain "google.com.evil.example" = .cdn ∧ ¬ LookedUp "google.com.evil.example" := by
  have hlogin : LongestEntry (Text.pyLower "accounts.google.com") ("accounts.google.com", .login) :=
    ⟨by decide, by decide, by decide⟩
  refine ⟨by decide, fun h => ?_, by decide, fun h => ?_⟩
  · exact absurd (h.listed _ hlogin) (by decide)
  · exact absurd (h.unlisted (by decide)) (by decide)

/-- The entry of `accounts.google.com` decides nothing. -/
theorem accounts_google_com_eq_cdn {domain : String}
    (h : Text.contains (Text.pyLower domain) "accounts.google.com" = true) :
    classifyDomain domain = .cdn := by
  have hgoogle : Text.contains (Text.pyLower domain) "google.com" = true := by
    rw [Text.contains_iff] at h ⊢
    exact List.IsInfix.trans ⟨"accounts.".toList, [], rfl⟩ h
  refine classifyDomain_of_tableAnswer ?_
  simp only [tableAnswer, knownDomainCategories, List.find?_cons, hgoogle, Option.map_some]

end Triage
end SocFabric
