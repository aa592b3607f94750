import Mathlib.Tactic.Linarith
import SocFabric.ScriptFeatures

/-!
# Padded scripts (`MachineLearningInference/Deobfuscator.py`)

A script is padded by putting statements among the children of a node and by putting some of these
children under a new node. A call has no statements below it, so padding leaves its children where they
are. It then keeps every suspicious call and lowers no depth, and the risk grows with both; so a
malicious script stays malicious as long as the padded tree is within the recursion limit, and no longer
(`padding_keeps_malicious_iff`). A long sum is padding enough (`long_sum_launders`).
-/

namespace SocFabric
namespace Script

/-- Statements are put into a node that is no call, or nested in a new one there: the new node may be any
function, class or compound statement, with what comes before and after the nested ones in it. -/
def Padded : Ast → Ast → Prop := RoseTree.Pads (· ≠ AstKind.call)

/-- Whether a call counts is a matter of its function. -/
theorem untouched_addedCall :
    RoseTree.Untouched (· ≠ AstKind.call) fun node => (addedCall node).isSome where
  allowed ha cs cs' := by
    rw [addedCall, addedCall, RoseTree.label, RoseTree.label, if_neg ha, if_neg ha]
  labels a cs cs' h := by
    have hfunc : func (.node a cs) = func (.node a cs') := by
      rw [func, func, RoseTree.children, RoseTree.children, ← List.head?_map, ← List.head?_map, h]
    have hcall : suspiciousCall (.node a cs) = suspiciousCall (.node a cs') := by
      rw [suspiciousCall, suspiciousCall, hfunc]
    by_cases ha : a = .call
    · rw [addedCall, addedCall, RoseTree.label, RoseTree.label, if_pos ha, if_pos ha, hcall]
    · rw [addedCall, addedCall, RoseTree.label, RoseTree.label, if_neg ha, if_neg ha]

theorem riskScore_eq (n d : Nat) :
    riskScore n d = 1 / 10 + 1 / 2 * n + if d > 10 then 3 / 10 else 0 := by
  rcases Nat.eq_zero_or_pos n with rfl | hn
  · simp only [riskScore, gt_iff_lt, lt_self_iff_false, if_false, Nat.cast_zero, mul_zero, add_zero]
    split_ifs <;> norm_num
  · simp only [riskScore, if_pos hn]
    split_ifs <;> simp

theorem riskScore_mono {m n d e : Nat} (hmn : m ≤ n) (hde : d ≤ e) : riskScore m d ≤ riskScore n e := by
  have hcalls : (m : Rat) ≤ n := Nat.cast_le.mpr hmn
  have hdepth : (if d > 10 then 3 / 10 else 0 : Rat) ≤ if e > 10 then 3 / 10 else 0 := by
    by_cases hd : d > 10
    · rw [if_pos hd, if_pos (hd.trans_le hde)]
    · rw [if_neg hd]
      split_ifs <;> norm_num
  rw [riskScore_eq, riskScore_eq]
  linarith

theorem padding_keeps_malicious_iff {limit : Nat} {parse : String → Parsed} {script script' : String}
    {tree tree' : Ast} {a : Analysis} (h : parse script = .tree tree) (h' : parse script' = .tree tree')
    (hpadded : Padded tree tree') (ha : analyzePayload limit parse script = some a)
    (hmalicious : a.classification = .malicious) :
    (∃ a', analyzePayload limit parse script' = some a' ∧ a'.classification = .malicious ∧
      a.confidence ≤ a'.confidence) ↔ tree'.height ≤ limit := by
  have hheights := RoseTree.height_le_of_pads hpadded
  constructor
  · rintro ⟨a', ha', -⟩
    by_contra hdeep
    cases (analyzePayload_of_deep h' (not_le.mp hdeep)).symm.trans ha'
  · intro hheight
    obtain ⟨b, hb, hclass, hconfidence⟩ := analyzePayload_tree h (hheights.trans hheight)
    obtain ⟨a', ha', hclass', hconfidence'⟩ := analyzePayload_tree h' hheight
    cases hb.symm.trans ha
    have hrisk := riskScore_mono (RoseTree.countP_le_of_pads untouched_addedCall hpadded) hheights
    refine ⟨a', ha', ?_, ?_⟩
    · rw [hclass, verdict] at hmalicious
      rw [hclass', verdict]
      split_ifs at hmalicious with hthreshold
      exact if_pos (hthreshold.trans hrisk)
    · rw [hconfidence, hconfidence']
      exact min_le_min_right _ hrisk

/-- `if True:` around the bare script, with a `pass` at the end. -/
def nestedScript : Ast :=
  .node (.other "Module") [.node (.other "If") [.node (.other "Constant") [],
    callStatement (nameNode "system"), callStatement (nameNode "popen"), .node (.other "Pass") []]]

def nestingParse : String → Parsed
  | "if True:\n system(\"id\")\n popen(\"id\")\n pass" => .tree nestedScript
  | script => sampleParse script

/-- Two suspicious calls are enough, however flat the tree is. -/
theorem bareScript_malicious {parse : String → Parsed} {script : String} (h : parse script = .tree bareScript) :
    ∃ a, analyzePayload handlerLimit parse script = some a ∧ a.classification = .malicious ∧
      a.confidence = 99 / 100 := by
  have hheight : bareScript.height ≤ handlerLimit := by decide
  obtain ⟨a, ha, hclass, hconfidence⟩ := analyzePayload_tree h hheight
  exact ⟨a, ha, hclass.trans (by decide +kernel), hconfidence.trans (by decide +kernel)⟩

theorem nestedScript_malicious :
    Padded bareScript nestedScript ∧
      ∃ a', analyzePayload handlerLimit nestingParse "if True:\n system(\"id\")\n popen(\"id\")\n pass" =
          some a' ∧
        a'.classification = .malicious ∧ 99 / 100 ≤ a'.confidence := by
  have hpadded : Padded bareScript nestedScript :=
    .single (.wrap (by decide) (.other "If") [] [.node (.other "Constant") []]
      [callStatement (nameNode "system"), callStatement (nameNode "popen")] [.node (.other "Pass") []] [])
  have hparse : nestingParse "system(\"id\"); popen(\"id\")" = .tree bareScript := rfl
  obtain ⟨a, ha, hmalicious, hcap⟩ := bareScript_malicious hparse
  have hnested : nestingParse "if True:\n system(\"id\")\n popen(\"id\")\n pass" = .tree nestedScript := rfl
  obtain ⟨a', ha', hclass', hle⟩ :=
    (padding_keeps_malicious_iff hparse hnested hpadded ha hmalicious).mpr (by decide)
  exact ⟨hpadded, a', ha', hclass', hcap ▸ hle⟩

/-! ### A tree above the limit -/

/-- `1 + 1 + … + 1` with `n` signs, which Python reads from the left. -/
def sumNode : Nat → Ast
  | 0 => .node (.other "Constant") []
  | n + 1 => .node (.other "BinOp") [sumNode n, .node (.other "Add") [], .node (.other "Constant") []]

def sumText : Nat → String
  | 0 => "1"
  | n + 1 => sumText n ++ " + 1"

/-- The statement `x = 1 + … + 1`. -/
def sumStatement (n : Nat) : Ast :=
  .node (.other "Assign") [.node (.name "x") [.node (.other "Store") []], sumNode n]

def summingScript (n : Nat) : Ast :=
  .node (.other "Module")
    [callStatement (nameNode "system"), callStatement (nameNode "popen"), sumStatement n]

def summingText (n : Nat) : String := "system(\"id\"); popen(\"id\")" ++ ("; x = " ++ sumText n)

def summingParse (n : Nat) (script : String) : Parsed :=
  if script = summingText n then .tree (summingScript n) else sampleParse script

theorem le_height_sumNode (n : Nat) : n ≤ (sumNode n).height := by
  induction n with
  | zero => exact Nat.zero_le _
  | succ n ih =>
    rw [sumNode, RoseTree.height, RoseTree.heightAll_cons]
    omega

theorem le_height_summingScript (n : Nat) : n ≤ (summingScript n).height := by
  have hsum := le_height_sumNode n
  simp only [summingScript, sumStatement, RoseTree.height, RoseTree.heightAll]
  omega

theorem append_ne_self {s t : String} (h : t ≠ "") : s ≠ s ++ t := by
  intro heq
  have hlist := congrArg String.toList heq
  rw [String.toList_append, List.self_eq_append_right] at hlist
  exact h (String.toList_eq_nil_iff.mp hlist)

theorem summingText_ne (n : Nat) : "system(\"id\"); popen(\"id\")" ≠ summingText n := by
  refine append_ne_self fun h => ?_
  have hlist := congrArg String.toList h
  rw [String.toList_append] at hlist
  exact absurd (String.toList_eq_nil_iff.mp (List.append_eq_nil_iff.mp hlist).1) (by decide)

theorem summingParse_bare (n : Nat) : summingParse n "system(\"id\"); popen(\"id\")" = .tree bareScript :=
  (if_neg (summingText_ne n)).trans (if_pos rfl)

theorem summingParse_summing (n : Nat) : summingParse n (summingText n) = .tree (summingScript n) :=
  if_pos rfl

theorem padded_summingScript (n : Nat) : Padded bareScript (summingScript n) :=
  .single (.insert (by decide) [callStatement (nameNode "system"), callStatement (nameNode "popen")]
    [sumStatement n] [])

/-- With a sum of a thousand and one terms behind it the malicious script is not classified at all. -/
theorem long_sum_launders :
    ¬ ∀ (parse : String → Parsed) (script script' : String) (tree tree' : Ast) (a : Analysis),
      parse script = .tree tree → parse script' = .tree tree' → Padded tree tree' →
      analyzePayload handlerLimit parse script = some a → a.classification = .malicious →
      ∃ a', analyzePayload handlerLimit parse script' = some a' ∧ a'.classification = .malicious ∧
        a.confidence ≤ a'.confidence := by
  intro h
  obtain ⟨a, ha, hmalicious, -⟩ := bareScript_malicious (summingParse_bare 1000)
  obtain ⟨a', ha', -⟩ := h _ _ _ _ _ a (summingParse_bare 1000) (summingParse_summing 1000)
    (padded_summingScript 1000) ha hmalicious
  have hdeep : handlerLimit < (summingScript 1000).height :=
    Nat.lt_of_lt_of_le (by decide) (le_height_summingScript 1000)
  cases (analyzePayload_of_deep (summingParse_summing 1000) hdeep).symm.trans ha'

end Script
end SocFabric
