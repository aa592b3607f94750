import Mathlib.Data.List.Dedup
import Mathlib.Data.Rat.Defs
import Mathlib.Algebra.Order.Ring.Rat
import SocFabric.Lib.RoseTree

/-!
# Script features (`MachineLearningInference/AbstractSyntaxTrees.py`, `Deobfuscator.py`)

`ASTParser.extract_features` measures the depth of a syntax tree and goes over its nodes. The measuring
calls itself once for each level, so that a tree above the interpreter's recursion limit, a parameter
here, raises an exception that is no `SyntaxError`. The listed calls are those whose function is a plain
name, so a call through a module is none of them, and neither is an asynchronous definition a function.
The features are those of the tree exactly if it is within the limit and holds neither
(`extractFeatures_faithful_iff`).
-/

namespace SocFabric
namespace Script

/-! ### Syntax trees -/

/-- A class of the `ast` module, with the fields that the parser reads. The children of a node are its
child nodes in the order of `iter_child_nodes`, so the function of a call is the first. -/
inductive AstKind
  | functionDef
  | asyncFunctionDef
  | importModules (names : List String)
  | importFrom (module : Option String)
  | call
  | name (id : String)
  | attributeAccess (attr : String)
  | other (cls : String)
deriving DecidableEq, Repr

abbrev Ast := RoseTree AstKind

/-- `node.func`. -/
def func (node : Ast) : Option AstKind := node.children.head?.map RoseTree.label

def suspiciousNames : List String := ["eval", "exec", "system", "popen", "subprocess", "getattr"]

/-! ### Features -/

structure AstFeatures where
  numFunctions : Nat := 0
  importedModules : List (Option String) := []
  suspiciousCalls : List String := []
  maxDepth : Nat := 0
  obfuscationEntropy : Rat := 0
  error : Option String := none

mutual

/-- The greatest depth so far, after the node and those below it. The interpreter's recursion limit lets
the calls go down to depth `limit`; `none` is the `RecursionError` below it. -/
def walkDepth (limit maxDepth currentDepth : Nat) : Ast → Option Nat
  | .node _ children =>
    if currentDepth ≤ limit then
      walkDepthAll limit (max maxDepth currentDepth) (currentDepth + 1) children
    else none

def walkDepthAll (limit maxDepth currentDepth : Nat) : List Ast → Option Nat
  | [] => some maxDepth
  | child :: children => do
    walkDepthAll limit (← walkDepth limit maxDepth currentDepth child) currentDepth children

end

def suspiciousCall (node : Ast) : Option String :=
  match func node with
  | some (.name id) => if id ∈ suspiciousNames then some id else none
  | _ => none

def visitNode (features : AstFeatures) (node : Ast) : AstFeatures :=
  match node.label with
  | .functionDef => { features with numFunctions := features.numFunctions + 1 }
  | .importModules names => { features with importedModules := features.importedModules ++ names.map some }
  | .importFrom module => { features with importedModules := features.importedModules ++ [module] }
  | .call => { features with suspiciousCalls := features.suspiciousCalls ++ (suspiciousCall node).toList }
  | _ => features

/-- How `ast.parse` ends. -/
inductive Parsed
  | tree (t : Ast)
  | syntaxError
  | raised

/-- The walk over the nodes, after the depth has been measured. -/
def nodeFeatures (scriptContent : String) (tree : Ast) (maxDepth : Nat) : AstFeatures :=
  let features := tree.walk.foldl visitNode { maxDepth }
  { features with
    obfuscationEntropy := scriptContent.toList.dedup.length / ((scriptContent.length : Rat) + 1) }

def treeFeatures (limit : Nat) (scriptContent : String) (tree : Ast) : Option AstFeatures :=
  (walkDepth limit 0 0 tree).map (nodeFeatures scriptContent tree)

/-- `none` if an exception is raised that is no `SyntaxError`. -/
def extractFeatures (limit : Nat) (parse : String → Parsed) (scriptContent : String) :
    Option AstFeatures :=
  match parse scriptContent with
  | .tree tree => treeFeatures limit scriptContent tree
  | .syntaxError => some { error := some "Syntax parsing failed. Possible heavily packed payload." }
  | .raised => none

/-! ### The verdict -/

inductive Classification
  | malicious
  | benign
deriving DecidableEq, Repr

structure Analysis where
  classification : Classification
  confidence : Rat
  reason : String
  featuresDetected : Option AstFeatures := none

def suspiciousThreshold : Rat := 3 / 4

def riskScore (suspiciousCalls maxDepth : Nat) : Rat :=
  let riskScore : Rat := 1 / 10
  let riskScore := if suspiciousCalls > 0 then riskScore + 1 / 2 * suspiciousCalls else riskScore
  if maxDepth > 10 then riskScore + 3 / 10 else riskScore

def verdict (suspiciousCalls maxDepth : Nat) : Classification :=
  if suspiciousThreshold ≤ riskScore suspiciousCalls maxDepth then .malicious else .benign

def analyzeFeatures (features : AstFeatures) : Analysis :=
  if features.error.isSome then
    { classification := .malicious
      confidence := 9 / 10
      reason := "Failed to parse AST structure. Signature matches packed payload." }
  else
    let classification := verdict features.suspiciousCalls.length features.maxDepth
    { classification := classification
      confidence := min (riskScore features.suspiciousCalls.length features.maxDepth) (99 / 100)
      featuresDetected := some features
      reason := if classification = .malicious then
          "AST Analysis detected " ++ toString features.suspiciousCalls.length ++ " critical execution methods."
        else "Standard administrative script profile." }

def analyzePayload (limit : Nat) (parse : String → Parsed) (scriptPayload : String) : Option Analysis :=
  (extractFeatures limit parse scriptPayload).map analyzeFeatures

/-! ### The features of a tree -/

/-- A function called by a listed name, bare or through its module. -/
def listedCall (node : Ast) : Option String :=
  match node.label, func node with
  | .call, some (.name id) => if id ∈ suspiciousNames then some id else none
  | .call, some (.attributeAccess attr) => if attr ∈ suspiciousNames then some attr else none
  | _, _ => none

def isFunction (node : Ast) : Bool := node.label = .functionDef || node.label = .asyncFunctionDef

/-- The features are those of the tree, and so is the verdict. -/
structure IsFaithful (limit : Nat) (parse : String → Parsed) (scriptContent : String) (tree : Ast)
    (features : AstFeatures) : Prop where
  calls : features.suspiciousCalls.Perm (tree.subtrees.filterMap listedCall)
  functions : features.numFunctions = tree.subtrees.countP isFunction
  depth : features.maxDepth = tree.height
  verdict : (analyzePayload limit parse scriptContent).map (·.classification) =
    some (verdict (tree.subtrees.filterMap listedCall).length tree.height)

/-- A call of `module.f` for a listed name `f`. -/
def isModuleCall (node : Ast) : Bool :=
  match node.label, func node with
  | .call, some (.attributeAccess attr) => attr ∈ suspiciousNames
  | _, _ => false

/-! ### Depth -/

theorem walkDepthAll_eq {limit : Nat} {cs : List Ast}
    (h : ∀ c ∈ cs, ∀ m d, walkDepth limit m d c =
      if d + c.height ≤ limit then some (max m (d + c.height)) else none) {m d : Nat} (hd : d ≤ m)
    (hlimit : d ≤ limit) :
    walkDepthAll limit m (d + 1) cs =
      if d + RoseTree.heightAll cs ≤ limit then some (max m (d + RoseTree.heightAll cs)) else none := by
  induction cs generalizing m with
  | nil => rw [walkDepthAll, RoseTree.heightAll, Nat.add_zero, if_pos hlimit, Nat.max_eq_left hd]
  | cons c cs ih =>
    obtain ⟨hc, hcs⟩ := List.forall_mem_cons.mp h
    rw [walkDepthAll, hc, RoseTree.heightAll_cons]
    by_cases hfits : d + 1 + c.height ≤ limit
    · rw [if_pos hfits, Option.bind_eq_bind, Option.bind_some, ih hcs (hd.trans (Nat.le_max_left ..))]
      refine if_congr (by omega) ?_ rfl
      congr 1
      omega
    · rw [if_neg hfits, if_neg (by omega)]
      rfl

/-- The height is measured if it is within the limit, and else the walk raises. -/
theorem walkDepth_eq (limit : Nat) (t : Ast) : ∀ m d, walkDepth limit m d t =
    if d + t.height ≤ limit then some (max m (d + t.height)) else none := by
  induction t using RoseTree.induct with
  | h a cs ih =>
    intro m d
    rw [walkDepth, RoseTree.height]
    by_cases hd : d ≤ limit
    · rw [if_pos hd, walkDepthAll_eq ih (Nat.le_max_right ..) hd]
      refine if_congr Iff.rfl ?_ rfl
      congr 1
      omega
    · rw [if_neg hd, if_neg (by omega)]

/-! ### The loop over the nodes -/

section
variable {features : AstFeatures} {node : Ast} {nodes : List Ast} {tree : Ast} {parse : String → Parsed}
  {scriptContent : String} {limit maxDepth : Nat}

/-- The call that a node adds. -/
def addedCall (node : Ast) : Option String := if node.label = .call then suspiciousCall node else none

theorem visitNode_spec (features : AstFeatures) (node : Ast) :
    (visitNode features node).suspiciousCalls = features.suspiciousCalls ++ (addedCall node).toList ∧
      (visitNode features node).numFunctions =
        features.numFunctions + (if node.label = .functionDef then 1 else 0) ∧
      (visitNode features node).maxDepth = features.maxDepth ∧
      (visitNode features node).error = features.error := by
  unfold visitNode addedCall
  cases node.label <;> simp

theorem foldl_visitNode (nodes : List Ast) (features : AstFeatures) :
    (nodes.foldl visitNode features).suspiciousCalls =
        features.suspiciousCalls ++ nodes.filterMap addedCall ∧
      (nodes.foldl visitNode features).numFunctions =
        features.numFunctions + nodes.countP (·.label = .functionDef) ∧
      (nodes.foldl visitNode features).maxDepth = features.maxDepth ∧
      (nodes.foldl visitNode features).error = features.error := by
  induction nodes generalizing features with
  | nil => simp
  | cons node nodes ih =>
    obtain ⟨hcalls, hfunctions, hdepth, herror⟩ := visitNode_spec features node
    obtain ⟨ihcalls, ihfunctions, ihdepth, iherror⟩ := ih (visitNode features node)
    rw [List.foldl_cons, ihcalls, ihfunctions, ihdepth, iherror, hcalls, hfunctions, hdepth, herror]
    refine ⟨?_, ?_, rfl, rfl⟩
    · rw [List.append_assoc, List.filterMap_cons]
      cases addedCall node <;> rfl
    · simp only [List.countP_cons, decide_eq_true_eq]
      omega

theorem suspiciousCalls_perm :
    (nodeFeatures scriptContent tree maxDepth).suspiciousCalls.Perm (tree.subtrees.filterMap addedCall) := by
  have hcalls := (foldl_visitNode tree.walk { maxDepth }).1
  rw [nodeFeatures, hcalls]
  exact tree.walk_perm.filterMap addedCall

theorem numFunctions_eq :
    (nodeFeatures scriptContent tree maxDepth).numFunctions =
      tree.subtrees.countP (·.label = .functionDef) := by
  rw [← tree.walk_perm.countP_eq]
  exact (foldl_visitNode _ _).2.1.trans (Nat.zero_add _)

theorem maxDepth_eq : (nodeFeatures scriptContent tree maxDepth).maxDepth = maxDepth :=
  (foldl_visitNode _ _).2.2.1

theorem error_eq : (nodeFeatures scriptContent tree maxDepth).error = none := (foldl_visitNode _ _).2.2.2

/-- A script that parses has features if its tree is within the limit, and else nothing is answered. -/
theorem extractFeatures_tree (h : parse scriptContent = .tree tree) :
    extractFeatures limit parse scriptContent =
      if tree.height ≤ limit then some (nodeFeatures scriptContent tree tree.height) else none := by
  rw [extractFeatures, h]
  dsimp only
  rw [treeFeatures, walkDepth_eq, Nat.zero_add, Nat.zero_max]
  split_ifs <;> rfl

theorem analyzePayload_of_deep (h : parse scriptContent = .tree tree) (hdeep : limit < tree.height) :
    analyzePayload limit parse scriptContent = none := by
  rw [analyzePayload, extractFeatures_tree h, if_neg (not_le.mpr hdeep)]
  rfl

/-- The verdict on a script that parses, within the limit. -/
theorem analyzePayload_tree (h : parse scriptContent = .tree tree) (hheight : tree.height ≤ limit) :
    ∃ a, analyzePayload limit parse scriptContent = some a ∧
      a.classification = verdict (tree.subtrees.countP fun n => (addedCall n).isSome) tree.height ∧
      a.confidence =
        min (riskScore (tree.subtrees.countP fun n => (addedCall n).isSome) tree.height) (99 / 100) := by
  have hlength : (nodeFeatures scriptContent tree tree.height).suspiciousCalls.length =
      tree.subtrees.countP fun n => (addedCall n).isSome := by
    rw [suspiciousCalls_perm.length_eq, List.length_filterMap_eq_countP]
  have herror : ¬ (nodeFeatures scriptContent tree tree.height).error.isSome = true := by
    rw [error_eq]
    exact Bool.false_ne_true
  refine ⟨analyzeFeatures (nodeFeatures scriptContent tree tree.height), ?_, ?_, ?_⟩
  · rw [analyzePayload, extractFeatures_tree h, if_pos hheight]
    rfl
  · rw [analyzeFeatures, if_neg herror, ← hlength, maxDepth_eq]
  · rw [analyzeFeatures, if_neg herror, ← hlength, maxDepth_eq]

/-! ### Bare calls and calls through a module -/

theorem listedCall_eq (node : Ast) :
    (isModuleCall node = true ∧ addedCall node = none ∧ (listedCall node).isSome = true) ∨
      (isModuleCall node = false ∧ listedCall node = addedCall node) := by
  unfold isModuleCall addedCall listedCall suspiciousCall
  cases node.label with
  | call =>
    cases func node with
    | none => exact .inr ⟨rfl, rfl⟩
    | some kind =>
      cases kind with
      | attributeAccess attr =>
        by_cases hattr : attr ∈ suspiciousNames
        · exact .inl ⟨decide_eq_true hattr, rfl, by simp [hattr]⟩
        · exact .inr ⟨decide_eq_false hattr, if_neg hattr⟩
      | _ => exact .inr ⟨rfl, rfl⟩
  | _ => exact .inr ⟨rfl, rfl⟩

/-- The calls through a module are those that the features lack. -/
theorem length_listedCall (nodes : List Ast) :
    (nodes.filterMap listedCall).length =
      (nodes.filterMap addedCall).length + nodes.countP isModuleCall := by
  rw [List.length_filterMap_eq_countP, List.length_filterMap_eq_countP]
  induction nodes with
  | nil => rfl
  | cons node nodes ih =>
    rw [List.countP_cons, List.countP_cons, List.countP_cons, ih]
    rcases listedCall_eq node with ⟨hmodule, hadded, hlisted⟩ | ⟨hmodule, hlisted⟩
    · rw [hmodule, hadded, hlisted]
      rfl
    · rw [hmodule, hlisted, Nat.add_right_comm]
      rfl

theorem countP_isFunction (nodes : List Ast) :
    nodes.countP isFunction =
      nodes.countP (·.label = .functionDef) + nodes.countP (·.label = .asyncFunctionDef) := by
  induction nodes with
  | nil => rfl
  | cons node nodes ih =>
    rw [List.countP_cons, List.countP_cons, List.countP_cons, ih, isFunction]
    cases node.label <;> simp <;> omega

end

theorem extractFeatures_faithful_iff (limit : Nat) (parse : String → Parsed) (scriptContent : String)
    (tree : Ast) (h : parse scriptContent = .tree tree) :
    (∃ features, extractFeatures limit parse scriptContent = some features ∧
        IsFaithful limit parse scriptContent tree features) ↔
      tree.height ≤ limit ∧
        ∀ node ∈ tree.subtrees, isModuleCall node = false ∧ node.label ≠ .asyncFunctionDef := by
  constructor
  · rintro ⟨features, hfeatures, hfaithful⟩
    rw [extractFeatures_tree h] at hfeatures
    split_ifs at hfeatures with hheight
    cases hfeatures
    have hcalls := (suspiciousCalls_perm.symm.trans hfaithful.calls).length_eq
    have hfunctions := numFunctions_eq.symm.trans hfaithful.functions
    rw [length_listedCall, left_eq_add, List.countP_eq_zero] at hcalls
    rw [countP_isFunction, left_eq_add, List.countP_eq_zero] at hfunctions
    exact ⟨hheight, fun node hnode =>
      ⟨Bool.eq_false_iff.mpr (hcalls node hnode), by simpa using hfunctions node hnode⟩⟩
  · rintro ⟨hheight, hnodes⟩
    have hcalls : tree.subtrees.filterMap listedCall = tree.subtrees.filterMap addedCall := by
      refine List.filterMap_congr fun node hnode => ?_
      rcases listedCall_eq node with ⟨hmodule, -⟩ | ⟨-, hlisted⟩
      · cases hmodule.symm.trans (hnodes node hnode).1
      · exact hlisted
    have hasync : tree.subtrees.countP (·.label = .asyncFunctionDef) = 0 :=
      List.countP_eq_zero.mpr fun node hnode => by simpa using (hnodes node hnode).2
    obtain ⟨a, ha, hverdict, -⟩ := analyzePayload_tree h hheight
    refine ⟨_, (extractFeatures_tree h).trans (if_pos hheight), hcalls ▸ suspiciousCalls_perm, ?_,
      maxDepth_eq, ?_⟩
    · rw [countP_isFunction, hasync, Nat.add_zero, numFunctions_eq]
    · rw [ha, hcalls, List.length_filterMap_eq_countP, Option.map_some, hverdict]

/-! ### One script, spelled in two ways -/

def load : Ast := .node (.other "Load") []

def nameNode (id : String) : Ast := .node (.name id) [load]

/-- The statement `function("id")`. -/
def callStatement (function : Ast) : Ast :=
  .node (.other "Expr") [.node .call [function, .node (.other "Constant") []]]

/-- `system("id")` and `popen("id")`. -/
def bareScript : Ast :=
  .node (.other "Module") [callStatement (nameNode "system"), callStatement (nameNode "popen")]

/-- `os.system("id")` and `os.popen("id")`. -/
def moduleScript : Ast :=
  .node (.other "Module") [callStatement (.node (.attributeAccess "system") [nameNode "os", load]),
    callStatement (.node (.attributeAccess "popen") [nameNode "os", load])]

def sampleParse (script : String) : Parsed :=
  if script = "system(\"id\"); popen(\"id\")" then .tree bareScript
  else if script = "os.system(\"id\"); os.popen(\"id\")" then .tree moduleScript
  else .syntaxError

/-- What is left of the default recursion limit of a thousand frames below a request handler. -/
def handlerLimit : Nat := 900

theorem bareScript_faithful :
    ∃ features, extractFeatures handlerLimit sampleParse "system(\"id\"); popen(\"id\")" = some features ∧
      IsFaithful handlerLimit sampleParse "system(\"id\"); popen(\"id\")" bareScript features := by
  refine (extractFeatures_faithful_iff handlerLimit sampleParse _ bareScript (if_pos rfl)).mpr
    ⟨by decide, fun node hnode => ?_⟩
  have hall : bareScript.subtrees.all
      (fun node => !isModuleCall node && decide (node.label ≠ .asyncFunctionDef)) = true := by decide
  simpa using List.all_eq_true.mp hall node hnode

/-- The calls through the module are not reported, and the same script spelled with them is benign. -/
theorem module_calls_missed :
    (¬ ∀ parse scriptContent tree, parse scriptContent = .tree tree →
      ∃ features, extractFeatures handlerLimit parse scriptContent = some features ∧
        IsFaithful handlerLimit parse scriptContent tree features) ∧
    (analyzePayload handlerLimit sampleParse "system(\"id\"); popen(\"id\")").map (·.classification) =
      some .malicious ∧
    (analyzePayload handlerLimit sampleParse "os.system(\"id\"); os.popen(\"id\")").map (·.classification) =
      some .benign := by
  refine ⟨fun h => ?_, by decide +kernel, by decide +kernel⟩
  have hparse : sampleParse "os.system(\"id\"); os.popen(\"id\")" = .tree moduleScript :=
    (if_neg (by decide)).trans (if_pos rfl)
  obtain ⟨features, hfeatures, hfaithful⟩ := h _ _ _ hparse
  rw [extractFeatures_tree hparse, if_pos (by decide)] at hfeatures
  cases hfeatures
  have hlength := (suspiciousCalls_perm.symm.trans hfaithful.calls).length_eq
  revert hlength
  decide

end Script
end SocFabric
