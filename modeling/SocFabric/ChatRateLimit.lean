import Mathlib.Logic.Function.Basic
import SocFabric.Lib.Float64
import SocFabric.Lib.Mealy

/-!
# The chat's rate limit (`interfaces/api_routes.py`)

`agent_chat_websocket` keeps, for each connection, the times of accepted messages that were recent
at the last acceptance, and turns a message down while ten of them are less than sixty seconds old.
A run is the list of messages that all connections receive, in the order in which the event loop
serves them.
-/

namespace SocFabric
namespace Chat

inductive ChatFrame
  | error (message : String)
  | typing (message : String)
  | chunk (content : String)
  | done
deriving DecidableEq, Repr

/-- A text with the clock reading after it was received, on the connection `client`. -/
structure ChatMessage where
  client : String
  data : String
  time : Double

/-- `_chat_rate_limits`: an entry starts empty when its connection is accepted. -/
abbrev RateLimits := String → List Double

def noLimits : RateLimits := fun _ => []

def rateLimited : List ChatFrame := [.error "Rate limit exceeded (10 queries/min). Please wait."]

def response (data : String) : String :=
  "(Read-Only Assistant via OpenAI) I analyzed your query: '" ++ data ++
    "'. I cannot perform disruptive actions like isolate_host, but I can summarize investigations."

def answer (data : String) : List ChatFrame :=
  .typing "Agent is thinking..." :: ((response data).splitOn " ").map (fun chunk => .chunk (chunk ++ " ")) ++ [.done]

/-- One message: the frames that are sent back, and what is remembered. -/
def chatStep (limits : RateLimits) (m : ChatMessage) : RateLimits × List ChatFrame :=
  let recent := (limits m.client).filter fun t => m.time.subLt t 60
  if recent.length ≥ 10 then (limits, rateLimited)
  else (Function.update limits m.client (recent ++ [m.time]), answer m.data)

def limitsAfter (msgs : List ChatMessage) : RateLimits := msgs.foldl (fun s m => (chatStep s m).1) noLimits

def accepts (frames : List ChatFrame) : Bool := frames ≠ rateLimited

/-- The times of the messages of a connection that are accepted. -/
def acceptedTimes (client : String) (msgs : List ChatMessage) : List Double :=
  ((Mealy.outputs chatStep noLimits msgs).filter fun o => o.1.client = client && accepts o.2).map (·.1.time)

/-- The clock of a connection does not run backwards. -/
def Clocked (client : String) (msgs : List ChatMessage) : Prop :=
  (msgs.filter (·.client = client)).Pairwise fun m m' => m.time.val ≤ m'.time.val

/-! ### One message -/

section
variable {s : RateLimits} {m : ChatMessage} {c : String}

theorem accepts_answer (data : String) : accepts (answer data) = true := by
  simp [accepts, answer, rateLimited]

theorem chatStep_of_full (h : 10 ≤ ((s m.client).filter fun t => m.time.subLt t 60).length) :
    chatStep s m = (s, rateLimited) := by
  simp only [chatStep, if_pos h]

theorem chatStep_of_free (h : ((s m.client).filter fun t => m.time.subLt t 60).length < 10) :
    (chatStep s m).1 = Function.update s m.client (((s m.client).filter fun t => m.time.subLt t 60) ++ [m.time]) ∧
      (chatStep s m).2 = answer m.data := by
  simp only [chatStep, if_neg (Nat.not_le.mpr h), and_self]

/-- A message is accepted exactly if fewer than ten remembered ones are recent. -/
theorem accepts_chatStep_iff :
    accepts (chatStep s m).2 = true ↔ ((s m.client).filter fun t => m.time.subLt t 60).length < 10 := by
  rcases Nat.lt_or_ge ((s m.client).filter fun t => m.time.subLt t 60).length 10 with h | h
  · rw [(chatStep_of_free h).2]
    exact iff_of_true (accepts_answer m.data) h
  · rw [chatStep_of_full h]
    exact iff_of_false (show accepts rateLimited ≠ true by decide) (Nat.not_lt.mpr h)

/-- A rejected message leaves no trace. -/
theorem chatStep_of_rejected (h : accepts (chatStep s m).2 = false) : (chatStep s m).1 = s := by
  rcases Nat.lt_or_ge ((s m.client).filter fun t => m.time.subLt t 60).length 10 with hlt | hge
  · rw [accepts_chatStep_iff.mpr hlt] at h
    cases h
  · rw [chatStep_of_full hge]

theorem chatStep_of_ne (h : m.client ≠ c) : (chatStep s m).1 c = s c := by
  cases ha : accepts (chatStep s m).2 with
  | false => rw [chatStep_of_rejected ha]
  | true => rw [(chatStep_of_free (accepts_chatStep_iff.mp ha)).1, Function.update_of_ne (Ne.symm h)]

end

/-! ### A run -/

section
variable {past : List ChatMessage} {m : ChatMessage} {c : String} {now : Double}

theorem limitsAfter_concat (past : List ChatMessage) (m : ChatMessage) :
    limitsAfter (past ++ [m]) = (chatStep (limitsAfter past) m).1 := by
  rw [limitsAfter, List.foldl_concat]
  rfl

theorem acceptedTimes_concat (c : String) (past : List ChatMessage) (m : ChatMessage) :
    acceptedTimes c (past ++ [m]) =
      acceptedTimes c past ++
        if m.client = c ∧ accepts (chatStep (limitsAfter past) m).2 = true then [m.time] else [] := by
  rw [acceptedTimes, Mealy.outputs_concat, List.filter_append, List.map_append, ← acceptedTimes,
    ← limitsAfter]
  by_cases h : m.client = c ∧ accepts (chatStep (limitsAfter past) m).2 = true
  · rw [if_pos h, List.filter_cons_of_pos (by simpa using h)]
    rfl
  · rw [if_neg h, List.filter_cons_of_neg (by simpa using h)]
    rfl

/-- The reading is no earlier than any of the connection's messages. -/
def After (c : String) (past : List ChatMessage) (now : Double) : Prop :=
  ∀ m ∈ past, m.client = c → m.time.val ≤ now.val

theorem Clocked.concat (h : Clocked c (past ++ [m])) :
    Clocked c past ∧ (m.client = c → After c past m.time) := by
  rw [Clocked, List.filter_append, List.pairwise_append] at h
  refine ⟨h.1, fun hm m' hm' hc => ?_⟩
  exact h.2.2 m' (List.mem_filter.mpr ⟨hm', decide_eq_true hc⟩) m
    (List.mem_filter.mpr ⟨List.mem_singleton_self m, decide_eq_true hm⟩)

theorem le_of_mem_acceptedTimes {t : Double} (ht : t ∈ acceptedTimes c past) (h : After c past now) :
    t.val ≤ now.val := by
  induction past using List.reverseRecOn with
  | nil => cases ht
  | append_singleton past m ih =>
    rw [acceptedTimes_concat, List.mem_append] at ht
    rcases ht with ht | ht
    · exact ih ht fun m' hm' => h m' (List.mem_append_left _ hm')
    · split_ifs at ht with hm
      · rw [List.mem_singleton.mp ht]
        exact h m (List.mem_append_right _ (List.mem_singleton_self m)) hm.1
      · cases ht

/-- What is recent later was recent before. -/
theorem filter_filter_recent {l : List Double} {mid : Double} (hl : ∀ t ∈ l, t.val ≤ mid.val)
    (hle : mid.val ≤ now.val) :
    (l.filter fun t => mid.subLt t 60).filter (fun t => now.subLt t 60) = l.filter fun t => now.subLt t 60 := by
  rw [List.filter_filter]
  apply List.filter_congr
  intro t ht
  cases hnow : now.subLt t 60 with
  | false => rw [Bool.false_and]
  | true =>
    rw [Bool.true_and]
    exact Double.subLt_of_le (hl t ht) (by linarith) hnow

/-- The memory of a connection holds what is recent of its accepted messages, and never more than
ten of them. -/
theorem recent_limitsAfter (h : Clocked c past) (hnow : After c past now) :
    (limitsAfter past c).filter (fun t => now.subLt t 60) =
        (acceptedTimes c past).filter (fun t => now.subLt t 60) ∧
      ((acceptedTimes c past).filter fun t => now.subLt t 60).length ≤ 10 := by
  induction past using List.reverseRecOn generalizing now with
  | nil => exact ⟨rfl, Nat.zero_le 10⟩
  | append_singleton past m ih =>
    obtain ⟨hpast, hm⟩ := h.concat
    have hnow' : After c past now := fun m' hm' => hnow m' (List.mem_append_left _ hm')
    rw [limitsAfter_concat, acceptedTimes_concat]
    by_cases hacc : m.client = c ∧ accepts (chatStep (limitsAfter past) m).2 = true
    · obtain ⟨rfl, hacc⟩ := hacc
      have hfree := accepts_chatStep_iff.mp hacc
      have hle : m.time.val ≤ now.val := hnow m (List.mem_append_right _ (List.mem_singleton_self m)) rfl
      have hbefore : ∀ t ∈ acceptedTimes m.client past, t.val ≤ m.time.val := fun t ht =>
        le_of_mem_acceptedTimes ht (hm rfl)
      have hcollapse := filter_filter_recent hbefore hle
      obtain ⟨hkept, -⟩ := ih hpast (hm rfl)
      rw [if_pos ⟨rfl, hacc⟩, (chatStep_of_free hfree).1, Function.update_self, List.filter_append,
        List.filter_append, hkept, hcollapse]
      refine ⟨rfl, ?_⟩
      -- What is recent now was recent when the message was accepted, and was less than ten then.
      have hshrink : ((acceptedTimes m.client past).filter fun t => now.subLt t 60).length ≤
          ((acceptedTimes m.client past).filter fun t => m.time.subLt t 60).length := by
        rw [← hcollapse]
        exact List.length_filter_le _ _
      have hone : ([m.time].filter fun t => now.subLt t 60).length ≤ 1 := List.length_filter_le _ _
      rw [hkept] at hfree
      rw [List.length_append]
      omega
    · have hsame : (chatStep (limitsAfter past) m).1 c = limitsAfter past c := by
        by_cases hc : m.client = c
        · rw [chatStep_of_rejected (by simpa [hc] using hacc)]
        · exact chatStep_of_ne hc
      rw [if_neg hacc, List.append_nil, hsame]
      exact ih hpast hnow'

theorem acceptedTimes_sorted (h : Clocked c past) :
    (acceptedTimes c past).Pairwise fun t t' => t.val ≤ t'.val := by
  induction past using List.reverseRecOn with
  | nil => exact .nil
  | append_singleton past m ih =>
    obtain ⟨hpast, hm⟩ := h.concat
    rw [acceptedTimes_concat, List.pairwise_append]
    refine ⟨ih hpast, ?_, fun t ht t' ht' => ?_⟩
    · split_ifs
      · exact List.pairwise_singleton _ _
      · exact .nil
    · split_ifs at ht' with hacc
      · rw [List.mem_singleton.mp ht']
        exact le_of_mem_acceptedTimes ht (hm hacc.1)
      · cases ht'

/-- In a sorted list, what holds of an entry and of all that are no earlier holds of the rest of the
list. -/
theorem length_sub_le_countP {l : List Double} {p : Double → Bool} {i : Nat} {a : Double}
    (hl : l.Pairwise fun t t' => t.val ≤ t'.val) (ha : l[i]? = some a)
    (hp : ∀ t ∈ l, a.val ≤ t.val → p t = true) : l.length - i ≤ l.countP p := by
  obtain ⟨hi, rfl⟩ := List.getElem?_eq_some_iff.mp ha
  have hdrop : (l.drop i).countP p = (l.drop i).length := by
    rw [List.countP_eq_length]
    intro t ht
    refine hp t (List.mem_of_mem_drop ht) ?_
    rw [List.drop_eq_getElem_cons hi] at ht
    rcases List.mem_cons.mp ht with rfl | ht
    · exact le_rfl
    · have hpair := hl.sublist (List.drop_sublist i l)
      rw [List.drop_eq_getElem_cons hi] at hpair
      exact (List.pairwise_cons.mp hpair).1 t ht
  rw [← List.length_drop, ← hdrop]
  exact (List.drop_sublist i l).countP_le

/-- Of eleven messages accepted in a row the last is not recent beside the first. -/
theorem acceptedTimes_spaced (h : Clocked c past) {i : Nat} {a b : Double}
    (ha : (acceptedTimes c past)[i]? = some a) (hb : (acceptedTimes c past)[i + 10]? = some b) :
    b.subLt a 60 = false := by
  induction past using List.reverseRecOn generalizing i a b with
  | nil => cases ha
  | append_singleton past m ih =>
    obtain ⟨hpast, hm⟩ := h.concat
    rw [acceptedTimes_concat] at ha hb
    by_cases hacc : m.client = c ∧ accepts (chatStep (limitsAfter past) m).2 = true
    · rw [if_pos hacc] at ha hb
      obtain ⟨rfl, hacc⟩ := hacc
      have hlen := (List.getElem?_eq_some_iff.mp hb).1
      rw [List.length_append, List.length_singleton] at hlen
      rw [List.getElem?_append_left (by omega)] at ha
      rcases Nat.lt_or_ge (i + 10) (acceptedTimes m.client past).length with hlt | hge
      · rw [List.getElem?_append_left hlt] at hb
        exact ih hpast ha hb
      · -- The new message is the eleventh; were it recent beside the first, the ten before it would be too.
        have heq : i + 10 = (acceptedTimes m.client past).length := by omega
        rw [heq, List.getElem?_concat_length] at hb
        cases hb
        rw [Bool.eq_false_iff]
        intro hrecent
        have hfree := accepts_chatStep_iff.mp hacc
        rw [(recent_limitsAfter hpast (hm rfl)).1, ← List.countP_eq_length_filter] at hfree
        have hten := length_sub_le_countP (p := fun t => m.time.subLt t 60) (acceptedTimes_sorted hpast) ha
          fun t ht hat => Double.subLt_of_le (le_of_mem_acceptedTimes ht (hm rfl)) (by linarith) hrecent
        omega
    · rw [if_neg hacc, List.append_nil] at ha hb
      exact ih hpast ha hb

/-- A message is turned down exactly while ten accepted ones of its connection are recent. -/
theorem rejected_iff (h : Clocked m.client (past ++ [m])) :
    accepts (chatStep (limitsAfter past) m).2 = false ↔
      (acceptedTimes m.client past).countP (fun t => m.time.subLt t 60) = 10 := by
  obtain ⟨hpast, hm⟩ := h.concat
  obtain ⟨hkept, hle⟩ := recent_limitsAfter hpast (hm rfl)
  rw [← Bool.not_eq_true, accepts_chatStep_iff, hkept, List.countP_eq_length_filter]
  omega

/-- The count by the clock's real values, for a clock that is at least a minute past its epoch. -/
theorem countP_recent_eq (h : After c past now) (h60 : ∀ t ∈ acceptedTimes c past, 60 ≤ t.val) :
    (acceptedTimes c past).countP (fun t => now.subLt t 60) =
      (acceptedTimes c past).countP fun t => now.val - t.val < 60 := by
  refine List.countP_congr fun t ht => ?_
  rw [Double.subLt_iff (h60 t ht) (le_of_mem_acceptedTimes ht h), decide_eq_true_eq]

end

theorem Clocked.of_append {c : String} {past rest : List ChatMessage} {m : ChatMessage}
    (h : Clocked c (past ++ m :: rest)) : Clocked c (past ++ [m]) := by
  rw [← List.singleton_append, ← List.append_assoc, Clocked, List.filter_append] at h
  exact (List.pairwise_append.mp h).1

/-- A connection's eleven accepted messages in a row span a minute; a message is turned down only
while ten were accepted in the minute before it; and one that is turned down changes no later
answer. A minute is what the doubles of the clock say it is, and a real minute for a clock that is
at least that far past its epoch. -/
theorem chat_rate_limit (c : String) (msgs : List ChatMessage) (h : Clocked c msgs) :
    (∀ i a b, (acceptedTimes c msgs)[i]? = some a → (acceptedTimes c msgs)[i + 10]? = some b →
      b.subLt a 60 = false ∧ (60 ≤ a.val → a.val + 60 ≤ b.val)) ∧
    (∀ past m rest, msgs = past ++ m :: rest → m.client = c → accepts (chatStep (limitsAfter past) m).2 = false →
      (acceptedTimes c past).countP (fun t => m.time.subLt t 60) = 10 ∧
        ((∀ t ∈ acceptedTimes c past, 60 ≤ t.val) →
          (acceptedTimes c past).countP (fun t => m.time.val - t.val < 60) = 10) ∧
        Mealy.outputs chatStep (limitsAfter (past ++ [m])) rest =
          Mealy.outputs chatStep (limitsAfter past) rest) := by
  refine ⟨fun i a b ha hb => ?_, ?_⟩
  · have hspaced := acceptedTimes_spaced h ha hb
    refine ⟨hspaced, fun h60 => Double.le_of_not_subLt h60 ?_ hspaced⟩
    obtain ⟨hi, rfl⟩ := List.getElem?_eq_some_iff.mp ha
    obtain ⟨hj, rfl⟩ := List.getElem?_eq_some_iff.mp hb
    exact List.pairwise_iff_getElem.mp (acceptedTimes_sorted h) i (i + 10) hi hj (by omega)
  · rintro past m rest rfl rfl hrejected
    have hclocked := h.of_append
    have hten := (rejected_iff hclocked).mp hrejected
    refine ⟨hten, fun h60 => ?_, ?_⟩
    · rw [← countP_recent_eq (hclocked.concat.2 rfl) h60]
      exact hten
    · rw [limitsAfter_concat, chatStep_of_rejected hrejected]

def questionAt (time : Nat) (h : time < 2 ^ 53) : ChatMessage := ⟨"client-1", "status?", .ofNat time h⟩

def tenQuestions : List ChatMessage := List.replicate 10 (questionAt 2000 (by decide))

/-- The eleventh question waits for the end of the minute. -/
theorem eleventh_question_waits :
    accepts (chatStep (limitsAfter tenQuestions) (questionAt 2059 (by decide))).2 = false ∧
      (acceptedTimes "client-1" tenQuestions).countP (fun t => (Double.ofNat 2059 (by decide)).subLt t 60) = 10 := by
  have hrejected : accepts (chatStep (limitsAfter tenQuestions) (questionAt 2059 (by decide))).2 = false := by
    decide +kernel
  have hclocked : Clocked "client-1" (tenQuestions ++ [questionAt 2059 (by decide)]) := by
    unfold Clocked
    decide +kernel
  exact ⟨hrejected, ((chat_rate_limit "client-1" _ hclocked).2 tenQuestions _ [] rfl rfl hrejected).1⟩

end Chat
end SocFabric
