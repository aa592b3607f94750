import SocFabric.OverviewChat
import SocFabric.WebSocketStream

/-!
# The chat of the command center (`features/investigations/ui/AgentChatWidget.tsx`)

Two handlers are registered for `/ws/agent/chat`, and the widget was written for the second one: it
reads `error`, `chunk`, `provider` and `done`, which no frame of the first has. It also takes its
socket's close event for that of the socket in `wsRef`, although the socket of an earlier opening is
closed only when the widget is opened again. A run interleaves the analyst, the sockets, their close
events and the first handler. `asked` and `closeSeen` are no part of the program: whether a question
was sent, and whether a close event came since the widget was opened.
-/

namespace SocFabric
namespace CommandChat
open Chat Lts
open TwoKeyConsole (jsTrim)
open WebSocketStream (ReadyState)

/-! ### Frames -/

/-- A JSON object. -/
abbrev Frame := List (String × Json)

inductive Handler
  | agentChatWebsocket
  | websocketAgentChat
deriving DecidableEq, Repr

/-- The routes of the two handlers in the order of their registration: the router is included
twice. -/
def routes : List (String × Handler) :=
  [("/api/ws/agent/chat", .agentChatWebsocket), ("/api/ws/agent/chat", .websocketAgentChat),
    ("/ws/agent/chat", .agentChatWebsocket), ("/ws/agent/chat", .websocketAgentChat)]

def dispatch (path : String) : Option Handler := (routes.find? (·.1 = path)).map (·.2)

/-- What `agent_chat_websocket` sends. -/
def toJson : ChatFrame → Frame
  | .error message => [("type", .str "error"), ("message", .str message)]
  | .typing message => [("type", .str "typing"), ("message", .str message)]
  | .chunk content => [("type", .str "chunk"), ("content", .str content)]
  | .done => [("type", .str "done")]

/-- `msg[i:i+4] for i in range(0, len(msg), 4)`. -/
def slices : List Char → List String
  | [] => []
  | a :: b :: c :: d :: rest => .ofList [a, b, c, d] :: slices rest
  | short => [.ofList short]

def executorMessage (data : String) : String :=
  "[Read-Only LangChain Executor] I analyzed '" ++ data ++
    "'. Bound tools: [query_investigation_history, summarize_alert]. Explicitly excluded: [isolate_host, disable_rule]."

def provider : String := "anthropic/claude-3-5-sonnet-20240620"

def chunkFrame (chunk : String) : Frame := [("chunk", .str chunk), ("provider", .str provider), ("done", .bool false)]

def lastFrame : Frame := [("chunk", .str ""), ("done", .bool true)]

/-- What `websocket_agent_chat` sends for a question that it accepts. -/
def executorFrames (data : String) : List Frame :=
  (slices (executorMessage data).toList).map chunkFrame ++ [lastFrame]

/-! ### The widget -/

/-- What a message shows, as far as `text` can come to it. -/
inductive JsText
  | undefined
  | nan
  | text (s : String)
deriving DecidableEq, Repr

/-- The operator `+`. -/
def JsText.add : JsText → JsText → JsText
  | .text s, .text t => .text (s ++ t)
  | .text s, .undefined => .text (s ++ "undefined")
  | .text s, .nan => .text (s ++ "NaN")
  | .undefined, .text t => .text ("undefined" ++ t)
  | .nan, .text t => .text ("NaN" ++ t)
  | .undefined, _ | .nan, _ => .nan

/-- A member that is a string where it is there. -/
def member (data : Frame) (key : String) : JsText :=
  match data.lookup key with
  | some (.str s) => .text s
  | _ => .undefined

def truthyText : JsText → Bool
  | .text s => s ≠ ""
  | .undefined | .nan => false

def isDone (data : Frame) : Bool :=
  match data.lookup "done" with
  | some (.bool b) => b
  | _ => false

inductive Role
  | user
  | agent
deriving DecidableEq, Repr

structure Message where
  role : Role
  text : JsText
  provider : JsText := .undefined
deriving DecidableEq, Repr

structure Widget where
  messages : List Message := []
  isTyping : Bool := false
deriving DecidableEq, Repr

/-- The updater of `setMessages` for a frame that is no error. -/
def addChunk (messages : List Message) (data : Frame) : List Message :=
  match messages.getLast? with
  | none | some ⟨.user, _, _⟩ => messages ++ [⟨.agent, member data "chunk", member data "provider"⟩]
  | some m =>
    messages.dropLast ++ [{ m with
      text := m.text.add (member data "chunk")
      provider := if truthyText (member data "provider") then member data "provider" else m.provider }]

def Widget.onmessage (w : Widget) (data : Frame) : Widget :=
  match member data "error" with
  | .text error =>
    if error ≠ "" then ⟨w.messages ++ [{ role := .agent, text := .text ("Error: " ++ error) }], false⟩
    else ⟨addChunk w.messages data, w.isTyping && !isDone data⟩
  | .undefined | .nan => ⟨addChunk w.messages data, w.isTyping && !isDone data⟩

/-! ### Its sockets -/

structure Socket where
  readyState : ReadyState := .connecting
  connection : Connection

structure State where
  widget : Widget := {}
  isOpen : Bool := false
  wsRef : Option Nat := none
  sockets : Nat → Option Socket := fun _ => none
  created : Nat := 0
  limits : RateLimits := noLimits
  asked : Bool := false
  closeSeen : Bool := false

inductive Act
  | openWidget (client : String)
  | closeWidget
  | opened (i : Nat)
  | send (input : String)
  | serve (i : Nat) (time : Double)
  | emit (i : Nat)
  | deliver (i : Nat)
  | closed (i : Nat)

def State.setSocket (s : State) (i : Nat) (w : Socket) : State :=
  { s with sockets := Function.update s.sockets i (some w) }

/-- `close()` of the socket in `wsRef`. -/
def State.closeRef (s : State) : State :=
  match s.wsRef with
  | none => s
  | some i =>
    match s.sockets i with
    | some w =>
      match w.readyState with
      | .connecting | .opened => s.setSocket i { w with readyState := .closing }
      | .closing | .closed => s
    | none => s

/-- `handleSend` with a socket: while it is connecting, `send` throws. -/
def State.sendTo (s : State) (input : String) (i : Nat) (w : Socket) : State :=
  let s := { s with widget := { s.widget with messages := s.widget.messages ++ [{ role := .user, text := .text input }] } }
  match w.readyState with
  | .connecting => s
  | .opened =>
    { s.setSocket i { w with connection := { w.connection with questions := w.connection.questions ++ [input] } } with
      widget := { s.widget with isTyping := true }
      asked := true }
  | .closing | .closed => { s with widget := { s.widget with isTyping := true }, asked := true }

def step (s : State) : Act → Option State
  -- the cleanup runs with the `isOpen` of the render before, so that it closes the socket only here
  | .openWidget client =>
    if s.isOpen then none
    else
      some { s.closeRef.setSocket s.created { connection := { client := client } } with
        isOpen := true
        wsRef := some s.created
        created := s.created + 1
        closeSeen := false }
  | .closeWidget => if s.isOpen then some { s with isOpen := false } else none
  | .opened i => do
    let w ← s.sockets i
    match w.readyState with
    | .connecting =>
      return { s.setSocket i { w with readyState := .opened } with
        limits := Function.update s.limits w.connection.client [] }
    | .opened | .closing | .closed => none
  | .send input => do
    let i ← s.wsRef
    let w ← s.sockets i
    if s.isOpen ∧ jsTrim input ≠ "" then some (s.sendTo input i w) else none
  | .serve i time => do
    let w ← s.sockets i
    let (limits, c) ← w.connection.serve s.limits time
    return { s.setSocket i { w with connection := c } with limits := limits }
  | .emit i => do
    let w ← s.sockets i
    let c ← w.connection.emit
    return s.setSocket i { w with connection := c }
  | .deliver i => do
    let w ← s.sockets i
    let (frame, c) ← w.connection.deliver
    match w.readyState with
    | .opened => return { s.setSocket i { w with connection := c } with widget := s.widget.onmessage (toJson frame) }
    | .connecting | .closing | .closed => none
  | .closed i => do
    let w ← s.sockets i
    match w.readyState with
    | .closed => none
    | .connecting | .opened | .closing =>
      return { s.setSocket i { w with readyState := .closed } with wsRef := none, closeSeen := true }

/-! ### The handler that the widget was written for -/

theorem join_slices (l : List Char) : String.join (slices l) = .ofList l := by
  fun_induction slices l with
  | case1 => rfl
  | case2 a b c d rest ih =>
    rw [String.join_cons, ih, ← String.ofList_append]
    rfl
  | case3 l => simp

theorem addChunk_user {messages : List Message} {last : JsText} (data : Frame) :
    addChunk (messages ++ [{ role := .user, text := last }]) data =
      messages ++ [{ role := .user, text := last }] ++ [⟨.agent, member data "chunk", member data "provider"⟩] := by
  simp [addChunk]

theorem addChunk_agent {messages : List Message} {text : JsText} {p : JsText} (data : Frame) :
    addChunk (messages ++ [⟨.agent, text, p⟩]) data = messages ++ [⟨.agent, text.add (member data "chunk"),
      if truthyText (member data "provider") then member data "provider" else p⟩] := by
  simp [addChunk]

theorem onmessage_chunkFrame (w : Widget) (chunk : String) :
    w.onmessage (chunkFrame chunk) = ⟨addChunk w.messages (chunkFrame chunk), w.isTyping⟩ := by
  have herror : member (chunkFrame chunk) "error" = .undefined := rfl
  have hdone : isDone (chunkFrame chunk) = false := rfl
  simp [Widget.onmessage, herror, hdone]

theorem foldl_chunkFrames (messages : List Message) (text : String) (isTyping : Bool) (chunks : List String) :
    (chunks.map chunkFrame).foldl Widget.onmessage ⟨messages ++ [⟨.agent, .text text, .text provider⟩], isTyping⟩ =
      ⟨messages ++ [⟨.agent, .text (text ++ String.join chunks), .text provider⟩], isTyping⟩ := by
  induction chunks generalizing text with
  | nil => simp
  | cons chunk chunks ih =>
    have hchunk : member (chunkFrame chunk) "chunk" = .text chunk := rfl
    have hprovider : member (chunkFrame chunk) "provider" = .text provider := rfl
    have hstep : (⟨messages ++ [⟨.agent, .text text, .text provider⟩], isTyping⟩ : Widget).onmessage (chunkFrame chunk) =
        ⟨messages ++ [⟨.agent, .text (text ++ chunk), .text provider⟩], isTyping⟩ := by
      rw [onmessage_chunkFrame, addChunk_agent, hchunk, hprovider]
      simp [JsText.add]
    rw [List.map_cons, List.foldl_cons, hstep, ih, String.join_cons, String.append_assoc]

theorem onmessage_lastFrame (messages : List Message) (text : String) (isTyping : Bool) :
    (⟨messages ++ [⟨.agent, .text text, .text provider⟩], isTyping⟩ : Widget).onmessage lastFrame =
      ⟨messages ++ [⟨.agent, .text text, .text provider⟩], false⟩ := by
  have herror : member lastFrame "error" = .undefined := rfl
  have hdone : isDone lastFrame = true := rfl
  have hchunk : member lastFrame "chunk" = .text "" := rfl
  have hprovider : member lastFrame "provider" = .undefined := rfl
  simp only [Widget.onmessage, herror, hdone]
  rw [addChunk_agent, hchunk, hprovider]
  simp [JsText.add, truthyText]

theorem executorMessage_ne_empty (data : String) : executorMessage data ≠ "" := by
  unfold executorMessage
  intro h
  have hlast := (String.append_eq_empty_iff.mp h).2
  simp at hlast

/-- From `websocket_agent_chat`, the widget would show the whole answer. -/
theorem executor_answer_shown (messages : List Message) (data : String) (isTyping : Bool) :
    (executorFrames data).foldl Widget.onmessage ⟨messages ++ [{ role := .user, text := .text data }], isTyping⟩ =
      ⟨messages ++ [{ role := .user, text := .text data }] ++
        [⟨.agent, .text (executorMessage data), .text provider⟩], false⟩ := by
  have hjoin := join_slices (executorMessage data).toList
  rw [String.ofList_toList] at hjoin
  rw [executorFrames]
  generalize hmsg : executorMessage data = message at hjoin ⊢
  cases hslices : slices message.toList with
  | nil =>
    rw [hslices] at hjoin
    exact absurd (hmsg.trans hjoin.symm) (executorMessage_ne_empty data)
  | cons chunk chunks =>
    rw [hslices, String.join_cons] at hjoin
    have hchunk : member (chunkFrame chunk) "chunk" = .text chunk := rfl
    have hprovider : member (chunkFrame chunk) "provider" = .text provider := rfl
    have hfirst : (⟨messages ++ [{ role := .user, text := .text data }], isTyping⟩ : Widget).onmessage (chunkFrame chunk) =
        ⟨messages ++ [{ role := .user, text := .text data }] ++ [⟨.agent, .text chunk, .text provider⟩], isTyping⟩ := by
      rw [onmessage_chunkFrame, addChunk_user, hchunk, hprovider]
    rw [List.map_cons, List.cons_append, List.foldl_cons, hfirst, List.foldl_append, foldl_chunkFrames, hjoin,
      List.foldl_cons, onmessage_lastFrame, List.foldl_nil]

/-! ### A run -/

theorem dispatch_chat : dispatch "/api/ws/agent/chat" = some .agentChatWebsocket := by
  rfl

/-- No message of the agent has a text or a provider, and the indicator stays on from the first question
on. -/
structure Silent (s : State) : Prop where
  texts : ∀ m ∈ s.widget.messages, m.role = .agent → (m.text = .undefined ∨ m.text = .nan) ∧ m.provider = .undefined
  typing : s.widget.isTyping = s.asked

/-- `input` goes out on one of the sockets. -/
def Sends (s : State) (input : String) : Prop :=
  ∃ t, step s (.send input) = some t ∧ ∃ i w w', s.sockets i = some w ∧ t.sockets i = some w' ∧
    w'.connection.questions = w.connection.questions ++ [input]

/-- The socket of the last opening of the widget is open. -/
def Connected (s : State) : Prop :=
  ∃ i w, i + 1 = s.created ∧ s.sockets i = some w ∧ w.readyState = .opened

structure Tidy (s : State) : Prop where
  silent : Silent s
  ref : ∀ i, s.wsRef = some i → i + 1 = s.created ∧ ∃ w, s.sockets i = some w
  seen : s.isOpen = true → (s.wsRef = none ↔ s.closeSeen = true)

section
variable {s t : State} {a : Act}

/-- No member that the widget reads is in a frame of `agent_chat_websocket`. -/
theorem onmessage_toJson (w : Widget) (frame : ChatFrame) :
    w.onmessage (toJson frame) = ⟨addChunk w.messages (toJson frame), w.isTyping⟩ := by
  have herror : member (toJson frame) "error" = .undefined := by
    cases frame <;> rfl
  have hdone : isDone (toJson frame) = false := by
    cases frame <;> rfl
  simp [Widget.onmessage, herror, hdone]

theorem mem_addChunk_toJson {messages : List Message} {frame : ChatFrame} {m : Message}
    (h : ∀ m ∈ messages, m.role = .agent → (m.text = .undefined ∨ m.text = .nan) ∧ m.provider = .undefined)
    (hm : m ∈ addChunk messages (toJson frame)) (hrole : m.role = .agent) :
    (m.text = .undefined ∨ m.text = .nan) ∧ m.provider = .undefined := by
  have hchunk : member (toJson frame) "chunk" = .undefined := by
    cases frame <;> rfl
  have hprovider : member (toJson frame) "provider" = .undefined := by
    cases frame <;> rfl
  unfold addChunk at hm
  rw [hchunk, hprovider] at hm
  have hnew (hm : m ∈ messages ++ [⟨.agent, .undefined, .undefined⟩]) :
      (m.text = .undefined ∨ m.text = .nan) ∧ m.provider = .undefined := by
    rcases List.mem_append.mp hm with hm | hm
    · exact h m hm hrole
    · rw [List.mem_singleton.mp hm]
      exact ⟨.inl rfl, rfl⟩
  split at hm
  · exact hnew hm
  · exact hnew hm
  · rename_i last hlast hlast'
    rcases List.mem_append.mp hm with hm | hm
    · exact h m (List.mem_of_mem_dropLast hm) hrole
    · have hagent : last.role = .agent := by
        rw [List.mem_singleton.mp hm] at hrole
        exact hrole
      obtain ⟨htext, hnone⟩ := h last (List.mem_of_getLast? hlast') hagent
      rw [List.mem_singleton.mp hm]
      refine ⟨.inr ?_, by simpa [truthyText] using hnone⟩
      rcases htext with htext | htext
      · simp [htext, JsText.add]
      · simp [htext, JsText.add]

theorem closeRef_rest (s : State) : s.closeRef.widget = s.widget ∧ s.closeRef.asked = s.asked := by
  unfold State.closeRef
  split
  · exact ⟨rfl, rfl⟩
  · split
    · split <;> exact ⟨rfl, rfl⟩
    · exact ⟨rfl, rfl⟩

/-- A step that changes one socket, and neither the transcript nor `wsRef`. -/
theorem Tidy.setSocket (h : Tidy s) {i : Nat} {w : Socket} (hwidget : t.widget = s.widget) (hasked : t.asked = s.asked)
    (hsockets : t.sockets = Function.update s.sockets i (some w)) (hopen : t.isOpen = s.isOpen)
    (href : t.wsRef = s.wsRef) (hcreated : t.created = s.created) (hseen : t.closeSeen = s.closeSeen) : Tidy t := by
  refine ⟨⟨?_, ?_⟩, fun j hj => ?_, ?_⟩
  · rw [hwidget]
    exact h.silent.texts
  · rw [hwidget, hasked]
    exact h.silent.typing
  · obtain ⟨hlast, hw⟩ := h.ref j (href ▸ hj)
    rw [hsockets, hcreated]
    refine ⟨hlast, ?_⟩
    by_cases hji : j = i
    · exact ⟨w, by rw [hji, Function.update_self]⟩
    · rwa [Function.update_of_ne hji]
  · rw [hopen, href, hseen]
    exact h.seen

theorem Tidy.sendTo (h : Tidy s) (input : String) {i : Nat} (w : Socket) : Tidy (s.sendTo input i w) := by
  have htexts : ∀ m ∈ s.widget.messages ++ [{ role := .user, text := .text input }], m.role = .agent →
      (m.text = .undefined ∨ m.text = .nan) ∧ m.provider = .undefined := by
    intro m hm hrole
    rcases List.mem_append.mp hm with hm | hm
    · exact h.silent.texts m hm hrole
    · rw [List.mem_singleton.mp hm] at hrole
      cases hrole
  unfold State.sendTo
  split
  · exact ⟨⟨htexts, h.silent.typing⟩, h.ref, h.seen⟩
  · refine ⟨⟨htexts, rfl⟩, fun j hj => ?_, h.seen⟩
    obtain ⟨hlast, hw⟩ := h.ref j hj
    refine ⟨hlast, ?_⟩
    show ∃ v, Function.update s.sockets i _ j = some v
    by_cases hji : j = i
    · exact ⟨_, by rw [hji, Function.update_self]⟩
    · rwa [Function.update_of_ne hji]
  · exact ⟨⟨htexts, rfl⟩, h.ref, h.seen⟩
  · exact ⟨⟨htexts, rfl⟩, h.ref, h.seen⟩

theorem tidy_step (hs : step s a = some t) (h : Tidy s) : Tidy t := by
  cases a <;> simp only [step] at hs
  case openWidget client =>
    split at hs
    · cases hs
    · cases hs
      obtain ⟨hwidget, hasked⟩ := closeRef_rest s
      refine ⟨⟨?_, ?_⟩, fun j hj => ?_, fun _ => by simp⟩
      · show ∀ m ∈ s.closeRef.widget.messages, _
        rw [hwidget]
        exact h.silent.texts
      · show s.closeRef.widget.isTyping = s.closeRef.asked
        rw [hwidget, hasked]
        exact h.silent.typing
      · cases hj
        exact ⟨rfl, _, Function.update_self ..⟩
  case closeWidget =>
    split at hs
    · cases hs
      exact ⟨⟨h.silent.texts, h.silent.typing⟩, h.ref, nofun⟩
    · cases hs
  case opened i =>
    obtain ⟨w, hw, hs⟩ := Option.bind_eq_some_iff.mp hs
    split at hs
    · cases hs
      exact h.setSocket (i := i) rfl rfl rfl rfl rfl rfl rfl
    all_goals cases hs
  case send input =>
    obtain ⟨i, hi, hs⟩ := Option.bind_eq_some_iff.mp hs
    obtain ⟨w, hw, hs⟩ := Option.bind_eq_some_iff.mp hs
    split at hs
    · cases hs
      exact h.sendTo input w
    · cases hs
  case serve i time =>
    obtain ⟨w, hw, hs⟩ := Option.bind_eq_some_iff.mp hs
    obtain ⟨⟨limits, c⟩, hc, hs⟩ := Option.bind_eq_some_iff.mp hs
    cases hs
    exact h.setSocket (i := i) rfl rfl rfl rfl rfl rfl rfl
  case emit i =>
    obtain ⟨w, hw, hs⟩ := Option.bind_eq_some_iff.mp hs
    obtain ⟨c, hc, hs⟩ := Option.bind_eq_some_iff.mp hs
    cases hs
    exact h.setSocket (i := i) rfl rfl rfl rfl rfl rfl rfl
  case deliver i =>
    obtain ⟨w, hw, hs⟩ := Option.bind_eq_some_iff.mp hs
    obtain ⟨⟨frame, c⟩, hc, hs⟩ := Option.bind_eq_some_iff.mp hs
    have hsocket : Tidy (s.setSocket i { w with connection := c }) := h.setSocket (i := i) rfl rfl rfl rfl rfl rfl rfl
    split at hs
    · cases hs
      refine ⟨⟨?_, ?_⟩, hsocket.ref, hsocket.seen⟩
      · show ∀ m ∈ (s.widget.onmessage (toJson frame)).messages, _
        rw [onmessage_toJson]
        intro m hm hrole
        exact mem_addChunk_toJson h.silent.texts hm hrole
      · show (s.widget.onmessage (toJson frame)).isTyping = s.asked
        rw [onmessage_toJson]
        exact h.silent.typing
    all_goals cases hs
  case closed i =>
    obtain ⟨w, hw, hs⟩ := Option.bind_eq_some_iff.mp hs
    split at hs
    · cases hs
    all_goals
      cases hs
      refine ⟨⟨h.silent.texts, h.silent.typing⟩, nofun, fun _ => by simp⟩

theorem tidy_init : Tidy {} := by
  refine ⟨⟨?_, rfl⟩, nofun, nofun⟩
  intro m hm
  cases hm

end

/-- However the chat is used, what it shows of the agent is `undefined` or `NaN`, and the indicator stays
on from the first question on. -/
theorem never_answers (s : State) (h : Reach step free {} s) : Silent s :=
  (h.invariant tidy_init fun _ hs ht => tidy_step hs ht).silent

def askOnce : List Act :=
  [.openWidget "client-1", .opened 0, .send "status?", .serve 0 (.ofNat 2000 OverviewChat.time_exact), .emit 0, .deliver 0]

theorem question_answered_undefined :
    ∃ s, run step free {} askOnce = some s ∧ Silent s ∧
      s.widget.messages = [{ role := .user, text := .text "status?" }, { role := .agent, text := .undefined }] :=
  ⟨_, rfl, never_answers _ (Reach.of_run askOnce rfl), rfl⟩

/-- `send` puts the question on the connection of the socket in `wsRef` if that is open. -/
theorem sends_iff_of_ref {s : State} {i : Nat} {w : Socket} (href : s.wsRef = some i) (hw : s.sockets i = some w)
    (hopen : s.isOpen = true) {input : String} (hinput : jsTrim input ≠ "") :
    Sends s input ↔ w.readyState = .opened := by
  have hstep : step s (.send input) = some (s.sendTo input i w) := by
    simp [step, href, hw, hopen, hinput]
  constructor
  · rintro ⟨t, ht, j, v, v', hv, hv', hquestions⟩
    obtain rfl := Option.some.inj (hstep.symm.trans ht)
    by_contra hstate
    -- no socket is changed
    have hsame : (s.sendTo input i w).sockets = s.sockets := by
      cases hw' : w.readyState with
      | opened => exact absurd hw' hstate
      | connecting => simp [State.sendTo, hw']
      | closing => simp [State.sendTo, hw']
      | closed => simp [State.sendTo, hw']
    rw [hsame] at hv'
    cases hv.symm.trans hv'
    simp at hquestions
  · intro hstate
    refine ⟨_, hstep, i, w, { w with connection := { w.connection with questions := w.connection.questions ++ [input] } },
      hw, ?_, rfl⟩
    simp [State.sendTo, State.setSocket, hstate]

/-- A question that is typed into an open chat goes out exactly if the socket of this opening is open
and no close event came since, be it that of an earlier socket. -/
theorem open_chat_sends_iff (s : State) (h : Reach step free {} s) (hopen : s.isOpen = true) (input : String)
    (hinput : jsTrim input ≠ "") : Sends s input ↔ s.closeSeen = false ∧ Connected s := by
  have htidy : Tidy s := h.invariant tidy_init fun _ hs ht => tidy_step hs ht
  cases href : s.wsRef with
  | none =>
    have hseen := (htidy.seen hopen).mp href
    simp [Sends, step, href, hseen]
  | some i =>
    obtain ⟨hlast, w, hw⟩ := htidy.ref i href
    have hseen : s.closeSeen = false := by
      cases hs : s.closeSeen with
      | false => rfl
      | true => cases href.symm.trans ((htidy.seen hopen).mpr hs)
    have hconnected : Connected s ↔ w.readyState = .opened := by
      refine ⟨fun ⟨j, v, hj, hv, hstate⟩ => ?_, fun hstate => ⟨i, w, hlast, hw, hstate⟩⟩
      obtain rfl : j = i := by omega
      cases hw.symm.trans hv
      exact hstate
    rw [sends_iff_of_ref href hw hopen hinput, hconnected]
    exact ⟨fun hstate => ⟨hseen, hstate⟩, And.right⟩

/-- The chat is closed and opened again, and then the close event of its first socket comes. -/
def reopenChat : List Act := [.openWidget "client-1", .opened 0, .closeWidget, .openWidget "client-2", .opened 1, .closed 0]

theorem reopened_chat_mute :
    ∃ s t, run step free {} (reopenChat.take 5) = some s ∧ Sends s "status?" ∧
      step s (.closed 0) = some t ∧ t.isOpen = true ∧ Connected t ∧ ¬ Sends t "status?" := by
  refine ⟨_, _, rfl, ?_, rfl, rfl, ⟨1, _, rfl, rfl, rfl⟩, fun hsends => ?_⟩
  · exact (open_chat_sends_iff _ (Reach.of_run (reopenChat.take 5) rfl) rfl "status?" (by decide)).mpr
      ⟨rfl, 1, _, rfl, rfl, rfl⟩
  · have hseen := ((open_chat_sends_iff _ (Reach.of_run reopenChat rfl) rfl "status?" (by decide)).mp hsends).1
    cases hseen

end CommandChat
end SocFabric
