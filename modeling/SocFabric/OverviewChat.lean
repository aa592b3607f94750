import SocFabric.ChatRateLimit
import SocFabric.Lib.Lts
import SocFabric.Lib.SplitOn
import SocFabric.TwoKeyConsole

/-!
# The chat of the overview page (`features/agent-ops/AgentChatWidget.tsx`)

The widget opens a connection to `agent_chat_websocket` whenever it is opened, sends what the analyst
types, and builds the transcript from the frames. A run interleaves the analyst, the handler, which
takes one question after the other, and the frames on their way. A chunk goes to the last message if
that is the agent's, so a question typed while an answer streams in cuts the answer off. `earlier`,
`interrupted`, `accepted` and `delivered` are no part of the program: they record what closed
connections had streamed, whether a question was sent since the last `typing`, the questions
that were answered, and the frames that arrived.
-/

namespace SocFabric
namespace Chat

/-! ### A connection -/

structure Connection where
  client : String
  -- whether the browser has it open
  ready : Bool := false
  questions : List String := []
  -- what is left of the answer to the last question
  answering : List ChatFrame := []
  -- on their way to the browser
  frames : List ChatFrame := []
  accepted : List String := []
  delivered : List ChatFrame := []

/-- All frames of a connection, in their order. -/
def Connection.allFrames (c : Connection) : List ChatFrame := c.delivered ++ c.frames ++ c.answering

/-- The handler receives a question once it is done with the one before. -/
def Connection.serve (c : Connection) (limits : RateLimits) (time : Double) : Option (RateLimits × Connection) :=
  match c.answering, c.questions with
  | [], q :: questions =>
    let out := chatStep limits ⟨c.client, q, time⟩
    some (out.1, { c with
      questions := questions
      answering := out.2
      accepted := c.accepted ++ if accepts out.2 then [q] else [] })
  | _, _ => none

def Connection.emit (c : Connection) : Option Connection :=
  match c.answering with
  | [] => none
  | frame :: answering => some { c with answering := answering, frames := c.frames ++ [frame] }

def Connection.deliver (c : Connection) : Option (ChatFrame × Connection) :=
  match c.frames with
  | [] => none
  | frame :: frames => some (frame, { c with frames := frames, delivered := c.delivered ++ [frame] })

end Chat

namespace OverviewChat
open Chat Lts
open TwoKeyConsole (jsTrim)

/-! ### The widget -/

inductive Role
  | user
  | agent
  | system
deriving DecidableEq, Repr

structure Message where
  role : Role
  content : String
deriving DecidableEq, Repr

def greeting : Message where
  role := .system
  content := "Agent connected. Note: This channel is READ-ONLY. The agent cannot isolate hosts, disable rules, or execute playbooks."

structure Widget where
  messages : List Message := [greeting]
  isTyping : Bool := false
deriving DecidableEq, Repr

def Widget.onmessage (w : Widget) : ChatFrame → Widget
  | .error message => ⟨w.messages ++ [⟨.system, "⚠ " ++ message⟩], false⟩
  | .typing _ =>
    if w.messages.getLast? = some ⟨.agent, ""⟩ then ⟨w.messages, true⟩ else ⟨w.messages ++ [⟨.agent, ""⟩], true⟩
  | .chunk content =>
    match w.messages.getLast? with
    | some ⟨.agent, text⟩ => ⟨w.messages.dropLast ++ [⟨.agent, text ++ content⟩], false⟩
    | _ => ⟨w.messages, false⟩
  | .done => ⟨w.messages, false⟩

structure State where
  widget : Widget := {}
  isOpen : Bool := false
  -- the connection in `wsRef`, while it is neither closed nor lost
  connection : Option Connection := none
  limits : RateLimits := noLimits
  earlier : List String := []
  interrupted : Bool := false

inductive Act
  | openWidget (client : String)
  | accepted
  | send (input : String)
  | serve (time : Double)
  | emit
  | deliver
  | lose
  | closeWidget

def addFrame (texts : List String) : ChatFrame → List String
  | .typing _ => texts ++ [""]
  | .chunk content =>
    match texts.getLast? with
    | some text => texts.dropLast ++ [text ++ content]
    | none => texts
  | .error _ | .done => texts

/-- The texts in a stream of frames: one for each `typing`, to which the chunks are added. -/
def texts (frames : List ChatFrame) : List String := frames.foldl addFrame []

def startsAnswer : ChatFrame → Bool
  | .typing _ => true
  | .error _ | .chunk _ | .done => false

/-- `handleSend`; a socket that is still connecting throws, and a closed one drops the text. -/
def sendText (input : String) (c : Connection) : Connection :=
  if c.ready then { c with questions := c.questions ++ [input] } else c

def streamed (connection : Option Connection) : List String := (connection.map fun c => texts c.delivered).getD []

def step (s : State) : Act → Option State
  | .openWidget client =>
    if s.isOpen then none else some { s with isOpen := true, connection := some { client := client } }
  | .accepted =>
    match s.connection with
    | some c =>
      if c.ready then none
      else some { s with connection := some { c with ready := true }, limits := Function.update s.limits c.client [] }
    | none => none
  | .send input =>
    if s.isOpen ∧ jsTrim input ≠ "" then
      some { s with
        widget := { s.widget with messages := s.widget.messages ++ [⟨.user, input⟩] }
        connection := s.connection.map (sendText input)
        interrupted := true }
    else none
  | .serve time => do
    let c ← s.connection
    let (limits, c) ← c.serve s.limits time
    return { s with connection := some c, limits := limits }
  | .emit => do
    let c ← s.connection
    let c ← c.emit
    return { s with connection := some c }
  | .deliver => do
    let c ← s.connection
    let (frame, c) ← c.deliver
    return { s with
      widget := s.widget.onmessage frame
      connection := some c
      interrupted := s.interrupted && !startsAnswer frame }
  | .lose =>
    match s.connection with
    | some c => some { s with connection := none, earlier := s.earlier ++ texts c.delivered }
    | none => none
  | .closeWidget =>
    if s.isOpen then
      some { s with isOpen := false, connection := none, earlier := s.earlier ++ streamed s.connection }
    else none

/-! ### What a run is to keep -/

def agentTexts (messages : List Message) : List String := (messages.filter (·.role = .agent)).map (·.content)

/-- The agent's messages are what the connections streamed. -/
def Faithful (s : State) : Prop := agentTexts s.widget.messages = s.earlier ++ streamed s.connection

/-- No chunk arrives of an answer into which a question was sent. -/
def Uninterrupted (s : State) : Act → Prop
  | .deliver => ∀ c content frames, s.connection = some c → c.frames = .chunk content :: frames → s.interrupted = false
  | _ => True

/-! ### The frames of an answer -/

inductive Mode
  | idle
  | started
  | streaming
deriving DecidableEq, Repr

/-- The order of the frames; a chunk is not empty. -/
def Mode.after : Mode → ChatFrame → Option Mode
  | .idle, .error _ => some .idle
  | .idle, .typing _ => some .started
  | .started, .chunk content | .streaming, .chunk content => if content = "" then none else some .streaming
  | .streaming, .done => some .idle
  | _, _ => none

def modeOf (frames : List ChatFrame) : Option Mode := frames.foldlM Mode.after .idle

section
variable {frames rest : List ChatFrame} {frame : ChatFrame} {m : Mode} {q : String}

theorem modeOf_append : modeOf (frames ++ rest) = (modeOf frames).bind fun m => rest.foldlM Mode.after m :=
  List.foldlM_append ..

theorem modeOf_concat (h : modeOf frames = some m) : modeOf (frames ++ [frame]) = m.after frame := by
  rw [modeOf_append, h]
  simp

theorem foldlM_chunks {l : List String} (hl : ∀ content ∈ l, content ≠ "") :
    (l.map ChatFrame.chunk).foldlM Mode.after .streaming = some .streaming := by
  induction l with
  | nil => rfl
  | cons content l ih =>
    rw [List.map_cons, List.foldlM_cons]
    have hafter : Mode.streaming.after (.chunk content) = some .streaming := if_neg (hl content List.mem_cons_self)
    rw [hafter]
    exact ih fun c hc => hl c (List.mem_cons_of_mem _ hc)

def chunks (q : String) : List String := ((response q).splitOn " ").map (· ++ " ")

theorem answer_eq (q : String) :
    answer q = .typing "Agent is thinking..." :: (chunks q).map ChatFrame.chunk ++ [ChatFrame.done] := by
  rw [answer, chunks, List.map_map]
  rfl

theorem chunk_ne_empty : ∀ content ∈ chunks q, content ≠ "" := by
  intro content hcontent hempty
  obtain ⟨part, -, rfl⟩ := List.mem_map.mp hcontent
  have hlen := congrArg String.length hempty
  simp at hlen

theorem chunks_ne_nil : chunks q ≠ [] := by
  rw [chunks, Ne, List.map_eq_nil_iff]
  exact SplitOn.splitOn_char_ne_nil (response q) ' '

theorem join_chunks (q : String) : String.join (chunks q) = response q ++ " " :=
  SplitOn.join_splitOn_char (response q) ' '

theorem foldlM_answer (q : String) : (answer q).foldlM Mode.after .idle = some .idle := by
  obtain ⟨content, l, hl⟩ := List.exists_cons_of_ne_nil (chunks_ne_nil (q := q))
  have hne := chunk_ne_empty (q := q)
  rw [hl] at hne
  have hfirst : Mode.started.after (.chunk content) = some .streaming := if_neg (hne content List.mem_cons_self)
  have hrest := foldlM_chunks fun c hc => hne c (List.mem_cons_of_mem _ hc)
  rw [answer_eq, hl, List.cons_append, List.foldlM_cons]
  show ((content :: l).map ChatFrame.chunk ++ [ChatFrame.done]).foldlM Mode.after .started = _
  rw [List.map_cons, List.cons_append, List.foldlM_cons, hfirst]
  show (l.map ChatFrame.chunk ++ [ChatFrame.done]).foldlM Mode.after .streaming = _
  rw [List.foldlM_append, hrest]
  rfl

theorem texts_concat : texts (frames ++ [frame]) = addFrame (texts frames) frame := List.foldl_concat ..

theorem addFrame_chunk (ts : List String) (t content : String) :
    addFrame (ts ++ [t]) (.chunk content) = ts ++ [t ++ content] := by
  simp [addFrame]

theorem foldl_chunks (ts : List String) (t : String) (l : List String) :
    (l.map ChatFrame.chunk).foldl addFrame (ts ++ [t]) = ts ++ [t ++ String.join l] := by
  induction l generalizing t with
  | nil => simp
  | cons content l ih => rw [List.map_cons, List.foldl_cons, addFrame_chunk, ih, String.join_cons, String.append_assoc]

theorem texts_answer (frames : List ChatFrame) (q : String) :
    texts (frames ++ answer q) = texts frames ++ [response q ++ " "] := by
  rw [texts, List.foldl_append, answer_eq, List.cons_append, List.foldl_cons, List.foldl_append]
  show [ChatFrame.done].foldl addFrame (((chunks q).map ChatFrame.chunk).foldl addFrame (texts frames ++ [""])) = _
  rw [foldl_chunks, join_chunks]
  simp [addFrame]

/-- The handler's frames for a question: an error, or the whole answer. -/
theorem chatStep_frames (limits : RateLimits) (x : ChatMessage) :
    (chatStep limits x).2 = rateLimited ∨ (chatStep limits x).2 = answer x.data := by
  rcases Nat.lt_or_ge ((limits x.client).filter fun t => x.time.subLt t 60).length 10 with h | h
  · exact .inr (chatStep_of_free h).2
  · exact .inl (by rw [chatStep_of_full h])

theorem texts_ne_nil (h : modeOf frames = some m) (hm : m ≠ .idle) : texts frames ≠ [] := by
  induction frames using List.reverseRecOn generalizing m with
  | nil =>
    cases h
    exact absurd rfl hm
  | append_singleton frames frame ih =>
    rw [modeOf_append] at h
    obtain ⟨m', hm', hafter⟩ := Option.bind_eq_some_iff.mp h
    have hafter : m'.after frame = some m := by simpa using hafter
    rw [texts_concat]
    cases frame with
    | typing => simp [addFrame]
    | chunk content =>
      have hm'' : m' ≠ .idle := by
        rintro rfl
        cases hafter
      rcases List.eq_nil_or_concat (texts frames) with hnil | ⟨ts, t, hts⟩
      · exact absurd hnil (ih hm' hm'')
      · rw [hts, List.concat_eq_append, addFrame_chunk]
        simp
    | error =>
      cases m' with
      | idle =>
        cases hafter
        exact absurd rfl hm
      | started => cases hafter
      | streaming => cases hafter
    | done =>
      cases m' with
      | idle => cases hafter
      | started => cases hafter
      | streaming =>
        cases hafter
        exact absurd rfl hm

end

/-! ### One step of a connection -/

/-- A connection streams whole answers, to the questions that were accepted. -/
structure Sound (c : Connection) : Prop where
  framed : modeOf c.allFrames = some .idle
  complete : texts c.allFrames = c.accepted.map fun q => response q ++ " "

section
variable {c c' : Connection} {frame : ChatFrame} {limits limits' : RateLimits} {time : Double}

theorem Sound.new (client : String) : Sound { client := client } := ⟨rfl, rfl⟩

theorem Sound.serve (h : Sound c) (hs : c.serve limits time = some (limits', c')) :
    Sound c' ∧ c'.delivered = c.delivered ∧ c'.frames = c.frames ∧ c.questions ≠ [] := by
  unfold Connection.serve at hs
  split at hs
  · rename_i q questions hanswering hquestions
    cases hs
    refine ⟨?_, rfl, rfl, by simp [hquestions]⟩
    have hall : c.allFrames = c.delivered ++ c.frames := by simp [Connection.allFrames, hanswering]
    have hframed := h.framed
    have hcomplete := h.complete
    rw [hall] at hframed hcomplete
    rcases chatStep_frames limits ⟨c.client, q, time⟩ with hout | hout
    · constructor
      · show modeOf (c.delivered ++ c.frames ++ (chatStep limits ⟨c.client, q, time⟩).2) = _
        rw [hout, modeOf_append, hframed]
        rfl
      · show texts (c.delivered ++ c.frames ++ (chatStep limits ⟨c.client, q, time⟩).2) =
          (c.accepted ++ if accepts (chatStep limits ⟨c.client, q, time⟩).2 then [q] else []).map _
        rw [hout, rateLimited, texts_concat]
        simpa [accepts, rateLimited, addFrame] using hcomplete
    · constructor
      · show modeOf (c.delivered ++ c.frames ++ (chatStep limits ⟨c.client, q, time⟩).2) = _
        rw [hout, modeOf_append, hframed]
        exact foldlM_answer q
      · show texts (c.delivered ++ c.frames ++ (chatStep limits ⟨c.client, q, time⟩).2) =
          (c.accepted ++ if accepts (chatStep limits ⟨c.client, q, time⟩).2 then [q] else []).map _
        rw [hout, texts_answer, hcomplete, if_pos (accepts_answer q)]
        simp
  · cases hs

theorem Sound.emit (h : Sound c) (hs : c.emit = some c') :
    Sound c' ∧ c'.delivered = c.delivered ∧ c'.questions = c.questions ∧ c.answering ≠ [] := by
  unfold Connection.emit at hs
  split at hs
  · cases hs
  · rename_i frame answering hanswering
    cases hs
    have hall : c.delivered ++ (c.frames ++ [frame]) ++ answering = c.allFrames := by
      simp [Connection.allFrames, hanswering]
    exact ⟨⟨by rw [Connection.allFrames, hall]; exact h.framed, by rw [Connection.allFrames, hall]; exact h.complete⟩,
      rfl, rfl, by simp [hanswering]⟩

theorem Sound.deliver (h : Sound c) (hs : c.deliver = some (frame, c')) :
    Sound c' ∧ c'.delivered = c.delivered ++ [frame] ∧ ∃ frames, c.frames = frame :: frames := by
  unfold Connection.deliver at hs
  split at hs
  · cases hs
  · rename_i frame frames hframes
    cases hs
    have hall : c.delivered ++ [frame] ++ frames ++ c.answering = c.allFrames := by
      simp [Connection.allFrames, hframes]
    exact ⟨⟨by rw [Connection.allFrames, hall]; exact h.framed, by rw [Connection.allFrames, hall]; exact h.complete⟩,
      rfl, frames, hframes⟩

theorem Sound.sendText (h : Sound c) (input : String) : Sound (sendText input c) := by
  unfold OverviewChat.sendText
  split
  · exact ⟨h.framed, h.complete⟩
  · exact h

/-- Where the stream is between two frames. -/
theorem Sound.mode (h : Sound c) : ∃ m, modeOf c.delivered = some m := by
  have hframed := h.framed
  rw [Connection.allFrames, List.append_assoc, modeOf_append] at hframed
  obtain ⟨m, hm, -⟩ := Option.bind_eq_some_iff.mp hframed
  exact ⟨m, hm⟩

end

/-! ### One step -/

structure Tidy (s : State) : Prop where
  closed : s.isOpen = false → s.connection = none
  sound : ∀ c, s.connection = some c → Sound c
  faithful : Faithful s
  -- an answer streams into the last message, unless a question was sent
  streaming : ∀ c m, s.connection = some c → modeOf c.delivered = some m → m ≠ .idle → s.interrupted = false →
    ∃ messages text, s.widget.messages = messages ++ [⟨.agent, text⟩]
  interrupted : s.interrupted = true → ∃ messages m, s.widget.messages = messages ++ [m] ∧ m.role ≠ .agent
  -- a last message without text has its chunks still to come, or there is no question any more
  empty : s.widget.messages.getLast? = some ⟨.agent, ""⟩ → ∀ c, s.connection = some c →
    modeOf c.delivered = some .started ∨ c.questions = [] ∧ c.frames = [] ∧ c.answering = []

section
variable {s t : State} {a : Act}

theorem agentTexts_agent (messages : List Message) (text : String) :
    agentTexts (messages ++ [⟨.agent, text⟩]) = agentTexts messages ++ [text] := by
  simp [agentTexts]

theorem agentTexts_other {m : Message} (h : m.role ≠ .agent) (messages : List Message) :
    agentTexts (messages ++ [m]) = agentTexts messages := by
  simp [agentTexts, h]

/-- The messages stay, and so does what was streamed. -/
theorem Tidy.connection (h : Tidy s) {c : Connection} (hwidget : t.widget = s.widget) (hearlier : t.earlier = s.earlier)
    (hinterrupted : t.interrupted = s.interrupted) (hopen : t.isOpen = s.isOpen) (hc : t.connection = some c)
    (hsound : Sound c)
    (hdelivered : ∃ c₀, s.connection = some c₀ ∧ c.delivered = c₀.delivered ∧
      (c.questions = [] ∧ c.frames = [] ∧ c.answering = [] ∨
        ¬ (c₀.questions = [] ∧ c₀.frames = [] ∧ c₀.answering = []))) : Tidy t := by
  obtain ⟨c₀, hc₀, hdel, hpipe⟩ := hdelivered
  refine ⟨fun hclosed => ?_, fun x hx => ?_, ?_, fun x m hx hm hidle hint => ?_, fun hint => ?_, fun hlast x hx => ?_⟩
  · cases (h.closed (hopen ▸ hclosed)).symm.trans hc₀
  · cases hc.symm.trans hx
    exact hsound
  · have hfaithful := h.faithful
    rw [Faithful, streamed, hc₀] at hfaithful
    rw [Faithful, streamed, hwidget, hearlier, hc, hfaithful]
    simp [hdel]
  · cases hc.symm.trans hx
    rw [hwidget]
    exact h.streaming c₀ m hc₀ (hdel ▸ hm) hidle (hinterrupted ▸ hint)
  · rw [hwidget]
    exact h.interrupted (hinterrupted ▸ hint)
  · cases hc.symm.trans hx
    rw [hwidget] at hlast
    rcases h.empty hlast c₀ hc₀ with hstarted | hnothing
    · exact .inl (hdel ▸ hstarted)
    · exact .inr (hpipe.resolve_right (not_not_intro hnothing))

/-- The connection is gone, and what it streamed is remembered. -/
theorem Tidy.disconnected (h : Tidy s) (hwidget : t.widget = s.widget)
    (hearlier : t.earlier = s.earlier ++ streamed s.connection) (hinterrupted : t.interrupted = s.interrupted)
    (hc : t.connection = none) : Tidy t := by
  refine ⟨fun _ => hc, fun x hx => ?_, ?_, fun x m hx => ?_, fun hint => ?_, fun _ x hx => ?_⟩
  · cases hc.symm.trans hx
  · rw [Faithful, hwidget, hearlier, hc, h.faithful]
    simp [streamed]
  · cases hc.symm.trans hx
  · rw [hwidget]
    exact h.interrupted (hinterrupted ▸ hint)
  · cases hc.symm.trans hx

theorem onmessage_chunk {w : Widget} {messages : List Message} {text : String} (h : w.messages = messages ++ [⟨.agent, text⟩])
    (content : String) : (w.onmessage (.chunk content)).messages = messages ++ [⟨.agent, text ++ content⟩] := by
  simp [Widget.onmessage, h]

theorem onmessage_chunk_lost {w : Widget} {messages : List Message} {m : Message} (h : w.messages = messages ++ [m])
    (hm : m.role ≠ .agent) (content : String) : (w.onmessage (.chunk content)).messages = w.messages := by
  obtain ⟨role, text⟩ := m
  cases role with
  | agent => exact absurd rfl hm
  | user => simp [Widget.onmessage, h]
  | system => simp [Widget.onmessage, h]

/-- A frame that comes from a sound connection, with where its stream is before and after. -/
structure Delivery (s : State) (c c' : Connection) (frame : ChatFrame) (m m' : Mode) : Prop where
  connection : s.connection = some c
  sound : Sound c'
  delivered : c'.delivered = c.delivered ++ [frame]
  frames : ∃ frames, c.frames = frame :: frames
  before : modeOf c.delivered = some m
  mode : modeOf c'.delivered = some m'
  after : m.after frame = some m'

section
variable {c c' : Connection} {frame : ChatFrame} {m m' : Mode}

theorem Tidy.exists_delivery (h : Tidy s) (hc : s.connection = some c) (hs : c.deliver = some (frame, c')) :
    ∃ m m', Delivery s c c' frame m m' := by
  obtain ⟨hsound, hdelivered, hframes⟩ := (h.sound c hc).deliver hs
  obtain ⟨m, hm⟩ := (h.sound c hc).mode
  obtain ⟨m', hm'⟩ := hsound.mode
  have hafter : m.after frame = some m' := by rw [← modeOf_concat hm, ← hdelivered, hm']
  exact ⟨m, m', hc, hsound, hdelivered, hframes, hm, hm', hafter⟩

theorem Delivery.faithful (hd : Delivery s c c' frame m m') (h : Tidy s) :
    agentTexts s.widget.messages = s.earlier ++ texts c.delivered := by
  have hfaithful := h.faithful
  rwa [Faithful, streamed, hd.connection] at hfaithful

/-- Between answers the last message has a text, for there are frames to come. -/
theorem Delivery.last_ne (hd : Delivery s c c' frame m m') (h : Tidy s) (hm : m ≠ .started) :
    s.widget.messages.getLast? ≠ some ⟨.agent, ""⟩ := by
  intro hempty
  rcases h.empty hempty c hd.connection with hstarted | ⟨-, hnil, -⟩
  · exact hm (Option.some.inj (hd.before.symm.trans hstarted))
  · obtain ⟨frames, hframes⟩ := hd.frames
    rw [hframes] at hnil
    cases hnil

/-- A chunk comes of an answer into which no question was sent, so that there is a message for it. -/
theorem Delivery.message_of_chunk {content : String} (hd : Delivery s c c' (.chunk content) m m') (h : Tidy s)
    (hg : Uninterrupted s .deliver) :
    s.interrupted = false ∧ m ≠ .idle ∧ content ≠ "" ∧
      ∃ messages text, s.widget.messages = messages ++ [⟨.agent, text⟩] := by
  obtain ⟨frames, hframes⟩ := hd.frames
  have hfalse := hg c content frames hd.connection hframes
  have hafter := hd.after
  have hidle : m ≠ .idle := by
    rintro rfl
    cases hafter
  have hcontent : content ≠ "" := by
    rintro rfl
    cases m with
    | idle => exact hidle rfl
    | started => simp [Mode.after] at hafter
    | streaming => simp [Mode.after] at hafter
  exact ⟨hfalse, hidle, hcontent, h.streaming c m hd.connection hd.before hidle hfalse⟩

/-- What the four kinds of frames have in common. -/
theorem Delivery.tidy (hd : Delivery s c c' frame m m') (h : Tidy s)
    (ht : t = { s with
      widget := s.widget.onmessage frame
      connection := some c'
      interrupted := s.interrupted && !startsAnswer frame })
    (htexts : agentTexts (s.widget.onmessage frame).messages = s.earlier ++ addFrame (texts c.delivered) frame)
    (hstreaming : m' ≠ .idle → ∃ messages text, (s.widget.onmessage frame).messages = messages ++ [⟨.agent, text⟩])
    (hinterrupted : s.interrupted = true → startsAnswer frame = false →
      ∃ messages x, (s.widget.onmessage frame).messages = messages ++ [x] ∧ x.role ≠ .agent)
    (hempty : (s.widget.onmessage frame).messages.getLast? = some ⟨.agent, ""⟩ → m' = .started) : Tidy t := by
  subst ht
  refine ⟨fun hclosed => ?_, fun x hx => ?_, ?_, fun x mode hx hmode hidle _ => ?_, fun hint => ?_, fun hlast x hx => ?_⟩
  · cases (h.closed hclosed).symm.trans hd.connection
  · cases hx
    exact hd.sound
  · show agentTexts (s.widget.onmessage frame).messages = s.earlier ++ texts c'.delivered
    rw [hd.delivered, texts_concat, htexts]
  · cases hx
    obtain rfl : m' = mode := Option.some.inj (hd.mode.symm.trans hmode)
    exact hstreaming hidle
  · have hint : s.interrupted = true ∧ startsAnswer frame = false := by simpa using hint
    exact hinterrupted hint.1 hint.2
  · cases hx
    exact .inl (hempty hlast ▸ hd.mode)

theorem Delivery.tidy_error {message : String} (hd : Delivery s c c' (.error message) m m') (h : Tidy s)
    (ht : t = { s with
      widget := s.widget.onmessage (.error message)
      connection := some c'
      interrupted := s.interrupted && !startsAnswer (.error message) }) : Tidy t := by
  refine hd.tidy h ht ?_ (fun hidle => ?_) (fun _ _ => ⟨s.widget.messages, _, rfl, by simp⟩) fun hempty => ?_
  · exact (agentTexts_other (by simp) _).trans (hd.faithful h)
  · have hafter := hd.after
    cases m <;> cases hafter
    exact absurd rfl hidle
  · simp [Widget.onmessage] at hempty

/-- The message of an answer is new. -/
theorem Delivery.tidy_typing {message : String} (hd : Delivery s c c' (.typing message) m m') (h : Tidy s)
    (ht : t = { s with
      widget := s.widget.onmessage (.typing message)
      connection := some c'
      interrupted := s.interrupted && !startsAnswer (.typing message) }) : Tidy t := by
  have hafter := hd.after
  obtain ⟨rfl, rfl⟩ : m = .idle ∧ m' = .started := by
    cases m <;> cases hafter
    exact ⟨rfl, rfl⟩
  have hnew : (s.widget.onmessage (.typing message)).messages = s.widget.messages ++ [⟨.agent, ""⟩] := by
    simp only [Widget.onmessage, if_neg (hd.last_ne h (by simp))]
  refine hd.tidy h ht ?_ (fun _ => ⟨_, _, hnew⟩) (fun _ hstarts => ?_) fun _ => rfl
  · rw [hnew, agentTexts_agent, hd.faithful h, addFrame, List.append_assoc]
  · cases hstarts

/-- The last message grows, and so does the last text. -/
theorem Delivery.tidy_chunk {content : String} (hd : Delivery s c c' (.chunk content) m m') (h : Tidy s)
    (hg : Uninterrupted s .deliver) (ht : t = { s with
      widget := s.widget.onmessage (.chunk content)
      connection := some c'
      interrupted := s.interrupted && !startsAnswer (.chunk content) }) : Tidy t := by
  obtain ⟨hfalse, hidle, hcontent, messages, text, hmessages⟩ := hd.message_of_chunk h hg
  have hnew := onmessage_chunk hmessages content
  refine hd.tidy h ht ?_ (fun _ => ⟨messages, text ++ content, hnew⟩) (fun hint => ?_) fun hempty => ?_
  · have hfaithful := hd.faithful h
    rcases List.eq_nil_or_concat (texts c.delivered) with hnil | ⟨ts, text', hts⟩
    · exact absurd hnil (texts_ne_nil hd.before hidle)
    · rw [List.concat_eq_append] at hts
      rw [hmessages, agentTexts_agent, hts, ← List.append_assoc] at hfaithful
      obtain ⟨hinit, htext⟩ := List.append_inj' hfaithful rfl
      cases htext
      rw [hnew, agentTexts_agent, hts, addFrame_chunk, hinit, List.append_assoc]
  · cases hfalse.symm.trans hint
  · rw [hnew] at hempty
    have hnil : text ++ content = "" := by simpa using hempty
    exact absurd (String.append_eq_empty_iff.mp hnil).2 hcontent

theorem Delivery.tidy_done (hd : Delivery s c c' .done m m') (h : Tidy s)
    (ht : t = { s with
      widget := s.widget.onmessage .done
      connection := some c'
      interrupted := s.interrupted && !startsAnswer .done }) : Tidy t := by
  have hafter := hd.after
  obtain ⟨rfl, rfl⟩ : m = .streaming ∧ m' = .idle := by
    cases m <;> cases hafter
    exact ⟨rfl, rfl⟩
  refine hd.tidy h ht (hd.faithful h) (fun hidle => absurd rfl hidle) (fun hint _ => h.interrupted hint) fun hempty => ?_
  exact absurd hempty (hd.last_ne h (by simp))

/-- What a frame changes of the transcript, by where the stream is. -/
theorem Tidy.deliver (h : Tidy s) (hc : s.connection = some c)
    (hs : c.deliver = some (frame, c')) (hg : Uninterrupted s .deliver)
    (ht : t = { s with
      widget := s.widget.onmessage frame
      connection := some c'
      interrupted := s.interrupted && !startsAnswer frame }) : Tidy t := by
  obtain ⟨m, m', hd⟩ := h.exists_delivery hc hs
  cases frame with
  | error message => exact hd.tidy_error h ht
  | typing message => exact hd.tidy_typing h ht
  | chunk content => exact hd.tidy_chunk h hg ht
  | done => exact hd.tidy_done h ht

end

theorem Tidy.openWidget (h : Tidy s) (hclosed : s.isOpen = false) (client : String)
    (ht : t = { s with isOpen := true, connection := some { client := client } }) : Tidy t := by
  have hnone := h.closed hclosed
  subst ht
  refine ⟨nofun, fun x hx => ?_, ?_, fun x m hx hm hidle => ?_, h.interrupted, fun _ x hx => ?_⟩
  · cases hx
    exact Sound.new client
  · have hfaithful := h.faithful
    rw [Faithful, streamed, hnone] at hfaithful
    exact hfaithful
  · cases hx
    cases hm
    exact absurd rfl hidle
  · cases hx
    exact .inr ⟨rfl, rfl, rfl⟩

theorem Tidy.send (h : Tidy s) (hopen : s.isOpen = true) (input : String) (ht : t = { s with
    widget := { s.widget with messages := s.widget.messages ++ [⟨.user, input⟩] }
    connection := s.connection.map (sendText input)
    interrupted := true }) : Tidy t := by
  subst ht
  refine ⟨fun hclosed => ?_, fun x hx => ?_, ?_, fun x m _ _ _ hint => ?_, fun _ => ?_, fun hempty => ?_⟩
  · cases hopen.symm.trans hclosed
  · obtain ⟨c, hc, rfl⟩ := Option.map_eq_some_iff.mp hx
    exact (h.sound c hc).sendText input
  · show agentTexts (s.widget.messages ++ [⟨.user, input⟩]) = s.earlier ++ streamed (s.connection.map (sendText input))
    rw [agentTexts_other (by simp), h.faithful]
    have hsame (c : Connection) : (sendText input c).delivered = c.delivered := by
      unfold sendText
      split <;> rfl
    simp [streamed, Function.comp_def, hsame]
  · cases hint
  · exact ⟨s.widget.messages, ⟨.user, input⟩, rfl, by simp⟩
  · simp at hempty

theorem tidy_step (hs : step s a = some t) (h : Tidy s) (hg : Uninterrupted s a) : Tidy t := by
  cases a <;> simp only [step] at hs
  case openWidget client =>
    split at hs
    · cases hs
    · rename_i hclosed
      cases hs
      exact h.openWidget (by simpa using hclosed) client rfl
  case accepted =>
    split at hs
    · rename_i c hc
      split at hs
      · cases hs
      · cases hs
        refine h.connection rfl rfl rfl rfl rfl ⟨(h.sound c hc).framed, (h.sound c hc).complete⟩ ⟨c, hc, rfl, ?_⟩
        exact or_not
    · cases hs
  case send input =>
    split at hs
    · rename_i hopen
      cases hs
      exact h.send hopen.1 input rfl
    · cases hs
  case serve time =>
    obtain ⟨c, hc, hs⟩ := Option.bind_eq_some_iff.mp hs
    obtain ⟨⟨limits, c'⟩, hserve, hs⟩ := Option.bind_eq_some_iff.mp hs
    cases hs
    obtain ⟨hsound, hdelivered, -, hquestions⟩ := (h.sound c hc).serve hserve
    exact h.connection rfl rfl rfl rfl rfl hsound ⟨c, hc, hdelivered, .inr fun hnil => hquestions hnil.1⟩
  case emit =>
    obtain ⟨c, hc, hs⟩ := Option.bind_eq_some_iff.mp hs
    obtain ⟨c', hemit, hs⟩ := Option.bind_eq_some_iff.mp hs
    cases hs
    obtain ⟨hsound, hdelivered, -, hanswering⟩ := (h.sound c hc).emit hemit
    exact h.connection rfl rfl rfl rfl rfl hsound ⟨c, hc, hdelivered, .inr fun hnil => hanswering hnil.2.2⟩
  case deliver =>
    obtain ⟨c, hc, hs⟩ := Option.bind_eq_some_iff.mp hs
    obtain ⟨⟨frame, c'⟩, hdeliver, hs⟩ := Option.bind_eq_some_iff.mp hs
    cases hs
    exact h.deliver hc hdeliver hg rfl
  case lose =>
    split at hs
    · rename_i c hc
      cases hs
      exact h.disconnected rfl (by simp [streamed, hc]) rfl rfl
    · cases hs
  case closeWidget =>
    split at hs
    · cases hs
      exact h.disconnected rfl rfl rfl rfl
    · cases hs

/-- A chunk that comes after a question is lost. -/
theorem not_faithful (hs : step s a = some t) (h : Tidy s) (hg : ¬ Uninterrupted s a) : ¬ Faithful t := by
  cases a <;> try exact absurd trivial hg
  have hbad : ∃ c content frames, s.connection = some c ∧ c.frames = .chunk content :: frames ∧ s.interrupted = true := by
    by_contra hnone
    refine hg fun c content frames hc hframes => ?_
    by_contra hint
    exact hnone ⟨c, content, frames, hc, hframes, by simpa using hint⟩
  obtain ⟨c, content, frames, hc, hframes, hint⟩ := hbad
  have hdeliver : c.deliver = some (.chunk content, { c with
      frames := frames
      delivered := c.delivered ++ [.chunk content] }) := by
    simp only [Connection.deliver, hframes]
  obtain ⟨hsound, -⟩ := (h.sound c hc).deliver hdeliver
  obtain ⟨m, hm⟩ := (h.sound c hc).mode
  obtain ⟨m', hm'⟩ := hsound.mode
  have hafter : m.after (.chunk content) = some m' := by rw [← modeOf_concat hm, hm']
  have hidle : m ≠ .idle := by
    rintro rfl
    cases hafter
  have hcontent : content ≠ "" := by
    rintro rfl
    cases m <;> cases hafter
  simp only [step, hc, Option.bind_eq_bind, Option.bind_some, hdeliver] at hs
  cases hs
  obtain ⟨messages, last, hmessages, hlast⟩ := h.interrupted hint
  have hfaithful := h.faithful
  rw [Faithful, streamed, hc] at hfaithful
  intro hgood
  have hgood : agentTexts (s.widget.onmessage (.chunk content)).messages =
      s.earlier ++ texts (c.delivered ++ [.chunk content]) := hgood
  rw [onmessage_chunk_lost hmessages hlast, hfaithful, texts_concat] at hgood
  have hsame : texts c.delivered = addFrame (texts c.delivered) (.chunk content) := List.append_cancel_left hgood
  rcases List.eq_nil_or_concat (texts c.delivered) with hnil | ⟨ts, text, hts⟩
  · exact texts_ne_nil hm hidle hnil
  · rw [List.concat_eq_append] at hts
    rw [hts, addFrame_chunk] at hsame
    have htext : text = text ++ content := by simpa using hsame
    exact hcontent (by simpa using congrArg String.toList htext)

end

/-! ### A run -/

theorem tidy_init : Tidy {} := by
  refine ⟨fun _ => rfl, ?_, rfl, ?_, nofun, ?_⟩
  · intro c hc
    cases hc
  · intro c m hc
    cases hc
  · intro hempty
    cases hempty

/-- The transcript has what was streamed in all states of a run, exactly if no chunk comes after a
question that was sent into its answer. -/
theorem transcript_faithful_iff (as : List Act) (s : State) (h : run step free {} as = some s) :
    (∀ past rest t, as = past ++ rest → run step free {} past = some t → Faithful t) ↔
      ∀ past a rest t, as = past ++ a :: rest → run step free {} past = some t → Uninterrupted t a :=
  forall_reached_iff_of_invariant (J := Tidy) h tidy_init (fun ht => ht.faithful) tidy_step not_faithful

/-- A time that a double has. -/
theorem time_exact : 2000 < 2 ^ 53 := by decide

/-- A second question is sent while the answer to the first comes in. -/
def secondQuestion : List Act :=
  [.openWidget "client-1", .accepted, .send "status?", .serve (.ofNat 2000 time_exact), .emit, .deliver,
    .send "and now?", .emit, .deliver]

theorem secondQuestion_cuts_answer :
    ∃ s, run step free {} secondQuestion = some s ∧
      ¬ ∀ past rest t, secondQuestion = past ++ rest → run step free {} past = some t → Faithful t := by
  obtain ⟨content, l, hl⟩ := List.exists_cons_of_ne_nil (chunks_ne_nil (q := "status?"))
  have hanswer : ((response "status?").splitOn " ").map (fun chunk => ChatFrame.chunk (chunk ++ " ")) ++ [ChatFrame.done] =
      .chunk content :: (l.map ChatFrame.chunk ++ [ChatFrame.done]) := by
    rw [← List.cons_append, ← List.map_cons, ← hl, chunks, List.map_map]
    rfl
  have hfirst : run step free {} (secondQuestion.take 6) = some
      { widget := ⟨[greeting, ⟨.user, "status?"⟩, ⟨.agent, ""⟩], true⟩
        isOpen := true
        connection := some
          { client := "client-1"
            ready := true
            answering :=
              ((response "status?").splitOn " ").map (fun chunk => .chunk (chunk ++ " ")) ++ [.done]
            accepted := ["status?"]
            delivered := [.typing "Agent is thinking..."] }
        limits := (chatStep (Function.update noLimits "client-1" []) ⟨"client-1", "status?", .ofNat 2000 time_exact⟩).1 } :=
    rfl
  rw [hanswer] at hfirst
  obtain ⟨s₁, hs₁, hfirst⟩ : ∃ s₁, s₁ = _ ∧ run step free {} (secondQuestion.take 6) = some s₁ := ⟨_, rfl, hfirst⟩
  have hthen (as : List Act) : run step free {} (secondQuestion.take 6 ++ as) = run step free s₁ as := by
    rw [run_append, hfirst, Option.bind_some]
  subst hs₁
  have hrun : run step free {} secondQuestion = some _ := (hthen [.send "and now?", .emit, .deliver]).trans rfl
  have hbefore : run step free {} (secondQuestion.take 8) = some _ := (hthen [.send "and now?", .emit]).trans rfl
  refine ⟨_, hrun, fun hgood => ?_⟩
  have hguard := (transcript_faithful_iff secondQuestion _ hrun).mp hgood
  have hint := hguard (secondQuestion.take 8) .deliver [] _ rfl hbefore _ content [] rfl rfl
  cases hint

/-- Once all frames of the connection have arrived, the agent's last messages are the whole answers to
the questions that it accepted, in their order. -/
theorem answers_whole (s : State) (h : Reach step Uninterrupted {} s) (c : Connection) (hc : s.connection = some c)
    (hframes : c.frames = []) (hanswering : c.answering = []) :
    agentTexts s.widget.messages = s.earlier ++ c.accepted.map fun q => response q ++ " " := by
  have htidy : Tidy s := h.invariant tidy_init fun hg hs ht => tidy_step hs ht hg
  have hcomplete := (htidy.sound c hc).complete
  rw [Connection.allFrames, hframes, hanswering, List.append_nil, List.append_nil] at hcomplete
  have hfaithful := htidy.faithful
  rw [Faithful, streamed, hc] at hfaithful
  rw [hfaithful, ← hcomplete]
  rfl

/-- An answer into which no question is sent arrives. -/
theorem answer_arrives {s : State} {c : Connection} (hc : s.connection = some c) (hframes : c.frames = [])
    (hfree : s.interrupted = false ∨ ∃ message l, c.answering = .typing message :: l) :
    ∃ t c', Reach step Uninterrupted s t ∧ t.connection = some c' ∧ c'.frames = [] ∧ c'.answering = [] ∧
      c'.accepted = c.accepted ∧ t.earlier = s.earlier := by
  generalize hl : c.answering = l
  induction l generalizing s c with
  | nil => exact ⟨s, c, .refl, hc, hframes, hl, rfl, rfl⟩
  | cons frame l ih =>
    have hemit : step s .emit = some { s with connection := some { c with answering := l, frames := [frame] } } := by
      simp [step, hc, Connection.emit, hl, hframes]
    have hguard : Uninterrupted { s with connection := some { c with answering := l, frames := [frame] } } .deliver := by
      intro x content rest hx hrest
      cases hx
      cases hrest
      rcases hfree with hint | ⟨message, l', hl'⟩
      · exact hint
      · cases hl.symm.trans hl'
    have hfalse : (s.interrupted && !startsAnswer frame) = false := by
      rcases hfree with hint | ⟨message, l', hl'⟩
      · rw [hint]
        rfl
      · cases hl.symm.trans hl'
        simp [startsAnswer]
    obtain ⟨t, c', ht, hc', hframes', hanswering, haccepted, hearlier⟩ := ih
      (s := { s with
        widget := s.widget.onmessage frame
        connection := some { c with answering := l, frames := [], delivered := c.delivered ++ [frame] }
        interrupted := s.interrupted && !startsAnswer frame }) rfl rfl (.inl hfalse) rfl
    exact ⟨t, c', ((Reach.refl.tail trivial hemit).tail hguard rfl).trans ht, hc', hframes', hanswering, haccepted,
      hearlier⟩

theorem one_question_answered :
    ∃ s, Reach step Uninterrupted {} s ∧ agentTexts s.widget.messages = [response "status?" ++ " "] := by
  obtain ⟨s, hs, hearlier₀, hserved⟩ : ∃ s : State, s.connection = some
      { client := "client-1"
        ready := true
        answering := answer "status?"
        accepted := ["status?"] } ∧ s.earlier = [] ∧ Reach step Uninterrupted {} s := by
    refine ⟨_, ?_, ?_, (((Reach.refl.tail (a := Act.openWidget "client-1") trivial rfl).tail (a := Act.accepted) trivial
      rfl).tail (a := Act.send "status?") trivial rfl).tail (a := Act.serve (.ofNat 2000 time_exact)) trivial rfl⟩
    · rfl
    · rfl
  obtain ⟨t, c, ht, hc, hframes, hanswering, haccepted, hearlier⟩ := answer_arrives hs rfl (.inr ⟨_, _, rfl⟩)
  refine ⟨t, hserved.trans ht, ?_⟩
  rw [answers_whole t (hserved.trans ht) c hc hframes hanswering, haccepted, hearlier, hearlier₀]
  rfl

end OverviewChat
end SocFabric
