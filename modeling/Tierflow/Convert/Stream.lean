import Tierflow.Foundation.Blocks

/-! An OpenAI stream turned into a Claude stream, chunk by chunk. The converter remembers which block is open,
and for parallel tool calls the number of the first one and the greatest offset from it. -/
namespace Tierflow
namespace Convert
open Blocks (Event)

/-! ## Chunks -/

structure Usage where
  promptTokens : ℤ
  completionTokens : ℤ
  cachedCreationTokens : ℤ
  cachedTokens : ℤ
  claudeCacheCreation5mTokens : ℤ
  claudeCacheCreation1hTokens : ℤ
  deriving DecidableEq, Repr

structure ToolCall where
  index : Option ℤ
  id : String
  name : String
  arguments : String
  deriving DecidableEq, Repr

structure Delta where
  content : Option String
  reasoningContent : Option String
  reasoning : Option String
  toolCalls : List ToolCall
  deriving DecidableEq, Repr

structure Choice where
  delta : Delta
  finishReason : Option String
  deriving DecidableEq, Repr

structure StreamResponse where
  id : String
  model : String
  choices : List Choice
  usage : Option Usage
  deriving DecidableEq, Repr

def Delta.getContentString (d : Delta) : String := d.content.getD ""

def Delta.getReasoningContent (d : Delta) : String := (d.reasoningContent.or d.reasoning).getD ""

/-- A finish reason that is not empty. -/
def Choice.finished (c : Choice) : Bool := c.finishReason.getD "" != ""

/-! ## Events -/

structure ClaudeUsage where
  inputTokens : ℤ
  outputTokens : ℤ
  cacheCreationInputTokens : ℤ
  cacheReadInputTokens : ℤ
  cacheCreation : Option (ℤ × ℤ)
  deriving DecidableEq, Repr

inductive ContentBlock
  | text
  | thinking
  | toolUse (id name : String)
  deriving DecidableEq, Repr

inductive ContentDelta
  | text (s : String)
  | thinking (s : String)
  | inputJson (s : String)
  deriving DecidableEq, Repr

/-- A delta belongs to blocks of one type. -/
def ContentBlock.fits : ContentBlock → ContentDelta → Bool
  | .text,.text _ | .thinking,.thinking _ | .toolUse _ _,.inputJson _ => true
  | _,_ => false

inductive ClaudeEvent
  | messageStart (id model : String) (inputTokens : ℤ)
  | block (e : Event ContentBlock ContentDelta)
  | messageDelta (stopReason : String) (usage : ClaudeUsage)
  | messageStop
  deriving DecidableEq, Repr

def startBlock (i : ℤ) (b : ContentBlock) : ClaudeEvent := .block (.start i b)

def deltaBlock (i : ℤ) (d : ContentDelta) : ClaudeEvent := .block (.delta i d)

def generateStopBlock (i : ℤ) : ClaudeEvent := .block (.stop i)

def normalizeCacheCreationSplit (totalTokens tokens5m tokens1h : ℤ) : ℤ × ℤ :=
  let remainder := max (totalTokens-tokens5m-tokens1h) 0
  (tokens5m+remainder,tokens1h)

def buildClaudeUsageFromOpenAIUsage (u : Usage) : ClaudeUsage :=
  let (cacheCreation5m,cacheCreation1h) := normalizeCacheCreationSplit u.cachedCreationTokens
    u.claudeCacheCreation5mTokens u.claudeCacheCreation1hTokens
  { inputTokens := u.promptTokens
    outputTokens := u.completionTokens
    cacheCreationInputTokens := u.cachedCreationTokens
    cacheReadInputTokens := u.cachedTokens
    cacheCreation :=
      if 0 < cacheCreation5m ∨ 0 < cacheCreation1h then some (cacheCreation5m,cacheCreation1h) else none }

/-- Lower case, as far as the letters of the finish reasons are concerned. -/
def toLower (s : String) : String :=
  s.map (fun c => if c = '\u212a' then 'k' else if c = '\u0130' then 'i' else c.toLower)

def stopReasonOpenAI2Claude (finishReason : String) : String :=
  match toLower finishReason with
  | "stop" => "end_turn"
  | "stop_sequence" => "stop_sequence"
  | "length" => "max_tokens"
  | "max_tokens" => "max_tokens"
  | "content_filter" => "refusal"
  | "tool_calls" => "tool_use"
  | _ => finishReason

/-! ## Tool calls -/

/-- The offset of a tool call is its index, or its place in the chunk. -/
def toolOffset (i : ℕ) (t : ToolCall) : ℤ := t.index.getD i

/-- A named call starts a block. -/
def toolEvent (blockIndex : ℤ) (t : ToolCall) : List ClaudeEvent :=
  (if t.name≠"" then [startBlock blockIndex (.toolUse t.id t.name)] else [])++
    if t.arguments≠"" then [deltaBlock blockIndex (.inputJson t.arguments)] else []

def toolEvents (base : ℤ) : ℕ → List ToolCall → List ClaudeEvent
  | _,[] => []
  | i,t::ts => toolEvent (base+toolOffset i t) t++toolEvents base (i+1) ts

def maxOffset (m : ℤ) : ℕ → List ToolCall → ℤ
  | _,[] => m
  | i,t::ts => maxOffset (max m (toolOffset i t)) (i+1) ts

lemma le_maxOffset (m : ℤ) (i : ℕ) (ts : List ToolCall) : m ≤ maxOffset m i ts := by
  induction ts generalizing m i with
  | nil => exact le_rfl
  | cons t ts ih => exact (le_max_left _ _).trans (ih _ _)

/-! ## The converter -/

inductive MessageType
  | none
  | text
  | tools
  | thinking
  deriving DecidableEq, Repr

structure ConvertInfo where
  lastMessagesType : MessageType
  index : ℤ
  usage : Option Usage
  finishReason : String
  done : Bool
  toolCallBaseIndex : ℤ
  toolCallMaxIndexOffset : ℤ
  deriving DecidableEq, Repr

/-- The state in which a request starts. -/
def ConvertInfo.init : ConvertInfo := ⟨.none,0,none,"",false,0,0⟩

namespace ConvertInfo

def withUsage (c : ConvertInfo) (usage : Option Usage) : ConvertInfo := { c with usage := usage }

/-- The ends of the open blocks; of the tools, all up to the greatest offset. -/
def stopOpenBlocks (c : ConvertInfo) : List ClaudeEvent :=
  match c.lastMessagesType with
  | .none => []
  | .text | .thinking => [generateStopBlock c.index]
  | .tools => (List.range (c.toolCallMaxIndexOffset+1).toNat).map
      (fun offset : ℕ => generateStopBlock (c.toolCallBaseIndex+(offset : ℤ)))

/-- The state once the open blocks are closed: the next block gets the next free number. -/
def advance (c : ConvertInfo) : ConvertInfo :=
  match c.lastMessagesType with
  | .none => c
  | .text | .thinking => { c with lastMessagesType := .none, index := c.index+1 }
  | .tools =>
    { c with
      lastMessagesType := .none
      index := c.toolCallBaseIndex+c.toolCallMaxIndexOffset+1
      toolCallBaseIndex := 0
      toolCallMaxIndexOffset := 0 }

def stopOpenBlocksAndAdvance (c : ConvertInfo) : ConvertInfo × List ClaudeEvent := (c.advance,c.stopOpenBlocks)

/-- The end of the message; its delta is left out when no usage is known. -/
def closeMessage (c : ConvertInfo) (usage : Option Usage) (stopReason : String) : ConvertInfo × List ClaudeEvent :=
  ({ c with done := true },
    c.stopOpenBlocks++
      (usage.map (fun u => ClaudeEvent.messageDelta stopReason (buildClaudeUsageFromOpenAIUsage u))).toList++
      [.messageStop])

/-! ### The first chunk -/

/-- Only the first tool call of the first chunk is looked at. -/
def firstToolCall (c : ConvertInfo) (ts : List ToolCall) : ConvertInfo × List ClaudeEvent :=
  match ts with
  | [] => (c,[])
  | t::_ =>
    ({ c with lastMessagesType := .tools, toolCallBaseIndex := 0, toolCallMaxIndexOffset := 0 },
      startBlock 0 (.toolUse t.id t.name)::
        if t.arguments≠"" then [deltaBlock 0 (.inputJson t.arguments)] else [])

def firstBlock (c : ConvertInfo) (type : MessageType) (b : ContentBlock) (d : ContentDelta) :
    ConvertInfo × List ClaudeEvent :=
  let (c,es) := if c.lastMessagesType≠type then c.stopOpenBlocksAndAdvance else (c,[])
  ({ c with lastMessagesType := type },es++[startBlock c.index b,deltaBlock c.index d])

lemma firstBlock_of_ne {c : ConvertInfo} {type : MessageType} (h : c.lastMessagesType≠type) (b : ContentBlock)
    (d : ContentDelta) : c.firstBlock type b d = ({ c.advance with lastMessagesType := type },
      c.stopOpenBlocks++[startBlock c.advance.index b,deltaBlock c.advance.index d]) := by
  unfold firstBlock stopOpenBlocksAndAdvance
  simp [h]

/-- Content is not looked at beside reasoning. -/
def firstContent (c : ConvertInfo) (d : Delta) : ConvertInfo × List ClaudeEvent :=
  if d.getReasoningContent≠"" then c.firstBlock .thinking .thinking (.thinking d.getReasoningContent)
  else if d.getContentString≠"" then c.firstBlock .text .text (.text d.getContentString)
  else (c,[])

def firstBlocks (c : ConvertInfo) (d : Delta) : ConvertInfo × List ClaudeEvent :=
  let (c,es) := c.firstToolCall d.toolCalls
  let (c,fs) := c.firstContent d
  (c,es++fs)

def firstResponse (c : ConvertInfo) (estimate : ℤ) (r : StreamResponse) : ConvertInfo × List ClaudeEvent :=
  let start := ClaudeEvent.messageStart r.id r.model estimate
  match r.choices with
  | [] => (c,[start])
  | choice::_ =>
    let (c,es) := c.firstBlocks choice.delta
    if choice.finished then
      let c := { c with finishReason := choice.finishReason.getD "" }
      let (c,fs) := c.closeMessage (r.usage.or c.usage) (stopReasonOpenAI2Claude c.finishReason)
      (c,start::es++fs)
    else (c,start::es)

/-! ### Later chunks -/

def laterToolCalls (c : ConvertInfo) (ts : List ToolCall) : ConvertInfo × List ClaudeEvent :=
  let (c,es) :=
    if c.lastMessagesType≠.tools then
      let (c,es) := c.stopOpenBlocksAndAdvance
      ({ c with toolCallBaseIndex := c.index, toolCallMaxIndexOffset := 0 },es)
    else (c,[])
  let base := c.toolCallBaseIndex
  let m := maxOffset c.toolCallMaxIndexOffset 0 ts
  ({ c with lastMessagesType := .tools, toolCallMaxIndexOffset := m, index := base+m },es++toolEvents base 0 ts)

def laterBlock (c : ConvertInfo) (type : MessageType) (b : ContentBlock) (d : ContentDelta) :
    ConvertInfo × List ClaudeEvent :=
  let (c,es) :=
    if c.lastMessagesType≠type then
      let (c,es) := c.stopOpenBlocksAndAdvance
      (c,es++[startBlock c.index b])
    else (c,[])
  ({ c with lastMessagesType := type },es++[deltaBlock c.index d])

section Later
variable {c : ConvertInfo}

lemma laterToolCalls_of_eq (h : c.lastMessagesType = .tools) (ts : List ToolCall) : c.laterToolCalls ts =
    ({ c with
      lastMessagesType := .tools
      toolCallMaxIndexOffset := maxOffset c.toolCallMaxIndexOffset 0 ts
      index := c.toolCallBaseIndex+maxOffset c.toolCallMaxIndexOffset 0 ts },
      toolEvents c.toolCallBaseIndex 0 ts) := by
  unfold laterToolCalls
  simp [h]

lemma laterToolCalls_of_ne (h : c.lastMessagesType≠.tools) (ts : List ToolCall) : c.laterToolCalls ts =
    ({ c.advance with
      lastMessagesType := .tools
      toolCallBaseIndex := c.advance.index
      toolCallMaxIndexOffset := maxOffset 0 0 ts
      index := c.advance.index+maxOffset 0 0 ts },
      c.stopOpenBlocks++toolEvents c.advance.index 0 ts) := by
  unfold laterToolCalls stopOpenBlocksAndAdvance
  simp [h]

variable {type : MessageType} (b : ContentBlock) (d : ContentDelta)

lemma laterBlock_of_eq (h : c.lastMessagesType = type) : c.laterBlock type b d = (c,[deltaBlock c.index d]) := by
  unfold laterBlock
  subst h
  simp

lemma laterBlock_of_ne (h : c.lastMessagesType≠type) : c.laterBlock type b d =
    ({ c.advance with lastMessagesType := type },
      c.stopOpenBlocks++[startBlock c.advance.index b,deltaBlock c.advance.index d]) := by
  unfold laterBlock stopOpenBlocksAndAdvance
  simp [h]

end Later

/-- Content is not looked at beside reasoning, and neither is beside tool calls. -/
def laterContent (c : ConvertInfo) (d : Delta) : ConvertInfo × List ClaudeEvent :=
  if d.toolCalls≠[] then c.laterToolCalls d.toolCalls
  else if d.getReasoningContent≠"" then c.laterBlock .thinking .thinking (.thinking d.getReasoningContent)
  else if d.getContentString≠"" then c.laterBlock .text .text (.text d.getContentString)
  else (c,[])

/-- A chunk without choices closes the message once a usage is known. -/
def usageResponse (c : ConvertInfo) (usage : Option Usage) : ConvertInfo × List ClaudeEvent :=
  if (usage.or c.usage).isSome then
    let stopReason := stopReasonOpenAI2Claude c.finishReason
    c.closeMessage (usage.or c.usage) (if stopReason = "" then "end_turn" else stopReason)
  else (c,[])

/-- A chunk that finishes without a usage of its own only leaves its reason: the usage may still follow. -/
def choiceResponse (c : ConvertInfo) (choice : Choice) (usage : Option Usage) : ConvertInfo × List ClaudeEvent :=
  let c := if choice.finished then { c with finishReason := choice.finishReason.getD "" } else c
  if choice.finished ∧ usage = none then (c,[])
  else
    let (c,es) := c.laterContent choice.delta
    if choice.finished then
      let (c,fs) := c.closeMessage (usage.or c.usage) (stopReasonOpenAI2Claude c.finishReason)
      (c,es++fs)
    else (c,es)

/-- `count` is the number of responses sent, this one included. -/
def streamResponseOpenAI2Claude (c : ConvertInfo) (count : ℕ) (estimate : ℤ) (r : StreamResponse) :
    ConvertInfo × List ClaudeEvent :=
  if c.done then (c,[])
  else if count = 1 then c.firstResponse estimate r
  else
    match r.choices with
    | [] => c.usageResponse r.usage
    | choice::_ => c.choiceResponse choice r.usage

section Keeps
variable (c : ConvertInfo)

lemma mem_stopOpenBlocks {e : ClaudeEvent} (he : e∈c.stopOpenBlocks) : ∃ i, e = generateStopBlock i := by
  unfold stopOpenBlocks at he
  cases hc : c.lastMessagesType <;> rw [hc] at he
  · contradiction
  · exact ⟨_,List.mem_singleton.mp he⟩
  · obtain ⟨o,-,rfl⟩ := List.mem_map.mp he
    exact ⟨_,rfl⟩
  · exact ⟨_,List.mem_singleton.mp he⟩

/-- Writing blocks does not touch what belongs to the message. -/
structure Keeps (c c' : ConvertInfo) : Prop where
  done : c'.done = c.done
  usage : c'.usage = c.usage
  finishReason : c'.finishReason = c.finishReason

lemma keeps_advance : c.Keeps c.advance := by
  unfold advance
  split <;> exact ⟨rfl,rfl,rfl⟩

lemma keeps_laterContent (d : Delta) : c.Keeps (c.laterContent d).1 := by
  have h := c.keeps_advance
  unfold laterContent laterToolCalls laterBlock stopOpenBlocksAndAdvance
  split_ifs
  all_goals first | exact ⟨rfl,rfl,rfl⟩ | exact ⟨h.done,h.usage,h.finishReason⟩

lemma keeps_firstToolCall (ts : List ToolCall) : c.Keeps (c.firstToolCall ts).1 := by
  cases ts <;> exact ⟨rfl,rfl,rfl⟩

lemma keeps_firstContent (d : Delta) : c.Keeps (c.firstContent d).1 := by
  have h := c.keeps_advance
  unfold firstContent firstBlock stopOpenBlocksAndAdvance
  split_ifs
  all_goals first | exact ⟨rfl,rfl,rfl⟩ | exact ⟨h.done,h.usage,h.finishReason⟩

lemma keeps_firstBlocks (d : Delta) : c.Keeps (c.firstBlocks d).1 := by
  have h := c.keeps_firstToolCall d.toolCalls
  have h' := (c.firstToolCall d.toolCalls).1.keeps_firstContent d
  exact ⟨h'.done.trans h.done,h'.usage.trans h.usage,h'.finishReason.trans h.finishReason⟩

end Keeps

section Response
variable {c : ConvertInfo} {count : ℕ} {estimate : ℤ} {r : StreamResponse} {choice : Choice} {choices : List Choice}

lemma response_of_done (h : c.done = true) : c.streamResponseOpenAI2Claude count estimate r = (c,[]) := by
  unfold streamResponseOpenAI2Claude
  rw [if_pos h]

lemma response_first_nil (h : c.done = false) (hr : r.choices = []) :
    c.streamResponseOpenAI2Claude 1 estimate r = (c,[.messageStart r.id r.model estimate]) := by
  unfold streamResponseOpenAI2Claude firstResponse
  rw [h,if_neg (by simp),if_pos rfl,hr]

lemma response_first_goes (h : c.done = false) (hr : r.choices = choice::choices) (hf : choice.finished = false) :
    c.streamResponseOpenAI2Claude 1 estimate r =
      ((c.firstBlocks choice.delta).1,.messageStart r.id r.model estimate::(c.firstBlocks choice.delta).2) := by
  unfold streamResponseOpenAI2Claude firstResponse
  rw [h,if_neg (by simp),if_pos rfl,hr]
  simp only
  rw [if_neg (by simp [hf])]

lemma response_first_closes (h : c.done = false) (hr : r.choices = choice::choices) (hf : choice.finished = true) :
    c.streamResponseOpenAI2Claude 1 estimate r =
      let c' := { (c.firstBlocks choice.delta).1 with finishReason := choice.finishReason.getD "" }
      let p := c'.closeMessage (r.usage.or c'.usage) (stopReasonOpenAI2Claude c'.finishReason)
      (p.1,.messageStart r.id r.model estimate::(c.firstBlocks choice.delta).2++p.2) := by
  unfold streamResponseOpenAI2Claude firstResponse
  rw [h,if_neg (by simp),if_pos rfl,hr]
  simp only
  rw [if_pos hf]

lemma response_usage (h : c.done = false) (hcount : count≠1) (hr : r.choices = []) :
    c.streamResponseOpenAI2Claude count estimate r = c.usageResponse r.usage := by
  unfold streamResponseOpenAI2Claude
  rw [h,if_neg (by simp),if_neg hcount,hr]

lemma response_choice (h : c.done = false) (hcount : count≠1) (hr : r.choices = choice::choices) :
    c.streamResponseOpenAI2Claude count estimate r = c.choiceResponse choice r.usage := by
  unfold streamResponseOpenAI2Claude
  rw [h,if_neg (by simp),if_neg hcount,hr]

lemma choiceResponse_goes (hf : choice.finished = false) (usage : Option Usage) :
    c.choiceResponse choice usage = c.laterContent choice.delta := by
  unfold choiceResponse
  simp [hf]

lemma choiceResponse_waits (hf : choice.finished = true) :
    c.choiceResponse choice none = ({ c with finishReason := choice.finishReason.getD "" },[]) := by
  unfold choiceResponse
  simp [hf]

lemma choiceResponse_closes (hf : choice.finished = true) (u : Usage) :
    c.choiceResponse choice (some u) =
      let p := { c with finishReason := choice.finishReason.getD "" }.laterContent choice.delta
      let q := p.1.closeMessage (some u) (stopReasonOpenAI2Claude p.1.finishReason)
      (q.1,p.2++q.2) := by
  unfold choiceResponse
  simp [hf]

lemma usage_closeMessage (usage : Option Usage) (reason : String) :
    (c.closeMessage usage reason).1.usage = c.usage := rfl

lemma usage_response : (c.streamResponseOpenAI2Claude count estimate r).1.usage = c.usage := by
  cases hd : c.done with
  | true => rw [response_of_done hd]
  | false =>
    by_cases hcount : count = 1
    · subst count
      cases hr : r.choices with
      | nil => rw [response_first_nil hd hr]
      | cons choice choices =>
        cases hf : choice.finished with
        | false =>
          rw [response_first_goes hd hr hf]
          exact (c.keeps_firstBlocks choice.delta).usage
        | true =>
          rw [response_first_closes hd hr hf]
          exact (c.keeps_firstBlocks choice.delta).usage
    · cases hr : r.choices with
      | nil =>
        rw [response_usage hd hcount hr]
        unfold usageResponse
        split_ifs <;> rfl
      | cons choice choices =>
        rw [response_choice hd hcount hr]
        unfold choiceResponse
        have h := fun c => (keeps_laterContent c choice.delta).usage
        split_ifs <;> first | rfl | exact h _

end Response

end ConvertInfo

/-! ## The handler -/

/-- The converter, the number of responses sent, the chunk that is held back and the events written. -/
structure StreamState where
  convert : ConvertInfo
  sendResponseCount : ℕ
  lastStreamData : Option StreamResponse
  sent : List ClaudeEvent
  deriving DecidableEq, Repr

def StreamState.init : StreamState := ⟨.init,0,none,[]⟩

namespace StreamState

def send (s : StreamState) (estimate : ℤ) (r : StreamResponse) : StreamState :=
  let (c,es) := s.convert.streamResponseOpenAI2Claude s.sendResponseCount estimate r
  { s with convert := c, sent := s.sent++es }

def handleClaudeFormat (s : StreamState) (estimate : ℤ) (r : StreamResponse) : StreamState :=
  { s with convert := s.convert.withUsage (r.usage.or s.convert.usage) }.send estimate r

def handleStreamFormat (s : StreamState) (estimate : ℤ) (r : StreamResponse) : StreamState :=
  { s with sendResponseCount := s.sendResponseCount+1 }.handleClaudeFormat estimate r

/-- Every chunk is held back until the next one arrives. -/
def scanChunk (estimate : ℤ) (s : StreamState) (r : StreamResponse) : StreamState :=
  { (match s.lastStreamData with
    | none => s
    | some last => s.handleStreamFormat estimate last) with lastStreamData := some r }

/-- The chunk held back at the end is not counted as a response. -/
def handleFinalResponse (s : StreamState) (estimate : ℤ) (usage : Usage) : StreamState :=
  match s.lastStreamData with
  | none => s
  | some last =>
    let s := { s with convert := s.convert.withUsage (some usage) }.send estimate last
    { s with convert := { s.convert with done := true } }

section Format
variable {s : StreamState} {estimate : ℤ} {r : StreamResponse}

lemma sent_handleStreamFormat : (s.handleStreamFormat estimate r).sent = s.sent++
    ((s.convert.withUsage (r.usage.or s.convert.usage)).streamResponseOpenAI2Claude
      (s.sendResponseCount+1) estimate r).2 := rfl

lemma convert_handleStreamFormat : (s.handleStreamFormat estimate r).convert =
    ((s.convert.withUsage (r.usage.or s.convert.usage)).streamResponseOpenAI2Claude
      (s.sendResponseCount+1) estimate r).1 := rfl

end Format

end StreamState

/-- The events of a stream, with the usage that was found or estimated at its end. -/
def oaiStreamHandler (estimate : ℤ) (usage : Usage) (chunks : List StreamResponse) : List ClaudeEvent :=
  ((chunks.foldl (StreamState.scanChunk estimate) .init).handleFinalResponse estimate usage).sent

end Convert
end Tierflow
