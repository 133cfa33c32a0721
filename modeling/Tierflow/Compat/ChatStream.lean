import Tierflow.Compat.Responses

/-! A streamed chat completion as a stream of events of the Responses API: an item is announced when its first piece
arrives, and all items are closed at the end. -/
namespace Tierflow
namespace Compat

/-! ## Chunks -/

structure ToolCallPiece where
  index : Option ℤ
  id : String
  name : String
  arguments : String
  deriving DecidableEq, Repr

structure Delta where
  content : Option String
  toolCalls : List ToolCallPiece
  deriving DecidableEq, Repr

structure Chunk where
  model : String
  usage : Option Usage
  choices : List Delta
  deriving DecidableEq, Repr

/-- The slot of the message's calls that a piece belongs to. -/
def ToolCallPiece.slot (tc : ToolCallPiece) : ℤ := tc.index.getD 0

/-! ## Events -/

/-- The counts as the events show them. -/
structure ResponsesUsage where
  inputTokens : ℤ
  outputTokens : ℤ
  totalTokens : ℤ
  cachedTokens : ℤ
  reasoningTokens : ℤ
  deriving DecidableEq, Repr

def responsesUsageMap (u : Usage) : ResponsesUsage :=
  let input := if u.inputTokens = 0 then u.promptTokens else u.inputTokens
  let output := if u.outputTokens = 0 then u.completionTokens else u.outputTokens
  ⟨input,output,if u.totalTokens = 0 then input+output else u.totalTokens,u.promptTokensDetails.cachedTokens,
    u.completionTokenDetails.reasoningTokens⟩

inductive Event
  | created (model : String)
  | inProgress (model : String)
  | itemAdded (outputIndex : ℕ) (item : ResponsesOutput)
  | partAdded (itemId : String) (outputIndex : ℕ)
  | textDelta (itemId : String) (outputIndex : ℕ) (delta : String)
  | argumentsDelta (itemId : String) (outputIndex : ℕ) (delta : String)
  | textDone (itemId : String) (outputIndex : ℕ) (text : String)
  | partDone (itemId : String) (outputIndex : ℕ) (text : String)
  | argumentsDone (itemId : String) (outputIndex : ℕ) (arguments : String)
  | itemDone (outputIndex : ℕ) (item : ResponsesOutput)
  | completed (model : String) (output : List ResponsesOutput) (usage : ResponsesUsage)
  deriving DecidableEq, Repr

/-- The item that an event is about. -/
def Event.outputIndex? : Event → Option ℕ
  | .created _ | .inProgress _ | .completed _ _ _ => none
  | .itemAdded k _ | .partAdded _ k | .textDelta _ k _ | .argumentsDelta _ k _ | .textDone _ k _ | .partDone _ k _
  | .argumentsDone _ k _ | .itemDone k _ => some k

def messageItem (id status : String) (content : List ResponsesOutputContent) : ResponsesOutput :=
  ⟨"message",id,status,"assistant",content,"","","",.absent⟩

def callItem (id status callId name namespaceName arguments : String) : ResponsesOutput :=
  ⟨"function_call",id,status,"",[],callId,name,namespaceName,.string arguments⟩

/-! ## Open items -/

structure TextItem where
  outputIndex : ℕ
  itemId : String
  text : String
  deriving DecidableEq, Repr

structure ToolState where
  outputIndex : ℕ
  itemId : String
  callId : String
  name : String
  namespaceName : String
  args : String
  deriving DecidableEq, Repr

section
variable (respId : String)

def TextItem.fresh (outputIndex : ℕ) : TextItem := ⟨outputIndex,"msg_"++respId,""⟩

def ToolState.fresh (outputIndex : ℕ) (tc : ToolCallPiece) : ToolState :=
  let itemId := "fc_"++respId++"_"++Text.printNat outputIndex
  let name := (decodeResponsesNamespaceToolName tc.name).getD ("",tc.name)
  ⟨outputIndex,itemId,if tc.id = "" then itemId else tc.id,name.2,name.1,""⟩

end

def ToolState.setCallId (st : ToolState) (tc : ToolCallPiece) : ToolState :=
  if tc.id≠"" ∧ st.callId = st.itemId then { st with callId := tc.id } else st

/-- A name that was late; what it has of a namespace comes with it. -/
def ToolState.setName (st : ToolState) (tc : ToolCallPiece) : ToolState :=
  if tc.name≠"" ∧ st.name = "" then
    match decodeResponsesNamespaceToolName tc.name with
    | some (namespaceName,name) => { st with namespaceName := namespaceName, name := name }
    | none => { st with name := tc.name }
  else st

def ToolState.addArguments (st : ToolState) (tc : ToolCallPiece) : ToolState :=
  if tc.arguments≠"" then { st with args := st.args++tc.arguments } else st

def ToolState.absorb (st : ToolState) (tc : ToolCallPiece) : ToolState :=
  ((st.setCallId tc).setName tc).addArguments tc

def TextItem.item (t : TextItem) : ResponsesOutput := messageItem t.itemId "completed" [⟨"output_text",t.text⟩]

def ToolState.item (st : ToolState) : ResponsesOutput :=
  callItem st.itemId "completed" st.callId st.name st.namespaceName st.args

def TextItem.announced (t : TextItem) : List Event :=
  [.itemAdded t.outputIndex (messageItem t.itemId "in_progress" []),.partAdded t.itemId t.outputIndex]

def ToolState.announced (st : ToolState) : List Event :=
  [.itemAdded st.outputIndex (callItem st.itemId "in_progress" st.callId st.name st.namespaceName "")]

def TextItem.done (t : TextItem) : List Event :=
  [.textDone t.itemId t.outputIndex t.text,.partDone t.itemId t.outputIndex t.text,.itemDone t.outputIndex t.item]

def ToolState.done (st : ToolState) : List Event :=
  [.argumentsDone st.itemId st.outputIndex st.args,.itemDone st.outputIndex st.item]

def ToolState.delta (st : ToolState) (tc : ToolCallPiece) : List Event :=
  if tc.arguments≠"" then [.argumentsDelta st.itemId st.outputIndex tc.arguments] else []

/-! ## The handler -/

/-- `tools` has the open calls by slot, in the order in which they were opened. -/
structure StreamState where
  sentCreated : Bool
  model : String
  usage : Usage
  nextOutputIndex : ℕ
  textItem : Option TextItem
  usageText : String
  tools : List (ℤ × ToolState)
  sent : List Event
  deriving DecidableEq, Repr

def StreamState.init (model : String) : StreamState := ⟨false,model,.zero,0,none,"",[],[]⟩

def StreamState.ensureCreated (s : StreamState) : StreamState :=
  if s.sentCreated then s
  else { s with sentCreated := true, sent := s.sent++[.created s.model,.inProgress s.model] }

section
variable (respId : String)

def StreamState.openText (s : StreamState) : StreamState × TextItem :=
  match s.textItem with
  | some t => (s,t)
  | none =>
    let t := TextItem.fresh respId s.nextOutputIndex
    ({ s with nextOutputIndex := s.nextOutputIndex+1, textItem := some t, sent := s.sent++t.announced },t)

def StreamState.text (s : StreamState) (delta : String) : StreamState :=
  let (s,t) := s.openText respId
  { s with
    textItem := some { t with text := t.text++delta }
    usageText := s.usageText++delta
    sent := s.sent++[.textDelta t.itemId t.outputIndex delta] }

def StreamState.openTool (s : StreamState) (tc : ToolCallPiece) : StreamState × ToolState :=
  match s.tools.find? (fun p => p.1 = tc.slot) with
  | some p => (s,p.2)
  | none =>
    let st := ToolState.fresh respId s.nextOutputIndex tc
    ({ s with
        nextOutputIndex := s.nextOutputIndex+1
        tools := s.tools++[(tc.slot,st)]
        sent := s.sent++st.announced },st)

def StreamState.toolCall (s : StreamState) (tc : ToolCallPiece) : StreamState :=
  let (s,st) := s.openTool respId tc
  { s with
    tools := s.tools.map (fun p => if p.1 = tc.slot then (p.1,p.2.absorb tc) else p)
    usageText := if tc.arguments≠"" then s.usageText++tc.arguments else s.usageText
    sent := s.sent++st.delta tc }

def StreamState.choice (s : StreamState) (d : Delta) : StreamState :=
  d.toolCalls.foldl (StreamState.toolCall respId)
    (match d.content with
    | none => s
    | some delta => if delta = "" then s else s.text respId delta)

def StreamState.chunk (s : StreamState) (c : Chunk) : StreamState :=
  c.choices.foldl (StreamState.choice respId)
    { s with
      model := if c.model≠"" then c.model else s.model
      usage := (c.usage.filter (fun u : Usage => u.totalTokens≠0)).getD s.usage }.ensureCreated

end

/-- The items with their output indices: the text, then the calls as they were opened. -/
def StreamState.finals (s : StreamState) : List (ℕ × ResponsesOutput) :=
  s.textItem.toList.map (fun t => (t.outputIndex,t.item))++s.tools.map (fun p => (p.2.outputIndex,p.2.item))

def StreamState.done (s : StreamState) : List Event :=
  s.textItem.toList.flatMap TextItem.done++s.tools.flatMap (fun p => p.2.done)

/-- The output of the response: the items by their output indices. -/
def StreamState.output (s : StreamState) : List ResponsesOutput :=
  (s.finals.insertionSort (fun a b => a.1≤b.1)).map Prod.snd

/-- The events for these chunks, and the usage to bill; a stream without a usage is counted by `estimate`. -/
def oaiChatToResponsesStreamHandler (estimate : String → Usage) (respId model : String) (chunks : List Chunk) :
    List Event × Usage :=
  let s := (chunks.foldl (StreamState.chunk respId) (.init model)).ensureCreated
  let usage := if s.usage.totalTokens = 0 then estimate s.usageText else s.usage
  (s.sent++s.done++[.completed s.model s.output (responsesUsageMap usage)],usage)

end Compat
end Tierflow
