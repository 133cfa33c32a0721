import Tierflow.Compat.Namespace

/-! Whole responses: a chat completion as a response of the Responses API, and the other way. In a chat message text
and tool calls stand side by side; a response has an item for each. -/
namespace Tierflow
namespace Compat

/-! ## Chat completions -/

structure InputTokenDetails where
  cachedTokens : ℤ
  cachedCreationTokens : ℤ
  textTokens : ℤ
  audioTokens : ℤ
  imageTokens : ℤ
  deriving DecidableEq, Repr

structure OutputTokenDetails where
  textTokens : ℤ
  audioTokens : ℤ
  imageTokens : ℤ
  reasoningTokens : ℤ
  deriving DecidableEq, Repr

/-- Counts under the names of both APIs. -/
structure Usage where
  promptTokens : ℤ
  completionTokens : ℤ
  totalTokens : ℤ
  promptTokensDetails : InputTokenDetails
  completionTokenDetails : OutputTokenDetails
  inputTokens : ℤ
  outputTokens : ℤ
  inputTokensDetails : Option InputTokenDetails
  deriving DecidableEq, Repr

def Usage.zero : Usage := ⟨0,0,0,⟨0,0,0,0,0⟩,⟨0,0,0,0⟩,0,0,none⟩

structure ToolCall where
  id : String
  type : String
  name : String
  arguments : String
  deriving DecidableEq, Repr

/-- A part of a content is an object with a type and perhaps a text, or no object at all. -/
inductive ContentItem
  | object (type : String) (text : Option String)
  | other
  deriving DecidableEq, Repr

inductive Content
  | null
  | string (s : String)
  | parts (l : List ContentItem)
  deriving DecidableEq, Repr

structure Message where
  role : String
  content : Content
  toolCalls : List ToolCall
  deriving DecidableEq, Repr

structure Choice where
  index : ℕ
  message : Message
  finishReason : String
  deriving DecidableEq, Repr

structure OpenAITextResponse where
  id : String
  object : String
  created : ℤ
  model : String
  choices : List Choice
  usage : Usage
  deriving DecidableEq, Repr

def ContentItem.text : ContentItem → String
  | .object "text" (some s) => s
  | _ => ""

def Message.stringContent (m : Message) : String :=
  match m.content with
  | .null => ""
  | .string s => s
  | .parts l => String.join (l.map ContentItem.text)

/-! ## Responses -/

/-- A field that holds any JSON: nothing, a string, or something else with its text. -/
inductive RawMessage
  | absent
  | null
  | string (s : String)
  | other (text : String)
  deriving DecidableEq, Repr

def RawMessage.toText : RawMessage → String
  | .absent | .null => ""
  | .string s => s
  | .other text => text

structure ResponsesOutputContent where
  type : String
  text : String
  deriving DecidableEq, Repr

structure ResponsesOutput where
  type : String
  id : String
  status : String
  role : String
  content : List ResponsesOutputContent
  callId : String
  name : String
  namespaceName : String
  arguments : RawMessage
  deriving DecidableEq, Repr

def ResponsesOutput.argumentsString (o : ResponsesOutput) : String := o.arguments.toText

structure OpenAIResponsesResponse where
  id : String
  object : String
  createdAt : ℤ
  status : String
  model : String
  output : List ResponsesOutput
  usage : Option Usage
  deriving DecidableEq, Repr

/-! ## From chat to responses -/

def argumentsStringToRaw (arguments : String) : RawMessage := .string arguments

def textOutput (respId text : String) : ResponsesOutput :=
  ⟨"message","msg_"++respId,"completed","assistant",[⟨"output_text",text⟩],"","","",.absent⟩

/-- The item of the call with this number, unless it is no function or has no name. -/
def callOutput (respId : String) (tc : ToolCall) (i : ℕ) : Option ResponsesOutput :=
  if tc.type≠"" ∧ tc.type≠"function" then none
  else
    let name := Text.trimSpace tc.name
    if name = "" then none
    else
      let (namespaceName,name) := (decodeResponsesNamespaceToolName name).getD ("",name)
      let callId := Text.trimSpace tc.id
      some
        { type := "function_call"
          id := "fc_"++respId++"_"++Text.printNat i
          status := "completed"
          role := ""
          content := []
          callId := if callId = "" then "call_"++respId++"_"++Text.printNat i else callId
          name := name
          namespaceName := namespaceName
          arguments := argumentsStringToRaw tc.arguments }

def chatUsageToResponsesUsage (src : Usage) : Usage where
  promptTokens := src.promptTokens
  completionTokens := src.completionTokens
  totalTokens := if src.totalTokens = 0 then src.promptTokens+src.completionTokens else src.totalTokens
  promptTokensDetails := src.promptTokensDetails
  completionTokenDetails := src.completionTokenDetails
  inputTokens := src.promptTokens
  outputTokens := src.completionTokens
  inputTokensDetails := some src.promptTokensDetails

/-- The items of a message: its text, if there is one, then its calls. -/
def messageOutputs (respId text : String) (toolCalls : List ToolCall) : List ResponsesOutput :=
  (if text≠"" then [textOutput respId text] else [])++
    toolCalls.zipIdx.filterMap (fun p => callOutput respId p.1 p.2)

def chatCompletionsResponseToResponsesResponse (resp : Option OpenAITextResponse) (respId : String)
    (createdAt : ℤ) : Except String (OpenAIResponsesResponse × Usage) :=
  match resp with
  | none => .error "response is nil"
  | some resp =>
    let message := (resp.choices.head?.map Choice.message).getD ⟨"",.null,[]⟩
    let usage := chatUsageToResponsesUsage resp.usage
    .ok (⟨respId,"response",createdAt,"completed",resp.model,
      messageOutputs respId message.stringContent message.toolCalls,some usage⟩,usage)

/-! ## From responses to chat -/

def outputText (l : List ResponsesOutputContent) : String := String.join (l.map ResponsesOutputContent.text)

/-- The text of the assistant's messages, or else any text of any item. -/
def extractOutputTextFromResponses (output : List ResponsesOutput) : String :=
  let preferred := String.join ((output.filter (fun o => o.type = "message" ∧ (o.role = "" ∨ o.role = "assistant"))).map
    (fun o => outputText (o.content.filter (fun c => c.type = "output_text"))))
  if preferred≠"" then preferred
  else String.join (output.map (fun o => outputText o.content))

def outputCall (o : ResponsesOutput) : Option ToolCall :=
  if o.type≠"function_call" then none
  else
    let name := Text.trimSpace o.name
    if name = "" then none
    else
      let callId := Text.trimSpace o.callId
      some ⟨if callId = "" then Text.trimSpace o.id else callId,"function",name,o.argumentsString⟩

def responsesUsageToChatUsage (src : Option Usage) : Usage :=
  match src with
  | none => Usage.zero
  | some u =>
    { promptTokens := u.inputTokens
      completionTokens := u.outputTokens
      totalTokens := if u.totalTokens≠0 then u.totalTokens else u.inputTokens+u.outputTokens
      promptTokensDetails :=
        match u.inputTokensDetails with
        | none => ⟨0,0,0,0,0⟩
        | some d => ⟨d.cachedTokens,0,0,d.audioTokens,d.imageTokens⟩
      completionTokenDetails := ⟨0,0,0,u.completionTokenDetails.reasoningTokens⟩
      inputTokens := u.inputTokens
      outputTokens := u.outputTokens
      inputTokensDetails := none }

/-- Calls are only looked for where there is no text. -/
def responsesResponseToChatCompletionsResponse (resp : Option OpenAIResponsesResponse) (id : String) :
    Except String (OpenAITextResponse × Usage) :=
  match resp with
  | none => .error "response is nil"
  | some resp =>
    let text := extractOutputTextFromResponses resp.output
    let usage := responsesUsageToChatUsage resp.usage
    let toolCalls := if text = "" then resp.output.filterMap outputCall else []
    .ok (⟨id,"chat.completion",resp.createdAt,resp.model,
      [⟨0,⟨"assistant",.string (if toolCalls = [] then text else ""),toolCalls⟩,
        if toolCalls = [] then "stop" else "tool_calls"⟩],usage⟩,usage)

end Compat
end Tierflow
