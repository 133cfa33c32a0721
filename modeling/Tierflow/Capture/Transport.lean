import Tierflow.Capture.Replies
import Tierflow.Foundation.JsonValues

/-! A reply as a whole and as a stream. What is kept of both is the same when the two parsers join its texts, put its
reasoning together and write its tool calls in one way, and neither takes the reply for an empty one alone. -/
namespace Tierflow
namespace Capture
namespace Replies
open Lines Text

/-! ## Pieces of a stream -/

section Pieces
variable (R : Reader)

/-- What stands in the lines of data. -/
def payloads (body : String) : List String :=
  (split body '\n').filterMap (fun line => (cutPrefix (trimSpace line) "data:").map trimSpace)

/-- The payloads that can be chunks. -/
def chunkTexts (body : String) : List String := (payloads body).filter (fun p => p≠"" ∧ p≠"[DONE]")

def openAIChoices (body : String) : List OpenAIChunkChoice :=
  ((chunkTexts body).filterMap R.openAIChunk).flatMap OpenAIChunk.choices

/-- The pieces of tool calls with their indices; without one a piece stands at its position. -/
def toolPieces (choices : List OpenAIChunkChoice) : List (ℤ × ToolDelta) :=
  choices.flatMap (fun c => c.delta.toolCalls.zipIdx.map (fun r => (r.1.index.getD r.2,r.1)))

def lastFilled (l : List String) : String := (l.filter (fun s => s≠"")).getLastD ""

def lastPositive (l : List ℤ) : ℤ := (l.filter (fun n => 0 < n)).getLastD 0

/-- A tool call from its pieces. -/
def merged (l : List ToolDelta) : ToolAcc where
  id := lastFilled (l.map ToolDelta.id)
  name := lastFilled (l.map ToolDelta.name)
  args := String.join (l.map ToolDelta.arguments)

end Pieces

/-! ## Replies -/

def stringOf : Option JsonValue → String
  | some (.string s) => s
  | _ => ""

/-- The tool call that an item of an array says. -/
def callOf : JsonValue → Option ToolAcc
  | .object f =>
    match f "function" with
    | some (.object g) => some ⟨stringOf (f "id"),stringOf (g "name"),stringOf (g "arguments")⟩
    | _ => none
  | _ => none

def callsOf : Option JsonValue → Option (List ToolAcc)
  | none => some []
  | some .null => some []
  | some (.array l) => l.mapM callOf
  | _ => none

/-- Tool calls in the one shape. -/
def callsJson (calls : List ToolAcc) : Json := .array (calls.map callJson)

def Content.texts : Content → List String
  | .text s => [s]
  | .parts l => (l.filter (fun p => p.type = "text")).map ContentPart.text
  | _ => []

def ClaudeNonStreamResp.texts (resp : ClaudeNonStreamResp) : List String := (Content.parts resp.content).texts

def ClaudeNonStreamResp.thinkings (resp : ClaudeNonStreamResp) : List String :=
  (resp.content.filter (fun p => p.type = "thinking")).map ContentPart.thinking

/-- A reply with its tool calls. -/
inductive Reply
  | openAI (c : OpenAIChoice) (tokens : ℤ) (calls : List ToolAcc)
  | claude (resp : ClaudeNonStreamResp)

def Reply.format : Reply → RelayFormat
  | .openAI _ _ _ => .openAI
  | .claude _ => .claude

section Transports
variable (R : Reader)

/-- A body with the reply as a whole. -/
def Reply.Whole (body : String) : Reply → Prop
  | .openAI c tokens calls => body≠"" ∧ R.openAIResponse body = some ⟨[c],tokens⟩ ∧
      callsOf (c.message.toolCalls.map Json.value) = some calls
  | .claude resp => body≠"" ∧ R.claudeResponse body = some resp

/-- A complete stream of a reply: its pieces make up the reply, and the calls have the indices of their positions. -/
structure StreamsOpenAI (c : OpenAIChoice) (tokens : ℤ) (calls : List ToolAcc) (stream : String) : Prop where
  done : "[DONE]"∈payloads stream
  content : String.join ((openAIChoices R stream).map (fun d => d.delta.content)) = String.join c.message.content.texts
  reasoningContent :
    String.join ((openAIChoices R stream).map (fun d => d.delta.reasoningContent)) = c.message.reasoningContent
  reasoning : String.join ((openAIChoices R stream).map (fun d => d.delta.reasoning)) = c.message.reasoning
  indices : ∀ k, k∈(toolPieces (openAIChoices R stream)).map Prod.fst ↔ 0 ≤ k ∧ k < calls.length
  calls : ∀ (k : ℕ) (call : ToolAcc), calls[k]? = some call →
    merged (((toolPieces (openAIChoices R stream)).filter (fun p => p.1 = (k : ℤ))).map Prod.snd) = call
  finish : lastFilled ((openAIChoices R stream).filterMap OpenAIChunkChoice.finishReason) = c.finishReason
  tokens : lastPositive (((chunkTexts stream).filterMap R.openAIChunk).filterMap OpenAIChunk.completionTokens) = tokens

def ClaudeChunk.textDelta (chunk : ClaudeChunk) : Option String :=
  if chunk.type = "content_block_delta" ∧ chunk.delta.type = "text_delta" then some chunk.delta.text else none

def ClaudeChunk.thinkingDelta (chunk : ClaudeChunk) : Option String :=
  if chunk.type = "content_block_delta" ∧ chunk.delta.type = "thinking_delta" then some chunk.delta.thinking else none

/-- The start of a tool block. -/
def ClaudeChunk.toolStart (chunk : ClaudeChunk) : Option (ℤ × ContentBlock) :=
  if chunk.type = "content_block_start" then
    (chunk.contentBlock.filter (fun block => block.type = "tool_use")).map (fun block => (chunk.index,block))
  else none

def ClaudeChunk.inputDelta (chunk : ClaudeChunk) : Option (ℤ × String) :=
  if chunk.type = "content_block_delta" ∧ chunk.delta.type = "input_json_delta" then
    some (chunk.index,chunk.delta.partialJson)
  else none

def ClaudeChunk.stop (chunk : ClaudeChunk) : Option String :=
  if chunk.type = "message_delta" then some chunk.delta.stopReason else none

def ClaudeChunk.usage (chunk : ClaudeChunk) : Option ℤ :=
  if chunk.type = "message_delta" then chunk.outputTokens else none

def claudeChunks (body : String) : List ClaudeChunk := (chunkTexts body).filterMap R.claudeChunk

/-- The tool blocks of a reply with their positions. -/
def ClaudeNonStreamResp.toolBlocks (resp : ClaudeNonStreamResp) : List (ℤ × ContentPart) :=
  (resp.content.zipIdx.filter (fun r => r.1.type = "tool_use")).map (fun r => ((r.2 : ℤ),r.1))

/-- A complete stream of a reply: tool blocks are started once each, no other block gets pieces of an input, and an
input without pieces is the empty object. -/
structure StreamsClaude (resp : ClaudeNonStreamResp) (stream : String) : Prop where
  stopped : ∃ chunk∈claudeChunks R stream, chunk.type = "message_stop"
  text : String.join ((claudeChunks R stream).filterMap ClaudeChunk.textDelta) = String.join resp.texts
  thinking : String.join ((claudeChunks R stream).filterMap ClaudeChunk.thinkingDelta) = String.join resp.thinkings
  starts : (claudeChunks R stream).filterMap ClaudeChunk.toolStart =
    resp.toolBlocks.map (fun r => (r.1,⟨"tool_use",r.2.id,r.2.name⟩))
  inputs : ∀ r∈(claudeChunks R stream).filterMap ClaudeChunk.inputDelta, r.1∈resp.toolBlocks.map Prod.fst
  input : ∀ r∈resp.toolBlocks, r.2.input = some ((R.json (String.join ((((claudeChunks R stream).filterMap
    ClaudeChunk.inputDelta).filter (fun q => q.1 = r.1)).map Prod.snd))).getD (.object []))
  finish : lastFilled ((claudeChunks R stream).filterMap ClaudeChunk.stop) = resp.stopReason
  tokens : lastPositive ((claudeChunks R stream).filterMap ClaudeChunk.usage) = resp.outputTokens

def Reply.Streamed (stream : String) : Reply → Prop
  | .openAI c tokens calls => StreamsOpenAI R c tokens calls stream
  | .claude resp => StreamsClaude R resp stream

/-! ## One reply for both -/

/-- The same is kept of two bodies. -/
def SameReply : Option ParsedMessage → Option ParsedMessage → Prop
  | none,none => True
  | some m,some n => m.text = n.text ∧ m.reasoning = n.reasoning ∧ m.finish = n.finish ∧ m.tokens = n.tokens ∧
      m.toolCalls.map Json.value = n.toolCalls.map Json.value ∧ m.truncated = n.truncated
  | _,_ => False

/-- A whole body is read as one, and the same is kept of it and of the stream. -/
def Agree (reply : Reply) (body stream : String) : Prop :=
  looksLikeSSE body = false ∧
    SameReply (parseResponseMessage R reply.format body false) (parseResponseMessage R reply.format stream true)

/-- The indices of the tool calls in the order in which a stream begins them. -/
def begun (stream : String) : List ℤ := ((toolPieces (openAIChoices R stream)).map Prod.fst).eraseDups

/-- Tool calls that are written as a stream's are: there are none and no array stands for them, or none of them is
empty, they have the one shape, and the stream begins them in order. -/
def UniformCalls (toolCalls : Option Json) (calls : List ToolAcc) (stream : String) : Prop :=
  if calls = [] then ∀ j∈toolCalls, isNull j = true
  else (∀ t∈calls, t≠{}) ∧ toolCalls.map Json.value = some (callsJson calls).value ∧
    (begun R stream).filterMap (fun k => calls[k.toNat]?) = calls

/-- No text comes behind one that is not empty, only one field has reasoning, tool calls are uniform, and a reply with
a finish reason is not empty. -/
def Reply.Uniform (stream : String) : Reply → Prop
  | .openAI c _ calls =>
    (∀ t∈c.message.content.texts.dropLast, t = "") ∧
    (c.message.reasoningContent = "" ∨ c.message.reasoning = "") ∧
    UniformCalls R c.message.toolCalls calls stream ∧
    (c.finishReason = "" ∨ String.join c.message.content.texts≠"" ∨ c.message.reasoningContent≠"" ∨
      c.message.reasoning≠"" ∨ calls≠[])
  | .claude resp =>
    (∀ t∈resp.texts.dropLast, t = "") ∧
    (∀ p∈resp.content, p.type≠"tool_use") ∧
    (resp.stopReason = "" ∨ String.join resp.texts≠"" ∨ String.join resp.thinkings≠"")

end Transports

/-! ## The accumulator -/

namespace StreamAcc

def mark (a : StreamAcc) : StreamAcc := { a with terminated := true }

section Payloads
variable (R : Reader) (relayFormat : RelayFormat)

def readPayload (a : StreamAcc) (payload : String) : StreamAcc :=
  if payload = "" then a
  else if payload = "[DONE]" then a.mark
  else appendDelta R relayFormat a payload

lemma foldl_readLine (body : String) (a : StreamAcc) :
    (split body '\n').foldl (readLine R relayFormat) a = (payloads body).foldl (readPayload R relayFormat) a := by
  rw [payloads,List.foldl_filterMap]
  refine congrArg (fun step => (split body '\n').foldl step a) ?_
  funext a line
  rw [readLine]
  cases cutPrefix (trimSpace line) "data:" <;> rfl

lemma withFinish_mark (a : StreamAcc) (reason : String) : a.mark.withFinish reason = (a.withFinish reason).mark := by
  unfold withFinish
  split_ifs <;> rfl

lemma withTokens_mark (a : StreamAcc) (tokens : Option ℤ) : a.mark.withTokens tokens = (a.withTokens tokens).mark := by
  cases tokens with
  | none => rfl
  | some n =>
    unfold withTokens
    dsimp only
    split_ifs <;> rfl

lemma foldl_appendChoice_mark (cs : List OpenAIChunkChoice) (a : StreamAcc) :
    cs.foldl appendChoice a.mark = (cs.foldl appendChoice a).mark := by
  induction cs generalizing a with
  | nil => rfl
  | cons c cs ih =>
    have hc : a.mark.appendChoice c = (a.appendChoice c).mark :=
      withFinish_mark (a.appendPieces c.delta) (c.finishReason.getD "")
    rw [List.foldl_cons,List.foldl_cons,hc,ih]

lemma appendClaudeChunk_mark (a : StreamAcc) (chunk : ClaudeChunk) :
    a.mark.appendClaudeChunk chunk = (a.appendClaudeChunk chunk).mark := by
  unfold appendClaudeChunk
  split_ifs
  · cases chunk.contentBlock with
    | none => rfl
    | some block =>
      dsimp only
      split_ifs <;> rfl
  all_goals first | rfl | rw [withFinish_mark,withTokens_mark]

/-- Chunks do not end a stream earlier or later for its end mark. -/
lemma appendDelta_mark (a : StreamAcc) (payload : String) :
    appendDelta R relayFormat a.mark payload = (appendDelta R relayFormat a payload).mark := by
  unfold appendDelta
  split_ifs
  · cases R.claudeChunk payload with
    | none => rfl
    | some chunk => exact appendClaudeChunk_mark a chunk
  · cases R.openAIChunk payload with
    | none => rfl
    | some chunk =>
      simp only [Option.map_some,Option.getD_some,appendOpenAIChunk]
      rw [foldl_appendChoice_mark,withTokens_mark]

lemma foldl_appendDelta_mark (l : List String) (a : StreamAcc) :
    l.foldl (appendDelta R relayFormat) a.mark = (l.foldl (appendDelta R relayFormat) a).mark := by
  induction l generalizing a with
  | nil => rfl
  | cons p l ih => rw [List.foldl_cons,List.foldl_cons,appendDelta_mark,ih]

/-- The end mark is noticed wherever it stands. -/
theorem foldl_readPayload (l : List String) (a : StreamAcc) : l.foldl (readPayload R relayFormat) a =
    if "[DONE]"∈l then ((l.filter (fun p => p≠"" ∧ p≠"[DONE]")).foldl (appendDelta R relayFormat) a).mark
    else (l.filter (fun p => p≠"" ∧ p≠"[DONE]")).foldl (appendDelta R relayFormat) a := by
  induction l generalizing a with
  | nil => rfl
  | cons p l ih =>
    rw [List.foldl_cons,ih]
    by_cases hempty : p = ""
    · simp [readPayload,hempty]
    · by_cases hdone : p = "[DONE]"
      · rw [List.filter_cons_of_neg (by simp [hdone])]
        have hmark : readPayload R relayFormat a p = a.mark := by rw [readPayload,if_neg hempty,if_pos hdone]
        have hmem : "[DONE]"∈p::l := hdone ▸ List.mem_cons_self
        rw [hmark,foldl_appendDelta_mark,if_pos hmem]
        split_ifs <;> rfl
      · rw [List.filter_cons_of_pos (by simp [hempty,hdone]),List.foldl_cons]
        simp [readPayload,hempty,hdone,Ne.symm hdone]

/-- The accumulator of a stream. -/
lemma foldl_readLine_eq (body : String) : (split body '\n').foldl (readLine R relayFormat) {} =
    if "[DONE]"∈payloads body then ((chunkTexts body).foldl (appendDelta R relayFormat) {}).mark
    else (chunkTexts body).foldl (appendDelta R relayFormat) {} := by
  rw [foldl_readLine,foldl_readPayload]
  rfl

end Payloads

/-! ## Pieces put together -/

section Together

def keepFinish (finish reason : String) : String := if reason≠"" then normalizeFinish reason else finish

def keepTokens (tokens n : ℤ) : ℤ := if 0 < n then n else tokens

lemma withFinish_eq (a : StreamAcc) (reason : String) :
    a.withFinish reason = { a with finish := keepFinish a.finish reason } := by
  unfold withFinish keepFinish
  split_ifs <;> rfl

lemma withTokens_eq (a : StreamAcc) (tokens : Option ℤ) :
    a.withTokens tokens = { a with tokens := tokens.toList.foldl keepTokens a.tokens } := by
  cases tokens with
  | none => rfl
  | some n =>
    change (if 0 < n then { a with tokens := n } else a) = { a with tokens := if 0 < n then n else a.tokens }
    split_ifs <;> rfl

lemma foldl_keepFinish (l : List String) : l.foldl keepFinish "" = normalizeFinish (lastFilled l) := by
  induction l using List.reverseRecOn with
  | nil => decide
  | append_singleton l reason ih =>
    rw [List.foldl_append,List.foldl_cons,List.foldl_nil,ih,keepFinish,lastFilled,lastFilled,List.filter_append]
    by_cases h : reason≠""
    · rw [if_pos h,List.filter_cons_of_pos (by simpa using h),List.filter_nil,List.getLastD_concat]
    · rw [if_neg h,List.filter_cons_of_neg (by simpa using h),List.filter_nil,List.append_nil]

lemma foldl_keepTokens (l : List ℤ) : l.foldl keepTokens 0 = lastPositive l := by
  induction l using List.reverseRecOn with
  | nil => rfl
  | append_singleton l n ih =>
    rw [List.foldl_append,List.foldl_cons,List.foldl_nil,ih,keepTokens,lastPositive,lastPositive,List.filter_append]
    by_cases h : 0 < n
    · rw [if_pos h,List.filter_cons_of_pos (by simpa using h),List.filter_nil,List.getLastD_concat]
    · rw [if_neg h,List.filter_cons_of_neg (by simpa using h),List.filter_nil,List.append_nil]

lemma appendTools_eq (tools : List (ℤ × ToolAcc)) (toolCalls : List ToolDelta) : appendTools tools toolCalls =
    (toolCalls.zipIdx.map (fun r => (r.1.index.getD r.2,r.1))).foldl
      (fun tools p => updateTool tools p.1 (mergeTool p.2)) tools := by
  rw [List.foldl_map]
  rfl

lemma foldl_appendChoice (cs : List OpenAIChunkChoice) (a : StreamAcc) : cs.foldl appendChoice a =
    ⟨a.text++String.join (cs.map (fun c => c.delta.content)),
      a.reasoning++String.join (cs.map (fun c => c.delta.reasoningContent++c.delta.reasoning)),
      (cs.map (fun c => c.finishReason.getD "")).foldl keepFinish a.finish,a.tokens,
      (toolPieces cs).foldl (fun tools p => updateTool tools p.1 (mergeTool p.2)) a.tools,a.terminated⟩ := by
  induction cs generalizing a with
  | nil => simp [toolPieces]
  | cons c cs ih =>
    rw [List.foldl_cons,ih,appendChoice,withFinish_eq]
    simp only [appendPieces,appendTools_eq,List.map_cons,String.join_cons,List.foldl_cons,toolPieces,List.flatMap_cons,
      List.foldl_append,String.append_assoc]

lemma foldl_appendOpenAIChunk (chunks : List OpenAIChunk) (a : StreamAcc) : chunks.foldl appendOpenAIChunk a =
    { (chunks.flatMap OpenAIChunk.choices).foldl appendChoice a with
      tokens := (chunks.filterMap OpenAIChunk.completionTokens).foldl keepTokens a.tokens } := by
  induction chunks generalizing a with
  | nil => rfl
  | cons chunk chunks ih =>
    rw [List.foldl_cons,ih,appendOpenAIChunk,withTokens_eq,List.flatMap_cons,List.foldl_append]
    simp only [foldl_appendChoice]
    cases h : chunk.completionTokens with
    | none => rw [List.filterMap_cons_none h]; rfl
    | some n => rw [List.filterMap_cons_some h]; rfl

/-- A tool is what its pieces make up. -/
lemma foldl_mergeTool (l : List ToolDelta) : l.foldl (fun t d => mergeTool d t) {} = merged l := by
  induction l using List.reverseRecOn with
  | nil => rfl
  | append_singleton l d ih =>
    rw [List.foldl_append,List.foldl_cons,List.foldl_nil,ih]
    simp only [mergeTool,merged,lastFilled,List.map_append,List.map_singleton,List.filter_append,String.join_append]
    by_cases hid : d.id = "" <;> by_cases hname : d.name = "" <;> simp [hid,hname]

lemma tools_eq (pieces : List (ℤ × ToolDelta)) :
    pieces.foldl (fun tools p => updateTool tools p.1 (mergeTool p.2)) [] =
      (Gather.gather Prod.fst pieces).map (fun g => (g.1,merged (g.2.map Prod.snd))) := by
  have h := Gather.foldl_update Prod.fst (fun (p : ℤ × ToolDelta) => mergeTool p.2) {} pieces
  refine h.trans (List.map_congr_left fun g _ => ?_)
  rw [←foldl_mergeTool,List.foldl_map]

/-- What a chunk does to the tools. -/
def claudeTools (tools : List (ℤ × ToolAcc)) (chunk : ClaudeChunk) : List (ℤ × ToolAcc) :=
  match chunk.toolStart with
  | some r => updateTool tools r.1 (fun t => { t with id := r.2.id, name := r.2.name })
  | none =>
    match chunk.inputDelta with
    | some r => updateTool tools r.1 (fun t => { t with args := t.args++r.2 })
    | none => tools

lemma appendClaudeChunk_eq (a : StreamAcc) (chunk : ClaudeChunk) : a.appendClaudeChunk chunk =
    ⟨a.text++chunk.textDelta.getD "",a.reasoning++chunk.thinkingDelta.getD "",keepFinish a.finish (chunk.stop.getD ""),
      chunk.usage.toList.foldl keepTokens a.tokens,claudeTools a.tools chunk,
      a.terminated || chunk.type = "message_stop"⟩ := by
  unfold appendClaudeChunk claudeTools ClaudeChunk.textDelta ClaudeChunk.thinkingDelta ClaudeChunk.stop
    ClaudeChunk.usage ClaudeChunk.toolStart ClaudeChunk.inputDelta
  by_cases hstart : chunk.type = "content_block_start"
  · cases hblock : chunk.contentBlock with
    | none => simp [hstart,keepFinish]
    | some block => by_cases htool : block.type = "tool_use" <;> simp [hstart,htool,keepFinish,Option.filter_some]
  · by_cases hdelta : chunk.type = "content_block_delta"
    · by_cases htext : chunk.delta.type = "text_delta"
      · simp [hdelta,htext,keepFinish]
      · by_cases hthinking : chunk.delta.type = "thinking_delta"
        · simp [hdelta,hthinking,keepFinish]
        · by_cases hinput : chunk.delta.type = "input_json_delta"
          · simp [hdelta,hinput,keepFinish]
          · simp [hdelta,htext,hthinking,hinput,keepFinish]
    · by_cases hmessage : chunk.type = "message_delta"
      · simp [hmessage,withFinish_eq,withTokens_eq]
      · by_cases hstop : chunk.type = "message_stop"
        · simp [hstop,keepFinish]
        · simp [hstart,hdelta,hmessage,hstop,keepFinish]

lemma foldl_appendClaudeChunk (chunks : List ClaudeChunk) (a : StreamAcc) : chunks.foldl appendClaudeChunk a =
    ⟨a.text++String.join (chunks.filterMap ClaudeChunk.textDelta),
      a.reasoning++String.join (chunks.filterMap ClaudeChunk.thinkingDelta),
      (chunks.filterMap ClaudeChunk.stop).foldl keepFinish a.finish,
      (chunks.filterMap ClaudeChunk.usage).foldl keepTokens a.tokens,chunks.foldl claudeTools a.tools,
      a.terminated || chunks.any (fun chunk => chunk.type = "message_stop")⟩ := by
  induction chunks generalizing a with
  | nil => simp
  | cons chunk chunks ih =>
    have hjoin : ∀ f : ClaudeChunk → Option String, String.join ((chunk::chunks).filterMap f) =
        (f chunk).getD ""++String.join (chunks.filterMap f) := by
      intro f
      cases h : f chunk with
      | none => rw [List.filterMap_cons_none h,Option.getD_none,String.empty_append]
      | some t => rw [List.filterMap_cons_some h,String.join_cons,Option.getD_some]
    have hfinish : ((chunk::chunks).filterMap ClaudeChunk.stop).foldl keepFinish a.finish =
        (chunks.filterMap ClaudeChunk.stop).foldl keepFinish (keepFinish a.finish (chunk.stop.getD "")) := by
      cases h : chunk.stop with
      | none => rw [List.filterMap_cons_none h]; simp [keepFinish]
      | some t => rw [List.filterMap_cons_some h]; rfl
    have htokens : ((chunk::chunks).filterMap ClaudeChunk.usage).foldl keepTokens a.tokens =
        (chunks.filterMap ClaudeChunk.usage).foldl keepTokens (chunk.usage.toList.foldl keepTokens a.tokens) := by
      cases h : chunk.usage with
      | none => rw [List.filterMap_cons_none h]; rfl
      | some n => rw [List.filterMap_cons_some h]; rfl
    rw [List.foldl_cons,ih,appendClaudeChunk_eq,hjoin,hjoin,hfinish,htokens]
    simp only [List.foldl_cons,List.any_cons,String.append_assoc,Bool.or_assoc]

/-- Without tool blocks and pieces of inputs there are no tools. -/
lemma foldl_claudeTools_nil {chunks : List ClaudeChunk} (hstart : chunks.filterMap ClaudeChunk.toolStart = [])
    (hinput : chunks.filterMap ClaudeChunk.inputDelta = []) : chunks.foldl claudeTools [] = [] := by
  induction chunks with
  | nil => rfl
  | cons chunk chunks ih =>
    rw [List.filterMap_eq_nil_iff] at hstart hinput
    have hs := hstart chunk List.mem_cons_self
    have hi := hinput chunk List.mem_cons_self
    have hnone : claudeTools [] chunk = [] := by rw [claudeTools,hs,hi]
    rw [List.foldl_cons,hnone]
    exact ih (List.filterMap_eq_nil_iff.mpr fun c hc => hstart c (List.mem_cons_of_mem _ hc))
      (List.filterMap_eq_nil_iff.mpr fun c hc => hinput c (List.mem_cons_of_mem _ hc))

end Together

end StreamAcc

/-! ## What is kept -/

section Kept
variable {R : Reader} {t u r v f : String} {c d : Option Json} {n : ℤ}

/-- What is kept of two bodies with the same finish reason and tokens, one that counts as empty without its finish
reason and one that does not. -/
lemma sameReply_iff : SameReply
    (if t = "" ∧ c.isNone ∧ r = "" then none else some ⟨"assistant",t,c,r,f,n,false⟩)
    (if u = "" ∧ v = "" ∧ f = "" ∧ d.isNone then none else some ⟨"assistant",u,d,v,f,n,false⟩) ↔
      t = u ∧ r = v ∧ c.map Json.value = d.map Json.value ∧ (f = "" ∨ t≠"" ∨ r≠"" ∨ c≠none) := by
  by_cases h : t = "" ∧ c.isNone ∧ r = ""
  · rw [if_pos h]
    obtain ⟨rfl,hc,rfl⟩ := h
    obtain rfl := Option.isNone_iff_eq_none.mp hc
    by_cases h' : u = "" ∧ v = "" ∧ f = "" ∧ d.isNone
    · rw [if_pos h']
      obtain ⟨rfl,rfl,rfl,hd⟩ := h'
      obtain rfl := Option.isNone_iff_eq_none.mp hd
      simp [SameReply]
    · rw [if_neg h']
      refine ⟨fun hsame => hsame.elim,?_⟩
      rintro ⟨rfl,rfl,hd,hf⟩
      have hnone : d = none := Option.map_eq_none_iff.mp hd.symm
      exact absurd ⟨rfl,rfl,by simpa using hf,by rw [hnone]; rfl⟩ h'
  · rw [if_neg h]
    have hsome : t≠"" ∨ r≠"" ∨ c≠none := by
      by_contra hnone
      simp only [not_or,not_ne_iff] at hnone
      exact h ⟨hnone.1,by rw [hnone.2.2]; rfl,hnone.2.1⟩
    by_cases h' : u = "" ∧ v = "" ∧ f = "" ∧ d.isNone
    · rw [if_pos h']
      refine ⟨fun hsame => hsame.elim,?_⟩
      rintro ⟨rfl,rfl,hd,-⟩
      obtain ⟨ht,hr,-,hd'⟩ := h'
      obtain rfl := Option.isNone_iff_eq_none.mp hd'
      have hc : c = none := Option.map_eq_none_iff.mp hd
      exact absurd ⟨ht,by rw [hc]; rfl,hr⟩ h
    · rw [if_neg h']
      simp only [SameReply,true_and,and_true]
      exact and_congr_right fun _ => and_congr_right fun _ => ⟨fun hd => ⟨hd,.inr hsome⟩,fun hd => hd.1⟩

lemma normalizeFinish_eq_empty {reason : String} : normalizeFinish reason = "" ↔ reason = "" := by
  unfold normalizeFinish
  split_ifs with hstop hlength htool
  · rcases hstop with rfl | rfl <;> decide
  · rw [hlength]; decide
  · rw [htool]; decide
  · rfl

lemma ne_empty_of_payloads {stream p : String} (h : p∈payloads stream) : stream≠"" := by
  rintro rfl
  have hnone : payloads "" = [] := by decide
  rw [hnone] at h
  cases h

end Kept


/-! ## Tool calls of a stream -/

section Calls
variable {R : Reader} {stream : String} {calls : List ToolAcc} {tools : List (ℤ × ToolAcc)}

lemma itemsValue_eq_map (l : List Json) : Json.itemsValue l = l.map Json.value := by
  induction l with
  | nil => rfl
  | cons a l ih => exact congrArg (List.cons a.value) ih

lemma callOf_callJson (t : ToolAcc) : callOf (callJson t).value = some t := rfl

lemma value_callsJson (l : List ToolAcc) : (callsJson l).value = .array (l.map (fun t => (callJson t).value)) := by
  rw [callsJson,Json.value,itemsValue_eq_map,List.map_map]
  rfl

lemma callsOf_callsJson (l : List ToolAcc) : callsOf (some (callsJson l).value) = some l := by
  rw [value_callsJson]
  change (l.map (fun t => (callJson t).value)).mapM callOf = some l
  induction l with
  | nil => rfl
  | cons t l ih =>
    rw [List.map_cons,List.mapM_cons,callOf_callJson,ih]
    rfl

/-- Tools with nothing in them are left out. -/
lemma buildToolCalls_eq (tools : List (ℤ × ToolAcc)) : buildToolCalls tools =
    if (tools.map Prod.snd).filter (fun t => t≠{}) = [] then none
    else some (callsJson ((tools.map Prod.snd).filter (fun t => t≠{}))) := by
  have hempty : ∀ t : ToolAcc, ¬(t.id = "" ∧ t.name = "" ∧ t.args = "") ↔ t≠{} := by
    rintro ⟨id,name,args⟩
    simp
  have hcalls : (tools.filter (fun r => ¬(r.2.id = "" ∧ r.2.name = "" ∧ r.2.args = ""))).map (fun r => callJson r.2) =
      ((tools.map Prod.snd).filter (fun t => t≠{})).map callJson := by
    rw [List.filter_map,List.map_map]
    simp only [hempty]
    rfl
  rw [buildToolCalls]
  simp only [hcalls,callsJson,List.length_eq_zero_iff,List.map_eq_nil_iff]

/-- The tools of a complete stream are the calls, in the order in which the stream begins them. -/
lemma tools_of_streams {c : OpenAIChoice} {tokens : ℤ} (h : StreamsOpenAI R c tokens calls stream) :
    ((Gather.gather Prod.fst (toolPieces (openAIChoices R stream))).map (fun g => (g.1,merged (g.2.map Prod.snd)))).map
      Prod.snd = (begun R stream).filterMap (fun k => calls[k.toNat]?) := by
  rw [begun,←Gather.keys_gather,List.map_map,List.filterMap_map,←List.filterMap_eq_map]
  apply List.filterMap_congr
  intro g hg
  have hk := Gather.mem_keys.mp (List.mem_map_of_mem (f := Prod.fst) hg)
  obtain ⟨p,hp,hpk⟩ := hk
  obtain ⟨hpos,hlt⟩ := (h.indices g.1).mp (hpk ▸ List.mem_map_of_mem hp)
  have hindex : g.1.toNat < calls.length := by omega
  have hcall := List.getElem?_eq_getElem hindex
  have hmerged := h.calls _ _ hcall
  rw [Int.toNat_of_nonneg hpos,←Gather.snd_of_mem hg] at hmerged
  simp only [Function.comp_apply,hcall,hmerged]

/-- The stream begins each call once. -/
lemma begun_perm {c : OpenAIChoice} {tokens : ℤ} (h : StreamsOpenAI R c tokens calls stream) :
    ((begun R stream).filterMap (fun k => calls[k.toNat]?)).Perm calls := by
  have hmem : ∀ k, k∈begun R stream ↔ k∈(List.range calls.length).map (fun n : ℕ => (n : ℤ)) := by
    intro k
    rw [begun,List.mem_eraseDups,h.indices k,List.mem_map]
    constructor
    · rintro ⟨hpos,hlt⟩
      exact ⟨k.toNat,List.mem_range.mpr (by omega),Int.toNat_of_nonneg hpos⟩
    · rintro ⟨n,hn,rfl⟩
      have := List.mem_range.mp hn
      omega
  have hnodup : ((List.range calls.length).map (fun n : ℕ => (n : ℤ))).Nodup :=
    List.nodup_range.map fun a b hab => by exact_mod_cast hab
  have hbegun : (begun R stream).Nodup := by
    rw [begun,←Gather.keys_gather]
    exact Gather.nodup_keys _
  have hperm := (List.perm_ext_iff_of_nodup hbegun hnodup).mpr hmem
  refine (hperm.filterMap _).trans ?_
  rw [List.filterMap_map]
  have hposition : (fun k : ℤ => calls[k.toNat]?) ∘ (fun n : ℕ => (n : ℤ)) = fun n => (calls[n]?).bind some := by
    funext n
    simp
  rw [hposition,Gather.filterMap_range_getElem?,List.filterMap_some]

/-- The calls of a stream are those of the whole reply when they are uniform. -/
theorem uniformCalls_iff {c : OpenAIChoice} {tokens : ℤ} (h : StreamsOpenAI R c tokens calls stream)
    (hcalls : callsOf (c.message.toolCalls.map Json.value) = some calls) :
    (c.message.toolCalls.filter (fun j => !isNull j)).map Json.value =
      (buildToolCalls ((Gather.gather Prod.fst (toolPieces (openAIChoices R stream))).map
        (fun g => (g.1,merged (g.2.map Prod.snd))))).map Json.value ↔
      UniformCalls R c.message.toolCalls calls stream := by
  have hperm := begun_perm h
  rw [buildToolCalls_eq,tools_of_streams h,UniformCalls]
  generalize (begun R stream).filterMap (fun k => calls[k.toNat]?) = l at hperm
  generalize c.message.toolCalls = toolCalls at hcalls
  by_cases hnil : calls = []
  · rw [hnil] at hperm ⊢
    rw [hperm.eq_nil,if_pos rfl,List.filter_nil,if_pos rfl,Option.map_none,Option.map_eq_none_iff,
      Option.filter_eq_none_iff]
    simp
  · rw [if_neg hnil]
    cases toolCalls with
    | none =>
      cases hcalls
      exact absurd rfl hnil
    | some j =>
      have hnull : isNull j = false := by
        cases j with
        | null =>
          cases hcalls
          exact absurd rfl hnil
        | _ => rfl
      have hfilter : (some j).filter (fun j => !isNull j) = some j := by simp [Option.filter_some,hnull]
      rw [hfilter,Option.map_some]
      constructor
      · intro heq
        by_cases hempty : l.filter (fun t => t≠{}) = []
        · rw [if_pos hempty] at heq
          cases heq
        · -- the whole reply has the filled calls of the stream, so all of them are filled
          rw [if_neg hempty,Option.map_some] at heq
          have hfilled : calls = l.filter (fun t => t≠{}) := by
            have hread := hcalls.symm.trans (congrArg callsOf heq)
            rw [callsOf_callsJson] at hread
            exact Option.some.inj hread
          have hall : l.filter (fun t => t≠{}) = l := by
            apply List.filter_eq_self.mpr
            apply List.length_filter_eq_length_iff.mp
            rw [←hfilled,hperm.length_eq]
          rw [hall] at hfilled heq
          subst hfilled
          exact ⟨fun t ht => of_decide_eq_true (List.filter_eq_self.mp hall t ht),heq,rfl⟩
      · rintro ⟨hfull,hvalue,rfl⟩
        have hall : l.filter (fun t => t≠{}) = l := List.filter_eq_self.mpr fun t ht => decide_eq_true (hfull t ht)
        rw [hall,if_neg hnil]
        exact hvalue

lemma UniformCalls.captured_iff {toolCalls : Option Json} (h : UniformCalls R toolCalls calls stream) :
    toolCalls.filter (fun j => !isNull j)≠none ↔ calls≠[] := by
  unfold UniformCalls at h
  by_cases hnil : calls = []
  · rw [if_pos hnil] at h
    simpa [Option.filter_eq_none_iff,hnil] using h
  · rw [if_neg hnil] at h
    obtain ⟨j,rfl,hj⟩ := Option.map_eq_some_iff.mp h.2.1
    have hnull : isNull j = false := by
      cases j with
      | null => cases hj
      | _ => rfl
    simp [Option.filter_some,hnull,hnil]

end Calls

/-! ## Parsed replies -/

section Parsed
variable {R : Reader} {body stream : String}

lemma foldl_appendDelta_openAI (R : Reader) (l : List String) (a : StreamAcc) :
    l.foldl (StreamAcc.appendDelta R .openAI) a = (l.filterMap R.openAIChunk).foldl StreamAcc.appendOpenAIChunk a := by
  rw [List.foldl_filterMap]
  refine congrArg (fun step => l.foldl step a) ?_
  funext a p
  rw [StreamAcc.appendDelta,if_neg (by decide)]
  cases R.openAIChunk p <;> rfl

lemma foldl_appendDelta_claude (R : Reader) (l : List String) (a : StreamAcc) :
    l.foldl (StreamAcc.appendDelta R .claude) a = (l.filterMap R.claudeChunk).foldl StreamAcc.appendClaudeChunk a := by
  rw [List.foldl_filterMap]
  refine congrArg (fun step => l.foldl step a) ?_
  funext a p
  rw [StreamAcc.appendDelta,if_pos rfl]
  cases R.claudeChunk p <;> rfl

lemma lastFilled_getD (cs : List OpenAIChunkChoice) :
    lastFilled (cs.map (fun c => c.finishReason.getD "")) =
      lastFilled (cs.filterMap OpenAIChunkChoice.finishReason) := by
  have hfilter : (cs.map (fun c => c.finishReason.getD "")).filter (fun s => s≠"") =
      (cs.filterMap OpenAIChunkChoice.finishReason).filter (fun s => s≠"") := by
    induction cs with
    | nil => rfl
    | cons c cs ih =>
      cases h : c.finishReason with
      | none => simpa [List.filterMap_cons_none h,h] using ih
      | some r =>
        rw [List.filterMap_cons_some h,List.map_cons,h,Option.getD_some,List.filter_cons,List.filter_cons,ih]
  rw [lastFilled,lastFilled,hfilter]

lemma parse_stream_openAI {c : OpenAIChoice} {tokens : ℤ} {calls : List ToolAcc}
    (h : StreamsOpenAI R c tokens calls stream) (u v f : String) (d : Option Json)
    (hu : u = String.join c.message.content.texts)
    (hv : v = String.join ((openAIChoices R stream).map (fun c => c.delta.reasoningContent++c.delta.reasoning)))
    (hf : f = normalizeFinish c.finishReason)
    (hd : d = buildToolCalls ((Gather.gather Prod.fst (toolPieces (openAIChoices R stream))).map
      (fun g => (g.1,merged (g.2.map Prod.snd))))) : parseResponseMessage R .openAI stream true =
      if u = "" ∧ v = "" ∧ f = "" ∧ d.isNone then none else some ⟨"assistant",u,d,v,f,tokens,false⟩ := by
  have hacc : (split stream '\n').foldl (StreamAcc.readLine R .openAI) {} =
      ⟨u,v,f,tokens,(Gather.gather Prod.fst (toolPieces (openAIChoices R stream))).map
        (fun g => (g.1,merged (g.2.map Prod.snd))),true⟩ := by
    rw [StreamAcc.foldl_readLine_eq,if_pos h.done,foldl_appendDelta_openAI,StreamAcc.foldl_appendOpenAIChunk,
      StreamAcc.foldl_appendChoice,StreamAcc.foldl_keepTokens,h.tokens]
    have hchoices : ((chunkTexts stream).filterMap R.openAIChunk).flatMap OpenAIChunk.choices =
        openAIChoices R stream := rfl
    rw [hchoices,StreamAcc.foldl_keepFinish,lastFilled_getD,h.finish,StreamAcc.tools_eq,h.content,←hu,←hv,←hf]
    simp [StreamAcc.mark]
  rw [parseResponseMessage,if_neg (ne_empty_of_payloads h.done),Bool.true_or,if_pos rfl,parseStreamResponse,hacc,hd]
  simp only [Bool.not_true]

lemma extractText_fst (content : Content) : (extractText content).1 = content.texts.foldl below "" := by
  cases content with
  | parts l =>
    have hparts : ∀ (l : List ContentPart) (r : String × ℕ), (l.foldl (fun r p =>
        if p.type = "text" then (below r.1 p.text,r.2)
        else if p.type∈mediaTypes then (r.1,r.2+1)
        else r) r).1 = ((l.filter (fun p => p.type = "text")).map ContentPart.text).foldl below r.1 := by
      intro l
      induction l with
      | nil => exact fun r => rfl
      | cons p l ih =>
        intro r
        rw [List.foldl_cons,ih]
        by_cases htext : p.type = "text"
        · rw [if_pos htext,List.filter_cons_of_pos (by simpa using htext)]
          rfl
        · rw [if_neg htext,List.filter_cons_of_neg (by simpa using htext)]
          split_ifs <;> rfl
    exact hparts l ("",0)
  | text s => exact (below_empty s).symm
  | absent => rfl
  | unreadable => rfl

lemma parse_whole_openAI {c : OpenAIChoice} {tokens : ℤ} (hne : body≠"") (hsse : looksLikeSSE body = false)
    (h : R.openAIResponse body = some ⟨[c],tokens⟩) (t r f : String) (d : Option Json)
    (ht : t = c.message.content.texts.foldl below "")
    (hr : r = if c.message.reasoningContent = "" then c.message.reasoning else c.message.reasoningContent)
    (hf : f = normalizeFinish c.finishReason) (hd : d = c.message.toolCalls.filter (fun j => !isNull j)) :
    parseResponseMessage R .openAI body false =
      if t = "" ∧ d.isNone ∧ r = "" then none else some ⟨"assistant",t,d,r,f,tokens,false⟩ := by
  rw [parseResponseMessage,if_neg hne,hsse,Bool.or_self,if_neg Bool.false_ne_true,parseNonStreamResponse,
    if_neg (by decide),h]
  simp only [extractText_fst]
  rw [ht,hr,hf,hd]

lemma parse_stream_claude {resp : ClaudeNonStreamResp} (h : StreamsClaude R resp stream) (f : String) (d : Option Json)
    (hf : f = normalizeFinish resp.stopReason)
    (hd : d = buildToolCalls ((claudeChunks R stream).foldl StreamAcc.claudeTools [])) :
    parseResponseMessage R .claude stream true =
      if String.join resp.texts = "" ∧ String.join resp.thinkings = "" ∧ f = "" ∧ d.isNone then none
      else some ⟨"assistant",String.join resp.texts,d,String.join resp.thinkings,f,resp.outputTokens,false⟩ := by
  obtain ⟨chunk,hchunk,hstop⟩ := h.stopped
  obtain ⟨p,hp,-⟩ := List.mem_filterMap.mp hchunk
  have hany : (claudeChunks R stream).any (fun chunk => chunk.type = "message_stop") = true :=
    List.any_eq_true.mpr ⟨chunk,hchunk,decide_eq_true hstop⟩
  have hfold : (chunkTexts stream).foldl (StreamAcc.appendDelta R .claude) {} =
      ⟨String.join resp.texts,String.join resp.thinkings,f,resp.outputTokens,
        (claudeChunks R stream).foldl StreamAcc.claudeTools [],true⟩ := by
    rw [foldl_appendDelta_claude,StreamAcc.foldl_appendClaudeChunk]
    have hchunks : (chunkTexts stream).filterMap R.claudeChunk = claudeChunks R stream := rfl
    rw [hchunks,h.text,h.thinking,StreamAcc.foldl_keepFinish,h.finish,StreamAcc.foldl_keepTokens,h.tokens,hany,←hf]
    simp
  have hacc : (split stream '\n').foldl (StreamAcc.readLine R .claude) {} =
      ⟨String.join resp.texts,String.join resp.thinkings,f,resp.outputTokens,
        (claudeChunks R stream).foldl StreamAcc.claudeTools [],true⟩ := by
    rw [StreamAcc.foldl_readLine_eq,hfold]
    split_ifs <;> rfl
  rw [parseResponseMessage,if_neg (ne_empty_of_payloads (List.mem_filter.mp hp).1),Bool.true_or,if_pos rfl,
    parseStreamResponse,hacc,hd]
  rfl

lemma foldl_texts (l : List ContentPart) (sb : String) :
    l.foldl (fun sb p => if p.type = "text" then below sb p.text else sb) sb =
      (Content.parts l).texts.foldl below sb := by
  induction l generalizing sb with
  | nil => rfl
  | cons p l ih =>
    rw [List.foldl_cons,ih,Content.texts,Content.texts]
    by_cases htext : p.type = "text"
    · rw [if_pos htext,List.filter_cons_of_pos (by simpa using htext)]
      rfl
    · rw [if_neg htext,List.filter_cons_of_neg (by simpa using htext)]

lemma foldl_thinkings (l : List ContentPart) (sb : String) :
    l.foldl (fun sb p => if p.type = "thinking" then sb++p.thinking else sb) sb =
      sb++String.join ((l.filter (fun p => p.type = "thinking")).map ContentPart.thinking) := by
  induction l generalizing sb with
  | nil => simp
  | cons p l ih =>
    rw [List.foldl_cons,ih]
    by_cases hthinking : p.type = "thinking"
    · rw [if_pos hthinking,List.filter_cons_of_pos (by simpa using hthinking),List.map_cons,String.join_cons,
        String.append_assoc]
    · rw [if_neg hthinking,List.filter_cons_of_neg (by simpa using hthinking)]

lemma parse_whole_claude {resp : ClaudeNonStreamResp} (hne : body≠"") (hsse : looksLikeSSE body = false)
    (h : R.claudeResponse body = some resp) (t f : String) (d : Option Json) (ht : t = resp.texts.foldl below "")
    (hf : f = normalizeFinish resp.stopReason) (hd : d = extractClaudeToolUse (remarshal resp.content)) :
    parseResponseMessage R .claude body false =
      if t = "" ∧ d.isNone ∧ String.join resp.thinkings = "" then none
      else some ⟨"assistant",t,d,String.join resp.thinkings,f,resp.outputTokens,false⟩ := by
  rw [parseResponseMessage,if_neg hne,hsse,Bool.or_self,if_neg Bool.false_ne_true,parseNonStreamResponse,if_pos rfl,h]
  simp only [foldl_texts,foldl_thinkings,String.empty_append]
  rw [ht,hf,hd]
  rfl

lemma extractClaudeToolUse_remarshal (content : List ContentPart) : extractClaudeToolUse (remarshal content) =
    if content.filter (fun p => p.type = "tool_use") = [] then none
    else some (.array ((content.filter (fun p => p.type = "tool_use")).map (fun p =>
      .object [("id",.string p.id),("input",p.input.getD .null),("name",.string p.name)]))) := by
  rw [remarshal,extractClaudeToolUse]
  simp only [List.filter_map,List.map_map,List.length_eq_zero_iff,List.map_eq_nil_iff]
  rfl

/-- Blocks of tool uses are never written as tool calls. -/
lemma toolUse_iff {resp : ClaudeNonStreamResp} (h : StreamsClaude R resp stream) :
    (extractClaudeToolUse (remarshal resp.content)).map Json.value =
      (buildToolCalls ((claudeChunks R stream).foldl StreamAcc.claudeTools [])).map Json.value ↔
      ∀ p∈resp.content, p.type≠"tool_use" := by
  rw [extractClaudeToolUse_remarshal]
  constructor
  · intro heq p hp htool
    have hmem : p∈resp.content.filter (fun p => p.type = "tool_use") := List.mem_filter.mpr ⟨hp,decide_eq_true htool⟩
    obtain ⟨q,l,hl⟩ := List.exists_cons_of_ne_nil (List.ne_nil_of_mem hmem)
    rw [hl,if_neg (List.cons_ne_nil q l),buildToolCalls_eq] at heq
    generalize (((claudeChunks R stream).foldl StreamAcc.claudeTools []).map Prod.snd).filter (fun t => t≠{}) =
      calls at heq
    cases calls with
    | nil => cases heq
    | cons t calls =>
      -- a tool call has a member that no tool use has
      rw [if_neg (List.cons_ne_nil t calls),Option.map_some,Option.map_some,value_callsJson,Json.value,
        itemsValue_eq_map] at heq
      have hitems := JsonValue.array.inj (Option.some.inj heq)
      have hhead := (List.cons.inj hitems).1
      have hmembers := congrFun (JsonValue.object.inj hhead) "function"
      cases hmembers
  · intro hnone
    have hfilter : resp.content.filter (fun p => p.type = "tool_use") = [] :=
      List.filter_eq_nil_iff.mpr fun p hp => by simpa using hnone p hp
    have hblocks : resp.toolBlocks = [] := by
      rw [ClaudeNonStreamResp.toolBlocks,List.map_eq_nil_iff,List.filter_eq_nil_iff]
      intro r hr
      have := hnone r.1 (List.fst_mem_of_mem_zipIdx hr)
      simpa using this
    have hstarts := h.starts
    rw [hblocks,List.map_nil] at hstarts
    have hinputs : (claudeChunks R stream).filterMap ClaudeChunk.inputDelta = [] := by
      apply List.eq_nil_iff_forall_not_mem.mpr
      intro r hr
      have hmem := h.inputs r hr
      rw [hblocks] at hmem
      cases hmem
    rw [hfilter,if_pos rfl,StreamAcc.foldl_claudeTools_nil hstarts hinputs]
    rfl

lemma agree_openAI_iff {c : OpenAIChoice} {tokens : ℤ} {calls : List ToolAcc}
    (hbody : (Reply.openAI c tokens calls).Whole R body) (h : StreamsOpenAI R c tokens calls stream) :
    Agree R (.openAI c tokens calls) body stream ↔
      looksLikeSSE body = false ∧ (Reply.openAI c tokens calls).Uniform R stream := by
  obtain ⟨hne,hread,hcalls⟩ := hbody
  refine and_congr_right fun hsse => ?_
  rw [Reply.format,parse_whole_openAI hne hsse hread _ _ _ _ rfl rfl rfl rfl,
    parse_stream_openAI h _ _ _ _ rfl rfl rfl rfl,sameReply_iff,foldl_below_eq_join_iff,uniformCalls_iff h hcalls,
    Reply.Uniform]
  have hreasoning : (if c.message.reasoningContent = "" then c.message.reasoning else c.message.reasoningContent) =
      String.join ((openAIChoices R stream).map (fun c => c.delta.reasoningContent++c.delta.reasoning)) ↔
      c.message.reasoningContent = "" ∨ c.message.reasoning = "" := by
    rw [←h.reasoningContent,←h.reasoning,eq_comm]
    exact join_interleaved_eq_iff
  rw [hreasoning]
  refine and_congr_right fun htexts => and_congr_right fun _ => and_congr_right fun huniform => ?_
  have hfilled : (if c.message.reasoningContent = "" then c.message.reasoning else c.message.reasoningContent)≠"" ↔
      c.message.reasoningContent≠"" ∨ c.message.reasoning≠"" := by
    split_ifs with hempty <;> simp [hempty]
  rw [foldl_below_eq_join_iff.mpr htexts,normalizeFinish_eq_empty,hfilled,huniform.captured_iff,or_assoc]

lemma agree_claude_iff {resp : ClaudeNonStreamResp} (hbody : (Reply.claude resp).Whole R body)
    (h : StreamsClaude R resp stream) :
    Agree R (.claude resp) body stream ↔ looksLikeSSE body = false ∧ (Reply.claude resp).Uniform R stream := by
  obtain ⟨hne,hread⟩ := hbody
  refine and_congr_right fun hsse => ?_
  rw [Reply.format,parse_whole_claude hne hsse hread _ _ _ rfl rfl rfl,parse_stream_claude h _ _ rfl rfl,
    sameReply_iff,foldl_below_eq_join_iff,toolUse_iff h,Reply.Uniform]
  simp only [true_and]
  refine and_congr_right fun htexts => and_congr_right fun hnone => ?_
  have hfilter : resp.content.filter (fun p => p.type = "tool_use") = [] :=
    List.filter_eq_nil_iff.mpr fun p hp => by simpa using hnone p hp
  rw [foldl_below_eq_join_iff.mpr htexts,normalizeFinish_eq_empty,extractClaudeToolUse_remarshal,if_pos hfilter]
  simp

/-- A reply is kept alike from both transports when it is uniform and its body does not look like a stream. -/
theorem modes_agree_iff {reply : Reply} (hbody : reply.Whole R body) (hstream : reply.Streamed R stream) :
    Agree R reply body stream ↔ looksLikeSSE body = false ∧ reply.Uniform R stream := by
  cases reply with
  | openAI c tokens calls => exact agree_openAI_iff hbody hstream
  | claude resp => exact agree_claude_iff hbody hstream

end Parsed

/-! ## Two replies -/

section Samples

def greeting : OpenAIChoice := ⟨⟨.text "Hi",none,"",""⟩,"stop"⟩

def greetingBody : String :=
  "\x7b\"choices\":[\x7b\"message\":\x7b\"content\":\"Hi\"\x7d,\"finish_reason\":\"stop\"\x7d]\x7d"

def greetingChunk : String :=
  "\x7b\"choices\":[\x7b\"delta\":\x7b\"content\":\"Hi\"\x7d,\"finish_reason\":\"stop\"\x7d]\x7d"

/-- A thought that comes in both fields. -/
def thought : OpenAIChoice := ⟨⟨.absent,none,"a","a"⟩,""⟩

def thoughtBody : String :=
  "\x7b\"choices\":[\x7b\"message\":\x7b\"reasoning_content\":\"a\",\"reasoning\":\"a\"\x7d\x7d]\x7d"

def thoughtChunk : String :=
  "\x7b\"choices\":[\x7b\"delta\":\x7b\"reasoning_content\":\"a\",\"reasoning\":\"a\"\x7d\x7d]\x7d"

def streamOf (chunk : String) : String := "data: "++chunk++"\n\ndata: [DONE]\n\n"

/-- Reads the texts of these replies. -/
def sampleReader : Reader where
  openAIResponse s :=
    if s = greetingBody then some ⟨[greeting],0⟩ else if s = thoughtBody then some ⟨[thought],0⟩ else none
  claudeResponse _ := none
  openAIChunk s :=
    if s = greetingChunk then some ⟨[⟨⟨"Hi","","",[]⟩,some "stop"⟩],none⟩
    else if s = thoughtChunk then some ⟨[⟨⟨"","a","a",[]⟩,none⟩],none⟩
    else none
  claudeChunk _ := none
  json _ := none

/-- A text that stands in a line of data as it is. -/
def IsPayload (chunk : String) : Prop :=
  '\n'∉chunk.toList ∧ trimSpace ("data: "++chunk) = "data: "++chunk ∧ trimSpace (" "++chunk) = chunk ∧
    chunk≠"" ∧ chunk≠"[DONE]"

instance (chunk : String) : Decidable (IsPayload chunk) := by unfold IsPayload; infer_instance

lemma payloads_streamOf {chunk : String} (h : IsPayload chunk) : payloads (streamOf chunk) = [chunk,"[DONE]"] := by
  obtain ⟨hline,hstart,htrim,-⟩ := h
  have hlines : streamOf chunk =
      (String.singleton '\n').intercalate ["data: "++chunk,"","data: [DONE]","",""] := by
    simp only [streamOf,String.intercalate_cons_cons,String.intercalate_singleton]
    apply String.toList_inj.mp
    simp
  have hsplit : split (streamOf chunk) '\n' = ["data: "++chunk,"","data: [DONE]","",""] := by
    rw [hlines]
    apply split_intercalate (List.cons_ne_nil _ _)
    intro w hw
    rcases List.mem_cons.mp hw with rfl | hw
    · simpa using hline
    · have hblank : ∀ v∈(["","data: [DONE]","",""] : List String), '\n'∉v.toList := by decide
      exact hblank w hw
  have hcut : cutPrefix ("data: "++chunk) "data:" = some (" "++chunk) := by
    rw [show "data: "++chunk = "data:"++(" "++chunk) by rw [←String.append_assoc]; rfl]
    exact cutPrefix_append _ _
  have hrest : (["","data: [DONE]","",""] : List String).filterMap
      (fun line => (cutPrefix (trimSpace line) "data:").map trimSpace) = ["[DONE]"] := by decide
  rw [payloads,hsplit,List.filterMap_cons,hstart,hcut,hrest]
  simp only [Option.map_some,htrim]

lemma chunkTexts_streamOf {chunk : String} (h : IsPayload chunk) : chunkTexts (streamOf chunk) = [chunk] := by
  rw [chunkTexts,payloads_streamOf h]
  simp [h.2.2.2.1,h.2.2.2.2]

lemma isPayload_greeting : IsPayload greetingChunk := by decide

lemma isPayload_thought : IsPayload thoughtChunk := by decide

lemma chunks_greeting : (chunkTexts (streamOf greetingChunk)).filterMap sampleReader.openAIChunk =
    [⟨[⟨⟨"Hi","","",[]⟩,some "stop"⟩],none⟩] := by
  rw [chunkTexts_streamOf isPayload_greeting]
  simp only [sampleReader,List.filterMap_cons,if_true,List.filterMap_nil]

lemma chunks_thought : (chunkTexts (streamOf thoughtChunk)).filterMap sampleReader.openAIChunk =
    [⟨[⟨⟨"","a","a",[]⟩,none⟩],none⟩] := by
  have hne : thoughtChunk≠greetingChunk := by decide
  rw [chunkTexts_streamOf isPayload_thought]
  simp only [sampleReader,List.filterMap_cons,if_neg hne,if_true,List.filterMap_nil]

lemma choices_greeting : openAIChoices sampleReader (streamOf greetingChunk) =
    [⟨⟨"Hi","","",[]⟩,some "stop"⟩] := congrArg (List.flatMap OpenAIChunk.choices) chunks_greeting

lemma choices_thought : openAIChoices sampleReader (streamOf thoughtChunk) = [⟨⟨"","a","a",[]⟩,none⟩] :=
  congrArg (List.flatMap OpenAIChunk.choices) chunks_thought

lemma streams_greeting : StreamsOpenAI sampleReader greeting 0 [] (streamOf greetingChunk) where
  done := by rw [payloads_streamOf isPayload_greeting]; simp
  content := by rw [choices_greeting]; decide
  reasoningContent := by rw [choices_greeting]; decide
  reasoning := by rw [choices_greeting]; decide
  indices k := by
    have hnone : toolPieces [⟨⟨"Hi","","",[]⟩,some "stop"⟩] = [] := rfl
    rw [choices_greeting,hnone]
    simp
  calls k call hk := nomatch hk
  finish := by rw [choices_greeting]; decide
  tokens := by rw [chunks_greeting]; decide

lemma streams_thought : StreamsOpenAI sampleReader thought 0 [] (streamOf thoughtChunk) where
  done := by rw [payloads_streamOf isPayload_thought]; simp
  content := by rw [choices_thought]; decide
  reasoningContent := by rw [choices_thought]; decide
  reasoning := by rw [choices_thought]; decide
  indices k := by
    have hnone : toolPieces [⟨⟨"","a","a",[]⟩,none⟩] = [] := rfl
    rw [choices_thought,hnone]
    simp
  calls k call hk := nomatch hk
  finish := by rw [choices_thought]; decide
  tokens := by rw [chunks_thought]; decide

theorem greeting_agrees : Agree sampleReader (.openAI greeting 0 []) greetingBody (streamOf greetingChunk) := by
  have hwhole : (Reply.openAI greeting 0 []).Whole sampleReader greetingBody :=
    ⟨by decide,by simp only [sampleReader,if_true],rfl⟩
  refine (modes_agree_iff hwhole streams_greeting).mpr
    ⟨by decide +kernel,by decide,.inl rfl,?_,.inr (.inl (by decide +kernel))⟩
  rw [UniformCalls,if_pos rfl]
  exact fun j hj => nomatch hj

lemma whole_thought : (Reply.openAI thought 0 []).Whole sampleReader thoughtBody := by
  have hne : thoughtBody≠greetingBody := by decide
  exact ⟨by decide,by simp only [sampleReader,if_neg hne,if_true],rfl⟩

theorem thought_doubled : (Reply.openAI thought 0 []).Whole sampleReader thoughtBody ∧
    (Reply.openAI thought 0 []).Streamed sampleReader (streamOf thoughtChunk) ∧
    ¬Agree sampleReader (.openAI thought 0 []) thoughtBody (streamOf thoughtChunk) := by
  refine ⟨whole_thought,streams_thought,fun h => ?_⟩
  have huniform := ((agree_openAI_iff whole_thought streams_thought).mp h).2
  exact absurd huniform.2.1 (by decide)

end Samples

end Replies
end Capture
end Tierflow
