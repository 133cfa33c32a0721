import Tierflow.Billing.TieredExpr
import Tierflow.Foundation.Text

/-! What is billed for a stream of chunks. A chunk can carry a usage record; it is looked for in the last chunk and, for
audio models, in the one before it. Without a record the tokens are estimated. -/
namespace Tierflow
namespace Billing
namespace StreamUsage
open Text

/-! ## Chunks -/

/-- A usage record with the counts that not all upstreams report. -/
structure UsageRecord extends Usage where
  totalTokens : ℤ
  promptCacheHitTokens : ℤ
  inputTokensDetails : Option InputTokenDetails
  deriving DecidableEq, Repr

structure ToolFunction where
  name : String
  arguments : String
  deriving DecidableEq, Repr

/-- A choice of a chunk; the reasoning is what `GetReasoningContent` reads. -/
structure StreamChoice where
  content : String
  reasoningContent : String
  toolCalls : Option (List ToolFunction)
  finishReason : Option String
  deriving DecidableEq, Repr

structure ChatCompletionsStreamResponse where
  id : String
  created : ℤ
  systemFingerprint : String
  model : String
  choices : List StreamChoice
  usage : Option UsageRecord
  deriving DecidableEq, Repr

/-- How chunks are read: as a whole, as a chunk of the old interface, and by single fields. The usage read by itself
is that of the whole chunk, and there is nothing in an empty text. -/
structure StreamReader where
  response : String → Option ChatCompletionsStreamResponse
  completionTexts : String → Option (List String)
  usage : String → Option UsageRecord
  cachedTokens : String → Option ℤ
  moonshotCachedTokens : String → Option ℤ
  llamaCachedTokens : String → Option ℤ
  toLower : String → String
  estimateTokenByModel : String → String → ℤ
  usage_of_response : ∀ {data r}, response data = some r → usage data = r.usage
  response_empty : response "" = none

inductive RelayMode
  | chatCompletions
  | completions
  | other
  deriving DecidableEq, Repr

inductive ChannelType
  | deepSeek
  | zhipuV4
  | moonshot
  | openAI
  | other
  deriving DecidableEq, Repr

structure RelayInfo where
  upstreamModelName : String
  relayMode : RelayMode
  channelType : ChannelType
  shouldIncludeUsage : Bool
  estimatePromptTokens : ℤ
  deriving DecidableEq, Repr

def validUsage (usage : Option UsageRecord) : Option UsageRecord :=
  usage.filter (fun u => u.promptTokens≠0 ∨ u.completionTokens≠0)

/-! ## The stream handler -/

/-- What is kept of the chunks while they come in. -/
structure StreamState where
  lastStreamData : String := ""
  secondLastStreamData : String := ""
  responseText : String := ""
  toolCount : ℕ := 0
  deriving DecidableEq, Repr

section Handler
variable (R : StreamReader) (info : RelayInfo)

def processChoice (s : StreamState) (choice : StreamChoice) : StreamState :=
  let s := { s with responseText := s.responseText++choice.content++choice.reasoningContent }
  match choice.toolCalls with
  | none => s
  | some toolCalls =>
    { s with
      toolCount := if s.toolCount<toolCalls.length then toolCalls.length else s.toolCount
      responseText := s.responseText++String.join (toolCalls.map (fun tool => tool.name++tool.arguments)) }

/-- A chunk that cannot be read adds nothing. -/
def processTokenData (data : String) (s : StreamState) : StreamState :=
  match info.relayMode with
  | .chatCompletions => ((R.response data).map (fun r => r.choices.foldl processChoice s)).getD s
  | .completions =>
    ((R.completionTexts data).map (fun l => { s with responseText := s.responseText++String.join l })).getD s
  | .other => s

def isAudioModel : Bool := contains (R.toLower info.upstreamModelName) "audio"

def handleData (s : StreamState) (data : String) : StreamState :=
  if data = "" then s
  else
    let s := if isAudioModel R info = true ∧ s.lastStreamData≠"" then
        { s with secondLastStreamData := s.lastStreamData }
      else s
    processTokenData R info data { s with lastStreamData := data }

/-- What the end of a stream is known by. -/
structure LastResponse where
  responseId : String := ""
  createAt : ℤ := 0
  systemFingerprint : String := ""
  model : String
  usage : Option UsageRecord
  shouldSendLastResp : Bool := true
  deriving DecidableEq, Repr

def StreamChoice.hasContent (choice : StreamChoice) : Bool :=
  choice.content≠"" || choice.reasoningContent≠"" || 0<(choice.toolCalls.getD []).length ||
    (choice.finishReason.getD "")≠""

/-- The last chunk; it overrides a usage that was found before. -/
def handleLastResponse (lastStreamData : String) (last : LastResponse) : LastResponse :=
  match R.response lastStreamData with
  | none => last
  | some r =>
    let last := { last with
      responseId := r.id
      createAt := r.created
      systemFingerprint := r.systemFingerprint
      model := r.model }
    match validUsage r.usage with
    | none => last
    | some usage =>
      { last with
        usage := some usage
        shouldSendLastResp := if info.shouldIncludeUsage then last.shouldSendLastResp
          else r.choices.any StreamChoice.hasContent }

def responseText2Usage (responseText : String) : UsageRecord where
  promptTokens := info.estimatePromptTokens
  completionTokens := R.estimateTokenByModel info.upstreamModelName responseText
  totalTokens := info.estimatePromptTokens+R.estimateTokenByModel info.upstreamModelName responseText
  usageSemantic := ""
  promptTokensDetails := ⟨0,0,0,0⟩
  completionTokenDetails := ⟨0,0⟩
  claudeCacheCreation5mTokens := 0
  claudeCacheCreation1hTokens := 0
  promptCacheHitTokens := 0
  inputTokensDetails := none

def UsageRecord.setCached (u : UsageRecord) (n : ℤ) : UsageRecord :=
  { u with promptTokensDetails := { u.promptTokensDetails with cachedTokens := n } }

/-- The first of the places where a channel reports its cached tokens. -/
def UsageRecord.fillCached (u : UsageRecord) (places : List (Option ℤ)) : UsageRecord :=
  if u.promptTokensDetails.cachedTokens = 0 then
    match places.reduceOption.head? with
    | some n => u.setCached n
    | none => u
  else u

def applyUsagePostProcessing (usage : UsageRecord) (responseBody : String) : UsageRecord :=
  let inputCached := (usage.inputTokensDetails.map InputTokenDetails.cachedTokens).filter (fun n => 0<n)
  let cacheHit := if 0<usage.promptCacheHitTokens then some usage.promptCacheHitTokens else none
  match info.channelType with
  | .deepSeek => usage.fillCached [if usage.promptCacheHitTokens≠0 then some usage.promptCacheHitTokens else none]
  | .zhipuV4 => usage.fillCached [inputCached,R.cachedTokens responseBody,cacheHit]
  | .moonshot =>
    usage.fillCached [inputCached,R.moonshotCachedTokens responseBody,R.cachedTokens responseBody,cacheHit]
  | .openAI => usage.fillCached [R.llamaCachedTokens responseBody]
  | .other => usage

structure StreamBill where
  usage : UsageRecord
  containStreamUsage : Bool
  last : LastResponse
  deriving DecidableEq, Repr

def oaiStreamHandler (stream : List String) : StreamBill :=
  let s := stream.foldl (handleData R info) {}
  let found := if isAudioModel R info = true ∧ s.secondLastStreamData≠"" then
      validUsage (R.usage s.secondLastStreamData)
    else none
  let last := handleLastResponse R info s.lastStreamData { model := info.upstreamModelName, usage := found }
  match last.usage with
  | some usage => ⟨applyUsagePostProcessing R info usage s.lastStreamData,true,last⟩
  | none =>
    let usage := responseText2Usage R info s.responseText
    let usage := { usage with completionTokens := usage.completionTokens+s.toolCount*7 }
    ⟨applyUsagePostProcessing R info usage s.lastStreamData,false,last⟩

/-! ## Records of a stream -/

/-- The last valid record among the chunks. -/
def lastValidUsage (stream : List String) : Option UsageRecord :=
  stream.reverse.findSome? (fun data => validUsage (R.usage data))

/-- A valid record in the last chunk or, for an audio model, in the one before it. -/
def RecordAtEnd (stream : List String) : Prop :=
  (∃ data∈stream.getLast?, validUsage (R.usage data)≠none) ∨
    isAudioModel R info = true ∧ ∃ data∈stream.dropLast.getLast?, validUsage (R.usage data)≠none

end Handler

/-! ## Scanning -/

section Scanning
variable {R : StreamReader} {info : RelayInfo} {stream : List String}

lemma foldl_processChoice_last (l : List StreamChoice) (s : StreamState) :
    (l.foldl processChoice s).lastStreamData = s.lastStreamData ∧
      (l.foldl processChoice s).secondLastStreamData = s.secondLastStreamData := by
  induction l generalizing s with
  | nil => exact ⟨rfl,rfl⟩
  | cons choice l ih =>
    have hchoice : (processChoice s choice).lastStreamData = s.lastStreamData ∧
        (processChoice s choice).secondLastStreamData = s.secondLastStreamData := by
      rw [processChoice]
      cases choice.toolCalls <;> exact ⟨rfl,rfl⟩
    rw [List.foldl_cons,(ih _).1,(ih _).2]
    exact hchoice

lemma processTokenData_last (data : String) (s : StreamState) :
    (processTokenData R info data s).lastStreamData = s.lastStreamData ∧
      (processTokenData R info data s).secondLastStreamData = s.secondLastStreamData := by
  unfold processTokenData
  cases info.relayMode with
  | chatCompletions =>
    cases R.response data with
    | none => exact ⟨rfl,rfl⟩
    | some r => exact foldl_processChoice_last r.choices s
  | completions => cases R.completionTexts data <;> exact ⟨rfl,rfl⟩
  | other => exact ⟨rfl,rfl⟩

lemma handleData_last {data : String} (hd : data≠"") (s : StreamState) :
    (handleData R info s data).lastStreamData = data ∧
      (handleData R info s data).secondLastStreamData =
        if isAudioModel R info = true ∧ s.lastStreamData≠"" then s.lastStreamData else s.secondLastStreamData := by
  rw [handleData,if_neg hd]
  dsimp only
  rw [(processTokenData_last _ _).1,(processTokenData_last _ _).2]
  split_ifs <;> exact ⟨rfl,rfl⟩

/-- The last chunk is known and, for an audio model, the one before it. -/
theorem scanned (hne : ∀ data∈stream, data≠"") :
    let s := stream.foldl (handleData R info) {}
    s.lastStreamData = stream.getLastD "" ∧
      s.secondLastStreamData = if isAudioModel R info then stream.dropLast.getLastD "" else "" := by
  induction stream using List.reverseRecOn with
  | nil => exact ⟨rfl,by simp⟩
  | append_singleton l d ih =>
    obtain ⟨hlast,hsecond⟩ := ih (fun data h => hne data (List.mem_append_left _ h))
    have hd := hne d (List.mem_append_right _ (List.mem_singleton_self d))
    intro s
    have hs : s = handleData R info (l.foldl (handleData R info) {}) d := List.foldl_concat ..
    rw [hs,(handleData_last hd _).1,(handleData_last hd _).2,hlast,hsecond,List.dropLast_concat]
    refine ⟨by simp,?_⟩
    cases isAudioModel R info with
    | false => simp
    | true =>
      -- before the second chunk there is none to remember
      cases l using List.reverseRecOn with
      | nil => simp
      | append_singleton l e =>
        have he := hne e (List.mem_append_left _ (List.mem_append_right _ (List.mem_singleton_self e)))
        simp [he]

end Scanning

/-! ## The record that is billed -/

section Billed
variable {R : StreamReader} {info : RelayInfo} {stream : List String}

variable (R) in
def recordOf (data : Option String) : Option UsageRecord := data.bind (fun data => validUsage (R.usage data))

variable (R info) in
/-- The record that the handler finds. -/
def foundRecord (stream : List String) : Option UsageRecord :=
  (recordOf R stream.getLast?).or (if isAudioModel R info then recordOf R stream.dropLast.getLast? else none)

lemma recordOf_ne_none_iff {data : Option String} :
    recordOf R data≠none ↔ ∃ d∈data, validUsage (R.usage d)≠none := by
  cases data with
  | none => simp [recordOf]
  | some d => simp [recordOf]

lemma recordAtEnd_iff : RecordAtEnd R info stream ↔ foundRecord R info stream≠none := by
  rw [RecordAtEnd,foundRecord,ne_eq,Option.or_eq_none_iff,not_and_or,←ne_eq,recordOf_ne_none_iff]
  refine or_congr_right ?_
  cases isAudioModel R info with
  | false => simp
  | true =>
    rw [if_pos rfl,←ne_eq,recordOf_ne_none_iff]
    exact and_iff_right rfl

/-- What is found is the last valid record. -/
lemma lastValidUsage_of_found {u : UsageRecord} (h : foundRecord R info stream = some u) :
    lastValidUsage R stream = some u := by
  have hcases : ∀ l : List String, ∀ d,
      lastValidUsage R (l++[d]) = (recordOf R (some d)).or (lastValidUsage R l) := by
    intro l d
    rw [lastValidUsage,List.reverse_append,List.reverse_singleton,List.singleton_append,List.findSome?_cons]
    cases hd : validUsage (R.usage d) with
    | none => simp [recordOf,hd,lastValidUsage]
    | some v => simp [recordOf,hd]
  rw [foundRecord] at h
  induction stream using List.reverseRecOn with
  | nil => simp [recordOf] at h
  | append_singleton l d =>
    rw [List.getLast?_concat,List.dropLast_concat,Option.or_eq_some_iff] at h
    rw [hcases,Option.or_eq_some_iff]
    refine h.imp_right (And.imp_right fun h => ?_)
    rw [Option.ite_none_right_eq_some] at h
    induction l using List.reverseRecOn with
    | nil => simp [recordOf] at h
    | append_singleton l e =>
      rw [List.getLast?_concat] at h
      rw [hcases,h.2,Option.some_or]

variable (info) in
lemma handleLastResponse_usage {data : String} (hdata : (R.response data).isSome) (last : LastResponse) :
    (handleLastResponse R info data last).usage = (recordOf R (some data)).or last.usage := by
  obtain ⟨r,hr⟩ := Option.isSome_iff_exists.mp hdata
  rw [handleLastResponse,hr,recordOf,Option.bind_some,R.usage_of_response hr]
  dsimp only
  cases validUsage r.usage with
  | none => exact Option.none_or.symm
  | some u => exact Option.some_or.symm

section Handling
variable (hstream : ∀ data∈stream, (R.response data).isSome)
include hstream

lemma filled : ∀ data∈stream, data≠"" := by
  rintro data hdata rfl
  have h := hstream "" hdata
  rw [R.response_empty] at h
  cases h

/-- The record in the chunk before the last one, read from the chunk that was remembered. -/
lemma remembered_record :
    (if isAudioModel R info = true ∧ (stream.foldl (handleData R info) {}).secondLastStreamData≠"" then
      validUsage (R.usage (stream.foldl (handleData R info) {}).secondLastStreamData) else none) =
      if isAudioModel R info then recordOf R stream.dropLast.getLast? else none := by
  rw [(scanned (filled hstream)).2]
  cases isAudioModel R info with
  | false => simp
  | true =>
    rw [if_pos rfl,if_pos rfl,List.getLastD_eq_getLast?]
    cases h : stream.dropLast.getLast? with
    | none => simp [recordOf]
    | some e =>
      have he : e≠"" := filled hstream e (List.mem_of_mem_dropLast (List.mem_of_getLast? h))
      rw [Option.getD_some,if_pos ⟨rfl,he⟩]
      rfl

variable (info) in
/-- The handler bills the record that it finds, or an estimate. -/
theorem handler_cases (hne : stream≠[]) :
    (∃ u, foundRecord R info stream = some u ∧ (oaiStreamHandler R info stream).containStreamUsage = true ∧
        (oaiStreamHandler R info stream).usage = applyUsagePostProcessing R info u (stream.getLastD "")) ∨
      foundRecord R info stream = none ∧ (oaiStreamHandler R info stream).containStreamUsage = false := by
  have hlast : (stream.foldl (handleData R info) {}).lastStreamData = stream.getLastD "" := (scanned (filled hstream)).1
  have hmem : stream.getLastD ""∈stream := by
    rw [List.getLastD_eq_getLast?,List.getLast?_eq_getLast_of_ne_nil hne]
    exact List.getLast_mem hne
  have hrecord := handleLastResponse_usage info (hstream _ hmem)
    { model := info.upstreamModelName
      usage := if isAudioModel R info then recordOf R stream.dropLast.getLast? else none }
  have hfound : recordOf R (some (stream.getLastD "")) = recordOf R stream.getLast? := by
    rw [List.getLastD_eq_getLast?,List.getLast?_eq_getLast_of_ne_nil hne]
    rfl
  rw [hfound] at hrecord
  unfold oaiStreamHandler
  dsimp only
  rw [remembered_record hstream,hlast,hrecord,←foundRecord]
  cases foundRecord R info stream with
  | none => exact .inr ⟨rfl,rfl⟩
  | some u => exact .inl ⟨u,rfl,rfl,rfl⟩

end Handling

end Billed

/-- The last valid record of a stream is billed, and not an estimate, exactly if it is in the last chunk or, for an
audio model, in the one before it. -/
theorem last_record_billed_iff (R : StreamReader) (info : RelayInfo) (stream : List String)
    (hstream : ∀ data∈stream, (R.response data).isSome) (u : UsageRecord) (hu : lastValidUsage R stream = some u) :
    (oaiStreamHandler R info stream).containStreamUsage = true ∧
        (oaiStreamHandler R info stream).usage = applyUsagePostProcessing R info u (stream.getLastD "") ↔
      RecordAtEnd R info stream := by
  have hne : stream≠[] := by
    rintro rfl
    cases hu
  rw [recordAtEnd_iff]
  rcases handler_cases info hstream hne with ⟨v,hv,hflag,husage⟩ | ⟨hnone,hflag⟩
  · obtain rfl : v = u := Option.some.inj ((lastValidUsage_of_found hv).symm.trans hu)
    exact ⟨fun _ => by rw [hv]; exact Option.some_ne_none v,fun _ => ⟨hflag,husage⟩⟩
  · rw [hflag,hnone]
    simp

/-- Chunks that are listed with what they say. -/
def listedReader (chunks : List (String × ChatCompletionsStreamResponse)) : StreamReader where
  response data := if data = "" then none else chunks.lookup data
  completionTexts _ := none
  usage data := (if data = "" then none else chunks.lookup data).bind ChatCompletionsStreamResponse.usage
  cachedTokens _ := none
  moonshotCachedTokens _ := none
  llamaCachedTokens _ := none
  toLower := String.toLower
  estimateTokenByModel _ text := text.length
  usage_of_response h := by rw [h]; rfl
  response_empty := rfl

def reported : UsageRecord := ⟨⟨9,12,"",⟨0,0,0,0⟩,⟨0,0⟩,0,0⟩,21,0,none⟩

/-- Some text, a usage record and a chunk with nothing. -/
def shortStream : List (String × ChatCompletionsStreamResponse) :=
  [("text",⟨"c",0,"","gpt-5",[⟨"Hello","",none,none⟩],none⟩),("usage",⟨"c",0,"","gpt-5",[],some reported⟩),
    ("empty",⟨"c",0,"","gpt-5",[],none⟩)]

def shortInfo : RelayInfo := ⟨"gpt-5",.chatCompletions,.openAI,true,7⟩

theorem reported_billed :
    (oaiStreamHandler (listedReader shortStream) shortInfo ["text","usage"]).containStreamUsage = true ∧
      (oaiStreamHandler (listedReader shortStream) shortInfo ["text","usage"]).usage =
        applyUsagePostProcessing (listedReader shortStream) shortInfo reported "usage" :=
  (last_record_billed_iff (listedReader shortStream) shortInfo ["text","usage"] (by decide) reported
    (by decide)).mpr (.inl ⟨"usage",rfl,by decide⟩)

/-- A chunk with nothing behind the record makes the handler estimate. -/
theorem record_missed : ¬∀ (R : StreamReader) (info : RelayInfo) (stream : List String),
    (∀ data∈stream, (R.response data).isSome) → ∀ u, lastValidUsage R stream = some u →
      (oaiStreamHandler R info stream).containStreamUsage = true := by
  intro h
  have hflag := h (listedReader shortStream) shortInfo ["text","usage","empty"] (by decide) reported
    (by decide)
  exact absurd hflag (by decide +kernel)

end StreamUsage
end Billing
end Tierflow
