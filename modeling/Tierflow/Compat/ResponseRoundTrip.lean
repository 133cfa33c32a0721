import Tierflow.Compat.Responses

/-! A chat completion turned into a response and back. -/
namespace Tierflow
namespace Compat

/-- A call of a function with an id and a name that are not blank. -/
structure ToolCall.Callable (tc : ToolCall) : Prop where
  function : tc.type = "function"
  id : Text.trimSpace tc.id≠""
  name : Text.trimSpace tc.name≠""

/-- Of a name with a namespace the name is left. -/
def ToolCall.restoredName (tc : ToolCall) : String :=
  Text.trimSpace ((decodeResponsesNamespaceToolName (Text.trimSpace tc.name)).elim (Text.trimSpace tc.name) Prod.snd)

/-- The call that comes back. -/
def ToolCall.restored (tc : ToolCall) : Option ToolCall :=
  if tc.restoredName = "" then none else some ⟨Text.trimSpace tc.id,"function",tc.restoredName,tc.arguments⟩

section
variable {respId : String}

/-- A call whose name has no namespace comes back, and as it was if it had no blanks around id and name. -/
lemma restored_of_plain {tc : ToolCall} (h : tc.Callable)
    (hplain : decodeResponsesNamespaceToolName (Text.trimSpace tc.name) = none) :
    tc.restored = some ⟨Text.trimSpace tc.id,"function",Text.trimSpace tc.name,tc.arguments⟩ := by
  have hname : tc.restoredName = Text.trimSpace tc.name := by
    unfold ToolCall.restoredName
    rw [hplain,Option.elim_none,Text.trimSpace_idem]
  unfold ToolCall.restored
  rw [hname,if_neg h.name]

/-- The item of a call has the trimmed id, and the name that the encoded name stands for. -/
lemma callOutput_of_callable {tc : ToolCall} (h : tc.Callable) (i : ℕ) :
    ∃ o, callOutput respId tc i = some o ∧ o.type = "function_call" ∧ o.callId = Text.trimSpace tc.id ∧
      Text.trimSpace o.name = tc.restoredName ∧ o.argumentsString = tc.arguments := by
  unfold callOutput ToolCall.restoredName
  rw [if_neg (by simp [h.function]),if_neg h.name]
  cases decodeResponsesNamespaceToolName (Text.trimSpace tc.name) with
  | none => exact ⟨_,rfl,rfl,if_neg h.id,rfl,rfl⟩
  | some p => exact ⟨_,rfl,rfl,if_neg h.id,rfl,rfl⟩

lemma outputCall_callOutput {tc : ToolCall} (h : tc.Callable) (i : ℕ) :
    (callOutput respId tc i).bind outputCall = tc.restored := by
  obtain ⟨o,ho,htype,hid,hname,harguments⟩ := callOutput_of_callable h i
  rw [ho,Option.bind_some]
  unfold outputCall ToolCall.restored
  rw [if_neg (by simp [htype]),hname,hid,harguments,Text.trimSpace_idem]
  simp only [if_neg h.id]

/-- What an item of a call is not: a message, or something with a text. -/
lemma callOutput_item {tc : ToolCall} {i : ℕ} {o : ResponsesOutput} (h : callOutput respId tc i = some o) :
    o.type = "function_call" ∧ o.content = [] := by
  unfold callOutput at h
  simp only at h
  split_ifs at h
  all_goals
    obtain rfl := Option.some.inj h
    exact ⟨rfl,rfl⟩

lemma mem_callOutputs {l : List ToolCall} {o : ResponsesOutput}
    (h : o∈l.zipIdx.filterMap (fun p => callOutput respId p.1 p.2)) : o.type = "function_call" ∧ o.content = [] := by
  obtain ⟨p,-,hp⟩ := List.mem_filterMap.mp h
  exact callOutput_item hp

/-- The text of a message is the text of its items. -/
lemma extract_messageOutputs (text : String) (l : List ToolCall) :
    extractOutputTextFromResponses (messageOutputs respId text l) = text := by
  have hcalls : (l.zipIdx.filterMap (fun p => callOutput respId p.1 p.2)).filter
      (fun o => o.type = "message" ∧ (o.role = "" ∨ o.role = "assistant")) = [] := by
    apply List.filter_eq_nil_iff.mpr
    intro o ho
    rw [(mem_callOutputs ho).1]
    simp
  have hempty : String.join ((l.zipIdx.filterMap (fun p => callOutput respId p.1 p.2)).map
      (fun o => outputText o.content)) = "" := by
    apply Text.join_eq_empty_iff.mpr
    intro s hs
    obtain ⟨o,ho,rfl⟩ := List.mem_map.mp hs
    rw [(mem_callOutputs ho).2]
    rfl
  unfold extractOutputTextFromResponses messageOutputs
  rw [List.filter_append,hcalls,List.append_nil,List.map_append,String.join_append,hempty,String.append_empty]
  by_cases htext : text = ""
  · subst htext
    rfl
  · simp [htext,textOutput,outputText]

/-- The calls of a message are the calls of its items. -/
lemma outputCalls_messageOutputs (text : String) {l : List ToolCall} (h : ∀ tc∈l, tc.Callable) :
    (messageOutputs respId text l).filterMap outputCall = l.filterMap ToolCall.restored := by
  have htext : (if text≠"" then [textOutput respId text] else []).filterMap outputCall = [] := by
    split_ifs <;> rfl
  have hindex : l.zipIdx.filterMap (ToolCall.restored∘Prod.fst) = l.filterMap ToolCall.restored := by
    rw [←List.filterMap_map,List.zipIdx_map_fst]
  unfold messageOutputs
  rw [List.filterMap_append,htext,List.nil_append,List.filterMap_filterMap,←hindex]
  apply List.filterMap_congr
  intro p hp
  rw [Function.comp_apply]
  exact outputCall_callOutput (h p.1 (List.fst_mem_of_mem_zipIdx hp)) p.2

end

/-- The counts that both APIs have. -/
structure SameUsage (u v : Usage) (totalTokens : ℤ) : Prop where
  promptTokens : v.promptTokens = u.promptTokens
  completionTokens : v.completionTokens = u.completionTokens
  totalTokens : v.totalTokens = totalTokens
  cachedTokens : v.promptTokensDetails.cachedTokens = u.promptTokensDetails.cachedTokens
  reasoningTokens : v.completionTokenDetails.reasoningTokens = u.completionTokenDetails.reasoningTokens

/-- The usage comes back; only a total of zero is made up for. -/
lemma sameUsage_back (u : Usage) : SameUsage u (responsesUsageToChatUsage (some (chatUsageToResponsesUsage u)))
    (if u.totalTokens = 0 then u.promptTokens+u.completionTokens else u.totalTokens) := by
  constructor
  case totalTokens =>
    simp only [responsesUsageToChatUsage,chatUsageToResponsesUsage]
    split_ifs <;> simp_all
  all_goals rfl

/-- A completion that holds this text and these calls, with a finish reason that fits. -/
structure Holds (back : OpenAITextResponse) (text : String) (toolCalls : List ToolCall) (u : Usage)
    (totalTokens : ℤ) : Prop where
  choice : ∃ c, back.choices = [c] ∧ c.message.role = "assistant" ∧ c.message.stringContent = text ∧
    c.message.toolCalls = toolCalls ∧ (c.finishReason = "tool_calls" ↔ toolCalls≠[]) ∧
      (c.finishReason = "stop" ↔ toolCalls = [])
  usage : SameUsage u back.usage totalTokens

/-- Text comes back with no calls beside it; without a text the calls come back in order. -/
theorem response_round_trip (resp : OpenAITextResponse) (choice : Choice) (rest : List Choice)
    (hchoices : resp.choices = choice::rest) (hcalls : ∀ tc∈choice.message.toolCalls, tc.Callable)
    (respId id : String) (createdAt : ℤ) :
    ∃ mid u back v, chatCompletionsResponseToResponsesResponse (some resp) respId createdAt = .ok (mid,u) ∧
      responsesResponseToChatCompletionsResponse (some mid) id = .ok (back,v) ∧
        Holds back choice.message.stringContent
          (if choice.message.stringContent = "" then choice.message.toolCalls.filterMap ToolCall.restored else [])
            resp.usage (if resp.usage.totalTokens = 0 then resp.usage.promptTokens+resp.usage.completionTokens
              else resp.usage.totalTokens) := by
  refine ⟨_,_,_,_,rfl,rfl,⟨⟨_,rfl,rfl,?_,?_,?_,?_⟩,sameUsage_back resp.usage⟩⟩
  all_goals
    simp only [hchoices,List.head?_cons,Option.map_some,Option.getD_some,extract_messageOutputs,
      outputCalls_messageOutputs _ hcalls]
  · by_cases htext : choice.message.stringContent = ""
    · rw [if_pos htext,htext]
      simp [Message.stringContent]
    · rw [if_neg htext,if_pos rfl]
      rfl
  · split_ifs <;> simp_all
  · split_ifs <;> simp_all

/-- A completion with one call beside a text. -/
def textBesideCall : OpenAITextResponse :=
  ⟨"c","chat.completion",0,"m",
    [⟨0,⟨"assistant",.string "Let me look.",[⟨"call_1","function","lookup","\x7b\x7d"⟩]⟩,"tool_calls"⟩],
    ⟨5,3,8,⟨2,0,0,0,0⟩,⟨0,0,0,1⟩,0,0,none⟩⟩

theorem textBesideCall_back : ∃ mid u back v,
    chatCompletionsResponseToResponsesResponse (some textBesideCall) "r" 1 = .ok (mid,u) ∧
      responsesResponseToChatCompletionsResponse (some mid) "c" = .ok (back,v) ∧
        Holds back "Let me look." [] textBesideCall.usage 8 :=
  response_round_trip textBesideCall _ [] rfl (by
    intro tc htc
    rw [List.mem_singleton.mp htc]
    exact ⟨rfl,by decide,by decide⟩) "r" "c" 1

/-- The call beside the text does not come back. -/
theorem textBesideCall_loses_call : ¬∀ (resp : OpenAITextResponse) (choice : Choice) (rest : List Choice),
    resp.choices = choice::rest → (∀ tc∈choice.message.toolCalls, tc.Callable) →
      ∀ (respId id : String) (createdAt : ℤ),
        ∃ mid u back v, chatCompletionsResponseToResponsesResponse (some resp) respId createdAt = .ok (mid,u) ∧
          responsesResponseToChatCompletionsResponse (some mid) id = .ok (back,v) ∧
            Holds back choice.message.stringContent choice.message.toolCalls resp.usage resp.usage.totalTokens := by
  intro h
  obtain ⟨mid,u,back,v,hmid,hback,hholds⟩ := h textBesideCall _ [] rfl (by
    intro tc htc
    rw [List.mem_singleton.mp htc]
    exact ⟨rfl,by decide,by decide⟩) "r" "c" 1
  obtain rfl := (Prod.mk.inj (Except.ok.inj hmid)).1
  obtain rfl := (Prod.mk.inj (Except.ok.inj hback)).1
  obtain ⟨c,hc,-,-,htools,-⟩ := hholds.choice
  obtain rfl := (List.cons.inj hc).1
  exact absurd htools (by decide)

end Compat
end Tierflow
