import Tierflow.Convert.GeminiRequest

/-! A Gemini request turned into an OpenAI request. Gemini has no call identifiers, so they are made up from a counter;
the results of calls come in other contents than the calls. -/
namespace Tierflow
namespace Convert
namespace FromGemini
open Gemini (InlineData FunctionCall FunctionResponse ToolCallRequest)

/-! ## Requests -/

/-- A slice of an array: its elements, and what the array has behind them. -/
structure Slice (α : Type*) where
  items : List α
  spare : List α
  deriving DecidableEq, Repr

/-- The first `n` elements of the array. It panics if the array has not so many. -/
def Slice.upTo {α : Type*} (s : Slice α) (n : ℕ) : Option (List α) :=
  if n ≤ (s.items++s.spare).length then some ((s.items++s.spare).take n) else none

structure FileData where
  mimeType : String
  fileUri : String
  deriving DecidableEq, Repr

structure Part (J : Type*) where
  text : String := ""
  inlineData : Option InlineData := none
  fileData : Option FileData := none
  functionCall : Option (FunctionCall J) := none
  functionResponse : Option (FunctionResponse J) := none
  deriving DecidableEq, Repr

structure ChatContent (J : Type*) where
  role : String
  parts : List (Part J)
  deriving DecidableEq, Repr

structure GenerationConfig where
  temperature : Option ℚ
  topP : Option ℚ
  topK : Option ℚ
  maxOutputTokens : Option ℕ
  candidateCount : Option ℤ
  stopSequences : Slice String
  deriving DecidableEq, Repr

structure FunctionRequest (P : Type*) where
  name : String
  description : String
  parameters : P
  deriving DecidableEq, Repr

structure ChatTool (D : Type*) where
  functionDeclarations : Option D
  deriving DecidableEq, Repr

structure ChatRequest (J D : Type*) where
  contents : List (ChatContent J)
  systemInstructions : Option (ChatContent J)
  generationConfig : GenerationConfig
  tools : List (ChatTool D)
  deriving DecidableEq, Repr

inductive MediaContent
  | text (text : String)
  | imageUrl (url detail mimeType : String)
  deriving DecidableEq, Repr

inductive MessageContent
  | null
  | string (s : String)
  | media (l : List MediaContent)
  deriving DecidableEq, Repr

structure Message where
  role : String
  content : MessageContent := .null
  toolCalls : List ToolCallRequest := []
  toolCallId : String := ""
  deriving DecidableEq, Repr

def Message.parseContent (m : Message) : List MediaContent :=
  match m.content with
  | .null => []
  | .string s => [.text s]
  | .media l => l

structure OpenAIRequest (P : Type*) where
  model : String
  stream : Bool
  messages : List Message
  temperature : Option ℚ
  topP : Option ℚ
  topK : Option ℤ
  maxTokens : Option ℕ
  stop : Option (List String)
  n : Option ℤ
  tools : List (FunctionRequest P)
  deriving DecidableEq, Repr

/-! ## Conversion -/

section Conversion
variable {J D P : Type*} (toJSONString : J → String) (functionRequests : D → Option (List (FunctionRequest P)))

def convertGeminiRoleToOpenAI (geminiRole : String) : String :=
  if geminiRole = "user" then "user"
  else if geminiRole = "model" then "assistant"
  else if geminiRole = "function" then "function"
  else "user"

def extractTextFromGeminiParts (parts : List (Part J)) : String :=
  "\n".intercalate ((parts.map Part.text).filter (fun text => text≠""))

/-- What a part is taken for; its fields are looked at in this order, and only the first that is there counts. -/
inductive Piece (J : Type*)
  | medium (m : MediaContent)
  | call (c : FunctionCall J)
  | response (r : FunctionResponse J)
  | nothing
  deriving DecidableEq, Repr

def Part.piece (p : Part J) : Piece J :=
  if p.text≠"" then .medium (.text p.text)
  else
    match p.inlineData with
    | some d => .medium (.imageUrl ("data:"++d.mimeType++";base64,"++d.data) "auto" d.mimeType)
    | none =>
      match p.fileData with
      | some d => .medium (.imageUrl d.fileUri "auto" d.mimeType)
      | none =>
        match p.functionCall with
        | some c => .call c
        | none =>
          match p.functionResponse with
          | some r => .response r
          | none => .nothing

/-- A content on its way: its media and calls, and the messages so far. -/
structure Conversion where
  mediaContents : List MediaContent
  toolCalls : List ToolCallRequest
  messages : List Message
  deriving DecidableEq, Repr

def callId (n : ℕ) : String := "call_"++Text.printNat n

def convertPart (s : Conversion) (p : Part J) : Conversion :=
  match p.piece with
  | .medium m => { s with mediaContents := s.mediaContents++[m] }
  | .call c =>
    { s with toolCalls := s.toolCalls++[⟨callId (s.toolCalls.length+1),c.functionName,toJSONString c.arguments⟩] }
  | .response r =>
    { s with messages := s.messages++
        [{ role := "tool", content := .string (toJSONString r.response), toolCallId := callId s.toolCalls.length }] }
  | .nothing => s

/-- The calls, or else a single text, or else the list of the media. -/
def contentMessage (role : String) (mediaContents : List MediaContent) (toolCalls : List ToolCallRequest) : Message :=
  if toolCalls≠[] then { role := role, toolCalls := toolCalls }
  else
    match mediaContents with
    | [] => { role := role }
    | [.text s] => { role := role, content := .string s }
    | l => { role := role, content := .media l }

def convertContent (messages : List Message) (c : ChatContent J) : List Message :=
  let s := c.parts.foldl (convertPart toJSONString) ⟨[],[],messages⟩
  let message := contentMessage (convertGeminiRoleToOpenAI c.role) s.mediaContents s.toolCalls
  if message.parseContent≠[] ∨ message.toolCalls≠[] then s.messages++[message] else s.messages

def convertTools (tools : List (ChatTool D)) : List (FunctionRequest P) :=
  tools.flatMap (fun tool => (tool.functionDeclarations.bind functionRequests).getD [])

/-- The stop sequences that are set, if any. Without a result it panics. -/
def convertStop (stopSequences : Slice String) : Option (Option (List String)) :=
  if stopSequences.items = [] then some none else (stopSequences.upTo 4).map some

def convertMessages (contents : List (ChatContent J)) : List Message :=
  contents.foldl (convertContent toJSONString) []

def systemMessage (si : ChatContent J) : Message :=
  { role := "system", content := .string (extractTextFromGeminiParts si.parts) }

/-- No result means that the conversion panics. -/
def geminiToOpenAIRequest (upstreamModelName : String) (isStream : Bool) (r : ChatRequest J D) :
    Option (OpenAIRequest P) :=
  (convertStop r.generationConfig.stopSequences).map fun stop =>
    { model := upstreamModelName
      stream := isStream
      messages := (r.systemInstructions.map systemMessage).toList++convertMessages toJSONString r.contents
      temperature := r.generationConfig.temperature
      topP := r.generationConfig.topP.filter (fun q => 0<q)
      topK := (r.generationConfig.topK.filter (fun q => 0<q)).map (fun q => ⌊q⌋)
      maxTokens := r.generationConfig.maxOutputTokens.filter (fun n => 0<n)
      stop := stop
      n := r.generationConfig.candidateCount.filter (fun n => 0<n)
      tools := convertTools functionRequests r.tools }

end Conversion

/-! ## What is converted -/

section Spec
variable {J D P : Type*} (toJSONString : J → String) (functionRequests : D → Option (List (FunctionRequest P)))

/-- The text and the media of a part. -/
def Part.media (p : Part J) : List MediaContent :=
  (if p.text≠"" then [.text p.text] else [])++
    (p.inlineData.map fun d =>
      MediaContent.imageUrl ("data:"++d.mimeType++";base64,"++d.data) "auto" d.mimeType).toList++
    (p.fileData.map fun d => MediaContent.imageUrl d.fileUri "auto" d.mimeType).toList

def ChatContent.media (c : ChatContent J) : List MediaContent := c.parts.flatMap Part.media

/-- The function calls of a content, by name and arguments. -/
def ChatContent.calls (c : ChatContent J) : List (FunctionCall J) := c.parts.flatMap (fun p => p.functionCall.toList)

def Piece.responses : Piece J → List (FunctionResponse J)
  | .response r => [r]
  | _ => []

/-- The responses that become tool messages. -/
def ChatContent.responses (c : ChatContent J) : List (FunctionResponse J) :=
  c.parts.flatMap (fun p => p.piece.responses)

/-- The place of the call with this name that has so many of the name before it. -/
def nthNamed (turn : List (String × ℕ)) (name : String) (n : ℕ) : Option ℕ :=
  ((turn.filter (fun c => c.1 = name))[n]?).map Prod.snd

/-- For each response of a content the place of its call: the first response with a name answers the first call with it
of the last turn of the model, and so on. -/
def answersOf (turn : List (String × ℕ)) (seen : List String) : List (FunctionResponse J) → List (Option ℕ)
  | [] => []
  | r::rs => nthNamed turn r.name (seen.count r.name)::answersOf turn (seen++[r.name]) rs

/-- The calls that the responses of these contents answer, by their places among all calls. -/
def answers (turn : List (String × ℕ)) (seen : List String) (next : ℕ) : List (ChatContent J) → List (Option ℕ)
  | [] => []
  | c::cs =>
    let numbered := (c.calls.zipIdx next).map (fun q => (q.1.functionName,q.2))
    answersOf turn seen c.responses++
      (if c.role = "model" then answers numbered [] (next+c.calls.length) cs
      else answers turn (seen++c.responses.map FunctionResponse.name) (next+c.calls.length) cs)

def OpenAIRequest.calls (out : OpenAIRequest P) : List ToolCallRequest := out.messages.flatMap Message.toolCalls

def OpenAIRequest.media (out : OpenAIRequest P) : List MediaContent :=
  (out.messages.filter (fun m => m.role≠"tool")).flatMap Message.parseContent

def OpenAIRequest.toolMessages (out : OpenAIRequest P) : List Message := out.messages.filter (fun m => m.role = "tool")

/-- The text of the instructions in one piece, then all the rest. -/
def ChatRequest.media (r : ChatRequest J D) : List MediaContent :=
  (r.systemInstructions.toList.flatMap fun si =>
    .text (extractTextFromGeminiParts si.parts)::si.parts.flatMap (fun p => { p with text := "" }.media))++
    r.contents.flatMap ChatContent.media

/-- Calls get identifiers of their own, answers the identifier of their call, and nothing is lost. -/
structure Converts (upstreamModelName : String) (isStream : Bool) (r : ChatRequest J D) (out : OpenAIRequest P) :
    Prop where
  result : geminiToOpenAIRequest toJSONString functionRequests upstreamModelName isStream r = some out
  calls : out.calls.map (fun c => (c.name,c.arguments)) =
    (r.contents.flatMap ChatContent.calls).map (fun c => (c.functionName,toJSONString c.arguments))
  unique : (out.calls.map ToolCallRequest.id).Nodup
  answered : List.Forall₂ (fun k m => ∀ i, k = some i → (out.calls[i]?).map ToolCallRequest.id = some m.toolCallId)
    (answers [] [] 0 r.contents) out.toolMessages
  media : out.media = r.media
  stop : out.stop.getD [] = r.generationConfig.stopSequences.items.take 4

/-- A part is one thing only, apart from responses. -/
def Part.Single (p : Part J) : Prop := p.media.length+p.functionCall.toList.length ≤ 1

/-- One content at most has calls, and nothing but calls; nothing answers a call, and there are no stop sequences or at
least four. -/
structure Convertible (r : ChatRequest J D) : Prop where
  single : ∀ c∈r.contents, ∀ p∈c.parts, p.Single
  oneTurn : (r.contents.filter (fun c => c.calls≠[])).length ≤ 1
  separate : ∀ c∈r.contents, c.calls≠[] → c.media = []
  unanswered : ∀ k∈answers [] [] 0 r.contents, k = none
  instructions : ∀ si∈r.systemInstructions, ∀ p∈si.parts, p.inlineData = none ∧ p.fileData = none
  stop : r.generationConfig.stopSequences.items = [] ∨ 4 ≤ r.generationConfig.stopSequences.items.length

end Spec

/-! ## One content -/

section Content
variable {J D P : Type*} {toJSONString : J → String} {c : ChatContent J} {parts : List (Part J)} {p : Part J}

def Piece.media : Piece J → List MediaContent
  | .medium m => [m]
  | _ => []

def Piece.calls : Piece J → List (FunctionCall J)
  | .call c => [c]
  | _ => []

lemma piece_media (p : Part J) : p.piece.media = p.media.take 1 := by
  unfold Part.piece Part.media
  split_ifs with htext
  · rfl
  · cases p.inlineData with
    | some d => rfl
    | none =>
      cases p.fileData with
      | some d => rfl
      | none =>
        cases p.functionCall with
        | some c => rfl
        | none => cases p.functionResponse <;> rfl

lemma piece_calls (p : Part J) : p.piece.calls = if p.media = [] then p.functionCall.toList else [] := by
  unfold Part.piece Part.media
  split_ifs with htext hmedia hmedia
  · exact absurd hmedia (List.cons_ne_nil _ _)
  · rfl
  · cases hinline : p.inlineData with
    | some d =>
      rw [hinline] at hmedia
      exact absurd hmedia (List.cons_ne_nil _ _)
    | none =>
      cases hfile : p.fileData with
      | some d =>
        rw [hinline,hfile] at hmedia
        exact absurd hmedia (List.cons_ne_nil _ _)
      | none =>
        cases p.functionCall with
        | some c => rfl
        | none => cases p.functionResponse <;> rfl
  · cases hinline : p.inlineData with
    | some d => rfl
    | none =>
      cases hfile : p.fileData with
      | some d => rfl
      | none =>
        rw [hinline,hfile] at hmedia
        exact absurd rfl hmedia

def toolCall (toJSONString : J → String) (q : FunctionCall J × ℕ) : ToolCallRequest :=
  ⟨callId q.2,q.1.functionName,toJSONString q.1.arguments⟩

def toolMessage (toJSONString : J → String) (n : ℕ) (r : FunctionResponse J) : Message :=
  { role := "tool", content := .string (toJSONString r.response), toolCallId := callId n }

/-- The tool messages of these parts, after so many calls of the content. -/
def toolMessages (toJSONString : J → String) : ℕ → List (Part J) → List Message
  | _,[] => []
  | n,p::parts =>
    p.piece.responses.map (toolMessage toJSONString n)++toolMessages toJSONString (n+p.piece.calls.length) parts

lemma convertPart_eq (s : Conversion) (p : Part J) : convertPart toJSONString s p =
    ⟨s.mediaContents++p.piece.media,
      s.toolCalls++(p.piece.calls.zipIdx (s.toolCalls.length+1)).map (toolCall toJSONString),
      s.messages++p.piece.responses.map (toolMessage toJSONString s.toolCalls.length)⟩ := by
  unfold convertPart
  cases p.piece with
  | medium m => simp [Piece.media,Piece.calls,Piece.responses]
  | call c => simp [Piece.media,Piece.calls,Piece.responses,toolCall]
  | response r => simp [Piece.media,Piece.calls,Piece.responses,toolMessage]
  | nothing => simp [Piece.media,Piece.calls,Piece.responses]

lemma foldl_convertPart (s : Conversion) (parts : List (Part J)) : parts.foldl (convertPart toJSONString) s =
    ⟨s.mediaContents++parts.flatMap (fun p => p.piece.media),
      s.toolCalls++((parts.flatMap (fun p => p.piece.calls)).zipIdx (s.toolCalls.length+1)).map (toolCall toJSONString),
      s.messages++toolMessages toJSONString s.toolCalls.length parts⟩ := by
  induction parts generalizing s with
  | nil => simp [toolMessages]
  | cons p parts ih =>
    rw [List.foldl_cons,ih,convertPart_eq]
    simp only [List.flatMap_cons,List.append_assoc,List.zipIdx_append,List.map_append,List.length_append,
      List.length_map,List.length_zipIdx,toolMessages]
    rw [Nat.add_right_comm]

def ChatContent.convertedCalls (c : ChatContent J) : List (FunctionCall J) := c.parts.flatMap (fun p => p.piece.calls)

def ChatContent.convertedMedia (c : ChatContent J) : List MediaContent := c.parts.flatMap (fun p => p.piece.media)

/-- The calls of a content as they are sent. -/
def ChatContent.toolCalls (toJSONString : J → String) (c : ChatContent J) : List ToolCallRequest :=
  (c.convertedCalls.zipIdx 1).map (toolCall toJSONString)

/-- The message of a content, if there is anything in it. -/
def ChatContent.message? (toJSONString : J → String) (c : ChatContent J) : List Message :=
  let message := contentMessage (convertGeminiRoleToOpenAI c.role) c.convertedMedia (c.toolCalls toJSONString)
  if message.parseContent≠[] ∨ message.toolCalls≠[] then [message] else []

lemma convertContent_eq (messages : List Message) (c : ChatContent J) : convertContent toJSONString messages c =
    messages++(toolMessages toJSONString 0 c.parts++c.message? toJSONString) := by
  unfold convertContent
  rw [foldl_convertPart]
  dsimp only [List.nil_append,List.length_nil]
  have hmessage : c.message? toJSONString =
      if (contentMessage (convertGeminiRoleToOpenAI c.role) c.convertedMedia (c.toolCalls toJSONString)).parseContent≠[] ∨
        (contentMessage (convertGeminiRoleToOpenAI c.role) c.convertedMedia (c.toolCalls toJSONString)).toolCalls≠[] then
        [contentMessage (convertGeminiRoleToOpenAI c.role) c.convertedMedia (c.toolCalls toJSONString)] else [] := rfl
  rw [hmessage,←List.append_assoc]
  by_cases h : (contentMessage (convertGeminiRoleToOpenAI c.role) c.convertedMedia
      (c.toolCalls toJSONString)).parseContent≠[] ∨
    (contentMessage (convertGeminiRoleToOpenAI c.role) c.convertedMedia (c.toolCalls toJSONString)).toolCalls≠[]
  · rw [if_pos h]
    exact if_pos h
  · rw [if_neg h,List.append_nil]
    exact if_neg h

lemma convertMessages_eq (contents : List (ChatContent J)) : convertMessages toJSONString contents =
    contents.flatMap (fun c => toolMessages toJSONString 0 c.parts++c.message? toJSONString) := by
  unfold convertMessages
  rw [List.flatMap_eq_foldl]
  congr 1
  funext messages c
  exact convertContent_eq messages c

lemma contentMessage_toolCalls (role : String) (media : List MediaContent) (toolCalls : List ToolCallRequest) :
    (contentMessage role media toolCalls).toolCalls = toolCalls := by
  unfold contentMessage
  split_ifs with h
  · rfl
  · rw [not_not.mp h]
    split <;> rfl

lemma contentMessage_media (role : String) (media : List MediaContent) (toolCalls : List ToolCallRequest) :
    (contentMessage role media toolCalls).parseContent = if toolCalls≠[] then [] else media := by
  unfold contentMessage
  split_ifs with h
  · rfl
  · split <;> rfl

lemma contentMessage_role (role : String) (media : List MediaContent) (toolCalls : List ToolCallRequest) :
    (contentMessage role media toolCalls).role = role := by
  unfold contentMessage
  split_ifs with h
  · rfl
  · split <;> rfl

lemma convertGeminiRoleToOpenAI_ne (role : String) : convertGeminiRoleToOpenAI role≠"tool" := by
  unfold convertGeminiRoleToOpenAI
  split_ifs <;> decide

lemma message?_toolCalls : (c.message? toJSONString).flatMap Message.toolCalls = c.toolCalls toJSONString := by
  unfold ChatContent.message?
  dsimp only
  rw [contentMessage_toolCalls]
  split_ifs with h
  · rw [List.flatMap_singleton,contentMessage_toolCalls]
  · rw [not_or,not_not,not_not] at h
    rw [h.2]
    rfl

lemma message?_media : (c.message? toJSONString).flatMap Message.parseContent =
    if c.toolCalls toJSONString≠[] then [] else c.convertedMedia := by
  rw [←contentMessage_media (convertGeminiRoleToOpenAI c.role)]
  unfold ChatContent.message?
  dsimp only
  split_ifs with h
  · rw [List.flatMap_singleton]
  · rw [not_or,not_not,not_not] at h
    rw [h.1]
    rfl

lemma message?_role : ∀ m∈c.message? toJSONString, m.role≠"tool" := by
  unfold ChatContent.message?
  dsimp only
  split_ifs with h
  · rw [List.forall_mem_singleton,contentMessage_role]
    exact convertGeminiRoleToOpenAI_ne c.role
  · exact fun m hm => absurd hm List.not_mem_nil

lemma toolMessages_spec (n : ℕ) (parts : List (Part J)) :
    ∀ m∈toolMessages toJSONString n parts, m.role = "tool" ∧ m.toolCalls = [] := by
  induction parts generalizing n with
  | nil => exact fun m hm => absurd hm List.not_mem_nil
  | cons p parts ih =>
    intro m hm
    rcases List.mem_append.mp hm with hm | hm
    · obtain ⟨r,_,rfl⟩ := List.mem_map.mp hm
      exact ⟨rfl,rfl⟩
    · exact ih _ m hm

end Content

/-! ## Sublists -/

section Sublists
variable {α β γ : Type*} {l : List α} {f g : α → List β}

lemma flatMap_sublist (h : ∀ a∈l, (f a).Sublist (g a)) : (l.flatMap f).Sublist (l.flatMap g) := by
  induction l with
  | nil => exact List.Sublist.refl _
  | cons a l ih =>
    obtain ⟨ha,hl⟩ := List.forall_mem_cons.mp h
    exact ha.append (ih hl)

/-- If nothing is missing in the whole, nothing is missing anywhere. -/
lemma flatMap_eq_iff (h : ∀ a∈l, (f a).Sublist (g a)) : l.flatMap f = l.flatMap g ↔ ∀ a∈l, f a = g a := by
  induction l with
  | nil => simp
  | cons a l ih =>
    obtain ⟨ha,hl⟩ := List.forall_mem_cons.mp h
    rw [List.flatMap_cons,List.flatMap_cons,List.forall_mem_cons,←ih hl]
    constructor
    · intro heq
      have hlength := congrArg List.length heq
      rw [List.length_append,List.length_append] at hlength
      have h1 := ha.length_le
      have h2 := (flatMap_sublist hl).length_le
      have h3 := ha.eq_of_length (by omega)
      rw [h3] at heq
      exact ⟨h3,List.append_cancel_left heq⟩
    · rintro ⟨h1,h2⟩
      rw [h1,h2]

lemma map_eq_iff_of_sublist {l l' : List α} (f : α → γ) (h : l.Sublist l') : l.map f = l'.map f ↔ l = l' := by
  constructor
  · intro heq
    have hlength := congrArg List.length heq
    rw [List.length_map,List.length_map] at hlength
    exact h.eq_of_length hlength
  · intro heq
    rw [heq]

lemma forall₂_forall {R S : α → β → Prop} {l : List α} {l' : List β} (hR : List.Forall₂ R l l')
    (hS : List.Forall₂ S l l') : ∀ a∈l, ∃ b∈l', R a b ∧ S a b := by
  induction hR with
  | nil => exact fun a ha => absurd ha List.not_mem_nil
  | cons hab _ ih =>
    obtain ⟨hS1,hS2⟩ := List.forall₂_cons.mp hS
    intro a ha
    rcases List.mem_cons.mp ha with rfl | ha
    · exact ⟨_,List.mem_cons_self,hab,hS1⟩
    · obtain ⟨b,hb,h⟩ := ih hS2 a ha
      exact ⟨b,List.mem_cons_of_mem _ hb,h⟩

end Sublists

/-! ## Calls -/

section Calls
variable {J : Type*} {toJSONString : J → String} {contents : List (ChatContent J)} {c : ChatContent J} {p : Part J}

lemma callId_injective {m n : ℕ} (h : callId m = callId n) : m = n := by
  have hlist := congrArg String.toList h
  unfold callId at hlist
  rw [String.toList_append,String.toList_append] at hlist
  have hdigits := List.append_cancel_left hlist
  exact Text.printNat_injective (String.toList_injective hdigits)

lemma convertedCalls_sublist (c : ChatContent J) : c.convertedCalls.Sublist c.calls := by
  apply flatMap_sublist
  intro p _
  rw [piece_calls]
  split_ifs
  · exact List.Sublist.refl _
  · exact List.nil_sublist _

lemma convertedMedia_sublist (c : ChatContent J) : c.convertedMedia.Sublist c.media := by
  apply flatMap_sublist
  intro p _
  rw [piece_media]
  exact List.take_sublist _ _

lemma convertedCalls_eq_iff : c.convertedCalls = c.calls ↔ ∀ p∈c.parts, p.functionCall≠none → p.media = [] := by
  unfold ChatContent.convertedCalls ChatContent.calls
  rw [flatMap_eq_iff]
  · apply forall₂_congr
    intro p _
    rw [piece_calls]
    cases p.functionCall with
    | none => simp
    | some call =>
      by_cases h : p.media = []
      · simp [h]
      · simp [h]
  · intro p _
    rw [piece_calls]
    split_ifs
    · exact List.Sublist.refl _
    · exact List.nil_sublist _

lemma convertedMedia_eq_iff : c.convertedMedia = c.media ↔ ∀ p∈c.parts, p.media.length ≤ 1 := by
  unfold ChatContent.convertedMedia ChatContent.media
  rw [flatMap_eq_iff]
  · apply forall₂_congr
    intro p _
    rw [piece_media]
    exact List.take_eq_self_iff _
  · intro p _
    rw [piece_media]
    exact List.take_sublist _ _

lemma toolCalls_eq_nil : c.toolCalls toJSONString = [] ↔ c.convertedCalls = [] := by
  unfold ChatContent.toolCalls
  rw [List.map_eq_nil_iff,List.zipIdx_eq_nil_iff]

/-- A content is converted whole if its parts are one thing only and calls stand alone. -/
lemma content_whole_iff :
    (c.convertedCalls = c.calls ∧ (if c.toolCalls toJSONString≠[] then [] else c.convertedMedia) = c.media) ↔
      (∀ p∈c.parts, p.Single) ∧ (c.calls≠[] → c.media = []) := by
  have hcall : ∀ p∈c.parts, p.functionCall≠none → c.calls≠[] := by
    intro p hp hcall hnil
    have := List.flatMap_eq_nil_iff.mp hnil p hp
    cases h : p.functionCall with
    | none => exact hcall h
    | some call => rw [h] at this; contradiction
  constructor
  · rintro ⟨hcalls,hmedia⟩
    have halone : c.calls≠[] → c.media = [] := by
      intro hne
      rw [if_pos (by rwa [ne_eq,toolCalls_eq_nil,hcalls])] at hmedia
      exact hmedia.symm
    refine ⟨fun p hp => ?_,halone⟩
    unfold Part.Single
    cases h : p.functionCall with
    | some call =>
      rw [convertedCalls_eq_iff.mp hcalls p hp (by rw [h]; exact Option.some_ne_none call)]
      rfl
    | none =>
      by_cases hne : c.calls = []
      · rw [if_neg (by rw [not_not,toolCalls_eq_nil,hcalls]; exact hne)] at hmedia
        exact convertedMedia_eq_iff.mp hmedia p hp
      · rw [List.flatMap_eq_nil_iff.mp (halone hne) p hp]
        exact Nat.zero_le _
  · rintro ⟨hsingle,halone⟩
    have hcalls : c.convertedCalls = c.calls := by
      rw [convertedCalls_eq_iff]
      intro p hp hne
      exact List.flatMap_eq_nil_iff.mp (halone (hcall p hp hne)) p hp
    refine ⟨hcalls,?_⟩
    by_cases hne : c.calls = []
    · rw [if_neg (by rw [not_not,toolCalls_eq_nil,hcalls]; exact hne),convertedMedia_eq_iff]
      intro p hp
      exact (Nat.le_add_right _ _).trans (hsingle p hp)
    · rw [if_pos (by rwa [ne_eq,toolCalls_eq_nil,hcalls]),halone hne]

lemma toolCalls_ids (c : ChatContent J) : (c.toolCalls toJSONString).map ToolCallRequest.id =
    (List.range' 1 c.convertedCalls.length).map callId := by
  unfold ChatContent.toolCalls
  rw [List.map_map]
  have hids : ToolCallRequest.id ∘ toolCall toJSONString = callId ∘ Prod.snd := rfl
  rw [hids,←List.map_map,List.zipIdx_map_snd]

lemma toolCalls_nodup (c : ChatContent J) : ((c.toolCalls toJSONString).map ToolCallRequest.id).Nodup := by
  rw [toolCalls_ids]
  exact List.Nodup.map (fun _ _ => callId_injective) List.nodup_range'

lemma callId_mem (h : c.convertedCalls≠[]) : callId 1∈(c.toolCalls toJSONString).map ToolCallRequest.id := by
  rw [toolCalls_ids]
  apply List.mem_map_of_mem
  rw [List.mem_range'_1]
  have := List.length_pos_iff.mpr h
  omega

/-- The counter starts again in each content. -/
lemma ids_nodup_iff (contents : List (ChatContent J)) :
    (contents.flatMap (fun c => (c.toolCalls toJSONString).map ToolCallRequest.id)).Nodup ↔
      (contents.filter (fun c => c.convertedCalls≠[])).length ≤ 1 := by
  induction contents with
  | nil => simp
  | cons c contents ih =>
    rw [List.flatMap_cons]
    by_cases hc : c.convertedCalls = []
    · rw [toolCalls_eq_nil.mpr hc,List.filter_cons_of_neg (by simpa using hc),List.map_nil,List.nil_append,ih]
    · rw [List.filter_cons_of_pos (by simpa using hc),List.length_cons]
      constructor
      · intro hnodup
        have hdisjoint := (List.nodup_append.mp hnodup).2.2
        have hnone : contents.filter (fun c => c.convertedCalls≠[]) = [] := by
          rw [List.filter_eq_nil_iff]
          intro c' hc' hne
          have hmem : callId 1∈contents.flatMap (fun c => (c.toolCalls toJSONString).map ToolCallRequest.id) :=
            List.mem_flatMap.mpr ⟨c',hc',callId_mem (by simpa using hne)⟩
          exact hdisjoint _ (callId_mem hc) _ hmem rfl
        rw [hnone]
        exact Nat.le_refl 1
      · intro hlength
        have hnone : contents.filter (fun c => c.convertedCalls≠[]) = [] := List.length_eq_zero_iff.mp (by omega)
        have hrest : contents.flatMap (fun c => (c.toolCalls toJSONString).map ToolCallRequest.id) = [] := by
          rw [List.flatMap_eq_nil_iff]
          intro c' hc'
          have hnil := List.filter_eq_nil_iff.mp hnone c' hc'
          rw [toolCalls_eq_nil.mpr (by simpa using hnil)]
          rfl
        rw [hrest,List.append_nil]
        exact toolCalls_nodup c

end Calls

/-! ## Answers -/

section Answers
variable {J : Type*} {toJSONString : J → String} {contents : List (ChatContent J)} {c : ChatContent J}
  {turn : List (String × ℕ)} {seen : List String} {next : ℕ}

lemma nthNamed_nil (name : String) (n : ℕ) : nthNamed [] name n = none := rfl

lemma answersOf_nil (rs : List (FunctionResponse J)) : ∀ k∈answersOf [] seen rs, k = none := by
  induction rs generalizing seen with
  | nil => exact fun k hk => absurd hk List.not_mem_nil
  | cons r rs ih => exact List.forall_mem_cons.mpr ⟨nthNamed_nil _ _,ih⟩

lemma length_answersOf (rs : List (FunctionResponse J)) : (answersOf turn seen rs).length = rs.length := by
  induction rs generalizing seen with
  | nil => rfl
  | cons r rs ih => rw [answersOf,List.length_cons,List.length_cons,ih]

lemma length_toolMessages (n : ℕ) (parts : List (Part J)) :
    (toolMessages toJSONString n parts).length = (parts.flatMap (fun p => p.piece.responses)).length := by
  induction parts generalizing n with
  | nil => rfl
  | cons p parts ih => rw [toolMessages,List.length_append,List.length_map,ih,List.flatMap_cons,List.length_append]

lemma toolMessages_zero (h : ∀ p∈c.parts, p.piece.calls = []) :
    ∀ m∈toolMessages toJSONString 0 c.parts, m.toolCallId = callId 0 := by
  have hparts : ∀ parts : List (Part J), (∀ p∈parts, p.piece.calls = []) →
      ∀ m∈toolMessages toJSONString 0 parts, m.toolCallId = callId 0 := by
    intro parts h
    induction parts with
    | nil => exact fun m hm => absurd hm List.not_mem_nil
    | cons p parts ih =>
      obtain ⟨hp,hrest⟩ := List.forall_mem_cons.mp h
      intro m hm
      rw [toolMessages,hp] at hm
      rcases List.mem_append.mp hm with hm | hm
      · obtain ⟨r,_,rfl⟩ := List.mem_map.mp hm
        rfl
      · exact ih hrest m hm
  exact hparts c.parts h

lemma forall₂_of_length {α β : Type*} {R : α → β → Prop} {l : List α} {l' : List β} (hlength : l.length = l'.length)
    (h : (∀ a∈l, ∀ b, R a b) ∨ ∀ b∈l', ∀ a, R a b) : List.Forall₂ R l l' := by
  rw [List.forall₂_iff_get]
  refine ⟨hlength,fun i h1 h2 => ?_⟩
  rcases h with h | h
  · exact h _ (List.get_mem _ _) _
  · exact h _ (List.get_mem _ _) _

/-- Where one content has all calls, a response that answers one of them gets the identifier of no call. -/
lemma answers_zero (hturn : turn = [] ∨ ∀ c∈contents, c.calls = [])
    (hone : (contents.filter (fun c => c.calls≠[])).length ≤ 1) :
    List.Forall₂ (fun k m => k = none ∨ m.toolCallId = callId 0) (answers turn seen next contents)
      (contents.flatMap (fun c => toolMessages toJSONString 0 c.parts)) := by
  induction contents generalizing turn seen next with
  | nil => exact .nil
  | cons c contents ih =>
    rw [answers,List.flatMap_cons]
    have hhere : List.Forall₂ (fun k (m : Message) => k = none ∨ m.toolCallId = callId 0)
        (answersOf turn seen c.responses) (toolMessages toJSONString 0 c.parts) := by
      apply forall₂_of_length
      · rw [length_answersOf,length_toolMessages]
        rfl
      · rcases hturn with hturn | hnone
        · left
          rw [hturn]
          exact fun k hk _ => .inl (answersOf_nil c.responses k hk)
        · right
          have hcalls : c.convertedCalls = [] := by
            have hsub := convertedCalls_sublist c
            rw [hnone c List.mem_cons_self] at hsub
            exact List.sublist_nil.mp hsub
          exact fun m hm _ => .inr (toolMessages_zero (List.flatMap_eq_nil_iff.mp hcalls) m hm)
    refine List.rel_append hhere ?_
    by_cases hc : c.calls = []
    · have hrest : (contents.filter (fun c => c.calls≠[])).length ≤ 1 := by
        rwa [List.filter_cons_of_neg (by simpa using hc)] at hone
      split_ifs
      · exact ih (.inl (by rw [hc]; rfl)) hrest
      · exact ih (hturn.imp id (fun h c' hc' => h c' (List.mem_cons_of_mem _ hc'))) hrest
    · rw [List.filter_cons_of_pos (by simpa using hc),List.length_cons] at hone
      have hnone : ∀ c'∈contents, c'.calls = [] := by
        intro c' hc'
        have hnil := List.length_eq_zero_iff.mp (show (contents.filter (fun c => c.calls≠[])).length = 0 by omega)
        simpa using List.filter_eq_nil_iff.mp hnil c' hc'
      split_ifs
      · exact ih (.inr hnone) (by omega)
      · exact ih (.inr hnone) (by omega)

end Answers

/-! ## The whole request -/

section Whole
variable {J D P : Type*} {toJSONString : J → String} {functionRequests : D → Option (List (FunctionRequest P))}
  {upstreamModelName : String} {isStream : Bool} {r : ChatRequest J D} {out : OpenAIRequest P}

lemma result_messages
    (h : geminiToOpenAIRequest toJSONString functionRequests upstreamModelName isStream r = some out) :
    out.messages = (r.systemInstructions.map systemMessage).toList++
      r.contents.flatMap (fun c => toolMessages toJSONString 0 c.parts++c.message? toJSONString) := by
  obtain ⟨stop,_,rfl⟩ := Option.map_eq_some_iff.mp h
  rw [convertMessages_eq]

lemma result_calls (h : geminiToOpenAIRequest toJSONString functionRequests upstreamModelName isStream r = some out) :
    out.calls = r.contents.flatMap (ChatContent.toolCalls toJSONString) := by
  have hcontent : ∀ c : ChatContent J, (toolMessages toJSONString 0 c.parts++c.message? toJSONString).flatMap
      Message.toolCalls = c.toolCalls toJSONString := by
    intro c
    rw [List.flatMap_append,message?_toolCalls,
      List.flatMap_eq_nil_iff.mpr (fun m hm => (toolMessages_spec 0 c.parts m hm).2),List.nil_append]
  unfold OpenAIRequest.calls
  rw [result_messages h,List.flatMap_append,List.flatMap_assoc]
  simp only [hcontent]
  cases r.systemInstructions <;> rfl

lemma result_toolMessages
    (h : geminiToOpenAIRequest toJSONString functionRequests upstreamModelName isStream r = some out) :
    out.toolMessages = r.contents.flatMap (fun c => toolMessages toJSONString 0 c.parts) := by
  have hcontent : ∀ c : ChatContent J, (toolMessages toJSONString 0 c.parts++c.message? toJSONString).filter
      (fun m => m.role = "tool") = toolMessages toJSONString 0 c.parts := by
    intro c
    rw [List.filter_append,List.filter_eq_self.mpr (fun m hm => by simpa using (toolMessages_spec 0 c.parts m hm).1),
      List.filter_eq_nil_iff.mpr (fun m hm => by simpa using message?_role m hm),List.append_nil]
  unfold OpenAIRequest.toolMessages
  rw [result_messages h,List.filter_append,List.filter_flatMap]
  simp only [hcontent]
  cases r.systemInstructions <;> rfl

lemma result_media (h : geminiToOpenAIRequest toJSONString functionRequests upstreamModelName isStream r = some out) :
    out.media = r.systemInstructions.toList.map (fun si => .text (extractTextFromGeminiParts si.parts))++
      r.contents.flatMap (fun c => if c.toolCalls toJSONString≠[] then [] else c.convertedMedia) := by
  have hcontent : ∀ c : ChatContent J, ((toolMessages toJSONString 0 c.parts++c.message? toJSONString).filter
      (fun m => m.role≠"tool")).flatMap Message.parseContent =
        if c.toolCalls toJSONString≠[] then [] else c.convertedMedia := by
    intro c
    rw [List.filter_append,List.filter_eq_nil_iff.mpr
      (fun m hm => by simpa using (toolMessages_spec 0 c.parts m hm).1),
      List.filter_eq_self.mpr (fun m hm => by simpa using message?_role m hm),List.nil_append,message?_media]
  unfold OpenAIRequest.media
  rw [result_messages h,List.filter_append,List.filter_flatMap,List.flatMap_append,List.flatMap_assoc]
  simp only [hcontent]
  cases r.systemInstructions <;> rfl

lemma convertStop_iff (s : Slice String) : (∃ stop, convertStop s = some stop ∧ stop.getD [] = s.items.take 4) ↔
    s.items = [] ∨ 4 ≤ s.items.length := by
  unfold convertStop Slice.upTo
  by_cases hempty : s.items = []
  · rw [if_pos hempty,hempty]
    simp
  · rw [if_neg hempty]
    constructor
    · rintro ⟨stop,hstop,htake⟩
      split_ifs at hstop with hlength
      · right
        rw [←Option.some.inj hstop] at htake
        have heq := congrArg List.length htake
        simp only [Option.getD_some,List.length_take] at heq
        omega
      · contradiction
    · rintro (h | h)
      · exact absurd h hempty
      · refine ⟨some (s.items.take 4),?_,rfl⟩
        rw [if_pos (by rw [List.length_append]; omega),List.take_append_of_le_length h]
        rfl

lemma stop_of_result (h : geminiToOpenAIRequest toJSONString functionRequests upstreamModelName isStream r = some out) :
    convertStop r.generationConfig.stopSequences = some out.stop := by
  obtain ⟨stop,hstop,rfl⟩ := Option.map_eq_some_iff.mp h
  exact hstop

lemma calls_iff (h : geminiToOpenAIRequest toJSONString functionRequests upstreamModelName isStream r = some out) :
    out.calls.map (fun c => (c.name,c.arguments)) =
      (r.contents.flatMap ChatContent.calls).map (fun c => (c.functionName,toJSONString c.arguments)) ↔
      ∀ c∈r.contents, c.convertedCalls = c.calls := by
  have hcalls : out.calls.map (fun c => (c.name,c.arguments)) =
      (r.contents.flatMap ChatContent.convertedCalls).map (fun c => (c.functionName,toJSONString c.arguments)) := by
    rw [result_calls h,List.map_flatMap,List.map_flatMap]
    congr 1
    funext c
    unfold ChatContent.toolCalls
    rw [List.map_map]
    have hname : (fun c : ToolCallRequest => (c.name,c.arguments)) ∘ toolCall toJSONString =
        (fun c => (c.functionName,toJSONString c.arguments)) ∘ Prod.fst := rfl
    rw [hname,←List.map_map,List.zipIdx_map_fst]
  rw [hcalls,map_eq_iff_of_sublist _ (flatMap_sublist (fun c _ => convertedCalls_sublist c)),
    flatMap_eq_iff (fun c _ => convertedCalls_sublist c)]

lemma media_iff (h : geminiToOpenAIRequest toJSONString functionRequests upstreamModelName isStream r = some out) :
    out.media = r.media ↔ (∀ si∈r.systemInstructions, ∀ p∈si.parts, p.inlineData = none ∧ p.fileData = none) ∧
      ∀ c∈r.contents, (if c.toolCalls toJSONString≠[] then [] else c.convertedMedia) = c.media := by
  have hsub : ∀ c∈r.contents, (if c.toolCalls toJSONString≠[] then [] else c.convertedMedia).Sublist c.media := by
    intro c _
    split_ifs
    · exact List.nil_sublist _
    · exact convertedMedia_sublist c
  have hnone : ∀ p : Part J, ({ p with text := "" } : Part J).media = [] ↔ p.inlineData = none ∧ p.fileData = none := by
    intro p
    simp [Part.media]
  rw [result_media h,ChatRequest.media,←flatMap_eq_iff hsub]
  cases r.systemInstructions with
  | none => simp
  | some si =>
    simp only [Option.toList_some,List.map_cons,List.map_nil,List.flatMap_cons,List.flatMap_nil,List.append_nil,
      List.cons_append,List.nil_append,List.cons.injEq,true_and,Option.mem_some_iff,forall_eq']
    have hinstructions : si.parts.flatMap (fun p => ({ p with text := "" } : Part J).media) = [] ↔
        ∀ p∈si.parts, p.inlineData = none ∧ p.fileData = none := by
      rw [List.flatMap_eq_nil_iff]
      exact forall₂_congr (fun p _ => hnone p)
    rw [←hinstructions]
    constructor
    · intro heq
      have hlength := congrArg List.length heq
      rw [List.length_append] at hlength
      have hle := (flatMap_sublist hsub).length_le
      have hnil := List.length_eq_zero_iff.mp (show (si.parts.flatMap
        (fun p => ({ p with text := "" } : Part J).media)).length = 0 by omega)
      rw [hnil,List.nil_append] at heq
      exact ⟨hnil,heq⟩
    · rintro ⟨hnil,heq⟩
      rw [hnil,List.nil_append,heq]

lemma unique_iff (h : geminiToOpenAIRequest toJSONString functionRequests upstreamModelName isStream r = some out)
    (hcalls : ∀ c∈r.contents, c.convertedCalls = c.calls) :
    (out.calls.map ToolCallRequest.id).Nodup ↔ (r.contents.filter (fun c => c.calls≠[])).length ≤ 1 := by
  have hfilter : r.contents.filter (fun c => c.calls≠[]) = r.contents.filter (fun c => c.convertedCalls≠[]) := by
    apply List.filter_congr
    intro c hc
    rw [hcalls c hc]
  rw [result_calls h,List.map_flatMap,hfilter]
  exact ids_nodup_iff r.contents

/-- The identifiers of calls begin with one. -/
lemma callId_zero_not_mem
    (h : geminiToOpenAIRequest toJSONString functionRequests upstreamModelName isStream r = some out) :
    ∀ c∈out.calls, c.id≠callId 0 := by
  intro c hc hid
  rw [result_calls h] at hc
  obtain ⟨content,_,hmem⟩ := List.mem_flatMap.mp hc
  have hid' := List.mem_map_of_mem (f := ToolCallRequest.id) hmem
  rw [toolCalls_ids] at hid'
  obtain ⟨n,hn,heq⟩ := List.mem_map.mp hid'
  rw [hid] at heq
  have hzero := callId_injective heq
  rw [List.mem_range'_1] at hn
  omega

lemma answered_iff (h : geminiToOpenAIRequest toJSONString functionRequests upstreamModelName isStream r = some out)
    (hone : (r.contents.filter (fun c => c.calls≠[])).length ≤ 1) :
    List.Forall₂ (fun k m => ∀ i, k = some i → (out.calls[i]?).map ToolCallRequest.id = some m.toolCallId)
      (answers [] [] 0 r.contents) out.toolMessages ↔ ∀ k∈answers [] [] 0 r.contents, k = none := by
  have hzero := @answers_zero J toJSONString r.contents [] [] 0 (.inl rfl) hone
  rw [←result_toolMessages h] at hzero
  constructor
  · intro hanswered k hk
    obtain ⟨m,_,hid,hnone⟩ := forall₂_forall hanswered hzero k hk
    rcases hnone with hnone | hnone
    · exact hnone
    · cases k with
      | none => rfl
      | some i =>
        obtain ⟨call,hcall,heq⟩ := Option.map_eq_some_iff.mp (hid i rfl)
        exact absurd (heq.trans hnone) (callId_zero_not_mem h call (List.mem_of_getElem? hcall))
  · intro hnone
    apply forall₂_of_length hzero.length_eq
    left
    intro k hk m i hi
    rw [hnone k hk] at hi
    contradiction

/-- A request is converted as it should be exactly if it is convertible. -/
theorem converts_iff :
    (∃ out, Converts toJSONString functionRequests upstreamModelName isStream r out) ↔ Convertible r := by
  constructor
  · rintro ⟨out,h⟩
    have hcalls := (calls_iff h.result).mp h.calls
    obtain ⟨hinstructions,hmedia⟩ := (media_iff h.result).mp h.media
    have hone := (unique_iff h.result hcalls).mp h.unique
    have hwhole := fun c hc => content_whole_iff.mp ⟨hcalls c hc,hmedia c hc⟩
    refine ⟨fun c hc => (hwhole c hc).1,hone,fun c hc => (hwhole c hc).2,?_,hinstructions,?_⟩
    · exact (answered_iff h.result hone).mp h.answered
    · exact (convertStop_iff _).mp ⟨out.stop,stop_of_result h.result,h.stop⟩
  · intro h
    obtain ⟨stop,hstop,htake⟩ := (convertStop_iff _).mpr h.stop
    have hresult : ∃ out,
        geminiToOpenAIRequest toJSONString functionRequests upstreamModelName isStream r = some out := by
      unfold geminiToOpenAIRequest
      rw [hstop]
      exact ⟨_,rfl⟩
    obtain ⟨out,hout⟩ := hresult
    have hwhole := fun c hc => (@content_whole_iff J toJSONString c).mpr ⟨h.single c hc,h.separate c hc⟩
    have hcalls := fun c hc => (hwhole c hc).1
    refine ⟨out,hout,(calls_iff hout).mpr hcalls,(unique_iff hout hcalls).mpr h.oneTurn,
      (answered_iff hout h.oneTurn).mpr h.unanswered,
        (media_iff hout).mpr ⟨h.instructions,fun c hc => (hwhole c hc).2⟩,?_⟩
    rw [Option.some.inj ((stop_of_result hout).symm.trans hstop)]
    exact htake

/-- A turn of the model with a call, and the content with its result. -/
def toolUse : ChatRequest Unit Unit where
  contents := [
    ⟨"user",[{ text := "weather?" }]⟩,
    ⟨"model",[{ functionCall := some ⟨"weather",()⟩ }]⟩,
    ⟨"user",[{ functionResponse := some ⟨"weather",()⟩ }]⟩]
  systemInstructions := none
  generationConfig := ⟨none,none,none,none,none,⟨[],[]⟩⟩
  tools := []

/-- The result of a call does not find its call, and one stop sequence is too few. -/
theorem converts_not_always :
    (¬∃ out, Converts (fun _ => "\x7b\x7d") (fun _ => (none : Option (List (FunctionRequest Unit)))) "m" false toolUse
      out) ∧
    ∀ contents : List (ChatContent Unit), ¬∃ out, Converts (fun _ => "\x7b\x7d")
      (fun (_ : Unit) => (none : Option (List (FunctionRequest Unit)))) "m" false
      ⟨contents,none,⟨none,none,none,none,none,⟨["END"],[]⟩⟩,[]⟩ out := by
  constructor
  · rintro ⟨out,h⟩
    have hanswered := h.answered
    rw [result_toolMessages h.result,result_calls h.result] at hanswered
    have hfirst := (List.forall₂_iff_get.mp hanswered).2 0 (by decide) (by decide) 0
    exact absurd (hfirst (by decide)) (by decide)
  · rintro contents ⟨out,h⟩
    obtain ⟨stop,hstop,_⟩ := Option.map_eq_some_iff.mp h.result
    exact absurd hstop (by simp [convertStop,Slice.upTo])

end Whole

end FromGemini
end Convert
end Tierflow
