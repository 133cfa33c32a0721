import Tierflow.Convert.GeminiRequest
import Tierflow.Foundation.Text

/-! An OpenAI answer turned into a Gemini answer, in one piece or chunk by chunk of a stream. A chunk brings fragments
of calls, and Gemini has no calls in fragments. -/
namespace Tierflow
namespace Convert
namespace ToGemini
open Gemini (FunctionCall ToolCallRequest)

/-! ## Answers -/

structure Usage where
  promptTokens : ℤ
  completionTokens : ℤ
  totalTokens : ℤ
  deriving DecidableEq, Repr

structure ResponseMessage where
  text : String
  toolCalls : List ToolCallRequest
  deriving DecidableEq, Repr

structure Choice where
  index : ℤ
  message : ResponseMessage
  finishReason : String
  deriving DecidableEq, Repr

structure OpenAITextResponse where
  choices : List Choice
  usage : Usage
  deriving DecidableEq, Repr

/-- A fragment of the call in a slot. -/
structure ToolCallResponse where
  slot : ℕ
  id : String
  name : String
  arguments : String
  deriving DecidableEq, Repr

structure Delta where
  content : Option String
  toolCalls : Option (List ToolCallResponse)
  deriving DecidableEq, Repr

def Delta.getContentString (d : Delta) : String := d.content.getD ""

structure StreamChoice where
  index : ℤ
  delta : Delta
  finishReason : Option String
  deriving DecidableEq, Repr

structure StreamResponse where
  choices : List StreamChoice
  usage : Option Usage
  deriving DecidableEq, Repr

inductive Part (J : Type*)
  | text (text : String)
  | functionCall (call : FunctionCall J)
  deriving DecidableEq, Repr

structure Candidate (J : Type*) where
  index : ℤ
  finishReason : Option String
  parts : List (Part J)
  deriving DecidableEq, Repr

structure ChatResponse (J : Type*) where
  candidates : List (Candidate J)
  usageMetadata : Usage
  deriving DecidableEq, Repr

/-- How arguments are read: an object from its text, the empty object, and the object that holds a text. -/
structure Arguments (J : Type*) where
  unmarshal : String → Option J
  empty : J
  wrapped : String → J

/-! ## Conversion -/

section Conversion
variable {J : Type*} (k : Arguments J)

def geminiFinishReason (reason : String) : String :=
  if reason = "stop" then "STOP"
  else if reason = "length" then "MAX_TOKENS"
  else if reason = "content_filter" then "SAFETY"
  else "STOP"

def readArguments (arguments : String) : J :=
  if arguments≠"" then (k.unmarshal arguments).getD (k.wrapped arguments) else k.empty

def callPart (name arguments : String) : Part J := .functionCall ⟨name,readArguments k arguments⟩

def textPart (text : String) : List (Part J) := if text≠"" then [.text text] else []

/-- The calls of a message, or else its text. -/
def messageParts (m : ResponseMessage) : List (Part J) :=
  if m.toolCalls≠[] then m.toolCalls.map (fun tc => callPart k tc.name tc.arguments) else textPart m.text

def responseOpenAI2Gemini (r : OpenAITextResponse) : ChatResponse J where
  candidates := r.choices.map (fun c => ⟨c.index,some (geminiFinishReason c.finishReason),messageParts k c.message⟩)
  usageMetadata := ⟨r.usage.promptTokens,r.usage.completionTokens,r.usage.promptTokens+r.usage.completionTokens⟩

def deltaParts (d : Delta) : List (Part J) :=
  match d.toolCalls with
  | some toolCalls => toolCalls.map (fun tc => callPart k tc.name tc.arguments)
  | none => textPart d.getContentString

def StreamResponse.hasContent (r : StreamResponse) : Bool :=
  r.choices.any (fun c => c.delta.getContentString≠"" ∨ c.delta.toolCalls.getD []≠[])

def StreamResponse.hasFinishReason (r : StreamResponse) : Bool := r.choices.any (fun c => c.finishReason.isSome)

/-- A chunk with nothing in it and no end has no answer. -/
def streamResponseOpenAI2Gemini (estimatePromptTokens : ℤ) (r : StreamResponse) : Option (ChatResponse J) :=
  if r.hasContent = false ∧ r.hasFinishReason = false then none
  else some
    { candidates := r.choices.map (fun c => ⟨c.index,c.finishReason.map geminiFinishReason,deltaParts k c.delta⟩)
      usageMetadata := r.usage.getD ⟨estimatePromptTokens,0,estimatePromptTokens⟩ }

end Conversion

/-! ## What arrives -/

section Arrival
variable {J : Type*}

def Part.calls : Part J → List (FunctionCall J)
  | .functionCall c => [c]
  | .text _ => []

def Part.texts : Part J → List String
  | .text s => [s]
  | .functionCall _ => []

def ChatResponse.parts (r : ChatResponse J) : List (Part J) := r.candidates.flatMap Candidate.parts

/-- The function calls in these answers, in order. -/
def calls (rs : List (ChatResponse J)) : List (FunctionCall J) := (rs.flatMap ChatResponse.parts).flatMap Part.calls

/-- All text in these answers. -/
def text (rs : List (ChatResponse J)) : String := String.join ((rs.flatMap ChatResponse.parts).flatMap Part.texts)

end Arrival

/-! ## Cutting -/

def StreamResponse.deltas (r : StreamResponse) : List Delta := r.choices.map StreamChoice.delta

def Delta.fragments (d : Delta) : List ToolCallResponse := d.toolCalls.getD []

def deltas (chunks : List StreamResponse) : List Delta := chunks.flatMap StreamResponse.deltas

def fragments (chunks : List StreamResponse) : List ToolCallResponse := (deltas chunks).flatMap Delta.fragments

def extend (tc : ToolCallRequest) (f : ToolCallResponse) : ToolCallRequest :=
  ⟨tc.id++f.id,tc.name++f.name,tc.arguments++f.arguments⟩

/-- A fragment for the next slot begins a call, one for a slot before it continues the call there. -/
def addFragment (tools : List ToolCallRequest) (f : ToolCallResponse) : Option (List ToolCallRequest) :=
  if f.slot = tools.length then some (tools++[⟨f.id,f.name,f.arguments⟩])
  else if f.slot<tools.length then some (tools.modify f.slot (fun tc => extend tc f))
  else none

/-- The chunks are the pieces of the message. -/
structure Cuts (chunks : List StreamResponse) (m : ResponseMessage) : Prop where
  text : String.join ((deltas chunks).map Delta.getContentString) = m.text
  toolCalls : (fragments chunks).foldlM addFragment [] = some m.toolCalls

/-- Every call comes in one fragment, and text comes beside a list of calls exactly if the message has calls. -/
structure Whole (chunks : List StreamResponse) : Prop where
  once : ((fragments chunks).map ToolCallResponse.slot).Nodup
  text : ∀ d∈deltas chunks, d.getContentString≠"" → (d.toolCalls.isSome ↔ fragments chunks≠[])

/-- The stream brings the calls and the text of the answer in one piece. -/
structure Agrees {J : Type*} (k : Arguments J) (estimatePromptTokens : ℤ) (chunks : List StreamResponse)
    (response : OpenAITextResponse) : Prop where
  calls : calls (chunks.filterMap (streamResponseOpenAI2Gemini k estimatePromptTokens)) =
    calls [responseOpenAI2Gemini k response]
  text : text (chunks.filterMap (streamResponseOpenAI2Gemini k estimatePromptTokens)) =
    text [responseOpenAI2Gemini k response]

section Pieces
variable {J : Type*} {k : Arguments J} {chunks : List StreamResponse} {r : StreamResponse} {d : Delta}
  {m : ResponseMessage} {tools tools' : List ToolCallRequest} {fs : List ToolCallResponse} {n : ℤ}

/-! ## Calls in one fragment -/

lemma addFragment_length {f : ToolCallResponse} (h : addFragment tools f = some tools') :
    (f.slot = tools.length ∧ tools' = tools++[⟨f.id,f.name,f.arguments⟩]) ∨
      (f.slot<tools.length ∧ tools'.length = tools.length) := by
  unfold addFragment at h
  split_ifs at h with hnext hslot
  · exact .inl ⟨hnext,(Option.some.inj h).symm⟩
  · right
    rw [←Option.some.inj h,List.length_modify]
    exact ⟨hslot,rfl⟩

lemma length_le_foldlM (h : fs.foldlM addFragment tools = some tools') :
    tools.length ≤ tools'.length ∧ tools'.length ≤ tools.length+fs.length := by
  induction fs generalizing tools with
  | nil =>
    rw [List.foldlM_nil] at h
    rw [Option.some.inj h]
    exact ⟨Nat.le_refl _,Nat.le_refl _⟩
  | cons f fs ih =>
    rw [List.foldlM_cons] at h
    obtain ⟨next,hnext,hrest⟩ := Option.bind_eq_some_iff.mp h
    obtain ⟨h1,h2⟩ := ih hrest
    rw [List.length_cons]
    rcases addFragment_length hnext with ⟨_,rfl⟩ | ⟨_,hlength⟩
    · rw [List.length_append,List.length_singleton] at h1 h2
      omega
    · omega

/-- Every fragment begins a call exactly if no slot comes twice. -/
lemma length_foldlM_iff (h : fs.foldlM addFragment tools = some tools') :
    tools'.length = tools.length+fs.length ↔
      (fs.map ToolCallResponse.slot).Nodup ∧ ∀ f∈fs, tools.length ≤ f.slot := by
  induction fs generalizing tools with
  | nil =>
    rw [List.foldlM_nil] at h
    rw [Option.some.inj h]
    simp
  | cons f fs ih =>
    rw [List.foldlM_cons] at h
    obtain ⟨next,hnext,hrest⟩ := Option.bind_eq_some_iff.mp h
    rw [List.length_cons,List.map_cons,List.nodup_cons,List.forall_mem_cons]
    rcases addFragment_length hnext with ⟨hslot,rfl⟩ | ⟨hslot,hlength⟩
    · have hih := ih hrest
      rw [List.length_append,List.length_singleton] at hih
      rw [show tools.length+(fs.length+1) = tools.length+1+fs.length by omega,hih]
      constructor
      · rintro ⟨hnodup,hle⟩
        refine ⟨⟨fun hmem => ?_,hnodup⟩,by omega,fun f' hf' => (Nat.le_succ _).trans (hle f' hf')⟩
        obtain ⟨f',hf',hsame⟩ := List.mem_map.mp hmem
        have := hle f' hf'
        omega
      · rintro ⟨⟨hnot,hnodup⟩,_,hle⟩
        refine ⟨hnodup,fun f' hf' => ?_⟩
        have hle' := hle f' hf'
        have hne : f'.slot≠f.slot := fun hsame => hnot (List.mem_map.mpr ⟨f',hf',hsame⟩)
        omega
    · have hle := (length_le_foldlM hrest).2
      constructor
      · intro heq
        omega
      · rintro ⟨_,hslot',_⟩
        omega

lemma foldlM_of_begins (h : fs.foldlM addFragment tools = some tools') (hle : ∀ f∈fs, tools.length ≤ f.slot)
    (hnodup : (fs.map ToolCallResponse.slot).Nodup) :
    tools' = tools++fs.map (fun f => ⟨f.id,f.name,f.arguments⟩) := by
  induction fs generalizing tools with
  | nil =>
    rw [List.foldlM_nil] at h
    rw [←Option.some.inj h,List.map_nil,List.append_nil]
  | cons f fs ih =>
    rw [List.foldlM_cons] at h
    obtain ⟨next,hnext,hrest⟩ := Option.bind_eq_some_iff.mp h
    rw [List.map_cons,List.nodup_cons] at hnodup
    obtain ⟨hf,hle⟩ := List.forall_mem_cons.mp hle
    rcases addFragment_length hnext with ⟨hslot,rfl⟩ | ⟨hslot,_⟩
    · have hnext : ∀ f'∈fs, (tools++[(⟨f.id,f.name,f.arguments⟩ : ToolCallRequest)]).length ≤ f'.slot := by
        intro f' hf'
        have hle' := hle f' hf'
        have hne : f'.slot≠f.slot := fun hsame => hnodup.1 (List.mem_map.mpr ⟨f',hf',hsame⟩)
        rw [List.length_append,List.length_singleton]
        omega
      rw [ih hrest hnext hnodup.2,List.map_cons,List.append_assoc,List.singleton_append]
    · omega

/-! ## Parts -/

lemma chunk_parts (r : StreamResponse) :
    (streamResponseOpenAI2Gemini k n r).toList.flatMap ChatResponse.parts = r.deltas.flatMap (deltaParts k) := by
  have hcandidates : ∀ choices : List StreamChoice, (choices.map (fun c => (⟨c.index,
      c.finishReason.map geminiFinishReason,deltaParts k c.delta⟩ : Candidate J))).flatMap Candidate.parts =
        (choices.map StreamChoice.delta).flatMap (deltaParts k) := by
    intro choices
    rw [List.flatMap_map,List.flatMap_map]
  unfold streamResponseOpenAI2Gemini
  split_ifs with hskip
  · have hnone : ∀ d∈r.deltas, deltaParts k d = [] := by
      intro d hd
      obtain ⟨c,hc,rfl⟩ := List.mem_map.mp hd
      have hempty := List.any_eq_false.mp hskip.1 c hc
      rw [decide_eq_true_eq,not_or,not_not,not_not] at hempty
      unfold deltaParts
      cases htools : c.delta.toolCalls with
      | none =>
        unfold textPart
        rw [if_neg (not_not.mpr hempty.1)]
      | some toolCalls =>
        rw [htools] at hempty
        rw [show toolCalls = [] from hempty.2]
        rfl
    rw [List.flatMap_eq_nil_iff.mpr hnone]
    rfl
  · rw [Option.toList_some,List.flatMap_singleton]
    exact hcandidates r.choices

lemma stream_parts (chunks : List StreamResponse) :
    (chunks.filterMap (streamResponseOpenAI2Gemini k n)).flatMap ChatResponse.parts =
      (deltas chunks).flatMap (deltaParts k) := by
  induction chunks with
  | nil => rfl
  | cons r chunks ih =>
    have hcons : deltas (r::chunks) = r.deltas++deltas chunks := List.flatMap_cons
    rw [hcons,List.flatMap_append,←ih,←chunk_parts (k := k) (n := n) r]
    cases hr : streamResponseOpenAI2Gemini k n r with
    | none =>
      rw [List.filterMap_cons_none hr]
      rfl
    | some response =>
      rw [List.filterMap_cons_some hr,List.flatMap_cons,Option.toList_some,List.flatMap_singleton]

lemma textPart_calls (s : String) : (textPart s : List (Part J)).flatMap Part.calls = [] := by
  unfold textPart
  split_ifs <;> rfl

lemma textPart_texts (s : String) : String.join ((textPart s : List (Part J)).flatMap Part.texts) = s := by
  unfold textPart
  split_ifs with h
  · simp [Part.texts,String.join]
  · rw [not_not.mp h]
    rfl

lemma callParts_calls {α : Type*} (l : List α) (f : α → FunctionCall J) :
    (l.map (fun a => Part.functionCall (f a))).flatMap Part.calls = l.map f := by
  induction l with
  | nil => rfl
  | cons a l ih => rw [List.map_cons,List.flatMap_cons,ih,List.map_cons]; rfl

lemma callParts_texts {α : Type*} (l : List α) (f : α → FunctionCall J) :
    (l.map (fun a => Part.functionCall (f a))).flatMap Part.texts = [] := by
  induction l with
  | nil => rfl
  | cons a l ih => rw [List.map_cons,List.flatMap_cons,ih]; rfl

lemma deltaParts_calls (d : Delta) : (deltaParts k d).flatMap Part.calls =
    d.fragments.map (fun f => ⟨f.name,readArguments k f.arguments⟩) := by
  unfold deltaParts Delta.fragments
  cases d.toolCalls with
  | none => exact textPart_calls _
  | some toolCalls => exact callParts_calls toolCalls _

/-- Text beside a list of calls is not sent. -/
def Delta.sent (d : Delta) : String := if d.toolCalls.isSome then "" else d.getContentString

lemma deltaParts_texts (d : Delta) : String.join ((deltaParts k d).flatMap Part.texts) = d.sent := by
  unfold deltaParts Delta.sent
  cases d.toolCalls with
  | none => exact textPart_texts _
  | some toolCalls =>
    dsimp only
    unfold callPart
    rw [callParts_texts]
    rfl

lemma calls_stream (chunks : List StreamResponse) :
    calls (chunks.filterMap (streamResponseOpenAI2Gemini k n)) =
      (fragments chunks).map (fun f => ⟨f.name,readArguments k f.arguments⟩) := by
  unfold calls fragments
  rw [stream_parts,List.flatMap_assoc,List.map_flatMap]
  congr 1
  funext d
  exact deltaParts_calls d

lemma join_flatMap {α : Type*} (l : List α) (f : α → List String) :
    String.join (l.flatMap f) = String.join (l.map (fun a => String.join (f a))) := by
  induction l with
  | nil => rfl
  | cons a l ih =>
    rw [List.flatMap_cons,String.join_append,ih,List.map_cons,String.join_cons]

lemma text_stream (chunks : List StreamResponse) :
    text (chunks.filterMap (streamResponseOpenAI2Gemini k n)) = String.join ((deltas chunks).map Delta.sent) := by
  unfold text
  rw [stream_parts,List.flatMap_assoc,join_flatMap]
  congr 2
  funext d
  exact deltaParts_texts d

/-! ## The whole message -/

lemma whole_parts (index : ℤ) (finishReason : String) (usage : Usage) :
    [responseOpenAI2Gemini k ⟨[⟨index,m,finishReason⟩],usage⟩].flatMap ChatResponse.parts = messageParts k m := by
  rw [List.flatMap_singleton]
  exact List.flatMap_singleton _ _

lemma messageParts_calls (m : ResponseMessage) : (messageParts k m).flatMap Part.calls =
    m.toolCalls.map (fun tc => ⟨tc.name,readArguments k tc.arguments⟩) := by
  unfold messageParts
  split_ifs with h
  · exact callParts_calls m.toolCalls _
  · rw [textPart_calls,not_not.mp h]
    rfl

lemma messageParts_texts (m : ResponseMessage) : String.join ((messageParts k m).flatMap Part.texts) =
    if m.toolCalls≠[] then "" else m.text := by
  unfold messageParts
  split_ifs with h
  · unfold callPart
    rw [callParts_texts]
    rfl
  · exact textPart_texts m.text

/-- Where pieces may be missing, the texts are equal exactly if no piece is missing. -/
lemma join_eq_iff {α : Type*} {l : List α} {f g : α → String} (h : ∀ a∈l, f a = g a ∨ f a = "") :
    String.join (l.map f) = String.join (l.map g) ↔ ∀ a∈l, f a = g a := by
  have hcons : ∀ (a : α) (l : List α) (f : α → String), (String.join ((a::l).map f)).toList =
      (f a).toList++(String.join (l.map f)).toList := by
    intro a l f
    rw [List.map_cons,String.join_cons,String.toList_append]
  have hle : ∀ l : List α, (∀ a∈l, f a = g a ∨ f a = "") →
      (String.join (l.map f)).toList.length ≤ (String.join (l.map g)).toList.length := by
    intro l h
    induction l with
    | nil => exact Nat.le_refl _
    | cons a l ih =>
      obtain ⟨ha,hl⟩ := List.forall_mem_cons.mp h
      rw [hcons,hcons,List.length_append,List.length_append]
      have := ih hl
      rcases ha with ha | ha
      · rw [ha]
        omega
      · rw [ha,String.toList_empty,List.length_nil]
        omega
  constructor
  · intro heq
    have hlist := congrArg String.toList heq
    clear heq
    induction l with
    | nil => exact fun a ha => absurd ha List.not_mem_nil
    | cons a l ih =>
      obtain ⟨ha,hl⟩ := List.forall_mem_cons.mp h
      rw [hcons,hcons] at hlist
      have hsame : f a = g a := by
        rcases ha with ha | ha
        · exact ha
        · have hlength := congrArg List.length hlist
          rw [List.length_append,List.length_append,ha,String.toList_empty,List.length_nil] at hlength
          have := hle l hl
          have hzero : (g a).toList = [] := List.length_eq_zero_iff.mp (by omega)
          rw [ha,String.toList_eq_nil_iff.mp hzero]
      rw [hsame] at hlist
      exact List.forall_mem_cons.mpr ⟨hsame,ih hl (List.append_cancel_left hlist)⟩
  · intro hall
    rw [List.map_congr_left hall]

lemma fragments_eq_nil_iff (h : (fragments chunks).foldlM addFragment [] = some m.toolCalls) :
    m.toolCalls = [] ↔ fragments chunks = [] := by
  cases hf : fragments chunks with
  | nil =>
    rw [hf,List.foldlM_nil] at h
    exact iff_of_true (Option.some.inj h).symm rfl
  | cons f fs =>
    rw [hf,List.foldlM_cons] at h
    obtain ⟨next,hnext,hrest⟩ := Option.bind_eq_some_iff.mp h
    have hle := (length_le_foldlM hrest).1
    refine iff_of_false (fun hnil => ?_) (List.cons_ne_nil f fs)
    rw [hnil,List.length_nil] at hle
    rcases addFragment_length hnext with ⟨_,heq⟩ | ⟨hslot,_⟩
    · rw [heq,List.length_append,List.length_singleton] at hle
      omega
    · exact absurd hslot (Nat.not_lt_zero _)

/-- The stream and the answer in one piece agree exactly if every call comes whole and text is not mixed with calls. -/
theorem agrees_iff (h : Cuts chunks m) (index : ℤ) (finishReason : String) (usage : Usage) :
    Agrees k n chunks ⟨[⟨index,m,finishReason⟩],usage⟩ ↔ Whole chunks := by
  have hcalls : calls (chunks.filterMap (streamResponseOpenAI2Gemini k n)) =
      calls [responseOpenAI2Gemini k ⟨[⟨index,m,finishReason⟩],usage⟩] ↔
        ((fragments chunks).map ToolCallResponse.slot).Nodup := by
    have hlength := length_foldlM_iff h.toolCalls
    rw [List.length_nil,Nat.zero_add] at hlength
    rw [calls_stream,calls,whole_parts,messageParts_calls]
    constructor
    · intro heq
      have hsame := congrArg List.length heq
      rw [List.length_map,List.length_map] at hsame
      exact (hlength.mp hsame.symm).1
    · intro hnodup
      rw [foldlM_of_begins h.toolCalls (fun f _ => Nat.zero_le _) hnodup,List.nil_append,List.map_map]
      rfl
  have htext : text (chunks.filterMap (streamResponseOpenAI2Gemini k n)) =
      text [responseOpenAI2Gemini k ⟨[⟨index,m,finishReason⟩],usage⟩] ↔
        ∀ d∈deltas chunks, d.getContentString≠"" → (d.toolCalls.isSome ↔ fragments chunks≠[]) := by
    rw [text_stream,text,whole_parts,messageParts_texts]
    by_cases hnone : fragments chunks = []
    · rw [if_neg (not_not.mpr ((fragments_eq_nil_iff h.toolCalls).mpr hnone)),←h.text,join_eq_iff]
      · apply forall₂_congr
        intro d _
        unfold Delta.sent
        by_cases hsome : d.toolCalls.isSome
        · rw [if_pos hsome]
          simp only [hsome,hnone,ne_eq,not_true_eq_false,true_iff,imp_false,not_not]
          exact eq_comm
        · rw [if_neg hsome]
          simp [hsome,hnone]
      · intro d _
        unfold Delta.sent
        split_ifs
        · exact .inr rfl
        · exact .inl rfl
    · rw [if_pos (fun hnil => hnone ((fragments_eq_nil_iff h.toolCalls).mp hnil))]
      rw [Text.join_eq_empty_iff,List.forall_mem_map]
      apply forall₂_congr
      intro d _
      unfold Delta.sent
      by_cases hsome : d.toolCalls.isSome
      · rw [if_pos hsome]
        simp [hsome,hnone]
      · rw [if_neg hsome]
        simp only [hsome,hnone,ne_eq,not_false_eq_true,iff_true,Bool.false_eq_true,imp_false,not_not]
  constructor
  · intro hagrees
    exact ⟨hcalls.mp hagrees.calls,htext.mp hagrees.text⟩
  · intro hwhole
    exact ⟨hcalls.mpr hwhole.once,htext.mpr hwhole.text⟩

/-- Arguments that stay texts. -/
def asText : Arguments String := ⟨some,"\x7b\x7d",id⟩

/-- A call whose arguments come after its name. -/
def inTwoChunks : List StreamResponse := [
  ⟨[⟨0,⟨none,some [⟨0,"call_1","weather",""⟩]⟩,none⟩],none⟩,
  ⟨[⟨0,⟨none,some [⟨0,"","","\x7b\x7d"⟩]⟩,some "tool_calls"⟩],none⟩]

def inOneChunk : List StreamResponse := [
  ⟨[⟨0,⟨none,some [⟨0,"call_1","weather","\x7b\x7d"⟩]⟩,some "tool_calls"⟩],none⟩]

def weatherCall : ResponseMessage := ⟨"",[⟨"call_1","weather","\x7b\x7d"⟩]⟩

theorem agrees_inOneChunk :
    Agrees asText 0 inOneChunk ⟨[⟨0,weatherCall,"tool_calls"⟩],⟨0,0,0⟩⟩ :=
  (agrees_iff ⟨by decide,by decide⟩ 0 "tool_calls" ⟨0,0,0⟩).mpr ⟨by decide,by decide⟩

/-- The second fragment becomes a call without a name. -/
theorem agrees_not_always : ¬∀ chunks m, Cuts chunks m →
    Agrees asText 0 chunks ⟨[⟨0,m,"tool_calls"⟩],⟨0,0,0⟩⟩ := by
  intro h
  have hagrees := (h inTwoChunks weatherCall ⟨by decide,by decide⟩).calls
  exact absurd hagrees (by decide)

end Pieces

end ToGemini
end Convert
end Tierflow
