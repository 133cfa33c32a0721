import Tierflow.Convert.GeminiStream

/-! What the two converters of Gemini answers compute, and what a client has after each response of a stream. -/
namespace Tierflow
namespace Convert
namespace GeminiReply
open Gemini (InlineData FunctionCall)
open Lines

/-! ## Pieces -/

section Pieces
variable {J : Type*}

namespace Piece

@[simp] def call? : Piece J → Option (FunctionCall J)
  | .functionCall call => some call
  | _ => none

@[simp] def thought? : Piece J → Option String
  | .thought s => some s
  | _ => none

/-- What the text of the whole answer shows of a piece. -/
@[simp] def whole? : Piece J → Option String
  | .inlineData d => some (if isImage d then imageLink d else mediaLink d)
  | .functionCall _ => none
  | .thought _ => none
  | .executableCode e => some e.block
  | .codeExecutionResult output => some (outputBlock output)
  | .text s => if s≠"\n" then some s else none

/-- What a chunk shows of a piece, as text or as a thought. -/
@[simp] def streamed? : Piece J → Option String
  | .inlineData d => if isImage d then some (imageLink d) else none
  | .functionCall _ => none
  | .thought s => some s
  | .executableCode e => some (e.block++"\n")
  | .codeExecutionResult output => some (outputBlock output++"\n")
  | .text s => if s≠"\n" then some s else none

end Piece

def callsOf (ps : List (Piece J)) : List (FunctionCall J) := ps.filterMap Piece.call?

def thoughtsOf (ps : List (Piece J)) : List String := ps.filterMap Piece.thought?

def wholeText (ps : List (Piece J)) : String := "\n".intercalate (ps.filterMap Piece.whole?)

def chunkText (ps : List (Piece J)) : String := "\n".intercalate (ps.filterMap Piece.streamed?)

variable (marshal : J → String) (uuid : ℕ → String)

/-- The calls of a response, with ids from the `n`-th and indexes from `i` on. -/
def opened (n i : ℕ) (calls : List (FunctionCall J)) : List ToolCall :=
  calls.mapIdx (fun k call => { getResponseToolCall marshal uuid (n+k) call with index := some (i+k : ℤ) })

def toolsFrom (n : ℕ) (calls : List (FunctionCall J)) : List Tool :=
  calls.mapIdx (fun k call => ⟨"call_"++uuid (n+k),call.functionName,marshal call.arguments⟩)

lemma opened_cons (n i : ℕ) (call : FunctionCall J) (calls : List (FunctionCall J)) :
    opened marshal uuid n i (call::calls) =
      { getResponseToolCall marshal uuid n call with index := some (i : ℤ) }::
        opened marshal uuid (n+1) (i+1) calls := by
  unfold opened
  rw [List.mapIdx_cons]
  congr 2
  funext k call'
  push_cast
  rw [show n+(k+1) = n+1+k by omega,show (i : ℤ)+(k+1) = i+1+k by ring]

lemma toolsFrom_cons (n : ℕ) (call : FunctionCall J) (calls : List (FunctionCall J)) :
    toolsFrom marshal uuid n (call::calls) =
      ⟨"call_"++uuid n,call.functionName,marshal call.arguments⟩::toolsFrom marshal uuid (n+1) calls := by
  unfold toolsFrom
  rw [List.mapIdx_cons]
  congr 2
  funext k call'
  rw [show n+(k+1) = n+1+k by omega]

lemma toolsFrom_append (n : ℕ) (calls calls' : List (FunctionCall J)) :
    toolsFrom marshal uuid n (calls++calls') =
      toolsFrom marshal uuid n calls++toolsFrom marshal uuid (n+calls.length) calls' := by
  unfold toolsFrom
  rw [List.mapIdx_append]
  congr 2
  funext k call
  rw [show n+(k+calls.length) = n+calls.length+k by omega]

@[simp] lemma length_opened (n i : ℕ) (calls : List (FunctionCall J)) :
    (opened marshal uuid n i calls).length = calls.length := by simp [opened]

@[simp] lemma length_toolsFrom (n : ℕ) (calls : List (FunctionCall J)) :
    (toolsFrom marshal uuid n calls).length = calls.length := by simp [toolsFrom]

lemma opened_eq_nil_iff {n i : ℕ} {calls : List (FunctionCall J)} :
    opened marshal uuid n i calls = [] ↔ calls = [] := by simp [opened]

/-! ## The two loops -/

/-- The loop over the parts of a whole answer. -/
lemma whole_loop (ps : List (Piece J)) :
    ps.foldl (WholeChoice.addPiece marshal uuid) ⟨.empty,none,[],finishReasonStop⟩ =
      ⟨written (ps.filterMap Piece.whole?),(thoughtsOf ps).getLast?,
        (callsOf ps).mapIdx (getResponseToolCall marshal uuid),
        if callsOf ps = [] then finishReasonStop else finishReasonToolCalls⟩ := by
  induction ps using List.reverseRecOn with
  | nil => rfl
  | append_singleton ps p ih =>
    rw [List.foldl_append,List.foldl_cons,List.foldl_nil,ih]
    unfold callsOf thoughtsOf
    simp only [List.filterMap_append,List.filterMap_cons,List.filterMap_nil]
    cases p with
    | inlineData d => simp [WholeChoice.addPiece,WholeChoice.write,written_concat]
    | functionCall call => simp [WholeChoice.addPiece]
    | thought text => simp [WholeChoice.addPiece]
    | executableCode e =>
      simp [WholeChoice.addPiece,WholeChoice.write,written_concat]
    | codeExecutionResult output =>
      simp [WholeChoice.addPiece,WholeChoice.write,written_concat]
    | text text =>
      by_cases ht : text = "\n"
      · simp [WholeChoice.addPiece,ht]
      · simp [WholeChoice.addPiece,WholeChoice.write,written_concat,ht]

/-- The loop over the parts of one response. -/
lemma delta_loop (n : ℕ) (ps : List (Piece J)) :
    ps.foldl (DeltaChoice.addPiece marshal uuid n) ⟨.empty,[],false,false⟩ =
      ⟨written (ps.filterMap Piece.streamed?),opened marshal uuid n 0 (callsOf ps),decide (callsOf ps≠[]),
        decide (thoughtsOf ps≠[])⟩ := by
  induction ps using List.reverseRecOn with
  | nil => rfl
  | append_singleton ps p ih =>
    rw [List.foldl_append,List.foldl_cons,List.foldl_nil,ih]
    unfold callsOf thoughtsOf opened
    simp only [List.filterMap_append,List.filterMap_cons,List.filterMap_nil]
    cases p with
    | inlineData d =>
      by_cases hd : isImage d = true
      · simp [DeltaChoice.addPiece,DeltaChoice.write,written_concat,hd]
      · simp [DeltaChoice.addPiece,hd]
    | functionCall call => simp [DeltaChoice.addPiece]
    | thought text =>
      simp [DeltaChoice.addPiece,DeltaChoice.write,written_concat]
    | executableCode e =>
      simp [DeltaChoice.addPiece,DeltaChoice.write,written_concat]
    | codeExecutionResult output =>
      simp [DeltaChoice.addPiece,DeltaChoice.write,written_concat]
    | text text =>
      by_cases ht : text = "\n"
      · simp [DeltaChoice.addPiece,ht]
      · simp [DeltaChoice.addPiece,DeltaChoice.write,written_concat,ht]

/-! ## Numbering -/

lemma callId_ne (k : ℕ) : "call_"++uuid k ≠ "" := by
  intro h
  have hl := congrArg String.length h
  rw [String.length_append] at hl
  have h5 : "call_".length = 5 := by decide
  have h0 : "".length = 0 := by decide
  omega

lemma callId_injective (huuid : Function.Injective uuid) : Function.Injective (fun k => "call_"++uuid k) := by
  intro j k h
  apply huuid
  apply String.toList_injective
  have hl := congrArg String.toList h
  rw [String.toList_append,String.toList_append] at hl
  exact List.append_cancel_left hl

/-- No id that is still to be generated has an index. -/
def Fresh (m : List (String × ℤ)) (n : ℕ) : Prop := ∀ k, n≤k → m.lookup ("call_"++uuid k) = none

/-- New calls are numbered in order. -/
lemma assignIndexes_opened (huuid : Function.Injective uuid) {m : List (String × ℤ)} {n : ℕ} (hm : Fresh uuid m n)
    (i : ℕ) (calls : List (FunctionCall J)) : ∃ m', Fresh uuid m' (n+calls.length) ∧
      assignIndexes m n (opened marshal uuid n i calls) =
        (opened marshal uuid n n calls,m',((n+calls.length : ℕ) : ℤ)) := by
  induction calls generalizing m n i with
  | nil => exact ⟨m,hm,rfl⟩
  | cons call calls ih =>
    have hm' : Fresh uuid (("call_"++uuid n,(n : ℤ))::m) (n+1) := by
      intro k hk
      have hne : ("call_"++uuid k == "call_"++uuid n) = false := by
        rw [beq_eq_false_iff_ne]
        intro he
        have := callId_injective uuid huuid he
        omega
      rw [List.lookup_cons,hne]
      exact hm k (by omega)
    obtain ⟨m',hf,ha⟩ := ih hm' (i+1)
    refine ⟨m',?_,?_⟩
    · rw [List.length_cons,show n+(calls.length+1) = n+1+calls.length by omega]
      exact hf
    · rw [opened_cons,opened_cons,assignIndexes]
      have hid : ({ getResponseToolCall marshal uuid n call with index := some (i : ℤ) } : ToolCall).id =
          "call_"++uuid n := rfl
      rw [hid,if_neg (callId_ne uuid n),hm n le_rfl]
      push_cast at ha ⊢
      rw [ha]
      simp only [Prod.mk.injEq,true_and]
      refine ⟨rfl,?_⟩
      rw [List.length_cons]
      push_cast
      ring

/-! ## What the client receives -/

lemma receive_opened (tools : List Tool) (calls : List (FunctionCall J)) :
    (opened marshal uuid tools.length tools.length calls).foldlM receiveCall tools =
      some (tools++toolsFrom marshal uuid tools.length calls) := by
  induction calls generalizing tools with
  | nil => simp [opened,toolsFrom]
  | cons call calls ih =>
    have h1 : receiveCall tools
        { getResponseToolCall marshal uuid tools.length call with index := some (tools.length : ℤ) } =
        some (tools++[⟨"call_"++uuid tools.length,call.functionName,marshal call.arguments⟩]) := by
      simp [receiveCall,toolOfCall,getResponseToolCall]
    rw [opened_cons,toolsFrom_cons,List.foldlM_cons,h1]
    have h2 := ih (tools++[⟨"call_"++uuid tools.length,call.functionName,marshal call.arguments⟩])
    rw [List.length_append,List.length_singleton] at h2
    rw [Option.bind_eq_bind,Option.bind_some,h2,List.append_assoc]
    rfl

lemma modify_length_append {α : Type*} (f : α → α) (l : List α) (a : α) (r : List α) :
    (l++a::r).modify l.length f = l++f a::r := by
  have h := List.modifyTailIdx_add (List.modifyHead f) 0 l (a::r)
  rwa [add_zero] at h

/-- The pieces of the second chunk complete the calls that the first chunk announced. -/
lemma receive_cleared (tools : List Tool) (calls : List (FunctionCall J)) :
    ((opened marshal uuid tools.length tools.length calls).map
        (fun t => { t with id := "", name := "" })).foldlM receiveCall (tools++toolsFrom (fun _ => "") uuid tools.length calls) =
      some (tools++toolsFrom marshal uuid tools.length calls) := by
  induction calls generalizing tools with
  | nil => simp [opened,toolsFrom]
  | cons call calls ih =>
    rw [opened_cons,toolsFrom_cons,toolsFrom_cons,List.map_cons,List.foldlM_cons]
    have h1 : receiveCall (tools++⟨"call_"++uuid tools.length,call.functionName,""⟩::
          toolsFrom (fun _ => "") uuid (tools.length+1) calls)
        { index := some (tools.length : ℤ), id := "", name := "", arguments := marshal call.arguments } =
        some (tools++⟨"call_"++uuid tools.length,call.functionName,marshal call.arguments⟩::
          toolsFrom (fun _ => "") uuid (tools.length+1) calls) := by
      unfold receiveCall
      rw [Option.getD_some,if_neg (by simp; omega),if_pos (by simp),Int.toNat_natCast,modify_length_append]
      simp
    have h2 := ih (tools++[⟨"call_"++uuid tools.length,call.functionName,marshal call.arguments⟩])
    rw [List.length_append,List.length_singleton,List.append_assoc,List.append_assoc,List.singleton_append,
      List.singleton_append] at h2
    change (receiveCall _ (⟨some (tools.length : ℤ),"","",marshal call.arguments⟩ : ToolCall)).bind _ = _
    rw [h1,Option.bind_some]
    exact h2

/-- The text that the chunks of the responses carry, and their thoughts. -/
def textOf (responses : List (List (Piece J))) : String :=
  String.join (responses.map (fun ps => if thoughtsOf ps = [] then chunkText ps else ""))

def reasoningOf (responses : List (List (Piece J))) : String :=
  String.join (responses.map (fun ps => if thoughtsOf ps = [] then "" else chunkText ps))

/-- The finish reason that a response without calls sends; `STOP` is left to the chunk that stops the stream. -/
def chunkReason (reason : Option String) : Option String :=
  if reason = some "STOP" then none else reason.map mapFinishReason

def pieces (c : Candidate J) : List (Piece J) := c.parts.map ReplyPart.piece

/-- The choice of a response whose calls are numbered from `i` on. -/
def choiceOf (n i : ℕ) (c : Candidate J) : Choice where
  delta := {
    content := if thoughtsOf (pieces c) = [] then some (chunkText (pieces c)) else none
    reasoningContent := if thoughtsOf (pieces c) = [] then none else some (chunkText (pieces c))
    reasoning := none
    toolCalls := opened marshal uuid n i (callsOf (pieces c)) }
  finishReason := if callsOf (pieces c) = [] then chunkReason c.finishReason else some finishReasonToolCalls

lemma streamResponse_eq (n : ℕ) (c : Candidate J) : streamResponseGeminiChat2OpenAI marshal uuid n c =
    (choiceOf marshal uuid n 0 c,decide (c.finishReason = some "STOP")) := by
  unfold streamResponseGeminiChat2OpenAI
  simp only [delta_loop,written_eq]
  by_cases ht : thoughtsOf (c.parts.map ReplyPart.piece) = []
  · by_cases hc : callsOf (c.parts.map ReplyPart.piece) = [] <;> simp [choiceOf,chunkReason,pieces,chunkText,ht,hc]
  · by_cases hc : callsOf (c.parts.map ReplyPart.piece) = [] <;> simp [choiceOf,chunkReason,pieces,chunkText,ht,hc]

lemma getContentString_choiceOf (n i : ℕ) (c : Candidate J) : (choiceOf marshal uuid n i c).delta.getContentString =
    if thoughtsOf (pieces c) = [] then chunkText (pieces c) else "" := by
  unfold choiceOf Delta.getContentString
  dsimp only
  split_ifs <;> rfl

lemma getReasoningContent_choiceOf (n i : ℕ) (c : Candidate J) :
    (choiceOf marshal uuid n i c).delta.getReasoningContent =
      if thoughtsOf (pieces c) = [] then "" else chunkText (pieces c) := by
  unfold choiceOf Delta.getReasoningContent
  dsimp only
  split_ifs <;> rfl

variable (id model : String)

lemma receive_chunk (m : Message) (fr : Option String) (choice : Choice) : receive (m,fr) (chunk id model choice) =
    (choice.delta.toolCalls.foldlM receiveCall m.tools).map (fun tools =>
      (⟨m.text++choice.delta.getContentString,m.reasoning++choice.delta.getReasoningContent,tools⟩,
        choice.finishReason.or fr)) := rfl

lemma opened_announced (n i : ℕ) (calls : List (FunctionCall J)) :
    (opened marshal uuid n i calls).map (fun t => { t with arguments := "" }) =
      opened (fun _ => "") uuid n i calls := by
  unfold opened
  apply List.ext_getElem
  · simp
  · simp [getResponseToolCall]

/-- What a response adds to a message whose calls are numbered from zero. -/
def Message.grown (m : Message) (n : ℕ) (c : Candidate J) : Message where
  text := m.text++if thoughtsOf (pieces c) = [] then chunkText (pieces c) else ""
  reasoning := m.reasoning++if thoughtsOf (pieces c) = [] then "" else chunkText (pieces c)
  tools := m.tools++toolsFrom marshal uuid n (callsOf (pieces c))

lemma receive_later {m : Message} {n : ℕ} (hn : m.tools.length = n) (fr : Option String) (c : Candidate J) :
    receive (m,fr) (chunk id model (choiceOf marshal uuid n n c)) =
      some (Message.grown marshal uuid m n c,(choiceOf marshal uuid n n c).finishReason.or fr) := by
  subst hn
  rw [receive_chunk,getContentString_choiceOf,getReasoningContent_choiceOf]
  have h := receive_opened marshal uuid m.tools (callsOf (pieces c))
  have hc : (choiceOf marshal uuid m.tools.length m.tools.length c).delta.toolCalls =
      opened marshal uuid m.tools.length m.tools.length (callsOf (pieces c)) := rfl
  rw [hc,h]
  rfl

lemma receive_first (c : Candidate J) :
    (firstChunks id model (choiceOf marshal uuid 0 0 c)).foldlM receive (Message.empty,none) =
      some (Message.grown marshal uuid .empty 0 c,
        if callsOf (pieces c) = [] then chunkReason c.finishReason else none) := by
  have hc : (choiceOf marshal uuid 0 0 c).delta.toolCalls = opened marshal uuid 0 0 (callsOf (pieces c)) := rfl
  unfold firstChunks
  by_cases h0 : callsOf (pieces c) = []
  · have hnil : (choiceOf marshal uuid 0 0 c).delta.toolCalls = [] := (opened_eq_nil_iff marshal uuid).mpr h0
    rw [if_neg (not_not.mpr hnil),if_pos h0,List.foldlM_cons]
    have h1 : receive (Message.empty,none) (startEmptyResponse id model []) = some (Message.empty,none) := by
      simp [startEmptyResponse,receive_chunk,Message.empty,Delta.getContentString,Delta.getReasoningContent]
    have h2 := receive_later marshal uuid id model (m := Message.empty) (n := 0) rfl none c
    rw [h1,Option.bind_eq_bind,Option.bind_some,List.foldlM_cons,h2]
    simp [choiceOf,h0]
  · have hne : (choiceOf marshal uuid 0 0 c).delta.toolCalls ≠ [] := fun hnil =>
      h0 ((opened_eq_nil_iff marshal uuid).mp hnil)
    have hfin : (choiceOf marshal uuid 0 0 c).finished = true := by
      simp [choiceOf,h0,Choice.finished,finishReasonToolCalls]
    rw [if_pos hne,if_neg h0,if_pos hfin,List.foldlM_cons]
    have h1 : receive (Message.empty,none) (startEmptyResponse id model (choiceOf marshal uuid 0 0 c).delta.toolCalls) =
        some (⟨"","",toolsFrom (fun _ => "") uuid 0 (callsOf (pieces c))⟩,none) := by
      have h := receive_opened (fun _ => "") uuid [] (callsOf (pieces c))
      unfold startEmptyResponse
      rw [receive_chunk,hc,opened_announced]
      simp only [List.length_nil] at h
      simp only [Message.empty,h]
      simp [Delta.getContentString,Delta.getReasoningContent]
    have h2 := receive_cleared marshal uuid [] (callsOf (pieces c))
    rw [h1,Option.bind_eq_bind,Option.bind_some,List.foldlM_cons,receive_chunk]
    have hclear : (clearToolCalls (choiceOf marshal uuid 0 0 c)).delta.toolCalls =
        (opened marshal uuid 0 0 (callsOf (pieces c))).map (fun t => { t with id := "", name := "" }) := rfl
    simp only [List.length_nil,List.nil_append] at h2
    simp only [hclear,h2]
    have ht := getContentString_choiceOf marshal uuid 0 0 c
    have hr := getReasoningContent_choiceOf marshal uuid 0 0 c
    simp only [Message.grown,Message.empty,←ht,←hr]
    rfl

/-! ## The run of the handler -/

lemma openings_append (l r : List StreamResponse) : openings (l++r) = openings l++openings r := by
  simp [openings]

lemma openings_chunk (n i : ℕ) (c : Candidate J) : openings [chunk id model (choiceOf marshal uuid n i c)] =
    opened marshal uuid n i (callsOf (pieces c)) := by
  have h : ∀ t∈opened marshal uuid n i (callsOf (pieces c)), decide (t.id≠"") = true := by
    intro t ht
    obtain ⟨k,hk,rfl⟩ := List.mem_mapIdx.mp ht
    exact decide_eq_true (callId_ne uuid (n+k))
  simpa [openings,chunk,StreamResponse.delta,choiceOf] using h

lemma index_opened (n i : ℕ) (calls : List (FunctionCall J)) :
    (opened marshal uuid n i calls).map ToolCall.index =
      (List.range' i calls.length).map (fun k : ℕ => some (k : ℤ)) := by
  apply List.ext_getElem
  · simp
  · simp [opened]

lemma openings_first (c : Candidate J) :
    (openings (firstChunks id model (choiceOf marshal uuid 0 0 c))).map ToolCall.index =
      (List.range' 0 (callsOf (pieces c)).length).map (fun k : ℕ => some (k : ℤ)) := by
  unfold firstChunks
  by_cases h0 : callsOf (pieces c) = []
  · have hnil : (choiceOf marshal uuid 0 0 c).delta.toolCalls = [] := (opened_eq_nil_iff marshal uuid).mpr h0
    rw [if_neg (not_not.mpr hnil),h0]
    simp [openings,startEmptyResponse,chunk,StreamResponse.delta,hnil]
  · have hc : (choiceOf marshal uuid 0 0 c).delta.toolCalls = opened marshal uuid 0 0 (callsOf (pieces c)) := rfl
    have hne : (choiceOf marshal uuid 0 0 c).delta.toolCalls ≠ [] := fun hnil =>
      h0 ((opened_eq_nil_iff marshal uuid).mp hnil)
    rw [if_pos hne,←index_opened (fun _ => "") uuid 0 0 (callsOf (pieces c)),
      ←opened_announced marshal uuid 0 0 (callsOf (pieces c)),←hc]
    congr 1
    have hcleared : ∀ d : Choice, openings [chunk id model (clearToolCalls d)] = [] := by
      intro d
      simp [openings,chunk,StreamResponse.delta,clearToolCalls]
    have hsecond : openings [chunk id model (if (choiceOf marshal uuid 0 0 c).finished then
        { clearToolCalls (choiceOf marshal uuid 0 0 c) with finishReason := none }
        else clearToolCalls (choiceOf marshal uuid 0 0 c))] = [] := by
      split_ifs
      · exact hcleared { choiceOf marshal uuid 0 0 c with finishReason := none }
      · exact hcleared _
    have hstart : openings [startEmptyResponse id model (choiceOf marshal uuid 0 0 c).delta.toolCalls] =
        (choiceOf marshal uuid 0 0 c).delta.toolCalls.map (fun t => { t with arguments := "" }) := by
      have h := openings_chunk (fun _ => "") uuid id model 0 0 c
      rw [hc,opened_announced]
      unfold startEmptyResponse
      rw [opened_announced]
      exact h
    refine (openings_append [_] [_]).trans ?_
    rw [hsecond,hstart,List.append_nil]

lemma received_append (l r : List StreamResponse) :
    received (l++r) = (received l).bind (fun m => r.foldlM receive m) := by
  unfold received
  rw [List.foldlM_append]
  rfl

/-- What the handler has sent of the responses so far, and what it keeps for the next one. -/
structure Sent (responses : List (List (Piece J))) (s : HandlerState) (fr : Option String) : Prop where
  fresh : Fresh uuid s.toolCallIndex s.used
  used : s.used = (callsOf responses.flatten).length
  next : s.nextToolCallIndex = s.used
  finish : s.finishReason = if callsOf responses.flatten = [] then finishReasonStop else finishReasonToolCalls
  started : s.sent = [] ↔ responses = []
  indexes : (openings s.sent).map ToolCall.index = (List.range' 0 s.used).map (fun k : ℕ => some (k : ℤ))
  received : received s.sent =
    some (⟨textOf responses,reasoningOf responses,toolsFrom marshal uuid 0 (callsOf responses.flatten)⟩,fr)

variable {marshal uuid} {responses : List (List (Piece J))} {s : HandlerState} {fr : Option String}

/-- The chunks that a response adds before the stream stops. -/
def newChunks (marshal : J → String) (uuid : ℕ → String) (id model : String) (s : HandlerState) (c : Candidate J) :
    List StreamResponse :=
  if s.sent = [] then firstChunks id model (choiceOf marshal uuid s.used s.used c)
  else [chunk id model (choiceOf marshal uuid s.used s.used c)]

lemma Sent.respond_eq (h : Sent marshal uuid responses s fr) (huuid : Function.Injective uuid) (c : Candidate J) :
    ∃ m', Fresh uuid m' (s.used+(callsOf (pieces c)).length) ∧
      ∃ finishReason, finishReason = (if callsOf (pieces c) = [] then s.finishReason else finishReasonToolCalls) ∧
      s.respond marshal uuid id model c =
        ⟨finishReason,m',((s.used+(callsOf (pieces c)).length : ℕ) : ℤ),s.used+(callsOf (pieces c)).length,
          s.sent++newChunks marshal uuid id model s c++
            if c.finishReason = some "STOP" then [generateStopResponse id model finishReason] else []⟩ := by
  obtain ⟨m',hfresh,ha⟩ := assignIndexes_opened marshal uuid huuid h.fresh 0 (callsOf (pieces c))
  refine ⟨m',hfresh,_,rfl,?_⟩
  have hc : (choiceOf marshal uuid s.used 0 c).delta.toolCalls =
      opened marshal uuid s.used 0 (callsOf (pieces c)) := rfl
  have hchoice : ({ choiceOf marshal uuid s.used 0 c with
      delta := { (choiceOf marshal uuid s.used 0 c).delta with
        toolCalls := opened marshal uuid s.used s.used (callsOf (pieces c)) } } : Choice) =
      choiceOf marshal uuid s.used s.used c := rfl
  unfold HandlerState.respond
  simp only [streamResponse_eq,hc,h.next,ha,hchoice,length_opened,decide_eq_true_eq]
  have hiff : opened marshal uuid s.used s.used (callsOf (pieces c)) ≠ [] ↔ ¬callsOf (pieces c) = [] :=
    not_congr (opened_eq_nil_iff marshal uuid)
  by_cases h0 : callsOf (pieces c) = []
  · simp [newChunks,h0,opened]
  · simp [newChunks,h0,hiff]

lemma callsOf_append (l r : List (Piece J)) : callsOf (l++r) = callsOf l++callsOf r := List.filterMap_append

lemma flatten_concat (responses : List (List (Piece J))) (ps : List (Piece J)) :
    (responses++[ps]).flatten = responses.flatten++ps := by simp

/-- What the client has after the new chunks, and the finish reason of a response without calls. -/
lemma Sent.received_new (h : Sent marshal uuid responses s fr) (c : Candidate J) :
    ∃ fr', GeminiReply.received (s.sent++newChunks marshal uuid id model s c) =
        some (⟨textOf (responses++[pieces c]),reasoningOf (responses++[pieces c]),
          toolsFrom marshal uuid 0 (callsOf (responses++[pieces c]).flatten)⟩,fr') ∧
      ∀ reason, c.finishReason = some reason → reason ≠ "STOP" → callsOf (pieces c) = [] →
        fr' = some (mapFinishReason reason) := by
  have hgrown : Message.grown marshal uuid
      ⟨textOf responses,reasoningOf responses,toolsFrom marshal uuid 0 (callsOf responses.flatten)⟩ s.used c =
      ⟨textOf (responses++[pieces c]),reasoningOf (responses++[pieces c]),
        toolsFrom marshal uuid 0 (callsOf (responses++[pieces c]).flatten)⟩ := by
    rw [flatten_concat,callsOf_append,toolsFrom_append,h.used,Message.grown]
    simp [textOf,reasoningOf]
  have hreason : ∀ reason, c.finishReason = some reason → reason ≠ "STOP" →
      chunkReason c.finishReason = some (mapFinishReason reason) := by
    intro reason hr hne
    rw [chunkReason,hr,if_neg (fun he => hne (Option.some.inj he)),Option.map_some]
  rw [received_append,h.received,Option.bind_some]
  by_cases h0 : s.sent = []
  · have hnil := h.started.mp h0
    subst hnil
    have hu : s.used = 0 := h.used
    have hr := h.received
    rw [h0] at hr
    obtain ⟨hm,hfr⟩ := Prod.mk.inj (Option.some.inj hr)
    rw [←hm,hu] at hgrown
    have hf := receive_first marshal uuid id model c
    unfold newChunks
    rw [if_pos h0,hu]
    refine ⟨if callsOf (pieces c) = [] then chunkReason c.finishReason else none,?_,?_⟩
    · rw [←hm,←hfr,hf,hgrown]
    · intro reason hr hne hcalls
      rw [if_pos hcalls,hreason reason hr hne]
  · unfold newChunks
    rw [if_neg h0,List.foldlM_cons]
    have hl : (⟨textOf responses,reasoningOf responses,
        toolsFrom marshal uuid 0 (callsOf responses.flatten)⟩ : Message).tools.length = s.used := by
      rw [length_toolsFrom,h.used]
    rw [receive_later marshal uuid id model hl,Option.bind_eq_bind,Option.bind_some,hgrown]
    refine ⟨_,rfl,?_⟩
    intro reason hr hne hcalls
    have hc : (choiceOf marshal uuid s.used s.used c).finishReason = some (mapFinishReason reason) := by
      unfold choiceOf
      rw [if_pos hcalls,hreason reason hr hne]
    rw [hc]
    rfl

/-- One response more. -/
theorem Sent.respond (h : Sent marshal uuid responses s fr) (huuid : Function.Injective uuid) (c : Candidate J) :
    ∃ fr', Sent marshal uuid (responses++[pieces c]) (s.respond marshal uuid id model c) fr' ∧
      (c.finishReason = some "STOP" →
        fr' = some (if callsOf (responses++[pieces c]).flatten = [] then finishReasonStop else finishReasonToolCalls)) ∧
      ∀ reason, c.finishReason = some reason → reason ≠ "STOP" → callsOf (pieces c) = [] →
        fr' = some (mapFinishReason reason) := by
  obtain ⟨m',hfresh,finishReason,hfin,hs⟩ := h.respond_eq id model huuid c
  obtain ⟨fr1,hrec,hreason⟩ := h.received_new id model c
  have hused : s.used+(callsOf (pieces c)).length = (callsOf (responses++[pieces c]).flatten).length := by
    rw [flatten_concat,callsOf_append,List.length_append,h.used]
  have hfinish : finishReason =
      if callsOf (responses++[pieces c]).flatten = [] then finishReasonStop else finishReasonToolCalls := by
    rw [hfin,h.finish,flatten_concat,callsOf_append]
    by_cases h0 : callsOf (pieces c) = []
    · simp [h0]
    · simp [h0]
  have hnew : newChunks marshal uuid id model s c ≠ [] := by
    unfold newChunks firstChunks
    split_ifs <;> exact List.cons_ne_nil _ _
  have hindexes : (openings (s.sent++newChunks marshal uuid id model s c)).map ToolCall.index =
      (List.range' 0 (s.used+(callsOf (pieces c)).length)).map (fun k : ℕ => some (k : ℤ)) := by
    have hnext : (openings (newChunks marshal uuid id model s c)).map ToolCall.index =
        (List.range' s.used (callsOf (pieces c)).length).map (fun k : ℕ => some (k : ℤ)) := by
      unfold newChunks
      by_cases h0 : s.sent = []
      · have hu : s.used = 0 := by
          rw [h.used,h.started.mp h0]
          rfl
        rw [if_pos h0,hu]
        exact openings_first marshal uuid id model c
      · rw [if_neg h0,openings_chunk,index_opened]
    rw [openings_append,List.map_append,h.indexes,hnext,←List.map_append]
    congr 1
    have happend := List.range'_append_1 (s := 0) (m := s.used) (n := (callsOf (pieces c)).length)
    rwa [zero_add] at happend
  rw [hs]
  by_cases hstop : c.finishReason = some "STOP"
  · rw [if_pos hstop]
    refine ⟨some finishReason,?_,fun _ => congrArg some hfinish,?_⟩
    · refine ⟨hfresh,hused,rfl,hfinish,?_,?_,?_⟩
      · simp [hnew]
      · rw [openings_append,List.map_append,hindexes]
        simp [openings,generateStopResponse,chunk,StreamResponse.delta]
      · rw [received_append,hrec]
        simp [generateStopResponse,receive_chunk,Delta.getContentString,Delta.getReasoningContent]
    · intro reason hr hne
      exact absurd (Option.some.inj (hr.symm.trans hstop)) hne
  · rw [if_neg hstop,List.append_nil]
    refine ⟨fr1,?_,fun he => absurd he hstop,hreason⟩
    exact ⟨hfresh,hused,rfl,hfinish,by simp [hnew],hindexes,hrec⟩

/-- Every response of a stream. -/
theorem sent_responses (huuid : Function.Injective uuid) (cs : List (Candidate J)) :
    ∃ fr, Sent marshal uuid (cs.map pieces) (cs.foldl (HandlerState.respond marshal uuid id model) .init) fr := by
  induction cs using List.reverseRecOn with
  | nil =>
    refine ⟨none,?_⟩
    exact ⟨fun _ _ => rfl,rfl,rfl,rfl,iff_of_true rfl rfl,rfl,rfl⟩
  | append_singleton cs c ih =>
    obtain ⟨fr,h⟩ := ih
    obtain ⟨fr',h',-⟩ := h.respond id model huuid c
    refine ⟨fr',?_⟩
    rw [List.foldl_append,List.map_append]
    exact h'

/-- The message of a whole answer. -/
lemma response_eq (marshal : J → String) (uuid : ℕ → String) (c : Candidate J) :
    responseGeminiChat2OpenAI marshal uuid c =
      ⟨⟨wholeText (pieces c),(thoughtsOf (pieces c)).getLast?.getD "",toolsFrom marshal uuid 0 (callsOf (pieces c))⟩,
        if callsOf (pieces c) = [] then (c.finishReason.map mapFinishReason).getD finishReasonStop
        else finishReasonToolCalls⟩ := by
  have htools : ((callsOf (pieces c)).mapIdx (getResponseToolCall marshal uuid)).map toolOfCall =
      toolsFrom marshal uuid 0 (callsOf (pieces c)) := by
    apply List.ext_getElem
    · simp
    · simp [toolsFrom,toolOfCall,getResponseToolCall]
  unfold responseGeminiChat2OpenAI
  have hl := whole_loop marshal uuid (c.parts.map ReplyPart.piece)
  simp only [hl,written_eq]
  change (⟨⟨_,_,_⟩,_⟩ : OpenAIChoice) = _
  rw [←pieces,htools]
  by_cases h0 : callsOf (pieces c) = []
  · simp [h0,wholeText]
  · simp [h0,wholeText]

end Pieces

end GeminiReply
end Convert
end Tierflow
