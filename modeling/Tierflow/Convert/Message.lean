import Tierflow.Convert.Stream

/-! Messages: cut into OpenAI chunks, put together from Claude events, and converted in one piece. -/
namespace Tierflow
namespace Convert
open Blocks (Event)

structure Tool where
  id : String
  name : String
  arguments : String
  deriving DecidableEq, Repr

structure Message where
  text : String
  reasoning : String
  tools : List Tool
  deriving DecidableEq, Repr

def Message.empty : Message := ⟨"","",[]⟩

def Tool.extend (x : Tool) (arguments : String) : Tool := { x with arguments := x.arguments++arguments }

/-! ## Cutting -/

/-- A named piece begins the next call; any other piece continues a call that was begun. -/
def addToolCall (tools : List Tool) (offset : ℤ) (t : ToolCall) : Option (List Tool) :=
  if t.name≠"" then if offset = tools.length then some (tools++[⟨t.id,t.name,t.arguments⟩]) else none
  else if 0≤offset ∧ offset<tools.length then
    some (tools.modify offset.toNat (fun x => x.extend t.arguments))
  else none

def addToolCalls (tools : List Tool) : ℕ → List ToolCall → Option (List Tool)
  | _,[] => some tools
  | i,t::ts => (addToolCall tools (toolOffset i t) t).bind (fun tools => addToolCalls tools (i+1) ts)

def Message.add (m : Message) (d : Delta) : Option Message :=
  (addToolCalls m.tools 0 d.toolCalls).map (fun tools =>
    ⟨m.text++d.getContentString,m.reasoning++d.getReasoningContent,tools⟩)

/-- The delta of the choice that is looked at. -/
def StreamResponse.delta (r : StreamResponse) : Delta :=
  match r.choices with
  | [] => ⟨none,none,none,[]⟩
  | choice::_ => choice.delta

/-- The message that the chunks continue another one to. -/
def addAll (m : Message) (chunks : List StreamResponse) : Option Message :=
  chunks.foldlM (fun m r => m.add r.delta) m

/-- The chunks are the pieces of the message. -/
def Cuts (chunks : List StreamResponse) (m : Message) : Prop := addAll .empty chunks = some m

instance (chunks : List StreamResponse) (m : Message) : Decidable (Cuts chunks m) :=
  inferInstanceAs (Decidable (_ = _))

/-! ## Putting together -/

structure Block where
  index : ℤ
  header : ContentBlock
  body : String
  deriving DecidableEq, Repr

def ContentDelta.payload : ContentDelta → String
  | text s | thinking s | inputJson s => s

/-- A delta goes to the block of its number, and is lost if there is none of its type. -/
def feed (i : ℤ) (d : ContentDelta) : List Block → List Block
  | [] => []
  | x::xs =>
    if x.index = i ∧ x.header.fits d then { x with body := x.body++d.payload }::xs else x::feed i d xs

def assembleEvent (bs : List Block) : ClaudeEvent → List Block
  | .block (.start i b) => bs++[⟨i,b,""⟩]
  | .block (.delta i d) => feed i d bs
  | _ => bs

def assemble (bs : List Block) (es : List ClaudeEvent) : List Block := es.foldl assembleEvent bs

/-- The bodies of the blocks with a header, one after the other. -/
def bodyOf (b : ContentBlock) : List Block → String
  | [] => ""
  | x::xs => (if x.header = b then x.body else "")++bodyOf b xs

def toolOf (x : Block) : Option Tool :=
  match x.header with
  | .toolUse id name => some ⟨id,name,x.body⟩
  | _ => none

def messageOf (bs : List Block) : Message := ⟨bodyOf .text bs,bodyOf .thinking bs,bs.filterMap toolOf⟩

/-- The events of the responses that the chunks are converted to one by one. -/
def streamed (estimate : ℤ) (chunks : List StreamResponse) : List ClaudeEvent :=
  (chunks.foldl (fun s r => s.handleStreamFormat estimate r) StreamState.init).sent

/-! ## Without a stream -/

/-- The input of a tool: an object, or the text of the arguments if they are none. -/
inductive Input (J : Type*)
  | object (j : J)
  | text (s : String)
  deriving DecidableEq, Repr

inductive ClaudeContent (J : Type*)
  | text (s : String)
  | toolUse (id name : String) (input : Input J)
  deriving DecidableEq, Repr

structure OpenAIChoice where
  message : Message
  finishReason : String
  deriving DecidableEq, Repr

section Whole
variable {J : Type*} (unmarshal : String → Option J)

def toolInput (arguments : String) : Input J :=
  match unmarshal arguments with
  | some j => .object j
  | none => .text arguments

/-- The content and the stop reason of the whole response; the reasoning is not looked at. -/
def responseOpenAI2Claude (choices : List OpenAIChoice) : List (ClaudeContent J) × String :=
  choices.foldl (fun (contents,_) choice =>
    (contents++
      if choice.finishReason = "tool_calls" then
        choice.message.tools.map (fun t => .toolUse t.id t.name (toolInput unmarshal t.arguments))
      else [.text choice.message.text],
      stopReasonOpenAI2Claude choice.finishReason)) ([],"")

/-- Text, thoughts and tools with their inputs. -/
structure Content (J : Type*) where
  text : String
  thinking : String
  tools : List (String × String × Input J)
  deriving DecidableEq, Repr

def Message.content (m : Message) : Content J :=
  ⟨m.text,m.reasoning,m.tools.map (fun t => (t.id,t.name,toolInput unmarshal t.arguments))⟩

end Whole

def contentOf {J : Type*} : List (ClaudeContent J) → Content J
  | [] => ⟨"","",[]⟩
  | .text s::cs => { contentOf cs with text := s++(contentOf cs).text }
  | .toolUse id name input::cs => { contentOf cs with tools := (id,name,input)::(contentOf cs).tools }

/-! ## Weights -/

def ToolCall.weight (t : ToolCall) : ℕ := (if t.name≠"" then 1 else 0)+t.arguments.length

def Delta.weight (d : Delta) : ℕ :=
  d.getContentString.length+d.getReasoningContent.length+(d.toolCalls.map ToolCall.weight).sum

def Tool.weight (x : Tool) : ℕ := 1+x.arguments.length

def Message.weight (m : Message) : ℕ := m.text.length+m.reasoning.length+(m.tools.map Tool.weight).sum

def ContentBlock.weight : ContentBlock → ℕ
  | .toolUse _ _ => 1
  | _ => 0

def ClaudeEvent.weight : ClaudeEvent → ℕ
  | .block (.start _ b) => b.weight
  | .block (.delta _ d) => d.payload.length
  | _ => 0

def eventsWeight (es : List ClaudeEvent) : ℕ := (es.map ClaudeEvent.weight).sum

lemma weight_modify (tools : List Tool) (k : ℕ) (s : String) (hk : k<tools.length) :
    ((tools.modify k (fun x => x.extend s)).map Tool.weight).sum = (tools.map Tool.weight).sum+s.length := by
  induction tools generalizing k with
  | nil => simp at hk
  | cons x xs ih =>
    cases k with
    | zero =>
      simp [Tool.weight,Tool.extend]
      omega
    | succ k =>
      have := ih k (by simpa using hk)
      simp only [List.modify_succ_cons,List.map_cons,List.sum_cons,this]
      omega

lemma weight_addToolCall {tools tools' : List Tool} {offset : ℤ} {t : ToolCall}
    (h : addToolCall tools offset t = some tools') :
    (tools'.map Tool.weight).sum = (tools.map Tool.weight).sum+t.weight := by
  unfold addToolCall at h
  unfold ToolCall.weight
  split_ifs at h with hn ho hr
  · obtain rfl := Option.some.inj h
    rw [if_pos hn]
    simp [Tool.weight]
  · obtain rfl := Option.some.inj h
    rw [if_neg hn,weight_modify _ _ _ (by omega)]
    omega

lemma weight_addToolCalls {tools tools' : List Tool} {i : ℕ} {ts : List ToolCall}
    (h : addToolCalls tools i ts = some tools') :
    (tools'.map Tool.weight).sum = (tools.map Tool.weight).sum+(ts.map ToolCall.weight).sum := by
  induction ts generalizing tools i with
  | nil =>
    obtain rfl := Option.some.inj h
    simp
  | cons t ts ih =>
    obtain ⟨mid,hmid,hrest⟩ := Option.bind_eq_some_iff.mp h
    rw [ih hrest,weight_addToolCall hmid,List.map_cons,List.sum_cons]
    omega

/-- A piece adds its weight to the message. -/
lemma weight_add {m m' : Message} {d : Delta} (h : m.add d = some m') : m'.weight = m.weight+d.weight := by
  obtain ⟨tools,ht,rfl⟩ := Option.map_eq_some_iff.mp h
  unfold Message.weight Delta.weight
  simp only [String.length_append,weight_addToolCalls ht]
  omega

/-! ### Blocks -/

lemma bodyOf_append (b : ContentBlock) (xs ys : List Block) : bodyOf b (xs++ys) = bodyOf b xs++bodyOf b ys := by
  induction xs with
  | nil => simp [bodyOf]
  | cons x xs ih => rw [List.cons_append,bodyOf,bodyOf,ih,String.append_assoc]

def Block.weight (x : Block) : ℕ := x.header.weight+x.body.length

lemma weight_messageOf (bs : List Block) : (messageOf bs).weight = (bs.map Block.weight).sum := by
  unfold messageOf Message.weight
  induction bs with
  | nil => simp [bodyOf]
  | cons x xs ih =>
    obtain ⟨i,b,s⟩ := x
    cases b <;> simp [List.filterMap_cons,bodyOf,toolOf,Block.weight,ContentBlock.weight,Tool.weight] at ih ⊢ <;> omega

lemma weight_feed_le (i : ℤ) (d : ContentDelta) (bs : List Block) :
    ((feed i d bs).map Block.weight).sum ≤ (bs.map Block.weight).sum+d.payload.length := by
  induction bs with
  | nil => simp [feed]
  | cons x xs ih =>
    rw [feed]
    split_ifs
    · simp [Block.weight]
      omega
    · simp only [List.map_cons,List.sum_cons]
      omega

/-- Events add at most their weight. -/
lemma weight_assemble_le (bs : List Block) (es : List ClaudeEvent) :
    (messageOf (assemble bs es)).weight ≤ (messageOf bs).weight+eventsWeight es := by
  rw [weight_messageOf,weight_messageOf]
  induction es generalizing bs with
  | nil => simp [assemble,eventsWeight]
  | cons e es ih =>
    have hstep : ((assembleEvent bs e).map Block.weight).sum ≤ (bs.map Block.weight).sum+e.weight := by
      cases e with
      | block e =>
        cases e with
        | start i b => simp [assembleEvent,Block.weight,ClaudeEvent.weight]
        | delta i d => exact weight_feed_le i d bs
        | stop i => exact Nat.le_add_right _ _
      | messageStart | messageDelta | messageStop => exact Nat.le_add_right _ _
    have := ih (assembleEvent bs e)
    unfold assemble eventsWeight at this ⊢
    rw [List.foldl_cons,List.map_cons,List.sum_cons]
    omega

end Convert
end Tierflow
