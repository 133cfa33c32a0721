import Tierflow.Convert.FromClaude
import Tierflow.Foundation.Text
import Tierflow.Foundation.Transaction

/-! Claude responses with the ways to stream them, and when the converted stream agrees with the response converted
in one piece. -/
namespace Tierflow
namespace Convert
namespace FromClaude

/-! ## Ways to stream a response -/

inductive ThinkingDelta
  | piece (s : String)
  | signature
  deriving DecidableEq, Repr

/-- A tool with the pieces of a text of its input; for an empty object there may be no text at all. -/
structure ToolStream {J : Type*} (codec : JsonCodec J) where
  id : String
  name : String
  input : J
  pieces : List String
  spells : codec.unmarshal (String.join pieces) = some input ∨
    String.join pieces = "" ∧ input = codec.emptyObject

/-- A block cut into deltas; the first piece of a text may come with its start. -/
inductive BlockStream {J : Type*} (codec : JsonCodec J)
  | text (initial : Option String) (pieces : List String)
  | thinking (deltas : List ThinkingDelta)
  | toolUse (t : ToolStream codec)

section
variable {J : Type*} (codec : JsonCodec J)

def media (type : String) : ClaudeMediaMessage J := ⟨type,none,"",none,none,none,"","",codec.emptyObject⟩

def event (type : String) (index : Option ℤ) : ClaudeResponse J := ⟨"",type,[],"","",index,none,none,none⟩

def startEvent (i : ℤ) (b : ClaudeMediaMessage J) : ClaudeResponse J :=
  { event "content_block_start" (some i) with contentBlock := some b }

def deltaEvent (i : ℤ) (d : ClaudeMediaMessage J) : ClaudeResponse J :=
  { event "content_block_delta" (some i) with delta := some d }

def textDelta (s : String) : ClaudeMediaMessage J := { media codec "text_delta" with text := some s }

def inputJsonDelta (s : String) : ClaudeMediaMessage J := { media codec "input_json_delta" with partialJson := some s }

def ThinkingDelta.media : ThinkingDelta → ClaudeMediaMessage J
  | .piece s => { FromClaude.media codec "thinking_delta" with thinking := some s }
  | .signature => FromClaude.media codec "signature_delta"

namespace BlockStream
variable {codec}

def start : BlockStream codec → ClaudeMediaMessage J
  | text initial _ => { media codec "text" with text := initial }
  | thinking _ => { media codec "thinking" with thinking := some "" }
  | toolUse t => { media codec "tool_use" with id := t.id, name := t.name }

def deltas : BlockStream codec → List (ClaudeMediaMessage J)
  | text _ pieces => pieces.map (textDelta codec)
  | thinking deltas => deltas.map (ThinkingDelta.media codec)
  | toolUse t => t.pieces.map (inputJsonDelta codec)

def events (i : ℤ) (b : BlockStream codec) : List (ClaudeResponse J) :=
  startEvent i b.start::(b.deltas.map (deltaEvent i)++[event "content_block_stop" (some i)])

def thought : ThinkingDelta → String
  | .piece s => s
  | .signature => ""

/-- The text of a text block. -/
def text? : BlockStream codec → Option String
  | text initial pieces => some (initial.getD ""++String.join pieces)
  | _ => none

def thinking? : BlockStream codec → Option String
  | thinking deltas => some (String.join (deltas.map thought))
  | _ => none

def tool? : BlockStream codec → Option (ToolStream codec)
  | toolUse t => some t
  | _ => none

/-- The block as it is in the whole response. -/
def block : BlockStream codec → ClaudeMediaMessage J
  | text initial pieces => { media codec "text" with text := some (initial.getD ""++String.join pieces) }
  | thinking deltas => { media codec "thinking" with thinking := some (String.join (deltas.map thought)) }
  | toolUse t => { media codec "tool_use" with id := t.id, name := t.name, input := t.input }

end BlockStream

def blockEvents : ℤ → List (BlockStream codec) → List (ClaudeResponse J)
  | _,[] => []
  | i,b::bs => b.events i++blockEvents (i+1) bs

/-- A response with a stream of it; pings come at any time. -/
structure ClaudeStream where
  id : String
  model : String
  stopReason : String
  blocks : List (BlockStream codec)
  events : List (ClaudeResponse J)
  framed : events.filter (fun r => r.type≠"ping") =
    { event "message_start" none with message := some { media codec "message" with id := id, model := model } }::
      (blockEvents codec 0 blocks++
        [{ event "message_delta" none with delta := some { media codec "" with stopReason := some stopReason } },
          event "message_stop" none])

/-- The whole response. -/
def ClaudeStream.response (st : ClaudeStream codec) : ClaudeResponse J :=
  ⟨st.id,"message",st.blocks.map BlockStream.block,st.stopReason,st.model,none,none,none,none⟩

end

/-! ## What the chunks of a block add -/

section
variable {J : Type*} {codec : JsonCodec J}

/-- A signature shows as a line break. -/
def ThinkingDelta.shown : ThinkingDelta → String
  | .piece s => s
  | .signature => "\n"

namespace BlockStream

def streamedText (b : BlockStream codec) : String := b.text?.getD ""

def streamedReasoning : BlockStream codec → String
  | thinking deltas => String.join (deltas.map ThinkingDelta.shown)
  | _ => ""

def streamedCalls (i : ℤ) : BlockStream codec → List (ℤ × Tool)
  | toolUse t => [(i,⟨t.id,t.name,String.join t.pieces⟩)]
  | _ => []

end BlockStream

lemma foldlM_ok {α β : Type*} {f : α → β → Except Failure α} {g : α → β → α} (h : ∀ a b, f a b = .ok (g a b))
    (l : List β) (a : α) : l.foldlM f a = .ok (l.foldl g a) := by
  induction l generalizing a with
  | nil => rfl
  | cons b l ih =>
    rw [List.foldlM_cons,h]
    exact ih _

lemma receive_text (i : ℤ) (a : Assembled) (s : String) :
    receive a (deltaEvent i (textDelta codec s)) = .ok { a with text := a.text++s } := by
  simp [receive,streamResponseClaude2OpenAI,deltaEvent,event,textDelta,media,blockDeltaChunk,Chunk.ofModel,Except.map,
    Assembled.add]

lemma receive_thinking (i : ℤ) (a : Assembled) (d : ThinkingDelta) :
    receive a (deltaEvent i (d.media codec)) = .ok { a with reasoning := a.reasoning++d.shown } := by
  cases d <;>
    simp [receive,streamResponseClaude2OpenAI,deltaEvent,event,ThinkingDelta.media,media,blockDeltaChunk,Chunk.ofModel,
      Except.map,Assembled.add,ThinkingDelta.shown]

lemma receive_inputJson (i : ℤ) (a : Assembled) (s : String) :
    receive a (deltaEvent i (inputJsonDelta codec s)) = .ok { a with calls := addCall a.calls ⟨i,"","",s⟩ } := by
  simp [receive,streamResponseClaude2OpenAI,deltaEvent,event,inputJsonDelta,media,blockDeltaChunk,Chunk.ofModel,
    Except.map,Assembled.add,Chunk.withTools]

lemma receive_stop (i : Option ℤ) (a : Assembled) : receive a (event "content_block_stop" i : ClaudeResponse J) = .ok a := by
  simp [receive,streamResponseClaude2OpenAI,event,Except.map]

lemma receive_start (i : ℤ) (a : Assembled) (b : BlockStream codec) :
    receive a (startEvent i b.start) = .ok (match b with
      | .text initial _ => { a with text := a.text++initial.getD "" }
      | .thinking _ => a
      | .toolUse t => { a with calls := addCall a.calls ⟨i,t.id,t.name,""⟩ }) := by
  cases b <;>
    simp [receive,streamResponseClaude2OpenAI,startEvent,event,BlockStream.start,media,blockStartChunk,Chunk.ofModel,
      Except.map,Assembled.add,Chunk.withTools]

/-- Further pieces go to the call that was begun last. -/
lemma foldl_addCall {i : ℤ} {calls : List (ℤ × Tool)} (hi : ∀ p∈calls, p.1≠i) (t : Tool) (pieces : List String) :
    pieces.foldl (fun calls s => addCall calls ⟨i,"","",s⟩) (calls++[(i,t)]) =
      calls++[(i,t.extend (String.join pieces))] := by
  induction pieces generalizing t with
  | nil => simp [Tool.extend]
  | cons s pieces ih =>
    have hkeep : calls.map (fun p => if p.1 = i then (p.1,p.2.extend s) else p) = calls := by
      apply List.map_congr_left (g := id) _ |>.trans (List.map_id _)
      intro p hp
      rw [if_neg (hi p hp)]
      rfl
    have hstep : addCall (calls++[(i,t)]) ⟨i,"","",s⟩ = calls++[(i,t.extend s)] := by
      unfold addCall
      rw [if_pos (by simp),List.map_append,hkeep]
      simp
    rw [List.foldl_cons,hstep,ih,String.join_cons]
    simp [Tool.extend,String.append_assoc]

lemma addCall_new {i : ℤ} {calls : List (ℤ × Tool)} (hi : ∀ p∈calls, p.1≠i) (id name arguments : String) :
    addCall calls ⟨i,id,name,arguments⟩ = calls++[(i,⟨id,name,arguments⟩)] := by
  apply if_neg
  intro hmem
  obtain ⟨p,hp,heq⟩ := List.mem_map.mp hmem
  exact hi p hp heq

/-- The events of a block add its text, its thoughts with their line breaks, and its call. -/
lemma receive_block {i : ℤ} {a : Assembled} (hi : ∀ p∈a.calls, p.1≠i) (b : BlockStream codec) :
    (b.events i).foldlM receive a = .ok ⟨a.text++b.streamedText,a.reasoning++b.streamedReasoning,
      a.calls++b.streamedCalls i⟩ := by
  unfold BlockStream.events
  rw [List.foldlM_cons,receive_start]
  cases b with
  | text initial pieces =>
    have hjoin : ∀ a : Assembled, pieces.foldl (fun a s => { a with text := a.text++s }) a =
        { a with text := a.text++String.join pieces } := by
      induction pieces with
      | nil => simp
      | cons s pieces ih =>
        intro a
        rw [List.foldl_cons,ih,String.join_cons,String.append_assoc]
    simp only [ok_bind,List.foldlM_append,BlockStream.deltas,List.map_map,List.foldlM_map,Function.comp_apply]
    rw [foldlM_ok (receive_text i),hjoin]
    simp [receive_stop,BlockStream.streamedText,BlockStream.text?,BlockStream.streamedReasoning,
      BlockStream.streamedCalls,String.append_assoc]
  | thinking deltas =>
    have hjoin : ∀ a : Assembled, deltas.foldl (fun a d => { a with reasoning := a.reasoning++d.shown }) a =
        { a with reasoning := a.reasoning++String.join (deltas.map ThinkingDelta.shown) } := by
      induction deltas with
      | nil => simp
      | cons d deltas ih =>
        intro a
        rw [List.foldl_cons,ih,List.map_cons,String.join_cons,String.append_assoc]
    simp only [ok_bind,List.foldlM_append,BlockStream.deltas,List.map_map,List.foldlM_map,Function.comp_apply]
    rw [foldlM_ok (receive_thinking i),hjoin]
    simp [receive_stop,BlockStream.streamedText,BlockStream.text?,BlockStream.streamedReasoning,
      BlockStream.streamedCalls]
  | toolUse t =>
    have hjoin : ∀ a : Assembled, t.pieces.foldl (fun a s => { a with calls := addCall a.calls ⟨i,"","",s⟩ }) a =
        { a with calls := t.pieces.foldl (fun calls s => addCall calls ⟨i,"","",s⟩) a.calls } := by
      induction t.pieces with
      | nil => simp
      | cons s pieces ih =>
        intro a
        rw [List.foldl_cons,ih,List.foldl_cons]
    simp only [ok_bind,List.foldlM_append,BlockStream.deltas,List.map_map,List.foldlM_map,Function.comp_apply]
    rw [foldlM_ok (receive_inputJson i),hjoin,addCall_new hi]
    simp only
    rw [foldl_addCall hi]
    simp [receive_stop,BlockStream.streamedText,BlockStream.text?,BlockStream.streamedReasoning,
      BlockStream.streamedCalls,Tool.extend]

/-! ## What the chunks of a stream add up to -/

def blockCalls : ℤ → List (BlockStream codec) → List (ℤ × Tool)
  | _,[] => []
  | i,b::bs => b.streamedCalls i++blockCalls (i+1) bs

def ToolStream.streamed (t : ToolStream codec) : Tool := ⟨t.id,t.name,String.join t.pieces⟩

lemma fst_of_mem_streamedCalls {i : ℤ} {b : BlockStream codec} {p : ℤ × Tool} (h : p∈b.streamedCalls i) : p.1 = i := by
  cases b with
  | toolUse t => rw [List.mem_singleton.mp h]
  | text initial pieces => exact absurd h List.not_mem_nil
  | thinking deltas => exact absurd h List.not_mem_nil

lemma map_snd_blockCalls (i : ℤ) (bs : List (BlockStream codec)) :
    (blockCalls i bs).map Prod.snd = (bs.filterMap BlockStream.tool?).map ToolStream.streamed := by
  induction bs generalizing i with
  | nil => rfl
  | cons b bs ih =>
    rw [blockCalls,List.map_append,ih,List.filterMap_cons]
    cases b <;> rfl

/-- Each block has an index of its own, so that its events do not touch earlier calls. -/
lemma receive_blocks {i : ℤ} {a : Assembled} (hi : ∀ p∈a.calls, p.1 < i) (bs : List (BlockStream codec)) :
    (blockEvents codec i bs).foldlM receive a = .ok ⟨a.text++String.join (bs.map BlockStream.streamedText),
      a.reasoning++String.join (bs.map BlockStream.streamedReasoning),a.calls++blockCalls i bs⟩ := by
  induction bs generalizing i a with
  | nil => simp [blockEvents,blockCalls,pure,Except.pure]
  | cons b bs ih =>
    have hlater : ∀ p∈a.calls++b.streamedCalls i, p.1 < i+1 := by
      intro p hp
      rcases List.mem_append.mp hp with hp | hp
      · exact (hi p hp).trans (lt_add_one i)
      · rw [fst_of_mem_streamedCalls hp]
        exact lt_add_one i
    rw [blockEvents,List.foldlM_append,receive_block (fun p hp => (hi p hp).ne),ok_bind,ih hlater]
    simp [blockCalls,String.append_assoc]

lemma receive_ping {r : ClaudeResponse J} (h : r.type = "ping") (a : Assembled) : receive a r = .ok a := by
  simp [receive,streamResponseClaude2OpenAI,h,Except.map]

/-- Pings add nothing. -/
lemma foldlM_receive_filter (events : List (ClaudeResponse J)) (a : Assembled) :
    (events.filter (fun r => r.type≠"ping")).foldlM receive a = events.foldlM receive a := by
  induction events generalizing a with
  | nil => rfl
  | cons r events ih =>
    by_cases hping : r.type = "ping"
    · rw [List.filter_cons_of_neg (by simpa using hping),List.foldlM_cons,receive_ping hping,ok_bind,ih]
    · rw [List.filter_cons_of_pos (by simpa using hping),List.foldlM_cons,List.foldlM_cons]
      cases receive a r with
      | error e => rfl
      | ok a => exact ih a

namespace ClaudeStream

def texts (st : ClaudeStream codec) : List String := st.blocks.filterMap BlockStream.text?

def thinkings (st : ClaudeStream codec) : List String := st.blocks.filterMap BlockStream.thinking?

def tools (st : ClaudeStream codec) : List (ToolStream codec) := st.blocks.filterMap BlockStream.tool?

/-- All texts, all thoughts with the line breaks of the signatures, all calls as they are spelled. -/
def streamed (st : ClaudeStream codec) : Message where
  text := String.join st.texts
  reasoning := String.join (st.blocks.map BlockStream.streamedReasoning)
  tools := st.tools.map ToolStream.streamed

end ClaudeStream

lemma join_streamedText (bs : List (BlockStream codec)) :
    String.join (bs.map BlockStream.streamedText) = String.join (bs.filterMap BlockStream.text?) := by
  induction bs with
  | nil => rfl
  | cons b bs ih =>
    rw [List.map_cons,String.join_cons,ih,List.filterMap_cons]
    cases b with
    | text initial pieces => simp [BlockStream.streamedText,BlockStream.text?]
    | thinking deltas => simp [BlockStream.streamedText,BlockStream.text?]
    | toolUse t => simp [BlockStream.streamedText,BlockStream.text?]

theorem assembleStream_eq (st : ClaudeStream codec) : assembleStream st.events = .ok st.streamed := by
  unfold assembleStream
  rw [←foldlM_receive_filter,st.framed,List.foldlM_cons]
  have hstart : receive Assembled.empty { event (J := J) "message_start" none with
      message := some { media codec "message" with id := st.id, model := st.model } } = .ok Assembled.empty := rfl
  have hdelta : ∀ a, receive a { event (J := J) "message_delta" none with
      delta := some { media codec "" with stopReason := some st.stopReason } } = .ok a := by
    intro a
    have hempty : ∀ c : Chunk, c.content = none → c.reasoningContent = none → c.toolCalls = [] → a.add c = a := by
      intro c h1 h2 h3
      simp [Assembled.add,h1,h2,h3]
    simp only [receive,streamResponseClaude2OpenAI,event,messageDeltaChunk,media,Except.map]
    simp only [String.reduceEq,if_false,if_true,Option.elim_some]
    split_ifs <;> rw [hempty _ rfl rfl rfl]
  have hstop : ∀ a, receive a (event (J := J) "message_stop" none) = .ok a := fun a => rfl
  rw [hstart,ok_bind,List.foldlM_append,receive_blocks (by simp [Assembled.empty]),ok_bind]
  simp only [List.foldlM_cons,List.foldlM_nil,hdelta,hstop,ok_bind,pure,Except.pure,Except.map]
  simp [Assembled.message,Assembled.empty,ClaudeStream.streamed,join_streamedText,map_snd_blockCalls,
    ClaudeStream.texts,ClaudeStream.tools]

/-! ## What is kept of the whole response -/

lemma foldl_visitBlock (bs : List (BlockStream codec)) (f : Found) :
    (bs.map BlockStream.block).foldl (visitBlock codec) f =
      ⟨(bs.filterMap BlockStream.text?).getLastD f.responseText,
        (bs.filterMap BlockStream.thinking?).getLastD f.thinkingContent,
        f.tools++(bs.filterMap BlockStream.tool?).map (fun t => ⟨t.id,t.name,codec.marshal t.input⟩)⟩ := by
  induction bs generalizing f with
  | nil => simp
  | cons b bs ih =>
    rw [List.map_cons,List.foldl_cons,ih]
    cases b <;>
      simp only [List.filterMap_cons,BlockStream.text?,BlockStream.thinking?,BlockStream.tool?,List.getLastD_cons] <;>
      simp [visitBlock,BlockStream.block,media,ClaudeMediaMessage.getText]

namespace ClaudeStream

/-- The thoughts of the first block. -/
def firstThinking (st : ClaudeStream codec) : String := (st.blocks.head?.bind BlockStream.thinking?).getD ""

/-- The last thoughts, or the first ones if the last are empty. -/
def keptThinking (st : ClaudeStream codec) : String :=
  if st.thinkings.getLastD ""≠"" then st.thinkings.getLastD "" else st.firstThinking

def kept (st : ClaudeStream codec) : Message where
  text := st.texts.getLastD ""
  reasoning := st.keptThinking
  tools := st.tools.map (fun t => ⟨t.id,t.name,codec.marshal t.input⟩)

end ClaudeStream

lemma getD_head?_getText (bs : List (BlockStream codec)) (h : bs.filterMap BlockStream.text? = []) :
    ((bs.map BlockStream.block).head?.map ClaudeMediaMessage.getText).getD "" = "" := by
  cases bs with
  | nil => rfl
  | cons b bs =>
    cases b with
    | text initial pieces => simp [BlockStream.text?] at h
    | thinking deltas => rfl
    | toolUse t => rfl

lemma getD_head?_thinking (bs : List (BlockStream codec)) :
    ((bs.map BlockStream.block).head?.bind ClaudeMediaMessage.thinking).getD "" =
      (bs.head?.bind BlockStream.thinking?).getD "" := by
  cases bs with
  | nil => rfl
  | cons b bs => cases b <;> rfl

theorem responseClaude2OpenAI_eq (st : ClaudeStream codec) :
    (responseClaude2OpenAI codec st.response).message = st.kept := by
  unfold responseClaude2OpenAI OpenAITextResponse.message ClaudeStream.kept
  simp only [ClaudeStream.response,foldl_visitBlock,getD_head?_thinking,List.nil_append]
  have htext : (st.blocks.filterMap BlockStream.text?).getLastD
      (((st.blocks.map BlockStream.block).head?.map ClaudeMediaMessage.getText).getD "") = st.texts.getLastD "" := by
    unfold ClaudeStream.texts
    cases htexts : st.blocks.filterMap BlockStream.text? with
    | nil => exact getD_head?_getText st.blocks htexts
    | cons s l => rfl
  have hthinking : (if st.thinkings.getLastD ""≠"" then some (st.thinkings.getLastD "")
      else if st.firstThinking≠"" then some st.firstThinking else none).getD "" = st.keptThinking := by
    unfold ClaudeStream.keptThinking
    split_ifs with h1 h2
    · rfl
    · rfl
    · exact (not_not.mp h2).symm
  rw [htext]
  congr 1

/-! ## Agreement -/

def BlockStream.signatures : BlockStream codec → ℕ
  | thinking deltas => deltas.count .signature
  | _ => 0

lemma length_streamedReasoning (bs : List (BlockStream codec)) :
    (String.join (bs.map BlockStream.streamedReasoning)).length =
      (String.join (bs.filterMap BlockStream.thinking?)).length+(bs.map BlockStream.signatures).sum := by
  have hdeltas : ∀ deltas : List ThinkingDelta, (String.join (deltas.map ThinkingDelta.shown)).length =
      (String.join (deltas.map BlockStream.thought)).length+deltas.count .signature := by
    intro deltas
    induction deltas with
    | nil => rfl
    | cons d deltas ih =>
      rw [List.map_cons,List.map_cons,String.join_cons,String.join_cons,String.length_append,String.length_append,ih]
      cases d with
      | piece s =>
        rw [List.count_cons_of_ne (by simp)]
        exact (Nat.add_assoc _ _ _).symm
      | signature =>
        have hone : (ThinkingDelta.signature.shown).length = 1 := rfl
        have hzero : (BlockStream.thought .signature).length = 0 := rfl
        rw [List.count_cons_self,hone,hzero]
        omega
  induction bs with
  | nil => rfl
  | cons b bs ih =>
    rw [List.map_cons,List.map_cons,String.join_cons,String.length_append,ih,List.sum_cons,List.filterMap_cons]
    cases b with
    | thinking deltas =>
      simp only [BlockStream.streamedReasoning,BlockStream.thinking?,BlockStream.signatures,String.join_cons,
        String.length_append,hdeltas]
      omega
    | text initial pieces => simp [BlockStream.streamedReasoning,BlockStream.thinking?,BlockStream.signatures]
    | toolUse t => simp [BlockStream.streamedReasoning,BlockStream.thinking?,BlockStream.signatures]

/-- The thoughts are in what is shown, with line breaks between them. -/
lemma sublist_streamedReasoning (bs : List (BlockStream codec)) :
    (String.join (bs.filterMap BlockStream.thinking?)).toList.Sublist
      (String.join (bs.map BlockStream.streamedReasoning)).toList := by
  have hdeltas : ∀ deltas : List ThinkingDelta, (String.join (deltas.map BlockStream.thought)).toList.Sublist
      (String.join (deltas.map ThinkingDelta.shown)).toList := by
    intro deltas
    induction deltas with
    | nil => exact List.Sublist.refl _
    | cons d deltas ih =>
      rw [List.map_cons,List.map_cons,String.join_cons,String.join_cons,String.toList_append,String.toList_append]
      cases d with
      | piece s => exact (List.Sublist.refl _).append ih
      | signature => exact (List.nil_sublist _).append ih
  induction bs with
  | nil => exact List.Sublist.refl _
  | cons b bs ih =>
    rw [List.map_cons,String.join_cons,List.filterMap_cons,String.toList_append]
    cases b with
    | thinking deltas =>
      simp only [BlockStream.thinking?,BlockStream.streamedReasoning,String.join_cons,String.toList_append]
      exact (hdeltas deltas).append ih
    | text initial pieces => exact ih
    | toolUse t => exact ih

lemma streamedReasoning_of_no_signature (bs : List (BlockStream codec)) (h : ∀ b∈bs, b.signatures = 0) :
    String.join (bs.map BlockStream.streamedReasoning) = String.join (bs.filterMap BlockStream.thinking?) := by
  have hsum : (bs.map BlockStream.signatures).sum = 0 := by
    apply List.sum_eq_zero
    intro n hn
    obtain ⟨b,hb,rfl⟩ := List.mem_map.mp hn
    exact h b hb
  have hlen := length_streamedReasoning bs
  rw [hsum,add_zero] at hlen
  apply String.toList_injective
  exact ((sublist_streamedReasoning bs).eq_of_length (by simpa only [String.length_toList] using hlen.symm)).symm

lemma firstThinking_mem (st : ClaudeStream codec) : st.firstThinking = "" ∨ st.firstThinking∈st.thinkings := by
  unfold ClaudeStream.firstThinking ClaudeStream.thinkings
  cases st.blocks with
  | nil => exact .inl rfl
  | cons b bs =>
    cases hb : b.thinking? with
    | none => simp [hb]
    | some s => simp [hb]

lemma length_keptThinking_le (st : ClaudeStream codec) :
    st.keptThinking.length≤(String.join st.thinkings).length := by
  have hlast : st.thinkings.getLastD "" = "" ∨ st.thinkings.getLastD ""∈st.thinkings := by
    rcases List.eq_nil_or_concat st.thinkings with hnil | ⟨l,s,hl⟩
    · simp [hnil]
    · simp [hl]
  have hbound : ∀ s : String, s = "" ∨ s∈st.thinkings → s.length≤(String.join st.thinkings).length := by
    rintro s (rfl | hs)
    · exact Nat.zero_le _
    · exact Text.length_le_join hs
  unfold ClaudeStream.keptThinking
  split_ifs
  · exact hbound _ hlast
  · exact hbound _ (firstThinking_mem st)

/-- All thoughts but the last are empty; or the last are empty and all but those of the first block. -/
def OneThought (st : ClaudeStream codec) : Prop :=
  (∀ s∈st.thinkings.dropLast, s = "") ∨
    st.thinkings.getLastD "" = "" ∧ (st.blocks.head?.bind BlockStream.thinking?).isSome = true ∧
      ∀ s∈st.thinkings.tail, s = ""

lemma join_thinkings_eq_kept (st : ClaudeStream codec) : String.join st.thinkings = st.keptThinking ↔ OneThought st := by
  unfold ClaudeStream.keptThinking OneThought
  by_cases hlast : st.thinkings.getLastD "" = ""
  · rw [if_neg (not_not.mpr hlast)]
    have hall : (∀ s∈st.thinkings.dropLast, s = "") ↔ String.join st.thinkings = "" := by
      rw [←Text.join_eq_getLastD_iff,hlast]
    rw [hall]
    unfold ClaudeStream.firstThinking
    cases hfirst : st.blocks.head?.bind BlockStream.thinking? with
    | none => simp
    | some s =>
      have hcons : st.thinkings = s::st.thinkings.tail := by
        obtain ⟨b,hb,hs⟩ := Option.bind_eq_some_iff.mp hfirst
        unfold ClaudeStream.thinkings
        rw [List.eq_cons_of_mem_head? hb,List.filterMap_cons_some hs,List.tail_cons]
      have hjoin : String.join st.thinkings = s++String.join st.thinkings.tail := by
        conv_lhs => rw [hcons,String.join_cons]
      have htail : s++String.join st.thinkings.tail = s ↔ ∀ t∈st.thinkings.tail, t = "" := by
        rw [←Text.join_eq_empty_iff]
        constructor
        · intro h
          have hlen := congrArg String.length h
          rw [String.length_append] at hlen
          exact String.length_eq_zero_iff.mp (by omega)
        · intro h
          rw [h,String.append_empty]
      rw [Option.getD_some,hjoin,htail]
      constructor
      · intro h
        exact .inr ⟨hlast,rfl,h⟩
      · rintro (h | ⟨-,-,h⟩)
        · exact Text.join_eq_empty_iff.mp (String.append_eq_empty_iff.mp h).2
        · exact h
  · rw [if_pos hlast,Text.join_eq_getLastD_iff]
    constructor
    · exact .inl
    · rintro (h | ⟨h,-⟩)
      · exact h
      · exact absurd h hlast

lemma streamedReasoning_eq_kept (st : ClaudeStream codec) : st.streamed.reasoning = st.kept.reasoning ↔
    (∀ b∈st.blocks, b.signatures = 0) ∧ OneThought st := by
  rw [←join_thinkings_eq_kept]
  constructor
  · intro h
    have hlen := congrArg String.length h
    have hkept := length_keptThinking_le st
    simp only [ClaudeStream.streamed,ClaudeStream.kept,length_streamedReasoning] at hlen
    change (String.join st.thinkings).length+_ = _ at hlen
    have hzero : ∀ b∈st.blocks, b.signatures = 0 := by
      intro b hb
      have hle := List.single_le_sum (l := st.blocks.map BlockStream.signatures) (by simp) _ (List.mem_map_of_mem hb)
      omega
    refine ⟨hzero,?_⟩
    rw [←show st.kept.reasoning = st.keptThinking from rfl,←h]
    exact (streamedReasoning_of_no_signature st.blocks hzero).symm
  · rintro ⟨hzero,hjoin⟩
    exact (streamedReasoning_of_no_signature st.blocks hzero).trans hjoin

/-- A call with its arguments as a value. -/
def toolValue (codec : JsonCodec J) (t : Tool) : String × String × Option J := (t.id,t.name,codec.unmarshal t.arguments)

/-- A streamed call has the value of its input, unless it has no text. -/
lemma toolValue_streamed (t : ToolStream codec) : toolValue codec t.streamed =
    toolValue codec ⟨t.id,t.name,codec.marshal t.input⟩ ↔ String.join t.pieces≠"" := by
  simp only [toolValue,ToolStream.streamed,Prod.mk.injEq,true_and,codec.unmarshal_marshal]
  constructor
  · intro h hempty
    rw [hempty,codec.unmarshal_empty] at h
    cases h
  · intro hne
    exact t.spells.resolve_right (fun h => hne h.1)

end

/-- The two messages have the same text, thoughts and calls, and all that the blocks contain. -/
structure Agrees {J : Type*} {codec : JsonCodec J} (st : ClaudeStream codec) (streamed whole : Message) : Prop where
  text : streamed.text = whole.text
  reasoning : streamed.reasoning = whole.reasoning
  tools : streamed.tools.map (toolValue codec) = whole.tools.map (toolValue codec)
  streamedText : streamed.text = String.join st.texts
  wholeText : whole.text = String.join st.texts
  streamedThoughts : (String.join st.thinkings).toList.Sublist streamed.reasoning.toList
  wholeThoughts : (String.join st.thinkings).toList.Sublist whole.reasoning.toList

/-- One text that is not empty and comes last, thoughts of one block without a signature, and for every tool a text
of its input. -/
structure AgreeWhen {J : Type*} {codec : JsonCodec J} (st : ClaudeStream codec) : Prop where
  text : ∀ s∈st.texts.dropLast, s = ""
  signatures : ∀ b∈st.blocks, b.signatures = 0
  thoughts : OneThought st
  tools : ∀ t∈st.tools, String.join t.pieces≠""

/-- The stream and the whole response agree exactly under that condition. -/
theorem stream_agrees_iff {J : Type*} (codec : JsonCodec J) (st : ClaudeStream codec) :
    (∃ m, assembleStream st.events = .ok m ∧ Agrees st m (responseClaude2OpenAI codec st.response).message) ↔
      AgreeWhen st := by
  rw [assembleStream_eq,responseClaude2OpenAI_eq]
  have htext : st.streamed.text = st.kept.text ↔ ∀ s∈st.texts.dropLast, s = "" := Text.join_eq_getLastD_iff
  have htools : st.streamed.tools.map (toolValue codec) = st.kept.tools.map (toolValue codec) ↔
      ∀ t∈st.tools, String.join t.pieces≠"" := by
    simp only [ClaudeStream.streamed,ClaudeStream.kept,List.map_map]
    rw [List.map_inj_left]
    exact forall₂_congr (fun t _ => toolValue_streamed t)
  constructor
  · rintro ⟨m,hm,h⟩
    obtain rfl := Except.ok.inj hm
    obtain ⟨hsignatures,hthoughts⟩ := (streamedReasoning_eq_kept st).mp h.reasoning
    exact ⟨htext.mp h.text,hsignatures,hthoughts,htools.mp h.tools⟩
  · rintro ⟨h1,h2,h3,h4⟩
    have hreasoning := (streamedReasoning_eq_kept st).mpr ⟨h2,h3⟩
    have hthoughts : (String.join st.thinkings).toList.Sublist st.streamed.reasoning.toList :=
      sublist_streamedReasoning st.blocks
    refine ⟨st.streamed,rfl,htext.mpr h1,hreasoning,htools.mpr h4,rfl,(htext.mpr h1).symm,hthoughts,?_⟩
    rw [←hreasoning]
    exact hthoughts

lemma type_ne_ping {J : Type*} {codec : JsonCodec J} (i : ℤ) (bs : List (BlockStream codec)) :
    ∀ r∈blockEvents codec i bs, r.type≠"ping" := by
  induction bs generalizing i with
  | nil => exact fun r hr => absurd hr List.not_mem_nil
  | cons b bs ih =>
    intro r hr
    rcases List.mem_append.mp hr with hr | hr
    · rcases List.mem_cons.mp hr with rfl | hr
      · simp [startEvent,event]
      · rcases List.mem_append.mp hr with hr | hr
        · obtain ⟨d,-,rfl⟩ := List.mem_map.mp hr
          simp [deltaEvent,event]
        · rw [List.mem_singleton.mp hr]
          simp [event]
    · exact ih (i+1) r hr

/-- The stream of these blocks without pings. -/
def ClaudeStream.plain {J : Type*} (codec : JsonCodec J) (blocks : List (BlockStream codec)) : ClaudeStream codec where
  id := "msg"
  model := "claude"
  stopReason := "end_turn"
  blocks := blocks
  events := _
  framed := by
    apply List.filter_eq_self.mpr
    intro r hr
    rcases List.mem_cons.mp hr with rfl | hr
    · simp [event]
    · rcases List.mem_append.mp hr with hr | hr
      · simpa using type_ne_ping 0 blocks r hr
      · rcases List.mem_cons.mp hr with rfl | hr
        · simp [event]
        · rw [List.mem_singleton.mp hr]
          simp [event]

/-- The empty object as the only value. -/
def emptyCodec : JsonCodec Unit where
  marshal _ := "\x7b\x7d"
  unmarshal s := if s = "\x7b\x7d" then some () else none
  emptyObject := ()
  unmarshal_marshal _ := rfl
  unmarshal_empty := by decide

/-- Of two texts around thoughts only the second one is in the whole response. -/
theorem twoTexts_disagree : ¬∀ (J : Type) (codec : JsonCodec J) (st : ClaudeStream codec),
    ∃ m, assembleStream st.events = .ok m ∧ Agrees st m (responseClaude2OpenAI codec st.response).message := by
  intro h
  obtain ⟨m,-,hm⟩ := h Unit emptyCodec (.plain emptyCodec [.text none ["a"],.thinking [.piece "t"],.text none ["b"]])
  have hwhole := hm.wholeText
  exact absurd hwhole (by decide)

end FromClaude
end Convert
end Tierflow
