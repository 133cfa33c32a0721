import Tierflow.Convert.Assembly

/-! Which chunks reach the Claude message whole. As long as nothing is lost the blocks written so far show the
message cut so far; once something is lost the blocks weigh less than the message, and they never catch up. -/
namespace Tierflow
namespace Convert
open Blocks (Event)

/-! ## Chunks of which nothing is lost -/

def StreamResponse.finished (r : StreamResponse) : Bool :=
  match r.choices with
  | [] => false
  | choice::_ => choice.finished

/-- What is known after some chunks: whether the first is still to come, what is open, how many calls had
begun before the open ones, whether the message is closed, and whether a usage came. -/
structure Reading where
  first : Bool
  mode : MessageType
  group : ℕ
  done : Bool
  known : Bool
  deriving DecidableEq, Repr

def Reading.init : Reading := ⟨true,.none,0,false,false⟩

namespace Reading

/-- The calls begun before the group that a tool call would belong to; `n` have begun in all. -/
def groupOf (s : Reading) (n : ℕ) : ℕ := if s.mode = .tools then s.group else n

/-- Nothing is lost of the content of the first chunk. -/
def keepsFirst (d : Delta) : Bool :=
  (d.getReasoningContent = "" || d.getContentString = "") && (d.toolCalls.tail.map ToolCall.weight).sum = 0

/-- Nothing is lost of the content of a later chunk. -/
def keepsContent (s : Reading) (n : ℕ) (d : Delta) : Bool :=
  if d.toolCalls≠[] then
    d.getReasoningContent = "" && d.getContentString = "" && toolsKept (s.groupOf n) 0 d.toolCalls
  else d.getReasoningContent = "" || d.getContentString = ""

/-- What is open after the content of a chunk, if `mode` was open before it. -/
def contentMode (mode : MessageType) (d : Delta) : MessageType :=
  if d.getReasoningContent≠"" then .thinking else if d.getContentString≠"" then .text else mode

def nextMode (s : Reading) (d : Delta) : MessageType := if d.toolCalls≠[] then .tools else contentMode s.mode d

def nextGroup (s : Reading) (n : ℕ) (d : Delta) : ℕ := if d.toolCalls≠[] then s.groupOf n else s.group

/-- Nothing of the chunk is lost. -/
def keeps (s : Reading) (n : ℕ) (r : StreamResponse) : Bool :=
  let d := r.delta
  if s.done then d.weight = 0
  else if s.first then keepsFirst d
  else if r.finished && r.usage.isNone then d.weight = 0
  else s.keepsContent n d

def next (s : Reading) (n : ℕ) (r : StreamResponse) : Reading :=
  let d := r.delta
  let known := s.known || r.usage.isSome
  if s.done then { s with known := known }
  else if s.first then
    ⟨false,contentMode (if d.toolCalls≠[] then .tools else .none) d,0,r.finished,known⟩
  else if r.finished && r.usage.isNone then { s with known := known }
  else ⟨false,s.nextMode d,s.nextGroup n d,if r.choices = [] then known else r.finished,known⟩

section Rules
variable {s : Reading} {n : ℕ} {r : StreamResponse}

lemma rule_done (h : s.done = true) : s.keeps n r = decide (r.delta.weight = 0) ∧
    s.next n r = { s with known := s.known || r.usage.isSome } := by
  unfold keeps next
  simp [h]

lemma rule_first : init.keeps n r = keepsFirst r.delta ∧ init.next n r =
    ⟨false,contentMode (if r.delta.toolCalls≠[] then .tools else .none) r.delta,0,r.finished,r.usage.isSome⟩ := by
  unfold keeps next init
  simp

lemma rule_waits (hd : s.done = false) (hs : s.first = false) (hf : r.finished = true) (hu : r.usage = none) :
    s.keeps n r = decide (r.delta.weight = 0) ∧ s.next n r = { s with known := s.known || r.usage.isSome } := by
  unfold keeps next
  simp [hd,hs,hf,hu]

lemma rule_later (hd : s.done = false) (hs : s.first = false) (h : r.finished = false ∨ r.usage≠none) :
    s.keeps n r = s.keepsContent n r.delta ∧ s.next n r = ⟨false,s.nextMode r.delta,s.nextGroup n r.delta,
      if r.choices = [] then s.known || r.usage.isSome else r.finished,s.known || r.usage.isSome⟩ := by
  unfold keeps next
  have hne : (r.finished && r.usage.isNone) = false := by
    rcases h with h | h
    · rw [h,Bool.false_and]
    · rw [Option.isNone_eq_false_iff.mpr (Option.isSome_iff_ne_none.mpr h),Bool.and_false]
  simp [hd,hs,hne]

lemma next_later (hs : s.first = false) :
    (s.next n r).first = false ∧ (s.next n r).known = (s.known || r.usage.isSome) := by
  unfold next
  simp only [hs]
  split_ifs <;> exact ⟨rfl,rfl⟩

end Rules

/-- Nothing is lost of the chunks that continue a message. -/
def keepsAll (s : Reading) (m : Message) : List StreamResponse → Bool
  | [] => true
  | r::rs => s.keeps m.tools.length r &&
    match m.add r.delta with
    | some m' => keepsAll (s.next m.tools.length r) m' rs
    | none => true

lemma keepsAll_cons {s : Reading} {m m' : Message} {r : StreamResponse} (h : m.add r.delta = some m')
    (rs : List StreamResponse) :
    s.keepsAll m (r::rs) = (s.keeps m.tools.length r && (s.next m.tools.length r).keepsAll m' rs) := by
  rw [keepsAll,h]

end Reading

lemma addAll_cons {m msg : Message} {r : StreamResponse} {rs : List StreamResponse}
    (h : addAll m (r::rs) = some msg) : ∃ m', m.add r.delta = some m' ∧ addAll m' rs = some msg :=
  Option.bind_eq_some_iff.mp h

/-! ## Content shown -/

/-- The blocks are what the converter takes them for. -/
def Shows (mode : MessageType) (group : ℕ) (c : ConvertInfo) (bs : List Block) : Prop :=
  c.lastMessagesType = mode ∧
    match mode with
    | .none => Below c.index bs
    | .text => Newest c.index .text bs
    | .thinking => Newest c.index .thinking bs
    | .tools => ∃ old us, Grouped c.toolCallBaseIndex group c.toolCallMaxIndexOffset old us bs

section Shows
variable {mode : MessageType} {group : ℕ} {c : ConvertInfo} {bs : List Block}

lemma Newest.below {i : ℤ} {b : ContentBlock} (h : Newest i b bs) : Below (i+1) bs := by
  obtain ⟨old,s,rfl,hold⟩ := h
  apply (hold.mono (by omega)).append
  intro x hx
  rw [List.mem_singleton.mp hx]
  exact Int.lt_succ i

/-- Once the open blocks are closed the next number is free. -/
lemma Shows.below_advance (h : Shows mode group c bs) : Below c.advance.index bs := by
  obtain ⟨hmode,h⟩ := h
  unfold ConvertInfo.advance
  rw [hmode]
  cases mode with
  | none => exact h
  | text => exact h.below
  | thinking => exact h.below
  | tools =>
    obtain ⟨old,us,h⟩ := h
    exact h.below_succ

lemma Shows.laterBlock (h : Shows mode group c bs) (type : MessageType) (b : ContentBlock) (d : ContentDelta)
    (hb : ∀ id name, b≠.toolUse id name) (hd : b.fits d = true) (hsame : mode = type → Newest c.index b bs) :
    (c.laterBlock type b d).1.lastMessagesType = type ∧
      Newest (c.laterBlock type b d).1.index b (assemble bs (c.laterBlock type b d).2) ∧
      messageOf (assemble bs (c.laterBlock type b d).2) = (messageOf bs).say d := by
  by_cases ht : mode = type
  · rw [ConvertInfo.laterBlock_of_eq b d (h.1.trans ht)]
    exact ⟨h.1.trans ht,(hsame ht).delta hb hd⟩
  · rw [ConvertInfo.laterBlock_of_ne b d (fun hc => ht (h.1.symm.trans hc)),assemble_append,assemble_stopOpenBlocks]
    exact ⟨rfl,Newest.start h.below_advance hb hd⟩

/-- Tools go on, or begin a new group. -/
lemma Shows.laterToolCalls {s : Reading} (h : Shows s.mode s.group c bs) (ts : List ToolCall) :
    ∃ old us base mx, Grouped base (s.groupOf (messageOf bs).tools.length) mx old us bs ∧
      (c.laterToolCalls ts).1.lastMessagesType = .tools ∧ (c.laterToolCalls ts).1.toolCallBaseIndex = base ∧
      (c.laterToolCalls ts).1.toolCallMaxIndexOffset = maxOffset mx 0 ts ∧
      assemble bs (c.laterToolCalls ts).2 = assemble bs (toolEvents base 0 ts) := by
  by_cases hmode : s.mode = .tools
  · obtain ⟨hc,hs⟩ := h
    rw [hmode] at hc hs
    obtain ⟨old,us,hg⟩ := hs
    rw [ConvertInfo.laterToolCalls_of_eq hc,Reading.groupOf,if_pos hmode]
    exact ⟨old,us,_,_,hg,rfl,rfl,rfl,rfl⟩
  · rw [ConvertInfo.laterToolCalls_of_ne (fun hc => hmode (h.1.symm.trans hc)),Reading.groupOf,if_neg hmode,
      assemble_append,assemble_stopOpenBlocks]
    have hg : Grouped c.advance.index (messageOf bs).tools.length 0 bs [] bs :=
      ⟨by simp [groupBlocks],h.below_advance,rfl,le_rfl,.inl rfl⟩
    exact ⟨bs,[],_,0,hg,rfl,rfl,rfl,rfl⟩

variable {d : Delta} {m' : Message}

lemma add_of_toolCalls_eq_nil {m : Message} (hadd : m.add d = some m') (h : d.toolCalls = []) :
    m' = ⟨m.text++d.getContentString,m.reasoning++d.getReasoningContent,m.tools⟩ := by
  unfold Message.add at hadd
  rw [h] at hadd
  exact (Option.some.inj hadd).symm

/-- Content that is kept is shown. -/
lemma Shows.laterContent {s : Reading} (h : Shows s.mode s.group c bs) (hadd : (messageOf bs).add d = some m')
    (hkept : s.keepsContent (messageOf bs).tools.length d = true) :
    messageOf (assemble bs (c.laterContent d).2) = m' ∧
      Shows (s.nextMode d) (s.nextGroup (messageOf bs).tools.length d) (c.laterContent d).1
        (assemble bs (c.laterContent d).2) := by
  unfold Reading.keepsContent at hkept
  unfold ConvertInfo.laterContent Reading.nextMode Reading.nextGroup Reading.contentMode
  by_cases ht : d.toolCalls≠[]
  · simp only [if_pos ht] at hkept ⊢
    simp only [Bool.and_eq_true,decide_eq_true_eq] at hkept
    obtain ⟨⟨hr,hc⟩,hk⟩ := hkept
    obtain ⟨old,us,base,mx,hg,hmode,hbase,hmx,hes⟩ := h.laterToolCalls d.toolCalls
    obtain ⟨tools,htools,rfl⟩ := Option.map_eq_some_iff.mp hadd
    obtain ⟨us',hg',hshow⟩ := hg.shown htools hk
    rw [hes,hshow,hr,hc,String.append_empty,String.append_empty]
    refine ⟨rfl,hmode,old,us',?_⟩
    rw [hbase,hmx]
    exact hg'
  · have hm := add_of_toolCalls_eq_nil hadd (not_not.mp ht)
    simp only [if_neg ht] at hkept ⊢
    simp only [Bool.or_eq_true,decide_eq_true_eq] at hkept
    by_cases hr : d.getReasoningContent≠""
    · have hc := hkept.resolve_left hr
      have hthink := h.laterBlock .thinking .thinking (.thinking d.getReasoningContent)
        (by simp) rfl (fun he => by have := h.2; rwa [he] at this)
      rw [if_pos hr,if_pos hr]
      refine ⟨?_,hthink.1,hthink.2.1⟩
      rw [hthink.2.2,hm,hc,String.append_empty]
      rfl
    · rw [if_neg hr,if_neg hr]
      rw [not_not.mp hr,String.append_empty] at hm
      by_cases hc : d.getContentString≠""
      · have htext := h.laterBlock .text .text (.text d.getContentString)
          (by simp) rfl (fun he => by have := h.2; rwa [he] at this)
        rw [if_pos hc,if_pos hc]
        refine ⟨?_,htext.1,htext.2.1⟩
        rw [htext.2.2,hm]
        rfl
      · rw [if_neg hc,if_neg hc]
        rw [not_not.mp hc,String.append_empty] at hm
        exact ⟨hm.symm,h⟩

lemma weight_stopOpenBlocks (c : ConvertInfo) : eventsWeight c.stopOpenBlocks = 0 := by
  unfold eventsWeight
  apply List.sum_eq_zero
  intro k hk
  obtain ⟨e,he,rfl⟩ := List.mem_map.mp hk
  obtain ⟨i,rfl⟩ := c.mem_stopOpenBlocks he
  rfl

lemma weight_laterToolCalls (c : ConvertInfo) (ts : List ToolCall) :
    eventsWeight (c.laterToolCalls ts).2 = (ts.map ToolCall.weight).sum := by
  by_cases h : c.lastMessagesType = .tools
  · rw [ConvertInfo.laterToolCalls_of_eq h]
    exact weight_toolEvents _ _ _
  · rw [ConvertInfo.laterToolCalls_of_ne h,eventsWeight_append,weight_stopOpenBlocks,weight_toolEvents,zero_add]

lemma weight_laterBlock (c : ConvertInfo) (type : MessageType) {b : ContentBlock} (hb : ∀ id name, b≠.toolUse id name)
    (d : ContentDelta) : eventsWeight (c.laterBlock type b d).2 = d.payload.length := by
  have hb0 : b.weight = 0 := by
    cases b with
    | toolUse id name => exact absurd rfl (hb id name)
    | text | thinking => rfl
  by_cases h : c.lastMessagesType = type
  · rw [ConvertInfo.laterBlock_of_eq b d h]
    rfl
  · rw [ConvertInfo.laterBlock_of_ne b d h,eventsWeight_append,weight_stopOpenBlocks]
    change 0+(b.weight+(d.payload.length+0)) = _
    omega

/-- What is shown of the content of a chunk. -/
def Delta.shownWeight (d : Delta) : ℕ :=
  if d.toolCalls≠[] then (d.toolCalls.map ToolCall.weight).sum
  else if d.getReasoningContent≠"" then d.getReasoningContent.length
  else d.getContentString.length

lemma Delta.shownWeight_le (d : Delta) : d.shownWeight≤d.weight := by
  unfold shownWeight weight
  split_ifs <;> omega

lemma weight_laterContent (c : ConvertInfo) (d : Delta) : eventsWeight (c.laterContent d).2 = d.shownWeight := by
  unfold ConvertInfo.laterContent Delta.shownWeight
  split_ifs with ht hr hc
  · exact weight_laterToolCalls _ _
  · exact weight_laterBlock _ _ (by simp) _
  · exact weight_laterBlock _ _ (by simp) _
  · rw [not_not.mp hc]
    rfl

/-- Of content that is not kept less is shown than it weighs. -/
lemma Shows.laterContent_lost {s : Reading} (h : Shows s.mode s.group c bs) (hadd : (messageOf bs).add d = some m')
    (hkept : s.keepsContent (messageOf bs).tools.length d = false) :
    (messageOf (assemble bs (c.laterContent d).2)).weight < m'.weight := by
  have hle := weight_assemble_le bs (c.laterContent d).2
  rw [weight_laterContent] at hle
  rw [weight_add hadd]
  by_cases hlt : d.shownWeight<d.weight
  · omega
  · unfold Reading.keepsContent at hkept
    unfold Delta.shownWeight Delta.weight at hlt
    by_cases ht : d.toolCalls≠[]
    · simp only [if_pos ht] at hkept hlt
      have hr : d.getReasoningContent = "" := String.length_eq_zero_iff.mp (by omega)
      have hc : d.getContentString = "" := String.length_eq_zero_iff.mp (by omega)
      have hk : toolsKept (s.groupOf (messageOf bs).tools.length) 0 d.toolCalls = false := by simpa [hr,hc] using hkept
      obtain ⟨old,us,base,mx,hg,-,-,-,hes⟩ := h.laterToolCalls d.toolCalls
      obtain ⟨tools,htools,-⟩ := Option.map_eq_some_iff.mp hadd
      have := hg.lost htools hk
      unfold ConvertInfo.laterContent Delta.weight
      rw [if_pos ht,hes,hr,hc]
      simpa using this
    · simp only [if_neg ht] at hkept hlt
      simp only [Bool.or_eq_false_iff,decide_eq_false_iff_not] at hkept
      have := mt String.length_eq_zero_iff.mp hkept.2
      rw [if_pos hkept.1] at hlt
      omega

end Shows

/-! ## Chunks shown -/

lemma ToolCall.of_weight_zero {t : ToolCall} (h : t.weight = 0) : t.name = "" ∧ t.arguments = "" := by
  unfold ToolCall.weight at h
  split_ifs at h with hn
  · omega
  · exact ⟨not_not.mp hn,String.length_eq_zero_iff.mp (by omega)⟩

/-- Tool calls that weigh nothing add nothing. -/
lemma addToolCalls_of_weight_zero {tools tools' : List Tool} {i : ℕ} {ts : List ToolCall}
    (hadd : addToolCalls tools i ts = some tools') (h : (ts.map ToolCall.weight).sum = 0) : tools' = tools := by
  induction ts generalizing tools i with
  | nil => exact (Option.some.inj hadd).symm
  | cons t ts ih =>
    rw [List.map_cons,List.sum_cons] at h
    obtain ⟨hn,ha⟩ := ToolCall.of_weight_zero (Nat.eq_zero_of_add_eq_zero_right h)
    obtain ⟨mid,hmid,hrest⟩ := Option.bind_eq_some_iff.mp hadd
    unfold addToolCall at hmid
    rw [if_neg (not_not.mpr hn)] at hmid
    split_ifs at hmid
    obtain rfl := Option.some.inj hmid
    rw [ih hrest (by omega),ha]
    simp only [Tool.extend_empty]
    exact List.modify_id _ _

lemma add_of_weight_zero {m m' : Message} {d : Delta} (hadd : m.add d = some m') (h : d.weight = 0) : m' = m := by
  unfold Delta.weight at h
  obtain ⟨tools,ht,rfl⟩ := Option.map_eq_some_iff.mp hadd
  have hc : d.getContentString = "" := String.length_eq_zero_iff.mp (by omega)
  have hr : d.getReasoningContent = "" := String.length_eq_zero_iff.mp (by omega)
  rw [addToolCalls_of_weight_zero ht (by omega),hc,hr,String.append_empty,String.append_empty]

/-- The blocks written so far show the message cut so far, and the first chunk has been read. -/
structure Follows (s : Reading) (st : StreamState) (m : Message) : Prop where
  first : s.first = false
  count : 0 < st.sendResponseCount
  known : st.convert.usage.isSome = s.known
  done : st.convert.done = s.done
  shows : s.done = false → Shows s.mode s.group st.convert (assemble [] st.sent)
  whole : messageOf (assemble [] st.sent) = m

/-- Something of the message is lost. -/
structure Lost (st : StreamState) (m : Message) : Prop where
  count : 0 < st.sendResponseCount
  less : (messageOf (assemble [] st.sent)).weight < m.weight

lemma weight_closeMessage (c : ConvertInfo) (usage : Option Usage) (reason : String) :
    eventsWeight (c.closeMessage usage reason).2 = 0 := by
  unfold ConvertInfo.closeMessage
  rw [eventsWeight_append,eventsWeight_append,weight_stopOpenBlocks]
  cases usage <;> rfl

section Handler
variable {st : StreamState} {estimate : ℤ} {r : StreamResponse} {m m' : Message}

/-- A later chunk shows at most its weight. -/
lemma weight_response_le {c : ConvertInfo} {count : ℕ} (h : count≠1) :
    eventsWeight (c.streamResponseOpenAI2Claude count estimate r).2 ≤ r.delta.weight := by
  by_cases hd : c.done = true
  · rw [ConvertInfo.response_of_done hd]
    exact Nat.zero_le _
  · rw [Bool.not_eq_true] at hd
    cases hr : r.choices with
    | nil =>
      rw [ConvertInfo.response_usage hd h hr]
      unfold ConvertInfo.usageResponse
      split_ifs
      · rw [weight_closeMessage]
        exact Nat.zero_le _
      · exact Nat.zero_le _
    | cons choice choices =>
      have hdelta : r.delta = choice.delta := by rw [StreamResponse.delta,hr]
      rw [ConvertInfo.response_choice hd h hr,hdelta]
      have hle := choice.delta.shownWeight_le
      cases hf : choice.finished with
      | false =>
        rw [ConvertInfo.choiceResponse_goes hf,weight_laterContent]
        exact hle
      | true =>
        cases r.usage with
        | none =>
          rw [ConvertInfo.choiceResponse_waits hf]
          exact Nat.zero_le _
        | some u =>
          rw [ConvertInfo.choiceResponse_closes hf]
          simp only
          rw [eventsWeight_append,weight_closeMessage,weight_laterContent]
          exact hle

/-- What is lost stays lost. -/
lemma Lost.step (h : Lost st m) (hadd : m.add r.delta = some m') : Lost (st.handleStreamFormat estimate r) m' := by
  have hcount := h.count
  constructor
  · exact Nat.succ_pos _
  · have hle := weight_assemble_le (assemble [] st.sent)
      (((st.convert.withUsage (r.usage.or st.convert.usage)).streamResponseOpenAI2Claude
        (st.sendResponseCount+1) estimate r).2)
    have hw : eventsWeight ((st.convert.withUsage (r.usage.or st.convert.usage)).streamResponseOpenAI2Claude
        (st.sendResponseCount+1) estimate r).2 ≤ r.delta.weight := weight_response_le (by omega)
    have hless := h.less
    rw [StreamState.sent_handleStreamFormat,assemble_append,weight_add hadd]
    omega

lemma Shows.congr {mode : MessageType} {group : ℕ} {c c' : ConvertInfo} {bs : List Block} (h : Shows mode group c bs)
    (ht : c'.lastMessagesType = c.lastMessagesType) (hi : c'.index = c.index)
    (hb : c'.toolCallBaseIndex = c.toolCallBaseIndex)
    (hm : c'.toolCallMaxIndexOffset = c.toolCallMaxIndexOffset) : Shows mode group c' bs := by
  unfold Shows at h ⊢
  rw [ht,hi,hb,hm]
  exact h

/-- What one response says of the message: it follows the chunks, or something is lost. -/
def Told (s : Reading) (kept : Bool) (m : Message) (bs : List Block) (p : ConvertInfo × List ClaudeEvent) : Prop :=
  if kept then
    messageOf (assemble bs p.2) = m ∧ p.1.done = s.done ∧
      (s.done = false → Shows s.mode s.group p.1 (assemble bs p.2))
  else (messageOf (assemble bs p.2)).weight < m.weight

/-- A chunk of which nothing is shown. -/
lemma told_of_silent {s : Reading} {c : ConvertInfo} {bs : List Block} {d : Delta} (hm : messageOf bs = m)
    (hadd : m.add d = some m') (hdone : c.done = s.done) (hs : s.done = false → Shows s.mode s.group c bs) :
    Told s (d.weight = 0) m' bs (c,[]) := by
  unfold Told
  by_cases hw : d.weight = 0
  · rw [if_pos (by simpa using hw),add_of_weight_zero hadd hw]
    exact ⟨hm,hdone,hs⟩
  · rw [if_neg (by simpa using hw),weight_add hadd]
    change (messageOf bs).weight<_
    rw [hm]
    omega

/-- The content of a later chunk, with or without the end of the message after it. -/
lemma told_content {s s' : Reading} {c : ConvertInfo} {bs : List Block} {d : Delta} (hs : Shows s.mode s.group c bs)
    (hm : messageOf bs = m) (hadd : m.add d = some m') (hmode : s'.mode = s.nextMode d)
    (hgroup : s'.group = s.nextGroup m.tools.length d) {c' : ConvertInfo} {es : List ClaudeEvent}
    (hes : assemble bs es = assemble bs (c.laterContent d).2) (hdone : c'.done = s'.done)
    (hc' : s'.done = false → c' = (c.laterContent d).1) :
    Told s' (s.keepsContent m.tools.length d) m' bs (c',es) := by
  subst hm
  unfold Told
  simp only [hes]
  by_cases hk : s.keepsContent (messageOf bs).tools.length d = true
  · obtain ⟨hmsg,hshow⟩ := hs.laterContent hadd hk
    rw [if_pos hk]
    refine ⟨hmsg,hdone,fun hd => ?_⟩
    rw [hc' hd,hmode,hgroup]
    exact hshow
  · rw [if_neg hk]
    exact hs.laterContent_lost hadd (Bool.eq_false_iff.mpr hk)

/-- Every later chunk is told as the reading says. -/
lemma told_later {s : Reading} {c : ConvertInfo} {bs : List Block} (hfirst : s.first = false) (hdone : c.done = s.done)
    (hknown : c.usage.isSome = (s.known || r.usage.isSome)) (husage : r.usage.or c.usage = c.usage)
    (hs : s.done = false → Shows s.mode s.group c bs) (hm : messageOf bs = m) (hadd : m.add r.delta = some m')
    (estimate : ℤ) {count : ℕ} (hcount : count≠1) :
    Told (s.next m.tools.length r) (s.keeps m.tools.length r) m' bs
      (c.streamResponseOpenAI2Claude count estimate r) := by
  cases hd : s.done with
  | true =>
    obtain ⟨hk,hn⟩ := Reading.rule_done (n := m.tools.length) (r := r) hd
    rw [hk,hn,ConvertInfo.response_of_done (hdone.trans hd)]
    exact told_of_silent hm hadd hdone hs
  | false =>
    have hcd := hdone.trans hd
    have hshow := hs hd
    cases hr : r.choices with
    | nil =>
      have hf : r.finished = false := by rw [StreamResponse.finished,hr]
      have hdelta : r.delta = ⟨none,none,none,[]⟩ := by rw [StreamResponse.delta,hr]
      obtain ⟨hk,hn⟩ := Reading.rule_later (n := m.tools.length) hd hfirst (.inl hf)
      rw [hk,hn,ConvertInfo.response_usage hcd hcount hr,if_pos hr,←hknown]
      unfold ConvertInfo.usageResponse
      rw [husage]
      by_cases hu : c.usage.isSome = true
      · rw [if_pos hu,hu]
        refine told_content hshow hm hadd rfl rfl ?_ rfl (fun h => by contradiction)
        refine (assemble_closeMessage bs c c.usage _).trans ?_
        rw [hdelta]
        rfl
      · rw [if_neg hu,Bool.eq_false_iff.mpr hu]
        refine told_content hshow hm hadd rfl rfl ?_ hcd (fun _ => ?_)
        · rw [hdelta]
          rfl
        · rw [hdelta]
          rfl
    | cons choice choices =>
      have hf : r.finished = choice.finished := by rw [StreamResponse.finished,hr]
      have hdelta : r.delta = choice.delta := by rw [StreamResponse.delta,hr]
      have hne : r.choices≠[] := by rw [hr]; exact List.cons_ne_nil _ _
      rw [ConvertInfo.response_choice hcd hcount hr]
      cases hcf : choice.finished with
      | false =>
        obtain ⟨hk,hn⟩ := Reading.rule_later (n := m.tools.length) hd hfirst (.inl (hf.trans hcf))
        rw [hk,hn,ConvertInfo.choiceResponse_goes hcf,if_neg hne,hf,hcf,←hdelta]
        exact told_content hshow hm hadd rfl rfl rfl ((c.keeps_laterContent r.delta).done.trans hcd) (fun _ => rfl)
      | true =>
        cases hu : r.usage with
        | none =>
          obtain ⟨hk,hn⟩ := Reading.rule_waits (n := m.tools.length) hd hfirst (hf.trans hcf) hu
          rw [hk,hn,ConvertInfo.choiceResponse_waits hcf]
          exact told_of_silent hm hadd hdone (fun _ => hshow.congr rfl rfl rfl rfl)
        | some u =>
          obtain ⟨hk,hn⟩ := Reading.rule_later (n := m.tools.length) (r := r) hd hfirst (.inr (by rw [hu]; simp))
          have hshow' : Shows s.mode s.group { c with finishReason := choice.finishReason.getD "" } bs :=
            hshow.congr rfl rfl rfl rfl
          rw [hk,hn,ConvertInfo.choiceResponse_closes hcf,if_neg hne,hf,hcf,←hdelta]
          refine told_content hshow' hm hadd rfl rfl ?_ rfl (fun h => by contradiction)
          rw [assemble_append]
          exact assemble_closeMessage _ _ _ _

/-- One more chunk is shown, or something of it is lost. -/
lemma Follows.step {s : Reading} (h : Follows s st m) (hadd : m.add r.delta = some m') (estimate : ℤ) :
    if s.keeps m.tools.length r then Follows (s.next m.tools.length r) (st.handleStreamFormat estimate r) m'
    else Lost (st.handleStreamFormat estimate r) m' := by
  have hcount := h.count
  have hknown : (st.convert.withUsage (r.usage.or st.convert.usage)).usage.isSome = (s.known || r.usage.isSome) := by
    rw [←h.known]
    change (r.usage.or st.convert.usage).isSome = _
    cases r.usage <;> cases st.convert.usage <;> rfl
  have husage : r.usage.or (st.convert.withUsage (r.usage.or st.convert.usage)).usage = r.usage.or st.convert.usage := by
    change r.usage.or (r.usage.or st.convert.usage) = _
    cases r.usage <;> rfl
  have hshows : s.done = false → Shows s.mode s.group (st.convert.withUsage (r.usage.or st.convert.usage))
      (assemble [] st.sent) := fun hd => (h.shows hd).congr rfl rfl rfl rfl
  have hlater : st.sendResponseCount+1≠1 := by omega
  have htold := told_later (c := st.convert.withUsage (r.usage.or st.convert.usage)) h.first h.done hknown husage hshows h.whole hadd estimate hlater
  unfold Told at htold
  rw [←assemble_append,←StreamState.sent_handleStreamFormat,←StreamState.convert_handleStreamFormat] at htold
  split_ifs at htold ⊢ with hk
  · refine ⟨(Reading.next_later h.first).1,Nat.succ_pos _,?_,htold.2.1,htold.2.2,htold.1⟩
    rw [StreamState.convert_handleStreamFormat,ConvertInfo.usage_response,(Reading.next_later h.first).2,hknown]
  · exact ⟨Nat.succ_pos _,htold⟩

end Handler

/-! ### The first chunk -/

section First
variable {c : ConvertInfo} {bs : List Block} {d : Delta} {estimate : ℤ} {r : StreamResponse} {m' : Message}

/-- The first call is shown, and no other. -/
lemma shows_firstToolCall (ht : c.lastMessagesType = .none) {ts : List ToolCall} {tools : List Tool}
    (hadd : addToolCalls [] 0 ts = some tools) :
    Shows (if ts≠[] then .tools else .none) 0 (c.firstToolCall ts).1 (assemble [] (c.firstToolCall ts).2) ∧
      eventsWeight (c.firstToolCall ts).2+(ts.tail.map ToolCall.weight).sum = (ts.map ToolCall.weight).sum ∧
      ((ts.tail.map ToolCall.weight).sum = 0 → messageOf (assemble [] (c.firstToolCall ts).2) = ⟨"","",tools⟩) := by
  cases ts with
  | nil =>
    obtain rfl := Option.some.inj hadd
    exact ⟨⟨ht,fun x hx => absurd hx List.not_mem_nil⟩,rfl,fun _ => rfl⟩
  | cons t ts =>
    obtain ⟨mid,hmid,hrest⟩ := Option.bind_eq_some_iff.mp hadd
    have hn : t.name≠"" := by
      intro hn
      unfold addToolCall at hmid
      rw [if_neg (not_not.mpr hn)] at hmid
      split_ifs at hmid with hr
      simp at hr
      omega
    have hes : assemble [] (c.firstToolCall (t::ts)).2 = groupBlocks 0 [⟨t.id,t.name,t.arguments⟩] ∧
        eventsWeight (c.firstToolCall (t::ts)).2 = t.weight := by
      unfold ConvertInfo.firstToolCall ToolCall.weight
      by_cases ha : t.arguments = ""
      · simp [hn,ha,assemble,assembleEvent,startBlock,groupBlocks,eventsWeight,ClaudeEvent.weight,ContentBlock.weight]
      · simp [hn,ha,assemble,assembleEvent,startBlock,deltaBlock,feed,ContentBlock.fits,ContentDelta.payload,
          groupBlocks,eventsWeight,ClaudeEvent.weight,ContentBlock.weight]
    rw [hes.1,hes.2]
    refine ⟨⟨rfl,[],[⟨t.id,t.name,t.arguments⟩],?_⟩,by rw [List.map_cons,List.sum_cons,List.tail_cons],fun hw => ?_⟩
    · exact ⟨rfl,fun x hx => absurd hx List.not_mem_nil,rfl,le_rfl,.inr le_rfl⟩
    · have hmid' : mid = [⟨t.id,t.name,t.arguments⟩] := by
        unfold addToolCall at hmid
        rw [if_pos hn] at hmid
        split_ifs at hmid
        exact (Option.some.inj hmid).symm
      rw [addToolCalls_of_weight_zero hrest hw,hmid']
      rfl

/-- Text or thoughts of the first chunk are shown, but not both. -/
lemma Shows.firstContent {mode : MessageType} (h : Shows mode 0 c bs) (htext : mode≠.text) (hthink : mode≠.thinking) :
    Shows (Reading.contentMode mode d) 0 (c.firstContent d).1 (assemble bs (c.firstContent d).2) ∧
      (d.getReasoningContent = "" ∨ d.getContentString = "" →
        messageOf (assemble bs (c.firstContent d).2) = ⟨(messageOf bs).text++d.getContentString,
          (messageOf bs).reasoning++d.getReasoningContent,(messageOf bs).tools⟩) := by
  unfold ConvertInfo.firstContent Reading.contentMode
  by_cases hr : d.getReasoningContent≠""
  · rw [if_pos hr,if_pos hr,ConvertInfo.firstBlock_of_ne (h.1 ▸ hthink)]
    have hnew := Newest.start (d := .thinking d.getReasoningContent) h.below_advance
      (by simp : ∀ id name, ContentBlock.thinking≠.toolUse id name) rfl
    rw [assemble_append,assemble_stopOpenBlocks]
    refine ⟨⟨rfl,hnew.1⟩,fun hc => ?_⟩
    rw [hnew.2,hc.resolve_left hr,String.append_empty]
    rfl
  · rw [if_neg hr,if_neg hr,not_not.mp hr,String.append_empty]
    by_cases hc : d.getContentString≠""
    · rw [if_pos hc,if_pos hc,ConvertInfo.firstBlock_of_ne (h.1 ▸ htext)]
      have hnew := Newest.start (d := .text d.getContentString) h.below_advance
        (by simp : ∀ id name, ContentBlock.text≠.toolUse id name) rfl
      rw [assemble_append,assemble_stopOpenBlocks]
      exact ⟨⟨rfl,hnew.1⟩,fun _ => hnew.2⟩
    · rw [if_neg hc,if_neg hc,not_not.mp hc,String.append_empty]
      exact ⟨h,fun _ => rfl⟩

lemma weight_firstContent (htext : c.lastMessagesType≠.text) (hthink : c.lastMessagesType≠.thinking) :
    eventsWeight (c.firstContent d).2 =
      if d.getReasoningContent≠"" then d.getReasoningContent.length else d.getContentString.length := by
  unfold ConvertInfo.firstContent
  split_ifs with hr hc
  · rw [ConvertInfo.firstBlock_of_ne hthink,eventsWeight_append,weight_stopOpenBlocks]
    change 0+(0+(_+0)) = _
    rw [zero_add,zero_add,add_zero]
    rfl
  · rw [ConvertInfo.firstBlock_of_ne htext,eventsWeight_append,weight_stopOpenBlocks]
    change 0+(0+(_+0)) = _
    rw [zero_add,zero_add,add_zero]
    rfl
  · rw [not_not.mp hc]
    rfl

/-- The blocks of the first chunk show it all, or weigh less. -/
lemma shows_firstBlocks (ht : c.lastMessagesType = .none) (hadd : Message.empty.add d = some m') :
    if Reading.keepsFirst d then
      messageOf (assemble [] (c.firstBlocks d).2) = m' ∧
        Shows (Reading.contentMode (if d.toolCalls≠[] then .tools else .none) d) 0 (c.firstBlocks d).1
          (assemble [] (c.firstBlocks d).2)
    else eventsWeight (c.firstBlocks d).2 < m'.weight := by
  obtain ⟨tools,htools,hm'⟩ := Option.map_eq_some_iff.mp hadd
  obtain ⟨hs,hw,hmsg⟩ := shows_firstToolCall ht htools
  have htext : (if d.toolCalls≠[] then MessageType.tools else .none)≠.text := by split_ifs <;> decide
  have hthink : (if d.toolCalls≠[] then MessageType.tools else .none)≠.thinking := by split_ifs <;> decide
  obtain ⟨hs',hmsg'⟩ := hs.firstContent (d := d) htext hthink
  have hes : (c.firstBlocks d).2 = (c.firstToolCall d.toolCalls).2++
      ((c.firstToolCall d.toolCalls).1.firstContent d).2 := rfl
  rw [hes,assemble_append]
  by_cases hk : Reading.keepsFirst d = true
  · rw [if_pos hk]
    unfold Reading.keepsFirst at hk
    simp only [Bool.and_eq_true,Bool.or_eq_true,decide_eq_true_eq] at hk
    refine ⟨?_,hs'⟩
    rw [hmsg' hk.1,hmsg hk.2,←hm']
    rfl
  · rw [if_neg hk,eventsWeight_append,weight_firstContent (hs.1 ▸ htext) (hs.1 ▸ hthink),weight_add hadd]
    have hempty : Message.empty.weight = 0 := rfl
    unfold Reading.keepsFirst at hk
    simp only [Bool.and_eq_true,Bool.or_eq_true,decide_eq_true_eq,not_and_or,not_or] at hk
    unfold Delta.weight
    rcases hk with ⟨hr,hc⟩ | hk
    · have := mt String.length_eq_zero_iff.mp hc
      rw [if_pos hr]
      omega
    · split_ifs <;> omega

lemma assemble_messageStart (id model : String) (tokens : ℤ) (es : List ClaudeEvent) :
    assemble bs (.messageStart id model tokens::es) = assemble bs es := rfl

/-- The first chunk is told as the reading says. -/
lemma told_first (ht : c.lastMessagesType = .none) (hd : c.done = false)
    (hadd : Message.empty.add r.delta = some m') (estimate : ℤ) :
    Told (Reading.init.next 0 r) (Reading.init.keeps 0 r) m' [] (c.streamResponseOpenAI2Claude 1 estimate r) := by
  obtain ⟨hk,hn⟩ := Reading.rule_first (n := 0) (r := r)
  rw [hk,hn]
  have hblocks := shows_firstBlocks ht hadd
  cases hr : r.choices with
  | nil =>
    have hf : r.finished = false := by rw [StreamResponse.finished,hr]
    have hdelta : r.delta = ⟨none,none,none,[]⟩ := by rw [StreamResponse.delta,hr]
    have hempty : Message.empty.add ⟨none,none,none,[]⟩ = some .empty := rfl
    rw [hdelta,hempty] at hadd
    obtain rfl := Option.some.inj hadd
    rw [ConvertInfo.response_first_nil hd hr,hf,hdelta]
    exact ⟨rfl,hd,fun _ => ⟨ht,fun x hx => absurd hx List.not_mem_nil⟩⟩
  | cons choice choices =>
    have hf : r.finished = choice.finished := by rw [StreamResponse.finished,hr]
    have hdelta : r.delta = choice.delta := by rw [StreamResponse.delta,hr]
    rw [hdelta] at hblocks
    rw [hf,hdelta]
    have hkeep := (c.keeps_firstBlocks choice.delta).done
    have hlost : (messageOf (assemble [] (c.firstBlocks choice.delta).2)).weight ≤
        eventsWeight (c.firstBlocks choice.delta).2 := by
      have := weight_assemble_le [] (c.firstBlocks choice.delta).2
      have hnil : (messageOf []).weight = 0 := rfl
      omega
    cases hcf : choice.finished with
    | false =>
      rw [ConvertInfo.response_first_goes hd hr hcf]
      unfold Told
      rw [assemble_messageStart]
      by_cases hk : Reading.keepsFirst choice.delta = true
      · rw [if_pos hk] at hblocks ⊢
        exact ⟨hblocks.1,hkeep.trans hd,fun _ => hblocks.2⟩
      · rw [if_neg hk] at hblocks ⊢
        exact hlost.trans_lt hblocks
    | true =>
      rw [ConvertInfo.response_first_closes hd hr hcf]
      unfold Told
      simp only
      rw [assemble_append,assemble_messageStart,assemble_closeMessage]
      by_cases hk : Reading.keepsFirst choice.delta = true
      · rw [if_pos hk] at hblocks ⊢
        exact ⟨hblocks.1,rfl,fun h => by contradiction⟩
      · rw [if_neg hk] at hblocks ⊢
        exact hlost.trans_lt hblocks

/-- The first chunk is shown, or something of it is lost. -/
lemma follows_first (hadd : Message.empty.add r.delta = some m') (estimate : ℤ) :
    if Reading.init.keeps 0 r then Follows (Reading.init.next 0 r) (StreamState.init.handleStreamFormat estimate r) m'
    else Lost (StreamState.init.handleStreamFormat estimate r) m' := by
  have htold := told_first (c := StreamState.init.convert.withUsage (r.usage.or none)) rfl rfl hadd estimate
  have hsent : (StreamState.init.handleStreamFormat estimate r).sent =
      ((StreamState.init.convert.withUsage (r.usage.or none)).streamResponseOpenAI2Claude 1 estimate r).2 := rfl
  have hconvert : (StreamState.init.handleStreamFormat estimate r).convert =
      ((StreamState.init.convert.withUsage (r.usage.or none)).streamResponseOpenAI2Claude 1 estimate r).1 := rfl
  unfold Told at htold
  rw [←hsent,←hconvert] at htold
  obtain ⟨-,hn⟩ := Reading.rule_first (n := 0) (r := r)
  by_cases hk : Reading.init.keeps 0 r = true
  · rw [if_pos hk] at htold ⊢
    refine ⟨by rw [hn],Nat.one_pos,?_,htold.2.1,htold.2.2,htold.1⟩
    rw [hconvert,ConvertInfo.usage_response,hn]
    change (r.usage.or none).isSome = _
    cases r.usage <;> rfl
  · rw [if_neg hk] at htold ⊢
    exact ⟨Nat.one_pos,htold⟩

/-! ## Whole streams -/

lemma Lost.run {st : StreamState} {m msg : Message} (h : Lost st m) {chunks : List StreamResponse}
    (hadd : addAll m chunks = some msg) :
    Lost (chunks.foldl (fun s r => s.handleStreamFormat estimate r) st) msg := by
  induction chunks generalizing st m with
  | nil =>
    obtain rfl := Option.some.inj hadd
    exact h
  | cons r rs ih =>
    obtain ⟨m',hm',hrest⟩ := addAll_cons hadd
    exact ih (h.step hm') hrest

/-- The blocks of a whole stream show the message, or something of it is lost. -/
lemma Follows.run {s : Reading} {st : StreamState} {m msg : Message} (h : Follows s st m)
    {chunks : List StreamResponse} (hadd : addAll m chunks = some msg) (estimate : ℤ) :
    if s.keepsAll m chunks then
      messageOf (assemble [] (chunks.foldl (fun s r => s.handleStreamFormat estimate r) st).sent) = msg
    else Lost (chunks.foldl (fun s r => s.handleStreamFormat estimate r) st) msg := by
  induction chunks generalizing s st m with
  | nil =>
    obtain rfl := Option.some.inj hadd
    exact h.whole
  | cons r rs ih =>
    obtain ⟨m',hm',hrest⟩ := addAll_cons hadd
    have hstep := h.step hm' estimate
    rw [Reading.keepsAll_cons hm']
    by_cases hk : s.keeps m.tools.length r = true
    · rw [if_pos hk] at hstep
      rw [hk,Bool.true_and]
      exact ih hstep hrest
    · rw [if_neg hk] at hstep
      rw [Bool.eq_false_iff.mpr hk,Bool.false_and,if_neg Bool.false_ne_true]
      exact hstep.run hrest

/-- The blocks of a stream show its message exactly when its chunks keep it. -/
theorem messageOf_streamed_iff {chunks : List StreamResponse} {m : Message} (hcuts : Cuts chunks m) (estimate : ℤ) :
    messageOf (assemble [] (streamed estimate chunks)) = m ↔ Reading.init.keepsAll .empty chunks = true := by
  cases chunks with
  | nil =>
    obtain rfl := Option.some.inj hcuts
    exact iff_of_true rfl rfl
  | cons r rs =>
    obtain ⟨m',hm',hrest⟩ := addAll_cons hcuts
    have hfirst := follows_first hm' estimate
    rw [Reading.keepsAll_cons hm']
    have hlost : Lost (rs.foldl (fun s r => s.handleStreamFormat estimate r)
        (StreamState.init.handleStreamFormat estimate r)) m → messageOf (assemble [] (streamed estimate (r::rs)))≠m := by
      intro hl heq
      have hless := hl.less
      change (messageOf (assemble [] (streamed estimate (r::rs)))).weight<_ at hless
      rw [heq] at hless
      exact lt_irrefl _ hless
    by_cases hk : Reading.init.keeps 0 r = true
    · rw [if_pos hk] at hfirst
      have hrun := hfirst.run hrest estimate
      change _ ↔ (Reading.init.keeps 0 r && _) = true
      rw [hk,Bool.true_and]
      split_ifs at hrun with hall
      · exact iff_of_true hrun hall
      · exact iff_of_false (hlost hrun) hall
    · rw [if_neg hk] at hfirst
      refine iff_of_false (hlost (hfirst.run hrest)) ?_
      change ¬(Reading.init.keeps 0 r && _) = true
      rw [Bool.eq_false_iff.mpr hk,Bool.false_and]
      exact Bool.false_ne_true

end First

/-! ## The whole response -/

section Whole
variable {J : Type*} (unmarshal : String → Option J)

/-- The whole response looks at the tools or at the text, as its finish reason says. -/
def wholeKept (finishReason : String) (m : Message) : Bool :=
  m.reasoning = "" && if finishReason = "tool_calls" then m.text = "" else m.tools = []

lemma contentOf_tools (ts : List Tool) :
    contentOf (ts.map (fun t => .toolUse t.id t.name (toolInput unmarshal t.arguments))) =
      ⟨"","",ts.map (fun t => (t.id,t.name,toolInput unmarshal t.arguments))⟩ := by
  induction ts with
  | nil => rfl
  | cons t ts ih => rw [List.map_cons,contentOf,ih,List.map_cons]

lemma contentOf_whole (m : Message) (finishReason : String) :
    contentOf (responseOpenAI2Claude unmarshal [⟨m,finishReason⟩]).1 =
      if finishReason = "tool_calls" then ⟨"","",(m.content unmarshal).tools⟩ else ⟨m.text,"",[]⟩ := by
  unfold responseOpenAI2Claude Message.content
  simp only [List.foldl_cons,List.foldl_nil,List.nil_append]
  split_ifs
  · exact contentOf_tools unmarshal m.tools
  · change Content.mk (m.text++"") "" [] = _
    rw [String.append_empty]

/-- The whole response has the content of its message exactly when it looks at all of it. -/
theorem contentOf_whole_iff (m : Message) (finishReason : String) :
    contentOf (responseOpenAI2Claude unmarshal [⟨m,finishReason⟩]).1 = m.content unmarshal ↔
      wholeKept finishReason m = true := by
  rw [contentOf_whole]
  unfold wholeKept Message.content
  split_ifs with hf
  · rw [Content.mk.injEq,Bool.and_eq_true,decide_eq_true_eq,decide_eq_true_eq]
    exact ⟨fun h => ⟨h.2.1.symm,h.1.symm⟩,fun h => ⟨h.2.symm,h.1.symm,rfl⟩⟩
  · rw [Content.mk.injEq,Bool.and_eq_true,decide_eq_true_eq,decide_eq_true_eq]
    refine ⟨fun h => ⟨h.2.1.symm,List.map_eq_nil_iff.mp h.2.2.symm⟩,fun h => ⟨rfl,h.1.symm,?_⟩⟩
    rw [h.2]
    rfl

/-- The blocks of the stream are those of the message and of the whole response exactly when the chunks keep the
message and the whole response looks at all of it. -/
theorem streamed_agrees_iff {chunks : List StreamResponse} {m : Message} (hcuts : Cuts chunks m) (estimate : ℤ)
    (finishReason : String) :
    (messageOf (assemble [] (streamed estimate chunks)) = m ∧
      (messageOf (assemble [] (streamed estimate chunks))).content unmarshal =
        contentOf (responseOpenAI2Claude unmarshal [⟨m,finishReason⟩]).1) ↔
      Reading.init.keepsAll .empty chunks = true ∧ wholeKept finishReason m = true := by
  rw [←messageOf_streamed_iff hcuts estimate,←contentOf_whole_iff unmarshal]
  constructor
  · rintro ⟨hm,hc⟩
    rw [hm] at hc
    exact ⟨hm,hc.symm⟩
  · rintro ⟨hm,hc⟩
    rw [hm]
    exact ⟨rfl,hc.symm⟩

end Whole

/-- A call of which the arguments come in two pieces. -/
def callChunks : List StreamResponse :=
  [⟨"c","m",[⟨⟨some "",none,none,[]⟩,none⟩],none⟩,
    ⟨"c","m",[⟨⟨none,none,none,[⟨some 0,"t1","read","\x7b"⟩]⟩,none⟩],none⟩,
    ⟨"c","m",[⟨⟨none,none,none,[⟨some 0,"","","\x7d"⟩]⟩,none⟩],none⟩,
    ⟨"c","m",[⟨⟨none,none,none,[]⟩,some "tool_calls"⟩],none⟩]

theorem streamed_agrees_callChunks :
    messageOf (assemble [] (streamed 3 callChunks)) = ⟨"","",[⟨"t1","read","\x7b\x7d"⟩]⟩ ∧
      (messageOf (assemble [] (streamed 3 callChunks))).content (fun s => if s = "\x7b\x7d" then some () else none) =
        contentOf (responseOpenAI2Claude (fun s => if s = "\x7b\x7d" then some () else none)
          [⟨⟨"","",[⟨"t1","read","\x7b\x7d"⟩]⟩,"tool_calls"⟩]).1 :=
  (streamed_agrees_iff (fun s => if s = "\x7b\x7d" then some () else none)
    (show Cuts callChunks ⟨"","",[⟨"t1","read","\x7b\x7d"⟩]⟩ by decide) 3 "tool_calls").mpr (by decide)

/-- A text, then a call. -/
def textThenCall : List StreamResponse :=
  [⟨"c","m",[⟨⟨some "Checking.",none,none,[]⟩,none⟩],none⟩,
    ⟨"c","m",[⟨⟨none,none,none,[⟨some 0,"t1","read","\x7b\x7d"⟩]⟩,none⟩],none⟩,
    ⟨"c","m",[⟨⟨none,none,none,[]⟩,some "tool_calls"⟩],none⟩]

/-- The stream gives the text and the call, the whole response only the call. -/
theorem textThenCall_disagrees :
    Cuts textThenCall ⟨"Checking.","",[⟨"t1","read","\x7b\x7d"⟩]⟩ ∧
      (messageOf (assemble [] (streamed 3 textThenCall))).content (fun s => if s = "\x7b\x7d" then some () else none) ≠
        contentOf (responseOpenAI2Claude (fun s => if s = "\x7b\x7d" then some () else none)
          [⟨⟨"Checking.","",[⟨"t1","read","\x7b\x7d"⟩]⟩,"tool_calls"⟩]).1 := by
  decide

end Convert
end Tierflow
