import Tierflow.Convert.Message

/-! The blocks that events are put together to: what single blocks and groups of tools become. -/
namespace Tierflow
namespace Convert
open Blocks (Event)

/-! ## Assembling -/

lemma assemble_append (bs : List Block) (es fs : List ClaudeEvent) :
    assemble bs (es++fs) = assemble (assemble bs es) fs := List.foldl_append

lemma assemble_startBlock (bs : List Block) (i : ℤ) (b : ContentBlock) :
    assemble bs [startBlock i b] = bs++[⟨i,b,""⟩] := rfl

lemma assemble_deltaBlock (bs : List Block) (i : ℤ) (d : ContentDelta) :
    assemble bs [deltaBlock i d] = feed i d bs := rfl

/-- Events that write no block. -/
lemma assemble_of_not_block {bs : List Block} {es : List ClaudeEvent}
    (h : ∀ e∈es, assembleEvent bs e = bs) : assemble bs es = bs := by
  unfold assemble
  induction es with
  | nil => rfl
  | cons e es ih =>
    rw [List.foldl_cons,h e List.mem_cons_self]
    exact ih (fun e he => h e (List.mem_cons_of_mem _ he))

lemma assemble_stopOpenBlocks (bs : List Block) (c : ConvertInfo) : assemble bs c.stopOpenBlocks = bs := by
  apply assemble_of_not_block
  intro e he
  obtain ⟨i,rfl⟩ := c.mem_stopOpenBlocks he
  rfl

lemma assemble_closeMessage (bs : List Block) (c : ConvertInfo) (usage : Option Usage) (reason : String) :
    assemble bs (c.closeMessage usage reason).2 = bs := by
  unfold ConvertInfo.closeMessage
  rw [assemble_append,assemble_append,assemble_stopOpenBlocks]
  cases usage <;> rfl

/-- All blocks have numbers below a bound. -/
def Below (n : ℤ) (bs : List Block) : Prop := ∀ x∈bs, x.index<n

lemma Below.mono {n k : ℤ} {bs : List Block} (h : Below n bs) (hle : n≤k) : Below k bs :=
  fun x hx => lt_of_lt_of_le (h x hx) hle

lemma Below.append {n : ℤ} {bs cs : List Block} (h : Below n bs) (h' : Below n cs) : Below n (bs++cs) :=
  fun x hx => (List.mem_append.mp hx).elim (h x) (h' x)

lemma feed_append_of_ne {i : ℤ} {xs : List Block} (h : ∀ x∈xs, x.index≠i) (d : ContentDelta) (ys : List Block) :
    feed i d (xs++ys) = xs++feed i d ys := by
  induction xs with
  | nil => rfl
  | cons x xs ih =>
    rw [List.cons_append,feed,if_neg (fun hx => h x List.mem_cons_self hx.1),
      ih (fun y hy => h y (List.mem_cons_of_mem _ hy))]
    rfl

lemma feed_of_ne {i : ℤ} {xs : List Block} (h : ∀ x∈xs, x.index≠i) (d : ContentDelta) : feed i d xs = xs := by
  have := feed_append_of_ne h d []
  rwa [List.append_nil,feed,List.append_nil] at this

/-- A delta finds the newest block. -/
lemma feed_last {i : ℤ} {old : List Block} {b : ContentBlock} {d : ContentDelta} (h : Below i old)
    (hd : b.fits d = true) (s : String) : feed i d (old++[⟨i,b,s⟩]) = old++[⟨i,b,s++d.payload⟩] := by
  rw [feed_append_of_ne (fun x hx => (h x hx).ne),feed,if_pos ⟨rfl,hd⟩]

/-! ## Groups of tools -/

/-- Arguments go to calls of the open group. -/
def toolsKept (group : ℕ) : ℕ → List ToolCall → Bool
  | _,[] => true
  | i,t::ts => (t.name≠"" || t.arguments = "" || (group : ℤ)≤toolOffset i t) && toolsKept group (i+1) ts

def groupBlocks (n : ℤ) : List Tool → List Block
  | [] => []
  | t::ts => ⟨n,.toolUse t.id t.name,t.arguments⟩::groupBlocks (n+1) ts

lemma index_groupBlocks {n : ℤ} {ts : List Tool} {x : Block} (hx : x∈groupBlocks n ts) :
    n ≤ x.index ∧ x.index<n+ts.length := by
  induction ts generalizing n with
  | nil => contradiction
  | cons t ts ih =>
    rw [List.length_cons]
    rcases List.mem_cons.mp hx with rfl | hx
    · exact ⟨le_rfl,by push_cast; omega⟩
    · have := ih hx
      push_cast
      omega

lemma groupBlocks_append (n : ℤ) (ts us : List Tool) :
    groupBlocks n (ts++us) = groupBlocks n ts++groupBlocks (n+ts.length) us := by
  induction ts generalizing n with
  | nil => simp [groupBlocks]
  | cons t ts ih =>
    rw [List.cons_append,groupBlocks,ih,groupBlocks,List.cons_append,List.length_cons]
    push_cast
    ring_nf

lemma filterMap_groupBlocks (n : ℤ) (ts : List Tool) : (groupBlocks n ts).filterMap toolOf = ts := by
  induction ts generalizing n with
  | nil => rfl
  | cons t ts ih =>
    have ht : toolOf ⟨n,.toolUse t.id t.name,t.arguments⟩ = some t := rfl
    rw [groupBlocks,List.filterMap_cons_some ht,ih]

lemma bodyOf_groupBlocks {b : ContentBlock} (hb : ∀ id name, b≠.toolUse id name) (n : ℤ) (ts : List Tool) :
    bodyOf b (groupBlocks n ts) = "" := by
  induction ts generalizing n with
  | nil => rfl
  | cons t ts ih =>
    rw [groupBlocks,bodyOf,if_neg (fun h => hb _ _ h.symm),ih]
    rfl

lemma feed_groupBlocks (n : ℤ) (ts : List Tool) (j : ℕ) (hj : j<ts.length) (a : String) :
    feed (n+j) (.inputJson a) (groupBlocks n ts) = groupBlocks n (ts.modify j (fun x => x.extend a)) := by
  induction ts generalizing n j with
  | nil => simp at hj
  | cons t ts ih =>
    cases j with
    | zero =>
      rw [groupBlocks,feed,if_pos ⟨by simp,rfl⟩]
      rfl
    | succ j =>
      have hrec := ih (n+1) j (by simpa using hj)
      rw [groupBlocks,feed,if_neg (fun h => by have := h.1; simp only at this; push_cast at this; omega)]
      have hcast : n+((j+1 : ℕ) : ℤ) = n+1+(j : ℤ) := by push_cast; ring
      rw [hcast,hrec]
      rfl

lemma Tool.extend_empty (x : Tool) : x.extend "" = x := by
  unfold Tool.extend
  rw [String.append_empty]

section Group
variable {old : List Block} {us tools' : List Tool} {base : ℤ} {t : ToolCall} {off : ℤ}

/-- A call that is named, says nothing, or goes to the open group is shown. -/
lemma assemble_toolEvent (hold : Below base old)
    (hadd : addToolCall (old.filterMap toolOf++us) off t = some tools')
    (hkept : t.name≠"" ∨ t.arguments = "" ∨ ((old.filterMap toolOf).length : ℤ)≤off) :
    ∃ us', tools' = old.filterMap toolOf++us' ∧
      assemble (old++groupBlocks (base+(old.filterMap toolOf).length) us) (toolEvent (base+off) t) =
        old++groupBlocks (base+(old.filterMap toolOf).length) us' ∧
      ∀ mx : ℤ, (us = [] ∨ (old.filterMap toolOf).length+us.length ≤ mx+1) →
        (us' = [] ∨ (old.filterMap toolOf).length+us'.length ≤ max mx off+1) := by
  set group := (old.filterMap toolOf).length with hgroup
  unfold addToolCall at hadd
  by_cases hn : t.name≠""
  · rw [if_pos hn] at hadd
    split_ifs at hadd with ho
    obtain rfl := Option.some.inj hadd
    rw [List.length_append,←hgroup,Nat.cast_add] at ho
    refine ⟨us++[⟨t.id,t.name,t.arguments⟩],by rw [List.append_assoc],?_,?_⟩
    · have hidx : base+off = base+group+us.length := by omega
      have hbelow : Below (base+off) (old++groupBlocks (base+group) us) := by
        apply Below.append
        · exact hold.mono (by omega)
        · intro x hx
          have := index_groupBlocks hx
          omega
      rw [toolEvent,if_pos hn,assemble_append,assemble_startBlock,groupBlocks_append,←List.append_assoc,hidx.symm]
      split_ifs with ha
      · rw [assemble_deltaBlock,feed_last hbelow rfl,String.empty_append]
        rfl
      · rw [not_not.mp ha]
        rfl
    · intro mx _
      right
      rw [List.length_append,List.length_singleton]
      push_cast
      omega
  · rw [if_neg hn] at hadd
    split_ifs at hadd with hr
    obtain rfl := Option.some.inj hadd
    by_cases ha : t.arguments = ""
    · refine ⟨us,?_,?_,fun mx h => ?_⟩
      · simp only [ha,Tool.extend_empty]
        exact List.modify_id _ _
      · rw [toolEvent,if_neg hn,if_neg (not_not.mpr ha)]
        rfl
      · rcases h with h | h
        · exact .inl h
        · right
          omega
    · have hle : (group : ℤ)≤off := (hkept.resolve_left hn).resolve_left ha
      rw [List.length_append,←hgroup,Nat.cast_add] at hr
      obtain ⟨j,hj⟩ : ∃ j : ℕ, off = group+j := ⟨(off-group).toNat,by omega⟩
      refine ⟨us.modify j (fun x => x.extend t.arguments),?_,?_,fun mx h => ?_⟩
      · rw [hj,show ((group : ℤ)+j).toNat = group+j by omega]
        exact List.modifyTailIdx_add _ j _ us
      · rw [toolEvent,if_neg hn,if_pos ha,List.nil_append,assemble_deltaBlock,
          feed_append_of_ne (fun x hx => ((hold x hx).trans_le (by omega)).ne),hj,←add_assoc,
          feed_groupBlocks _ _ _ (by omega)]
      · rcases h with rfl | h
        · left
          exact List.modify_nil _ j
        · right
          rw [List.length_modify]
          omega

/-- Arguments for a call of an earlier group go nowhere. -/
lemma assemble_toolEvent_of_lost (hold : Below base old)
    (hadd : addToolCall (old.filterMap toolOf++us) off t = some tools') (hn : t.name = "")
    (hoff : off<(old.filterMap toolOf).length) :
    assemble (old++groupBlocks (base+(old.filterMap toolOf).length) us) (toolEvent (base+off) t) =
      old++groupBlocks (base+(old.filterMap toolOf).length) us := by
  unfold addToolCall at hadd
  rw [if_neg (not_not.mpr hn)] at hadd
  split_ifs at hadd with hr
  rw [toolEvent,if_neg (not_not.mpr hn),List.nil_append]
  split_ifs
  · apply feed_of_ne
    intro x hx
    rcases List.mem_append.mp hx with hx | hx
    · exact ((hold x hx).trans_le (by omega)).ne
    · have := index_groupBlocks hx
      omega
  · rfl

end Group

section Groups
variable {old : List Block} {base : ℤ}

/-- Tool calls of which all are kept are shown. -/
lemma assemble_toolEvents (hold : Below base old) {us tools' : List Tool} {i : ℕ} {ts : List ToolCall} {mx : ℤ}
    (hadd : addToolCalls (old.filterMap toolOf++us) i ts = some tools')
    (hkept : toolsKept (old.filterMap toolOf).length i ts = true)
    (hmx : us = [] ∨ (old.filterMap toolOf).length+us.length ≤ mx+1) :
    ∃ us', tools' = old.filterMap toolOf++us' ∧
      assemble (old++groupBlocks (base+(old.filterMap toolOf).length) us) (toolEvents base i ts) =
        old++groupBlocks (base+(old.filterMap toolOf).length) us' ∧
      (us' = [] ∨ (old.filterMap toolOf).length+us'.length ≤ maxOffset mx i ts+1) := by
  induction ts generalizing us i mx with
  | nil =>
    obtain rfl := Option.some.inj hadd
    exact ⟨us,rfl,rfl,hmx⟩
  | cons t ts ih =>
    obtain ⟨mid,hmid,hrest⟩ := Option.bind_eq_some_iff.mp hadd
    rw [toolsKept,Bool.and_eq_true] at hkept
    obtain ⟨us₁,rfl,hshow,hmx₁⟩ := assemble_toolEvent hold hmid (by simpa [or_assoc] using hkept.1)
    obtain ⟨us₂,hus₂,hshow₂,hmx₂⟩ := ih hrest hkept.2 (hmx₁ mx hmx)
    refine ⟨us₂,hus₂,?_,hmx₂⟩
    rw [toolEvents,assemble_append,hshow,hshow₂]

lemma weight_toolEvent (n : ℤ) (t : ToolCall) : eventsWeight (toolEvent n t) = t.weight := by
  unfold toolEvent eventsWeight ToolCall.weight
  by_cases ha : t.arguments = "" <;> by_cases hn : t.name = "" <;>
    simp [ha,hn,startBlock,deltaBlock,ClaudeEvent.weight,ContentBlock.weight,ContentDelta.payload]

lemma eventsWeight_append (es fs : List ClaudeEvent) : eventsWeight (es++fs) = eventsWeight es+eventsWeight fs := by
  simp [eventsWeight]

lemma weight_toolEvents (n : ℤ) (i : ℕ) (ts : List ToolCall) :
    eventsWeight (toolEvents n i ts) = (ts.map ToolCall.weight).sum := by
  induction ts generalizing i with
  | nil => rfl
  | cons t ts ih => rw [toolEvents,eventsWeight_append,weight_toolEvent,ih,List.map_cons,List.sum_cons]

/-- Tool calls of which one is not kept weigh more than what is shown of them. -/
lemma weight_assemble_toolEvents_lt (hold : Below base old) {us tools' : List Tool} {i : ℕ} {ts : List ToolCall}
    (hadd : addToolCalls (old.filterMap toolOf++us) i ts = some tools')
    (hkept : toolsKept (old.filterMap toolOf).length i ts = false) :
    (messageOf (assemble (old++groupBlocks (base+(old.filterMap toolOf).length) us) (toolEvents base i ts))).weight<
      (messageOf (old++groupBlocks (base+(old.filterMap toolOf).length) us)).weight+
        (ts.map ToolCall.weight).sum := by
  induction ts generalizing us i with
  | nil => simp [toolsKept] at hkept
  | cons t ts ih =>
    obtain ⟨mid,hmid,hrest⟩ := Option.bind_eq_some_iff.mp hadd
    rw [toolEvents,assemble_append,List.map_cons,List.sum_cons]
    by_cases ht : t.name≠"" ∨ t.arguments = "" ∨ ((old.filterMap toolOf).length : ℤ) ≤ toolOffset i t
    · obtain ⟨us₁,rfl,hshow,-⟩ := assemble_toolEvent hold hmid ht
      have hle := weight_assemble_le (old++groupBlocks (base+(old.filterMap toolOf).length) us)
        (toolEvent (base+toolOffset i t) t)
      rw [weight_toolEvent,hshow] at hle
      rw [toolsKept,Bool.and_eq_false_iff] at hkept
      have hhead : ¬(t.name≠"" || t.arguments = "" || ((old.filterMap toolOf).length : ℤ)≤toolOffset i t) = false := by
        rw [Bool.not_eq_false]
        simpa [or_assoc] using ht
      have htail := hkept.resolve_left hhead
      have hlt := ih hrest htail
      rw [hshow]
      omega
    · push Not at ht
      obtain ⟨hn,ha,hoff⟩ := ht
      rw [assemble_toolEvent_of_lost hold hmid hn hoff]
      have hle := weight_assemble_le (old++groupBlocks (base+(old.filterMap toolOf).length) us) (toolEvents base (i+1) ts)
      rw [weight_toolEvents] at hle
      have hpos : 0<t.weight := by
        unfold ToolCall.weight
        have := mt String.length_eq_zero_iff.mp ha
        omega
      omega

end Groups

/-! ## Blocks shown -/

def Message.say (m : Message) : ContentDelta → Message
  | .text s => { m with text := m.text++s }
  | .thinking s => { m with reasoning := m.reasoning++s }
  | .inputJson _ => m

/-- The newest block has a number and a header. -/
def Newest (i : ℤ) (b : ContentBlock) (bs : List Block) : Prop := ∃ old s, bs = old++[⟨i,b,s⟩] ∧ Below i old

section Newest
variable {i : ℤ} {b : ContentBlock} {d : ContentDelta} {bs : List Block}

lemma messageOf_say (hb : ∀ id name, b≠.toolUse id name) (hd : b.fits d = true) (old : List Block) (s : String) :
    messageOf (old++[⟨i,b,s++d.payload⟩]) = (messageOf (old++[⟨i,b,s⟩])).say d := by
  cases b with
  | toolUse id name => exact absurd rfl (hb id name)
  | text | thinking =>
    cases d <;> simp [ContentBlock.fits] at hd
    simp [messageOf,bodyOf_append,bodyOf,List.filterMap_cons,toolOf,Message.say,ContentDelta.payload,
      String.append_assoc]

lemma Newest.delta (h : Newest i b bs) (hb : ∀ id name, b≠.toolUse id name) (hd : b.fits d = true) :
    Newest i b (assemble bs [deltaBlock i d]) ∧ messageOf (assemble bs [deltaBlock i d]) = (messageOf bs).say d := by
  obtain ⟨old,s,rfl,hold⟩ := h
  rw [assemble_deltaBlock,feed_last hold hd]
  exact ⟨⟨old,_,rfl,hold⟩,messageOf_say hb hd old s⟩

lemma messageOf_start (hb : ∀ id name, b≠.toolUse id name) (bs : List Block) :
    messageOf (bs++[⟨i,b,""⟩]) = messageOf bs := by
  cases b with
  | toolUse id name => exact absurd rfl (hb id name)
  | text | thinking => simp [messageOf,bodyOf_append,bodyOf,toolOf]

lemma Newest.start (h : Below i bs) (hb : ∀ id name, b≠.toolUse id name) (hd : b.fits d = true) :
    Newest i b (assemble bs [startBlock i b,deltaBlock i d]) ∧
      messageOf (assemble bs [startBlock i b,deltaBlock i d]) = (messageOf bs).say d := by
  have hnew : Newest i b (bs++[⟨i,b,""⟩]) := ⟨bs,"",rfl,h⟩
  have := hnew.delta hb hd
  rwa [messageOf_start hb] at this

end Newest

/-- Blocks that end with the calls of an open group. -/
structure Grouped (base : ℤ) (group : ℕ) (mx : ℤ) (old : List Block) (us : List Tool) (bs : List Block) : Prop where
  eq : bs = old++groupBlocks (base+group) us
  below : Below base old
  count : (old.filterMap toolOf).length = group
  nonneg : 0 ≤ mx
  reach : us = [] ∨ group+us.length ≤ mx+1

namespace Grouped
variable {base : ℤ} {group : ℕ} {mx : ℤ} {old : List Block} {us : List Tool} {bs : List Block}
  (h : Grouped base group mx old us bs)
include h

lemma tools : (messageOf bs).tools = old.filterMap toolOf++us := by
  rw [h.eq,messageOf,List.filterMap_append,filterMap_groupBlocks]

lemma text : (messageOf bs).text = bodyOf .text old := by
  rw [h.eq]
  exact (bodyOf_append _ _ _).trans (by rw [bodyOf_groupBlocks (by simp),String.append_empty])

lemma reasoning : (messageOf bs).reasoning = bodyOf .thinking old := by
  rw [h.eq]
  exact (bodyOf_append _ _ _).trans (by rw [bodyOf_groupBlocks (by simp),String.append_empty])

/-- The blocks once the open group is closed. -/
lemma below_succ : Below (base+mx+1) bs := by
  have h0 := h.nonneg
  rw [h.eq]
  apply (h.below.mono (by omega)).append
  intro x hx
  have := index_groupBlocks hx
  rcases h.reach with hus | hus
  · subst hus
    contradiction
  · omega

lemma shown {ts : List ToolCall} {tools' : List Tool} (hadd : addToolCalls (messageOf bs).tools 0 ts = some tools')
    (hkept : toolsKept group 0 ts = true) :
    ∃ us', Grouped base group (maxOffset mx 0 ts) old us' (assemble bs (toolEvents base 0 ts)) ∧
      messageOf (assemble bs (toolEvents base 0 ts)) = { messageOf bs with tools := tools' } := by
  have hcount := h.count
  subst hcount
  rw [h.tools] at hadd
  obtain ⟨us',rfl,hshow,hreach⟩ := assemble_toolEvents h.below hadd hkept h.reach
  rw [←h.eq] at hshow
  have h' : Grouped base _ (maxOffset mx 0 ts) old us' (assemble bs (toolEvents base 0 ts)) :=
    ⟨hshow,h.below,rfl,h.nonneg.trans (le_maxOffset mx 0 ts),hreach⟩
  refine ⟨us',h',?_⟩
  rw [Message.mk.injEq]
  exact ⟨h'.text.trans h.text.symm,h'.reasoning.trans h.reasoning.symm,h'.tools⟩

lemma lost {ts : List ToolCall} {tools' : List Tool} (hadd : addToolCalls (messageOf bs).tools 0 ts = some tools')
    (hkept : toolsKept group 0 ts = false) :
    (messageOf (assemble bs (toolEvents base 0 ts))).weight<(messageOf bs).weight+(ts.map ToolCall.weight).sum := by
  have hcount := h.count
  subst hcount
  rw [h.tools] at hadd
  rw [h.eq]
  exact weight_assemble_toolEvents_lt h.below hadd hkept

end Grouped

end Convert
end Tierflow
