import Tierflow.Foundation.Claiming
import Tierflow.Foundation.Text

/-! Tool calls of a request history whose identifiers were lost. Calls without one get one from their place, and the
answers without one claim the calls before them in order. -/
namespace Tierflow
namespace Compat
namespace ToolCallIds
open Claiming

structure ToolCall where
  id : String
  type : String
  deriving DecidableEq, Repr

/-- The calls of a message as it came: nothing, something that is no list, or a list of objects. -/
inductive RawCalls
  | absent
  | other (raw : String)
  | array (calls : List ToolCall)
  deriving DecidableEq, Repr

def RawCalls.calls : RawCalls → List ToolCall
  | .array calls => calls
  | _ => []

structure Message where
  role : String
  toolCalls : RawCalls
  toolCallId : String
  deriving DecidableEq, Repr

def Message.ids (m : Message) : List String := m.toolCalls.calls.map ToolCall.id

def Blank (s : String) : Prop := Text.trimSpace s = ""

instance (s : String) : Decidable (Blank s) := inferInstanceAs (Decidable (_ = _))

/-! ## Repair -/

def fixId (i ti : ℕ) : String := "call_fix_"++Text.printNat i++"_"++Text.printNat ti

def repairCall (i ti : ℕ) (tc : ToolCall) : ToolCall where
  id := if Blank tc.id then fixId i ti else tc.id
  type := if tc.type = "" then "function" else tc.type

/-- How many of its fields are set. -/
def ToolCall.missing (tc : ToolCall) : ℕ := (if Blank tc.id then 1 else 0)+if tc.type = "" then 1 else 0

def repairCalls (i : ℕ) (calls : List ToolCall) : List ToolCall := calls.zipIdx.map (fun p => repairCall i p.2 p.1)

/-- A message, the calls that the messages after it can claim, and the number of fields set. -/
def repairMessage (i : ℕ) (last : List (String × Bool)) (m : Message) : Message × List (String × Bool) × ℕ :=
  if m.role = "assistant" then
    match m.toolCalls with
    | .array calls =>
      ({ m with toolCalls := .array (repairCalls i calls) },fresh ((repairCalls i calls).map ToolCall.id),
        (calls.map ToolCall.missing).sum)
    | _ => (m,[],0)
  else if m.role = "tool" then
    if ¬Blank m.toolCallId then (m,claimNamed m.toolCallId last,0)
    else
      match claimFirst last with
      | none => (m,last,0)
      | some (id,last) => ({ m with toolCallId := id },last,1)
  else (m,[],0)

def repairFrom (i : ℕ) (last : List (String × Bool)) : List Message → List Message × ℕ
  | [] => ([],0)
  | m::messages =>
    let (m,last,n) := repairMessage i last m
    let (messages,repaired) := repairFrom (i+1) last messages
    (m::messages,n+repaired)

/-- The repaired messages, and how many fields were set. -/
def repairToolCallIDs (normalizeDisabled : Bool) (messages : List Message) : List Message × ℕ :=
  if normalizeDisabled then (messages,0) else repairFrom 0 [] messages

/-! ## What is repaired -/

/-- A message to which nothing need be done. -/
def Message.Consistent (m : Message) : Prop :=
  (m.role = "assistant" → ∀ c∈m.toolCalls.calls, ¬Blank c.id ∧ c.type≠"") ∧ (m.role = "tool" → ¬Blank m.toolCallId)

/-- Each message with what became of it. -/
def repairs (messages : List Message) : List (Message × Message) := messages.zip (repairToolCallIDs false messages).1

/-- Every call and every answer finds its counterpart. -/
structure Repaired (messages : List Message) : Prop where
  identified : ∀ p∈repairs messages, p.1.role = "assistant" → ∀ c∈p.2.toolCalls.calls, c.id≠"" ∧ c.type≠""
  distinct : ∀ p∈repairs messages, p.1.role = "assistant" → p.2.ids.Nodup
  answered : ∀ before a between m after, repairs messages = before++a::between++m::after →
    a.1.role = "assistant" → (∀ t∈between, t.1.role≠"assistant") → m.1.role = "tool" → Blank m.1.toolCallId →
    (∃ id∈a.2.ids, ∀ t∈between, t.1.role = "tool" → t.2.toolCallId≠id) →
      m.2.toolCallId∈a.2.ids ∧ ∀ t∈between, t.1.role = "tool" → t.2.toolCallId≠m.2.toolCallId
  once : ∀ before a between m after, repairs messages = before++a::between++m::after →
    a.1.role = "assistant" → (∀ t∈between, t.1.role = "tool") → m.1.role = "tool" → m.2.toolCallId∈a.2.ids →
      ∀ t∈between, t.2.toolCallId≠m.2.toolCallId
  kept : ∀ p∈repairs messages, p.1.Consistent → p.2 = p.1
  idempotent : repairToolCallIDs false (repairToolCallIDs false messages).1 = ((repairToolCallIDs false messages).1,0)

/-- The first tool messages of a segment have claimed what they carry, and those without an identifier take what is
left. -/
structure RepairedInOrder (messages : List Message) : Prop where
  identified : ∀ p∈repairs messages, p.1.role = "assistant" → ∀ c∈p.2.toolCalls.calls, ¬Blank c.id ∧ c.type≠""
  distinct : ∀ before p after, repairs messages = before++p::after → p.1.role = "assistant" →
    (p.1.ids.filter (fun id => ¬Blank id)).Nodup →
    (∀ q∈p.1.toolCalls.calls.zipIdx, Blank q.1.id → fixId before.length q.2∉p.1.ids) → p.2.ids.Nodup
  answered : ∀ before a between m after, repairs messages = before++a::between++m::after →
    a.1.role = "assistant" → (∀ t∈between, t.1.role = "tool") → m.1.role = "tool" → Blank m.1.toolCallId →
    (∃ id, (between.map (fun t => t.2.toolCallId)).count id<a.2.ids.count id) →
      (between.map (fun t => t.2.toolCallId)).count m.2.toolCallId<a.2.ids.count m.2.toolCallId
  unanswered : ∀ before a between m after, repairs messages = before++a::between++m::after →
    a.1.role = "assistant" → (∀ t∈between, t.1.role = "tool") → m.1.role = "tool" →
    (∀ id, a.2.ids.count id ≤ (between.map (fun t => t.2.toolCallId)).count id) → m.2 = m.1
  once : ∀ before a between m after, repairs messages = before++a::between++m::after →
    a.1.role = "assistant" → (∀ t∈between, t.1.role = "tool") → m.1.role = "tool" → Blank m.1.toolCallId →
    a.2.ids.Nodup → m.2.toolCallId∈a.2.ids → ∀ t∈between, t.2.toolCallId≠m.2.toolCallId
  interrupted : ∀ before u between m after, repairs messages = before++u::between++m::after →
    u.1.role≠"assistant" → u.1.role≠"tool" → (∀ t∈between, t.1.role = "tool") → m.1.role = "tool" → m.2 = m.1
  leading : ∀ between m after, repairs messages = between++m::after →
    (∀ t∈between, t.1.role = "tool") → m.1.role = "tool" → m.2 = m.1
  kept : ∀ p∈repairs messages, p.1.Consistent → p.2 = p.1
  idempotent : repairToolCallIDs false (repairToolCallIDs false messages).1 = ((repairToolCallIDs false messages).1,0)

/-! ## Identifiers -/

section Calls
variable {i ti : ℕ} {calls : List ToolCall} {tc : ToolCall}

lemma isWord_fixId (i ti : ℕ) : Text.IsWord (fixId i ti) := by
  have hfirst : Text.IsWord "call_fix_" := by decide
  have hbar : Text.IsWord "_" := by decide
  have hnat := Text.printNat_noSpace
  exact ((hfirst.append (hnat i)).append hbar.2).append (hnat ti)

lemma not_blank_fixId (i ti : ℕ) : ¬Blank (fixId i ti) := by
  have hword := isWord_fixId i ti
  unfold Blank
  rw [Text.trimSpace_word hword]
  intro hempty
  exact hword.1 (by rw [hempty]; rfl)

lemma fixId_injective {t t' : ℕ} (h : fixId i t = fixId i t') : t = t' := by
  have hlist := congrArg String.toList h
  unfold fixId at hlist
  rw [@String.toList_append _ (Text.printNat t),@String.toList_append _ (Text.printNat t')] at hlist
  have hdigits := List.append_cancel_left hlist
  exact Text.printNat_injective (String.toList_injective hdigits)

lemma repairCall_spec (i ti : ℕ) (tc : ToolCall) : ¬Blank (repairCall i ti tc).id ∧ (repairCall i ti tc).type≠"" := by
  unfold repairCall
  dsimp only
  constructor
  · split_ifs with h
    · exact not_blank_fixId i ti
    · exact h
  · split_ifs with h
    · decide
    · exact h

lemma repairCall_of (h : ¬Blank tc.id ∧ tc.type≠"") : repairCall i ti tc = tc := by
  unfold repairCall
  rw [if_neg h.1,if_neg h.2]

lemma repairCalls_spec : ∀ c∈repairCalls i calls, ¬Blank c.id ∧ c.type≠"" := by
  intro c hc
  obtain ⟨p,_,rfl⟩ := List.mem_map.mp hc
  exact repairCall_spec i p.2 p.1

lemma repairCalls_of (h : ∀ c∈calls, ¬Blank c.id ∧ c.type≠"") :
    repairCalls i calls = calls ∧ (calls.map ToolCall.missing).sum = 0 := by
  constructor
  · have hmap : repairCalls i calls = calls.zipIdx.map Prod.fst := by
      apply List.map_congr_left
      intro p hp
      exact repairCall_of (h p.1 (List.fst_mem_of_mem_zipIdx hp))
    rw [hmap,List.zipIdx_map_fst]
  · rw [List.sum_eq_zero_iff]
    intro n hn
    obtain ⟨c,hc,rfl⟩ := List.mem_map.mp hn
    unfold ToolCall.missing
    rw [if_neg (h c hc).1,if_neg (h c hc).2,Nat.add_zero]

end Calls

/-! ## One message -/

section Step
variable {i : ℕ} {last : List (String × Bool)} {m : Message} {ids claims : List String}

lemma repairMessage_role : (repairMessage i last m).1.role = m.role := by
  unfold repairMessage
  split_ifs
  · split <;> rfl
  · split <;> rfl
  · rfl
  · rfl

lemma repairMessage_identified (h : m.role = "assistant") :
    ∀ c∈(repairMessage i last m).1.toolCalls.calls, ¬Blank c.id ∧ c.type≠"" := by
  unfold repairMessage
  rw [if_pos h]
  cases hcalls : m.toolCalls with
  | absent =>
    dsimp only
    rw [hcalls]
    simp [RawCalls.calls]
  | other raw =>
    dsimp only
    rw [hcalls]
    simp [RawCalls.calls]
  | array calls => exact repairCalls_spec

/-- After a message of the assistant, its calls can be claimed. -/
lemma repairMessage_assistant (h : m.role = "assistant") :
    (repairMessage i last m).2.1 = fresh (repairMessage i last m).1.ids := by
  unfold repairMessage
  rw [if_pos h]
  cases hcalls : m.toolCalls with
  | absent => simp [Message.ids,hcalls,RawCalls.calls,fresh]
  | other raw => simp [Message.ids,hcalls,RawCalls.calls,fresh]
  | array calls => rfl

lemma repairMessage_other (h : m.role≠"assistant") (h' : m.role≠"tool") : repairMessage i last m = (m,[],0) := by
  unfold repairMessage
  rw [if_neg h,if_neg h']

lemma tool_ne_assistant (h : m.role = "tool") : m.role≠"assistant" := by
  rw [h]
  decide

lemma repairMessage_named (h : m.role = "tool") (hid : ¬Blank m.toolCallId) :
    repairMessage i last m = (m,claimNamed m.toolCallId last,0) := by
  unfold repairMessage
  rw [if_neg (tool_ne_assistant h),if_pos h,if_pos hid]

/-- A tool message without an identifier takes one that is left, if there is one. -/
lemma repairMessage_blank (h : m.role = "tool") (hid : Blank m.toolCallId) (hlast : After ids claims last) :
    (repairMessage i last m = (m,last,0) ∧ ∀ id, ids.count id ≤ claims.count id) ∨
      ∃ id last', repairMessage i last m = ({ m with toolCallId := id },last',1) ∧ claims.count id < ids.count id ∧
        After ids (claims++[id]) last' := by
  unfold repairMessage
  rw [if_neg (tool_ne_assistant h),if_pos h,if_neg (not_not.mpr hid)]
  cases hfirst : claimFirst last with
  | none => exact .inl ⟨rfl,hlast.none hfirst⟩
  | some r =>
    obtain ⟨hcount,hafter⟩ := hlast.first (show claimFirst last = some (r.1,r.2) from hfirst)
    exact .inr ⟨r.1,r.2,rfl,hcount,hafter⟩

/-- A tool message claims what it carries afterwards. -/
lemma repairMessage_tool (h : m.role = "tool") (hids : ∀ id∈ids, ¬Blank id) (hlast : After ids claims last) :
    After ids (claims++[(repairMessage i last m).1.toolCallId]) (repairMessage i last m).2.1 := by
  by_cases hid : Blank m.toolCallId
  · rcases repairMessage_blank (i := i) h hid hlast with ⟨heq,_⟩ | ⟨id,last',heq,_,hafter⟩
    · rw [heq]
      exact hlast.other (fun hmem => hids _ hmem hid)
    · rw [heq]
      exact hafter
  · rw [repairMessage_named h hid]
    exact hlast.named _

lemma repairMessage_kept (h : m.Consistent) : (repairMessage i last m).1 = m := by
  by_cases hassistant : m.role = "assistant"
  · unfold repairMessage
    rw [if_pos hassistant]
    cases hcalls : m.toolCalls with
    | absent => rfl
    | other raw => rfl
    | array calls =>
      have hspec := h.1 hassistant
      rw [hcalls] at hspec
      have hsame : repairCalls i calls = calls := (repairCalls_of hspec).1
      dsimp only
      rw [hsame,←hcalls]
  · by_cases htool : m.role = "tool"
    · rw [repairMessage_named htool (h.2 htool)]
    · rw [repairMessage_other hassistant htool]

end Step

/-! ## A history -/

def repairsFrom (i : ℕ) (last : List (String × Bool)) : List Message → List (Message × Message)
  | [] => []
  | m::messages => (m,(repairMessage i last m).1)::repairsFrom (i+1) (repairMessage i last m).2.1 messages

section History
variable {i : ℕ} {last : List (String × Bool)} {messages : List Message} {ids claims : List String}
  {before between after : List (Message × Message)} {p a u m : Message × Message}

lemma repairFrom_cons (m : Message) : repairFrom i last (m::messages) =
    ((repairMessage i last m).1::(repairFrom (i+1) (repairMessage i last m).2.1 messages).1,
      (repairMessage i last m).2.2+(repairFrom (i+1) (repairMessage i last m).2.1 messages).2) := rfl

lemma zip_repairFrom : messages.zip (repairFrom i last messages).1 = repairsFrom i last messages := by
  induction messages generalizing i last with
  | nil => rfl
  | cons m messages ih =>
    rw [repairFrom_cons,List.zip_cons_cons,ih]
    rfl

lemma repairs_eq (messages : List Message) : repairs messages = repairsFrom 0 [] messages := zip_repairFrom

/-- What became of a message, and the history after it. -/
lemma repairsFrom_split (h : repairsFrom i last messages = before++p::after) :
    ∃ last' messages', p.2 = (repairMessage (i+before.length) last' p.1).1 ∧
      after = repairsFrom (i+before.length+1) (repairMessage (i+before.length) last' p.1).2.1 messages' := by
  induction before generalizing i last messages with
  | nil =>
    cases messages with
    | nil => exact absurd h.symm (List.cons_ne_nil _ _)
    | cons m messages =>
      obtain ⟨rfl,rfl⟩ := List.cons.inj h
      exact ⟨last,messages,rfl,rfl⟩
  | cons q before ih =>
    cases messages with
    | nil => exact absurd h.symm (List.cons_ne_nil _ _)
    | cons m messages =>
      obtain ⟨_,hrest⟩ := List.cons.inj h
      obtain ⟨last',messages',hp,hafter⟩ := ih hrest
      have hlength : i+(q::before).length = i+1+before.length := by
        rw [List.length_cons]
        omega
      rw [hlength]
      exact ⟨last',messages',hp,hafter⟩

/-- A tool message finds what the tool messages before it have left of the calls. -/
lemma repairsFrom_tools (hids : ∀ id∈ids, ¬Blank id) (hlast : After ids claims last)
    (htools : ∀ t∈between, t.1.role = "tool") (h : repairsFrom i last messages = between++m::after) :
    ∃ j last', m.2 = (repairMessage j last' m.1).1 ∧
      After ids (claims++between.map (fun t => t.2.toolCallId)) last' := by
  induction between generalizing i last messages claims with
  | nil =>
    cases messages with
    | nil => exact absurd h.symm (List.cons_ne_nil _ _)
    | cons m' messages =>
      obtain ⟨rfl,_⟩ := List.cons.inj h
      exact ⟨i,last,rfl,by rwa [List.map_nil,List.append_nil]⟩
  | cons t between ih =>
    cases messages with
    | nil => exact absurd h.symm (List.cons_ne_nil _ _)
    | cons m' messages =>
      obtain ⟨rfl,hrest⟩ := List.cons.inj h
      obtain ⟨htool,htools⟩ := List.forall_mem_cons.mp htools
      obtain ⟨j,last',hm,hafter⟩ := ih (repairMessage_tool htool hids hlast) htools hrest
      refine ⟨j,last',hm,?_⟩
      rw [List.map_cons]
      rwa [List.append_assoc,List.singleton_append] at hafter

lemma repairs_identified (h : repairsFrom i last messages = before++a::after) (hrole : a.1.role = "assistant") :
    ∀ c∈a.2.toolCalls.calls, ¬Blank c.id ∧ c.type≠"" := by
  obtain ⟨last',_,ha,_⟩ := repairsFrom_split h
  rw [ha]
  exact repairMessage_identified hrole

lemma ids_not_blank (h : ∀ c∈a.2.toolCalls.calls, ¬Blank c.id ∧ c.type≠"") : ∀ id∈a.2.ids, ¬Blank id := by
  intro id hid
  obtain ⟨c,hc,rfl⟩ := List.mem_map.mp hid
  exact (h c hc).1

/-- A tool message in the segment of an assistant's message. -/
lemma segment_tool (h : repairsFrom i last messages = before++a::between++m::after) (hrole : a.1.role = "assistant")
    (htools : ∀ t∈between, t.1.role = "tool") :
    ∃ j last', m.2 = (repairMessage j last' m.1).1 ∧
      After a.2.ids (between.map (fun t => t.2.toolCallId)) last' := by
  rw [List.append_assoc,List.cons_append] at h
  have hids := ids_not_blank (repairs_identified h hrole)
  obtain ⟨last',messages',ha,hafter⟩ := repairsFrom_split h
  have hfresh : (repairMessage (i+before.length) last' a.1).2.1 = fresh a.2.ids := by
    rw [ha]
    exact repairMessage_assistant hrole
  rw [hfresh] at hafter
  exact repairsFrom_tools hids (after_fresh _) htools hafter.symm

/-- A tool message that no message of the assistant precedes in its segment. -/
lemma stray_tool (htools : ∀ t∈between, t.1.role = "tool") (hm : m.1.role = "tool")
    (h : repairsFrom i [] messages = between++m::after) : m.2 = m.1 := by
  have hnone : ∀ id∈([] : List String), ¬Blank id := fun id hid => absurd hid List.not_mem_nil
  obtain ⟨j,last',hm2,hafter⟩ := repairsFrom_tools hnone (after_fresh []) htools h
  by_cases hid : Blank m.1.toolCallId
  · rcases repairMessage_blank (i := j) hm hid hafter with ⟨heq,_⟩ | ⟨_,_,_,hcount,_⟩
    · rw [hm2,heq]
    · exact absurd hcount (Nat.not_lt_zero _)
  · rw [hm2,repairMessage_named hm hid]

/-- A repaired message stays as it is, whoever of the calls before it have been claimed. -/
lemma repairMessage_again {last' : List (String × Bool)} (m : Message) (hids : ∀ id∈ids, ¬Blank id)
    (hlast : After ids claims last) (hlast' : After ids claims last') :
    ∃ next ids' claims', repairMessage i last' (repairMessage i last m).1 = ((repairMessage i last m).1,next,0) ∧
      (∀ id∈ids', ¬Blank id) ∧ After ids' claims' (repairMessage i last m).2.1 ∧ After ids' claims' next := by
  by_cases hassistant : m.role = "assistant"
  · have hspec := @repairMessage_identified i last m hassistant
    have hnext := @repairMessage_assistant i last m hassistant
    have hrole : (repairMessage i last m).1.role = "assistant" := by rw [repairMessage_role,hassistant]
    rw [hnext]
    generalize (repairMessage i last m).1 = m' at hspec hrole
    have hafter := after_fresh m'.ids
    refine ⟨_,m'.ids,[],?_,ids_not_blank (a := (m',m')) hspec,hafter,hafter⟩
    unfold repairMessage
    rw [if_pos hrole]
    cases hcalls : m'.toolCalls with
    | absent => simp [Message.ids,hcalls,RawCalls.calls,fresh]
    | other raw => simp [Message.ids,hcalls,RawCalls.calls,fresh]
    | array calls =>
      rw [hcalls] at hspec
      have hsame : repairCalls i calls = calls := (repairCalls_of hspec).1
      have hsum : (calls.map ToolCall.missing).sum = 0 := (@repairCalls_of i calls hspec).2
      have hm : ({ m' with toolCalls := .array calls } : Message) = m' := by rw [←hcalls]
      dsimp only
      rw [hsame,hsum,hm,Message.ids,hcalls]
      rfl
  · by_cases htool : m.role = "tool"
    · by_cases hid : Blank m.toolCallId
      · rcases repairMessage_blank (i := i) htool hid hlast with ⟨heq,hnone⟩ | ⟨id,rest,heq,hcount,hafter⟩
        · rw [heq]
          rcases repairMessage_blank (i := i) htool hid hlast' with ⟨heq',_⟩ | ⟨id',_,_,hcount',_⟩
          · exact ⟨last',ids,claims,heq',hids,hlast,hlast'⟩
          · exact absurd hcount' (not_lt.mpr (hnone id'))
        · rw [heq]
          have hmem : id∈ids := List.count_pos_iff.mp (by omega)
          have hnamed := @repairMessage_named i last' { m with toolCallId := id } htool (hids id hmem)
          exact ⟨_,ids,claims++[id],hnamed,hids,hafter,hlast'.named id⟩
      · rw [repairMessage_named htool hid]
        exact ⟨_,ids,_,repairMessage_named htool hid,hids,hlast.named _,hlast'.named _⟩
    · rw [repairMessage_other hassistant htool]
      exact ⟨[],[],[],repairMessage_other hassistant htool,by simp,after_fresh [],after_fresh []⟩

/-- What is repaired stays as it is. -/
lemma repairFrom_repaired {last' : List (String × Bool)} (hids : ∀ id∈ids, ¬Blank id) (hlast : After ids claims last)
    (hlast' : After ids claims last') :
    repairFrom i last' (repairFrom i last messages).1 = ((repairFrom i last messages).1,0) := by
  induction messages generalizing i last last' ids claims with
  | nil => rfl
  | cons m messages ih =>
    obtain ⟨next,ids',claims',heq,hids',hafter,hafter'⟩ :=
      @repairMessage_again i last ids claims last' m hids hlast hlast'
    rw [repairFrom_cons]
    dsimp only
    rw [repairFrom_cons,heq]
    dsimp only
    rw [ih hids' hafter hafter']
    rfl

end History

/-! ## The whole repair -/

section Whole
variable {messages : List Message}

lemma repairCall_blank {i ti : ℕ} {tc : ToolCall} (h : Blank tc.id) : (repairCall i ti tc).id = fixId i ti := by
  simp only [repairCall,if_pos h]

lemma repairCall_named {i ti : ℕ} {tc : ToolCall} (h : ¬Blank tc.id) : (repairCall i ti tc).id = tc.id := by
  simp only [repairCall,if_neg h]

/-- Identifiers that are given fall together with no other. -/
lemma repairCalls_nodup {i : ℕ} {calls : List ToolCall}
    (hpresent : ((calls.map ToolCall.id).filter (fun id => ¬Blank id)).Nodup)
    (hfree : ∀ q∈calls.zipIdx, Blank q.1.id → fixId i q.2∉calls.map ToolCall.id) :
    ((repairCalls i calls).map ToolCall.id).Nodup := by
  have hpairs : ∀ (n : ℕ) (calls : List ToolCall),
      ((calls.map ToolCall.id).filter (fun id => ¬Blank id)).Nodup →
      (∀ q∈calls.zipIdx n, Blank q.1.id → fixId i q.2∉calls.map ToolCall.id) →
      ((calls.zipIdx n).map (fun p => (repairCall i p.2 p.1).id)).Nodup := by
    intro n calls hpresent hfree
    induction calls generalizing n with
    | nil => exact List.nodup_nil
    | cons c calls ih =>
      rw [List.zipIdx_cons,List.map_cons,List.nodup_cons]
      rw [List.zipIdx_cons,List.forall_mem_cons] at hfree
      have hrest : ((calls.map ToolCall.id).filter (fun id => ¬Blank id)).Nodup := by
        rw [List.map_cons] at hpresent
        exact List.Nodup.sublist ((List.sublist_cons_self _ _).filter _) hpresent
      refine ⟨?_,ih (n+1) hrest (fun q hq hblank hmem => hfree.2 q hq hblank (List.mem_cons_of_mem _ hmem))⟩
      intro hmem
      obtain ⟨q,hq,hid⟩ := List.mem_map.mp hmem
      have hplace := (List.mem_zipIdx hq).1
      by_cases hc : Blank c.id
      · have hleft : (repairCall i n c).id = fixId i n := repairCall_blank hc
        by_cases hqb : Blank q.1.id
        · have hright : (repairCall i q.2 q.1).id = fixId i q.2 := repairCall_blank hqb
          rw [hleft,hright] at hid
          have := fixId_injective hid
          omega
        · have hright : (repairCall i q.2 q.1).id = q.1.id := repairCall_named hqb
          rw [hleft,hright] at hid
          apply hfree.1 hc
          rw [←hid]
          exact List.mem_cons_of_mem _ (List.mem_map_of_mem (List.fst_mem_of_mem_zipIdx hq))
      · have hleft : (repairCall i n c).id = c.id := repairCall_named hc
        by_cases hqb : Blank q.1.id
        · have hright : (repairCall i q.2 q.1).id = fixId i q.2 := repairCall_blank hqb
          rw [hleft,hright] at hid
          apply hfree.2 q hq hqb
          rw [hid]
          exact List.mem_cons_self
        · have hright : (repairCall i q.2 q.1).id = q.1.id := repairCall_named hqb
          rw [hleft,hright] at hid
          rw [List.map_cons,List.filter_cons_of_pos (by simpa using hc),List.nodup_cons] at hpresent
          apply hpresent.1
          rw [←hid]
          exact List.mem_filter.mpr ⟨List.mem_map_of_mem (List.fst_mem_of_mem_zipIdx hq),by simpa using hqb⟩
  unfold repairCalls
  rw [List.map_map]
  exact hpairs 0 calls hpresent hfree

end Whole

end ToolCallIds
end Compat
end Tierflow
