import Tierflow.Convert.Stream

/-! Which OpenAI streams become Claude streams. The converter gives a well-formed stream exactly for the chunk
sequences that name their tool calls in order and reach a chunk that closes the message. -/
namespace Tierflow
namespace Convert
open Blocks (Event)

/-! ## Claude streams -/

/-- A message start, blocks, a message delta with its stop reason, and the message stop. -/
def ClaudeStream (es : List ClaudeEvent) : Prop :=
  ∃ id model tokens body reason usage, es = .messageStart id model tokens::List.map .block body++
    [.messageDelta reason usage,.messageStop] ∧ reason≠"" ∧ Blocks.WellFormed ContentBlock.fits body

/-- How far a stream has been read. -/
inductive Phase
  | fresh
  | body (b : Blocks.State ContentBlock)
  | delta (b : Blocks.State ContentBlock)
  | closed (b : Blocks.State ContentBlock)
  | broken

namespace Phase

def step : Phase → ClaudeEvent → Phase
  | fresh,.messageStart _ _ _ => body .init
  | body b,.block e => ((Blocks.step ContentBlock.fits b e).map body).getD broken
  | body b,.messageDelta reason _ => if reason≠"" then delta b else broken
  | delta b,.messageStop => closed b
  | _,_ => broken

def read (p : Phase) (es : List ClaudeEvent) : Phase := es.foldl step p

@[simp] lemma read_nil (p : Phase) : p.read [] = p := rfl
@[simp] lemma read_cons (p : Phase) (e : ClaudeEvent) (es : List ClaudeEvent) :
    p.read (e::es) = (p.step e).read es := rfl
@[simp] lemma read_append (p : Phase) (es fs : List ClaudeEvent) : p.read (es++fs) = (p.read es).read fs :=
  List.foldl_append

@[simp] lemma read_broken (es : List ClaudeEvent) : broken.read es = broken := by
  induction es with
  | nil => rfl
  | cons e es ih => exact ih

lemma read_blocks (b : Blocks.State ContentBlock) (l : List (Event ContentBlock ContentDelta)) :
    (body b).read (List.map .block l) = ((Blocks.run ContentBlock.fits b l).map body).getD broken := by
  induction l generalizing b with
  | nil => rfl
  | cons e l ih =>
    rw [List.map_cons,read_cons,Blocks.run_cons,step]
    cases Blocks.step ContentBlock.fits b e with
    | none => exact read_broken _
    | some t => exact ih t

lemma read_closed_eq_closed_iff {b t : Blocks.State ContentBlock} {es : List ClaudeEvent} :
    (closed b).read es = closed t ↔ es = [] ∧ b = t := by
  cases es with
  | nil => simp
  | cons e es => cases e <;> simp [step]

lemma read_delta_eq_closed_iff {b t : Blocks.State ContentBlock} {es : List ClaudeEvent} :
    (delta b).read es = closed t ↔ es = [.messageStop] ∧ b = t := by
  cases es with
  | nil => simp
  | cons e es =>
    cases e with
    | messageStop => simp [step,read_closed_eq_closed_iff]
    | messageStart | block | messageDelta => simp [step]

lemma read_body_eq_closed_iff {b t : Blocks.State ContentBlock} {es : List ClaudeEvent} :
    (body b).read es = closed t ↔ ∃ l reason usage,
      es = List.map .block l++[.messageDelta reason usage,.messageStop] ∧ reason≠"" ∧
        Blocks.run ContentBlock.fits b l = some t := by
  constructor
  · intro h
    induction es generalizing b with
    | nil => simp at h
    | cons e es ih =>
      rw [read_cons] at h
      cases e with
      | block e =>
        rw [step] at h
        cases hs : Blocks.step ContentBlock.fits b e with
        | none => simp [hs] at h
        | some c =>
          rw [hs] at h
          obtain ⟨l,reason,usage,rfl,hr,hl⟩ := ih h
          exact ⟨e::l,reason,usage,rfl,hr,by rw [Blocks.run_cons,hs]; exact hl⟩
      | messageDelta reason usage =>
        rw [step] at h
        split_ifs at h with hr
        · obtain ⟨rfl,rfl⟩ := read_delta_eq_closed_iff.mp h
          exact ⟨[],reason,usage,rfl,hr,rfl⟩
        · simp at h
      | messageStart | messageStop => simp [step] at h
  · rintro ⟨l,reason,usage,rfl,hr,hl⟩
    rw [read_append,read_blocks,hl]
    simp [step,hr]

end Phase

/-- A Claude stream is read to its end, where all blocks are closed. -/
theorem claudeStream_iff {es : List ClaudeEvent} :
    ClaudeStream es ↔ ∃ n, Phase.fresh.read es = .closed ⟨n,fun _ => none⟩ := by
  have hw : ∀ l : List (Event ContentBlock ContentDelta), Blocks.WellFormed ContentBlock.fits l ↔
      ∃ n, Blocks.run ContentBlock.fits .init l = some ⟨n,fun _ => none⟩ := fun l => Blocks.accepts_iff.symm
  constructor
  · rintro ⟨id,model,tokens,body,reason,usage,rfl,hr,hbody⟩
    obtain ⟨n,hn⟩ := (hw body).mp hbody
    exact ⟨n,Phase.read_body_eq_closed_iff.mpr ⟨body,reason,usage,rfl,hr,hn⟩⟩
  · rintro ⟨n,h⟩
    cases es with
    | nil => simp at h
    | cons e es =>
      cases e with
      | messageStart id model tokens =>
        obtain ⟨l,reason,usage,rfl,hr,hl⟩ := Phase.read_body_eq_closed_iff.mp h
        exact ⟨id,model,tokens,l,reason,usage,rfl,hr,(hw l).mpr ⟨n,hl⟩⟩
      | block | messageDelta | messageStop => simp [Phase.step] at h

/-! ## Fitting chunks -/

/-- What is open: nothing, a text, a thought, or tools, of which so many were named, and up to which offset
they were spoken of. -/
inductive Mode
  | idle
  | text
  | thinking
  | tools (named : ℕ) (reach : ℤ)
  deriving DecidableEq, Repr

/-- Calls are named in the order of their offsets, and arguments belong to named calls. -/
def nameTool (named : ℕ) (offset : ℤ) (t : ToolCall) : Option ℕ :=
  let named' := if t.name≠"" then named+1 else named
  if (t.name≠"" → offset = named) ∧ (t.arguments≠"" → 0≤offset ∧ offset<named') then some named' else none

def nameTools (named : ℕ) : ℕ → List ToolCall → Option ℕ
  | _,[] => some named
  | i,t::ts => (nameTool named (toolOffset i t) t).bind (fun n => nameTools n (i+1) ts)

namespace Mode

/-- No call was spoken of that was not named. -/
def closable : Mode → Bool
  | tools named reach => reach+1 = named
  | _ => true

def takeTools (m : Mode) (ts : List ToolCall) : Option Mode :=
  match m with
  | tools named reach => (nameTools named 0 ts).map (fun n => tools n (maxOffset reach 0 ts))
  | _ => (nameTools 0 0 ts).map (fun n => tools n (maxOffset 0 0 ts))

/-- To go over to a block of another type what is open has to be closable. -/
def switch (m m' : Mode) : Option Mode := if m = m' ∨ m.closable then some m' else none

def take (m : Mode) (d : Delta) : Option Mode :=
  if d.toolCalls≠[] then m.takeTools d.toolCalls
  else if d.getReasoningContent≠"" then m.switch thinking
  else if d.getContentString≠"" then m.switch text
  else some m

/-- What is open after the first chunk. -/
def first (d : Delta) : Mode :=
  if d.getReasoningContent≠"" then thinking
  else if d.getContentString≠"" then text
  else if d.toolCalls≠[] then tools 1 0
  else idle

end Mode

inductive Verdict
  | goes (m : Mode)
  | closes
  | breaks
  deriving DecidableEq, Repr

def Mode.close (m : Mode) : Verdict := if m.closable then .closes else .breaks

def firstVerdict (r : StreamResponse) : Verdict :=
  match r.choices with
  | [] => .goes .idle
  | choice::_ =>
    if choice.finished then if r.usage.isSome then .closes else .breaks
    else .goes (.first choice.delta)

/-- `known` says that this chunk or an earlier one, or the end of the stream, brought a usage. -/
def laterVerdict (m : Mode) (known : Bool) (r : StreamResponse) : Verdict :=
  match r.choices with
  | [] => if known then m.close else .goes m
  | choice::_ =>
    if choice.finished then
      if r.usage = none then .goes m else ((m.take choice.delta).map Mode.close).getD .breaks
    else ((m.take choice.delta).map .goes).getD .breaks

def laterFits (m : Mode) (known : Bool) : List StreamResponse → Bool
  | [] => false
  | r::rs =>
    let known := known || r.usage.isSome
    match laterVerdict m (known || rs.isEmpty) r with
    | .goes m => laterFits m known rs
    | .closes => true
    | .breaks => false

/-- The last chunk is converted as if it came in the place of the one before it: a stream of one chunk has no
start, and one of two has two unless the first closes the message. -/
def streamFits : List StreamResponse → Bool
  | r::s::rs =>
    match firstVerdict r with
    | .goes m => !rs.isEmpty && laterFits m r.usage.isSome (s::rs)
    | .closes => true
    | .breaks => false
  | _ => false

/-! ## The converter and the open blocks -/

/-- Tools are open, numbered from `lo` up to `hi`, which is the next number, and nothing else is. -/
structure ToolsOpen (lo hi : ℤ) (b : Blocks.State ContentBlock) : Prop where
  le : lo≤hi
  next : b.next = hi
  tool : ∀ j, lo≤j → j<hi → ∃ id name, b.opened j = some (.toolUse id name)
  other : ∀ j, ¬(lo≤j ∧ j<hi) → b.opened j = none

/-- All blocks before a number are closed. -/
def closedBefore (n : ℤ) : Blocks.State ContentBlock := ⟨n,fun _ => none⟩

/-- The open blocks are what the converter takes them for. -/
def Mode.Opened (m : Mode) (c : ConvertInfo) (b : Blocks.State ContentBlock) : Prop :=
  match m with
  | idle => c.lastMessagesType = .none ∧ b = closedBefore c.index
  | text => c.lastMessagesType = .text ∧ b = (closedBefore c.index).begin .text
  | thinking => c.lastMessagesType = .thinking ∧ b = (closedBefore c.index).begin .thinking
  | tools named reach => c.lastMessagesType = .tools ∧ c.toolCallMaxIndexOffset = reach ∧ 0 ≤ reach ∧
      named ≤ reach+1 ∧ ToolsOpen c.toolCallBaseIndex (c.toolCallBaseIndex+named) b

namespace Phase
variable {b : Blocks.State ContentBlock} {i : ℤ} {x : ContentBlock} {d : ContentDelta}

lemma step_startBlock (h : i = b.next) : (body b).step (startBlock i x) = body (b.begin x) := by
  rw [startBlock,step,Blocks.step,if_pos h]
  rfl

lemma step_startBlock_of_ne (h : i≠b.next) : (body b).step (startBlock i x) = broken := by
  rw [startBlock,step,Blocks.step,if_neg h]
  rfl

lemma step_deltaBlock (h : b.opened i = some x) (hf : x.fits d = true) :
    (body b).step (deltaBlock i d) = body b := by
  rw [deltaBlock,step,Blocks.step,h,Option.bind_some,if_pos hf]
  rfl

lemma step_deltaBlock_of_closed (h : b.opened i = none) : (body b).step (deltaBlock i d) = broken := by
  rw [deltaBlock,step,Blocks.step,h]
  rfl

lemma step_stopBlock (h : b.opened i = some x) : (body b).step (generateStopBlock i) = body (b.close i) := by
  rw [generateStopBlock,step,Blocks.step,h]
  rfl

lemma step_stopBlock_of_closed (h : b.opened i = none) : (body b).step (generateStopBlock i) = broken := by
  rw [generateStopBlock,step,Blocks.step,h]
  rfl

end Phase

lemma opened_begin_self (b : Blocks.State ContentBlock) (x : ContentBlock) : (b.begin x).opened b.next = some x := by
  rw [Blocks.State.opened_begin,if_pos rfl]

lemma close_begin (n : ℤ) (x : ContentBlock) : ((closedBefore n).begin x).close n = closedBefore (n+1) := by
  apply Blocks.State.ext
  · rfl
  · funext j
    rw [Blocks.State.opened_close,Blocks.State.opened_begin]
    change (if j = n then none else if j = n then some x else none) = none
    split_ifs <;> rfl

lemma read_newBlock (n : ℤ) {x : ContentBlock} {d : ContentDelta} (hd : x.fits d = true) :
    (Phase.body (closedBefore n)).read [startBlock n x,deltaBlock n d] = .body ((closedBefore n).begin x) := by
  have hs : (Phase.body (closedBefore n)).step (startBlock n x) = .body ((closedBefore n).begin x) :=
    Phase.step_startBlock rfl
  rw [Phase.read_cons,hs]
  exact Phase.step_deltaBlock (opened_begin_self (closedBefore n) x) hd

namespace ToolsOpen
variable {lo hi : ℤ} {b : Blocks.State ContentBlock}

lemma empty (n : ℤ) : ToolsOpen n n (closedBefore n) :=
  ⟨le_rfl,rfl,fun _ hj hlt => absurd hlt (not_lt.mpr hj),fun _ _ => rfl⟩

lemma eq_closedBefore (h : ToolsOpen hi hi b) : b = closedBefore hi := by
  apply Blocks.State.ext
  · exact h.next
  · funext j
    exact h.other j (by omega)

lemma start (h : ToolsOpen lo hi b) (id name : String) : ToolsOpen lo (hi+1) (b.begin (.toolUse id name)) := by
  have hle := h.le
  have hn := h.next
  constructor
  · omega
  · rw [Blocks.State.next_begin,hn]
  · intro j hj hlt
    rw [Blocks.State.opened_begin]
    split_ifs
    · exact ⟨id,name,rfl⟩
    · exact h.tool j hj (by omega)
  · intro j hj
    rw [Blocks.State.opened_begin,if_neg (by omega),h.other j (by omega)]

lemma stop (h : ToolsOpen lo hi b) (hlt : lo<hi) : ToolsOpen (lo+1) hi (b.close lo) := by
  constructor
  · omega
  · exact h.next
  · intro j hj hjt
    rw [Blocks.State.opened_close,if_neg (by omega)]
    exact h.tool j (by omega) hjt
  · intro j hj
    rw [Blocks.State.opened_close]
    split_ifs
    · rfl
    · exact h.other j (by omega)

/-- As many ends as there are open tools can be read, and no more. -/
lemma read_stops (h : ToolsOpen lo hi b) (k : ℕ) :
    if lo+k≤hi then ∃ b', (Phase.body b).read ((List.range k).map (fun o : ℕ => generateStopBlock (lo+(o : ℤ)))) =
      .body b' ∧ ToolsOpen (lo+k) hi b'
    else (Phase.body b).read ((List.range k).map (fun o : ℕ => generateStopBlock (lo+(o : ℤ)))) = .broken := by
  induction k with
  | zero =>
    rw [if_pos (by simpa using h.le)]
    exact ⟨b,rfl,by simpa using h⟩
  | succ k ih =>
    simp only [List.range_succ,List.map_append,List.map_cons,List.map_nil,Phase.read_append,Phase.read_cons,
      Phase.read_nil]
    by_cases hk : lo+k≤hi
    · rw [if_pos hk] at ih
      obtain ⟨b',hb',ho⟩ := ih
      rw [hb']
      by_cases hlt : lo+k<hi
      · rw [if_pos (by push_cast; omega)]
        obtain ⟨id,name,ht⟩ := ho.tool (lo+k) le_rfl hlt
        refine ⟨_,Phase.step_stopBlock ht,?_⟩
        have := ho.stop hlt
        rwa [add_assoc] at this
      · rw [if_neg (by push_cast; omega)]
        exact Phase.step_stopBlock_of_closed (ho.other _ (by omega))
    · rw [if_neg hk] at ih
      rw [ih,if_neg (by push_cast; omega)]
      rfl

end ToolsOpen

namespace Mode
variable {m : Mode} {c : ConvertInfo} {b : Blocks.State ContentBlock}

/-- What is open can be closed when it is closable, and breaks the stream otherwise. -/
lemma Opened.read_stopOpenBlocks (h : m.Opened c b) : (Phase.body b).read c.stopOpenBlocks =
    if m.closable then .body (closedBefore c.advance.index) else .broken := by
  unfold ConvertInfo.stopOpenBlocks ConvertInfo.advance
  cases m with
  | idle =>
    obtain ⟨ht,rfl⟩ := h
    rw [ht]
    rfl
  | text =>
    obtain ⟨ht,rfl⟩ := h
    rw [ht]
    exact (Phase.step_stopBlock (opened_begin_self _ _)).trans (congrArg _ (close_begin _ _))
  | thinking =>
    obtain ⟨ht,rfl⟩ := h
    rw [ht]
    exact (Phase.step_stopBlock (opened_begin_self _ _)).trans (congrArg _ (close_begin _ _))
  | tools named reach =>
    obtain ⟨ht,rfl,h0,hn,ho⟩ := h
    rw [ht]
    simp only [closable,decide_eq_true_eq]
    have hk : ((c.toolCallMaxIndexOffset+1).toNat : ℤ) = c.toolCallMaxIndexOffset+1 := Int.toNat_of_nonneg (by omega)
    have hread := ho.read_stops (c.toolCallMaxIndexOffset+1).toNat
    rw [hk] at hread
    by_cases heq : c.toolCallMaxIndexOffset+1 = named
    · rw [if_pos (by omega)] at hread
      obtain ⟨b',hb',hto⟩ := hread
      rw [if_pos heq,hb']
      congr 1
      rw [heq] at hto
      rw [hto.eq_closedBefore]
      congr 1
      omega
    · rw [if_neg (by omega)] at hread
      rw [if_neg heq,hread]

lemma opened_advance (c : ConvertInfo) : Mode.idle.Opened c.advance (closedBefore c.advance.index) := by
  refine ⟨?_,rfl⟩
  unfold ConvertInfo.advance
  cases h : c.lastMessagesType <;> simp [h]

end Mode

/-! ## Tool calls -/

lemma nameTool_le {named n : ℕ} {m offset : ℤ} {t : ToolCall} (h : nameTool named offset t = some n)
    (hm : (named : ℤ) ≤ m+1) : (n : ℤ) ≤ max m offset+1 := by
  obtain ⟨hs,hn⟩ := Option.ite_none_right_eq_some.mp h
  obtain rfl := Option.some.inj hn
  by_cases ht : t.name = ""
  · simp only [ht,ne_eq,not_true_eq_false,if_false]
    omega
  · have := hs.1 ht
    simp only [ht,ne_eq,not_false_eq_true,if_true]
    push_cast
    omega

lemma nameTools_le {named n i : ℕ} {m : ℤ} {ts : List ToolCall} (h : nameTools named i ts = some n)
    (hm : (named : ℤ) ≤ m+1) : (n : ℤ) ≤ maxOffset m i ts+1 := by
  induction ts generalizing named m i with
  | nil =>
    obtain rfl := Option.some.inj h
    exact hm
  | cons t ts ih =>
    obtain ⟨k,hk,hn⟩ := Option.bind_eq_some_iff.mp h
    exact ih hn (nameTool_le hk hm)

/-- A call that is named in its turn, and has arguments only when it is named, extends the open tools; any
other breaks the stream. -/
lemma ToolsOpen.read_toolEvent {lo : ℤ} {named : ℕ} {b : Blocks.State ContentBlock}
    (h : ToolsOpen lo (lo+named) b) (offset : ℤ) (t : ToolCall) :
    match nameTool named offset t with
    | some n => ∃ b', (Phase.body b).read (toolEvent (lo+offset) t) = .body b' ∧ ToolsOpen lo (lo+n) b'
    | none => (Phase.body b).read (toolEvent (lo+offset) t) = .broken := by
  have hargs : ∀ (k : ℕ) (b' : Blocks.State ContentBlock), ToolsOpen lo (lo+k) b' →
      (Phase.body b').read (if t.arguments≠"" then [deltaBlock (lo+offset) (.inputJson t.arguments)] else []) =
        if t.arguments≠"" → 0≤offset ∧ offset<k then .body b' else .broken := by
    intro k b' ho
    by_cases ha : t.arguments = ""
    · simp [ha]
    · simp only [ha,not_false_eq_true,ne_eq,if_true,forall_const,Phase.read_cons,Phase.read_nil]
      split_ifs with hk
      · obtain ⟨id,name,hid⟩ := ho.tool (lo+offset) (by omega) (by omega)
        exact Phase.step_deltaBlock hid rfl
      · exact Phase.step_deltaBlock_of_closed (ho.other _ (by omega))
  unfold nameTool toolEvent
  rw [Phase.read_append]
  by_cases ht : t.name = ""
  · simp only [ht,ne_eq,not_true_eq_false,if_false,false_imp_iff,true_and,Phase.read_nil]
    rw [hargs named b h]
    split_ifs with hs
    · exact ⟨b,rfl,h⟩
    · rfl
  · simp only [ht,ne_eq,not_false_eq_true,if_true,forall_const,Phase.read_cons,Phase.read_nil]
    by_cases ho : offset = named
    · have hstart := h.start t.id t.name
      rw [Phase.step_startBlock (by rw [h.next,ho])]
      have hcast : lo+(named : ℤ)+1 = lo+((named+1 : ℕ) : ℤ) := by push_cast; ring
      rw [hcast] at hstart
      rw [hargs _ _ hstart]
      simp only [ho,true_and]
      split_ifs with hs
      · exact ⟨_,rfl,hstart⟩
      · rfl
    · simp only [ho,false_and,if_false]
      rw [Phase.step_startBlock_of_ne (by rw [h.next]; omega)]
      exact Phase.read_broken _

lemma ToolsOpen.read_toolEvents {lo : ℤ} {named : ℕ} {b : Blocks.State ContentBlock}
    (h : ToolsOpen lo (lo+named) b) (i : ℕ) (ts : List ToolCall) :
    match nameTools named i ts with
    | some n => ∃ b', (Phase.body b).read (toolEvents lo i ts) = .body b' ∧ ToolsOpen lo (lo+n) b'
    | none => (Phase.body b).read (toolEvents lo i ts) = .broken := by
  induction ts generalizing named i b with
  | nil => exact ⟨b,rfl,h⟩
  | cons t ts ih =>
    have hstep := h.read_toolEvent (toolOffset i t) t
    rw [nameTools,toolEvents,Phase.read_append]
    cases hn : nameTool named (toolOffset i t) t with
    | none =>
      rw [hn] at hstep
      simp only at hstep
      rw [hstep]
      exact Phase.read_broken _
    | some k =>
      rw [hn] at hstep
      obtain ⟨b',hb',ho⟩ := hstep
      rw [hb',Option.bind_some]
      exact ih ho (i+1)

/-! ## Content -/

namespace Mode
variable {m : Mode} {c : ConvertInfo} {b : Blocks.State ContentBlock}

def type : Mode → MessageType
  | idle => .none
  | text => .text
  | thinking => .thinking
  | tools _ _ => .tools

lemma Opened.type_eq (h : m.Opened c b) : c.lastMessagesType = m.type := by
  cases m <;> exact h.1

/-- The events that were written keep what is open in step with the mode, or have broken the stream. -/
def Follows (m : Option Mode) (b : Blocks.State ContentBlock) (r : ConvertInfo × List ClaudeEvent) : Prop :=
  match m with
  | some m => ∃ b', (Phase.body b).read r.2 = .body b' ∧ m.Opened r.1 b'
  | none => (Phase.body b).read r.2 = .broken

lemma Opened.follows_laterToolCalls (h : m.Opened c b) (ts : List ToolCall) :
    Follows (m.takeTools ts) b (c.laterToolCalls ts) := by
  have hgroup : ∀ {b' : Blocks.State ContentBlock} {c' : ConvertInfo} {base reach : ℤ} {named : ℕ}
      (es : List ClaudeEvent), (Phase.body b).read es = .body b' → 0 ≤ reach → (named : ℤ) ≤ reach+1 →
      ToolsOpen base (base+named) b' → c'.lastMessagesType = .tools → c'.toolCallBaseIndex = base →
      c'.toolCallMaxIndexOffset = maxOffset reach 0 ts →
      Follows ((nameTools named 0 ts).map (fun n => tools n (maxOffset reach 0 ts))) b
        (c',es++toolEvents base 0 ts) := by
    intro b' c' base reach named es hes h0 hle ho ht hbase hreach
    subst hbase
    have hread := ho.read_toolEvents 0 ts
    unfold Follows
    rw [Phase.read_append,hes]
    cases hn : nameTools named 0 ts with
    | none =>
      rw [hn] at hread
      exact hread
    | some n =>
      rw [hn] at hread
      obtain ⟨b'',hb'',ho'⟩ := hread
      exact ⟨b'',hb'',ht,hreach,h0.trans (le_maxOffset _ _ _),nameTools_le hn hle,ho'⟩
  have hnew : m.type≠.tools → Follows ((nameTools 0 0 ts).map (fun n => tools n (maxOffset 0 0 ts))) b
      (c.laterToolCalls ts) := by
    intro hm
    have hclosable : m.closable = true := by
      cases m with
      | tools => exact absurd rfl hm
      | idle | text | thinking => rfl
    have hstop := h.read_stopOpenBlocks
    rw [if_pos hclosable] at hstop
    rw [ConvertInfo.laterToolCalls_of_ne (h.type_eq ▸ hm)]
    refine hgroup _ hstop le_rfl (by simp) ?_ rfl rfl rfl
    simpa using ToolsOpen.empty c.advance.index
  cases m with
  | idle => exact hnew (by simp [type])
  | text => exact hnew (by simp [type])
  | thinking => exact hnew (by simp [type])
  | tools named reach =>
    obtain ⟨ht,rfl,h0,hle,ho⟩ := h
    rw [ConvertInfo.laterToolCalls_of_eq ht]
    exact hgroup [] rfl h0 hle ho rfl rfl rfl

/-- Text and thoughts go to the open block of their type, or to a new one. -/
lemma Opened.follows_laterBlock {m' : Mode} {x : ContentBlock} {d : ContentDelta} (h : m.Opened c b)
    (hm' : ∀ c b, m'.Opened c b ↔ c.lastMessagesType = m'.type ∧ b = (closedBefore c.index).begin x)
    (htype : m.type = m'.type ↔ m = m') (hd : x.fits d = true) :
    Follows (m.switch m') b (c.laterBlock m'.type x d) := by
  unfold switch
  by_cases heq : m = m'
  · subst m'
    obtain ⟨ht,rfl⟩ := (hm' c b).mp h
    rw [if_pos (.inl rfl),ConvertInfo.laterBlock_of_eq x d ht]
    exact ⟨_,Phase.step_deltaBlock (opened_begin_self _ _) hd,h⟩
  · have hne : c.lastMessagesType≠m'.type := h.type_eq ▸ (fun ht => heq (htype.mp ht))
    have hstop := h.read_stopOpenBlocks
    rw [ConvertInfo.laterBlock_of_ne x d hne]
    by_cases hc : m.closable = true
    · rw [if_pos hc] at hstop
      rw [if_pos (.inr hc)]
      refine ⟨(closedBefore c.advance.index).begin x,?_,(hm' _ _).mpr ⟨rfl,rfl⟩⟩
      rw [Phase.read_append,hstop]
      exact read_newBlock _ hd
    · rw [if_neg hc] at hstop
      rw [if_neg (not_or.mpr ⟨heq,hc⟩)]
      unfold Follows
      rw [Phase.read_append,hstop,Phase.read_broken]

lemma Opened.follows_laterContent (h : m.Opened c b) (d : Delta) : Follows (m.take d) b (c.laterContent d) := by
  unfold take ConvertInfo.laterContent
  split_ifs
  · exact h.follows_laterToolCalls d.toolCalls
  · exact h.follows_laterBlock (fun c b => Iff.rfl) (by cases m <;> simp [type]) rfl
  · exact h.follows_laterBlock (fun c b => Iff.rfl) (by cases m <;> simp [type]) rfl
  · exact ⟨b,rfl,h⟩

end Mode

/-! ## One chunk -/

lemma stopReason_ne_empty {s : String} (h : s≠"") : stopReasonOpenAI2Claude s≠"" := by
  unfold stopReasonOpenAI2Claude
  split
  all_goals first | exact h | decide

lemma Choice.finishReason_ne_empty {c : Choice} (h : c.finished = true) : c.finishReason.getD "" ≠ "" :=
  bne_iff_ne.mp h

/-- What a chunk did is what the verdict on it says. -/
def Verdict.Holds (v : Verdict) (p : Phase) (r : ConvertInfo × List ClaudeEvent) : Prop :=
  match v with
  | goes m => ∃ b, p.read r.2 = .body b ∧ m.Opened r.1 b ∧ r.1.done = false
  | closes => ∃ n, p.read r.2 = .closed (closedBefore n) ∧ r.1.done = true
  | breaks => p.read r.2 = .broken

namespace Mode
variable {m : Mode} {c : ConvertInfo} {b : Blocks.State ContentBlock}

lemma Opened.congr {c' : ConvertInfo} (h : m.Opened c b) (ht : c'.lastMessagesType = c.lastMessagesType)
    (hi : c'.index = c.index) (hb : c'.toolCallBaseIndex = c.toolCallBaseIndex)
    (hm : c'.toolCallMaxIndexOffset = c.toolCallMaxIndexOffset) : m.Opened c' b := by
  unfold Opened at h ⊢
  rw [ht,hi,hb,hm]
  exact h

/-- The message is closed when everything open can be, and a usage is known. -/
lemma Opened.read_closeMessage (h : m.Opened c b) {reason : String} (hr : reason≠"") (usage : Option Usage) :
    (if usage.isSome then m.close else .breaks).Holds (.body b) (c.closeMessage usage reason) := by
  unfold ConvertInfo.closeMessage close
  have hstop := h.read_stopOpenBlocks
  by_cases hc : m.closable = true
  · rw [if_pos hc] at hstop ⊢
    cases usage with
    | none =>
      unfold Verdict.Holds
      rw [Phase.read_append,Phase.read_append,hstop]
      rfl
    | some u =>
      refine ⟨c.advance.index,?_,rfl⟩
      rw [Phase.read_append,Phase.read_append,hstop]
      simp [Phase.step,hr]
  · rw [if_neg hc] at hstop ⊢
    rw [ite_self]
    unfold Verdict.Holds
    rw [Phase.read_append,Phase.read_append,hstop,Phase.read_broken,Phase.read_broken]

/-- The events before go on to the events that close the message. -/
lemma Follows.close {om : Option Mode} {r : ConvertInfo × List ClaudeEvent} (h : Follows om b r) {reason : String}
    (hr : reason≠"") {usage : Option Usage} (hu : usage.isSome) :
    ((om.map Mode.close).getD .breaks).Holds (.body b)
      ((r.1.closeMessage usage reason).1,r.2++(r.1.closeMessage usage reason).2) := by
  unfold Follows at h
  cases om with
  | none =>
    change (Phase.body b).read (r.2++_) = .broken
    rw [Phase.read_append,h,Phase.read_broken]
  | some m' =>
    obtain ⟨b',hb',ho⟩ := h
    have hclose := ho.read_closeMessage hr usage
    rw [if_pos hu] at hclose
    change m'.close.Holds _ _
    cases hm : m'.close with
    | goes m'' =>
      unfold Mode.close at hm
      split_ifs at hm
    | closes =>
      rw [hm] at hclose
      obtain ⟨n,hn,hd⟩ := hclose
      refine ⟨n,?_,hd⟩
      rw [Phase.read_append,hb',hn]
    | breaks =>
      rw [hm] at hclose
      change (Phase.body b).read (r.2++_) = .broken
      rw [Phase.read_append,hb']
      exact hclose

end Mode

section Chunk
variable {m : Mode} {c : ConvertInfo} {b : Blocks.State ContentBlock}

lemma Mode.Opened.holds_choiceResponse (h : m.Opened c b) (hd : c.done = false) (choice : Choice)
    (usage : Option Usage) :
    (if choice.finished then
        if usage = none then .goes m else ((m.take choice.delta).map Mode.close).getD .breaks
      else ((m.take choice.delta).map .goes).getD .breaks : Verdict).Holds (.body b)
      (c.choiceResponse choice usage) := by
  unfold ConvertInfo.choiceResponse
  cases hf : choice.finished with
  | true =>
    have ho : m.Opened { c with finishReason := choice.finishReason.getD "" } b := h.congr rfl rfl rfl rfl
    cases usage with
    | none => exact ⟨b,rfl,ho,hd⟩
    | some u =>
      have hfollow := ho.follows_laterContent choice.delta
      simp only [if_true,reduceCtorEq,and_false,if_false,Option.some_or]
      apply hfollow.close
      · rw [(ConvertInfo.keeps_laterContent _ choice.delta).finishReason]
        exact stopReason_ne_empty (Choice.finishReason_ne_empty hf)
      · rfl
  | false =>
    have hfollow := h.follows_laterContent choice.delta
    simp only [Bool.false_eq_true,if_false,false_and]
    unfold Mode.Follows at hfollow
    cases ht : m.take choice.delta with
    | none =>
      rw [ht] at hfollow
      exact hfollow
    | some m' =>
      rw [ht] at hfollow
      obtain ⟨b',hb',ho⟩ := hfollow
      exact ⟨b',hb',ho,(c.keeps_laterContent choice.delta).done.trans hd⟩

lemma Mode.Opened.holds_usageResponse (h : m.Opened c b) (hd : c.done = false) (usage : Option Usage) :
    (if (usage.or c.usage).isSome then m.close else .goes m : Verdict).Holds (.body b) (c.usageResponse usage) := by
  unfold ConvertInfo.usageResponse
  by_cases hu : (usage.or c.usage).isSome = true
  · have hreason : (if stopReasonOpenAI2Claude c.finishReason = "" then "end_turn"
        else stopReasonOpenAI2Claude c.finishReason)≠"" := by
      split_ifs with hr
      · decide
      · exact hr
    have hclose := h.read_closeMessage hreason (usage.or c.usage)
    rw [if_pos hu] at hclose ⊢
    rw [if_pos hu]
    exact hclose
  · rw [if_neg hu,if_neg hu]
    exact ⟨b,rfl,h,hd⟩

/-- A chunk after the first does what its verdict says. -/
lemma Mode.Opened.holds_later (h : m.Opened c b) (hd : c.done = false) {count : ℕ} (hcount : count≠1)
    (estimate : ℤ) (r : StreamResponse) : (laterVerdict m (r.usage.or c.usage).isSome r).Holds (.body b)
      (c.streamResponseOpenAI2Claude count estimate r) := by
  unfold laterVerdict
  cases hr : r.choices with
  | nil =>
    rw [ConvertInfo.response_usage hd hcount hr]
    exact h.holds_usageResponse hd r.usage
  | cons choice choices =>
    rw [ConvertInfo.response_choice hd hcount hr]
    exact h.holds_choiceResponse hd choice r.usage

end Chunk

/-! ## The first chunk -/

lemma opened_firstToolCall {c : ConvertInfo} (ht : c.lastMessagesType = .none) (hi : c.index = 0)
    (ts : List ToolCall) : ∃ b, (Phase.body .init).read (c.firstToolCall ts).2 = .body b ∧
      (if ts≠[] then Mode.tools 1 0 else .idle).Opened (c.firstToolCall ts).1 b := by
  unfold ConvertInfo.firstToolCall
  cases ts with
  | nil => exact ⟨.init,rfl,ht,by rw [hi]; rfl⟩
  | cons t ts =>
    have hopen := (ToolsOpen.empty 0).start t.id t.name
    refine ⟨_,?_,rfl,rfl,le_rfl,by simp,hopen⟩
    have hs : (Phase.body .init).step (startBlock 0 (.toolUse t.id t.name)) =
        .body ((closedBefore 0).begin (.toolUse t.id t.name)) := Phase.step_startBlock rfl
    rw [Phase.read_cons,hs]
    split_ifs
    · have hd : (ContentBlock.toolUse t.id t.name).fits (.inputJson t.arguments) = true := rfl
      exact Phase.step_deltaBlock (opened_begin_self (closedBefore 0) _) hd
    · rfl

lemma opened_firstContent {m : Mode} {c : ConvertInfo} {b : Blocks.State ContentBlock} (h : m.Opened c b)
    (hc : m.closable = true) (htext : m.type≠.text) (hthink : m.type≠.thinking) (d : Delta) :
    Mode.Follows (some (if d.getReasoningContent≠"" then .thinking else if d.getContentString≠"" then .text else m))
      b (c.firstContent d) := by
  have hstop := h.read_stopOpenBlocks
  rw [if_pos hc] at hstop
  have hblock : ∀ (m' : Mode) (x : ContentBlock) (e : ContentDelta), m.type≠m'.type → x.fits e = true →
      (∀ c b, m'.Opened c b ↔ c.lastMessagesType = m'.type ∧ b = (closedBefore c.index).begin x) →
      Mode.Follows (some m') b (c.firstBlock m'.type x e) := by
    intro m' x e hne he hm'
    rw [ConvertInfo.firstBlock_of_ne (h.type_eq ▸ hne)]
    refine ⟨(closedBefore c.advance.index).begin x,?_,(hm' _ _).mpr ⟨rfl,rfl⟩⟩
    rw [Phase.read_append,hstop]
    exact read_newBlock _ he
  unfold ConvertInfo.firstContent
  split_ifs
  · exact hblock .thinking _ _ hthink rfl (fun _ _ => Iff.rfl)
  · exact hblock .text _ _ htext rfl (fun _ _ => Iff.rfl)
  · exact ⟨b,rfl,h⟩

lemma opened_firstBlocks {c : ConvertInfo} (ht : c.lastMessagesType = .none) (hi : c.index = 0) (d : Delta) :
    ∃ b, (Phase.body .init).read (c.firstBlocks d).2 = .body b ∧ (Mode.first d).Opened (c.firstBlocks d).1 b := by
  obtain ⟨b,hb,ho⟩ := opened_firstToolCall ht hi d.toolCalls
  obtain ⟨b',hb',ho'⟩ := opened_firstContent ho (by split_ifs <;> rfl) (by split_ifs <;> decide)
    (by split_ifs <;> decide) d
  refine ⟨b',?_,ho'⟩
  change (Phase.body .init).read ((c.firstToolCall d.toolCalls).2++((c.firstToolCall d.toolCalls).1.firstContent d).2) = _
  rw [Phase.read_append,hb,hb']

lemma closable_first (d : Delta) : (Mode.first d).closable = true := by
  unfold Mode.first
  split_ifs <;> rfl

/-- The first chunk does what its verdict says. -/
lemma holds_first {c : ConvertInfo} (ht : c.lastMessagesType = .none) (hi : c.index = 0) (hd : c.done = false)
    (estimate : ℤ) (r : StreamResponse) (hu : r.usage.or c.usage = r.usage) :
    (firstVerdict r).Holds .fresh (c.streamResponseOpenAI2Claude 1 estimate r) := by
  unfold firstVerdict
  cases hr : r.choices with
  | nil =>
    rw [ConvertInfo.response_first_nil hd hr]
    exact ⟨.init,rfl,⟨ht,by rw [hi]; rfl⟩,hd⟩
  | cons choice choices =>
    obtain ⟨b,hb,ho⟩ := opened_firstBlocks ht hi choice.delta
    simp only
    cases hf : choice.finished with
    | false =>
      rw [ConvertInfo.response_first_goes hd hr hf]
      exact ⟨b,hb,ho,(c.keeps_firstBlocks choice.delta).done.trans hd⟩
    | true =>
      rw [ConvertInfo.response_first_closes hd hr hf,if_pos rfl]
      have ho' : (Mode.first choice.delta).Opened
          { (c.firstBlocks choice.delta).1 with finishReason := choice.finishReason.getD "" } b :=
        ho.congr rfl rfl rfl rfl
      have hclose := ho'.read_closeMessage (stopReason_ne_empty (Choice.finishReason_ne_empty hf)) r.usage
      rw [Mode.close,if_pos (closable_first choice.delta)] at hclose
      simp only [(c.keeps_firstBlocks choice.delta).usage,hu]
      cases hus : r.usage.isSome with
      | true =>
        rw [hus] at hclose
        obtain ⟨n,hn,hdone⟩ := hclose
        refine ⟨n,?_,hdone⟩
        change (Phase.body .init).read (_++_) = _
        rw [Phase.read_append,hb]
        exact hn
      | false =>
        rw [hus] at hclose
        change (Phase.body .init).read (_++_) = _
        rw [Phase.read_append,hb]
        exact hclose

/-! ## Whole streams -/

namespace ConvertInfo
variable {c : ConvertInfo} {count : ℕ} {estimate : ℤ} {r : StreamResponse}

/-- Events that start no message. -/
def NoStart (es : List ClaudeEvent) : Prop := ∀ id model tokens, ClaudeEvent.messageStart id model tokens∉es

lemma NoStart.append {es fs : List ClaudeEvent} (h : NoStart es) (h' : NoStart fs) : NoStart (es++fs) :=
  fun id model tokens hm => (List.mem_append.mp hm).elim (h id model tokens) (h' id model tokens)

lemma NoStart.blocks {es : List ClaudeEvent} (h : ∀ e∈es, ∃ e', e = .block e') : NoStart es := by
  intro id model tokens hm
  obtain ⟨e',he'⟩ := h _ hm
  contradiction

lemma noStart_stopOpenBlocks : NoStart c.stopOpenBlocks := by
  apply NoStart.blocks
  intro e he
  obtain ⟨i,rfl⟩ := c.mem_stopOpenBlocks he
  exact ⟨_,rfl⟩

lemma noStart_toolEvents (base : ℤ) (i : ℕ) (ts : List ToolCall) : NoStart (toolEvents base i ts) := by
  induction ts generalizing i with
  | nil => exact fun _ _ _ hm => absurd hm List.not_mem_nil
  | cons t ts ih =>
    refine NoStart.append ?_ (ih (i+1))
    apply NoStart.blocks
    intro e he
    unfold toolEvent at he
    rcases List.mem_append.mp he with he | he <;> split_ifs at he
    · exact ⟨_,List.mem_singleton.mp he⟩
    · contradiction
    · exact ⟨_,List.mem_singleton.mp he⟩
    · contradiction

lemma noStart_laterContent (d : Delta) : NoStart (c.laterContent d).2 := by
  have hpair : ∀ (i : ℤ) (b : ContentBlock) (e : ContentDelta), NoStart [startBlock i b,deltaBlock i e] := by
    intro i b e
    apply NoStart.blocks
    intro x hx
    rcases List.mem_pair.mp hx with rfl | rfl <;> exact ⟨_,rfl⟩
  have hblock : ∀ (type : MessageType) (b : ContentBlock) (e : ContentDelta), NoStart (c.laterBlock type b e).2 := by
    intro type b e
    by_cases ht : c.lastMessagesType = type
    · rw [laterBlock_of_eq b e ht]
      exact fun _ _ _ hm => absurd (List.mem_singleton.mp hm) (by unfold deltaBlock; simp)
    · rw [laterBlock_of_ne b e ht]
      exact noStart_stopOpenBlocks.append (hpair _ _ _)
  unfold laterContent
  split_ifs
  · by_cases ht : c.lastMessagesType = .tools
    · rw [laterToolCalls_of_eq ht]
      exact noStart_toolEvents _ _ _
    · rw [laterToolCalls_of_ne ht]
      exact noStart_stopOpenBlocks.append (noStart_toolEvents _ _ _)
  · exact hblock _ _ _
  · exact hblock _ _ _
  · exact fun _ _ _ hm => absurd hm List.not_mem_nil

lemma noStart_closeMessage (usage : Option Usage) (reason : String) : NoStart (c.closeMessage usage reason).2 := by
  refine NoStart.append (NoStart.append noStart_stopOpenBlocks ?_) ?_
  · cases usage <;> simp [NoStart]
  · simp [NoStart]

/-- Only the first response starts a message. -/
lemma noStart_later (hd : c.done = false) (hcount : count≠1) :
    NoStart (c.streamResponseOpenAI2Claude count estimate r).2 := by
  have hnil : NoStart [] := fun _ _ _ hm => absurd hm List.not_mem_nil
  cases hr : r.choices with
  | nil =>
    rw [response_usage hd hcount hr]
    unfold usageResponse
    split_ifs
    · exact noStart_closeMessage _ _
    · exact hnil
  | cons choice choices =>
    rw [response_choice hd hcount hr]
    unfold choiceResponse
    split_ifs
    · exact hnil
    · exact (noStart_laterContent _).append (noStart_closeMessage _ _)
    · exact hnil
    · exact noStart_laterContent _

lemma response_first (hd : c.done = false) (estimate : ℤ) (r : StreamResponse) : ∃ es, (c.streamResponseOpenAI2Claude 1 estimate r).2 =
    .messageStart r.id r.model estimate::es := by
  cases hr : r.choices with
  | nil => exact ⟨[],by rw [response_first_nil hd hr]⟩
  | cons choice choices =>
    cases hf : choice.finished with
    | false => exact ⟨_,by rw [response_first_goes hd hr hf]⟩
    | true => exact ⟨_,by rw [response_first_closes hd hr hf]; rfl⟩

end ConvertInfo

namespace StreamState

/-- What is written once `r` is held back and `rs` are still to come. -/
def finish (s : StreamState) (estimate : ℤ) (usage : Usage) (r : StreamResponse) (rs : List StreamResponse) :
    List ClaudeEvent :=
  ((rs.foldl (scanChunk estimate) { s with lastStreamData := some r }).handleFinalResponse estimate usage).sent

variable {s : StreamState} {estimate : ℤ} {usage : Usage} {r : StreamResponse} {rs : List StreamResponse}

lemma finish_nil : s.finish estimate usage r [] = s.sent++
    ((s.convert.withUsage (some usage)).streamResponseOpenAI2Claude s.sendResponseCount estimate r).2 := rfl

lemma finish_cons (r' : StreamResponse) : s.finish estimate usage r (r'::rs) =
    (s.handleStreamFormat estimate r).finish estimate usage r' rs := rfl

/-- Nothing that was written is taken back. -/
lemma sent_prefix_finish (s : StreamState) (estimate : ℤ) (usage : Usage) (r : StreamResponse)
    (rs : List StreamResponse) : ∃ es, s.finish estimate usage r rs = s.sent++es := by
  induction rs generalizing s r with
  | nil => exact ⟨_,finish_nil⟩
  | cons r' rs ih =>
    obtain ⟨es,hes⟩ := ih (s := s.handleStreamFormat estimate r) (r := r')
    rw [sent_handleStreamFormat,List.append_assoc] at hes
    exact ⟨_,hes⟩

/-- Nothing is written after the message was closed. -/
lemma finish_of_done (h : s.convert.done = true) : s.finish estimate usage r rs = s.sent := by
  induction rs generalizing s r with
  | nil =>
    have hd : (s.convert.withUsage (some usage)).done = true := h
    rw [finish_nil,ConvertInfo.response_of_done hd,List.append_nil]
  | cons r' rs ih =>
    have hd : (s.convert.withUsage (r.usage.or s.convert.usage)).done = true := h
    rw [finish_cons,ih]
    · rw [sent_handleStreamFormat,ConvertInfo.response_of_done hd,List.append_nil]
    · rw [convert_handleStreamFormat,ConvertInfo.response_of_done hd]
      exact hd

end StreamState

section Fits
variable {s : StreamState} {estimate : ℤ} {usage : Usage} {r : StreamResponse} {rs : List StreamResponse}

/-- A stream that ends with a chunk is well formed exactly when the chunk closed it. -/
lemma Verdict.Holds.claudeStream_iff {v : Verdict} {es : List ClaudeEvent} {p : ConvertInfo × List ClaudeEvent}
    (h : v.Holds (.read .fresh es) p) : ClaudeStream (es++p.2) ↔ v = .closes := by
  rw [Convert.claudeStream_iff,Phase.read_append]
  cases v with
  | goes m =>
    obtain ⟨b,hb,-⟩ := h
    rw [hb]
    simp
  | closes =>
    obtain ⟨n,hn,-⟩ := h
    exact iff_of_true ⟨n,hn⟩ rfl
  | breaks =>
    rw [show Phase.read _ p.2 = .broken from h]
    simp

lemma Verdict.Holds.not_claudeStream {es fs : List ClaudeEvent} {p : ConvertInfo × List ClaudeEvent}
    (h : Verdict.breaks.Holds (.read .fresh es) p) : ¬ClaudeStream (es++p.2++fs) := by
  rw [Convert.claudeStream_iff,Phase.read_append,Phase.read_append,show Phase.read _ p.2 = .broken from h,
    Phase.read_broken]
  simp

/-- From the second response on, a stream goes well exactly when the chunks still to come fit what is open. -/
lemma claudeStream_finish_iff {m : Mode} {b : Blocks.State ContentBlock} (hread : Phase.fresh.read s.sent = .body b)
    (ho : m.Opened s.convert b) (hd : s.convert.done = false) (hcount : 0 < s.sendResponseCount)
    (hlast : s.sendResponseCount≠1 ∨ rs≠[]) :
    ClaudeStream (s.finish estimate usage r rs) ↔ laterFits m s.convert.usage.isSome (r::rs) = true := by
  induction rs generalizing s r m b with
  | nil =>
    have hne : s.sendResponseCount≠1 := hlast.resolve_right (by simp)
    have ho' : m.Opened (s.convert.withUsage (some usage)) b := ho.congr rfl rfl rfl rfl
    have hv := ho'.holds_later hd hne estimate r
    have hknown : (r.usage.or (s.convert.withUsage (some usage)).usage).isSome = true := by
      change (r.usage.or (some usage)).isSome = true
      cases r.usage <;> rfl
    rw [hknown,←hread] at hv
    rw [StreamState.finish_nil,hv.claudeStream_iff,laterFits]
    simp only [List.isEmpty_nil,Bool.or_true]
    cases laterVerdict m true r <;> simp [laterFits]
  | cons r' rs ih =>
    have hne : s.sendResponseCount+1≠1 := by omega
    have ho' : m.Opened (s.convert.withUsage (r.usage.or s.convert.usage)) b := ho.congr rfl rfl rfl rfl
    have hv := ho'.holds_later hd hne estimate r
    have hknown : (s.convert.usage.isSome || r.usage.isSome) = (r.usage.or s.convert.usage).isSome := by
      cases r.usage <;> cases s.convert.usage <;> rfl
    have hknown' : r.usage.or (s.convert.withUsage (r.usage.or s.convert.usage)).usage =
        r.usage.or s.convert.usage := by
      change r.usage.or (r.usage.or s.convert.usage) = _
      cases r.usage <;> rfl
    rw [hknown',←hread] at hv
    rw [StreamState.finish_cons,laterFits]
    simp only [List.isEmpty_cons,Bool.or_false,hknown]
    cases hver : laterVerdict m (r.usage.or s.convert.usage).isSome r with
    | goes m' =>
      rw [hver] at hv
      obtain ⟨b',hb',hopen,hdone⟩ := hv
      have husage : (s.handleStreamFormat estimate r).convert.usage = r.usage.or s.convert.usage := by
        rw [StreamState.convert_handleStreamFormat,ConvertInfo.usage_response]
        rfl
      have hsent : Phase.fresh.read (s.handleStreamFormat estimate r).sent = .body b' := by
        rw [StreamState.sent_handleStreamFormat,Phase.read_append,hb']
      have hcount' : (s.handleStreamFormat estimate r).sendResponseCount = s.sendResponseCount+1 := rfl
      rw [ih hsent hopen hdone (by omega) (.inl (by omega)),husage]
    | closes =>
      rw [hver] at hv
      obtain ⟨n,hn,hdone⟩ := id hv
      rw [StreamState.finish_of_done hdone,StreamState.sent_handleStreamFormat,hv.claudeStream_iff]
      simp
    | breaks =>
      rw [hver] at hv
      obtain ⟨fs,hfs⟩ := (s.handleStreamFormat estimate r).sent_prefix_finish estimate usage r' rs
      rw [hfs,StreamState.sent_handleStreamFormat]
      exact iff_of_false hv.not_claudeStream (by simp)

/-- A stream of one chunk has no first response, so it has no start. -/
lemma not_claudeStream_single : ¬ClaudeStream (StreamState.init.finish estimate usage r []) := by
  have hno : ConvertInfo.NoStart (StreamState.init.finish estimate usage r []) := by
    rw [StreamState.finish_nil]
    exact ConvertInfo.noStart_later rfl (by decide)
  rintro ⟨id,model,tokens,body,reason,u,h,-⟩
  exact hno id model tokens (by rw [h]; exact List.mem_cons_self)

/-- The events are a Claude stream exactly when the chunks fit. -/
theorem claudeStream_handler_iff (estimate : ℤ) (usage : Usage) (chunks : List StreamResponse) :
    ClaudeStream (oaiStreamHandler estimate usage chunks) ↔ streamFits chunks = true := by
  cases chunks with
  | nil =>
    refine iff_of_false ?_ (by simp [streamFits])
    rintro ⟨id,model,tokens,body,reason,u,h,-⟩
    exact absurd h (List.cons_ne_nil _ _).symm
  | cons r rs =>
    change ClaudeStream (StreamState.init.finish estimate usage r rs) ↔ _
    cases rs with
    | nil => exact iff_of_false not_claudeStream_single (by simp [streamFits])
    | cons r' rs =>
      have hu : r.usage.or (StreamState.init.convert.withUsage (r.usage.or none)).usage = r.usage := by
        change r.usage.or (r.usage.or none) = _
        cases r.usage <;> rfl
      have hv : (firstVerdict r).Holds (.read .fresh StreamState.init.sent)
          ((StreamState.init.convert.withUsage (r.usage.or none)).streamResponseOpenAI2Claude 1 estimate r) :=
        holds_first rfl rfl rfl estimate r hu
      have hsent : (StreamState.init.handleStreamFormat estimate r).sent = _ := StreamState.sent_handleStreamFormat
      rw [StreamState.finish_cons,streamFits]
      cases hver : firstVerdict r with
      | goes m =>
        rw [hver] at hv
        obtain ⟨b,hb,hopen,hdone⟩ := hv
        have hread : Phase.fresh.read (StreamState.init.handleStreamFormat estimate r).sent = .body b := by
          rw [hsent,Phase.read_append]
          exact hb
        have husage : (StreamState.init.handleStreamFormat estimate r).convert.usage = r.usage := by
          rw [StreamState.convert_handleStreamFormat,ConvertInfo.usage_response]
          cases h : r.usage <;> rfl
        cases rs with
        | nil =>
          -- The held-back chunk is taken for the first response once more.
          rw [StreamState.finish_nil,claudeStream_iff,Phase.read_append,hread]
          obtain ⟨es,hes⟩ := ConvertInfo.response_first
            (c := (StreamState.init.handleStreamFormat estimate r).convert.withUsage (some usage)) hdone estimate r'
          change (∃ n, (Phase.body b).read (ConvertInfo.streamResponseOpenAI2Claude _ 1 estimate r').2 = _) ↔ _
          rw [hes]
          simp [Phase.step]
        | cons r'' rs =>
          rw [claudeStream_finish_iff hread hopen hdone Nat.one_pos (.inr (List.cons_ne_nil _ _)),husage]
          simp
      | closes =>
        rw [hver] at hv
        obtain ⟨n,hn,hdone⟩ := id hv
        rw [StreamState.finish_of_done hdone,hsent]
        exact hv.claudeStream_iff.trans (by simp)
      | breaks =>
        rw [hver] at hv
        obtain ⟨fs,hfs⟩ := (StreamState.init.handleStreamFormat estimate r).sent_prefix_finish estimate usage r' rs
        rw [hfs,hsent]
        exact iff_of_false hv.not_claudeStream (by simp)

/-- A text in three chunks, as from an upstream that sends no usage. -/
def plainChunks : List StreamResponse :=
  [⟨"c","m",[⟨⟨some "",none,none,[]⟩,none⟩],none⟩,⟨"c","m",[⟨⟨some "Hi",none,none,[]⟩,none⟩],none⟩,
    ⟨"c","m",[⟨⟨none,none,none,[]⟩,some "stop"⟩],none⟩]

/-- The finishing chunk waits for a usage that does not come, and the message is never closed. -/
theorem plainChunks_not_closed : ¬ClaudeStream (oaiStreamHandler 3 ⟨3,1,0,0,0,0⟩ plainChunks) := by
  rintro ⟨id,model,tokens,body,reason,u,h,-⟩
  have hlast : (oaiStreamHandler 3 ⟨3,1,0,0,0,0⟩ plainChunks).getLast? ≠ some .messageStop := by decide
  apply hlast
  rw [h,List.getLast?_append_of_ne_nil _ (List.cons_ne_nil _ _)]
  rfl

end Fits

end Convert
end Tierflow
