import Tierflow.Foundation.Gather
import Tierflow.Compat.ChatStream

/-! What the chunks of a streamed completion become. The pieces in them are gathered item by item; the state of the
stream, the events sent and the output at the end are read off the gathered pieces. -/
namespace Tierflow
namespace Compat

/-! ## Pieces -/

/-- A piece of a message: some of its text, or of one of its calls. -/
inductive Piece
  | text (delta : String)
  | tool (tc : ToolCallPiece)
  deriving DecidableEq, Repr

/-- The item that a piece belongs to: the text, or the call in a slot. -/
def Piece.key : Piece → Option ℤ
  | .text _ => none
  | .tool tc => some tc.slot

def Piece.text? : Piece → Option String
  | .text delta => some delta
  | .tool _ => none

def Piece.tool? : Piece → Option ToolCallPiece
  | .text _ => none
  | .tool tc => some tc

def Delta.pieces (d : Delta) : List Piece :=
  ((d.content.filter (fun delta : String => delta≠"")).toList.map .text)++d.toolCalls.map .tool

def chunkPieces (chunks : List Chunk) : List Piece := chunks.flatMap (fun c => c.choices.flatMap Delta.pieces)

/-- The pieces of all items, the items in the order in which they appear. -/
def items (pieces : List Piece) : List (Option ℤ × List Piece) := Gather.gather Piece.key pieces

/-! ## The state of an item -/

section
variable (respId : String)

/-- A call after these pieces. -/
def held (outputIndex : ℕ) (tcs : List ToolCallPiece) : ToolState :=
  tcs.foldl ToolState.absorb (ToolState.fresh respId outputIndex (tcs.headD ⟨none,"","",""⟩))

/-- The text after these pieces. -/
def heldText (outputIndex : ℕ) (deltas : List String) : TextItem :=
  ⟨outputIndex,"msg_"++respId,String.join deltas⟩

def textEntry : (Option ℤ × List Piece) × ℕ → Option TextItem
  | ((none,ps),k) => some (heldText respId k (ps.filterMap Piece.text?))
  | ((some _,_),_) => none

def toolEntry : (Option ℤ × List Piece) × ℕ → Option (ℤ × ToolState)
  | ((none,_),_) => none
  | ((some i,ps),k) => some (i,held respId k (ps.filterMap Piece.tool?))

/-- What is sent for an item before the end. -/
def itemEvents : (Option ℤ × List Piece) × ℕ → List Event
  | ((none,ps),k) => (heldText respId k []).announced++
      (ps.filterMap Piece.text?).map (.textDelta ("msg_"++respId) k)
  | ((some _,ps),k) =>
    let st := ToolState.fresh respId k ((ps.filterMap Piece.tool?).headD ⟨none,"","",""⟩)
    st.announced++(ps.filterMap Piece.tool?).flatMap st.delta

end

section
variable {respId : String} {k : ℕ} {st : ToolState} {tc : ToolCallPiece} {tcs : List ToolCallPiece}

lemma absorb_outputIndex (st : ToolState) (tc : ToolCallPiece) : (st.absorb tc).outputIndex = st.outputIndex := by
  unfold ToolState.absorb ToolState.addArguments ToolState.setName ToolState.setCallId
  repeat' split
  all_goals rfl

lemma absorb_itemId (st : ToolState) (tc : ToolCallPiece) : (st.absorb tc).itemId = st.itemId := by
  unfold ToolState.absorb ToolState.addArguments ToolState.setName ToolState.setCallId
  repeat' split
  all_goals rfl

lemma foldl_absorb_outputIndex (tcs : List ToolCallPiece) (st : ToolState) :
    (tcs.foldl ToolState.absorb st).outputIndex = st.outputIndex := by
  induction tcs generalizing st with
  | nil => rfl
  | cons tc tcs ih => rw [List.foldl_cons,ih,absorb_outputIndex]

lemma foldl_absorb_itemId (tcs : List ToolCallPiece) (st : ToolState) :
    (tcs.foldl ToolState.absorb st).itemId = st.itemId := by
  induction tcs generalizing st with
  | nil => rfl
  | cons tc tcs ih => rw [List.foldl_cons,ih,absorb_itemId]

@[simp] lemma held_outputIndex : (held respId k tcs).outputIndex = k := foldl_absorb_outputIndex _ _

@[simp] lemma held_itemId : (held respId k tcs).itemId = "fc_"++respId++"_"++Text.printNat k :=
  foldl_absorb_itemId _ _

lemma held_concat (h : tcs≠[]) (tc : ToolCallPiece) :
    held respId k (tcs++[tc]) = (held respId k tcs).absorb tc := by
  obtain ⟨tc',tcs,rfl⟩ := List.exists_cons_of_ne_nil h
  unfold held
  rw [List.foldl_append]
  rfl

lemma heldText_concat (deltas : List String) (delta : String) :
    heldText respId k (deltas++[delta]) =
      { heldText respId k deltas with text := (heldText respId k deltas).text++delta } := by
  unfold heldText
  rw [String.join_append]
  simp

/-- The delta events of a call depend on its ids only. -/
lemma delta_congr {st' : ToolState} (hid : st.itemId = st'.itemId) (hindex : st.outputIndex = st'.outputIndex)
    (tc : ToolCallPiece) : st.delta tc = st'.delta tc := by
  unfold ToolState.delta
  rw [hid,hindex]

lemma delta_outputIndex : ∀ e∈st.delta tc, e.outputIndex? = some st.outputIndex := by
  intro e he
  unfold ToolState.delta at he
  split_ifs at he
  · rw [List.mem_singleton.mp he]
    rfl
  · cases he

end

/-! ## The stream so far -/

/-- The state of the stream after these pieces. -/
structure Reflects (respId : String) (pieces : List Piece) (s : StreamState) : Prop where
  next : s.nextOutputIndex = (items pieces).length
  text : s.textItem.toList = (items pieces).zipIdx.filterMap (textEntry respId)
  tools : s.tools = (items pieces).zipIdx.filterMap (toolEntry respId)
  sent : Gather.Sent Event.outputIndex? (itemEvents respId) (items pieces) s.sent

section
variable {respId : String} {pieces : List Piece} {s : StreamState}

lemma reflects_init (respId model : String) : Reflects respId [] (.init model) :=
  ⟨rfl,rfl,rfl,fun _ => rfl⟩

lemma Reflects.ensureCreated (h : Reflects respId pieces s) : Reflects respId pieces s.ensureCreated := by
  unfold StreamState.ensureCreated
  split_ifs
  · exact h
  · exact ⟨h.next,h.text,h.tools,h.sent.append_silent (by simp [Event.outputIndex?])⟩

lemma items_concat (pieces : List Piece) (p : Piece) : items (pieces++[p]) = Gather.add Piece.key (items pieces) p :=
  Gather.gather_concat pieces p

lemma length_add_of_mem {p : Piece} (h : p.key∈(items pieces).map Prod.fst) :
    (Gather.add Piece.key (items pieces) p).length = (items pieces).length := by
  rw [Gather.add_of_mem h,List.length_map]

lemma length_add_of_notMem {p : Piece} (h : p.key∉(items pieces).map Prod.fst) :
    (Gather.add Piece.key (items pieces) p).length = (items pieces).length+1 := by
  rw [Gather.add_of_notMem h,List.length_append,List.length_singleton]

lemma getElem?_of_mem_zipIdx {g : Option ℤ × List Piece} {k : ℕ} (h : (g,k)∈(items pieces).zipIdx) :
    (items pieces)[k]? = some g := List.mk_mem_zipIdx_iff_getElem?.mp h

/-- Where an item stands is known from its key. -/
lemma only_number {g g' : Option ℤ × List Piece} {j k : ℕ} (h : (g,k)∈(items pieces).zipIdx)
    (h' : (items pieces)[j]? = some g') (hkey : g'.1 = g.1) : j = k :=
  congrArg Prod.snd (Gather.eq_of_key_eq (List.mk_mem_zipIdx_iff_getElem?.mpr h') h hkey)

/-- The pieces of a call are some pieces. -/
lemma tools_ne_nil {i : ℤ} {ps : List Piece} (h : (some i,ps)∈items pieces) : ps.filterMap Piece.tool?≠[] := by
  obtain ⟨p,ps',hps⟩ := List.exists_cons_of_ne_nil (Gather.ne_nil_of_mem h)
  have hps' : ps = p::ps' := hps
  have hkey : p.key = some i := Gather.key_of_mem h (by simp [hps'])
  rw [hps']
  cases p with
  | text delta => cases hkey
  | tool tc => simp [Piece.tool?]

lemma fst_mem_of_mem_zipIdx {q : (Option ℤ × List Piece) × ℕ} (h : q∈(items pieces).zipIdx) : q.1∈items pieces :=
  List.fst_mem_of_mem_zipIdx h

/-! ## A piece of text -/

/-- The text is open exactly when a piece of it has come. -/
lemma Reflects.text_eq (h : Reflects respId pieces s) {t : TextItem} (ht : s.textItem = some t) :
    ∃ ps k, ((none,ps),k)∈(items pieces).zipIdx ∧ t = heldText respId k (ps.filterMap Piece.text?) := by
  have hmem : t∈(items pieces).zipIdx.filterMap (textEntry respId) := by
    rw [←h.text,ht]
    exact List.mem_singleton_self t
  obtain ⟨⟨⟨_ | i,ps⟩,k⟩,hq,heq⟩ := List.mem_filterMap.mp hmem
  · exact ⟨ps,k,hq,(Option.some.inj heq).symm⟩
  · cases heq

lemma Reflects.text_none (h : Reflects respId pieces s) (ht : s.textItem = none) :
    none∉(items pieces).map Prod.fst := by
  intro hmem
  obtain ⟨⟨_,ps⟩,hg,rfl⟩ := List.mem_map.mp hmem
  obtain ⟨k,hk⟩ := List.getElem?_of_mem hg
  have : heldText respId k (ps.filterMap Piece.text?)∈s.textItem.toList := by
    rw [h.text]
    exact List.mem_filterMap.mpr ⟨((none,ps),k),List.mk_mem_zipIdx_iff_getElem?.mpr hk,rfl⟩
  rw [ht] at this
  cases this

/-- Text leaves the calls alone. -/
lemma toolEntry_bump_text (delta : String) (q : (Option ℤ × List Piece) × ℕ) :
    toolEntry respId (Gather.bump Piece.key (.text delta) q) = (toolEntry respId q).map id := by
  obtain ⟨⟨_ | i,ps⟩,k⟩ := q
  · rfl
  · simp [Gather.bump,Piece.key]

lemma textEntry_bump_text (delta : String) (q : (Option ℤ × List Piece) × ℕ) :
    textEntry respId (Gather.bump Piece.key (.text delta) q) =
      (textEntry respId q).map (fun t => { t with text := t.text++delta }) := by
  obtain ⟨⟨_ | i,ps⟩,k⟩ := q
  · have hps : (ps++[Piece.text delta]).filterMap Piece.text? = ps.filterMap Piece.text?++[delta] := by
      rw [List.filterMap_append]
      rfl
    simp only [Gather.bump,Piece.key,if_true,textEntry,Option.map_some]
    rw [hps,heldText_concat]
  · simp [Gather.bump,Piece.key,textEntry]

lemma Reflects.piece_text (h : Reflects respId pieces s) (delta : String) :
    Reflects respId (pieces++[.text delta]) (s.text respId delta) := by
  unfold StreamState.text StreamState.openText
  cases ht : s.textItem with
  | some t =>
    obtain ⟨ps,k,hq,rfl⟩ := h.text_eq ht
    have hget := getElem?_of_mem_zipIdx hq
    have hmem : Piece.key (.text delta)∈(items pieces).map Prod.fst :=
      List.mem_map_of_mem (f:=Prod.fst) (fst_mem_of_mem_zipIdx hq)
    constructor
    case next => rw [items_concat,length_add_of_mem hmem,←h.next]
    case text =>
      rw [items_concat,Gather.filterMap_add_of_mem hmem (fun q _ => textEntry_bump_text delta q),←h.text,ht]
      rfl
    case tools =>
      rw [items_concat,Gather.filterMap_add_of_mem hmem (fun q _ => toolEntry_bump_text delta q),List.map_id,←h.tools]
    case sent =>
      rw [items_concat]
      refine h.sent.grow hget rfl (fun j g' hg' hk => only_number hq hg' hk) ?_ ?_
      · intro e he
        rw [List.mem_singleton.mp he]
        rfl
      · simp [itemEvents,Piece.text?,heldText]
  | none =>
    have hnot : Piece.key (.text delta)∉(items pieces).map Prod.fst := h.text_none ht
    have hempty : (items pieces).zipIdx.filterMap (textEntry respId) = [] := by rw [←h.text,ht]; rfl
    constructor
    case next =>
      rw [items_concat,length_add_of_notMem hnot,←h.next]
    case text =>
      rw [items_concat,Gather.filterMap_add_of_notMem hnot,hempty,←h.next]
      simp [textEntry,Piece.key,Piece.text?,heldText,TextItem.fresh]
    case tools =>
      rw [items_concat,Gather.filterMap_add_of_notMem hnot,←h.tools]
      simp [toolEntry,Piece.key]
    case sent =>
      rw [items_concat]
      dsimp only
      rw [List.append_assoc]
      refine h.sent.extend hnot ?_ ?_
      · rw [←h.next]
        simp [TextItem.announced,TextItem.fresh,Event.outputIndex?]
      · rw [←h.next]
        simp [itemEvents,Piece.key,Piece.text?,heldText,TextItem.fresh]

/-! ## A piece of a call -/

/-- An open call is the call of a slot that has appeared. -/
lemma Reflects.tools_mem (h : Reflects respId pieces s) {p : ℤ × ToolState} (hp : p∈s.tools) :
    ∃ ps k, ((some p.1,ps),k)∈(items pieces).zipIdx ∧ p.2 = held respId k (ps.filterMap Piece.tool?) := by
  rw [h.tools] at hp
  obtain ⟨⟨⟨_ | i,ps⟩,k⟩,hq,heq⟩ := List.mem_filterMap.mp hp
  · cases heq
  · obtain rfl := Option.some.inj heq
    exact ⟨ps,k,hq,rfl⟩

lemma Reflects.tools_none (h : Reflects respId pieces s) {i : ℤ}
    (ht : s.tools.find? (fun p => p.1 = i) = none) : some i∉(items pieces).map Prod.fst := by
  intro hmem
  obtain ⟨⟨_,ps⟩,hg,rfl⟩ := List.mem_map.mp hmem
  obtain ⟨k,hk⟩ := List.getElem?_of_mem hg
  have hin : (i,held respId k (ps.filterMap Piece.tool?))∈s.tools := by
    rw [h.tools]
    exact List.mem_filterMap.mpr ⟨((some i,ps),k),List.mk_mem_zipIdx_iff_getElem?.mpr hk,rfl⟩
  exact List.find?_eq_none.mp ht _ hin (by simp)

/-- A piece of a call leaves the text alone. -/
lemma textEntry_bump_tool (tc : ToolCallPiece) (q : (Option ℤ × List Piece) × ℕ) :
    textEntry respId (Gather.bump Piece.key (.tool tc) q) = (textEntry respId q).map id := by
  obtain ⟨⟨_ | i,ps⟩,k⟩ := q
  · simp [Gather.bump,Piece.key]
  · simp only [Gather.bump]
    split_ifs <;> rfl

lemma toolEntry_bump_tool (tc : ToolCallPiece) {q : (Option ℤ × List Piece) × ℕ} (hq : q∈(items pieces).zipIdx) :
    toolEntry respId (Gather.bump Piece.key (.tool tc) q) =
      (toolEntry respId q).map (fun p => if p.1 = tc.slot then (p.1,p.2.absorb tc) else p) := by
  obtain ⟨⟨_ | i,ps⟩,k⟩ := q
  · simp [Gather.bump,Piece.key,toolEntry]
  · have hps : (ps++[Piece.tool tc]).filterMap Piece.tool? = ps.filterMap Piece.tool?++[tc] := by
      rw [List.filterMap_append]
      rfl
    have hne := tools_ne_nil (fst_mem_of_mem_zipIdx hq)
    by_cases hi : i = tc.slot
    · subst hi
      simp only [Gather.bump,Piece.key,if_true,toolEntry,Option.map_some]
      rw [hps,held_concat hne]
    · have hkey : (some i : Option ℤ)≠some tc.slot := fun h => hi (Option.some.inj h)
      have hbump : Gather.bump Piece.key (.tool tc) ((some i,ps),k) = ((some i,ps),k) := if_neg hkey
      rw [hbump]
      simp only [toolEntry,Option.map_some,if_neg hi]

/-- The piece that opens a call is absorbed by it. -/
lemma tools_opened {l : List (ℤ × ToolState)} {i : ℤ} (hl : ∀ p∈l, p.1≠i) (st : ToolState) (tc : ToolCallPiece) :
    (l++[(i,st)]).map (fun p => if p.1 = i then (p.1,p.2.absorb tc) else p) = l++[(i,st.absorb tc)] := by
  have hold : l.map (fun p => if p.1 = i then (p.1,p.2.absorb tc) else p) = l := by
    conv_rhs => rw [←List.map_id l]
    exact List.map_congr_left (fun p hp => if_neg (hl p hp))
  rw [List.map_append,hold]
  simp

lemma Reflects.piece_tool (h : Reflects respId pieces s) (tc : ToolCallPiece) :
    Reflects respId (pieces++[.tool tc]) (s.toolCall respId tc) := by
  unfold StreamState.toolCall StreamState.openTool
  cases ht : s.tools.find? (fun p => p.1 = tc.slot) with
  | some p =>
    obtain ⟨ps,k,hq,hp⟩ := h.tools_mem (List.mem_of_find?_eq_some ht)
    have hslot : p.1 = tc.slot := by simpa using List.find?_some ht
    have hget := getElem?_of_mem_zipIdx hq
    have hkey : some p.1 = Piece.key (.tool tc) := congrArg some hslot
    have hmem : Piece.key (.tool tc)∈(items pieces).map Prod.fst :=
      hkey ▸ List.mem_map_of_mem (f:=Prod.fst) (fst_mem_of_mem_zipIdx hq)
    constructor
    case next => rw [items_concat,length_add_of_mem hmem,←h.next]
    case text =>
      rw [items_concat,Gather.filterMap_add_of_mem hmem (fun q _ => textEntry_bump_tool tc q),List.map_id,←h.text]
    case tools =>
      rw [items_concat,Gather.filterMap_add_of_mem hmem (fun q hq => toolEntry_bump_tool tc hq),←h.tools]
    case sent =>
      rw [items_concat]
      refine h.sent.grow hget hkey (fun j g' hg' hk => only_number hq hg' (hk.trans hkey.symm)) ?_ ?_
      · rw [hp]
        intro e he
        rw [delta_outputIndex e he,held_outputIndex]
      · have hps : (ps++[Piece.tool tc]).filterMap Piece.tool? = ps.filterMap Piece.tool?++[tc] := by
          rw [List.filterMap_append]
          rfl
        have hhead : (ps.filterMap Piece.tool?++[tc]).headD ⟨none,"","",""⟩ =
            (ps.filterMap Piece.tool?).headD ⟨none,"","",""⟩ := by
          obtain ⟨tc',tcs,htcs⟩ := List.exists_cons_of_ne_nil (tools_ne_nil (fst_mem_of_mem_zipIdx hq))
          rw [htcs]
          rfl
        simp only [itemEvents]
        rw [hps,hhead,List.flatMap_append,hp,←List.append_assoc,List.flatMap_singleton]
        congr 1
        exact delta_congr (by rw [held_itemId]; rfl) (by rw [held_outputIndex]; rfl) tc
  | none =>
    have hnot : Piece.key (.tool tc)∉(items pieces).map Prod.fst := h.tools_none ht
    have hother : ∀ p∈s.tools, p.1≠tc.slot := by
      intro p hp
      simpa using List.find?_eq_none.mp ht p hp
    constructor
    case next => rw [items_concat,length_add_of_notMem hnot,←h.next]
    case text =>
      rw [items_concat,Gather.filterMap_add_of_notMem hnot,←h.text]
      simp [textEntry,Piece.key]
    case tools =>
      rw [items_concat,Gather.filterMap_add_of_notMem hnot,←h.tools,←h.next]
      exact tools_opened hother _ tc
    case sent =>
      rw [items_concat]
      dsimp only
      rw [List.append_assoc]
      refine h.sent.extend hnot ?_ ?_
      · rw [←h.next]
        intro e he
        rcases List.mem_append.mp he with he | he
        · rw [List.mem_singleton.mp he]
          rfl
        · exact delta_outputIndex e he
      · rw [←h.next]
        simp [itemEvents,Piece.key,Piece.tool?]

/-! ## A whole stream -/

/-- What one choice of a chunk does is done piece by piece. -/
lemma Reflects.choice (h : Reflects respId pieces s) (d : Delta) :
    Reflects respId (pieces++d.pieces) (s.choice respId d) := by
  have htools : ∀ (tcs : List ToolCallPiece) (pieces : List Piece) (s : StreamState), Reflects respId pieces s →
      Reflects respId (pieces++tcs.map .tool) (tcs.foldl (StreamState.toolCall respId) s) := by
    intro tcs
    induction tcs with
    | nil => intro pieces s h; simpa using h
    | cons tc tcs ih =>
      intro pieces s h
      have := ih _ _ (h.piece_tool tc)
      simpa using this
  unfold StreamState.choice Delta.pieces
  rw [←List.append_assoc]
  apply htools
  cases hc : d.content with
  | none => simpa using h
  | some delta =>
    by_cases hd : delta = ""
    · simpa [hd,Option.filter] using h
    · simpa [hd,Option.filter] using h.piece_text delta

lemma Reflects.choices (h : Reflects respId pieces s) (ds : List Delta) :
    Reflects respId (pieces++ds.flatMap Delta.pieces) (ds.foldl (StreamState.choice respId) s) := by
  induction ds generalizing pieces s with
  | nil => simpa using h
  | cons d ds ih =>
    rw [List.flatMap_cons,←List.append_assoc]
    exact ih (h.choice d)

lemma Reflects.chunks (h : Reflects respId pieces s) (chunks : List Chunk) :
    Reflects respId (pieces++chunkPieces chunks) (chunks.foldl (StreamState.chunk respId) s) := by
  induction chunks generalizing pieces s with
  | nil => simpa [chunkPieces] using h
  | cons c chunks ih =>
    unfold chunkPieces at ih ⊢
    rw [List.flatMap_cons,←List.append_assoc]
    refine ih (Reflects.choices ?_ c.choices)
    exact Reflects.ensureCreated ⟨h.next,h.text,h.tools,h.sent⟩

/-- After all chunks the stream has the items of their pieces. -/
theorem reflects_stream (respId model : String) (chunks : List Chunk) : Reflects respId (chunkPieces chunks)
    (chunks.foldl (StreamState.chunk respId) (.init model)).ensureCreated :=
  ((reflects_init respId model).chunks chunks).ensureCreated

/-! ## The end -/

/-- What an item is at the end. -/
def finalItem (respId : String) : (Option ℤ × List Piece) × ℕ → ResponsesOutput
  | ((none,ps),k) => (heldText respId k (ps.filterMap Piece.text?)).item
  | ((some _,ps),k) => (held respId k (ps.filterMap Piece.tool?)).item

/-- What is sent for an item at the end. -/
def doneEvents (respId : String) : (Option ℤ × List Piece) × ℕ → List Event
  | ((none,ps),k) => (heldText respId k (ps.filterMap Piece.text?)).done
  | ((some _,ps),k) => (held respId k (ps.filterMap Piece.tool?)).done

/-- The output has the items in the order in which they appeared. -/
lemma Reflects.output (h : Reflects respId pieces s) : s.output = (items pieces).zipIdx.map (finalItem respId) := by
  unfold StreamState.output StreamState.finals
  apply Gather.insertionSort_of_perm
  rw [h.text,h.tools,List.map_filterMap,List.map_filterMap]
  apply Gather.perm_filterMap_append
  rintro ⟨⟨_ | i,ps⟩,k⟩ -
  · exact .inl ⟨rfl,rfl⟩
  · exact .inr ⟨rfl,by simp [toolEntry,finalItem]⟩

/-- Every item is closed with its own events. -/
lemma Reflects.done (h : Reflects respId pieces s) (k : ℕ) :
    s.done.filter (fun e => e.outputIndex? = some k) =
      ((items pieces)[k]?).elim [] (fun g => doneEvents respId (g,k)) := by
  have htext : s.textItem.toList.flatMap TextItem.done =
      (items pieces).zipIdx.flatMap (fun q => (textEntry respId q).elim [] TextItem.done) := by
    rw [h.text,List.filterMap_eq_flatMap_toList,List.flatMap_assoc]
    congr 1
    funext q
    cases textEntry respId q <;> simp
  have htools : s.tools.flatMap (fun p => p.2.done) =
      (items pieces).zipIdx.flatMap (fun q => (toolEntry respId q).elim [] (fun p => p.2.done)) := by
    rw [h.tools,List.filterMap_eq_flatMap_toList,List.flatMap_assoc]
    congr 1
    funext q
    cases toolEntry respId q <;> simp
  unfold StreamState.done
  rw [List.filter_append,htext,htools,Gather.filter_flatMap_zipIdx Event.outputIndex? _ ?_ _ 0 k,
    Gather.filter_flatMap_zipIdx Event.outputIndex? _ ?_ _ 0 k,if_pos (Nat.zero_le k),if_pos (Nat.zero_le k),Nat.sub_zero]
  · cases (items pieces)[k]? with
    | none => rfl
    | some g =>
      obtain ⟨_ | i,ps⟩ := g
      · simp [textEntry,toolEntry,doneEvents]
      · simp [textEntry,toolEntry,doneEvents]
  · rintro ⟨⟨_ | i,ps⟩,k⟩ e he
    · cases he
    · simp only [toolEntry,Option.elim_some,ToolState.done,List.mem_cons,List.not_mem_nil,or_false] at he
      rcases he with rfl | rfl <;> simp [Event.outputIndex?]
  · rintro ⟨⟨_ | i,ps⟩,k⟩ e he
    · simp only [textEntry,Option.elim_some,TextItem.done,List.mem_cons,List.not_mem_nil,or_false] at he
      rcases he with rfl | rfl | rfl <;> rfl
    · cases he

end

end Compat
end Tierflow
