import Tierflow.Compat.ResponsesStream

/-! The calls of a response while no text has come. What the handler knows of them and has sent for them is a state of
its own, and a call is followed in it by its id through any events of other items. -/
namespace Tierflow
namespace Compat

/-! ## The calls alone -/

/-- What the handler knows of the calls, and the pieces that it has sent for them. -/
@[ext]
structure CallView where
  ids : List String
  nameById : String → String
  argsById : String → String
  nameSent : String → Bool
  canonical : String → String
  pieces : List ToolCallDelta

def sentPieces (chunks : List ChatChunk) : List ToolCallDelta := (choices chunks).flatMap (fun c => c.delta.toolCalls)

def ToChatState.view (s : ToChatState) : CallView :=
  ⟨s.toolCallIds,s.toolCallNameById,s.toolCallArgsById,s.toolCallNameSent,s.canonicalIdByItemId,sentPieces s.sent⟩

/-- What a call is followed by: its id, the id of its item and its name. -/
structure CallKey where
  id : String
  itemId : String
  name : String

def ResponsesOutput.callKey (o : ResponsesOutput) : CallKey :=
  ⟨o.effectiveId,Text.trimSpace o.id,Text.trimSpace o.name⟩

lemma ResponsesOutput.callKey_id (o : ResponsesOutput) : o.callKey.id = o.effectiveId := by
  simp only [ResponsesOutput.callKey]

lemma ResponsesOutput.callKey_itemId (o : ResponsesOutput) : o.callKey.itemId = Text.trimSpace o.id := by
  simp only [ResponsesOutput.callKey]

lemma ResponsesOutput.callKey_name (o : ResponsesOutput) : o.callKey.name = Text.trimSpace o.name := by
  simp only [ResponsesOutput.callKey]

namespace CallView

def put (v : CallView) (callId name argsDelta : String) : CallView :=
  let ids := if callId∈v.ids then v.ids else v.ids++[callId]
  let nameById := if name≠"" then Function.update v.nameById callId name else v.nameById
  let shown := if nameById callId≠"" ∧ v.nameSent callId = false then nameById callId else ""
  { v with
    ids := ids
    nameById := nameById
    nameSent := if shown≠"" then Function.update v.nameSent callId true else v.nameSent
    pieces := v.pieces++[⟨ids.idxOf callId,callId,"function",shown,argsDelta⟩] }

/-- What the item of a call is remembered for. -/
def noted (v : CallView) (key : CallKey) (arguments : String) : CallView :=
  { v with
    canonical :=
      if key.itemId≠"" ∧ key.id≠"" then Function.update v.canonical key.itemId key.id else v.canonical
    nameById := if key.name≠"" then Function.update v.nameById key.id key.name else v.nameById
    argsById := if arguments≠"" then Function.update v.argsById key.id arguments else v.argsById }

def item (v : CallView) (key : CallKey) (arguments : String) : CallView :=
  (v.noted key arguments).put key.id key.name (argsDelta arguments (v.argsById key.id))

def args (v : CallView) (callId delta : String) : CallView :=
  { v with argsById := Function.update v.argsById callId (v.argsById callId++delta) }.put callId "" delta

end CallView

section
variable {s : ToChatState}

@[simp] lemma send_toolCallIds (c : ChatChoice) : (s.send c).toolCallIds = s.toolCallIds := rfl
@[simp] lemma send_toolCallNameById (c : ChatChoice) : (s.send c).toolCallNameById = s.toolCallNameById := rfl
@[simp] lemma send_toolCallArgsById (c : ChatChoice) : (s.send c).toolCallArgsById = s.toolCallArgsById := rfl
@[simp] lemma send_toolCallNameSent (c : ChatChoice) : (s.send c).toolCallNameSent = s.toolCallNameSent := rfl
@[simp] lemma send_canonicalIdByItemId (c : ChatChoice) :
    (s.send c).canonicalIdByItemId = s.canonicalIdByItemId := rfl

lemma choices_send (s : ToChatState) (choice : ChatChoice) : choices (s.send choice).sent = choices s.sent++[choice] := by
  unfold choices ToChatState.send
  rw [List.flatMap_append]
  rfl

lemma sentPieces_send (s : ToChatState) (choice : ChatChoice) :
    sentPieces (s.send choice).sent = sentPieces s.sent++choice.delta.toolCalls := by
  unfold sentPieces
  rw [choices_send,List.flatMap_append,List.flatMap_singleton]

lemma view_sendStart (s : ToChatState) : s.sendStartIfNeeded.view = s.view := by
  unfold ToChatState.sendStartIfNeeded
  split_ifs
  · rfl
  · have hpieces : sentPieces (s.send startChoice).sent = sentPieces s.sent := by
      rw [sentPieces_send]
      exact List.append_nil _
    ext1 <;> first | rfl | exact hpieces

lemma outputText_sendStart (s : ToChatState) : s.sendStartIfNeeded.outputText = s.outputText := by
  unfold ToChatState.sendStartIfNeeded
  split_ifs <;> rfl

/-- Without a text the pieces of a call are sent. -/
lemma view_sendToolCallDelta {callId : String} (hid : callId≠"") (htext : s.outputText = "")
    (name argsDelta : String) : (s.sendToolCallDelta callId name argsDelta).view = s.view.put callId name argsDelta := by
  have hview := view_sendStart s
  unfold ToChatState.sendToolCallDelta
  rw [if_neg hid,if_neg (not_not.mpr htext)]
  generalize s.sendStartIfNeeded = t at hview
  rw [←hview]
  unfold CallView.put ToChatState.noteName ToChatState.indexCall ToChatState.toolPiece
  by_cases hmem : callId∈t.toolCallIds <;> by_cases hname : name = ""
  all_goals
    simp [hmem,hname,ToChatState.view,sentPieces_send,toolChoice]

lemma view_noteItem (o : ResponsesOutput) : (s.noteItem o).view =
    { s.view with
      canonical :=
        if Text.trimSpace o.id≠"" ∧ o.effectiveId≠"" then
          Function.update s.view.canonical (Text.trimSpace o.id) o.effectiveId
        else s.view.canonical } := by
  unfold ToChatState.noteItem
  simp only
  split_ifs <;> rfl

lemma view_noteName (callId name : String) : (s.noteName callId name).view =
    { s.view with
      nameById := if name≠"" then Function.update s.view.nameById callId name else s.view.nameById } := by
  unfold ToChatState.noteName
  split_ifs <;> rfl

lemma view_noteArgs (callId newArgs : String) : (s.noteArgs callId newArgs).view =
    { s.view with
      argsById := if newArgs≠"" then Function.update s.view.argsById callId newArgs else s.view.argsById } := by
  unfold ToChatState.noteArgs
  split_ifs <;> rfl

lemma view_outputItem (htext : s.outputText = "") {o : ResponsesOutput} (htype : o.type = "function_call")
    (hid : o.effectiveId≠"") : (s.outputItem o).view = s.view.item o.callKey o.argumentsString := by
  unfold ToChatState.outputItem
  rw [if_neg (not_not.mpr htype)]
  simp only
  have htext' : (((s.noteItem o).noteName o.effectiveId (Text.trimSpace o.name)).noteArgs o.effectiveId
      o.argumentsString).outputText = "" := by
    unfold ToChatState.noteArgs ToChatState.noteName ToChatState.noteItem
    simp only
    split_ifs <;> exact htext
  rw [view_sendToolCallDelta hid htext',view_noteArgs,view_noteName,view_noteItem]
  unfold CallView.item CallView.noted ResponsesOutput.callKey
  simp only
  rfl

lemma view_argumentsDelta (htext : s.outputText = "") (itemId delta : String) :
    (s.argumentsDelta itemId delta).view =
      if s.view.canonical (Text.trimSpace itemId)≠"" then s.view.args (s.view.canonical (Text.trimSpace itemId)) delta
      else if Text.trimSpace itemId≠"" then s.view.args (Text.trimSpace itemId) delta
      else s.view := by
  unfold ToChatState.argumentsDelta
  simp only
  have hsend : ∀ callId : String, callId≠"" →
      (ToChatState.sendToolCallDelta { s with
        toolCallArgsById := Function.update s.toolCallArgsById callId (s.toolCallArgsById callId++delta) }
          callId "" delta).view = s.view.args callId delta :=
    fun callId hid => (view_sendToolCallDelta (s:={ s with
      toolCallArgsById := Function.update s.toolCallArgsById callId (s.toolCallArgsById callId++delta) })
        hid htext "" delta).trans rfl
  have hcanonical : s.view.canonical = s.canonicalIdByItemId := rfl
  rw [hcanonical]
  by_cases hc : s.canonicalIdByItemId (Text.trimSpace itemId) = ""
  · rw [if_pos hc,if_neg (not_not.mpr hc)]
    by_cases hi : Text.trimSpace itemId = ""
    · rw [if_pos hi,if_neg (not_not.mpr hi)]
    · rw [if_neg hi,if_pos hi]
      exact hsend _ hi
  · rw [if_neg hc,if_neg hc,if_pos hc]
    exact hsend _ hc

end

/-! ## One call among others -/

namespace CallView

def piecesOf (v : CallView) (callId : String) : List ToolCallDelta := v.pieces.filter (fun p => p.id = callId)

/-- Every call has its own index, and all of its pieces carry it. -/
structure Sound (v : CallView) : Prop where
  nodup : v.ids.Nodup
  known : ∀ p∈v.pieces, p.id∈v.ids
  gathered : Gather.gather ToolCallDelta.index v.pieces = v.ids.zipIdx.map (fun q => (q.2,v.piecesOf q.1))
  typed : ∀ p∈v.pieces, p.type = "function"
  blank : v.canonical "" = ""

structure Unseen (v : CallView) (key : CallKey) : Prop where
  notMem : key.id∉v.ids
  unnamed : v.nameSent key.id = false
  args : v.argsById key.id = ""

/-- The call has been announced, and these arguments have been sent for it. -/
structure Tracks (v : CallView) (key : CallKey) (arguments : String) : Prop where
  mem : key.id∈v.ids
  named : v.nameSent key.id = true
  args : v.argsById key.id = arguments
  name : String.join ((v.piecesOf key.id).map ToolCallDelta.name) = key.name
  sent : String.join ((v.piecesOf key.id).map ToolCallDelta.arguments) = arguments
  canonical : key.itemId≠"" → v.canonical key.itemId = key.id

variable {v : CallView} {key : CallKey} {callId name argsDelta a : String}

lemma piecesOf_put_self : (v.put callId name argsDelta).piecesOf callId = v.piecesOf callId++
    [⟨(v.put callId name argsDelta).ids.idxOf callId,callId,"function",
      if (v.put callId name argsDelta).nameById callId≠"" ∧ v.nameSent callId = false then
        (v.put callId name argsDelta).nameById callId else "",argsDelta⟩] := by
  unfold piecesOf put
  rw [List.filter_append]
  simp

lemma piecesOf_put_of_ne {c : String} (h : c≠callId) : (v.put callId name argsDelta).piecesOf c = v.piecesOf c := by
  unfold piecesOf put
  rw [List.filter_append]
  simp [Ne.symm h]

lemma ids_put_of_mem (h : callId∈v.ids) : (v.put callId name argsDelta).ids = v.ids := if_pos h

lemma ids_put_of_notMem (h : callId∉v.ids) : (v.put callId name argsDelta).ids = v.ids++[callId] := if_neg h

lemma mem_ids_put : callId∈(v.put callId name argsDelta).ids := by
  by_cases h : callId∈v.ids
  · rwa [ids_put_of_mem h]
  · rw [ids_put_of_notMem h]
    simp

lemma mem_ids_put_of_ne {c : String} (h : c≠callId) : c∈(v.put callId name argsDelta).ids ↔ c∈v.ids := by
  by_cases hm : callId∈v.ids
  · rw [ids_put_of_mem hm]
  · rw [ids_put_of_notMem hm]
    simp [h]

lemma nameSent_put_of_ne {c : String} (h : c≠callId) : (v.put callId name argsDelta).nameSent c = v.nameSent c := by
  unfold put
  simp only
  split_ifs
  all_goals first | rfl | exact Function.update_of_ne h _ _

lemma nameSent_put_of_sent (h : v.nameSent callId = true) : (v.put callId name argsDelta).nameSent callId = true := by
  unfold put
  simp only
  split_ifs
  all_goals first | exact h | exact Function.update_self _ _ _

/-- A new piece joins the group of its call. -/
lemma Sound.put (h : v.Sound) : (v.put callId name argsDelta).Sound := by
  have hself : (v.put callId name argsDelta).piecesOf callId = _ := piecesOf_put_self
  have hpieces : (v.put callId name argsDelta).pieces = v.pieces++
      [⟨(v.put callId name argsDelta).ids.idxOf callId,callId,"function",
        if (v.put callId name argsDelta).nameById callId≠"" ∧ v.nameSent callId = false then
          (v.put callId name argsDelta).nameById callId else "",argsDelta⟩] := rfl
  set w := v.put callId name argsDelta with hw
  set p : ToolCallDelta := ⟨w.ids.idxOf callId,callId,"function",
    if w.nameById callId≠"" ∧ v.nameSent callId = false then w.nameById callId else "",argsDelta⟩ with hp
  have hkeys : (v.ids.zipIdx.map (fun q => (q.2,v.piecesOf q.1))).map Prod.fst = List.range v.ids.length := by
    rw [List.map_map,List.range_eq_range',←List.zipIdx_map_snd 0 v.ids]
    rfl
  constructor
  case nodup =>
    by_cases hm : callId∈v.ids
    · rw [hw,ids_put_of_mem hm]
      exact h.nodup
    · rw [hw,ids_put_of_notMem hm,List.nodup_append]
      refine ⟨h.nodup,List.nodup_singleton _,?_⟩
      rintro c hc c' hc' rfl
      exact hm (List.mem_singleton.mp hc' ▸ hc)
  case known =>
    intro q hq
    rw [hpieces] at hq
    rcases List.mem_append.mp hq with hq | hq
    · by_cases hqc : q.id = callId
      · rw [hqc]
        exact mem_ids_put
      · exact (mem_ids_put_of_ne hqc).mpr (h.known q hq)
    · rw [List.mem_singleton.mp hq]
      exact mem_ids_put
  case gathered =>
    rw [hpieces,Gather.gather_concat,h.gathered]
    by_cases hm : callId∈v.ids
    · have hids : w.ids = v.ids := ids_put_of_mem hm
      have hlt : v.ids.idxOf callId < v.ids.length := List.idxOf_lt_length_of_mem hm
      have hmem : ToolCallDelta.index p∈(v.ids.zipIdx.map (fun q => (q.2,v.piecesOf q.1))).map Prod.fst := by
        rw [hkeys,List.mem_range,hp,hids]
        exact hlt
      rw [Gather.add_of_mem hmem,hids,List.map_map]
      apply List.map_congr_left
      rintro ⟨c,i⟩ hq
      have hget : v.ids[i]? = some c := List.mk_mem_zipIdx_iff_getElem?.mp hq
      have hiff : i = v.ids.idxOf callId ↔ c = callId := by
        constructor
        · rintro rfl
          rw [List.getElem?_eq_getElem hlt,List.getElem_idxOf] at hget
          exact (Option.some.inj hget).symm
        · rintro rfl
          obtain ⟨hi,rfl⟩ := List.getElem?_eq_some_iff.mp hget
          exact (h.nodup.idxOf_getElem i hi).symm
      simp only [Function.comp_apply,hp,hids]
      by_cases hc : c = callId
      · rw [if_pos (hiff.mpr hc),hc,hself,hp,hids]
      · rw [if_neg (fun hi => hc (hiff.mp hi)),hw,piecesOf_put_of_ne hc]
    · have hids : w.ids = v.ids++[callId] := ids_put_of_notMem hm
      have hindex : ToolCallDelta.index p = v.ids.length := by
        rw [hp,hids,List.idxOf_append_of_notMem hm]
        simp
      have hnot : ToolCallDelta.index p∉(v.ids.zipIdx.map (fun q => (q.2,v.piecesOf q.1))).map Prod.fst := by
        rw [hkeys,List.mem_range,hindex]
        exact lt_irrefl _
      have hnone : v.piecesOf callId = [] := by
        apply List.filter_eq_nil_iff.mpr
        intro q hq hqc
        exact hm (of_decide_eq_true hqc ▸ h.known q hq)
      rw [Gather.add_of_notMem hnot,hids,List.zipIdx_append,List.map_append,hindex]
      congr 1
      · apply List.map_congr_left
        rintro ⟨c,i⟩ hq
        have hc : c≠callId := by
          rintro rfl
          exact hm (List.mem_of_getElem? (List.mk_mem_zipIdx_iff_getElem?.mp hq))
        rw [hw,piecesOf_put_of_ne hc]
      · rw [List.zipIdx_singleton,List.map_singleton,hself,hnone,Nat.zero_add]
        rfl
  case typed =>
    intro q hq
    rw [hpieces] at hq
    rcases List.mem_append.mp hq with hq | hq
    · exact h.typed q hq
    · rw [List.mem_singleton.mp hq]
  case blank => exact h.blank

lemma argsDelta_append (a rest : String) : Compat.argsDelta (a++rest) a = rest := by
  unfold Compat.argsDelta
  split_ifs with h
  · exact (String.append_eq_empty_iff.mp h).2.symm
  · rw [Text.cutPrefix_append,Option.getD_some]

/-- A call that has been announced is sent some more of its arguments. -/
lemma tracks_put (hnamed : v.nameSent key.id = true)
    (hname : String.join ((v.piecesOf key.id).map ToolCallDelta.name) = key.name)
    (hsent : String.join ((v.piecesOf key.id).map ToolCallDelta.arguments) = a)
    (hcanonical : key.itemId≠"" → v.canonical key.itemId = key.id) (hargs : v.argsById key.id = a++argsDelta) :
    (v.put key.id name argsDelta).Tracks key (a++argsDelta) := by
  have hshown : (if (v.put key.id name argsDelta).nameById key.id≠"" ∧ v.nameSent key.id = false then
      (v.put key.id name argsDelta).nameById key.id else "") = "" := if_neg (by simp [hnamed])
  constructor
  case mem => exact mem_ids_put
  case named => exact nameSent_put_of_sent hnamed
  case args => exact hargs
  case name =>
    rw [piecesOf_put_self,hshown,List.map_append,String.join_append,hname]
    simp
  case sent =>
    rw [piecesOf_put_self,List.map_append,String.join_append,hsent]
    simp
  case canonical => exact hcanonical

/-- The first piece of a call has its name. -/
lemma tracks_put_first (hs : v.Sound) (hnot : key.id∉v.ids) (hunnamed : v.nameSent key.id = false)
    (hname : (v.put key.id name argsDelta).nameById key.id = key.name) (hne : key.name≠"")
    (hcanonical : key.itemId≠"" → v.canonical key.itemId = key.id) (hargs : v.argsById key.id = argsDelta) :
    (v.put key.id name argsDelta).Tracks key argsDelta := by
  have hnone : v.piecesOf key.id = [] := by
    apply List.filter_eq_nil_iff.mpr
    intro q hq hqc
    exact hnot (of_decide_eq_true hqc ▸ hs.known q hq)
  have hshown : (if (v.put key.id name argsDelta).nameById key.id≠"" ∧ v.nameSent key.id = false then
      (v.put key.id name argsDelta).nameById key.id else "") = key.name := by
    rw [if_pos ⟨by rwa [hname],hunnamed⟩,hname]
  constructor
  case mem => exact mem_ids_put
  case named =>
    show (if (if (v.put key.id name argsDelta).nameById key.id≠"" ∧ v.nameSent key.id = false then
      (v.put key.id name argsDelta).nameById key.id else "")≠"" then
        Function.update v.nameSent key.id true else v.nameSent) key.id = true
    rw [hshown,if_pos hne]
    exact Function.update_self _ _ _
  case args => exact hargs
  case name =>
    rw [piecesOf_put_self,hshown,hnone]
    simp
  case sent =>
    rw [piecesOf_put_self,hnone]
    simp
  case canonical => exact hcanonical

section
variable {arguments rest : String}

lemma Sound.noted (h : v.Sound) (key : CallKey) (arguments : String) : (v.noted key arguments).Sound := by
  refine ⟨h.nodup,h.known,h.gathered,h.typed,?_⟩
  unfold CallView.noted
  simp only
  split_ifs with hid
  · rw [Function.update_of_ne (Ne.symm hid.1)]
    exact h.blank
  · exact h.blank

lemma Sound.item (h : v.Sound) (key : CallKey) (arguments : String) : (v.item key arguments).Sound :=
  (h.noted key arguments).put

lemma noted_canonical (hid : key.id≠"") (hitem : key.itemId≠"") :
    (v.noted key arguments).canonical key.itemId = key.id := by
  unfold noted
  simp only
  rw [if_pos ⟨hitem,hid⟩]
  exact Function.update_self _ _ _

lemma noted_args (ha : v.argsById key.id = a) : (v.noted key (a++rest)).argsById key.id = a++rest := by
  unfold noted
  simp only
  split_ifs with hne
  · exact Function.update_self _ _ _
  · obtain ⟨rfl,rfl⟩ := String.append_eq_empty_iff.mp (not_not.mp hne)
    exact ha

lemma put_nameById (hname : name≠"") : (v.put callId name argsDelta).nameById callId = name := by
  unfold put
  simp only
  rw [if_pos hname]
  exact Function.update_self _ _ _

/-- The first event with the item of a call announces it. -/
lemma tracks_item_first (hs : v.Sound) (hid : key.id≠"") (hname : key.name≠"") (hun : v.Unseen key)
    (arguments : String) : (v.item key arguments).Tracks key arguments := by
  have hargs : (v.noted key arguments).argsById key.id = arguments := by
    have h : (v.noted key (""++arguments)).argsById key.id = ""++arguments := noted_args hun.args
    rwa [String.empty_append] at h
  have hdelta : Compat.argsDelta arguments "" = arguments := by
    have h := argsDelta_append "" arguments
    rwa [String.empty_append] at h
  unfold item
  rw [hun.args,hdelta]
  exact tracks_put_first (hs.noted key arguments) hun.notMem hun.unnamed (put_nameById hname) hname
    (noted_canonical hid) hargs

/-- A later one brings what is new in its arguments. -/
lemma tracks_item (hid : key.id≠"") (ht : v.Tracks key a) (rest : String) :
    (v.item key (a++rest)).Tracks key (a++rest) := by
  unfold item
  rw [ht.args,argsDelta_append]
  exact tracks_put (v:=v.noted key (a++rest)) ht.named ht.name ht.sent (noted_canonical hid) (noted_args ht.args)

/-- An event with some arguments of a call. -/
lemma tracks_args (h : v.Tracks key a) (delta : String) : (v.args key.id delta).Tracks key (a++delta) := by
  unfold args
  refine tracks_put h.named h.name h.sent h.canonical ?_
  exact (Function.update_self _ _ _).trans (by rw [h.args])

lemma Sound.args (h : v.Sound) (callId delta : String) : (v.args callId delta).Sound := by
  have hs : Sound { v with argsById := Function.update v.argsById callId (v.argsById callId++delta) } :=
    ⟨h.nodup,h.known,h.gathered,h.typed,h.blank⟩
  exact hs.put

/-! ## The other calls -/

/-- Nothing of this call has changed. -/
structure Same (v w : CallView) (key : CallKey) : Prop where
  mem : key.id∈w.ids ↔ key.id∈v.ids
  named : w.nameSent key.id = v.nameSent key.id
  args : w.argsById key.id = v.argsById key.id
  pieces : w.piecesOf key.id = v.piecesOf key.id
  canonical : key.itemId≠"" → w.canonical key.itemId = v.canonical key.itemId

lemma Same.unseen {w : CallView} (h : Same v w key) (hu : v.Unseen key) : w.Unseen key :=
  ⟨fun hm => hu.notMem (h.mem.mp hm),h.named.trans hu.unnamed,h.args.trans hu.args⟩

lemma Same.tracks {w : CallView} (h : Same v w key) (ht : v.Tracks key a) : w.Tracks key a :=
  ⟨h.mem.mpr ht.mem,h.named.trans ht.named,h.args.trans ht.args,by rw [h.pieces,ht.name],by rw [h.pieces,ht.sent],
    fun hi => (h.canonical hi).trans (ht.canonical hi)⟩

lemma same_put (h : key.id≠callId) : Same v (v.put callId name argsDelta) key :=
  ⟨mem_ids_put_of_ne h,nameSent_put_of_ne h,rfl,piecesOf_put_of_ne h,fun _ => rfl⟩

lemma same_item {other : CallKey} (hid : key.id≠other.id) (hitem : key.itemId≠"" → key.itemId≠other.itemId)
    (arguments : String) : Same v (v.item other arguments) key := by
  have hput : Same (v.noted other arguments) (v.item other arguments) key := same_put hid
  refine ⟨hput.mem,hput.named,?_,hput.pieces,?_⟩
  · refine hput.args.trans ?_
    unfold noted
    simp only
    split_ifs
    · exact Function.update_of_ne hid _ _
    · rfl
  · intro hi
    refine (hput.canonical hi).trans ?_
    unfold noted
    simp only
    split_ifs
    · exact Function.update_of_ne (hitem hi) _ _
    · rfl

lemma same_args (hid : key.id≠callId) (delta : String) : Same v (v.args callId delta) key := by
  have hput : Same { v with argsById := Function.update v.argsById callId (v.argsById callId++delta) }
      (v.args callId delta) key := same_put hid
  exact ⟨hput.mem,hput.named,hput.args.trans (Function.update_of_ne hid _ _),hput.pieces,hput.canonical⟩

/-- One call has moved on to these arguments, and no other call has changed. -/
structure Moved (v w : CallView) (key : CallKey) (ids : List String) (arguments : String) : Prop where
  sound : w.Sound
  ids : w.ids = ids
  tracks : w.Tracks key arguments
  same : ∀ other : CallKey, other.id≠key.id → (other.itemId≠"" → other.itemId≠key.itemId) → Same v w other

lemma moved_refl (hs : v.Sound) (ht : v.Tracks key a) : Moved v v key v.ids a :=
  ⟨hs,rfl,ht,fun _ _ _ => ⟨Iff.rfl,rfl,rfl,rfl,fun _ => rfl⟩⟩

lemma moved_first (hs : v.Sound) (hid : key.id≠"") (hname : key.name≠"") (hun : v.Unseen key) (arguments : String) :
    Moved v (v.item key arguments) key (v.ids++[key.id]) arguments :=
  ⟨hs.item key arguments,ids_put_of_notMem hun.notMem,tracks_item_first hs hid hname hun arguments,
    fun _ ho hi => same_item ho hi arguments⟩

lemma moved_item (hs : v.Sound) (hid : key.id≠"") (ht : v.Tracks key a) (rest : String) :
    Moved v (v.item key (a++rest)) key v.ids (a++rest) :=
  ⟨hs.item key _,ids_put_of_mem ht.mem,tracks_item hid ht rest,fun _ ho hi => same_item ho hi _⟩

lemma moved_args (hs : v.Sound) (ht : v.Tracks key a) (delta : String) :
    Moved v (v.args key.id delta) key v.ids (a++delta) :=
  ⟨hs.args key.id delta,ids_put_of_mem ht.mem,tracks_args ht delta,fun _ ho _ => same_args ho delta⟩

end

end CallView

end Compat
end Tierflow
