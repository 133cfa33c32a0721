import Tierflow.Compat.ChatStreamItems
import Tierflow.Compat.ResponseRoundTrip

/-! A streamed completion against a whole one: the output of the stream has the items of the whole response exactly
when the items appear in its order and are complete in their first pieces. -/
namespace Tierflow
namespace Compat

/-! ## What a call becomes -/

/-- The namespace and the name that a name stands for. -/
def spoken (name : String) : String × String := (decodeResponsesNamespaceToolName name).getD ("",name)

def firstName (tcs : List ToolCallPiece) : String := ((tcs.map ToolCallPiece.name).find? (fun s : String => s≠"")).getD ""

/-- The first id that is one, other than the id of the item. -/
def firstId (itemId : String) (tcs : List ToolCallPiece) : String :=
  ((tcs.map ToolCallPiece.id).find? (fun s : String => s≠"" ∧ s≠itemId)).getD itemId

section
variable {st : ToolState} {tc : ToolCallPiece} {tcs : List ToolCallPiece} {respId : String} {k : ℕ}

lemma textOfBytes_ne_nil {bytes : List ℕ} (h : bytes≠[]) : textOfBytes 0 bytes≠[] := by
  obtain ⟨a,rest,rfl⟩ := List.exists_cons_of_ne_nil h
  rw [textOfBytes]
  exact List.cons_ne_nil _ _

/-- A name that was encoded is no empty one. -/
lemma decode_name_ne {encoded : String} {p : String × String}
    (h : decodeResponsesNamespaceToolName encoded = some p) : p.2≠"" := by
  unfold decodeResponsesNamespaceToolName at h
  split at h
  · cases h
  · split at h
    · split_ifs at h
      split at h
      · split_ifs at h with hempty
        · rw [←Option.some.inj h]
          intro heq
          have hl := congrArg String.toList heq
          rw [String.toList_ofList] at hl
          exact textOfBytes_ne_nil (fun hn => hempty (.inr hn)) hl
      · cases h
    · cases h

lemma spoken_snd_eq_empty {name : String} : (spoken name).2 = "" ↔ name = "" := by
  unfold spoken
  cases h : decodeResponsesNamespaceToolName name with
  | none => rfl
  | some p =>
    refine iff_of_false (decode_name_ne h) ?_
    rintro rfl
    rw [show decodeResponsesNamespaceToolName "" = none by decide] at h
    cases h

lemma absorb_args (st : ToolState) (tc : ToolCallPiece) : (st.absorb tc).args = st.args++tc.arguments := by
  have hcall : ((st.setCallId tc).setName tc).args = st.args := by
    unfold ToolState.setName ToolState.setCallId
    repeat' split
    all_goals rfl
  unfold ToolState.absorb ToolState.addArguments
  split_ifs with h
  · rw [←hcall]
  · rw [hcall,not_not.mp h,String.append_empty]

lemma absorb_callId (st : ToolState) (tc : ToolCallPiece) :
    (st.absorb tc).callId = if tc.id≠"" ∧ st.callId = st.itemId then tc.id else st.callId := by
  have hname : ∀ st : ToolState, ((st.setName tc).addArguments tc).callId = st.callId := by
    intro st
    unfold ToolState.addArguments ToolState.setName
    repeat' split
    all_goals rfl
  unfold ToolState.absorb
  rw [hname]
  unfold ToolState.setCallId
  split_ifs <;> rfl

/-- What a call is named after a piece, if it had no namespace without a name. -/
lemma absorb_name (tc : ToolCallPiece) (hst : st.name = "" → st.namespaceName = "") :
    ((st.absorb tc).namespaceName,(st.absorb tc).name) =
      if st.name = "" then spoken tc.name else (st.namespaceName,st.name) := by
  have hid : (st.setCallId tc).name = st.name ∧ (st.setCallId tc).namespaceName = st.namespaceName := by
    unfold ToolState.setCallId
    split_ifs <;> exact ⟨rfl,rfl⟩
  have hargs : ∀ st : ToolState, (st.addArguments tc).name = st.name ∧
      (st.addArguments tc).namespaceName = st.namespaceName := by
    intro st
    unfold ToolState.addArguments
    split_ifs <;> exact ⟨rfl,rfl⟩
  unfold ToolState.absorb
  rw [(hargs _).1,(hargs _).2]
  unfold ToolState.setName spoken
  rw [hid.1]
  by_cases hname : st.name = ""
  · rw [if_pos hname]
    by_cases htc : tc.name = ""
    · rw [if_neg (by simp [htc]),hid.1,hid.2,hname,hst hname,htc]
      decide
    · rw [if_pos ⟨htc,hname⟩]
      cases decodeResponsesNamespaceToolName tc.name with
      | none => simp [hid.2,hst hname]
      | some p => rfl
  · rw [if_neg hname,if_neg (by simp [hname]),hid.1,hid.2]

lemma foldl_absorb_args (tcs : List ToolCallPiece) (st : ToolState) :
    (tcs.foldl ToolState.absorb st).args = st.args++String.join (tcs.map ToolCallPiece.arguments) := by
  induction tcs generalizing st with
  | nil => simp
  | cons tc tcs ih => rw [List.foldl_cons,ih,absorb_args,List.map_cons,String.join_cons,String.append_assoc]

lemma foldl_absorb_callId (tcs : List ToolCallPiece) (st : ToolState) :
    (tcs.foldl ToolState.absorb st).callId = if st.callId = st.itemId then firstId st.itemId tcs else st.callId := by
  induction tcs generalizing st with
  | nil =>
    simp only [List.foldl_nil,firstId,List.map_nil,List.find?_nil,Option.getD_none]
    split_ifs with h
    · exact h
    · rfl
  | cons tc tcs ih =>
    rw [List.foldl_cons,ih,absorb_callId,absorb_itemId]
    by_cases hst : st.callId = st.itemId
    · by_cases hid : tc.id≠"" ∧ tc.id≠st.itemId
      · simp [hst,hid.1,hid.2,firstId]
      · by_cases hne : tc.id = ""
        · simp [hst,hne,firstId]
        · have heq : tc.id = st.itemId := by tauto
          simp [hst,heq,firstId]
    · simp [hst]

lemma foldl_absorb_name (tcs : List ToolCallPiece) (st : ToolState) (hst : st.name = "" → st.namespaceName = "") :
    ((tcs.foldl ToolState.absorb st).namespaceName,(tcs.foldl ToolState.absorb st).name) =
      if st.name = "" then spoken (firstName tcs) else (st.namespaceName,st.name) := by
  induction tcs generalizing st with
  | nil =>
    split_ifs with h
    · rw [List.foldl_nil,h,hst h]
      decide
    · rfl
  | cons tc tcs ih =>
    have habsorb := absorb_name tc hst
    rw [List.foldl_cons]
    by_cases hname : st.name = ""
    · rw [if_pos hname] at habsorb ⊢
      have hsnd : (st.absorb tc).name = (spoken tc.name).2 := congrArg Prod.snd habsorb
      by_cases htc : tc.name = ""
      · have hstill : (st.absorb tc).name = "" := by rw [hsnd,htc]; decide
        have hspace : (st.absorb tc).namespaceName = "" := by
          rw [show (st.absorb tc).namespaceName = (spoken tc.name).1 from congrArg Prod.fst habsorb,htc]
          decide
        rw [ih _ (fun _ => hspace),if_pos hstill]
        simp [firstName,htc]
      · have hnot : (st.absorb tc).name≠"" := by rw [hsnd]; exact fun h => htc (spoken_snd_eq_empty.mp h)
        rw [ih _ (fun h => absurd h hnot),if_neg hnot,habsorb]
        simp [firstName,htc]
    · rw [if_neg hname] at habsorb ⊢
      have hsnd : (st.absorb tc).name = st.name := congrArg Prod.snd habsorb
      rw [ih _ (fun h => absurd (hsnd ▸ h) hname),if_neg (by rwa [hsnd]),habsorb]

lemma held_args : (held respId k tcs).args = String.join (tcs.map ToolCallPiece.arguments) := by
  unfold held
  rw [foldl_absorb_args]
  exact String.empty_append

/-- The id that a call is opened with counts as the first. -/
lemma firstId_opened (itemId : String) (tc : ToolCallPiece) (tcs : List ToolCallPiece) :
    (if (if tc.id = "" then itemId else tc.id) = itemId then firstId itemId (tc::tcs)
      else if tc.id = "" then itemId else tc.id) = firstId itemId (tc::tcs) := by
  by_cases hid : tc.id = ""
  · simp [hid]
  · by_cases heq : tc.id = itemId
    · simp [heq]
    · simp [hid,heq,firstId]

/-- The first id that arrives stays, and none of them if all are empty. -/
lemma held_callId (h : tcs≠[]) :
    (held respId k tcs).callId = firstId ("fc_"++respId++"_"++Text.printNat k) tcs := by
  obtain ⟨tc,tcs,rfl⟩ := List.exists_cons_of_ne_nil h
  unfold held
  rw [foldl_absorb_callId]
  exact firstId_opened _ tc tcs

/-- The first name that arrives stays. -/
lemma held_name (h : tcs≠[]) :
    ((held respId k tcs).namespaceName,(held respId k tcs).name) = spoken (firstName tcs) := by
  obtain ⟨tc,tcs,rfl⟩ := List.exists_cons_of_ne_nil h
  have hname : (ToolState.fresh respId k tc).name = (spoken tc.name).2 := rfl
  have hspace : (ToolState.fresh respId k tc).namespaceName = (spoken tc.name).1 := rfl
  unfold held
  rw [List.headD_cons,foldl_absorb_name]
  · by_cases htc : tc.name = ""
    · rw [hname,if_pos (spoken_snd_eq_empty.mpr htc)]
    · rw [hname,hspace,if_neg (fun h => htc (spoken_snd_eq_empty.mp h))]
      simp [firstName,htc]
  · intro h
    rw [hname] at h
    rw [hspace,spoken_snd_eq_empty.mp h]
    decide

end

/-! ## The whole response -/

/-- A call that the whole response has an item for. -/
structure ToolCall.Offered (tc : ToolCall) : Prop where
  type : tc.type = "" ∨ tc.type = "function"
  name : Text.trimSpace tc.name≠""

/-- The call id that the whole response has for this call. -/
def wholeCallId (respId : String) (tc : ToolCall) (i : ℕ) : String :=
  if Text.trimSpace tc.id = "" then "call_"++respId++"_"++Text.printNat i else Text.trimSpace tc.id

lemma callOutput_of_offered {respId : String} {tc : ToolCall} (h : tc.Offered) (i : ℕ) :
    callOutput respId tc i = some ⟨"function_call","fc_"++respId++"_"++Text.printNat i,"completed","",[],
      wholeCallId respId tc i,(spoken (Text.trimSpace tc.name)).2,(spoken (Text.trimSpace tc.name)).1,
        .string tc.arguments⟩ := by
  have htype : ¬(tc.type≠"" ∧ tc.type≠"function") := fun hn => h.type.elim hn.1 hn.2
  simp only [callOutput,if_neg htype,if_neg h.name,spoken,wholeCallId,argumentsStringToRaw]

lemma callOutput_of_not_offered {respId : String} {tc : ToolCall} (h : ¬tc.Offered) (i : ℕ) :
    callOutput respId tc i = none := by
  unfold callOutput
  by_cases htype : tc.type≠"" ∧ tc.type≠"function"
  · rw [if_pos htype]
  · rw [if_neg htype]
    by_cases hname : Text.trimSpace tc.name = ""
    · exact if_pos hname
    · have hfunction : tc.type = "" ∨ tc.type = "function" := by
        by_contra hn
        exact htype (not_or.mp hn)
      exact absurd ⟨hfunction,hname⟩ h

/-- What a message has items for, in their order: its text, if there is one, and its calls with their numbers. -/
def wholeItems (m : Message) : List (Option (ToolCall × ℕ)) :=
  (if m.stringContent≠"" then [none] else [])++m.toolCalls.zipIdx.map some

def wholeItem (respId : String) (m : Message) : Option (ToolCall × ℕ) → Option ResponsesOutput
  | none => some (textOutput respId m.stringContent)
  | some (tc,i) => callOutput respId tc i

lemma messageOutputs_eq (respId : String) (m : Message) :
    messageOutputs respId m.stringContent m.toolCalls = (wholeItems m).filterMap (wholeItem respId m) := by
  unfold messageOutputs wholeItems
  rw [List.filterMap_append,List.filterMap_map]
  congr 1
  split_ifs <;> rfl

/-! ## Agreement -/

/-- The same item, with another item id; a call id is the same, or generated on both sides. -/
structure SameItem (a b : ResponsesOutput) : Prop where
  type : a.type = b.type
  status : a.status = b.status
  role : a.role = b.role
  content : a.content = b.content
  callId : a.callId = b.callId ∨ (a.callId = a.id ∧ ∃ suffix, b.id = "fc_"++suffix ∧ b.callId = "call_"++suffix)
  name : a.name = b.name
  namespaceName : a.namespaceName = b.namespaceName
  arguments : a.arguments = b.arguments

/-- All events about an item, from first to last, and the item at the end. -/
inductive Lifetime (k : ℕ) : ResponsesOutput → List Event → Prop
  | message (id : String) (deltas : List String) :
      Lifetime k (messageItem id "completed" [⟨"output_text",String.join deltas⟩])
        ([.itemAdded k (messageItem id "in_progress" []),.partAdded id k]++deltas.map (.textDelta id k)++
          [.textDone id k (String.join deltas),.partDone id k (String.join deltas),
            .itemDone k (messageItem id "completed" [⟨"output_text",String.join deltas⟩])])
  | call (id callId name namespaceName callId' name' namespaceName' : String) (deltas : List String) :
      Lifetime k (callItem id "completed" callId' name' namespaceName' (String.join deltas))
        ([.itemAdded k (callItem id "in_progress" callId name namespaceName "")]++deltas.map (.argumentsDelta id k)++
          [.argumentsDone id k (String.join deltas),
            .itemDone k (callItem id "completed" callId' name' namespaceName' (String.join deltas))])

/-- The chunks are a cutting of the message: its text, and every call in its slot. -/
structure Cuts (chunks : List Chunk) (m : Message) : Prop where
  text : String.join ((chunkPieces chunks).filterMap Piece.text?) = m.stringContent
  slots : ∀ i : ℤ, (∃ tc∈(chunkPieces chunks).filterMap Piece.tool?, tc.slot = i) ↔ ∃ k < m.toolCalls.length, i = k
  calls : ∀ (k : ℕ) (call : ToolCall), m.toolCalls[k]? = some call →
    let tcs := ((chunkPieces chunks).filterMap Piece.tool?).filter (fun tc => tc.slot = (k : ℤ))
    String.join (tcs.map ToolCallPiece.id) = call.id ∧ String.join (tcs.map ToolCallPiece.name) = call.name ∧
      String.join (tcs.map ToolCallPiece.arguments) = call.arguments

/-- The stream announces every item, ends it with all of its deltas, and its output is the whole response's. -/
def Agrees (estimate : String → Usage) (respId model : String) (chunks : List Chunk) (resp : OpenAITextResponse)
    (createdAt : ℤ) : Prop :=
  ∃ events usage model' output shown mid u,
    oaiChatToResponsesStreamHandler estimate respId model chunks = (events,usage) ∧
    events.getLast? = some (.completed model' output shown) ∧
    chatCompletionsResponseToResponsesResponse (some resp) respId createdAt = .ok (mid,u) ∧
    (∀ k, (output[k]?).elim (events.filter (fun e => e.outputIndex? = some k) = [])
      (fun item => Lifetime k item (events.filter (fun e => e.outputIndex? = some k)))) ∧
    List.Forall₂ SameItem output mid.output

/-- The pieces of a slot, the `k`-th item to appear, deliver the call with this number: its arguments, its name in the
first piece with a name, and its id in the first piece with an id. -/
structure Delivers (respId : String) (k : ℕ) (tcs : List ToolCallPiece) (call : ToolCall) (i : ℕ) : Prop where
  offered : call.Offered
  name : spoken (firstName tcs) = spoken (Text.trimSpace call.name)
  arguments : String.join (tcs.map ToolCallPiece.arguments) = call.arguments
  id : firstId ("fc_"++respId++"_"++Text.printNat k) tcs = wholeCallId respId call i ∨
    (firstId ("fc_"++respId++"_"++Text.printNat k) tcs = "fc_"++respId++"_"++Text.printNat k ∧
      wholeCallId respId call i = "call_"++respId++"_"++Text.printNat i)

/-- Text appears where the text belongs, and a call where it is delivered. -/
def Arrives (respId : String) : (Option ℤ × List Piece) × ℕ → Option (ToolCall × ℕ) → Prop
  | ((none,_),_),none => True
  | ((some _,ps),k),some (call,i) => Delivers respId k (ps.filterMap Piece.tool?) call i
  | _,_ => False

section
variable {respId : String} {m : Message} {chunks : List Chunk}

lemma generated_eq (kind respId number : String) : kind++respId++"_"++number = kind++(respId++"_"++number) := by
  simp only [String.append_assoc]

/-- An item of the text is the same in both. -/
lemma sameItem_text {k : ℕ} {deltas : List String} (h : String.join deltas = m.stringContent) :
    SameItem (heldText respId k deltas).item (textOutput respId m.stringContent) := by
  rw [←h]
  exact ⟨rfl,rfl,rfl,rfl,.inl rfl,rfl,rfl,rfl⟩

/-- What makes the item of a call the same as another. -/
lemma sameItem_item_iff (st : ToolState) (id callId name namespaceName arguments : String) :
    SameItem st.item ⟨"function_call",id,"completed","",[],callId,name,namespaceName,.string arguments⟩ ↔
      (st.callId = callId ∨ (st.callId = st.itemId ∧ ∃ suffix, id = "fc_"++suffix ∧ callId = "call_"++suffix)) ∧
        (st.namespaceName,st.name) = (namespaceName,name) ∧ st.args = arguments := by
  constructor
  · intro h
    exact ⟨h.callId,Prod.ext h.namespaceName h.name,RawMessage.string.inj h.arguments⟩
  · rintro ⟨hid,hname,harguments⟩
    obtain ⟨hspace,hname⟩ := Prod.mk.inj hname
    exact ⟨rfl,rfl,rfl,rfl,hid,hname,hspace,congrArg RawMessage.string harguments⟩

/-- The item of a call is the same in both exactly when the call is delivered. -/
lemma sameItem_call_iff {k i : ℕ} {tcs : List ToolCallPiece} (hne : tcs≠[]) (call : ToolCall) :
    (∃ b, callOutput respId call i = some b ∧ SameItem (held respId k tcs).item b) ↔
      Delivers respId k tcs call i := by
  by_cases hoffered : call.Offered
  · have hgenerated : (∃ suffix, "fc_"++respId++"_"++Text.printNat i = "fc_"++suffix ∧
        wholeCallId respId call i = "call_"++suffix) ↔
        wholeCallId respId call i = "call_"++respId++"_"++Text.printNat i := by
      rw [generated_eq "fc_",generated_eq "call_"]
      simp only [String.append_right_inj]
      exact ⟨fun ⟨suffix,hs,h⟩ => hs ▸ h,fun h => ⟨_,rfl,h⟩⟩
    rw [callOutput_of_offered hoffered]
    simp only [Option.some.injEq,exists_eq_left']
    rw [sameItem_item_iff,hgenerated,held_callId hne,held_name hne,held_args,held_itemId,Prod.mk.eta]
    exact ⟨fun ⟨hid,hname,harguments⟩ => ⟨hoffered,hname,harguments,hid⟩,fun h => ⟨h.id,h.name,h.arguments⟩⟩
  · rw [callOutput_of_not_offered hoffered]
    refine iff_of_false ?_ (fun h => hoffered h.offered)
    rintro ⟨b,hb,-⟩
    cases hb

/-- Pieces of text are not empty. -/
lemma ne_empty_of_mem_texts {delta : String} (h : delta∈(chunkPieces chunks).filterMap Piece.text?) : delta≠"" := by
  obtain ⟨p,hp,hdelta⟩ := List.mem_filterMap.mp h
  obtain ⟨c,-,hc⟩ := List.mem_flatMap.mp hp
  obtain ⟨d,-,hd⟩ := List.mem_flatMap.mp hc
  cases p with
  | tool tc => cases hdelta
  | text s =>
    obtain rfl := Option.some.inj hdelta
    unfold Delta.pieces at hd
    rcases List.mem_append.mp hd with hd | hd
    · obtain ⟨s',hs',heq⟩ := List.mem_map.mp hd
      obtain rfl := Piece.text.inj heq
      simpa using (Option.filter_eq_some_iff.mp (Option.mem_toList.mp hs')).2
    · obtain ⟨tc,-,heq⟩ := List.mem_map.mp hd
      cases heq

/-- Every item of the message appears, and no other. -/
lemma Cuts.length_items (h : Cuts chunks m) : (items (chunkPieces chunks)).length = (wholeItems m).length := by
  let expected : List (Option ℤ) := (if m.stringContent≠"" then [none] else [])++
    (List.range m.toolCalls.length).map (fun k : ℕ => some (k : ℤ))
  have hnodup : expected.Nodup := by
    refine List.nodup_append.mpr ⟨?_,?_,?_⟩
    · split_ifs <;> simp
    · exact List.nodup_range.map (fun a b hab => by simpa using hab)
    · intro a ha b hb heq
      split_ifs at ha
      · obtain ⟨k,-,rfl⟩ := List.mem_map.mp hb
        rw [List.mem_singleton.mp ha] at heq
        cases heq
      · cases ha
  have hmem : ∀ a, a∈(items (chunkPieces chunks)).map Prod.fst ↔ a∈expected := by
    intro a
    rw [show (a∈(items (chunkPieces chunks)).map Prod.fst) = _ from propext Gather.mem_keys,List.mem_append]
    cases a with
    | none =>
      have htext : (∃ p∈chunkPieces chunks, p.key = none) ↔ m.stringContent≠"" := by
        rw [←h.text,Ne,Text.join_eq_empty_iff]
        constructor
        · rintro ⟨p,hp,hkey⟩ hall
          cases p with
          | tool tc => cases hkey
          | text delta =>
            have hin : delta∈(chunkPieces chunks).filterMap Piece.text? := List.mem_filterMap.mpr ⟨_,hp,rfl⟩
            exact ne_empty_of_mem_texts hin (hall delta hin)
        · intro hnot
          obtain ⟨delta,hdelta,-⟩ := not_forall₂.mp hnot
          obtain ⟨p,hp,hpd⟩ := List.mem_filterMap.mp hdelta
          refine ⟨p,hp,?_⟩
          cases p with
          | tool tc => cases hpd
          | text s => rfl
      rw [htext]
      split_ifs with hne
      · simp [hne]
      · simp [hne]
    | some i =>
      have hslot := h.slots i
      have htool : (∃ p∈chunkPieces chunks, p.key = some i) ↔
          ∃ tc∈(chunkPieces chunks).filterMap Piece.tool?, tc.slot = i := by
        constructor
        · rintro ⟨p,hp,hkey⟩
          cases p with
          | text delta => cases hkey
          | tool tc => exact ⟨tc,List.mem_filterMap.mpr ⟨_,hp,rfl⟩,Option.some.inj hkey⟩
        · rintro ⟨tc,htc,rfl⟩
          obtain ⟨p,hp,hpt⟩ := List.mem_filterMap.mp htc
          refine ⟨p,hp,?_⟩
          cases p with
          | text delta => cases hpt
          | tool tc' => rw [Piece.key,Option.some.inj hpt]
      have hnone : some i∉(if m.stringContent≠"" then [none] else []) := by
        split_ifs <;> simp
      rw [htool,hslot]
      simp only [hnone,false_or,List.mem_map,List.mem_range,Option.some.injEq]
      simp only [eq_comm]
  have hperm := (List.perm_ext_iff_of_nodup (Gather.nodup_keys _) hnodup).mpr hmem
  have hlen := hperm.length_eq
  rw [List.length_map] at hlen
  unfold wholeItems
  rw [show (items (chunkPieces chunks)).length = expected.length from hlen]
  simp only [expected,List.length_append,List.length_map,List.length_range,List.length_zipIdx]
  split_ifs <;> rfl

/-- The text of the message is what the text item holds. -/
lemma Cuts.text_item (h : Cuts chunks m) {ps : List Piece} (hps : (none,ps)∈items (chunkPieces chunks)) :
    String.join (ps.filterMap Piece.text?) = m.stringContent := by
  have hsnd : ps = (chunkPieces chunks).filter (fun p => p.key = none) := Gather.snd_of_mem hps
  rw [←h.text,hsnd,List.filterMap_filter]
  congr 2
  funext p
  cases p <;> simp [Piece.key,Piece.text?]

/-- The items of the stream are the items of the whole response exactly when they all arrive in their places. -/
lemma Cuts.sameItems_iff (h : Cuts chunks m) :
    List.Forall₂ SameItem ((items (chunkPieces chunks)).zipIdx.map (finalItem respId))
        (messageOutputs respId m.stringContent m.toolCalls) ↔
      List.Forall₂ (Arrives respId) (items (chunkPieces chunks)).zipIdx (wholeItems m) := by
  rw [messageOutputs_eq,Gather.forall₂_filterMap_iff (by rw [List.length_map,List.length_zipIdx,h.length_items]),
    List.forall₂_map_left_iff]
  apply Gather.forall₂_congr_of_mem
  rintro ⟨⟨_ | i,ps⟩,k⟩ hq (_ | ⟨call,j⟩)
  · have hps := fst_mem_of_mem_zipIdx hq
    exact iff_of_true ⟨_,rfl,sameItem_text (h.text_item hps)⟩ trivial
  · refine iff_of_false ?_ id
    rintro ⟨b,hb,hsame⟩
    have htype : "message" = b.type := hsame.type
    rw [(callOutput_item hb).1] at htype
    exact absurd htype (by decide)
  · refine iff_of_false ?_ id
    rintro ⟨b,hb,hsame⟩
    obtain rfl := Option.some.inj hb
    have htype : "function_call" = "message" := hsame.type
    exact absurd htype (by decide)
  · exact sameItem_call_iff (tools_ne_nil (fst_mem_of_mem_zipIdx hq)) call

lemma join_filter_ne_empty (l : List String) : String.join (l.filter (fun s : String => s≠"")) = String.join l := by
  induction l with
  | nil => rfl
  | cons s l ih =>
    by_cases hs : s = ""
    · rw [List.filter_cons_of_neg (by simp [hs]),ih,String.join_cons,hs,String.empty_append]
    · rw [List.filter_cons_of_pos (by simp [hs]),String.join_cons,String.join_cons,ih]

/-- The delta events of a call are its nonempty arguments. -/
lemma flatMap_delta (st : ToolState) (tcs : List ToolCallPiece) : tcs.flatMap st.delta =
    ((tcs.map ToolCallPiece.arguments).filter (fun s : String => s≠"")).map
      (.argumentsDelta st.itemId st.outputIndex) := by
  induction tcs with
  | nil => rfl
  | cons tc tcs ih =>
    rw [List.flatMap_cons,ih,List.map_cons]
    unfold ToolState.delta
    by_cases harguments : tc.arguments = ""
    · simp [harguments]
    · simp [harguments]

/-- All that is sent for an item is its lifetime. -/
lemma lifetime_item (respId : String) (g : Option ℤ × List Piece) (k : ℕ) :
    Lifetime k (finalItem respId (g,k)) (itemEvents respId (g,k)++doneEvents respId (g,k)) := by
  obtain ⟨_ | i,ps⟩ := g
  · exact Lifetime.message ("msg_"++respId) (ps.filterMap Piece.text?)
  · let tcs := ps.filterMap Piece.tool?
    let first := ToolState.fresh respId k (tcs.headD ⟨none,"","",""⟩)
    let last := held respId k tcs
    have hargs : last.args = String.join ((tcs.map ToolCallPiece.arguments).filter (fun s : String => s≠"")) :=
      held_args.trans (join_filter_ne_empty _).symm
    have hlife := Lifetime.call (k:=k) first.itemId first.callId first.name first.namespaceName last.callId last.name
      last.namespaceName ((tcs.map ToolCallPiece.arguments).filter (fun s : String => s≠""))
    have hdone : last.done = [.argumentsDone first.itemId k last.args,
        .itemDone k (callItem first.itemId "completed" last.callId last.name last.namespaceName last.args)] := by
      unfold ToolState.done ToolState.item
      rw [show last.outputIndex = k from held_outputIndex,show last.itemId = first.itemId from held_itemId]
    have hitem : last.item = callItem first.itemId "completed" last.callId last.name last.namespaceName last.args := by
      unfold ToolState.item
      rw [show last.itemId = first.itemId from held_itemId]
    show Lifetime k last.item ((first.announced++tcs.flatMap first.delta)++last.done)
    rw [flatMap_delta,hdone,hitem]
    rw [←hargs] at hlife
    exact hlife

/-- The events and the output of the stream, in terms of the pieces in its chunks. -/
lemma handler_eq (estimate : String → Usage) (respId model : String) (chunks : List Chunk) :
    ∃ events usage model' shown, oaiChatToResponsesStreamHandler estimate respId model chunks = (events,usage) ∧
      events.getLast? = some (.completed model' ((items (chunkPieces chunks)).zipIdx.map (finalItem respId)) shown) ∧
      ∀ k, events.filter (fun e => e.outputIndex? = some k) =
        ((items (chunkPieces chunks))[k]?).elim [] (fun g => itemEvents respId (g,k)++doneEvents respId (g,k)) := by
  have h := reflects_stream respId model chunks
  unfold oaiChatToResponsesStreamHandler
  simp only
  rw [h.output]
  refine ⟨_,_,_,_,rfl,List.getLast?_concat,fun k => ?_⟩
  rw [List.filter_append,List.filter_append,h.sent k,h.done k]
  cases (items (chunkPieces chunks))[k]? with
  | none => rfl
  | some g => simp [Event.outputIndex?]

end

/-- However a message is cut into chunks, every item of the stream is announced once and ended once with all of its
deltas; its output is the whole response's exactly when every item arrives in its place. -/
theorem responses_stream_agrees_iff (estimate : String → Usage) (respId model : String) (chunks : List Chunk)
    (resp : OpenAITextResponse) (choice : Choice) (rest : List Choice) (hchoices : resp.choices = choice::rest)
    (hcuts : Cuts chunks choice.message) (createdAt : ℤ) :
    Agrees estimate respId model chunks resp createdAt ↔
      List.Forall₂ (Arrives respId) (items (chunkPieces chunks)).zipIdx (wholeItems choice.message) := by
  obtain ⟨events,usage,model',shown,hevents,hlast,hk⟩ := handler_eq estimate respId model chunks
  have hwhole : ∃ mid u, chatCompletionsResponseToResponsesResponse (some resp) respId createdAt = .ok (mid,u) ∧
      mid.output = messageOutputs respId choice.message.stringContent choice.message.toolCalls := by
    refine ⟨_,_,rfl,?_⟩
    simp only [hchoices,List.head?_cons,Option.map_some,Option.getD_some]
  obtain ⟨mid,u,hmid,houtput⟩ := hwhole
  rw [←hcuts.sameItems_iff,←houtput]
  constructor
  · rintro ⟨events',usage',m',output,shown',mid',u',hevents',hlast',hmid',-,hsame⟩
    rw [hevents] at hevents'
    obtain ⟨rfl,-⟩ := Prod.mk.inj hevents'
    rw [hlast] at hlast'
    obtain ⟨-,rfl,-⟩ := Event.completed.inj (Option.some.inj hlast')
    rw [hmid] at hmid'
    obtain ⟨rfl,-⟩ := Prod.mk.inj (Except.ok.inj hmid')
    exact hsame
  · intro hsame
    refine ⟨events,usage,model',_,shown,mid,u,hevents,hlast,hmid,fun k => ?_,hsame⟩
    rw [hk k,List.getElem?_map,List.getElem?_zipIdx]
    cases (items (chunkPieces chunks))[k]? with
    | none => rfl
    | some g =>
      simp only [Option.map_some,Option.elim_some,Nat.zero_add]
      exact lifetime_item respId g k

/-- A message with a text and a call, cut so that the arguments come in two pieces. -/
def lookupMessage : Message := ⟨"assistant",.string "Hi",[⟨"call_1","function","lookup","\x7b\x7d"⟩]⟩

def lookupResponse : OpenAITextResponse := ⟨"c","chat.completion",0,"m",[⟨0,lookupMessage,"tool_calls"⟩],.zero⟩

def lookupChunks : List Chunk :=
  [⟨"m",none,[⟨some "H",[]⟩]⟩,⟨"m",none,[⟨some "i",[⟨some 0,"call_1","lookup",""⟩]⟩]⟩,
    ⟨"m",none,[⟨none,[⟨some 0,"","","\x7b"⟩,⟨some 0,"","","\x7d"⟩]⟩]⟩]

/-- The same with the name in two pieces. -/
def splitNameChunks : List Chunk :=
  [⟨"m",none,[⟨some "Hi",[⟨some 0,"call_1","look",""⟩]⟩]⟩,⟨"m",none,[⟨none,[⟨some 0,"","up","\x7b\x7d"⟩]⟩]⟩]

/-- A single call has the slot zero. -/
lemma slots_of_single {tcs : List ToolCallPiece} (h : tcs≠[]) (hslot : ∀ tc∈tcs, tc.slot = 0) (i : ℤ) :
    (∃ tc∈tcs, tc.slot = i) ↔ ∃ k<1, i = ((k : ℕ) : ℤ) := by
  constructor
  · rintro ⟨tc,htc,rfl⟩
    exact ⟨0,Nat.one_pos,hslot tc htc⟩
  · rintro ⟨k,hk,rfl⟩
    obtain rfl : k = 0 := by omega
    obtain ⟨tc,tcs,rfl⟩ := List.exists_cons_of_ne_nil h
    exact ⟨tc,List.mem_cons_self,hslot tc List.mem_cons_self⟩

lemma lookupChunks_cut : Cuts lookupChunks lookupMessage := by
  refine ⟨by decide,slots_of_single (by decide) (by decide),?_⟩
  intro k call hk
  match k with
  | 0 =>
    obtain rfl := Option.some.inj hk
    exact ⟨by decide,by decide,by decide⟩
  | k+1 => simp [lookupMessage] at hk

lemma splitNameChunks_cut : Cuts splitNameChunks lookupMessage := by
  refine ⟨by decide,slots_of_single (by decide) (by decide),?_⟩
  intro k call hk
  match k with
  | 0 =>
    obtain rfl := Option.some.inj hk
    exact ⟨by decide,by decide,by decide⟩
  | k+1 => simp [lookupMessage] at hk

theorem lookupChunks_agree : Agrees (fun _ => Usage.zero) "r" "m" lookupChunks lookupResponse 1 :=
  (responses_stream_agrees_iff (fun _ => Usage.zero) "r" "m" lookupChunks lookupResponse _ [] rfl lookupChunks_cut 1).mpr
    (.cons trivial (.cons ⟨⟨.inr rfl,by decide⟩,by decide,by decide,.inl (by decide)⟩
      .nil))

/-- Of a name in two pieces the stream keeps the first. -/
theorem splitName_disagrees : ¬∀ (estimate : String → Usage) (respId model : String) (chunks : List Chunk)
    (resp : OpenAITextResponse) (choice : Choice) (rest : List Choice), resp.choices = choice::rest →
      Cuts chunks choice.message → ∀ createdAt : ℤ, Agrees estimate respId model chunks resp createdAt := by
  intro h
  obtain ⟨events,usage,model',output,shown,mid,u,hevents,hlast,hmid,-,hsame⟩ :=
    h (fun _ => Usage.zero) "r" "m" splitNameChunks lookupResponse _ [] rfl splitNameChunks_cut 1
  have hstream : ((oaiChatToResponsesStreamHandler (fun _ => Usage.zero) "r" "m" splitNameChunks).1.getLast?.bind
      (fun e => match e with | .completed _ output _ => some (output.map ResponsesOutput.name) | _ => none)) =
        some ["","look"] := by decide
  rw [hevents] at hstream
  simp only [hlast,Option.bind_some,Option.some.injEq] at hstream
  have hwhole : ((chatCompletionsResponseToResponsesResponse (some lookupResponse) "r" 1).toOption.map
      (fun p => p.1.output.map ResponsesOutput.name)) = some ["","lookup"] := by decide
  rw [hmid] at hwhole
  simp only [Except.toOption,Option.map_some,Option.some.injEq] at hwhole
  have hnames : List.Forall₂ (fun a b : String => a = b) (output.map ResponsesOutput.name)
      (mid.output.map ResponsesOutput.name) := by
    rw [List.forall₂_map_left_iff,List.forall₂_map_right_iff]
    exact hsame.imp (fun a b hab => hab.name)
  rw [hstream,hwhole] at hnames
  exact absurd (List.forall₂_eq_eq_eq ▸ hnames : ["","look"] = ["","lookup"]) (by decide)

end Compat
end Tierflow
