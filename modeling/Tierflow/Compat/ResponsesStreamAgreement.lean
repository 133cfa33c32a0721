import Tierflow.Compat.ResponsesStreamCalls

/-! A streamed response against a whole one. The events of its items may come in any interleaving; where the text comes
before the calls, the chunks have the message of the whole response. -/
namespace Tierflow
namespace Compat

/-! ## Streams of a response -/

/-- An event that carries some of an item. -/
def ResponsesStreamResponse.Carries (e : ResponsesStreamResponse) : Prop :=
  e.type = .outputTextDelta ∨ e.type = .outputItemAdded ∨ e.type = .outputItemDone ∨ e.type = .functionCallArgumentsDelta

instance (e : ResponsesStreamResponse) : Decidable e.Carries := by
  unfold ResponsesStreamResponse.Carries
  infer_instance

/-- The events that carry the item with this number. -/
def segment (k : ℕ) (events : List ResponsesStreamResponse) : List ResponsesStreamResponse :=
  events.filter (fun e => e.Carries ∧ e.outputIndex = some k)

/-- An item is announced, comes in deltas and is done. Its id, its call id and its name are known from the start, and
the deltas are what its arguments or its text still lack. -/
structure Streamed (o : ResponsesOutput) (added : ResponsesStreamResponse) (deltas : List ResponsesStreamResponse)
    (done : ResponsesStreamResponse) : Prop where
  added : added.type = .outputItemAdded ∧ ∃ item, added.item = some item ∧ item.type = o.type ∧ item.id = o.id ∧
    item.callId = o.callId ∧ item.name = o.name ∧
      (o.type = "function_call" →
        item.argumentsString++String.join (deltas.map ResponsesStreamResponse.delta) = o.argumentsString)
  done : done.type = .outputItemDone ∧ done.item = some o
  arguments : o.type = "function_call" → ∀ e∈deltas, e.type = .functionCallArgumentsDelta ∧ e.itemId = o.id
  text : o.type = "message" → (∀ e∈deltas, e.type = .outputTextDelta) ∧
    String.join (deltas.map ResponsesStreamResponse.delta) =
      outputText (o.content.filter (fun c => c.type = "output_text"))
  nothing : o.type≠"function_call" → o.type≠"message" → deltas = []

/-- The events produce the response: those of each item in their order, the items announced in their order and their
texts one after the other, and at the end the response itself. -/
structure Produces (events : List ResponsesStreamResponse) (resp : OpenAIResponsesResponse) : Prop where
  items : ∀ k o, resp.output[k]? = some o → ∃ added deltas done,
    segment k events = added::deltas++[done] ∧ Streamed o added deltas done
  placed : ∀ e∈events, e.Carries → ∃ k < resp.output.length, e.outputIndex = some k
  announced : (events.filter (fun e => e.type = .outputItemAdded)).map (fun e => e.outputIndex) =
    (List.range resp.output.length).map some
  texts : ((events.filter (fun e => e.type = .outputTextDelta)).map (fun e => e.outputIndex.getD 0)).Pairwise (· ≤ ·)
  ends : ∃ before e, events = before++[e] ∧ e.type = .completed ∧ e.response = some resp ∧
    ∀ e'∈before, e'.type≠.completed ∧ e'.type≠.error ∧ e'.type≠.failed

/-- What a response is once it is complete: its messages are the assistant's, and its calls have names and ids, no two
of them the same. -/
structure Complete (output : List ResponsesOutput) : Prop where
  role : ∀ o∈output, o.type = "message" → o.role = "" ∨ o.role = "assistant"
  named : ∀ o∈output, o.type = "function_call" → Text.trimSpace o.name≠"" ∧ o.effectiveId≠""
  distinct : ∀ (j k : ℕ) (o p : ResponsesOutput), output[j]? = some o → output[k]? = some p → j≠k → o.type = "function_call" →
    p.type = "function_call" → o.effectiveId≠p.effectiveId ∧
      (Text.trimSpace o.id≠"" → Text.trimSpace o.id≠Text.trimSpace p.id)

/-- An event of a call. -/
def ResponsesStreamResponse.OfCall (e : ResponsesStreamResponse) : Prop :=
  e.type = .functionCallArgumentsDelta ∨
    ((e.type = .outputItemAdded ∨ e.type = .outputItemDone) ∧ ∃ item, e.item = some item ∧ item.type = "function_call")

/-- Events of calls come after some text only. -/
def TextFirst (events : List ResponsesStreamResponse) : Prop :=
  ∀ before e after, events = before++e::after → e.OfCall →
    ∃ t∈before, t.type = .outputTextDelta ∧ t.delta≠""

/-- The text of the assistant's messages. -/
def assistantText (output : List ResponsesOutput) : String :=
  String.join ((output.filter (fun o => o.type = "message" ∧ (o.role = "" ∨ o.role = "assistant"))).map
    (fun o => outputText (o.content.filter (fun c => c.type = "output_text"))))

/-- The text that arrives with these events. -/
def arrivedText (events : List ResponsesStreamResponse) : String :=
  String.join ((events.filter (fun e => e.type = .outputTextDelta)).map ResponsesStreamResponse.delta)

/-! ## What every chunk keeps to -/

/-- The chunks so far have the text that has arrived, one role at most, and no finish reason before the end. -/
structure Shaped (s : ToChatState) : Prop where
  texts : String.join ((choices s.sent).flatMap ChatChoice.texts) = s.outputText
  roles : String.join ((choices s.sent).map (fun c => c.delta.role)) = if s.sentStart then "assistant" else ""
  running : s.sentStop = false
  unfinished : (choices s.sent).filterMap ChatChoice.finishReason = []
  saw : s.sawToolCall = true ↔ sentPieces s.sent≠[]

section
variable {s : ToChatState} {e : ResponsesStreamResponse}

/-- What sending a choice does, whatever else is noted on the way. -/
lemma Shaped.send {t : ToChatState} (h : Shaped s) {c : ChatChoice}
    (hsent : choices t.sent = choices s.sent++[c])
    (htext : t.outputText = s.outputText++String.join c.texts)
    (hrole : (if t.sentStart then "assistant" else "") = (if s.sentStart then "assistant" else "")++c.delta.role)
    (hstop : t.sentStop = false) (hfinish : c.finishReason = none)
    (hsaw : t.sawToolCall = true ↔ s.sawToolCall = true ∨ c.delta.toolCalls≠[]) : Shaped t := by
  constructor
  case texts => rw [hsent,List.flatMap_append,String.join_append,h.texts,List.flatMap_singleton,htext]
  case roles =>
    rw [hsent,List.map_append,String.join_append,h.roles,hrole]
    simp
  case running => exact hstop
  case unfinished =>
    rw [hsent,List.filterMap_append,h.unfinished,List.filterMap_cons_none hfinish]
    rfl
  case saw =>
    have hpieces : sentPieces t.sent = sentPieces s.sent++c.delta.toolCalls := by
      unfold sentPieces
      rw [hsent,List.flatMap_append,List.flatMap_singleton]
    rw [hsaw,h.saw,hpieces,Ne,Ne,Ne,List.append_eq_nil_iff]
    tauto

lemma Shaped.sendStart (h : Shaped s) : Shaped s.sendStartIfNeeded := by
  unfold ToChatState.sendStartIfNeeded
  split_ifs with hs
  · exact h
  · refine h.send (c:=startChoice) (choices_send s startChoice) ?_ ?_ h.running rfl ?_
    · exact String.append_empty.symm
    · rw [if_neg hs]
      rfl
    · show s.sawToolCall = true ↔ _
      simp [startChoice]

lemma sentStart_sendStart (s : ToChatState) : s.sendStartIfNeeded.sentStart = true := by
  unfold ToChatState.sendStartIfNeeded
  split_ifs with hs
  · exact hs
  · rfl

lemma streamErr_sendStart (s : ToChatState) : s.sendStartIfNeeded.streamErr = s.streamErr := by
  unfold ToChatState.sendStartIfNeeded
  split_ifs <;> rfl

/-- A call is sent on, or nothing is. -/
lemma sendToolCallDelta_frame (s : ToChatState) (callId name argsDelta : String) :
    (Shaped s → Shaped (s.sendToolCallDelta callId name argsDelta)) ∧
      (s.sendToolCallDelta callId name argsDelta).outputText = s.outputText ∧
        (s.sendToolCallDelta callId name argsDelta).streamErr = s.streamErr := by
  have hstart := Shaped.sendStart (s:=s)
  have htext := outputText_sendStart s
  have herr := streamErr_sendStart s
  unfold ToChatState.sendToolCallDelta
  split_ifs
  · exact ⟨id,rfl,rfl⟩
  · exact ⟨id,rfl,rfl⟩
  · generalize s.sendStartIfNeeded = t at hstart htext herr
    have hnoted : ((t.indexCall callId).noteName callId name).sent = t.sent ∧
        ((t.indexCall callId).noteName callId name).outputText = t.outputText ∧
        ((t.indexCall callId).noteName callId name).sentStart = t.sentStart ∧
        ((t.indexCall callId).noteName callId name).sentStop = t.sentStop ∧
        ((t.indexCall callId).noteName callId name).streamErr = t.streamErr := by
      unfold ToChatState.noteName ToChatState.indexCall
      split_ifs <;> exact ⟨rfl,rfl,rfl,rfl,rfl⟩
    generalize (t.indexCall callId).noteName callId name = u at hnoted
    obtain ⟨hsent,houtput,hss,hstop,hse⟩ := hnoted
    refine ⟨fun h => (hstart h).send (c:=toolChoice (u.toolPiece callId argsDelta)) ?_ ?_ ?_ ?_ rfl ?_,houtput.trans htext,
      hse.trans herr⟩
    · rw [←hsent]
      exact choices_send u _
    · exact houtput.trans String.append_empty.symm
    · show (if u.sentStart then "assistant" else "") = _
      rw [hss]
      exact String.append_empty.symm
    · exact hstop.trans (hstart h).running
    · show true = true ↔ _
      simp [toolChoice]

/-- What a quiet event does to the chunks and to what is known of the calls: nothing that matters. -/
structure Quiet (s t : ToChatState) (text : String) : Prop where
  shaped : Shaped s → Shaped t
  outputText : t.outputText = s.outputText++text
  streamErr : t.streamErr = s.streamErr
  view : t.view = s.view

lemma quiet_of_same {t : ToChatState} (hsent : t.sent = s.sent) (hstart : t.sentStart = s.sentStart)
    (hstop : t.sentStop = s.sentStop) (hsaw : t.sawToolCall = s.sawToolCall) (htext : t.outputText = s.outputText)
    (herr : t.streamErr = s.streamErr) (hview : t.view = s.view) : Quiet s t "" := by
  refine ⟨fun h => ⟨?_,?_,hstop.trans h.running,?_,?_⟩,htext.trans String.append_empty.symm,herr,hview⟩
  · rw [hsent,htext,h.texts]
  · rw [hsent,hstart,h.roles]
  · rw [hsent,h.unfinished]
  · rw [hsaw,hsent,h.saw]

lemma quiet_refl (s : ToChatState) : Quiet s s "" := quiet_of_same rfl rfl rfl rfl rfl rfl rfl

lemma quiet_sendStart (s : ToChatState) : Quiet s s.sendStartIfNeeded "" :=
  ⟨Shaped.sendStart,(outputText_sendStart s).trans String.append_empty.symm,streamErr_sendStart s,view_sendStart s⟩

lemma quiet_outputTextDelta (s : ToChatState) (delta : String) : Quiet s (s.outputTextDelta delta) delta := by
  have hstart := quiet_sendStart s
  have hsent := sentStart_sendStart s
  unfold ToChatState.outputTextDelta
  simp only
  split_ifs with hd
  · rw [hd]
    exact hstart
  · generalize s.sendStartIfNeeded = t at hstart hsent
    have hview : sentPieces (t.send (contentChoice delta)).sent = sentPieces t.sent := by
      rw [sentPieces_send]
      exact List.append_nil _
    refine ⟨fun h => (hstart.shaped h).send (c:=contentChoice delta) (choices_send t _) ?_ ?_
      (hstart.shaped h).running rfl ?_,?_,hstart.streamErr,?_⟩
    · show t.outputText++delta = t.outputText++String.join [delta]
      simp
    · show (if t.sentStart then "assistant" else "") = _
      exact String.append_empty.symm
    · show t.sawToolCall = true ↔ _
      simp [contentChoice]
    · show t.outputText++delta = s.outputText++delta
      rw [hstart.outputText,String.append_empty]
    · rw [←hstart.view]
      ext1 <;> first | rfl | exact hview

lemma quiet_reasoning (s : ToChatState) (delta : String) : Quiet s (s.sendReasoningSummaryDelta delta) "" := by
  unfold ToChatState.sendReasoningSummaryDelta
  split_ifs with hd
  · exact quiet_refl s
  · simp only
    have hfirst : Quiet s { s with needsReasoningSummarySeparator := false } "" := quiet_of_same rfl rfl rfl rfl rfl rfl rfl
    have hstart := quiet_sendStart { s with needsReasoningSummarySeparator := false }
    generalize ({ s with needsReasoningSummarySeparator := false } : ToChatState).sendStartIfNeeded = t at hstart
    generalize s.separated delta = text
    have hview : sentPieces (t.send (reasoningChoice text)).sent = sentPieces t.sent := by
      rw [sentPieces_send]
      exact List.append_nil _
    refine ⟨fun h => (hstart.shaped (hfirst.shaped h)).send (c:=reasoningChoice text) (choices_send t _) ?_ ?_
      (hstart.shaped (hfirst.shaped h)).running rfl ?_,?_,hstart.streamErr,?_⟩
    · exact String.append_empty.symm
    · show (if t.sentStart then "assistant" else "") = _
      exact String.append_empty.symm
    · show t.sawToolCall = true ↔ _
      simp [reasoningChoice]
    · exact hstart.outputText
    · refine Eq.trans ?_ hstart.view
      ext1 <;> first | rfl | exact hview

/-- An event that is of no call and does not end the stream. -/
lemma step_quiet (herr : s.streamErr = none) (hcall : ¬e.OfCall) (hcompleted : e.type≠.completed)
    (herror : e.type≠.error) (hfailed : e.type≠.failed) :
    Quiet s (s.step e) (if e.type = .outputTextDelta then e.delta else "") := by
  unfold ToChatState.step
  rw [if_neg (by simp [herr])]
  have hitem : (e.type = .outputItemAdded ∨ e.type = .outputItemDone) → (e.item.map s.outputItem).getD s = s := by
    intro htype
    cases hi : e.item with
    | none => rfl
    | some item =>
      rw [Option.map_some,Option.getD_some]
      unfold ToChatState.outputItem
      rw [if_pos (fun h => hcall (.inr ⟨htype,item,hi,h⟩))]
  cases htype : e.type with
  | created =>
    cases e.response with
    | none => exact quiet_refl s
    | some r => exact quiet_of_same rfl rfl rfl rfl rfl rfl rfl
  | reasoningSummaryTextDelta => exact quiet_reasoning s e.delta
  | reasoningSummaryTextDone =>
    show Quiet s (if s.hasSentReasoningSummary then _ else s) ""
    split_ifs
    · exact quiet_of_same rfl rfl rfl rfl rfl rfl rfl
    · exact quiet_refl s
  | outputTextDelta => exact quiet_outputTextDelta s e.delta
  | outputItemAdded =>
    simp only
    rw [hitem (.inl htype)]
    exact quiet_refl s
  | outputItemDone =>
    simp only
    rw [hitem (.inr htype)]
    exact quiet_refl s
  | functionCallArgumentsDelta => exact absurd (.inl htype) hcall
  | functionCallArgumentsDone => exact quiet_refl s
  | completed => exact absurd htype hcompleted
  | error => exact absurd htype herror
  | failed => exact absurd htype hfailed
  | other => exact quiet_refl s

/-! ## Events of calls -/

lemma step_item (herr : s.streamErr = none) {item : ResponsesOutput}
    (htype : e.type = .outputItemAdded ∨ e.type = .outputItemDone) (hi : e.item = some item) :
    s.step e = s.outputItem item := by
  unfold ToChatState.step
  rw [if_neg (by simp [herr])]
  rcases htype with h | h <;> simp only [h,hi,Option.map_some,Option.getD_some]

lemma step_arguments (herr : s.streamErr = none) (htype : e.type = .functionCallArgumentsDelta) :
    s.step e = s.argumentsDelta e.itemId e.delta := by
  unfold ToChatState.step
  rw [if_neg (by simp [herr])]
  simp only [htype]

/-- What an event of a call leaves alone; behind a text nothing is sent for it. -/
structure CallFrame (s t : ToChatState) : Prop where
  shaped : Shaped s → Shaped t
  outputText : t.outputText = s.outputText
  streamErr : t.streamErr = s.streamErr
  behindText : s.outputText≠"" → sentPieces t.sent = sentPieces s.sent

lemma callFrame_send (callId name argsDelta : String) : CallFrame s (s.sendToolCallDelta callId name argsDelta) := by
  obtain ⟨hshaped,htext,herr⟩ := sendToolCallDelta_frame s callId name argsDelta
  refine ⟨hshaped,htext,herr,fun hne => ?_⟩
  unfold ToChatState.sendToolCallDelta
  split_ifs <;> rfl

lemma callFrame_outputItem (item : ResponsesOutput) : CallFrame s (s.outputItem item) := by
  unfold ToChatState.outputItem
  split_ifs with htype
  · exact ⟨id,rfl,rfl,fun _ => rfl⟩
  · simp only
    generalize argsDelta item.argumentsString (s.toolCallArgsById item.effectiveId) = delta
    have hnoted : CallFrame s (((s.noteItem item).noteName item.effectiveId (Text.trimSpace item.name)).noteArgs
        item.effectiveId item.argumentsString) := by
      unfold ToChatState.noteArgs ToChatState.noteName ToChatState.noteItem
      simp only
      split_ifs <;> exact ⟨fun h => ⟨h.texts,h.roles,h.running,h.unfinished,h.saw⟩,rfl,rfl,fun _ => rfl⟩
    generalize ((s.noteItem item).noteName item.effectiveId (Text.trimSpace item.name)).noteArgs
        item.effectiveId item.argumentsString = t at hnoted
    have hsend := callFrame_send (s:=t) item.effectiveId (Text.trimSpace item.name) delta
    exact ⟨fun h => hsend.shaped (hnoted.shaped h),hsend.outputText.trans hnoted.outputText,
      hsend.streamErr.trans hnoted.streamErr,
      fun h => (hsend.behindText (by rwa [hnoted.outputText])).trans (hnoted.behindText h)⟩

lemma callFrame_arguments (itemId delta : String) : CallFrame s (s.argumentsDelta itemId delta) := by
  unfold ToChatState.argumentsDelta
  simp only
  generalize (if s.canonicalIdByItemId (Text.trimSpace itemId) = "" then Text.trimSpace itemId
    else s.canonicalIdByItemId (Text.trimSpace itemId)) = callId
  split_ifs
  · exact ⟨id,rfl,rfl,fun _ => rfl⟩
  · have hnoted : CallFrame s { s with
        toolCallArgsById := Function.update s.toolCallArgsById callId (s.toolCallArgsById callId++delta) } :=
      ⟨fun h => ⟨h.texts,h.roles,h.running,h.unfinished,h.saw⟩,rfl,rfl,fun _ => rfl⟩
    generalize ({ s with
      toolCallArgsById := Function.update s.toolCallArgsById callId (s.toolCallArgsById callId++delta) } :
        ToChatState) = t at hnoted
    have hsend := callFrame_send (s:=t) callId "" delta
    exact ⟨fun h => hsend.shaped (hnoted.shaped h),hsend.outputText.trans hnoted.outputText,
      hsend.streamErr.trans hnoted.streamErr,
      fun h => (hsend.behindText (by rwa [hnoted.outputText])).trans (hnoted.behindText h)⟩

lemma step_callFrame (herr : s.streamErr = none) (hcall : e.OfCall) : CallFrame s (s.step e) := by
  rcases hcall with htype | ⟨htype,item,hi,-⟩
  · rw [step_arguments herr htype]
    exact callFrame_arguments e.itemId e.delta
  · rw [step_item herr htype hi]
    exact callFrame_outputItem item

end

/-! ## The place of an event in its item -/

section
variable {s : ToChatState} {events pre post : List ResponsesStreamResponse} {e : ResponsesStreamResponse} {resp : OpenAIResponsesResponse}
  {k : ℕ} {o : ResponsesOutput} {added done : ResponsesStreamResponse} {deltas : List ResponsesStreamResponse}

lemma append_cons_eq {α : Type*} {l r m : List α} {a x z : α} (h : l++x::r = a::m++[z]) :
    (l = [] ∧ x = a) ∨ (∃ l' r', l = a::l' ∧ m = l'++x::r') ∨ (l = a::m ∧ x = z) := by
  cases l with
  | nil => exact .inl ⟨rfl,(List.cons.inj h).1⟩
  | cons b l =>
    obtain rfl := (List.cons.inj h).1
    rcases List.eq_nil_or_concat r with rfl | ⟨r,y,rfl⟩
    · obtain ⟨hl,hx⟩ := List.append_inj' h rfl
      exact .inr (.inr ⟨hl,(List.cons.inj hx).1⟩)
    · rw [List.concat_eq_append,←List.cons_append,←List.append_assoc] at h
      have hl := (List.append_inj' h rfl).1
      exact .inr (.inl ⟨l,r,rfl,(List.cons.inj hl).2.symm⟩)

lemma segment_append (k : ℕ) (l m : List ResponsesStreamResponse) : segment k (l++m) = segment k l++segment k m :=
  List.filter_append ..

lemma segment_cons_self (hcarries : e.Carries) (hk : e.outputIndex = some k) (l : List ResponsesStreamResponse) :
    segment k (e::l) = e::segment k l := List.filter_cons_of_pos (by simp [hcarries,hk])

lemma segment_cons_of_not (h : ¬(e.Carries ∧ e.outputIndex = some k)) (l : List ResponsesStreamResponse) :
    segment k (e::l) = segment k l := List.filter_cons_of_neg (by simpa using h)

lemma segment_concat_of_not (h : ¬(e.Carries ∧ e.outputIndex = some k)) (l : List ResponsesStreamResponse) :
    segment k (l++[e]) = segment k l := by
  rw [segment_append,segment_cons_of_not h]
  exact List.append_nil _

lemma segment_concat_self (hcarries : e.Carries) (hk : e.outputIndex = some k) (l : List ResponsesStreamResponse) :
    segment k (l++[e]) = segment k l++[e] := by
  rw [segment_append,segment_cons_self hcarries hk]
  rfl

/-- An event that carries an item announces it, is one of its deltas, or ends it. -/
lemma place_of_event (hseg : segment k (pre++e::post) = added::deltas++[done]) (hcarries : e.Carries)
    (hk : e.outputIndex = some k) : (segment k pre = [] ∧ e = added) ∨
      (∃ l r, segment k pre = added::l ∧ deltas = l++e::r) ∨ (segment k pre = added::deltas ∧ e = done) := by
  rw [segment_append,segment_cons_self hcarries hk] at hseg
  exact append_cons_eq hseg

lemma OfCall.carries (h : e.OfCall) : e.Carries := by
  rcases h with h | ⟨h | h,-⟩
  · exact .inr (.inr (.inr h))
  · exact .inr (.inl h)
  · exact .inr (.inr (.inl h))

/-- An event that carries an item is of a call exactly when the item is one. -/
lemma ofCall_iff (hs : Streamed o added deltas done) (he : e∈added::deltas++[done]) :
    e.OfCall ↔ o.type = "function_call" := by
  obtain ⟨hadded,item,hitem,htype,-⟩ := hs.added
  obtain ⟨hdone,hdoneItem⟩ := hs.done
  rcases List.mem_append.mp he with he | he
  · rcases List.mem_cons.mp he with rfl | he
    · constructor
      · rintro (h | ⟨-,item',hitem',h⟩)
        · rw [hadded] at h
          cases h
        · rw [hitem] at hitem'
          rw [←htype,Option.some.inj hitem',h]
      · exact fun h => .inr ⟨.inl hadded,item,hitem,htype.trans h⟩
    · by_cases hcall : o.type = "function_call"
      · exact iff_of_true (.inl (hs.arguments hcall e he).1) hcall
      · by_cases hmessage : o.type = "message"
        · refine iff_of_false ?_ hcall
          have h := (hs.text hmessage).1 e he
          rintro (h' | ⟨h' | h',-⟩)
          all_goals
            rw [h] at h'
            cases h'
        · rw [hs.nothing hcall hmessage] at he
          cases he
  · rw [List.mem_singleton] at he
    subst he
    constructor
    · rintro (h | ⟨-,item',hitem',h⟩)
      · rw [hdone] at h
        cases h
      · rw [hdoneItem] at hitem'
        rw [Option.some.inj hitem',h]
    · exact fun h => .inr ⟨.inr hdone,o,hdoneItem,h⟩

/-- The item that an event carries. -/
lemma Produces.item (h : Produces events resp) (he : e∈events) (hcarries : e.Carries) : ∃ (k : ℕ) (o : ResponsesOutput)
    (added : ResponsesStreamResponse) (deltas : List ResponsesStreamResponse) (done : ResponsesStreamResponse),
      resp.output[k]? = some o ∧ e.outputIndex = some k ∧ segment k events = added::deltas++[done] ∧
        Streamed o added deltas done := by
  obtain ⟨k,hlt,hk⟩ := h.placed e he hcarries
  obtain ⟨added,deltas,done,hseg,hs⟩ := h.items k _ (List.getElem?_eq_getElem hlt)
  exact ⟨k,_,added,deltas,done,List.getElem?_eq_getElem hlt,hk,hseg,hs⟩

/-! ## The calls, one by one -/

/-- The arguments that have been taken from the events of a call; a delta needs an item id to be taken. -/
def taken (o : ResponsesOutput) (acc : Option String) (e : ResponsesStreamResponse) : Option String :=
  match e.type with
  | .outputItemAdded | .outputItemDone => some ((e.item.map ResponsesOutput.argumentsString).getD "")
  | .functionCallArgumentsDelta => acc.map (fun a => if Text.trimSpace o.id = "" then a else a++e.delta)
  | _ => acc

def CallView.Holds (v : CallView) (key : CallKey) : Option String → Prop
  | none => v.Unseen key
  | some a => v.Tracks key a

/-- The id that an event announces a call with. -/
def announcedId (e : ResponsesStreamResponse) : Option String :=
  if e.type = .outputItemAdded then
    (e.item.filter (fun item : ResponsesOutput => item.type = "function_call")).map ResponsesOutput.effectiveId
  else none

lemma foldl_taken {deltas : List ResponsesStreamResponse} (h : ∀ e∈deltas, e.type = .functionCallArgumentsDelta)
    (a : String) : deltas.foldl (taken o) (some a) = some (if Text.trimSpace o.id = "" then a
      else a++String.join (deltas.map ResponsesStreamResponse.delta)) := by
  induction deltas generalizing a with
  | nil => simp
  | cons e deltas ih =>
    have he : taken o (some a) e = some (if Text.trimSpace o.id = "" then a else a++e.delta) := by
      unfold taken
      rw [h e List.mem_cons_self]
      rfl
    rw [List.foldl_cons,he,ih (fun e' he' => h e' (List.mem_cons_of_mem _ he'))]
    split_ifs
    · rfl
    · rw [List.map_cons,String.join_cons,String.append_assoc]

/-- While no text has come, every call is known as far as its events go. -/
structure CallsHeld (output : List ResponsesOutput) (pre : List ResponsesStreamResponse) (s : ToChatState) : Prop where
  shaped : Shaped s
  streamErr : s.streamErr = none
  noText : s.outputText = ""
  sound : s.view.Sound
  ids : s.view.ids = pre.filterMap announcedId
  held : ∀ (k : ℕ) (o : ResponsesOutput), output[k]? = some o → o.type = "function_call" →
    s.view.Holds o.callKey ((segment k pre).foldl (taken o) none)

lemma callsHeld_init (output : List ResponsesOutput) (model : String) (createdAt : ℤ) :
    CallsHeld output [] (.init model createdAt) := by
  refine ⟨⟨rfl,rfl,rfl,rfl,by simp [ToChatState.init,sentPieces,choices]⟩,rfl,rfl,?_,rfl,?_⟩
  · exact ⟨List.nodup_nil,fun p hp => (by cases hp),rfl,fun p hp => (by cases hp),rfl⟩
  · intro k o _ _
    exact ⟨List.not_mem_nil,rfl,rfl⟩

/-- An event of another call, or of none, leaves a call as it was. -/
lemma Holds.same {v w : CallView} {key : CallKey} (h : CallView.Same v w key) {acc : Option String}
    (hv : v.Holds key acc) : w.Holds key acc := by
  cases acc with
  | none => exact h.unseen hv
  | some a => exact h.tracks hv

lemma announcedId_of_not_call (h : ¬e.OfCall) : announcedId e = none := by
  unfold announcedId
  split_ifs with htype
  · cases hi : e.item with
    | none => rfl
    | some item =>
      have hitem : item.type≠"function_call" := fun hc => h (.inr ⟨.inl htype,item,hi,hc⟩)
      simp [Option.filter,hitem]
  · rfl

lemma announcedId_added {item : ResponsesOutput} (htype : e.type = .outputItemAdded) (hi : e.item = some item)
    (hitem : item.type = "function_call") : announcedId e = some item.effectiveId := by
  unfold announcedId
  rw [if_pos htype,hi]
  simp [Option.filter,hitem]

lemma announcedId_of_type (htype : e.type≠.outputItemAdded) : announcedId e = none := if_neg htype

lemma filterMap_concat_none {α β : Type*} {f : α → Option β} {a : α} (h : f a = none) (l : List α) :
    (l++[a]).filterMap f = l.filterMap f := by
  rw [List.filterMap_append,List.filterMap_cons_none h]
  exact List.append_nil _

/-- An event of no call, with no text. -/
lemma CallsHeld.quiet (h : CallsHeld resp.output pre s) (hp : Produces events resp) (hevents : events = pre++e::post)
    (hcall : ¬e.OfCall) (htext : e.type = .outputTextDelta → e.delta = "") (hcompleted : e.type≠.completed)
    (herror : e.type≠.error) (hfailed : e.type≠.failed) : CallsHeld resp.output (pre++[e]) (s.step e) := by
  have hq := step_quiet h.streamErr hcall hcompleted herror hfailed
  have hempty : (if e.type = .outputTextDelta then e.delta else "") = "" := by
    split_ifs with ht
    · exact htext ht
    · rfl
  rw [hempty] at hq
  refine ⟨hq.shaped h.shaped,hq.streamErr.trans h.streamErr,by rw [hq.outputText,h.noText]; rfl,?_,?_,?_⟩
  · rw [hq.view]
    exact h.sound
  · rw [hq.view,h.ids,filterMap_concat_none (announcedId_of_not_call hcall)]
  · intro k o ho htype
    have hnot : ¬(e.Carries ∧ e.outputIndex = some k) := by
      rintro ⟨hcarries,hk⟩
      obtain ⟨k',o',added,deltas,done,ho',hk',hseg,hs⟩ := hp.item (by rw [hevents]; simp) hcarries
      rw [hk] at hk'
      obtain rfl := Option.some.inj hk'
      rw [ho] at ho'
      obtain rfl := Option.some.inj ho'
      refine hcall ((ofCall_iff hs ?_).mpr htype)
      rw [←hseg,hevents,segment_append,segment_cons_self hcarries hk]
      simp
    rw [hq.view,segment_concat_of_not hnot]
    exact h.held k o ho htype

lemma taken_item {item : ResponsesOutput} (acc : Option String)
    (htype : e.type = .outputItemAdded ∨ e.type = .outputItemDone) (hi : e.item = some item) :
    taken o acc e = some item.argumentsString := by
  unfold taken
  rcases htype with h | h <;> rw [h,hi] <;> rfl

lemma taken_delta (htype : e.type = .functionCallArgumentsDelta) (a : String) :
    taken o (some a) e = some (if Text.trimSpace o.id = "" then a else a++e.delta) := by
  unfold taken
  rw [htype]
  rfl

/-- The call is announced. -/
lemma CallsHeld.announce (h : CallsHeld resp.output pre s) (hs : Streamed o e deltas done)
    (htype : o.type = "function_call") (hid : o.callKey.id≠"") (hname : o.callKey.name≠"")
    (hun : s.view.Unseen o.callKey) : ∃ a, taken o none e = some a ∧
      CallView.Moved s.view (s.step e).view o.callKey ((pre++[e]).filterMap announcedId) a := by
  obtain ⟨hadded,item,hitem,hitype,hiid,hicall,hiname,-⟩ := hs.added
  have hkey : item.callKey = o.callKey := by
    unfold ResponsesOutput.callKey ResponsesOutput.effectiveId
    rw [hiid,hicall,hiname]
  have heid : item.effectiveId = o.callKey.id := by rw [←hkey,item.callKey_id]
  have hne : item.effectiveId≠"" := heid ▸ hid
  have hids : (pre++[e]).filterMap announcedId = s.view.ids++[o.callKey.id] := by
    rw [List.filterMap_append,h.ids,
      List.filterMap_cons_some (announcedId_added hadded hitem (hitype.trans htype)),heid]
    rfl
  refine ⟨item.argumentsString,taken_item none (.inl hadded) hitem,?_⟩
  rw [hids,step_item h.streamErr (.inl hadded) hitem,view_outputItem h.noText (hitype.trans htype) hne,hkey]
  exact CallView.moved_first h.sound hid hname hun item.argumentsString

/-- Some arguments of the call come. -/
lemma CallsHeld.argumentsDelta (h : CallsHeld resp.output pre s) (hdtype : e.type = .functionCallArgumentsDelta)
    (hditem : e.itemId = o.id) (hid : o.callKey.id≠"") {a : String} (ht : s.view.Tracks o.callKey a) :
    ∃ b, taken o (some a) e = some b ∧
      CallView.Moved s.view (s.step e).view o.callKey ((pre++[e]).filterMap announcedId) b := by
  have hids : (pre++[e]).filterMap announcedId = s.view.ids := by
    rw [filterMap_concat_none (announcedId_of_type (by simp [hdtype])),h.ids]
  have hcanonical := ht.canonical
  refine ⟨_,taken_delta hdtype a,?_⟩
  rw [hids,step_arguments h.streamErr hdtype,view_argumentsDelta h.noText,hditem]
  by_cases hblank : Text.trimSpace o.id = ""
  · rw [hblank,h.sound.blank,if_neg (by simp),if_neg (by simp),if_pos rfl]
    exact CallView.moved_refl h.sound ht
  · have hcanonical : s.view.canonical (Text.trimSpace o.id) = o.callKey.id := ht.canonical hblank
    rw [hcanonical,if_pos hid,if_neg hblank]
    exact CallView.moved_args h.sound ht e.delta

/-- The call is done. -/
lemma CallsHeld.finish (h : CallsHeld resp.output pre s) (hdtype : e.type = .outputItemDone) (hditem : e.item = some o)
    (htype : o.type = "function_call") (hid : o.callKey.id≠"") {a rest : String} (ht : s.view.Tracks o.callKey a)
    (hrest : o.argumentsString = a++rest) : ∃ b, taken o (some a) e = some b ∧
      CallView.Moved s.view (s.step e).view o.callKey ((pre++[e]).filterMap announcedId) b := by
  have hids : (pre++[e]).filterMap announcedId = s.view.ids := by
    rw [filterMap_concat_none (announcedId_of_type (by simp [hdtype])),h.ids]
  have hne : o.effectiveId≠"" := o.callKey_id ▸ hid
  refine ⟨_,taken_item _ (.inr hdtype) hditem,?_⟩
  rw [hids,step_item h.streamErr (.inr hdtype) hditem,view_outputItem h.noText htype hne,hrest]
  exact CallView.moved_item h.sound hid ht rest

/-- What has been taken of a call before its end is a beginning of its arguments. -/
lemma taken_begins (hs : Streamed o added deltas done) (htype : o.type = "function_call") {l r}
    (hdeltas : deltas = l++r) : ∃ a rest, (added::l).foldl (taken o) none = some a ∧ o.argumentsString = a++rest := by
  obtain ⟨hadded,item,hitem,-,-,-,-,harguments⟩ := hs.added
  have hl : ∀ e'∈l, e'.type = .functionCallArgumentsDelta := by
    intro e' he'
    exact (hs.arguments htype e' (by rw [hdeltas]; simp [he'])).1
  have hall := harguments htype
  rw [hdeltas,List.map_append,String.join_append,←String.append_assoc] at hall
  rw [List.foldl_cons,taken_item none (.inl hadded) hitem,foldl_taken hl]
  split_ifs
  · exact ⟨_,_,rfl,by rw [←hall,String.append_assoc]⟩
  · exact ⟨_,_,rfl,hall.symm⟩

/-- An event of a call moves this call on. -/
lemma CallsHeld.moved (h : CallsHeld resp.output pre s) (hs : Streamed o added deltas done)
    (hseg : segment k (pre++e::post) = added::deltas++[done]) (hcarries : e.Carries) (hk : e.outputIndex = some k)
    (ho : resp.output[k]? = some o) (htype : o.type = "function_call") (hid : o.callKey.id≠"")
    (hname : o.callKey.name≠"") : ∃ a, (segment k (pre++[e])).foldl (taken o) none = some a ∧
      CallView.Moved s.view (s.step e).view o.callKey ((pre++[e]).filterMap announcedId) a := by
  have hheld := h.held k o ho htype
  rw [segment_concat_self hcarries hk,List.foldl_append,List.foldl_cons,List.foldl_nil]
  rcases place_of_event hseg hcarries hk with ⟨hpre,rfl⟩ | ⟨l,r,hpre,hdeltas⟩ | ⟨hpre,rfl⟩
  · rw [hpre] at hheld ⊢
    exact h.announce hs htype hid hname hheld
  · obtain ⟨a,rest,htaken,-⟩ := taken_begins hs htype hdeltas
    rw [hpre,htaken] at hheld
    rw [hpre,htaken]
    obtain ⟨hdtype,hditem⟩ := hs.arguments htype e (by rw [hdeltas]; simp)
    exact h.argumentsDelta hdtype hditem hid hheld
  · obtain ⟨a,rest,htaken,hrest⟩ := taken_begins hs htype (List.append_nil deltas).symm
    rw [hpre,htaken] at hheld
    rw [hpre,htaken]
    exact h.finish hs.done.1 hs.done.2 htype hid hheld hrest

lemma CallsHeld.call (h : CallsHeld resp.output pre s) (hp : Produces events resp) (hc : Complete resp.output)
    (hevents : events = pre++e::post) (hcall : e.OfCall) : CallsHeld resp.output (pre++[e]) (s.step e) := by
  have hcarries := OfCall.carries hcall
  obtain ⟨k,o,added,deltas,done,ho,hk,hseg,hs⟩ := hp.item (by rw [hevents]; simp) hcarries
  have hin : e∈added::deltas++[done] := by
    rw [←hseg,hevents,segment_append,segment_cons_self hcarries hk]
    simp
  have htype := (ofCall_iff hs hin).mp hcall
  obtain ⟨hname,hid⟩ := hc.named o (List.mem_of_getElem? ho) htype
  rw [←o.callKey_id] at hid
  rw [←o.callKey_name] at hname
  have hframe := step_callFrame h.streamErr hcall
  rw [hevents] at hseg
  obtain ⟨a,htaken,hmoved⟩ := h.moved hs hseg hcarries hk ho htype hid hname
  refine ⟨hframe.shaped h.shaped,hframe.streamErr.trans h.streamErr,hframe.outputText.trans h.noText,hmoved.sound,
    hmoved.ids,?_⟩
  intro j p hp' hptype
  by_cases hj : j = k
  · subst hj
    rw [ho] at hp'
    obtain rfl := Option.some.inj hp'
    rw [htaken]
    exact hmoved.tracks
  · have hne := hc.distinct j k p o hp' ho hj hptype htype
    rw [←p.callKey_id,←o.callKey_id,←p.callKey_itemId,←o.callKey_itemId] at hne
    rw [segment_concat_of_not (fun hn => hj (Option.some.inj (hn.2.symm.trans hk)))]
    exact Holds.same (hmoved.same p.callKey hne.1 hne.2) (h.held j p hp' hptype)

/-! ## Text before calls -/

lemma arrivedText_concat (pre : List ResponsesStreamResponse) (e : ResponsesStreamResponse) :
    arrivedText (pre++[e]) = arrivedText pre++(if e.type = .outputTextDelta then e.delta else "") := by
  unfold arrivedText
  rw [List.filter_append,List.map_append,String.join_append]
  by_cases h : e.type = .outputTextDelta
  · rw [List.filter_cons_of_pos (by simpa using h),if_pos h]
    simp
  · rw [List.filter_cons_of_neg (by simpa using h),if_neg h]
    rfl

/-- Where the text comes first nothing is sent but text. -/
structure TextOnly (pre : List ResponsesStreamResponse) (s : ToChatState) : Prop where
  shaped : Shaped s
  streamErr : s.streamErr = none
  text : s.outputText = arrivedText pre
  noPieces : sentPieces s.sent = []

lemma TextOnly.step (h : TextOnly pre s) (hbehind : e.OfCall → arrivedText pre≠"") (hcompleted : e.type≠.completed)
    (herror : e.type≠.error) (hfailed : e.type≠.failed) : TextOnly (pre++[e]) (s.step e) := by
  by_cases hcall : e.OfCall
  · have hframe := step_callFrame h.streamErr hcall
    have hdelta : (if e.type = .outputTextDelta then e.delta else "") = "" := by
      rw [if_neg]
      rcases hcall with h | ⟨h | h,-⟩ <;> simp [h]
    refine ⟨hframe.shaped h.shaped,hframe.streamErr.trans h.streamErr,?_,?_⟩
    · rw [hframe.outputText,h.text,arrivedText_concat,hdelta,String.append_empty]
    · rw [hframe.behindText (by rw [h.text]; exact hbehind hcall),h.noPieces]
  · have hq := step_quiet h.streamErr hcall hcompleted herror hfailed
    refine ⟨hq.shaped h.shaped,hq.streamErr.trans h.streamErr,?_,?_⟩
    · rw [hq.outputText,h.text,arrivedText_concat]
    · exact (congrArg CallView.pieces hq.view).trans h.noPieces

lemma arrivedText_ne {t : ResponsesStreamResponse} (ht : t∈pre) (htype : t.type = .outputTextDelta)
    (hdelta : t.delta≠"") : arrivedText pre≠"" := by
  intro h
  exact hdelta (Text.join_eq_empty_iff.mp h t.delta
    (List.mem_map_of_mem (List.mem_filter.mpr ⟨ht,by simpa using htype⟩)))

/-! ## The end of the stream -/

/-- What the client puts together from a stream that has come to its end in this state. -/
def finalChoice (s : ToChatState) : Choice :=
  ⟨0,⟨"assistant",.string s.outputText,
    (Gather.gather ToolCallDelta.index (sentPieces s.sent)).map (fun g => joinPieces g.2)⟩,
      if sentPieces s.sent≠[] ∧ s.outputText = "" then "tool_calls" else "stop"⟩

lemma quiet_noteUsage (u : Usage) : Quiet s (s.noteUsage u) "" := quiet_of_same rfl rfl rfl rfl rfl rfl rfl

lemma quiet_noteResponse (r : OpenAIResponsesResponse) : Quiet s (s.noteResponse r) "" :=
  quiet_of_same rfl rfl rfl rfl rfl rfl rfl

lemma Quiet.trans {t u : ToChatState} (h : Quiet s t "") (h' : Quiet t u "") : Quiet s u "" :=
  ⟨fun hs => h'.shaped (h.shaped hs),by rw [h'.outputText,h.outputText,String.append_empty,String.append_empty],
    h'.streamErr.trans h.streamErr,h'.view.trans h.view⟩

/-- At the end the state only has the stop chunk to send. -/
lemma step_completed (herr : s.streamErr = none) (htype : e.type = .completed) :
    ∃ u : ToChatState, Quiet s u "" ∧ u.sentStart = true ∧ s.step e = u.sendStopIfNeeded := by
  unfold ToChatState.step
  rw [if_neg (by simp [herr])]
  simp only [htype]
  unfold ToChatState.completed
  have hsent : ∀ {t : ToChatState}, Quiet s t "" → ∃ u : ToChatState, Quiet s u "" ∧ u.sentStart = true ∧
      t.sendStartIfNeeded.sendStopIfNeeded = u.sendStopIfNeeded :=
    fun hnoted => ⟨_,hnoted.trans (quiet_sendStart _),sentStart_sendStart _,rfl⟩
  apply hsent
  cases e.response with
  | none => exact quiet_refl s
  | some r =>
    cases hu : r.usage with
    | none =>
      simp only [hu,Option.map_none,Option.getD_none]
      exact quiet_noteResponse r
    | some u =>
      simp only [hu,Option.map_some,Option.getD_some]
      exact (quiet_noteResponse r).trans (quiet_noteUsage u)

/-- The chunks of a stream without an error hold its final choice. -/
lemma handler_finalChoice (estimate : String → Usage) (model : String) (createdAt : ℤ) (shouldIncludeUsage : Bool)
    {before : List ResponsesStreamResponse} (hshaped : Shaped (before.foldl ToChatState.step (.init model createdAt)))
    (herr : (before.foldl ToChatState.step (.init model createdAt)).streamErr = none) (htype : e.type = .completed) :
    ∃ chunks usage, oaiResponsesToChatStreamHandler estimate model createdAt shouldIncludeUsage (before++[e]) =
      .ok (chunks,usage) ∧
        assembledChoice chunks = finalChoice (before.foldl ToChatState.step (.init model createdAt)) := by
  generalize hs : before.foldl ToChatState.step (.init model createdAt) = s at hshaped herr
  obtain ⟨u,hq,hstart,hu⟩ := step_completed herr htype
  have hus := hq.shaped hshaped
  have hstop : u.sendStopIfNeeded = { u.send (stopChoice u.finishReason) with sentStop := true } := by
    unfold ToChatState.sendStopIfNeeded
    rw [if_neg (by simp [hus.running])]
  have hfinal : (u.sendStopIfNeeded.sendStartIfNeeded).sendStopIfNeeded = u.sendStopIfNeeded := by
    have hstarted : u.sendStopIfNeeded.sentStart = true := by
      rw [hstop]
      exact hstart
    have hstopped : u.sendStopIfNeeded.sentStop = true := by
      rw [hstop]
    have hnoStart : u.sendStopIfNeeded.sendStartIfNeeded = u.sendStopIfNeeded := if_pos hstarted
    rw [hnoStart]
    exact if_pos hstopped
  have herr' : u.sendStopIfNeeded.streamErr = none := by
    rw [hstop]
    exact hq.streamErr.trans herr
  unfold oaiResponsesToChatStreamHandler
  rw [List.foldl_append,hs,List.foldl_cons,List.foldl_nil,hu]
  simp only
  rw [herr']
  simp only
  refine ⟨_,_,rfl,?_⟩
  rw [hfinal]
  have hchoices : ∀ extra : List ChatChunk, (∀ c∈extra, c.choices = []) →
      choices (u.sendStopIfNeeded.sent++extra) = choices u.sent++[stopChoice u.finishReason] := by
    intro extra hextra
    rw [hstop]
    have hnone : choices extra = [] := List.flatMap_eq_nil_iff.mpr hextra
    unfold choices at hnone ⊢
    rw [List.flatMap_append,hnone,List.append_nil]
    exact choices_send u _
  have htext : u.outputText = s.outputText := by rw [hq.outputText,String.append_empty]
  have hpieces : sentPieces u.sent = sentPieces s.sent := congrArg CallView.pieces hq.view
  have hroles := hus.roles
  rw [if_pos hstart] at hroles
  have hextra : ∀ usage : Usage, ∀ c∈(if shouldIncludeUsage = true then
      [(⟨u.sendStopIfNeeded.createdAt,u.sendStopIfNeeded.model,[],some usage⟩ : ChatChunk)] else []), c.choices = [] := by
    intro usage c hc
    split_ifs at hc
    · rw [List.mem_singleton.mp hc]
    · cases hc
  unfold assembledChoice finalChoice assembledCalls
  simp only
  rw [hchoices _ (hextra _),←hpieces,←htext]
  congr 1
  · congr 1
    · rw [List.map_append,String.join_append,hroles]
      simp [stopChoice]
    · rw [List.flatMap_append,String.join_append,hus.texts]
      simp [stopChoice,ChatChoice.texts]
    · rw [List.flatMap_append]
      simp only [stopChoice,List.flatMap_singleton,List.append_nil]
      rfl
  · rw [List.filterMap_append,hus.unfinished]
    show u.finishReason = _
    unfold ToChatState.finishReason
    simp only [hus.saw]

/-! ## The whole response -/

/-- The text of an item, if it is a message. -/
def messageText (o : ResponsesOutput) : String :=
  if o.type = "message" then outputText (o.content.filter (fun c => c.type = "output_text")) else ""

/-- The call of an item, if it is one. -/
def functionCall (o : ResponsesOutput) : Option ToolCall :=
  if o.type = "function_call" then some ⟨o.effectiveId,"function",Text.trimSpace o.name,o.argumentsString⟩ else none

lemma Complete.assistantText_eq {output : List ResponsesOutput} (h : Complete output) :
    assistantText output = String.join (output.map messageText) := by
  have hrole := h.role
  clear h
  unfold assistantText
  induction output with
  | nil => rfl
  | cons o output ih =>
    have ho := hrole o List.mem_cons_self
    have hrest := ih (fun p hp => hrole p (List.mem_cons_of_mem _ hp))
    rw [List.map_cons,String.join_cons,←hrest]
    unfold messageText
    by_cases htype : o.type = "message"
    · rw [List.filter_cons_of_pos (by simpa [htype] using ho htype),List.map_cons,String.join_cons,if_pos htype]
    · rw [List.filter_cons_of_neg (by simp [htype]),if_neg htype,String.empty_append]

lemma Complete.outputCalls {output : List ResponsesOutput} (h : Complete output) :
    output.filterMap outputCall = output.filterMap functionCall := by
  apply List.filterMap_congr
  intro o ho
  unfold outputCall functionCall
  by_cases htype : o.type = "function_call"
  · obtain ⟨hname,-⟩ := h.named o ho htype
    rw [if_neg (not_not.mpr htype),if_pos htype]
    simp only [if_neg hname]
    rfl
  · rw [if_pos htype,if_neg htype]

/-- The events of an item that bring text are the deltas of a message. -/
lemma Streamed.texts (hs : Streamed o added deltas done) :
    String.join (((added::deltas++[done]).filter (fun e => e.type = .outputTextDelta)).map
      ResponsesStreamResponse.delta) = messageText o := by
  obtain ⟨hadded,-⟩ := hs.added
  have hdone := hs.done.1
  rw [List.filter_append,List.filter_cons_of_neg (by simp [hadded]),List.filter_cons_of_neg (by simp [hdone]),
    List.filter_nil,List.append_nil]
  unfold messageText
  by_cases hmessage : o.type = "message"
  · obtain ⟨hall,htext⟩ := hs.text hmessage
    rw [if_pos hmessage,←htext,List.filter_eq_self.mpr (fun e he => by simpa using hall e he)]
  · rw [if_neg hmessage]
    have hnone : deltas.filter (fun e => e.type = .outputTextDelta) = [] := by
      apply List.filter_eq_nil_iff.mpr
      intro e he
      by_cases hcall : o.type = "function_call"
      · simp [(hs.arguments hcall e he).1]
      · rw [hs.nothing hcall hmessage] at he
        cases he
    rw [hnone]
    rfl

/-- The text that arrives is the text of the messages. -/
lemma Produces.arrivedText_eq (hp : Produces events resp) :
    arrivedText events = String.join (resp.output.map messageText) := by
  have hplaced : ∀ e∈events.filter (fun e => e.type = .outputTextDelta),
      e.outputIndex.getD 0 < resp.output.length ∧ e.outputIndex = some (e.outputIndex.getD 0) := by
    intro e he
    obtain ⟨hin,htype⟩ := List.mem_filter.mp he
    obtain ⟨k,hlt,hk⟩ := hp.placed e hin (.inl (of_decide_eq_true htype))
    rw [hk]
    exact ⟨hlt,rfl⟩
  have hparts := Gather.eq_flatMap_of_sorted hp.texts (fun e he => (hplaced e he).1)
  have hpart : ∀ k∈List.range resp.output.length, String.join
      (((events.filter (fun e => e.type = .outputTextDelta)).filter (fun e => e.outputIndex.getD 0 = k)).map
        ResponsesStreamResponse.delta) = ((resp.output[k]?).map messageText).getD "" := by
    intro k hk
    have hlt := List.mem_range.mp hk
    obtain ⟨added,deltas,done,hseg,hs⟩ := hp.items k _ (List.getElem?_eq_getElem hlt)
    rw [List.getElem?_eq_getElem hlt,Option.map_some,Option.getD_some,←hs.texts,←hseg]
    unfold segment
    rw [List.filter_filter,List.filter_filter]
    congr 2
    apply List.filter_congr
    intro e he
    by_cases htype : e.type = .outputTextDelta
    · have hself := (hplaced e (List.mem_filter.mpr ⟨he,by simpa using htype⟩)).2
      have hcarries : e.Carries := .inl htype
      rw [hself]
      simp [htype,hcarries]
    · simp [htype]
  have houtput : resp.output.map messageText =
      (List.range resp.output.length).map (fun k => ((resp.output[k]?).map messageText).getD "") := by
    apply List.ext_getElem?
    intro k
    rw [List.getElem?_map,List.getElem?_map]
    by_cases hk : k < resp.output.length
    · rw [List.getElem?_range hk,List.getElem?_eq_getElem hk]
      simp [List.getElem?_eq_getElem hk]
    · rw [List.getElem?_eq_none (by omega),List.getElem?_eq_none (by simpa using hk)]
      rfl
  unfold arrivedText
  rw [hparts,houtput,List.map_flatMap]
  generalize List.range resp.output.length = ks at hpart
  induction ks with
  | nil => rfl
  | cons k ks ih =>
    rw [List.flatMap_cons,String.join_append,List.map_cons,String.join_cons,
      ih (fun j hj => hpart j (List.mem_cons_of_mem _ hj)),hpart k List.mem_cons_self]

/-- The calls are announced in the order of the output. -/
lemma Produces.announcedIds (hp : Produces events resp) :
    events.filterMap announcedId = resp.output.filterMap (fun o => (functionCall o).map ToolCall.id) := by
  have hid : ∀ e∈events.filter (fun e => e.type = .outputItemAdded), announcedId e =
      (e.outputIndex.bind (fun k => resp.output[k]?)).bind (fun o => (functionCall o).map ToolCall.id) := by
    intro e he
    obtain ⟨hin,htype⟩ := List.mem_filter.mp he
    have hadded := of_decide_eq_true htype
    obtain ⟨k,o,added,deltas,done,ho,hk,hseg,hs⟩ := hp.item hin (.inr (.inl hadded))
    have he : e = added := by
      have hmem : e∈added::deltas++[done] := by
        rw [←hseg]
        exact List.mem_filter.mpr ⟨hin,by simp [ResponsesStreamResponse.Carries,hadded,hk]⟩
      rcases List.mem_append.mp hmem with hmem | hmem
      · rcases List.mem_cons.mp hmem with h | hmem
        · exact h
        · exfalso
          by_cases hcall : o.type = "function_call"
          · have h := (hs.arguments hcall e hmem).1
            rw [hadded] at h
            cases h
          · by_cases hmessage : o.type = "message"
            · have h := (hs.text hmessage).1 e hmem
              rw [hadded] at h
              cases h
            · rw [hs.nothing hcall hmessage] at hmem
              cases hmem
      · have h := hs.done.1
        rw [←List.mem_singleton.mp hmem,hadded] at h
        cases h
    subst he
    obtain ⟨-,item,hitem,hitype,hiid,hicall,-⟩ := hs.added
    rw [hk,Option.bind_some,ho,Option.bind_some]
    unfold functionCall
    by_cases htype : o.type = "function_call"
    · rw [announcedId_added hadded hitem (hitype.trans htype),if_pos htype]
      simp only [ResponsesOutput.effectiveId,hiid,hicall,Option.map_some]
    · rw [if_neg htype]
      refine announcedId_of_not_call ?_
      rintro (h | ⟨-,item',hitem',h⟩)
      · rw [hadded] at h
        cases h
      · rw [hitem] at hitem'
        rw [←Option.some.inj hitem',hitype] at h
        exact htype h
  have hfilter : events.filterMap announcedId =
      (events.filter (fun e => e.type = .outputItemAdded)).filterMap announcedId := by
    rw [List.filterMap_filter]
    apply List.filterMap_congr
    intro e _
    by_cases h : e.type = .outputItemAdded
    · simp [h]
    · rw [announcedId_of_type h]
      simp [h]
  have hindex : (events.filter (fun e => e.type = .outputItemAdded)).filterMap
      (fun e => (e.outputIndex.bind (fun k => resp.output[k]?)).bind (fun o => (functionCall o).map ToolCall.id)) =
        ((List.range resp.output.length).map some).filterMap
          (fun i => (i.bind (fun k => resp.output[k]?)).bind (fun o => (functionCall o).map ToolCall.id)) := by
    rw [←hp.announced,List.filterMap_map]
    rfl
  rw [hfilter,List.filterMap_congr hid,hindex,List.filterMap_map]
  exact Gather.filterMap_range_getElem? (fun o => (functionCall o).map ToolCall.id) resp.output

/-- The pieces that were sent for a call make up the call. -/
lemma joinPieces_of_tracks {v : CallView} (hs : v.Sound) {key : CallKey} {a : String} (ht : v.Tracks key a)
    (hname : key.name≠"") : joinPieces (v.piecesOf key.id) = ⟨key.id,"function",key.name,a⟩ := by
  have hne : v.piecesOf key.id≠[] := by
    intro h
    have hjoin := ht.name
    rw [h] at hjoin
    exact hname hjoin.symm
  obtain ⟨p,ps,hps⟩ := List.exists_cons_of_ne_nil hne
  have hp : p∈v.piecesOf key.id := by
    rw [hps]
    exact List.mem_cons_self
  obtain ⟨hin,hid⟩ := List.mem_filter.mp hp
  unfold joinPieces
  rw [ht.name,ht.sent,hps]
  simp only [List.map_cons,List.headD_cons]
  rw [of_decide_eq_true hid,hs.typed p hin]

/-- At the end every call of the response is there, once and whole. -/
lemma CallsHeld.calls (h : CallsHeld resp.output events s) (hp : Produces events resp) (hc : Complete resp.output) :
    (Gather.gather ToolCallDelta.index s.view.pieces).map (fun g => joinPieces g.2) =
      resp.output.filterMap functionCall := by
  have hgather : (Gather.gather ToolCallDelta.index s.view.pieces).map (fun g => joinPieces g.2) =
      s.view.ids.map (fun c => joinPieces (s.view.piecesOf c)) := by
    rw [h.sound.gathered,List.map_map]
    conv_rhs => rw [←List.zipIdx_map_fst 0 s.view.ids,List.map_map]
    rfl
  rw [hgather,h.ids,hp.announcedIds,List.map_filterMap]
  apply List.filterMap_congr
  intro o ho
  unfold functionCall
  by_cases htype : o.type = "function_call"
  · rw [if_pos htype]
    obtain ⟨k,hk⟩ := List.getElem?_of_mem ho
    obtain ⟨added,deltas,done,hseg,hs⟩ := hp.items k o hk
    have hheld := h.held k o hk htype
    have htaken : (segment k events).foldl (taken o) none = some o.argumentsString := by
      rw [hseg,List.foldl_append]
      exact taken_item _ (.inr hs.done.1) hs.done.2
    rw [htaken] at hheld
    obtain ⟨hname,-⟩ := hc.named o ho htype
    rw [←o.callKey_name] at hname
    have hjoined := joinPieces_of_tracks h.sound hheld hname
    rw [o.callKey_id,o.callKey_name] at hjoined
    simp only [Option.map_some,hjoined]
  · rw [if_neg htype]
    rfl

/-- The state at the end when no text has come. -/
lemma Produces.callsHeld (hp : Produces events resp) (hc : Complete resp.output) {before : List ResponsesStreamResponse}
    (hevents : events = before++[e]) (htype : e.type = .completed)
    (hbefore : ∀ e'∈before, e'.type≠.completed ∧ e'.type≠.error ∧ e'.type≠.failed) (htext : arrivedText events = "")
    (model : String) (createdAt : ℤ) :
    CallsHeld resp.output events (before.foldl ToChatState.step (.init model createdAt)) := by
  have hrun : ∀ pre post, before = pre++post →
      CallsHeld resp.output pre (pre.foldl ToChatState.step (.init model createdAt)) := by
    intro pre
    induction pre using List.reverseRecOn with
    | nil => exact fun _ _ => callsHeld_init resp.output model createdAt
    | append_singleton pre e' ih =>
      intro post hsplit
      have hpre := ih (e'::post) (by rw [hsplit,List.append_assoc]; rfl)
      have hin : e'∈before := by
        rw [hsplit]
        simp
      have hall : events = pre++e'::(post++[e]) := by
        rw [hevents,hsplit]
        simp
      obtain ⟨hcompleted,herror,hfailed⟩ := hbefore e' hin
      rw [List.foldl_append]
      by_cases hcall : e'.OfCall
      · exact hpre.call hp hc hall hcall
      · refine hpre.quiet hp hall hcall (fun htype' => ?_) hcompleted herror hfailed
        exact Text.join_eq_empty_iff.mp htext e'.delta (List.mem_map_of_mem (List.mem_filter.mpr
          ⟨by rw [hevents]; exact List.mem_append_left _ hin,by simpa using htype'⟩))
  have h := hrun before [] (List.append_nil before).symm
  have hnot : ¬e.Carries := by
    unfold ResponsesStreamResponse.Carries
    simp [htype]
  refine ⟨h.shaped,h.streamErr,h.noText,h.sound,?_,?_⟩
  · rw [h.ids,hevents,filterMap_concat_none (announcedId_of_type (by simp [htype]))]
  · intro k o ho ho'
    rw [hevents,segment_concat_of_not (fun hn => hnot hn.1)]
    exact h.held k o ho ho'

/-- The state at the end when the text comes first. -/
lemma TextFirst.textOnly (hfirst : TextFirst events) {before : List ResponsesStreamResponse}
    (hevents : events = before++[e])
    (hbefore : ∀ e'∈before, e'.type≠.completed ∧ e'.type≠.error ∧ e'.type≠.failed) (model : String)
    (createdAt : ℤ) : TextOnly before (before.foldl ToChatState.step (.init model createdAt)) := by
  have hrun : ∀ pre post, before = pre++post →
      TextOnly pre (pre.foldl ToChatState.step (.init model createdAt)) := by
    intro pre
    induction pre using List.reverseRecOn with
    | nil =>
      intro _ _
      exact ⟨(callsHeld_init [] model createdAt).shaped,rfl,rfl,rfl⟩
    | append_singleton pre e' ih =>
      intro post hsplit
      have hpre := ih (e'::post) (by rw [hsplit,List.append_assoc]; rfl)
      obtain ⟨hcompleted,herror,hfailed⟩ := hbefore e' (by rw [hsplit]; simp)
      rw [List.foldl_append]
      refine hpre.step (fun hcall => ?_) hcompleted herror hfailed
      obtain ⟨t,ht,htype,hdelta⟩ := hfirst pre e' (post++[e]) (by rw [hevents,hsplit]; simp) hcall
      exact arrivedText_ne ht htype hdelta
  exact hrun before [] (List.append_nil before).symm

end

def lookupCall : ResponsesOutput :=
  ⟨"function_call","fc_1","completed","",[],"call_1","lookup","",.string "\x7b\x7d"⟩

def greeting : ResponsesOutput := ⟨"message","msg_1","completed","assistant",[⟨"output_text","Hi"⟩],"","","",.absent⟩

/-- The events of one call, its arguments in two pieces. -/
def lookupEvents (k : ℕ) : List ResponsesStreamResponse :=
  [⟨.outputItemAdded,none,none,"",some { lookupCall with status := "in_progress", arguments := .string "" },some k,""⟩,
    ⟨.functionCallArgumentsDelta,none,none,"\x7b",none,some k,"fc_1"⟩,
    ⟨.functionCallArgumentsDelta,none,none,"\x7d",none,some k,"fc_1"⟩,
    ⟨.outputItemDone,none,none,"",some lookupCall,some k,""⟩]

def greetingEvents : List ResponsesStreamResponse :=
  [⟨.outputItemAdded,none,none,"",some { greeting with status := "in_progress", content := [] },some 0,""⟩,
    ⟨.outputTextDelta,none,none,"Hi",none,some 0,"msg_1"⟩,⟨.outputItemDone,none,none,"",some greeting,some 0,""⟩]

def lookupOnly : OpenAIResponsesResponse := ⟨"r","response",1,"completed","m",[lookupCall],none⟩

def greetingThenLookup : OpenAIResponsesResponse := ⟨"r","response",1,"completed","m",[greeting,lookupCall],none⟩

def completedEvent (resp : OpenAIResponsesResponse) : ResponsesStreamResponse :=
  ⟨.completed,some resp,none,"",none,none,""⟩

lemma streamed_lookup (k : ℕ) : ∃ added deltas done, lookupEvents k = added::deltas++[done] ∧
    Streamed lookupCall added deltas done := by
  have harguments : ""++String.join ["\x7b","\x7d"] = "\x7b\x7d" := by decide
  refine ⟨_,[_,_],_,rfl,⟨rfl,_,rfl,rfl,rfl,rfl,rfl,fun _ => harguments⟩,⟨rfl,rfl⟩,?_,?_,?_⟩
  · intro _ e he
    rcases List.mem_cons.mp he with rfl | he
    · exact ⟨rfl,rfl⟩
    · rw [List.mem_singleton.mp he]
      exact ⟨rfl,rfl⟩
  · exact fun h => absurd h (by decide)
  · exact fun h => absurd rfl h

lemma streamed_greeting : ∃ added deltas done, greetingEvents = added::deltas++[done] ∧
    Streamed greeting added deltas done := by
  refine ⟨_,[_],_,rfl,⟨rfl,_,rfl,rfl,rfl,rfl,rfl,fun h => absurd h (by decide)⟩,⟨rfl,rfl⟩,?_,?_,?_⟩
  · exact fun h => absurd h (by decide)
  · intro _
    refine ⟨fun e he => ?_,by decide⟩
    rw [List.mem_singleton.mp he]
  · exact fun _ h => absurd rfl h

lemma lookupOnly_produced : Produces (lookupEvents 0++[completedEvent lookupOnly]) lookupOnly := by
  constructor
  case items =>
    intro k o ho
    match k with
    | 0 =>
      obtain rfl := Option.some.inj ho
      exact streamed_lookup 0
    | k+1 => simp [lookupOnly] at ho
  case placed => decide
  case announced => decide
  case texts => decide
  case ends => exact ⟨_,_,rfl,rfl,rfl,by decide⟩

lemma greetingThenLookup_produced :
    Produces (greetingEvents++lookupEvents 1++[completedEvent greetingThenLookup]) greetingThenLookup := by
  constructor
  case items =>
    intro k o ho
    match k with
    | 0 =>
      obtain rfl := Option.some.inj ho
      exact streamed_greeting
    | 1 =>
      obtain rfl := Option.some.inj ho
      exact streamed_lookup 1
    | k+2 => simp [greetingThenLookup] at ho
  case placed => decide
  case announced => decide
  case texts => decide
  case ends => exact ⟨_,_,rfl,rfl,rfl,by decide⟩

lemma complete_of_single_call {output : List ResponsesOutput} (hcall : ∀ o∈output, o = greeting ∨ o = lookupCall)
    (hone : ∀ (j k : ℕ), output[j]? = some lookupCall → output[k]? = some lookupCall → j = k) : Complete output := by
  constructor
  case role =>
    intro o ho htype
    rcases hcall o ho with rfl | rfl
    · exact .inr rfl
    · exact absurd htype (by decide)
  case named =>
    intro o ho htype
    rcases hcall o ho with rfl | rfl
    · exact absurd htype (by decide)
    · exact ⟨by decide,by decide⟩
  case distinct =>
    intro j k o p ho hp hjk htype hptype
    exfalso
    rcases hcall o (List.mem_of_getElem? ho) with rfl | rfl
    · exact absurd htype (by decide)
    · rcases hcall p (List.mem_of_getElem? hp) with rfl | rfl
      · exact absurd hptype (by decide)
      · exact hjk (hone j k ho hp)

lemma lookupOnly_complete : Complete lookupOnly.output := by
  refine complete_of_single_call (fun o ho => .inr (List.mem_singleton.mp ho)) (fun j k hj hk => ?_)
  obtain ⟨hj,-⟩ := List.getElem?_eq_some_iff.mp hj
  obtain ⟨hk,-⟩ := List.getElem?_eq_some_iff.mp hk
  simp only [lookupOnly,List.length_singleton] at hj hk
  omega

lemma greetingThenLookup_complete : Complete greetingThenLookup.output := by
  refine complete_of_single_call (fun o ho => ?_) (fun j k hj hk => ?_)
  · simpa [greetingThenLookup] using ho
  · match j,k with
    | 0,_ => exact absurd (Option.some.inj hj) (by decide)
    | _,0 => exact absurd (Option.some.inj hk) (by decide)
    | 1,1 => rfl
    | j+2,_ => simp [greetingThenLookup] at hj
    | _,k+2 => simp [greetingThenLookup] at hk

end Compat
end Tierflow
