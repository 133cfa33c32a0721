import Tierflow.Compat.ResponsesStream
import Tierflow.Convert.FromClaude
import Tierflow.Relay.Loop

/-! What one attempt writes to the client before it fails. A stream is passed on piece by piece, so its error comes
when the pieces before it have been sent. -/
namespace Tierflow
namespace Relay
open Compat (ToChatState ResponsesStreamResponse ChatChunk)
open Convert.FromClaude (ClaudeResponse)

/-! ## Scanning a stream -/

/-- A line of the stream, or a ping that is sent while the stream is awaited. -/
inductive StreamItem (δ : Type*)
  | ping
  | data (d : δ)
  deriving DecidableEq, Repr

/-- What the scanning of a stream leaves behind: its own state, what was written, and the error it stopped at. -/
structure Scan (σ β : Type*) where
  state : σ
  frames : List β
  error : Option RelayError

section Scanner
variable {σ δ β : Type*} (handler : σ → δ → σ × List β × Option RelayError) (p : β)

/-- Every line goes to the handler, up to the first error. -/
def streamScanner : σ → List (StreamItem δ) → Scan σ β
  | s,[] => ⟨s,[],none⟩
  | s,.ping::items =>
    let r := streamScanner s items
    { r with frames := p::r.frames }
  | s,.data d::items =>
    match handler s d with
    | (s,frames,some e) => ⟨s,frames,some e⟩
    | (s,frames,none) =>
      let r := streamScanner s items
      { r with frames := frames++r.frames }

/-- What is known of a handler: the error of each line, and which lines make it write when it has written nothing. -/
structure Describes (fails : δ → Option RelayError) (speaks : δ → Prop) (idle : σ → Prop) : Prop where
  error : ∀ s d, (handler s d).2.2 = fails d
  failed : ∀ s d, fails d≠none → (handler s d).2.1 = []
  silent : ∀ s d, idle s → fails d = none → ¬speaks d → (handler s d).2.1 = [] ∧ idle (handler s d).1
  spoken : ∀ s d, idle s → fails d = none → speaks d → (handler s d).2.1≠[]

/-- The item makes something appear at the client. -/
def StreamItem.Shows (speaks : δ → Prop) : StreamItem δ → Prop
  | .ping => True
  | .data d => speaks d

/-- The stream fails at a line, and at none before it. -/
def FailsAt (fails : δ → Option RelayError) (before items : List (StreamItem δ)) (e : RelayError) : Prop :=
  ∃ d after, items = before++.data d::after ∧ fails d = some e ∧ ∀ d', .data d'∈before → fails d' = none

/-- The stream fails behind an item that the client sees. -/
def FailsAfterOutput (fails : δ → Option RelayError) (speaks : δ → Prop) (items : List (StreamItem δ))
    (e : RelayError) : Prop :=
  ∃ before, FailsAt fails before items e ∧ ∃ i∈before, i.Shows speaks

variable {handler p} {fails : δ → Option RelayError} {speaks : δ → Prop} {idle : σ → Prop}

lemma not_failsAt_nil (before : List (StreamItem δ)) (e : RelayError) : ¬FailsAt fails before [] e := by
  rintro ⟨d,after,h,-,-⟩
  simp at h

lemma failsAt_ping (before items : List (StreamItem δ)) (e : RelayError) :
    FailsAt fails before (.ping::items) e ↔ ∃ rest, before = .ping::rest ∧ FailsAt fails rest items e := by
  constructor
  · rintro ⟨d,after,h,hd,hbefore⟩
    cases before with
    | nil => cases h
    | cons i rest =>
      obtain ⟨rfl,hrest⟩ := List.cons.inj h
      exact ⟨rest,rfl,d,after,hrest,hd,fun d' hd' => hbefore d' (List.mem_cons_of_mem _ hd')⟩
  · rintro ⟨rest,rfl,d,after,rfl,hd,hbefore⟩
    refine ⟨d,after,rfl,hd,fun d' hd' => hbefore d' ?_⟩
    simpa using hd'

lemma failsAt_data (before items : List (StreamItem δ)) (d : δ) (e : RelayError) :
    FailsAt fails before (.data d::items) e ↔ (before = [] ∧ fails d = some e) ∨
      fails d = none ∧ ∃ rest, before = .data d::rest ∧ FailsAt fails rest items e := by
  constructor
  · rintro ⟨d',after,h,hd,hbefore⟩
    cases before with
    | nil =>
      cases h
      exact .inl ⟨rfl,hd⟩
    | cons i rest =>
      obtain ⟨rfl,hrest⟩ := List.cons.inj h
      refine .inr ⟨hbefore d List.mem_cons_self,rest,rfl,d',after,hrest,hd,?_⟩
      exact fun x hx => hbefore x (List.mem_cons_of_mem _ hx)
  · rintro (⟨rfl,hd⟩ | ⟨hnone,rest,rfl,d',after,rfl,hd,hbefore⟩)
    · exact ⟨d,items,rfl,hd,fun d' hd' => absurd hd' List.not_mem_nil⟩
    · refine ⟨d',after,rfl,hd,fun x hx => ?_⟩
      obtain heq | hx := List.mem_cons.mp hx
      · cases heq
        exact hnone
      · exact hbefore x hx

lemma scanner_fail {s : σ} {d : δ} (hd : Describes handler fails speaks idle) {e : RelayError} (h : fails d = some e)
    (items : List (StreamItem δ)) :
    (streamScanner handler p s (.data d::items)).frames = [] ∧
      (streamScanner handler p s (.data d::items)).error = some e := by
  have herr := (hd.error s d).trans h
  have hframes := hd.failed s d (by rw [h]; exact Option.some_ne_none e)
  rw [streamScanner]
  generalize handler s d = r at herr hframes
  obtain ⟨t,frames,err⟩ := r
  cases herr
  exact ⟨hframes,rfl⟩

lemma scanner_next {s : σ} {d : δ} (hd : Describes handler fails speaks idle) (h : fails d = none)
    (items : List (StreamItem δ)) :
    (streamScanner handler p s (.data d::items)).frames =
        (handler s d).2.1++(streamScanner handler p (handler s d).1 items).frames ∧
      (streamScanner handler p s (.data d::items)).error =
        (streamScanner handler p (handler s d).1 items).error := by
  have herr := (hd.error s d).trans h
  rw [streamScanner]
  generalize handler s d = r at herr
  obtain ⟨t,frames,err⟩ := r
  cases herr
  exact ⟨rfl,rfl⟩

/-- A stream ends in the error of its first line that fails. -/
lemma scanner_error_iff (hd : Describes handler fails speaks idle) (s : σ) (items : List (StreamItem δ))
    (e : RelayError) :
    (streamScanner handler p s items).error = some e ↔ ∃ before, FailsAt fails before items e := by
  induction items generalizing s with
  | nil =>
    refine iff_of_false (fun h => by cases h) ?_
    rintro ⟨before,h⟩
    exact not_failsAt_nil before e h
  | cons i items ih =>
    cases i with
    | ping =>
      refine (ih s).trans ?_
      simp only [failsAt_ping]
      constructor
      · rintro ⟨before,h⟩
        exact ⟨_,before,rfl,h⟩
      · rintro ⟨_,before,-,h⟩
        exact ⟨before,h⟩
    | data d =>
      simp only [failsAt_data]
      cases hf : fails d with
      | some e' =>
        rw [(scanner_fail hd hf items).2]
        constructor
        · intro h
          exact ⟨[],.inl ⟨rfl,h⟩⟩
        · rintro ⟨_,⟨-,h⟩ | ⟨h,-⟩⟩
          · exact h
          · cases h
      | none =>
        rw [(scanner_next hd hf items).2,ih]
        constructor
        · rintro ⟨before,h⟩
          exact ⟨_,.inr ⟨rfl,before,rfl,h⟩⟩
        · rintro ⟨_,⟨-,h⟩ | ⟨-,before,-,h⟩⟩
          · cases h
          · exact ⟨before,h⟩

/-- The client has got something when a stream fails, exactly if an item that shows stands before the failing line. -/
theorem scanner_fails_after_output_iff (hd : Describes handler fails speaks idle) {s : σ} (hs : idle s)
    (items : List (StreamItem δ)) (e : RelayError) :
    ((streamScanner handler p s items).frames≠[] ∧ (streamScanner handler p s items).error = some e) ↔
      FailsAfterOutput fails speaks items e := by
  induction items generalizing s with
  | nil =>
    refine iff_of_false (fun h => h.1 rfl) ?_
    rintro ⟨before,h,-⟩
    exact not_failsAt_nil before e h
  | cons i items ih =>
    cases i with
    | ping =>
      have herr := scanner_error_iff (p := p) hd s items e
      constructor
      · rintro ⟨-,h⟩
        obtain ⟨before,hb⟩ := herr.mp h
        exact ⟨.ping::before,(failsAt_ping _ _ _).mpr ⟨before,rfl,hb⟩,.ping,List.mem_cons_self,trivial⟩
      · rintro ⟨_,h,-⟩
        obtain ⟨before,-,hb⟩ := (failsAt_ping _ _ _).mp h
        exact ⟨List.cons_ne_nil _ _,herr.mpr ⟨before,hb⟩⟩
    | data d =>
      cases hf : fails d with
      | some e' =>
        refine iff_of_false (fun h => h.1 (scanner_fail hd hf items).1) ?_
        rintro ⟨before,hb,i,hi,-⟩
        obtain ⟨rfl,-⟩ | ⟨hnone,-⟩ := (failsAt_data _ _ _ _).mp hb
        · exact List.not_mem_nil hi
        · rw [hf] at hnone
          cases hnone
      | none =>
        rw [(scanner_next hd hf items).1,(scanner_next hd hf items).2]
        by_cases hspeaks : speaks d
        · have hframes := hd.spoken s d hs hf hspeaks
          have herr := scanner_error_iff (p := p) hd (handler s d).1 items e
          constructor
          · rintro ⟨-,h⟩
            obtain ⟨before,hb⟩ := herr.mp h
            have hat : FailsAt fails (.data d::before) (.data d::items) e :=
              (failsAt_data _ _ _ _).mpr (.inr ⟨hf,before,rfl,hb⟩)
            exact ⟨_,hat,.data d,List.mem_cons_self,hspeaks⟩
          · rintro ⟨_,h,-⟩
            refine ⟨fun hnil => hframes (List.append_eq_nil_iff.mp hnil).1,herr.mpr ?_⟩
            obtain ⟨-,h⟩ | ⟨-,before,-,hb⟩ := (failsAt_data _ _ _ _).mp h
            · rw [hf] at h
              cases h
            · exact ⟨before,hb⟩
        · obtain ⟨hframes,hidle⟩ := hd.silent s d hs hf hspeaks
          rw [hframes,List.nil_append,ih hidle]
          constructor
          · rintro ⟨before,hb,i,hi,hshow⟩
            exact ⟨_,(failsAt_data _ _ _ _).mpr (.inr ⟨hf,before,rfl,hb⟩),i,List.mem_cons_of_mem _ hi,hshow⟩
          · rintro ⟨_,h,i,hi,hshow⟩
            obtain ⟨rfl,-⟩ | ⟨-,before,rfl,hb⟩ := (failsAt_data _ _ _ _).mp h
            · exact absurd hi List.not_mem_nil
            · refine ⟨before,hb,i,?_,hshow⟩
              refine (List.mem_cons.mp hi).resolve_left ?_
              rintro rfl
              exact hspeaks hshow

end Scanner

/-! ## The handlers -/

/-- How the handlers write what they have to say. -/
structure Frames (J β : Type*) where
  ping : β
  claudeChunk : ClaudeResponse J → β
  claudeAsOpenAI : ClaudeResponse J → β
  chat : ChatChunk → β
  finalUsage : List (ClaudeResponse J) → β
  done : β
  error : RelayError → β

inductive ClientFormat
  | openAI
  | claude
  | other
  deriving DecidableEq, Repr

/-- A line of a Claude stream; `errorType` is the type of its error. -/
inductive ClaudeData (J : Type*)
  | malformed
  | response (r : ClaudeResponse J) (errorType : String)

section Handlers
variable {J β : Type*} (F : Frames J β)

def claudeError : ClaudeData J → Option RelayError
  | .malformed => some ⟨500,"bad_response_body",false⟩
  | .response _ errorType => if errorType≠"" then some ⟨500,errorType,false⟩ else none

/-- The types that `FormatClaudeResponseInfo` knows. -/
def formatsClaudeResponse (r : ClaudeResponse J) : Bool :=
  r.type == "message_start" || r.type == "content_block_delta" || r.type == "message_delta" ||
    r.type == "content_block_start"

/-- One line; it is written at once. -/
def handleStreamResponseData (format : ClientFormat) (_ : Unit) (d : ClaudeData J) :
    Unit × List β × Option RelayError :=
  match claudeError d,d with
  | some e,_ => ((),[],some e)
  | none,.malformed => ((),[],none)
  | none,.response r _ =>
    match format with
    | .claude => ((),[F.claudeChunk r],none)
    | .openAI => ((),if formatsClaudeResponse r then [F.claudeAsOpenAI r] else [],none)
    | .other => ((),[],none)

def claudeResponses (items : List (StreamItem (ClaudeData J))) : List (ClaudeResponse J) :=
  items.filterMap fun
    | .data (.response r _) => some r
    | _ => none

def handleStreamFinalResponse (format : ClientFormat) (shouldIncludeUsage : Bool)
    (items : List (StreamItem (ClaudeData J))) : List β :=
  if format = .openAI then (if shouldIncludeUsage then [F.finalUsage (claudeResponses items)] else [])++[F.done] else []

/-- What `ClaudeStreamHandler` writes, and its error. -/
def claudeStreamHandler (format : ClientFormat) (shouldIncludeUsage : Bool) (items : List (StreamItem (ClaudeData J))) :
    List β × Option RelayError :=
  let r := streamScanner (handleStreamResponseData F format) F.ping () items
  match r.error with
  | some e => (r.frames,some e)
  | none => (r.frames++handleStreamFinalResponse F format shouldIncludeUsage items,none)

/-- The lines that the client gets to see. -/
def claudeSpeaks (format : ClientFormat) : ClaudeData J → Prop
  | .malformed => False
  | .response r _ => format = .claude ∨ format = .openAI ∧ formatsClaudeResponse r = true

lemma claude_describes (format : ClientFormat) : Describes (handleStreamResponseData F format) claudeError
    (claudeSpeaks format) (fun _ => True) where
  error := by
    intro s d
    unfold handleStreamResponseData
    cases hd : claudeError d with
    | some e => rfl
    | none =>
      cases d with
      | malformed => rfl
      | response r errorType => cases format <;> rfl
  failed := by
    intro s d hne
    unfold handleStreamResponseData
    cases hd : claudeError d with
    | some e => rfl
    | none => exact absurd hd hne
  silent := by
    intro s d _ hnone hsilent
    unfold handleStreamResponseData
    rw [hnone]
    cases d with
    | malformed => exact ⟨rfl,trivial⟩
    | response r errorType =>
      cases format with
      | claude => exact absurd (.inl rfl) hsilent
      | openAI =>
        refine ⟨if_neg ?_,trivial⟩
        exact fun hf => hsilent (.inr ⟨rfl,hf⟩)
      | other => exact ⟨rfl,trivial⟩
  spoken := by
    intro s d _ hnone hspeaks
    unfold handleStreamResponseData
    rw [hnone]
    cases d with
    | malformed => exact hspeaks.elim
    | response r errorType =>
      obtain rfl | ⟨rfl,hf⟩ := hspeaks
      · exact List.cons_ne_nil _ _
      · simp only [hf,if_true]
        exact List.cons_ne_nil _ _

/-- The error of a failed response: its own with its code, or the one of the handler. -/
def streamError (e : ResponsesStreamResponse) (code : String) : Option RelayError :=
  if e.type = .error ∨ e.type = .failed then
    match e.error with
    | some err => if err.type≠"" then some ⟨500,code,false⟩ else some ⟨500,"bad_response",false⟩
    | none => some ⟨500,"bad_response",false⟩
  else none

def responsesError : Option (ResponsesStreamResponse × String) → Option RelayError
  | none => none
  | some (e,code) => streamError e code

/-- One line, with the code of its error; a line that does not parse is passed over. -/
def responsesData (s : ToChatState) (d : Option (ResponsesStreamResponse × String)) :
    ToChatState × List β × Option RelayError :=
  match d with
  | none => (s,[],none)
  | some (e,code) =>
    let t := s.step e
    (t,(t.sent.drop s.sent.length).map F.chat,streamError e code)

/-- What `OaiResponsesToChatStreamHandler` writes for an OpenAI client, and its error. -/
def oaiResponsesToChatOutput (estimate : String → Compat.Usage) (model : String) (createdAt : ℤ)
    (shouldIncludeUsage : Bool) (items : List (StreamItem (Option (ResponsesStreamResponse × String)))) :
    List β × Option RelayError :=
  let r := streamScanner (responsesData F) F.ping (.init model createdAt) items
  match r.error with
  | some e => (r.frames,some e)
  | none =>
    let usage := if r.state.usage.totalTokens = 0 then estimate r.state.usageText else r.state.usage
    let s := r.state.sendStartIfNeeded.sendStopIfNeeded
    let last := (s.sent.drop r.state.sent.length)++
      (if shouldIncludeUsage then [⟨s.createdAt,s.model,[],some usage⟩] else [])
    (r.frames++last.map F.chat++[F.done],none)

/-- The events that start the answer. -/
def responsesSpeaks : Option (ResponsesStreamResponse × String) → Prop
  | none => False
  | some (e,_) =>
    match e.type with
    | .reasoningSummaryTextDelta => e.delta≠""
    | .outputTextDelta => True
    | .outputItemAdded | .outputItemDone => ∃ item∈e.item, item.type = "function_call" ∧ item.effectiveId≠""
    | .functionCallArgumentsDelta => Text.trimSpace e.itemId≠""
    | .completed => True
    | _ => False

/-- Nothing has been sent. -/
structure Idle (s : ToChatState) : Prop where
  sent : s.sent = []
  sentStart : s.sentStart = false
  streamErr : s.streamErr = none
  outputText : s.outputText = ""
  canonical : s.canonicalIdByItemId "" = ""

lemma sent_send_ne_nil (s : ToChatState) (c : Compat.ChatChoice) : (s.send c).sent≠[] := by
  simp [ToChatState.send]

lemma Idle.start {s : ToChatState} (h : Idle s) : s.sendStartIfNeeded.sent≠[] := by
  rw [ToChatState.sendStartIfNeeded,h.sentStart,if_neg (by decide)]
  exact sent_send_ne_nil s _

lemma Idle.reasoning {s : ToChatState} {delta : String} (hd : delta≠"") :
    (s.sendReasoningSummaryDelta delta).sent≠[] := by
  rw [ToChatState.sendReasoningSummaryDelta,if_neg hd]
  exact sent_send_ne_nil _ _

lemma Idle.text {s : ToChatState} (h : Idle s) (delta : String) : (s.outputTextDelta delta).sent≠[] := by
  unfold ToChatState.outputTextDelta
  simp only
  split_ifs
  · exact h.start
  · exact sent_send_ne_nil _ _

lemma sent_stop_ne_nil {s : ToChatState} (h : s.sentStart = false) : s.sendStartIfNeeded.sendStopIfNeeded.sent≠[] := by
  unfold ToChatState.sendStopIfNeeded
  split_ifs
  · rw [ToChatState.sendStartIfNeeded,h,if_neg (by decide)]
    exact sent_send_ne_nil s _
  · exact sent_send_ne_nil _ _

lemma Idle.completed {s : ToChatState} (h : Idle s) (response : Option Compat.OpenAIResponsesResponse) :
    (s.completed response).sent≠[] := by
  cases response with
  | none => exact sent_stop_ne_nil h.sentStart
  | some r =>
    refine sent_stop_ne_nil (s := (r.usage.map (s.noteResponse r).noteUsage).getD (s.noteResponse r)) ?_
    cases r.usage with
    | none => exact h.sentStart
    | some u => exact h.sentStart

lemma Idle.call {s : ToChatState} (h : Idle s) {callId : String} (hid : callId≠"") (name argsDelta : String) :
    (s.sendToolCallDelta callId name argsDelta).sent≠[] := by
  rw [ToChatState.sendToolCallDelta,if_neg hid,if_neg (not_not.mpr h.outputText)]
  exact sent_send_ne_nil _ _

lemma Idle.noteName {s : ToChatState} (h : Idle s) (callId name : String) : Idle (s.noteName callId name) := by
  unfold ToChatState.noteName
  split_ifs
  · exact ⟨h.sent,h.sentStart,h.streamErr,h.outputText,h.canonical⟩
  · exact h

lemma Idle.noteArgs {s : ToChatState} (h : Idle s) (callId newArgs : String) : Idle (s.noteArgs callId newArgs) := by
  unfold ToChatState.noteArgs
  split_ifs
  · exact ⟨h.sent,h.sentStart,h.streamErr,h.outputText,h.canonical⟩
  · exact h

lemma Idle.noteItem {s : ToChatState} (h : Idle s) (item : Compat.ResponsesOutput) : Idle (s.noteItem item) := by
  unfold ToChatState.noteItem
  simp only
  split_ifs with hid
  · refine ⟨h.sent,h.sentStart,h.streamErr,h.outputText,?_⟩
    simp only
    rw [Function.update_of_ne (Ne.symm hid.1)]
    exact h.canonical
  · exact h

lemma Idle.silent {s : ToChatState} (h : Idle s) : (s.sent.drop s.sent.length).map F.chat = [] ∧ Idle s := by
  refine ⟨?_,h⟩
  rw [h.sent]
  rfl

lemma streamError_eq_none_iff (e : ResponsesStreamResponse) (code : String) :
    streamError e code = none ↔ ¬(e.type = .error ∨ e.type = .failed) := by
  unfold streamError
  by_cases ht : e.type = .error ∨ e.type = .failed
  · rw [if_pos ht]
    refine iff_of_false ?_ (not_not.mpr ht)
    cases e.error with
    | none => exact Option.some_ne_none _
    | some err =>
      show (if err.type≠"" then _ else _)≠none
      split_ifs
      · exact Option.some_ne_none _
      · exact Option.some_ne_none _
  · rw [if_neg ht]
    exact iff_of_true rfl ht

lemma sent_step_of_failed {s : ToChatState} {e : ResponsesStreamResponse} (ht : e.type = .error ∨ e.type = .failed) :
    (s.step e).sent = s.sent := by
  rw [ToChatState.step]
  by_cases hs : s.streamErr≠none
  · rw [if_pos hs]
  · rw [if_neg hs]
    obtain ht | ht := ht <;> rw [ht] <;> rfl

lemma responses_silent {s : ToChatState} (h : Idle s) {e : ResponsesStreamResponse} {code : String}
    (hnone : streamError e code = none) (hs : ¬responsesSpeaks (some (e,code))) : Idle (s.step e) := by
  rw [ToChatState.step,if_neg (not_not.mpr h.streamErr)]
  unfold responsesSpeaks at hs
  have hgood := (streamError_eq_none_iff e code).mp hnone
  cases ht : e.type <;> simp only [ht] at hs ⊢
  case created =>
    cases e.response with
    | none => exact h
    | some r => exact ⟨h.sent,h.sentStart,h.streamErr,h.outputText,h.canonical⟩
  case reasoningSummaryTextDelta =>
    rw [ToChatState.sendReasoningSummaryDelta,if_pos (not_not.mp hs)]
    exact h
  case reasoningSummaryTextDone =>
    split_ifs
    · exact ⟨h.sent,h.sentStart,h.streamErr,h.outputText,h.canonical⟩
    · exact h
  case outputTextDelta => exact absurd trivial hs
  case completed => exact absurd trivial hs
  case functionCallArgumentsDelta =>
    have hitem : Text.trimSpace e.itemId = "" := not_not.mp hs
    unfold ToChatState.argumentsDelta
    simp only [hitem,h.canonical,if_true]
    exact h
  case outputItemAdded | outputItemDone =>
    cases hi : e.item with
    | none => exact h
    | some item =>
      rw [Option.map_some,Option.getD_some,ToChatState.outputItem]
      split_ifs with hcall
      · exact h
      · have hid : item.effectiveId = "" := by
          by_contra hne
          exact hs ⟨item,hi,not_not.mp hcall,hne⟩
        simp only
        rw [ToChatState.sendToolCallDelta,if_pos hid]
        exact ((h.noteItem item).noteName _ _).noteArgs _ _
  case error => exact absurd (.inl ht) hgood
  case failed => exact absurd (.inr ht) hgood
  case functionCallArgumentsDone => exact h
  case other => exact h

lemma responses_spoken {s : ToChatState} (h : Idle s) {e : ResponsesStreamResponse} {code : String}
    (hs : responsesSpeaks (some (e,code))) : (s.step e).sent≠[] := by
  rw [ToChatState.step,if_neg (not_not.mpr h.streamErr)]
  unfold responsesSpeaks at hs
  cases ht : e.type <;> simp only [ht] at hs ⊢
  case reasoningSummaryTextDelta => exact Idle.reasoning hs
  case outputTextDelta => exact h.text e.delta
  case completed => exact h.completed e.response
  case functionCallArgumentsDelta =>
    unfold ToChatState.argumentsDelta
    simp only
    have hid : (if s.canonicalIdByItemId (Text.trimSpace e.itemId) = "" then Text.trimSpace e.itemId
        else s.canonicalIdByItemId (Text.trimSpace e.itemId))≠"" := by
      split_ifs with hc
      · exact hs
      · exact hc
    rw [if_neg hid]
    refine Idle.call ?_ hid _ _
    exact ⟨h.sent,h.sentStart,h.streamErr,h.outputText,h.canonical⟩
  case outputItemAdded | outputItemDone =>
    obtain ⟨item,hi,hcall,hid⟩ := hs
    rw [Option.mem_def.mp hi,Option.map_some,Option.getD_some,ToChatState.outputItem,if_neg (not_not.mpr hcall)]
    simp only
    exact (((h.noteItem item).noteName _ _).noteArgs _ _).call hid _ _

lemma responses_describes : Describes (responsesData F) responsesError responsesSpeaks Idle where
  error := by
    intro s d
    cases d with
    | none => rfl
    | some d => rfl
  failed := by
    intro s d hne
    cases d with
    | none => rfl
    | some d =>
      obtain ⟨e,code⟩ := d
      have hfailed : e.type = .error ∨ e.type = .failed := by
        by_contra hgood
        exact hne ((streamError_eq_none_iff e code).mpr hgood)
      have hsent := sent_step_of_failed (s := s) hfailed
      rw [responsesData,hsent]
      simp
  silent := by
    intro s d h hnone hs
    cases d with
    | none => exact ⟨rfl,h⟩
    | some d =>
      have hidle := responses_silent h hnone hs
      refine ⟨?_,hidle⟩
      simp [responsesData,hidle.sent]
  spoken := by
    intro s d h _ hs
    cases d with
    | none => exact hs.elim
    | some d =>
      have hsent := responses_spoken h hs
      simpa [responsesData,h.sent] using hsent

lemma idle_init (model : String) (createdAt : ℤ) : Idle (.init model createdAt) := ⟨rfl,rfl,rfl,rfl,rfl⟩

end Handlers

end Relay
end Tierflow
