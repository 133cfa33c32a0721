import Tierflow.Relay.GroupAttempts
import Tierflow.Relay.StreamErrors

/-! What the client of one request gets. Every attempt writes to the same body, so an attempt behind one that has
written something continues its answer with another. -/
namespace Tierflow
namespace Relay
open Compat (ResponsesStreamResponse)
open Routing

/-! ## Attempts -/

/-- How the upstream of an attempt behaves: it refuses, with some pings before; it streams to one of the two handlers
that report errors of a stream; or the answer is written by another handler, which then may still fail. -/
inductive Upstream (J β : Type*)
  | refuses (pings : ℕ) (e : RelayError)
  | claude (format : ClientFormat) (shouldIncludeUsage : Bool) (items : List (StreamItem (ClaudeData J)))
  | responses (estimate : String → Compat.Usage) (model : String) (createdAt : ℤ) (shouldIncludeUsage : Bool)
      (items : List (StreamItem (Option (ResponsesStreamResponse × String))))
  | other (frames : List β) (e : Option RelayError)

section
variable {J β : Type*} (F : Frames J β)

/-- What an attempt writes, and its error. -/
def Upstream.run : Upstream J β → List β × Option RelayError
  | .refuses pings e => (List.replicate pings F.ping,some e)
  | .claude format shouldIncludeUsage items => claudeStreamHandler F format shouldIncludeUsage items
  | .responses estimate model createdAt shouldIncludeUsage items =>
    oaiResponsesToChatOutput F estimate model createdAt shouldIncludeUsage items
  | .other frames e => (frames,e)

/-- The attempt fails with this error when the client has got something of it. -/
def Upstream.FailsAfterOutput : Upstream J β → RelayError → Prop
  | .refuses pings e',e => 0<pings ∧ e' = e
  | .claude format _ items,e => Relay.FailsAfterOutput claudeError (claudeSpeaks format) items e
  | .responses _ _ _ _ items,e => Relay.FailsAfterOutput responsesError responsesSpeaks items e
  | .other frames e',e => frames≠[] ∧ e' = some e

/-- Where a handler passes the error of its scan on, the frames of the scan are all that was written. -/
lemma run_of_scan {σ : Type*} (r : Scan σ β) (final : List β) (e : RelayError) :
    let out := match r.error with
      | some e => (r.frames,some e)
      | none => (final,none)
    (out.1≠[] ∧ out.2 = some e) ↔ r.frames≠[] ∧ r.error = some e := by
  cases r.error with
  | none => simp
  | some e' => exact Iff.rfl

lemma failsAfterOutput_iff (u : Upstream J β) (e : RelayError) :
    ((u.run F).1≠[] ∧ (u.run F).2 = some e) ↔ u.FailsAfterOutput e := by
  cases u with
  | refuses pings e' =>
    unfold Upstream.run Upstream.FailsAfterOutput
    simp [Nat.pos_iff_ne_zero]
  | claude format shouldIncludeUsage items =>
    refine (run_of_scan _ _ e).trans ?_
    exact scanner_fails_after_output_iff (claude_describes F format) trivial items e
  | responses estimate model createdAt shouldIncludeUsage items =>
    refine (run_of_scan _ _ e).trans ?_
    exact scanner_fails_after_output_iff (responses_describes F) (idle_init model createdAt) items e
  | other frames e' => exact Iff.rfl

/-! ## The loop and the body -/

/-- What one pass finds around it: the tables, the upstream, and what the channel's mapping of status codes and the
rule on violations make of an error. -/
structure Around (J β : Type*) where
  surroundings : Surroundings
  upstream : Upstream J β
  reset : RelayError → RelayError

def Around.outcome (x : Around J β) : Option RelayError := (x.upstream.run F).2.map x.reset

/-- The surroundings of the pass, with the outcome of the attempt. -/
def Around.world (x : Around J β) : Surroundings := { x.surroundings with outcome := x.outcome F }

/-- The state of the loop, and what each attempt has written. -/
structure Delivery (β : Type*) where
  relay : RelayState
  outputs : List (List β)

/-- A pass, with what its attempt writes. -/
def deliverPass (S : RelaySettings) (x : Around J β) (d : Delivery β) : Pass (Delivery β) :=
  let outputs :=
    if (upstreamAttempt S (x.world F) d.relay).isSome then d.outputs++[(x.upstream.run F).1] else d.outputs
  match relayPass S (x.world F) d.relay with
  | .next s => .next ⟨s,outputs⟩
  | .done s => .done ⟨s,outputs⟩

/-- The body of the response: the outputs of all attempts, and the error of the request. -/
def Delivery.body (d : Delivery β) : List β := d.outputs.flatten++(d.relay.newAPIError.map F.error).toList

/-! ## No retry after output -/

/-- Behind an attempt that has written something there is no other. -/
def NoRetryAfterOutput (d : Delivery β) : Prop := ∀ old o new, d.outputs = old++o::new → o≠[] → new = []

/-- The error ends the request: no other key is tried, and no other channel, or the attempts are used up. -/
def EndsRequest (S : RelaySettings) (w : Surroundings) (s : RelayState) (id : ℕ) (e : RelayError) : Prop :=
  rotateTo S w s id e = none ∧
    (shouldRetry S w { s.ctx with abandonedChannel := id::s.ctx.abandonedChannel } e (S.retryTimes-s.param.retry) = false ∨
      maxTotalAttempts S ≤ s.attempts ∨ ¬s.param.increaseRetry.retry≤S.retryTimes)

/-- If the attempt of the pass fails when the client has got something of it, then with an error that ends the
request. -/
def MeetsOutput (S : RelaySettings) (x : Around J β) (d : Delivery β) : Prop :=
  ∀ id p c, Attempts S (x.world F) d.relay id p c → ∀ e, x.upstream.FailsAfterOutput e →
    EndsRequest S (x.world F)
      { attempted d.relay id p c with ctx := { c with channelMeta := true }, newAPIError := some (x.reset e) } id (x.reset e)

/-- All outputs are empty, or all but the last and there is no room for another attempt. -/
structure Closed (S : RelaySettings) (d : Delivery β) : Prop where
  earlier : ∀ o∈d.outputs.dropLast, o = []
  last : (∃ o∈d.outputs, o≠[]) → maxTotalAttempts S ≤ d.relay.attempts ∨ ¬d.relay.param.retry≤S.retryTimes

/-- The body is the output of one attempt, with an error behind it at most. -/
structure OneOutput (d : Delivery β) : Prop where
  noRetry : NoRetryAfterOutput d
  body : d.body F = d.outputs.getLast?.getD []++(d.relay.newAPIError.map F.error).toList

def begun (β : Type*) (tokenGroup modelName : String) (c : Context) : Delivery β :=
  ⟨initialState tokenGroup modelName c,[]⟩

/-! ## One pass -/

lemma oneOutput_of_earlier {d : Delivery β} (h : ∀ o∈d.outputs.dropLast, o = []) : OneOutput F d where
  noRetry := by
    intro old o new heq hne
    by_contra hnew
    refine hne (h o ?_)
    rw [heq,List.dropLast_append_of_ne_nil (List.cons_ne_nil _ _),List.dropLast_cons_of_ne_nil hnew]
    simp
  body := by
    unfold Delivery.body
    congr 1
    cases hlast : d.outputs.getLast? with
    | none => rw [List.getLast?_eq_none_iff.mp hlast]; rfl
    | some o =>
      have hsplit := List.dropLast_append_getLast? o hlast
      have hempty : d.outputs.dropLast.flatten = [] := List.flatten_eq_nil_iff.mpr h
      rw [←hsplit,List.flatten_append,hempty,List.nil_append,List.flatten_singleton]
      rfl

/-- A pass after which the loop goes on has made an attempt that failed. -/
lemma relayPass_failed {S : RelaySettings} {w : Surroundings} {s s' : RelayState} (h : relayPass S w s = .next s') :
    ∃ id p c e, Attempts S w s id p c ∧ w.outcome = some e ∧ afterFailure S w
      { attempted s id p c with ctx := { c with channelMeta := true }, newAPIError := some e } id e = .next s' := by
  obtain ⟨id,p,c,-,hatt,-⟩ := relayPass_eq_next h
  rw [relayPass_of_attempts hatt] at h
  cases hbody : w.bodyError with
  | some e =>
    rw [hbody] at h
    contradiction
  | none =>
    cases hout : w.outcome with
    | none =>
      rw [hbody,hout] at h
      contradiction
    | some e =>
      rw [hbody,hout] at h
      exact ⟨id,p,c,e,hatt,rfl,h⟩

/-- Behind an error that ends the request there is no room for another attempt. -/
lemma EndsRequest.closed {S : RelaySettings} {w : Surroundings} {s s' : RelayState} {id : ℕ} {e : RelayError}
    (h : EndsRequest S w s id e) (hnext : afterFailure S w s id e = .next s') :
    maxTotalAttempts S ≤ s'.attempts ∨ ¬s'.param.retry≤S.retryTimes := by
  unfold afterFailure at hnext
  rw [h.1] at hnext
  simp only at hnext
  split_ifs at hnext with hretry
  cases hnext
  obtain hno | hroom := h.2
  · rw [hno] at hretry
    contradiction
  · exact hroom

/-- An attempt is only made behind empty outputs. -/
lemma Closed.empty {S : RelaySettings} {d : Delivery β} (h : Closed S d) {w : Surroundings} {id : ℕ} {p : RetryParam}
    {c : Context} (hatt : Attempts S w d.relay id p c) : ∀ o∈d.outputs, o = [] := by
  intro o ho
  by_contra hne
  obtain hmax | hretry := h.last ⟨o,ho,hne⟩
  · exact absurd hatt.budget (not_lt.mpr hmax)
  · exact hretry hatt.retries

lemma dropLast_outputs (outputs : List (List β)) (o : List β) (made : Bool) (h : made = true → ∀ o∈outputs, o = [])
    (hd : ∀ o∈outputs.dropLast, o = []) : ∀ o'∈(if made then outputs++[o] else outputs).dropLast, o' = [] := by
  cases made with
  | true =>
    rw [if_pos rfl,List.dropLast_concat]
    exact h rfl
  | false =>
    rw [if_neg (by decide)]
    exact hd

/-- A pass leaves all outputs but the last empty. -/
lemma Closed.earlier_pass {S : RelaySettings} {d : Delivery β} (h : Closed S d) (x : Around J β) :
    ∀ o∈(deliverPass F S x d).state.outputs.dropLast, o = [] := by
  have hmade : (upstreamAttempt S (x.world F) d.relay).isSome = true → ∀ o∈d.outputs, o = [] := by
    intro hsome
    obtain ⟨⟨id,model⟩,ha⟩ := Option.isSome_iff_exists.mp hsome
    obtain ⟨-,p,c,hatt,-⟩ := upstreamAttempt_eq_some.mp ha
    exact h.empty hatt
  have hout := dropLast_outputs d.outputs (x.upstream.run F).1 _ hmade h.earlier
  unfold deliverPass
  cases relayPass S (x.world F) d.relay with
  | next s => exact hout
  | done s => exact hout

/-- Where the condition is met, the loop goes on with empty outputs only, or without room for an attempt. -/
lemma Closed.next {S : RelaySettings} {d d' : Delivery β} (h : Closed S d) {x : Around J β}
    (hx : MeetsOutput F S x d) (hpass : deliverPass F S x d = .next d') : Closed S d' := by
  have hearlier := h.earlier_pass F x
  rw [hpass] at hearlier
  refine ⟨hearlier,?_⟩
  unfold deliverPass at hpass
  cases hr : relayPass S (x.world F) d.relay with
  | done s =>
    rw [hr] at hpass
    cases hpass
  | next s =>
    rw [hr] at hpass
    cases hpass
    rintro ⟨o,ho,hne⟩
    obtain ⟨id,p,c,e,hatt,hout,hafter⟩ := relayPass_failed hr
    have hempty := h.empty hatt
    have ho' : o = (x.upstream.run F).1 := by
      dsimp only at ho
      split_ifs at ho with hmade
      · rw [List.mem_append,List.mem_singleton] at ho
        exact ho.resolve_left (fun hmem => hne (hempty o hmem))
      · exact absurd (hempty o ho) hne
    obtain ⟨e₀,he₀,rfl⟩ := Option.map_eq_some_iff.mp (show x.outcome F = some e from hout)
    have hfails := (failsAfterOutput_iff F x.upstream e₀).mp ⟨ho' ▸ hne,he₀⟩
    exact (hx id p c hatt e₀ hfails).closed hafter

/-! ## The run -/

/-- In a run in which every attempt that fails behind some output ends the request, the client gets the output of one
attempt. -/
theorem one_output_of_met (S : RelaySettings) (tokenGroup modelName : String) (c : Context) {d : Delivery β}
    (hd : ReachesWhile (MeetsOutput F S) (deliverPass F S) (begun β tokenGroup modelName c) d) :
    OneOutput F d ∧ ∀ x : Around J β, OneOutput F (deliverPass F S x d).state := by
  have hclosed : Closed S d := hd.invariant (fun x e e' he hx hpass => he.next F hx hpass)
    ⟨fun o ho => absurd ho List.not_mem_nil,fun ⟨o,ho,_⟩ => absurd ho List.not_mem_nil⟩
  exact ⟨oneOutput_of_earlier F hclosed.earlier,fun x => oneOutput_of_earlier F (hclosed.earlier_pass F x)⟩

end

/-! ## Two answers in one body -/

/-- Channels 1 and 2 of group `a`. -/
def twoChannels : Surroundings where
  memoryCacheEnabled := false
  tables := withChannel (withChannel ⟨.empty,[]⟩ { plainChannel 5 1 with models := "m", group := "a" })
    { plainChannel 5 1 with models := "m", group := "a" }
  cache := ⟨fun _ _ => [],fun _ => none⟩
  breaker := quietBreaker
  autoGroups := []
  userAutoGroup := []
  channelRoll := fun _ => 0
  keyRoll := 0
  bodyError := none
  outcome := none
  skipRetryAfterChannelAffinityFailure := false

def chosenFirst : Context where
  channelId := 1
  channelIsMultiKey := false
  channelMultiKeyIndex := 0
  channelMeta := false
  autoGroupIndex := none
  abandonedChannel := []
  tokenCrossGroupRetry := false
  specificChannelId := false
  modelGroupMembers := []

def serverErrorsRetried : RelaySettings := ⟨1,0,false,0,[],[⟨500,599⟩]⟩

/-- The model of a message stands for the message. -/
def plainFrames : Frames Unit String where
  ping := ": PING"
  claudeChunk r := r.type++r.model
  claudeAsOpenAI r := r.type++r.model
  chat c := c.model
  finalUsage _ := "usage"
  done := "[DONE]"
  error e := "error: "++e.errorCode

def claudeLine (type text : String) (errorType : String) : StreamItem (ClaudeData Unit) :=
  .data (.response ⟨"",type,[],"",text,none,none,none,none⟩ errorType)

/-- The upstream is overloaded in the middle of its answer. -/
def overloaded : Around Unit String :=
  ⟨twoChannels,.claude .claude false
    [claudeLine "message_start" "" "",claudeLine "content_block_delta" " Hel" "",claudeLine "error" "" "overloaded_error"],
    id⟩

def answering : Around Unit String :=
  ⟨twoChannels,.claude .claude false
    [claudeLine "message_start" "" "",claudeLine "content_block_delta" " Hello" "",claudeLine "message_stop" "" ""],id⟩

def refusing : Around Unit String := ⟨twoChannels,.refuses 0 ⟨500,"do_request_failed",false⟩,id⟩

def afterRefusal : Delivery String :=
  (deliverPass plainFrames serverErrorsRetried refusing (begun String "a" "m" chosenFirst)).state

theorem refused_then_answered : OneOutput plainFrames
    (deliverPass plainFrames serverErrorsRetried answering afterRefusal).state := by
  refine (one_output_of_met plainFrames serverErrorsRetried "a" "m" chosenFirst ?_).2 answering
  refine .next refusing .refl ?_ (Pass.eq_next (by decide))
  intro id p c _ e he
  exact absurd he.1 (lt_irrefl 0)

def afterOverload : Delivery String :=
  (deliverPass plainFrames serverErrorsRetried overloaded (begun String "a" "m" chosenFirst)).state

/-- The loop goes on to the second channel, and its answer follows the beginning of the first one. -/
theorem overloaded_then_answered :
    Reaches (deliverPass plainFrames serverErrorsRetried) (begun String "a" "m" chosenFirst) afterOverload ∧
    (deliverPass plainFrames serverErrorsRetried answering afterOverload).state.body plainFrames =
      ["message_start","content_block_delta Hel","message_start","content_block_delta Hello","message_stop"] ∧
    ¬OneOutput plainFrames (deliverPass plainFrames serverErrorsRetried answering afterOverload).state := by
  refine ⟨.next overloaded .refl (Pass.eq_next (by decide)),by decide,fun h => ?_⟩
  have hbody := h.body
  revert hbody
  decide

end Relay
end Tierflow
