import Tierflow.Foundation.Loop
import Tierflow.Routing.Keys

/-! The relay loop of one request: it sends the request upstream, and on failure tries another key of
the same channel or another channel. -/
namespace Tierflow
namespace Relay
open RouteHealth (Manager)
open Routing

structure StatusCodeRange where
  start : ℤ
  stop : ℤ
  deriving DecidableEq, Repr

structure RelaySettings where
  retryTimes : ℤ
  routeMaxTotalAttempts : ℤ
  routeKeyRotationEnabled : Bool
  routeKeyRotationMaxPerChannel : ℤ
  routeKeyRotationStatusCodeRanges : List StatusCodeRange
  automaticRetryStatusCodeRanges : List StatusCodeRange

structure RelayError where
  statusCode : ℤ
  errorCode : String
  skipRetry : Bool
  deriving DecidableEq, Repr

structure ModelGroupMember where
  channelId : ℕ
  modelName : String
  deriving DecidableEq, Repr

/-- What the loop finds around it during one pass: the tables and caches at that time, the random
numbers, and how the attempt ends. -/
structure Surroundings where
  memoryCacheEnabled : Bool
  tables : Tables
  cache : ChannelCache
  breaker : Manager
  autoGroups : List String
  userAutoGroup : List String
  channelRoll : ℕ → ℕ
  keyRoll : ℕ
  bodyError : Option RelayError
  outcome : Option RelayError
  skipRetryAfterChannelAffinityFailure : Bool

/-- What the request's context holds. -/
structure Context where
  channelId : ℕ
  channelIsMultiKey : Bool
  channelMultiKeyIndex : ℕ
  channelMeta : Bool
  autoGroupIndex : Option ℕ
  abandonedChannel : List ℕ
  tokenCrossGroupRetry : Bool
  specificChannelId : Bool
  modelGroupMembers : List ModelGroupMember

structure RetryParam where
  tokenGroup : String
  modelName : String
  retry : ℕ
  excludeChannelIds : List ℕ
  allowedChannelIds : Option (List ℕ)
  triedKeys : List (ℕ × ℕ)
  keyRotationsUsed : ℕ → ℕ
  resetNextTry : Bool

namespace RetryParam

/-- A negative index is no key. -/
def markKeyTried (p : RetryParam) (channelId : ℕ) (keyIndex : ℤ) : RetryParam :=
  if keyIndex<0 then p else { p with triedKeys := (channelId,keyIndex.toNat)::p.triedKeys }

def triedKeysFor (p : RetryParam) (channelId : ℕ) : List ℕ :=
  (p.triedKeys.filter (fun k => k.1 = channelId)).map Prod.snd

def increaseRetry (p : RetryParam) : RetryParam :=
  if p.resetNextTry then { p with resetNextTry := false } else { p with retry := p.retry+1 }

end RetryParam

/-! ## Settings -/

def shouldMatchRanges (code : ℤ) : List StatusCodeRange → Bool
  | [] => false
  | r::rs => if code < r.start then false else if code ≤ r.stop then true else shouldMatchRanges code rs

def shouldMatchStatusCodeRanges (ranges : List StatusCodeRange) (code : ℤ) : Bool :=
  if code<100 ∨ 599 < code then false else shouldMatchRanges code ranges

def isKeyScopedStatusCode (S : RelaySettings) (code : ℤ) : Bool :=
  shouldMatchStatusCodeRanges S.routeKeyRotationStatusCodeRanges code

def shouldRetryByStatusCode (S : RelaySettings) (code : ℤ) : Bool :=
  if code = 504 ∨ code = 524 then false else shouldMatchStatusCodeRanges S.automaticRetryStatusCodeRanges code

def isAlwaysSkipRetryCode (errorCode : String) : Bool := errorCode = "bad_response_body"

def shouldRetry (S : RelaySettings) (w : Surroundings) (c : Context) (e : RelayError) (retryTimes : ℤ) : Bool :=
  if w.skipRetryAfterChannelAffinityFailure then false
  else if Text.hasPrefix e.errorCode "channel:" then true
  else if e.skipRetry then false
  else if retryTimes≤0 then false
  else if c.specificChannelId then false
  else if 200≤e.statusCode ∧ e.statusCode<300 then false
  else if e.statusCode<100 ∨ 599<e.statusCode then true
  else if isAlwaysSkipRetryCode e.errorCode then false
  else shouldRetryByStatusCode S e.statusCode

def maxTotalAttempts (S : RelaySettings) : ℤ :=
  if S.routeMaxTotalAttempts<1 then S.retryTimes+1 else S.routeMaxTotalAttempts

/-! ## Choosing a channel -/

def getRandomSatisfiedChannelConstrained (w : Surroundings) (r : Request) (roll : ℕ) :
    Except SelectError (Option (ℕ × Channel)) :=
  if !w.memoryCacheEnabled then getChannelConstrained w.tables w.breaker r roll
  else getCachedChannel w.cache w.breaker r roll

def cacheGetChannel (w : Surroundings) (id : ℕ) : Option Channel :=
  if !w.memoryCacheEnabled then w.tables.channels.find? id else w.cache.channelsIDM id

def RetryParam.request (p : RetryParam) (group : String) (retry : ℕ) : Request where
  group := group
  model := p.modelName
  retry := retry
  exclude := p.excludeChannelIds
  allow := p.allowedChannelIds

/-- Try the groups from position `i` on; `started` tells whether the search began before it. -/
def autoGroupLoop (S : RelaySettings) (w : Surroundings) (started : Bool) :
    ℕ → List String → RetryParam → Context → Option (ℕ × Channel) × RetryParam × Context
  | _,[],p,c => (none,p,c)
  | i,autoGroup::groups,p,c =>
    let priorityRetry := if started then 0 else p.retry
    match getRandomSatisfiedChannelConstrained w (p.request autoGroup priorityRetry) (w.channelRoll i) with
    | .ok (some channel) =>
      if c.tokenCrossGroupRetry ∧ S.retryTimes≤priorityRetry then
        (some channel,{ p with retry := 0, resetNextTry := true },{ c with autoGroupIndex := some (i+1) })
      else (some channel,p,{ c with autoGroupIndex := some i })
    | _ => autoGroupLoop S w true (i+1) groups { p with retry := 0 } { c with autoGroupIndex := some (i+1) }

def getChannelFailed : RelayError := ⟨500,"get_channel_failed",true⟩

def channelNoAvailableKey : RelayError := ⟨500,"channel:no_available_key",false⟩

/-- A fresh channel for the next attempt, or the error of a search that found none. -/
def cacheGetRandomSatisfiedChannel (S : RelaySettings) (w : Surroundings) (p : RetryParam) (c : Context) :
    Except RelayError (ℕ × Channel) × RetryParam × Context :=
  if p.tokenGroup = "auto" then
    if w.autoGroups = [] then (.error getChannelFailed,p,c)
    else
      let start := c.autoGroupIndex.getD 0
      let r := autoGroupLoop S w false start (w.userAutoGroup.drop start) p c
      (orFail getChannelFailed r.1,r.2)
  else
    match getRandomSatisfiedChannelConstrained w (p.request p.tokenGroup p.retry) (w.channelRoll 0) with
    | .ok (some channel) => (.ok channel,p,c)
    | _ => (.error getChannelFailed,p,c)

def keyErrorOf : KeyError → RelayError
  | .getChannelFailed => getChannelFailed
  | _ => channelNoAvailableKey

/-- Put the channel and its next key into the context; a single-key channel clears the mark. -/
def setupContextForSelectedChannelExcluding (w : Surroundings) (c : Context) (id : ℕ) (channel : Channel)
    (excludeKeys : List ℕ) : Except RelayError Context :=
  let cached := (cacheGetChannel w id).map Channel.channelInfo
  match channel.getNextEnabledKeyExcluding w.breaker cached id excludeKeys w.keyRoll with
  | .error e => .error (keyErrorOf e)
  | .ok index =>
    if channel.channelInfo.isMultiKey then
      .ok { c with channelId := id, channelIsMultiKey := true, channelMultiKeyIndex := index }
    else .ok { c with channelId := id, channelIsMultiKey := false }

/-- The channel of one attempt. The first attempt has its channel in the context already; a sticky
channel is used again; otherwise a fresh one is chosen. -/
def getChannel (S : RelaySettings) (w : Surroundings) (p : RetryParam) (c : Context) (sticky : Option (ℕ × Channel)) :
    Except RelayError (ℕ × RetryParam × Context) :=
  if !c.channelMeta then .ok (c.channelId,p,c)
  else
    let chosen : Except RelayError (ℕ × Channel) × RetryParam × Context := match sticky with
      | some channel => (.ok channel,p,c)
      | none => cacheGetRandomSatisfiedChannel S w p c
    match chosen with
    | (.error e,_) => .error e
    | (.ok (id,channel),p,c) => do
      let c ← setupContextForSelectedChannelExcluding w c id channel (p.triedKeysFor id)
      return (id,p,c)

/-- The first untried member that is not cooling, else the first untried one, else the first. -/
def pickModelGroupMember (m : Manager) (members : List ModelGroupMember) (exclude : List ℕ) :
    Option ModelGroupMember :=
  (Selection.relax [fun a : ModelGroupMember => a.channelId∉exclude ∧ m.isAvailable a.channelId (-1),
    fun a => a.channelId∉exclude] members).head?

def advanceModelGroupMemberForAttempt (w : Surroundings) (c : Context) (p : RetryParam) : RetryParam :=
  match pickModelGroupMember w.breaker c.modelGroupMembers c.abandonedChannel with
  | none => p
  | some member =>
    { p with modelName := member.modelName, allowedChannelIds := some [member.channelId] }

/-! ## The loop -/

/-- An attempt: the channel, the key index of a multi-key channel, and whether it rotates to
another key of the channel just tried. -/
structure Attempt where
  channelId : ℕ
  key : Option ℕ
  rotation : Bool
  deriving DecidableEq, Repr

structure RelayState where
  param : RetryParam
  ctx : Context
  attempts : ℕ
  stickyChannel : Option (ℕ × Channel)
  newAPIError : Option RelayError
  trail : List Attempt

def breakerKeyIndex (c : Context) : ℤ := if c.channelIsMultiKey then c.channelMultiKeyIndex else -1

/-- The preparation of a pass that is not a rotation. -/
def prepare (w : Surroundings) (s : RelayState) : RetryParam :=
  match s.stickyChannel with
  | some _ => s.param
  | none =>
    let p := { s.param with excludeChannelIds := s.ctx.abandonedChannel }
    if 0<p.retry then advanceModelGroupMemberForAttempt w s.ctx p else p

/-- The channel whose next key is tried after a failure, if one is. -/
def rotateTo (S : RelaySettings) (w : Surroundings) (s : RelayState) (id : ℕ) (e : RelayError) :
    Option (ℕ × Channel) :=
  if S.routeKeyRotationEnabled ∧ s.ctx.channelIsMultiKey ∧ isKeyScopedStatusCode S e.statusCode ∧ !e.skipRetry ∧
      s.param.keyRotationsUsed id<S.routeKeyRotationMaxPerChannel ∧ s.attempts < maxTotalAttempts S then
    match cacheGetChannel w id with
    | some realCh => if realCh.hasUntriedEnabledKey (s.param.triedKeysFor id) then some (id,realCh) else none
    | none => none
  else none

/-- What follows a failed attempt on a channel: a rotation, another channel, or the end. -/
def afterFailure (S : RelaySettings) (w : Surroundings) (s : RelayState) (id : ℕ) (e : RelayError) :
    Pass RelayState :=
  match rotateTo S w s id e with
  | some channel =>
    let used := Function.update s.param.keyRotationsUsed id (s.param.keyRotationsUsed id+1)
    let p := { s.param with keyRotationsUsed := used, resetNextTry := true }
    .next { s with param := p.increaseRetry, stickyChannel := some channel }
  | none =>
    let s := { s with
      ctx := { s.ctx with abandonedChannel := id::s.ctx.abandonedChannel }
      stickyChannel := none }
    if shouldRetry S w s.ctx e (S.retryTimes-s.param.retry) then
      .next { s with param := s.param.increaseRetry }
    else .done s

/-- One pass of the loop, its condition included. -/
def relayPass (S : RelaySettings) (w : Surroundings) (s : RelayState) : Pass RelayState :=
  if ¬s.param.retry≤S.retryTimes then .done s
  else if maxTotalAttempts S ≤ s.attempts then .done s
  else
    let p := prepare w s
    match getChannel S w p s.ctx s.stickyChannel with
    | .error e => .done { s with param := p, newAPIError := some e }
    | .ok (id,p,c) =>
      let attempt : Attempt :=
        ⟨id,if c.channelIsMultiKey then some c.channelMultiKeyIndex else none,s.stickyChannel.isSome⟩
      let p := if c.channelIsMultiKey then p.markKeyTried id (breakerKeyIndex c) else p
      let s := { s with param := p, ctx := c, attempts := s.attempts+1, trail := attempt::s.trail }
      match w.bodyError with
      | some e => .done { s with newAPIError := some e }
      | none =>
        -- every handler starts by taking the channel over from the context
        let s := { s with ctx := { c with channelMeta := true }, newAPIError := w.outcome }
        match w.outcome with
        | none => .done s
        | some e => afterFailure S w s id e

/-- The state before the first pass, with the channel and key chosen for the first attempt. -/
def initialState (tokenGroup modelName : String) (c : Context) : RelayState where
  param :=
    { tokenGroup := tokenGroup
      modelName := modelName
      retry := 0
      excludeChannelIds := []
      allowedChannelIds := none
      triedKeys := []
      keyRotationsUsed := fun _ => 0
      resetNextTry := false }
  ctx := c
  attempts := 0
  stickyChannel := none
  newAPIError := none
  trail := []

/-- The loop among surroundings that may be different at every pass. -/
def relayLoop (S : RelaySettings) (world : ℕ → Surroundings) (passes : ℕ) (s : RelayState) : Option RelayState :=
  runLoop (fun k => relayPass S (world k)) passes 0 s

end Relay
end Tierflow
