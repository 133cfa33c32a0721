import Tierflow.RateLimit.Window

/-! The two handlers of the limits on model requests. With Redis a request reserves its place before a bucket of
tokens is asked; in memory two queues are asked, and a success is written down afterwards. -/
namespace Tierflow
namespace RateLimit
open SlidingWindow

/-- The limits of a user; zero is no limit. -/
structure Limits where
  duration : ℤ
  totalMaxCount : ℕ
  successMaxCount : ℕ
  deriving DecidableEq, Repr

inductive Phase
  | waiting
  | serving
  | refunding
  deriving DecidableEq, Repr

/-- A request that has not ended, and when it was let through by the first check. -/
structure Request where
  time : ℤ
  phase : Phase
  deriving DecidableEq, Repr

/-! ## Redis -/

/-- A bucket of tokens and when its key expires. -/
structure TokenBucket where
  tokens : ℤ
  lastTime : ℤ
  expiresAt : ℤ
  deriving DecidableEq, Repr

/-- The tokens in the bucket now. -/
def TokenBucket.refilled (rate capacity now : ℤ) : Option TokenBucket → ℤ
  | none => capacity
  | some b => min capacity (b.tokens+(now-b.lastTime)*rate)

/-- The script: refill, and take what is requested if there is as much. -/
def rateLimitScript (requested rate capacity now : ℤ) (bucket : Option TokenBucket) : TokenBucket × Bool :=
  let tokens := TokenBucket.refilled rate capacity now bucket
  let allowed := decide (requested≤tokens)
  (⟨if allowed then tokens-requested else tokens,now,now-(-capacity)/rate+60⟩,allowed)

/-- A user's keys on the server, and the user's requests. -/
structure RedisState where
  now : ℤ
  key : WindowKey
  bucket : Option TokenBucket
  requests : List Request
  succeeded : List ℤ
  admitted : List ℤ
  deriving DecidableEq, Repr

inductive RedisOp
  | tick (seconds : ℕ)
  | expireKey
  | expireBucket
  | arrive
  | allow (i : ℕ) (failed : Bool)
  | finish (i : ℕ) (status : ℕ)
  | refund (i : ℕ)
  deriving DecidableEq, Repr

namespace RedisState

def arrive (cfg : Limits) (s : RedisState) : RedisState :=
  let (key,ok) := reserveWindow cfg.successMaxCount cfg.duration s.now s.key
  { s with key := key, requests := if ok then ⟨s.now,.waiting⟩::s.requests else s.requests }

/-- A request that passes is served; any other gives its place back. -/
def answer (s : RedisState) (i : ℕ) (r : Request) (allowed : Bool) : RedisState :=
  if allowed then { s with requests := s.requests.set i ⟨r.time,.serving⟩, admitted := s.now::s.admitted }
  else { s with requests := s.requests.set i ⟨r.time,.refunding⟩ }

/-- The bucket is asked for as many tokens as the window has seconds; a call that fails admits nobody. -/
def allow (cfg : Limits) (s : RedisState) (i : ℕ) (r : Request) (failed : Bool) : RedisState :=
  if cfg.totalMaxCount = 0 then s.answer i r true
  else if failed then s.answer i r false
  else
    let (bucket,allowed) := rateLimitScript cfg.duration cfg.totalMaxCount (cfg.totalMaxCount*cfg.duration) s.now s.bucket
    { s with bucket := some bucket }.answer i r allowed

/-- A request ends: a place is given back if there is one and the request failed. -/
def finish (cfg : Limits) (s : RedisState) (i : ℕ) (r : Request) (failed : Bool) : RedisState :=
  if failed then
    { s with
      key := if cfg.successMaxCount = 0 then s.key else refundWindow s.key
      requests := s.requests.eraseIdx i }
  else { s with requests := s.requests.eraseIdx i, succeeded := r.time::s.succeeded }

/-- The request is at this place of the list and in this phase. -/
def request (s : RedisState) (i : ℕ) (p : Phase) : Option Request := s.requests[i]?.filter (fun r => r.phase = p)

end RedisState

/-- The handler's calls in any order. -/
def redisSystem (cfg : Limits) : TxSystem RedisState RedisOp Empty where
  step s
    | .tick seconds => some ({ s with now := s.now+seconds },[])
    | .expireKey => if s.key.expiresAt ≤ s.now then some ({ s with key := { s.key with entries := [] } },[]) else none
    | .expireBucket =>
      if ∃ b∈s.bucket, b.expiresAt ≤ s.now then some ({ s with bucket := none },[]) else none
    | .arrive => some (s.arrive cfg,[])
    | .allow i failed => (s.request i .waiting).map (fun r => (s.allow cfg i r failed,[]))
    | .finish i status => (s.request i .serving).map (fun r => (s.finish cfg i r (400 ≤ status),[]))
    | .refund i => (s.request i .refunding).map (fun r => (s.finish cfg i r true,[]))

def RedisState.init (now : ℤ) : RedisState := ⟨now,⟨[],now⟩,none,[],[],[]⟩

/-! ## In memory -/

inductive MemoryKey
  | total
  | success
  | successCheck
  deriving DecidableEq, Repr

/-- A queue with the oldest moment first. -/
def InMemoryRateLimiter.request (maxRequestNum : ℕ) (duration now : ℤ) (queue : Option (List ℤ)) : List ℤ × Bool :=
  match queue with
  | none => ([now],true)
  | some q =>
    if q.length < maxRequestNum then (q++[now],true)
    else if duration≤now-q.headD now then (q.tail++[now],true)
    else (q,false)

structure MemoryState where
  now : ℤ
  store : MemoryKey → Option (List ℤ)
  requests : List Request
  succeeded : List ℤ
  admitted : List ℤ

inductive MemoryOp
  | tick (seconds : ℕ)
  | clear
  | arrive
  | check (i : ℕ)
  | finish (i : ℕ) (status : ℕ)
  deriving DecidableEq, Repr

namespace MemoryState

def ask (cfg : Limits) (s : MemoryState) (k : MemoryKey) (maxRequestNum : ℕ) : MemoryState × Bool :=
  let (q,ok) := InMemoryRateLimiter.request maxRequestNum cfg.duration s.now (s.store k)
  ({ s with store := Function.update s.store k (some q) },ok)

/-- A limit of zero is not asked for. -/
def askIf (cfg : Limits) (s : MemoryState) (k : MemoryKey) (maxRequestNum : ℕ) : MemoryState × Bool :=
  if maxRequestNum = 0 then (s,true) else s.ask cfg k maxRequestNum

def arrive (cfg : Limits) (s : MemoryState) : MemoryState :=
  let (s,ok) := s.askIf cfg .total cfg.totalMaxCount
  if ok then { s with requests := ⟨s.now,.waiting⟩::s.requests, admitted := s.now::s.admitted } else s

/-- The queue that the check looks at takes the request down. -/
def check (cfg : Limits) (s : MemoryState) (i : ℕ) : MemoryState :=
  let (s,ok) := s.askIf cfg .successCheck cfg.successMaxCount
  if ok then { s with requests := s.requests.set i ⟨s.now,.serving⟩ } else { s with requests := s.requests.eraseIdx i }

def finish (cfg : Limits) (s : MemoryState) (i : ℕ) (r : Request) (status : ℕ) : MemoryState :=
  if status<400 then
    let (s,_) := s.askIf cfg .success cfg.successMaxCount
    { s with requests := s.requests.eraseIdx i, succeeded := r.time::s.succeeded }
  else { s with requests := s.requests.eraseIdx i }

def request (s : MemoryState) (i : ℕ) (p : Phase) : Option Request := s.requests[i]?.filter (fun r => r.phase = p)

/-- A queue whose newest moment is old is thrown away. -/
def clear (cfg : Limits) (s : MemoryState) : MemoryState :=
  if cfg.duration≤0 then s
  else { s with store := fun k => (s.store k).filter (fun q => s.now-q.getLastD s.now ≤ cfg.duration ∧ q≠[]) }

end MemoryState

/-- The handler's calls in any order; every call of the limiter is made under its lock. -/
def memorySystem (cfg : Limits) : TxSystem MemoryState MemoryOp Empty where
  step s
    | .tick seconds => some ({ s with now := s.now+seconds },[])
    | .clear => some (s.clear cfg,[])
    | .arrive => some (s.arrive cfg,[])
    | .check i => (s.request i .waiting).map (fun _ => (s.check cfg i,[]))
    | .finish i status => (s.request i .serving).map (fun r => (s.finish cfg i r status,[]))

def MemoryState.init (now : ℤ) : MemoryState := ⟨now,fun _ => none,[],[],[]⟩

/-! ## What both are to enforce -/

/-- What a limiter lets through, seen from outside. -/
structure View where
  now : ℤ
  rejects : Bool
  surviving : List ℤ
  admitted : List ℤ

/-- The place of a request that arrives now, if the success limit is asked. -/
def RedisState.view (cfg : Limits) (s : RedisState) : View where
  now := s.now
  rejects := !(reserveWindow cfg.successMaxCount cfg.duration s.now s.key).2
  surviving := s.requests.map Request.time++s.succeeded
  admitted := s.admitted

/-- Requests count from the check on. -/
def MemoryState.view (cfg : Limits) (s : MemoryState) : View where
  now := s.now
  rejects := !(s.askIf cfg .successCheck cfg.successMaxCount).2
  surviving := (s.requests.filter (fun r => r.phase = .serving)).map Request.time++s.succeeded
  admitted := s.admitted

/-- Whoever is rejected by the success limit is rejected for requests of the window that have not failed. -/
def SuccessRule (cfg : Limits) (v : View) : Prop :=
  v.rejects = true → cfg.successMaxCount≤after (v.now-cfg.duration) v.surviving

/-- No window has more admitted requests than the given number. -/
def TotalRule (cfg : Limits) (bound : ℕ) (v : View) : Prop :=
  0 < cfg.totalMaxCount → ∀ x, within cfg.duration x v.admitted≤bound

end RateLimit
end Tierflow
