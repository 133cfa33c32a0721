import Tierflow.Foundation.Process
import Tierflow.Foundation.Transaction

/-! Performance metrics: requests add their samples to hot buckets, counter by counter, and a flusher drains
completed buckets into the database, counter by counter as well. -/
namespace Tierflow
open TxSystem
namespace PerfMetrics

/-- The counters of a bucket, in the order in which they are drained. -/
inductive Counter
  | requestCount
  | successCount
  | totalLatencyMs
  | ttftSumMs
  | ttftCount
  | outputTokens
  | generationMs
deriving Repr, DecidableEq

def Counter.all : List Counter :=
  [.requestCount,.successCount,.totalLatencyMs,.ttftSumMs,.ttftCount,.outputTokens,.generationMs]

abbrev Counters : Type := Counter → ℤ

structure Sample where
  model : String
  group : String
  channelId : ℤ
  latencyMs : ℤ
  ttftMs : ℤ
  hasTtft : Bool
  success : Bool
  outputTokens : ℤ
  generationMs : ℤ
deriving Repr, DecidableEq

structure BucketKey where
  model : String
  group : String
  channelId : ℤ
  bucketTs : ℤ
deriving Repr, DecidableEq

def bucketStart (bucketSeconds ts : ℤ) : ℤ := ts-ts.tmod (if bucketSeconds≤0 then 3600 else bucketSeconds)

/-- The additions of `add`, each of them atomic. -/
def Sample.adds (s : Sample) : List (Counter × ℤ) :=
  [(.requestCount,1)]++(if s.success then [(.successCount,1)] else [])++
  (if 0 < s.latencyMs then [(.totalLatencyMs,s.latencyMs)] else [])++
  (if s.hasTtft ∧ 0 ≤ s.ttftMs then [(.ttftSumMs,s.ttftMs),(.ttftCount,1)] else [])++
  (if 0 < s.outputTokens ∧ 0 < s.generationMs then [(.outputTokens,s.outputTokens),(.generationMs,s.generationMs)] else [])

/-- The sample that is recorded: without a group it is in the default one, and no latency is negative. -/
def Sample.normalized (s : Sample) : Sample :=
  { s with group := if s.group = "" then "default" else s.group, latencyMs := if s.latencyMs<0 then 0 else s.latencyMs }

def Sample.key (s : Sample) (bucketSeconds now : ℤ) : BucketKey :=
  ⟨s.model,s.group,s.channelId,bucketStart bucketSeconds now⟩

/-- A call of `Record`: about to look its bucket up, or holding it with some additions left. -/
inductive Writer
  | idle
  | looking (key : BucketKey) (adds : List (Counter × ℤ))
  | adding (key : BucketKey) (bucket : ℕ) (adds : List (Counter × ℤ))
deriving Repr, DecidableEq

/-- How far `flushCompletedBuckets` is: between two entries of the map, or with one of them. -/
inductive Flusher
  | idle
  | ranging (currentBucket : ℤ)
  | draining (currentBucket : ℤ) (key : BucketKey) (bucket : ℕ) (rest : List Counter) (drained : Counters)
  | upserting (currentBucket : ℤ) (key : BucketKey) (bucket : ℕ) (drained : Counters)
  | restoring (currentBucket : ℤ) (key : BucketKey) (bucket : ℕ) (rest : List Counter) (drained : Counters)
  | removing (currentBucket : ℤ) (key : BucketKey)

/-- The map of hot buckets, the buckets allocated so far, the rows of the database (a missing row counts
nothing), the calls of `Record`, and the flusher. -/
structure MetricsState (W : Type*) where
  hotBuckets : BucketKey → Option ℕ
  buckets : ℕ → Counters
  next : ℕ
  db : BucketKey → Counters
  writer : W → Writer
  flusher : Flusher

inductive MetricsEvent
  | recorded (key : BucketKey) (sample : Sample)
deriving Repr, DecidableEq

/-- Settings and times are read when the step is taken. -/
inductive MetricsOp (W : Type*)
  | record (w : W) (enabled : Bool) (sample : Sample) (bucketSeconds now : ℤ)
  | proceed (w : W)
  | flush (bucketSeconds now : ℤ)
  | visit (key : BucketKey)
  | drain
  | upsert (ok : Bool)
  | restore
  | delete (bucketSeconds now : ℤ)
  | finish
deriving Repr, DecidableEq

namespace MetricsState
variable {W : Type*} [DecidableEq W]

def initial : MetricsState W where
  hotBuckets _ := none
  buckets _ _ := 0
  next := 0
  db _ _ := 0
  writer _ := .idle
  flusher := .idle

def setWriter (s : MetricsState W) (w : W) (x : Writer) : MetricsState W :=
  { s with writer := Function.update s.writer w x }

/-- One atomic operation on a counter of a bucket. -/
def setCounter (s : MetricsState W) (bucket : ℕ) (c : Counter) (v : ℤ) : MetricsState W :=
  { s with buckets := Function.update s.buckets bucket (Function.update (s.buckets bucket) c v) }

def record (s : MetricsState W) (w : W) (enabled : Bool) (sample : Sample) (bucketSeconds now : ℤ) :
    Option (MetricsState W × List MetricsEvent) :=
  if s.writer w = .idle ∧ enabled = true ∧ sample.model≠"" then
    let key := sample.normalized.key bucketSeconds now
    some (s.setWriter w (.looking key sample.normalized.adds),[.recorded key sample.normalized])
  else none

/-- `LoadOrStore`, or one addition. -/
def proceed (s : MetricsState W) (w : W) : Option (MetricsState W) :=
  match s.writer w with
  | .idle => none
  | .looking key adds => match s.hotBuckets key with
    | some p => some (s.setWriter w (.adding key p adds))
    | none => some ({ s with
        hotBuckets := Function.update s.hotBuckets key (some s.next)
        buckets := Function.update s.buckets s.next (fun _ => 0)
        next := s.next+1 }.setWriter w (.adding key s.next adds))
  | .adding _ _ [] => some (s.setWriter w .idle)
  | .adding key p ((c,v)::adds) => some ((s.setCounter p c (s.buckets p c+v)).setWriter w (.adding key p adds))

/-- `Range` hands over an entry of the map; one that is not complete yet is skipped. -/
def visit (s : MetricsState W) (key : BucketKey) : Option (MetricsState W) :=
  match s.flusher, s.hotBuckets key with
  | .ranging cur, some p => if cur≤key.bucketTs then some s else
      some { s with flusher := .draining cur key p Counter.all (fun _ => 0) }
  | _,_ => none

/-- One `Swap(0)` of `drain`, and after the last one the decision what to do with what was drained. -/
def drain (s : MetricsState W) : Option (MetricsState W) :=
  match s.flusher with
  | .draining cur key p (c::rest) drained => some { s.setCounter p c 0 with
      flusher := .draining cur key p rest (Function.update drained c (s.buckets p c)) }
  | .draining cur key p [] drained => some { s with
      flusher := if drained .requestCount = 0 then .removing cur key else .upserting cur key p drained }
  | _ => none

/-- `UpsertPerfMetric` -/
def upsert (s : MetricsState W) (ok : Bool) : Option (MetricsState W) :=
  match s.flusher with
  | .upserting cur key p drained => if ok then
      some { s with db := Function.update s.db key (fun c => s.db key c+drained c), flusher := .removing cur key }
    else some { s with flusher := .restoring cur key p Counter.all drained }
  | _ => none

/-- One step of `addCounters`. -/
def restore (s : MetricsState W) : Option (MetricsState W) :=
  match s.flusher with
  | .restoring cur key p (c::rest) drained =>
    let s' := if drained c≠0 then s.setCounter p c (s.buckets p c+drained c) else s
    some { s' with flusher := .restoring cur key p rest drained }
  | .restoring cur _ _ [] _ => some { s with flusher := .ranging cur }
  | _ => none

/-- A bucket that is more than a day old. -/
def old (key : BucketKey) (bucketSeconds now : ℤ) : Prop := key.bucketTs<bucketStart bucketSeconds (now-86400)

instance (key : BucketKey) (bucketSeconds now : ℤ) : Decidable (old key bucketSeconds now) := Int.decLt ..

/-- `deleteOldEmptyBucket` -/
def delete (s : MetricsState W) (bucketSeconds now : ℤ) : Option (MetricsState W) :=
  match s.flusher with
  | .removing cur key => if old key bucketSeconds now then
      some { s with hotBuckets := Function.update s.hotBuckets key none, flusher := .ranging cur }
    else some { s with flusher := .ranging cur }
  | _ => none

def step (s : MetricsState W) : MetricsOp W → Option (MetricsState W × List MetricsEvent)
  | .record w enabled sample bucketSeconds now => s.record w enabled sample bucketSeconds now
  | .proceed w => (s.proceed w).map (fun s' => (s',[]))
  | .flush bucketSeconds now => match s.flusher with
    | .idle => some ({ s with flusher := .ranging (bucketStart bucketSeconds now) },[])
    | _ => none
  | .visit key => (s.visit key).map (fun s' => (s',[]))
  | .drain => s.drain.map (fun s' => (s',[]))
  | .upsert ok => (s.upsert ok).map (fun s' => (s',[]))
  | .restore => s.restore.map (fun s' => (s',[]))
  | .delete bucketSeconds now => (s.delete bucketSeconds now).map (fun s' => (s',[]))
  | .finish => match s.flusher with
    | .ranging _ => some ({ s with flusher := .idle },[])
    | _ => none

/-- All requests of one process and its flusher. -/
def system (W : Type*) [DecidableEq W] : TxSystem (MetricsState W) (MetricsOp W) MetricsEvent := ⟨step⟩

end MetricsState
end PerfMetrics
end Tierflow
