import TicTacToe.Lib.JsMap
import TicTacToe.Protocol.Types

/-! # The rate limiter of the HTTP surface

The fixed-window limiter of `src/server/http/rateLimiter.ts`. A call reads the clock once. -/

namespace TicTacToe

structure RateLimitResult where
  /-- The request is within the limit and may proceed. -/
  allowed : Bool
  /-- The time until the current window resets; 0 when allowed. -/
  retryAfterMs : Millis
  deriving DecidableEq

structure Bucket where
  windowStart : Millis
  count : Nat
  deriving DecidableEq

structure FixedWindowLimiterOptions where
  windowMs : Millis
  max : Nat
  pruneThreshold : Nat := 10000

/-- The tracked keys with their buckets. -/
abbrev Buckets := JsMap String Bucket

/-- A call of `check`: the reading of the clock, and the key. -/
structure Hit where
  time : Millis
  key : String
  deriving DecidableEq

namespace FixedWindowLimiterOptions
variable (options : FixedWindowLimiterOptions)

/-- The window of a bucket is over. -/
def isOver (currentTime : Millis) (bucket : Bucket) : Bool := currentTime - bucket.windowStart ≥ options.windowMs

def prune (buckets : Buckets) (currentTime : Millis) : Buckets := buckets.purge (options.isOver currentTime)

/-- The bucket that a hit is counted in: that of the key, or a new one. -/
def currentBucket (buckets : Buckets) (hit : Hit) : Bucket :=
  match buckets.get hit.key with
  | none => ⟨hit.time, 0⟩
  | some bucket => if options.isOver hit.time bucket then ⟨hit.time, 0⟩ else bucket

/-- `check` after the pruning. -/
def count (buckets : Buckets) (hit : Hit) : RateLimitResult × Buckets :=
  let current := options.currentBucket buckets hit
  let bucket := { current with count := current.count + 1 }
  let allowed : Bool := bucket.count ≤ options.max
  (⟨allowed, if allowed then 0 else bucket.windowStart + options.windowMs - hit.time⟩, buckets.set hit.key bucket)

def check (buckets : Buckets) (hit : Hit) : RateLimitResult × Buckets :=
  options.count (if buckets.entries.length > options.pruneThreshold then options.prune buckets hit.time else buckets) hit

/-! ### Histories -/

/-- The buckets after some hits. -/
def after (hits : List Hit) : Buckets := hits.foldl (fun buckets hit => (options.check buckets hit).2) .empty

/-- The answer to a hit after others. -/
def answer (before : List Hit) (hit : Hit) : RateLimitResult := (options.check (options.after before) hit).1

/-- The buckets of a limiter that never prunes. -/
def afterUnpruned (hits : List Hit) : Buckets := hits.foldl (fun buckets hit => (options.count buckets hit).2) .empty

def answerUnpruned (before : List Hit) (hit : Hit) : RateLimitResult :=
  (options.count (options.afterUnpruned before) hit).1

/-- A hit opens a window: its key has no bucket whose window is running. -/
def opens (before : List Hit) (hit : Hit) : Bool :=
  ((options.after before).lookup (options.isOver hit.time) hit.key).isNone

end FixedWindowLimiterOptions
end TicTacToe
