import Mathlib.Data.List.Dedup
import Mathlib.Order.Lattice
import TicTacToe.Lib.Expiry
import TicTacToe.Server.RateLimiter

/-! # The windows of the rate limiter

A bucket whose window is over is as good as none, for the call that meets it and for every later one: so pruning is not
observable, and neither are the hits of other keys. A bucket that a pruning leaves was opened within the last window, which
bounds the number of tracked keys. -/

namespace TicTacToe
namespace FixedWindowLimiterOptions
variable {options : FixedWindowLimiterOptions} {buckets buckets' : Buckets} {hit : Hit} {hits before : List Hit}
  {t t' : Millis} {key : String} {bucket : Bucket}

/-- The hits are at non-decreasing times. -/
def InOrder (hits : List Hit) : Prop := hits.Pairwise fun a b => a.time ≤ b.time

/-- The bucket of a key whose window is running at a time. -/
def running (options : FixedWindowLimiterOptions) (buckets : Buckets) (t : Millis) (key : String) : Option Bucket :=
  buckets.lookup (options.isOver t) key

/-- A window that is over stays over. -/
theorem isOver_expires (options : FixedWindowLimiterOptions) : JsMap.Expires options.isOver := by
  intro t t' bucket h hover
  simp only [isOver, ge_iff_le, decide_eq_true_eq] at hover ⊢
  exact Int.le_trans hover (Int.sub_le_sub_right h _)

theorem running_eq_some : options.running buckets t key = some bucket ↔
    buckets.get key = some bucket ∧ options.isOver t bucket = false := JsMap.lookup_eq_some

/-- What is running later is what was there, if it is not over by then. -/
theorem running_prune (h : t ≤ t') : options.running (options.prune buckets t) t' key = options.running buckets t' key :=
  JsMap.purge_agree options.isOver_expires buckets t t' h key

/-- The buckets at the time of a hit, after the pruning. -/
def pruned (options : FixedWindowLimiterOptions) (buckets : Buckets) (t : Millis) : Buckets :=
  if buckets.entries.length > options.pruneThreshold then options.prune buckets t else buckets

theorem check_eq : options.check buckets hit = options.count (options.pruned buckets hit.time) hit := rfl

theorem running_pruned (h : t ≤ t') :
    options.running (options.pruned buckets t) t' key = options.running buckets t' key := by
  unfold pruned
  split
  · exact running_prune h
  · rfl

theorem currentBucket_eq :
    options.currentBucket buckets hit = (options.running buckets hit.time hit.key).getD ⟨hit.time, 0⟩ := by
  unfold currentBucket running JsMap.lookup
  cases hget : buckets.get hit.key with
  | none => rfl
  | some bucket => cases hover : options.isOver hit.time bucket <;> simp [Option.filter, hover]

/-- The bucket after a hit. -/
def counted (options : FixedWindowLimiterOptions) (buckets : Buckets) (hit : Hit) : Bucket :=
  let current := options.currentBucket buckets hit
  { current with count := current.count + 1 }

theorem count_allowed :
    (options.count buckets hit).1.allowed = decide ((options.counted buckets hit).count ≤ options.max) := rfl

theorem count_refused (h : (options.count buckets hit).1.allowed = false) : (options.count buckets hit).1.retryAfterMs =
    (options.counted buckets hit).windowStart + options.windowMs - hit.time :=
  if_neg (Bool.eq_false_iff.mp h)

/-- A hit depends on nothing but the running bucket of its key. -/
theorem currentBucket_congr
    (h : options.running buckets hit.time hit.key = options.running buckets' hit.time hit.key) :
    options.currentBucket buckets hit = options.currentBucket buckets' hit := by
  rw [currentBucket_eq, currentBucket_eq, h]

theorem count_congr (h : options.running buckets hit.time hit.key = options.running buckets' hit.time hit.key) :
    (options.count buckets hit).1 = (options.count buckets' hit).1 := by
  simp only [count, currentBucket_congr h]

theorem after_append (before : List Hit) (hit : Hit) : options.after (before ++ [hit]) =
    (options.pruned (options.after before) hit.time).set hit.key
      (options.counted (options.pruned (options.after before) hit.time) hit) := by
  rw [after, List.foldl_append]
  rfl

theorem afterUnpruned_append (before : List Hit) (hit : Hit) : options.afterUnpruned (before ++ [hit]) =
    (options.afterUnpruned before).set hit.key (options.counted (options.afterUnpruned before) hit) := by
  rw [afterUnpruned, List.foldl_append]
  rfl

theorem running_set (buckets : Buckets) (k : String) (bucket : Bucket) : options.running (buckets.set k bucket) t key =
    if k = key then (some bucket).filter (fun b => !options.isOver t b) else options.running buckets t key := by
  unfold running JsMap.lookup
  rw [JsMap.get_set]
  split <;> rfl

/-! ### The hits of one key -/

/-- At any later time the limiter has the running bucket of a limiter that never prunes and is fed the hits of this key
only. -/
theorem running_after (hits : List Hit) (horder : InOrder hits) (hlast : ∀ hit ∈ hits, hit.time ≤ t) :
    options.running (options.after hits) t key =
      options.running (options.afterUnpruned (hits.filter fun hit => hit.key = key)) t key := by
  induction hits using List.reverseRecOn generalizing t with
  | nil => rfl
  | append_singleton before hit ih =>
    obtain ⟨hbefore, -, hle⟩ := List.pairwise_append.mp horder
    have hhit : hit.time ≤ t := hlast hit (List.mem_append_right _ List.mem_cons_self)
    have hearlier : ∀ h ∈ before, h.time ≤ hit.time := fun h hh => hle h hh hit List.mem_cons_self
    have ih := fun t' ht => ih (t := t') hbefore fun h hh => Int.le_trans (hearlier h hh) ht
    rw [after_append, running_set, List.filter_append]
    by_cases hkey : hit.key = key
    · subst hkey
      have hsame : (before.filter fun h => h.key = hit.key) ++ [hit].filter (fun h => h.key = hit.key) =
          (before.filter fun h => h.key = hit.key) ++ [hit] := by simp
      rw [hsame, afterUnpruned_append, running_set, if_pos rfl, if_pos rfl]
      have hcounted : options.counted (options.pruned (options.after before) hit.time) hit =
          options.counted (options.afterUnpruned (before.filter fun h => h.key = hit.key)) hit :=
        congrArg (fun current : Bucket => { current with count := current.count + 1 })
          (currentBucket_congr ((running_pruned (Int.le_refl _)).trans (ih _ (Int.le_refl _))))
      rw [hcounted]
    · have hother : [hit].filter (fun h => h.key = key) = [] := by simp [hkey]
      rw [hother, List.append_nil, if_neg hkey, running_pruned hhit]
      exact ih t hhit

/-- The answer to a hit is that of a limiter that never prunes and is fed the hits of its key only. -/
theorem answer_eq_unpruned (horder : InOrder (before ++ [hit])) :
    options.answer before hit = options.answerUnpruned (before.filter fun h => h.key = hit.key) hit := by
  obtain ⟨hbefore, -, hle⟩ := List.pairwise_append.mp horder
  have hearlier : ∀ h ∈ before, h.time ≤ hit.time := fun h hh => hle h hh hit List.mem_cons_self
  rw [answer, answerUnpruned, check_eq]
  exact count_congr ((running_pruned (Int.le_refl _)).trans (running_after before hbefore hearlier))

/-! ### Windows -/

theorem InOrder.front {behind : List Hit} (h : InOrder (hits ++ behind)) : InOrder hits := (List.pairwise_append.mp h).1

theorem InOrder.le_of_mem (h : InOrder (before ++ [hit])) {earlier : Hit} (hmem : earlier ∈ before) :
    earlier.time ≤ hit.time := (List.pairwise_append.mp h).2.2 earlier hmem hit List.mem_cons_self

/-- A hit is counted in the running bucket of its key, or opens a new one. -/
theorem counted_pruned (before : List Hit) (hit : Hit) :
    options.counted (options.pruned (options.after before) hit.time) hit =
      { (options.running (options.after before) hit.time hit.key).getD ⟨hit.time, 0⟩ with
        count := ((options.running (options.after before) hit.time hit.key).getD ⟨hit.time, 0⟩).count + 1 } := by
  rw [counted, currentBucket_eq, running_pruned (Int.le_refl _)]

/-- The hits of other keys leave the running bucket of a key alone. -/
theorem running_after_others {others : List Hit} (hothers : ∀ h ∈ others, h.key ≠ key ∧ h.time ≤ t) (before : List Hit) :
    options.running (options.after (before ++ others)) t key = options.running (options.after before) t key := by
  induction others using List.reverseRecOn with
  | nil => rw [List.append_nil]
  | append_singleton others hit ih =>
    obtain ⟨hkey, htime⟩ := hothers hit (List.mem_append_right _ List.mem_cons_self)
    rw [← List.append_assoc, after_append, running_set, if_neg hkey, running_pruned htime]
    exact ih fun h hh => hothers h (List.mem_append_left _ hh)

theorem get_of_get_pruned (h : (options.pruned buckets t).get key = some bucket) : buckets.get key = some bucket := by
  unfold pruned at h
  split at h
  · exact JsMap.get_of_get_purge h
  · exact h

/-- The window of a tracked key starts with a hit of the key. -/
theorem exists_opening (h : (options.after before).get key = some bucket) :
    ∃ opening ∈ before, opening.key = key ∧ opening.time = bucket.windowStart := by
  induction before using List.reverseRecOn generalizing key bucket with
  | nil => cases h
  | append_singleton before hit ih =>
    have hold : ∀ {key bucket}, (options.after before).get key = some bucket →
        ∃ opening ∈ before ++ [hit], opening.key = key ∧ opening.time = bucket.windowStart := by
      intro key bucket hget
      obtain ⟨opening, hmem, hopening⟩ := ih hget
      exact ⟨opening, List.mem_append_left _ hmem, hopening⟩
    rw [after_append, JsMap.get_set] at h
    split at h
    · rename_i hkey
      rw [counted_pruned, Option.some.injEq] at h
      subst h
      cases hrunning : options.running (options.after before) hit.time hit.key with
      | none => exact ⟨hit, List.mem_append_right _ List.mem_cons_self, hkey, rfl⟩
      | some current =>
        have hcurrent := hold (running_eq_some.mp hrunning).1
        exact hkey ▸ hcurrent
    · exact hold (get_of_get_pruned h)

theorem windowStart_le (hlast : ∀ h ∈ before, h.time ≤ t)
    (h : options.running (options.after before) t key = some bucket) : bucket.windowStart ≤ t := by
  obtain ⟨opening, hmem, -, htime⟩ := exists_opening (running_eq_some.mp h).1
  exact htime ▸ hlast opening hmem

theorem isOver_window {start : Millis} {count : Nat} (ht : t < start + options.windowMs) :
    options.isOver t ⟨start, count⟩ = false := by
  have hlt : t - start < options.windowMs := Int.sub_left_lt_of_lt_add ht
  simpa [isOver] using hlt

/-- While the window that a hit has opened is running, its bucket counts the hits of its key. -/
theorem running_in_window {first : Hit} {between : List Hit} (hopens : options.opens before first = true)
    (hbetween : ∀ h ∈ between, h.time ≤ t) (horder : InOrder (before ++ first :: between)) (hfirst : first.time ≤ t)
    (ht : t < first.time + options.windowMs) :
    options.running (options.after (before ++ first :: between)) t first.key =
      some ⟨first.time, (between.filter fun h => h.key = first.key).length + 1⟩ := by
  induction between using List.reverseRecOn generalizing t with
  | nil =>
    have hnone : options.running (options.after before) first.time first.key = none := Option.isNone_iff_eq_none.mp hopens
    rw [after_append, running_set, if_pos rfl, counted_pruned, hnone]
    simp [Option.filter, isOver_window ht]
  | append_singleton between hit ih =>
    have hassoc : before ++ first :: (between ++ [hit]) = (before ++ first :: between) ++ [hit] := by simp
    have hhit : hit.time ≤ t := hbetween hit (List.mem_append_right _ List.mem_cons_self)
    rw [hassoc] at horder ⊢
    have hearlier : ∀ h ∈ between, h.time ≤ hit.time := fun h hh =>
      horder.le_of_mem (List.mem_append_right _ (List.mem_cons_of_mem _ hh))
    have hopened : first.time ≤ hit.time := horder.le_of_mem (List.mem_append_right _ List.mem_cons_self)
    rw [after_append, running_set]
    by_cases hkey : hit.key = first.key
    · have hrunning := ih hearlier horder.front hopened (Int.lt_of_le_of_lt hhit ht)
      rw [if_pos hkey, counted_pruned, hkey, hrunning]
      simp [Option.filter, isOver_window ht, hkey]
    · rw [if_neg hkey, running_pruned hhit, ih (fun h hh => hbetween h (List.mem_append_left _ hh)) horder.front hfirst ht]
      simp [hkey]

/-- In the window that a hit has opened, its key is allowed `max` hits, the first among them. -/
theorem allowed_in_window {window : List Hit} {first : Hit} (hfirst : (window ++ [hit]).head? = some first)
    (hkey : first.key = hit.key) (hopens : options.opens before first = true)
    (horder : InOrder (before ++ window ++ [hit])) (htime : hit.time < first.time + options.windowMs) :
    (options.answer (before ++ window) hit).allowed = true ↔
      (window.filter fun h => h.key = hit.key).length < options.max := by
  rw [answer, check_eq, count_allowed, counted_pruned, decide_eq_true_eq]
  cases window with
  | nil =>
    obtain rfl := Option.some.inj hfirst
    have hnone : options.running (options.after before) hit.time hit.key = none := Option.isNone_iff_eq_none.mp hopens
    rw [List.append_nil, hnone]
    exact Iff.rfl
  | cons opening between =>
    obtain rfl := Option.some.inj hfirst
    have hearlier : ∀ h ∈ between, h.time ≤ hit.time := fun h hh =>
      horder.le_of_mem (List.mem_append_right _ (List.mem_cons_of_mem _ hh))
    have hrunning := running_in_window hopens hearlier horder.front
      (horder.le_of_mem (List.mem_append_right _ List.mem_cons_self)) htime
    rw [← hkey, hrunning, List.filter_cons_of_pos (by simp)]
    exact Iff.rfl

/-- A refused hit is told when the window of its key will be over. -/
theorem refused_running (horder : InOrder (before ++ [hit])) (hmax : 1 ≤ options.max)
    (h : (options.answer before hit).allowed = false) : ∃ bucket, options.running (options.after before) hit.time hit.key =
      some bucket ∧ bucket.windowStart ≤ hit.time ∧ hit.time < bucket.windowStart + options.windowMs ∧
      (options.answer before hit).retryAfterMs = bucket.windowStart + options.windowMs - hit.time := by
  rw [answer, check_eq] at h ⊢
  have hretry := count_refused h
  rw [count_allowed, counted_pruned, decide_eq_false_iff_not] at h
  rw [counted_pruned] at hretry
  cases hrunning : options.running (options.after before) hit.time hit.key with
  | none =>
    rw [hrunning] at h
    exact absurd hmax h
  | some bucket =>
    rw [hrunning] at hretry
    have hlive : hit.time - bucket.windowStart < options.windowMs := by
      simpa [isOver] using (running_eq_some.mp hrunning).2
    exact ⟨bucket, rfl, windowStart_le (fun _ hh => horder.le_of_mem hh) hrunning,
      Int.lt_add_of_sub_left_lt hlive, hretry⟩

/-- The next hit of the key is allowed from the time on that a refused hit is told. -/
theorem allowed_after_retry {between : List Hit} {next : Hit} (hmax : 1 ≤ options.max)
    (horder : InOrder (before ++ hit :: between ++ [next])) (hrefused : (options.answer before hit).allowed = false)
    (hkey : next.key = hit.key) (hbetween : ∀ h ∈ between, h.key ≠ hit.key)
    (htime : hit.time + (options.answer before hit).retryAfterMs ≤ next.time) :
    (options.answer (before ++ hit :: between) next).allowed = true := by
  have hsplit : before ++ hit :: between = before ++ [hit] ++ between := by simp
  have hothers : ∀ h ∈ between, h.key ≠ hit.key ∧ h.time ≤ next.time := fun h hh =>
    ⟨hbetween h hh, horder.le_of_mem (List.mem_append_right _ (List.mem_cons_of_mem _ hh))⟩
  obtain ⟨bucket, hrunning, -, -, hretry⟩ :=
    refused_running (InOrder.front (hsplit ▸ horder.front)) hmax hrefused
  -- The bucket of the refused hit is over by now, whether or not it has been pruned.
  have hover : options.isOver next.time ⟨bucket.windowStart, bucket.count + 1⟩ = true := by
    rw [hretry, add_sub_cancel] at htime
    have hle : options.windowMs ≤ next.time - bucket.windowStart := Int.le_sub_left_of_add_le htime
    simpa [isOver] using hle
  have hnone : options.running (options.after (before ++ hit :: between)) next.time next.key = none := by
    rw [hsplit, hkey, running_after_others hothers, after_append, running_set, if_pos rfl, counted_pruned, hrunning]
    simp [Option.filter, hover]
  rw [answer, check_eq, count_allowed, counted_pruned, hnone]
  exact decide_eq_true hmax

/-! ### The number of tracked keys -/

/-- The keys, other than that of the hit, that have been checked within the last `windowMs`. -/
def recentOthers (options : FixedWindowLimiterOptions) (before : List Hit) (hit : Hit) : List String :=
  ((before.filter fun h => h.key ≠ hit.key && hit.time - h.time < options.windowMs).map Hit.key).dedup

theorem size_after_append (before : List Hit) (hit : Hit) : (options.after (before ++ [hit])).size =
    ((options.pruned (options.after before) hit.time).delete hit.key).size + 1 := by
  rw [after_append, JsMap.size_set]

/-- A key that a pruning leaves has been checked within the last `windowMs`. -/
theorem mem_recentOthers (h : ((options.prune (options.after before) hit.time).delete hit.key).get key = some bucket) :
    key ∈ options.recentOthers before hit := by
  rw [JsMap.get_delete] at h
  split at h
  · cases h
  rename_i hother
  obtain ⟨hget, hrunning⟩ := running_eq_some.mp ((JsMap.get_purge _ _).symm.trans h)
  obtain ⟨opening, hmem, rfl, htime⟩ := exists_opening hget
  have hrecent : hit.time - opening.time < options.windowMs := by
    simpa [isOver, htime] using hrunning
  refine List.mem_dedup.mpr (List.mem_map_of_mem (List.mem_filter.mpr ⟨hmem, ?_⟩))
  simp [Ne.symm hother, hrecent]

end FixedWindowLimiterOptions

/-- The answers to a key are those of a limiter that never prunes and hears of no other key; in each window exactly the
first `max` hits are allowed; and a refused hit is told a time within the length of a window, after which the next one is
allowed. -/
theorem limiter_windows {options : FixedWindowLimiterOptions} (hmax : 1 ≤ options.max) {hits : List Hit}
    (horder : FixedWindowLimiterOptions.InOrder hits) :
    (∀ before hit behind, hits = before ++ hit :: behind →
      options.answer before hit = options.answerUnpruned (before.filter fun h => h.key = hit.key) hit) ∧
    (∀ before window hit behind, hits = before ++ window ++ hit :: behind →
      ∀ first, (window ++ [hit]).head? = some first → first.key = hit.key → options.opens before first = true →
        hit.time < first.time + options.windowMs →
        ((options.answer (before ++ window) hit).allowed = true ↔
          (window.filter fun h => h.key = hit.key).length < options.max)) ∧
    ∀ before hit behind, hits = before ++ hit :: behind → (options.answer before hit).allowed = false →
      0 < (options.answer before hit).retryAfterMs ∧ (options.answer before hit).retryAfterMs ≤ options.windowMs ∧
      ∀ between next later, behind = between ++ next :: later → next.key = hit.key → (∀ h ∈ between, h.key ≠ hit.key) →
        hit.time + (options.answer before hit).retryAfterMs ≤ next.time →
        (options.answer (before ++ hit :: between) next).allowed = true := by
  refine ⟨?_, ?_, ?_⟩
  · rintro before hit behind rfl
    rw [List.append_cons] at horder
    exact FixedWindowLimiterOptions.answer_eq_unpruned horder.front
  · rintro before window hit behind rfl first hfirst hkey hopens htime
    rw [List.append_cons] at horder
    exact FixedWindowLimiterOptions.allowed_in_window hfirst hkey hopens horder.front htime
  · rintro before hit behind rfl hrefused
    have hhit : FixedWindowLimiterOptions.InOrder (before ++ [hit]) := by
      rw [List.append_cons] at horder
      exact horder.front
    obtain ⟨bucket, -, hstart, hlive, hretry⟩ := FixedWindowLimiterOptions.refused_running hhit hmax hrefused
    refine ⟨?_, ?_, ?_⟩
    · rw [hretry]
      exact Int.sub_pos_of_lt hlive
    · rw [hretry]
      exact Int.sub_right_le_of_le_add (Int.add_comm _ _ ▸ Int.add_le_add_left hstart options.windowMs)
    · rintro between next later rfl hkey hbetween htime
      have hnext : FixedWindowLimiterOptions.InOrder (before ++ hit :: between ++ [next] ++ later) := by simpa using horder
      exact FixedWindowLimiterOptions.allowed_after_retry hmax hnext.front hrefused hkey hbetween htime

/-- One hit a second; every call prunes. -/
def strict : FixedWindowLimiterOptions := ⟨1000, 1, 0⟩

/-- Two hits in one window, and one after it; another key comes between. -/
def threeHits : List Hit := [⟨0, "a"⟩, ⟨400, "a"⟩, ⟨500, "b"⟩, ⟨1000, "a"⟩]

theorem limiter_windows_three : strict.answer [⟨0, "a"⟩] ⟨400, "a"⟩ = ⟨false, 600⟩ ∧
    (strict.answer [⟨0, "a"⟩, ⟨400, "a"⟩, ⟨500, "b"⟩] ⟨1000, "a"⟩).allowed = true := by
  have hmax : 1 ≤ strict.max := Nat.le_refl _
  have horder : FixedWindowLimiterOptions.InOrder threeHits := by
    unfold FixedWindowLimiterOptions.InOrder
    decide
  have hanswer : strict.answer [⟨0, "a"⟩] ⟨400, "a"⟩ = ⟨false, 600⟩ := by decide
  have hrefused := (limiter_windows hmax horder).2.2 [⟨0, "a"⟩] ⟨400, "a"⟩ [⟨500, "b"⟩, ⟨1000, "a"⟩] rfl
    (congrArg RateLimitResult.allowed hanswer)
  refine ⟨hanswer, hrefused.2.2 [⟨500, "b"⟩] ⟨1000, "a"⟩ [] rfl rfl (by decide) ?_⟩
  rw [hanswer]
  decide

/-- After every call the limiter tracks, besides the key of the call, at most `pruneThreshold` keys, or only keys that have
been checked within the last `windowMs`. -/
theorem tracked_keys_bounded (options : FixedWindowLimiterOptions) (before : List Hit) (hit : Hit) :
    (options.after (before ++ [hit])).size ≤
      1 + max options.pruneThreshold (options.recentOthers before hit).length := by
  rw [FixedWindowLimiterOptions.size_after_append, FixedWindowLimiterOptions.pruned]
  split
  · have hrecent : ((options.prune (options.after before) hit.time).delete hit.key).size ≤
        (options.recentOthers before hit).length :=
      JsMap.size_le_length fun _ _ => FixedWindowLimiterOptions.mem_recentOthers
    omega
  · rename_i hfew
    have hsize : (options.after before).size ≤ options.pruneThreshold := Nat.le_of_not_lt hfew
    have hothers := JsMap.size_delete_le (options.after before) hit.key
    omega

/-- The keys of the first window are pruned at the last call. -/
example : (FixedWindowLimiterOptions.after ⟨1000, 1, 2⟩
    [⟨0, "a"⟩, ⟨0, "b"⟩, ⟨1000, "c"⟩, ⟨1000, "d"⟩]).size = 2 := by decide

end TicTacToe
