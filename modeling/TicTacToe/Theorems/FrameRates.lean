import TicTacToe.Lib.FixedWindow
import TicTacToe.Theorems.Closing
import TicTacToe.Theorems.RateLimits

/-! # Rates in any stretch of time

Both rate limits count in fixed windows that start with a frame or a hit, so that more than the limit may pass in a
stretch that begins within one window and ends within the next. How many can pass in an arbitrary stretch, and what has
gone before a refusal, is bounded all the same. -/

namespace TicTacToe
namespace Server
variable {s t : Server} {G : IdSource} {i : Input} {c : ConnectionId} {rec : ConnectionRecord} {log : List (Millis × Bool)}

/-! ### Frames -/

/-- The frame that connection `c` has counted in a step, with its time and whether the router goes on with it. -/
def countedFrames (c : ConnectionId) (s : Server) (i : Input) (_ : Server) : List (Millis × Bool) :=
  match i with
  | .frame c' raw _ =>
    if c' = c && (s.connections.has c && raw.byteLength ≤ MAX_FRAME_BYTES) then
      [(s.now, decide (s.frameError c raw ≠ some .RATE_LIMITED))]
    else []
  | _ => []

def RateBucket.window (bucket : RateBucket) : FixedWindow.Window := ⟨bucket.windowStart, bucket.count⟩

/-- A bucket is over when more than `RATE_WINDOW_MS` have passed. -/
theorem hit_window (now : Millis) (bucket : RateBucket) :
    FixedWindow.hit (RATE_WINDOW_MS + 1) (some (RateBucket.window bucket)) now =
      RateBucket.window (countMessage now bucket) := by
  unfold FixedWindow.hit countMessage
  dsimp only [RateBucket.window]
  by_cases h : now - bucket.windowStart > RATE_WINDOW_MS
  · rw [if_pos h, if_pos (Int.add_one_le_of_lt h)]
  · rw [if_neg h, if_neg fun hle => h (Int.lt_of_add_one_le hle)]

/-- The router's own errors other than that of the limiter come after it. -/
theorem frameError_limited {raw : RawFrame} (hrec : s.connections.get c = some rec)
    (hsize : raw.byteLength ≤ MAX_FRAME_BYTES) :
    decide (s.frameError c raw ≠ some .RATE_LIMITED) =
      decide ((countMessage s.now rec.rateBucket).count ≤ RATE_MAX_MSGS) := by
  have hwithin : (s.touchConnection c).withinRateLimit c =
      decide ((countMessage s.now rec.rateBucket).count ≤ RATE_MAX_MSGS) := by
    rw [withinRateLimit, touchConnection, JsMap.get_modify, if_pos rfl, hrec]
    rfl
  rw [← hwithin, frameError, if_neg (Nat.not_lt.mpr hsize)]
  cases (s.touchConnection c).withinRateLimit c with
  | false => rfl
  | true =>
    refine decide_eq_true ?_
    simp only [Bool.not_true, Bool.false_eq_true, ↓reduceIte]
    split
    · rename_i reason _
      cases reason <;> exact fun h => by cases h
    · intro h
      obtain ⟨rec', -, he⟩ := Option.bind_eq_some_iff.mp h
      split at he
      · cases he
      · split at he <;> cases he

/-- An input is counted on connection `c`, or leaves its bucket alone. -/
theorem countedFrames_cases (hrec : s.connections.get c = some rec) (i : Input) (t : Server) :
    (s.countedFrames c i t = [] ∧ (rec.received s.now c i).rateBucket = rec.rateBucket) ∨
    (s.countedFrames c i t = [(s.now, decide ((countMessage s.now rec.rateBucket).count ≤ RATE_MAX_MSGS))] ∧
      (rec.received s.now c i).rateBucket = countMessage s.now rec.rateBucket) := by
  cases i with
  | frame c' raw diskFails =>
    have hhas : s.connections.has c = true := by rw [JsMap.has, hrec, Option.isSome_some]
    by_cases hcounted : c' = c ∧ raw.byteLength ≤ MAX_FRAME_BYTES
    · obtain ⟨rfl, hsize⟩ := hcounted
      refine Or.inr ⟨?_, ?_⟩
      · simp only [countedFrames, hhas, hsize, decide_true, Bool.and_true, ↓reduceIte, frameError_limited hrec hsize]
      · simp only [ConnectionRecord.received, Input.refreshes, hsize, decide_true, Bool.and_true, ↓reduceIte]
    · refine Or.inl ⟨?_, ?_⟩
      · rw [countedFrames, if_neg]
        simpa [hhas] using hcounted
      · rw [ConnectionRecord.received_of_silent]
        simpa [Input.refreshes] using hcounted
  | wsPong c' =>
    refine Or.inl ⟨rfl, ?_⟩
    unfold ConnectionRecord.received
    split <;> rfl
  | _ => exact Or.inl ⟨rfl, rfl⟩

/-- Connection `c` has counted the frames of the log, and its bucket is the last window of them. -/
structure Metered (G : IdSource) (c : ConnectionId) (s : Server) (log : List (Millis × Bool)) : Prop where
  past : ∀ e ∈ log, e.1 ≤ s.now
  drawn : log ≠ [] ∨ s.connections.get c ≠ none → ∃ k < s.nextId, c = G.connectionId k
  counts : ∃ first w, (∀ x, first = some x → x.count = 0) ∧
    FixedWindow.Counts RATE_MAX_MSGS (RATE_WINDOW_MS + 1) first log w ∧ (∀ x, w = some x → x.start ≤ s.now) ∧
    ∀ rec, s.connections.get c = some rec → w = some (RateBucket.window rec.rateBucket)

theorem start_metered (now : Millis) (version : String) (repository : HistoryRepository) (c : ConnectionId) :
    Metered G c (start now version repository) [] where
  past e he := absurd he List.not_mem_nil
  drawn h := h.elim (absurd rfl) (absurd rfl)
  counts := by
    refine ⟨none, none, ?_, .nil, ?_, ?_⟩ <;> intro x hx <;> cases hx

/-- A counted frame of a connection with record `rec`. -/
theorem Metered.hit (h : Metered G c s log) (hrec : s.connections.get c = some rec) (hnow : s.now ≤ t.now) :
    ∃ first w, (∀ x, first = some x → x.count = 0) ∧
      FixedWindow.Counts RATE_MAX_MSGS (RATE_WINDOW_MS + 1) first
        (log ++ [(s.now, decide ((countMessage s.now rec.rateBucket).count ≤ RATE_MAX_MSGS))]) w ∧
      (∀ x, w = some x → x.start ≤ t.now) ∧ w = some (RateBucket.window (countMessage s.now rec.rateBucket)) := by
  obtain ⟨first, w, hfirst, hcounts, hstart, hbucket⟩ := h.counts
  obtain rfl := hbucket rec hrec
  have hnext := hcounts.snoc h.past hstart
  rw [hit_window] at hnext
  refine ⟨first, _, hfirst, hnext, ?_, rfl⟩
  intro x hx
  obtain rfl := Option.some.inj hx
  have hold := Int.le_trans (hstart _ rfl) hnow
  unfold countMessage
  dsimp only [RateBucket.window]
  split
  · exact hnow
  · exact hold

theorem Metered.step (h : Metered G c s log) (hn : G.NeverRepeats) (hk : s.Keyed) (hi : s.Issuing G)
    (hstep : s.step G i = some t) : Metered G c t (log ++ s.countedFrames c i t) := by
  have hnow := now_le_step hk hstep
  have hid := nextId_le_step hk hstep
  have hrecord := step_record hi hstep c
  have hmono : (∃ k < s.nextId, c = G.connectionId k) → ∃ k < t.nextId, c = G.connectionId k :=
    fun ⟨k, hlt, he⟩ => ⟨k, Nat.lt_of_lt_of_le hlt hid, he⟩
  have hnone : s.connections.get c = none → s.countedFrames c i t = [] := by
    intro hnone
    cases i with
    | frame c' raw diskFails => simp [countedFrames, JsMap.has, hnone]
    | _ => rfl
  -- Where the connection was open before the step.
  have hopen : ∀ rec, s.connections.get c = some rec →
      (∀ rec', t.connections.get c = some rec' → rec'.rateBucket = (rec.received s.now c i).rateBucket) →
      Metered G c t (log ++ s.countedFrames c i t) := by
    intro rec hrec hkept
    have hdrawn := hmono (h.drawn (Or.inr (by rw [hrec]; exact Option.some_ne_none rec)))
    rcases countedFrames_cases hrec i t with ⟨he, hbucket⟩ | ⟨he, hbucket⟩
    · rw [he, List.append_nil]
      obtain ⟨first, w, hfirst, hcounts, hstart, hw⟩ := h.counts
      refine ⟨fun e he => Int.le_trans (h.past e he) hnow, fun _ => hdrawn, first, w, hfirst, hcounts,
        fun x hx => Int.le_trans (hstart x hx) hnow, fun rec' hrec' => ?_⟩
      rw [hw rec hrec, hkept rec' hrec', hbucket]
    · rw [he]
      obtain ⟨first, w, hfirst, hcounts, hstart, hw⟩ := h.hit hrec hnow
      refine ⟨?_, fun _ => hdrawn, first, w, hfirst, hcounts, hstart, fun rec' hrec' => ?_⟩
      · intro e he
        rcases List.mem_append.mp he with he | he
        · exact Int.le_trans (h.past e he) hnow
        · rw [List.mem_singleton.mp he]
          exact hnow
      · rw [hw, hkept rec' hrec', hbucket]
  generalize hold : s.connections.get c = old at hrecord
  generalize hnew : t.connections.get c = new at hrecord
  cases hrecord with
  | absent =>
    rw [hnone hold, List.append_nil]
    obtain ⟨first, w, hfirst, hcounts, hstart, -⟩ := h.counts
    refine ⟨fun e he => Int.le_trans (h.past e he) hnow, fun hsome => ?_, first, w, hfirst, hcounts,
      fun x hx => Int.le_trans (hstart x hx) hnow, fun rec' hrec' => by rw [hnew] at hrec'; cases hrec'⟩
    rcases hsome with hsome | hsome
    · exact hmono (h.drawn (Or.inl hsome))
    · exact absurd hnew hsome
  | opened hconnect hc =>
    -- A fresh connection has counted no frame.
    subst hconnect
    have hempty : log = [] := by
      by_contra hlog
      obtain ⟨k, hlt, he⟩ := h.drawn (Or.inl hlog)
      exact Nat.ne_of_lt hlt (hn.connectionId (he.symm.trans hc))
    subst hempty
    obtain rfl := Option.some.inj hstep
    refine ⟨fun e he => absurd he List.not_mem_nil, fun _ => ⟨s.nextId, Nat.lt_succ_self _, hc⟩,
      some ⟨s.now, 0⟩, some ⟨s.now, 0⟩, ?_, .nil, ?_, fun rec' hrec' => ?_⟩
    · intro x hx
      exact Option.some.inj hx ▸ rfl
    · intro x hx
      exact Option.some.inj hx ▸ Int.le_refl _
    · rw [hnew] at hrec'
      exact Option.some.inj hrec' ▸ rfl
  | @received rec =>
    refine hopen rec hold fun rec' hrec' => ?_
    rw [hnew] at hrec'
    exact Option.some.inj hrec' ▸ rfl
  | @bound rec =>
    refine hopen rec hold fun rec' hrec' => ?_
    rw [hnew] at hrec'
    exact Option.some.inj hrec' ▸ rfl
  | @closed rec =>
    refine hopen rec hold fun rec' hrec' => ?_
    rw [hnew] at hrec'
    cases hrec'

theorem runs_metered {C : Server × List (Millis × Bool) → Input → Prop} {now : Millis} {version : String}
    {repository : HistoryRepository} (hn : G.NeverRepeats) {x : Server × List (Millis × Bool)}
    (hrun : Transition.Runs (Transition.logged (step G) (countedFrames c)) C (start now version repository, []) x) :
    Metered G c x.1 x.2 := by
  suffices x.1.Seats G ∧ Metered G c x.1 x.2 from this.2
  refine hrun.invariant (P := fun x => x.1.Seats G ∧ Metered G c x.1 x.2)
    ⟨start_seats now version repository, start_metered now version repository c⟩ fun x y i hx _ hxy => ?_
  obtain ⟨hstep, hlog⟩ := Transition.logged_eq_some.mp hxy
  exact ⟨hx.1.step hn hstep, hlog ▸ hx.2.step hn hx.1.keyed hx.1.issuing hstep⟩

/-! ### What the limiter lets through -/

/-- A frame that the limiter refuses is answered with an error. It starts the idle timer of its connection again and counts
in its bucket, and leaves the other connections and everything else alone. -/
theorem refused_step (hstep : s.step G i = some t) (hrefused : s.countedFrames c i t = [(s.now, false)]) :
    t = { s with
      connections := ((s.touchConnection c).countFrame c).connections
      wire := s.wire ++ [(c, .event (makeErrorEvent .RATE_LIMITED (ERROR_META .RATE_LIMITED).summary
        (ERROR_META .RATE_LIMITED).recoverable none none))] } := by
  cases i with
  | frame c' raw diskFails =>
    simp only [countedFrames] at hrefused
    split at hrefused
    · rename_i hcounted
      simp only [Bool.and_eq_true, decide_eq_true_eq] at hcounted
      obtain ⟨rfl, hopen, hsize⟩ := hcounted
      obtain ⟨rec, hrec⟩ := Option.isSome_iff_exists.mp hopen
      rw [frameError_limited hrec hsize] at hrefused
      have hrate : (s.touchConnection c').withinRateLimit c' = false := by
        rw [withinRateLimit, touchConnection, JsMap.get_modify, if_pos rfl, hrec]
        exact (Prod.mk.inj (List.cons.inj hrefused).1).2
      have hhas : ((s.touchConnection c').countFrame c').connections.has c' = true := by
        rw [JsMap.has, counted_get hsize diskFails, hrec]
        rfl
      obtain rfl := Option.some.inj hstep
      rw [handleFrame, if_neg (Nat.not_lt.mpr hsize)]
      simp only [hrate, Bool.not_false, ↓reduceIte]
      have hsent : ((s.touchConnection c').countFrame c').sendError c' .RATE_LIMITED none =
          ((s.touchConnection c').countFrame c').send c' (.event (makeErrorEvent .RATE_LIMITED
            (ERROR_META .RATE_LIMITED).summary (ERROR_META .RATE_LIMITED).recoverable none none)) := rfl
      rw [hsent, send, if_pos hhas]
      rfl
    · cases hrefused
  | _ => cases hrefused

/-- A command gets to its handler only in a frame that is counted and let through. -/
theorem Routed.counted {command : Command} (h : s.Routed i c rec command) (t : Server) :
    s.countedFrames c i t = [(s.now, true)] := by
  obtain ⟨raw, diskFails, rfl, hsize, hparse⟩ := h.frame
  have hhas : s.connections.has c = true := by rw [JsMap.has, h.connection, Option.isSome_some]
  simp only [countedFrames, hhas, hsize, decide_true, Bool.and_true, ↓reduceIte, h.frameError.2]
  rfl

end Server

/-! ### Hits -/

namespace FixedWindowLimiterOptions
variable {options : FixedWindowLimiterOptions} {hits : List Hit}

/-- The hits of a key, each with its time and whether the limiter allows it. -/
def answers (options : FixedWindowLimiterOptions) (key : String) (hits : List Hit) : List (Millis × Bool) :=
  (hits.foldl (fun x hit =>
    let checked := options.check x.1 hit
    (checked.2, if hit.key = key then x.2 ++ [(hit.time, checked.1.allowed)] else x.2))
    ((JsMap.empty : Buckets), ([] : List (Millis × Bool)))).2

theorem answers_append (options : FixedWindowLimiterOptions) (key : String) (before : List Hit) (hit : Hit) :
    options.answers key (before ++ [hit]) = options.answers key before ++
      if hit.key = key then [(hit.time, (options.answer before hit).allowed)] else [] := by
  have hbuckets : (before.foldl (fun x hit =>
      let checked := options.check x.1 hit
      (checked.2, if hit.key = key then x.2 ++ [(hit.time, checked.1.allowed)] else x.2))
      ((JsMap.empty : Buckets), ([] : List (Millis × Bool)))).1 = options.after before := by
    induction before using List.reverseRecOn with
    | nil => rfl
    | append_singleton before hit ih => rw [List.foldl_append, after, List.foldl_append, ← after, ← ih]; rfl
  rw [answers, List.foldl_append]
  simp only [List.foldl_cons, List.foldl_nil, hbuckets]
  split
  · rfl
  · rw [List.append_nil]
    rfl

def window (bucket : Bucket) : FixedWindow.Window := ⟨bucket.windowStart, bucket.count⟩

/-- A bucket is over when `windowMs` have passed. -/
theorem window_counted (buckets : Buckets) (hit : Hit) : window (options.counted buckets hit) =
    FixedWindow.hit options.windowMs ((buckets.get hit.key).map window) hit.time := by
  unfold counted currentBucket FixedWindow.hit
  cases buckets.get hit.key with
  | none => rfl
  | some bucket =>
    dsimp only [Option.map_some, window]
    by_cases h : options.windowMs ≤ hit.time - bucket.windowStart
    · rw [if_pos h, if_pos (by simpa [isOver] using h)]
    · rw [if_neg h, if_neg (by simpa [isOver] using h)]

/-- The answers to a key are those of a limiter of its own. -/
theorem answers_counts (key : String) (horder : InOrder hits) : FixedWindow.Counts options.max options.windowMs none
      (options.answers key hits) (((options.afterUnpruned (hits.filter fun h => h.key = key)).get key).map window) ∧
    (∀ e ∈ options.answers key hits, ∃ h ∈ hits, h.time = e.1) ∧
    ∀ bucket, (options.afterUnpruned (hits.filter fun h => h.key = key)).get key = some bucket →
      ∃ h ∈ hits, h.time = bucket.windowStart := by
  induction hits using List.reverseRecOn with
  | nil => exact ⟨.nil, fun e he => absurd he List.not_mem_nil, fun bucket h => by cases h⟩
  | append_singleton before hit ih =>
    obtain ⟨hcounts, htimes, hstart⟩ := ih horder.front
    have hold : ∀ {t : Millis}, (∃ h ∈ before, h.time = t) → ∃ h ∈ before ++ [hit], h.time = t :=
      fun ⟨h, hh, ht⟩ => ⟨h, List.mem_append_left _ hh, ht⟩
    rw [answers_append, List.filter_append]
    by_cases hkey : hit.key = key
    · subst hkey
      have hfilter : [hit].filter (fun h => h.key = hit.key) = [hit] := by simp
      rw [if_pos rfl, hfilter, afterUnpruned_append, JsMap.get_set, if_pos rfl]
      have hearlier : ∀ {t : Millis}, (∃ h ∈ before, h.time = t) → t ≤ hit.time :=
        fun ⟨h, hh, ht⟩ => ht ▸ horder.le_of_mem hh
      have hnext := hcounts.snoc (t := hit.time) (fun e he => hearlier (htimes e he)) (fun x hx => ?_)
      · rw [← window_counted] at hnext
        refine ⟨?_, ?_, ?_⟩
        · rw [answer_eq_unpruned horder]
          exact hnext
        · intro e he
          rcases List.mem_append.mp he with he | he
          · exact hold (htimes e he)
          · exact ⟨hit, List.mem_append_right _ List.mem_cons_self, by rw [List.mem_singleton.mp he]⟩
        · intro bucket hbucket
          obtain rfl := Option.some.inj hbucket
          unfold counted currentBucket
          split
          · exact ⟨hit, List.mem_append_right _ List.mem_cons_self, rfl⟩
          · rename_i current hcurrent
            split
            · exact ⟨hit, List.mem_append_right _ List.mem_cons_self, rfl⟩
            · exact hold (hstart current hcurrent)
      · obtain ⟨bucket, hbucket, rfl⟩ := Option.map_eq_some_iff.mp hx
        exact hearlier (hstart bucket hbucket)
    · have hfilter : [hit].filter (fun h => h.key = key) = [] := by simp [hkey]
      rw [if_neg hkey, hfilter, List.append_nil, List.append_nil]
      exact ⟨hcounts, fun e he => hold (htimes e he), fun bucket hbucket => hold (hstart bucket hbucket)⟩

end FixedWindowLimiterOptions

open Server

/-- In a stretch of time the commands of a connection that get to their handlers are among the frames that the limiter
lets through: `RATE_MAX_MSGS` for each window that can begin in the stretch, and for one that was running before. It
refuses a frame only if the connection has sent `RATE_MAX_MSGS` others within the last `RATE_WINDOW_MS`, and then nothing
happens but that the error is written, and the idle timer and the bucket of this one connection note the frame. -/
theorem frame_rate_bounded {G : IdSource} (hn : G.NeverRepeats) {C : Server × List (Millis × Bool) → Input → Prop}
    {now : Millis} {version : String} {repository : HistoryRepository} {c : ConnectionId} {s : Server}
    {log : List (Millis × Bool)}
    (hrun : Transition.Runs (Transition.logged (step G) (countedFrames c)) C (start now version repository, []) (s, log)) :
    (∀ a b : Millis, a ≤ b →
      (FixedWindow.admittedBetween log a b : Int) ≤ RATE_MAX_MSGS * (2 + (b - a) / (RATE_WINDOW_MS + 1))) ∧
    (∀ before t after, log = before ++ (t, false) :: after →
      RATE_MAX_MSGS ≤ (before.filter fun e => t - e.1 < RATE_WINDOW_MS + 1).length) ∧
    (∀ i t, s.step G i = some t → s.countedFrames c i t = [(s.now, false)] → t = { s with
      connections := ((s.touchConnection c).countFrame c).connections
      wire := s.wire ++ [(c, .event (makeErrorEvent .RATE_LIMITED (ERROR_META .RATE_LIMITED).summary
        (ERROR_META .RATE_LIMITED).recoverable none none))] }) ∧
    ∀ i t rec command, s.Routed i c rec command → s.countedFrames c i t = [(s.now, true)] := by
  obtain ⟨first, w, hfirst, hcounts, -⟩ := (runs_metered hn hrun).counts
  have hpos : 0 < RATE_WINDOW_MS + 1 := by decide
  exact ⟨fun a b hab => hcounts.admittedBetween_le hpos hab,
    fun before t after hlog => hcounts.refused hfirst hlog,
    fun i t hstep hrefused => refused_step hstep hrefused,
    fun i t rec command hrouted => hrouted.counted t⟩

/-- A frame that is not in the protocol. -/
def noise (c : ConnectionId) : Input := .frame c ⟨0, .error .malformed⟩ false

/-- Connection 0 sends 61 frames at once; the last one is refused. -/
theorem frame_rate_bounded_flood : ∃ s log,
    Transition.Runs (Transition.logged (step tallies) (countedFrames (tally 'c' 0))) (fun _ _ => True) (fresh, [])
      (s, log) ∧
    log = List.replicate 60 (0, true) ++ [(0, false)] ∧ FixedWindow.admittedBetween log 0 0 = 60 ∧
    (FixedWindow.admittedBetween log 0 0 : Int) ≤ RATE_MAX_MSGS * (2 + (0 - 0) / (RATE_WINDOW_MS + 1)) := by
  have hcheck : (Transition.run (Transition.logged (step tallies) (countedFrames (tally 'c' 0))) (fun _ _ => true)
      (fresh, []) (.connect :: List.replicate 61 (noise (tally 'c' 0)))).any
      (fun x => decide (x.2 = List.replicate 60 (0, true) ++ [(0, false)])) = true := by decide +kernel
  obtain ⟨⟨s, log⟩, hrun, hlog⟩ := Transition.exists_run (C := fun _ _ => True) (fun _ _ _ => trivial) hcheck
  have hlog' := of_decide_eq_true hlog
  refine ⟨s, log, hrun, hlog', ?_, (frame_rate_bounded tallies_neverRepeats hrun).1 0 0 (Int.le_refl 0)⟩
  simp only at hlog'
  rw [hlog']
  decide

/-- In a stretch of time a key is allowed `max` hits for each window that can begin in the stretch, and for one that was
running before, whatever the other keys do and whenever the limiter prunes; it is refused a hit only after `max` others of
its own within the last `windowMs`. -/
theorem hit_rate_bounded {options : FixedWindowLimiterOptions} (hpos : 0 < options.windowMs) {hits : List Hit}
    (horder : FixedWindowLimiterOptions.InOrder hits) (key : String) :
    (∀ a b : Millis, a ≤ b → (FixedWindow.admittedBetween (options.answers key hits) a b : Int) ≤
      options.max * (2 + (b - a) / options.windowMs)) ∧
    ∀ before t after, options.answers key hits = before ++ (t, false) :: after →
      options.max ≤ (before.filter fun e => t - e.1 < options.windowMs).length := by
  obtain ⟨hcounts, -⟩ := FixedWindowLimiterOptions.answers_counts key horder
  exact ⟨fun a b hab => hcounts.admittedBetween_le hpos hab,
    fun before t after hanswers => hcounts.refused (fun _ h => by cases h) hanswers⟩

/-- One hit is allowed a second: the second hit of key "a" is refused, and the third, in a new window, is allowed. -/
theorem hit_rate_bounded_three :
    strict.answers "a" [⟨950, "a"⟩, ⟨980, "b"⟩, ⟨1900, "a"⟩, ⟨1990, "a"⟩] = [(950, true), (1900, false), (1990, true)] ∧
      1 ≤ (([(950, true)] : List (Millis × Bool)).filter fun e => 1900 - e.1 < strict.windowMs).length := by
  have hpos : 0 < strict.windowMs := by decide
  have horder : FixedWindowLimiterOptions.InOrder [⟨950, "a"⟩, ⟨980, "b"⟩, ⟨1900, "a"⟩, ⟨1990, "a"⟩] := by
    unfold FixedWindowLimiterOptions.InOrder
    decide
  have hanswers : strict.answers "a" [⟨950, "a"⟩, ⟨980, "b"⟩, ⟨1900, "a"⟩, ⟨1990, "a"⟩] =
      [(950, true), (1900, false), (1990, true)] := by decide
  exact ⟨hanswers, (hit_rate_bounded hpos horder "a").2 [(950, true)] 1900 [(1990, true)] hanswers⟩

end TicTacToe
