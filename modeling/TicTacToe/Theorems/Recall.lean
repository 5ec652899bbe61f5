import TicTacToe.Theorems.Cache

/-! # Who is answered from the dedup cache

The cache is keyed by the `commandId` alone. Beside a run, a log keeps for every response that enters the cache the
session that has produced it and the type of its command, so that the log can be compared with the connections
that are answered from the cache later. -/

namespace TicTacToe

/-- A response that has entered the dedup cache, with its command and the session that has produced it. -/
structure Recording where
  commandId : CommandId
  type : CommandType
  token : SessionToken
  entry : DedupEntry

/-- The handler of the command sends the cached response of its id: a `PING` has none, and a rematch command that has
been processed is dropped. -/
def CommandBody.resends : CommandBody → Bool
  | .ping _ => false
  | body => !body.isRematch

namespace Server
variable {s t : Server} {G : IdSource} {c : ConnectionId} {rec : ConnectionRecord} {command : Command} {i : Input}
  {id : CommandId} {entry : DedupEntry} {use use' : Recording} {log : List Recording}

/-- The responses that a step puts into the dedup cache. -/
def recordings (s : Server) (i : Input) (t : Server) : List Recording :=
  match i with
  | .frame c frame _ =>
    match s.connections.get c, frame.parseResult with
    | some rec, .ok command =>
      match s.cached command.commandId, t.cached command.commandId with
      | none, some entry =>
        ((producer rec command.body entry.result).map fun token =>
          ⟨command.commandId, command.body.type, token, entry⟩).toList
      | _, _ => []
    | _, _ => []
  | _ => []

/-- The server with the log of the responses that it has put into the dedup cache. -/
abbrev Caching (G : IdSource) : Server × List Recording → Input → Option (Server × List Recording) :=
  Transition.logged (step G) recordings

/-- Input `i` brings a command to its handler, which answers it with the entry that it finds in the dedup cache. -/
structure Recalls (s : Server) (i : Input) (c : ConnectionId) (rec : ConnectionRecord) (command : Command)
    (entry : DedupEntry) : Prop where
  routed : s.Routed i c rec command
  session : isAuthExempt command.body = false → rec.sessionToken ≠ none
  cached : s.cached command.commandId = some entry
  resends : command.body.resends = true

/-- A connection with record `rec` acts for the session that has produced `entry`, which has been a response to a command
like `command` and acknowledges no other session. -/
def Entitled (log : List Recording) (rec : ConnectionRecord) (command : Command) (entry : DedupEntry) : Prop :=
  ∃ use ∈ log, use.entry = entry ∧ use.commandId = command.commandId ∧ use.type = command.body.type ∧
    rec.sessionToken = some use.token ∧
    ∀ token p, entry.result.acknowledged = some (token, p) → rec.sessionToken = some token

/-- A command that its handler would answer from the cache has the id of a response that has been recorded at most
`COMMAND_DEDUP_TTL_MS` ago for a command of another type, or by a session that its connection does not act for. -/
def ReusesId (x : Server × List Recording) (i : Input) : Prop :=
  ∃ c rec command use, x.1.Routed i c rec command ∧ (isAuthExempt command.body = false → rec.sessionToken ≠ none) ∧
    command.body.resends = true ∧ use ∈ x.2 ∧ use.commandId = command.commandId ∧
    use.entry.isExpired x.1.now = false ∧ (use.type ≠ command.body.type ∨ rec.sessionToken ≠ some use.token)

/-- The response to a routed command that has not been cached before is logged. -/
theorem recordings_of_routed {token : SessionToken} (hrouted : s.Routed i c rec command)
    (hnone : s.cached command.commandId = none) (hsome : t.cached command.commandId = some entry)
    (hproducer : producer rec command.body entry.result = some token) :
    s.recordings i t = [⟨command.commandId, command.body.type, token, entry⟩] := by
  obtain ⟨frame, diskFails, rfl, -, hparse⟩ := hrouted.frame
  simp only [recordings, hrouted.connection, hparse, hnone, hsome, hproducer, Option.map_some, Option.toList_some]

/-- A logged response is the only one of its step, and is new in the cache. -/
theorem mem_recordings (hstep : s.step G i = some t) (h : use ∈ s.recordings i t) :
    s.recordings i t = [use] ∧ s.cached use.commandId = none ∧ t.cached use.commandId = some use.entry ∧
      ∀ token p, use.entry.result.acknowledged = some (token, p) → token = use.token := by
  unfold recordings at h
  split at h
  · split at h
    · split at h
      · rename_i c frame diskFails _ _ rec command hrec hparse _ _ entry hnone hsome
        obtain ⟨token, hproducer, rfl⟩ := Option.map_eq_some_iff.mp (Option.mem_toList.mp h)
        rcases step_cached hstep hsome with hold | ⟨c', rec', command', hrouted, -, token', hproducer', hack⟩
        · rw [hnone] at hold
          cases hold
        obtain ⟨frame', diskFails', hi, -, hparse'⟩ := hrouted.frame
        obtain ⟨rfl, rfl, rfl⟩ := Input.frame.inj hi
        obtain rfl := Option.some.inj (hrec.symm.trans hrouted.connection)
        obtain rfl := Except.ok.inj (hparse.symm.trans hparse')
        obtain rfl := Option.some.inj (hproducer.symm.trans hproducer')
        exact ⟨recordings_of_routed hrouted hnone hsome hproducer, hnone, hsome, hack⟩
      · cases h
    · cases h
  · cases h

/-! ### The log accounts for the cache -/

/-- The log and the dedup cache agree on the responses that have not expired. -/
structure Accounted (s : Server) (log : List Recording) : Prop where
  logged : ∀ id entry, s.cached id = some entry → ∃ use ∈ log, use.commandId = id ∧ use.entry = entry
  cached : ∀ use ∈ log, use.entry.isExpired s.now = false → s.cached use.commandId = some use.entry
  once : ∀ use ∈ log, ∀ use' ∈ log, use.entry.isExpired s.now = false → use'.entry.isExpired s.now = false →
    use.commandId = use'.commandId → use = use'
  ack : ∀ use ∈ log, ∀ token p, use.entry.result.acknowledged = some (token, p) → token = use.token

theorem start_accounted (now : Millis) (version : String) (repository : HistoryRepository) :
    Accounted (start now version repository) [] where
  logged id entry h := by cases h
  cached := by simp
  once := by simp
  ack := by simp

/-- An entry that has not expired after a step had not expired before it. -/
theorem live_before (hk : s.Keyed) (hstep : s.step G i = some t) (h : entry.isExpired t.now = false) :
    entry.isExpired s.now = false := by
  have hle := now_le_step hk hstep
  simp only [DedupEntry.isExpired, decide_eq_false_iff_not, Int.not_lt] at h ⊢
  exact Int.le_trans (Int.sub_le_sub_right hle _) h

theorem live_cached_step (hk : s.Keyed) (hstep : s.step G i = some t) (hcached : s.cached id = some entry)
    (h : entry.isExpired t.now = false) : t.cached id = some entry := by
  refine cached_step hk hstep hcached ?_
  simpa only [DedupEntry.isExpired, decide_eq_false_iff_not, Int.not_lt] using h

theorem live_of_cached (h : s.cached id = some entry) : entry.isExpired s.now = false := (JsMap.lookup_eq_some.mp h).2

theorem Routed.now (hk : s.Keyed) (h : s.Routed i c rec command) (hstep : s.step G i = some t) : t.now = s.now := by
  obtain ⟨frame, diskFails, rfl, -⟩ := h.frame
  rcases step_acts hk hstep with ⟨elapsed, hi, -⟩ | ⟨r, a, hacts, -⟩
  · cases hi
  · exact hacts.now

/-- A routed command does not overwrite an entry of its id. -/
theorem Routed.cached_step (hk : s.Keyed) (h : s.Routed i c rec command) (hstep : s.step G i = some t)
    (hcached : s.cached id = some entry) : t.cached id = some entry := by
  refine live_cached_step hk hstep hcached ?_
  rw [h.now hk hstep]
  exact live_of_cached hcached

theorem Accounted.step (h : Accounted s log) (hk : s.Keyed) (hstep : s.step G i = some t) :
    Accounted t (log ++ s.recordings i t) where
  logged id entry hcached := by
    have hold : s.cached id = some entry → ∃ use ∈ log ++ s.recordings i t, use.commandId = id ∧ use.entry = entry := by
      intro hold
      obtain ⟨use, huse, he⟩ := h.logged id entry hold
      exact ⟨use, List.mem_append_left _ huse, he⟩
    rcases step_cached hstep hcached with hbefore | ⟨c, rec, command, hrouted, rfl, token, hproducer, -⟩
    · exact hold hbefore
    cases hbefore : s.cached command.commandId with
    | none =>
      rw [recordings_of_routed hrouted hbefore hcached hproducer]
      exact ⟨_, List.mem_append_right _ (List.mem_singleton_self _), rfl, rfl⟩
    | some old =>
      obtain rfl := Option.some.inj ((hrouted.cached_step hk hstep hbefore).symm.trans hcached)
      exact hold hbefore
  cached use huse hlive := by
    rcases List.mem_append.mp huse with huse | huse
    · exact live_cached_step hk hstep (h.cached use huse (live_before hk hstep hlive)) hlive
    · obtain ⟨-, -, hsome, -⟩ := mem_recordings hstep huse
      exact hsome
  once use huse use' huse' hlive hlive' hid := by
    -- A new response has an id that no unexpired one has.
    have hfresh : ∀ {old new}, old ∈ log → old.entry.isExpired t.now = false → new ∈ s.recordings i t →
        old.commandId ≠ new.commandId := by
      intro old new hold holdLive hnew he
      obtain ⟨-, hnone, -⟩ := mem_recordings hstep hnew
      have hsome := h.cached old hold (live_before hk hstep holdLive)
      rw [he, hnone] at hsome
      cases hsome
    rcases List.mem_append.mp huse with huse | huse
    · rcases List.mem_append.mp huse' with huse' | huse'
      · exact h.once use huse use' huse' (live_before hk hstep hlive) (live_before hk hstep hlive') hid
      · exact absurd hid (hfresh huse hlive huse')
    · rcases List.mem_append.mp huse' with huse' | huse'
      · exact absurd hid.symm (hfresh huse' hlive' huse)
      · obtain ⟨hsingle, -⟩ := mem_recordings hstep huse
        rw [hsingle] at huse'
        exact (List.mem_singleton.mp huse').symm
  ack use huse token p hack := by
    rcases List.mem_append.mp huse with huse | huse
    · exact h.ack use huse token p hack
    · obtain ⟨-, -, -, hsame⟩ := mem_recordings hstep huse
      exact hsame token p hack

theorem runs_accounted {now : Millis} {version : String} {repository : HistoryRepository}
    {x : Server × List Recording} (h : Transition.Runs (Caching G) (fun _ _ => True)
      (start now version repository, []) x) : x.1.Keyed ∧ Accounted x.1 x.2 := by
  refine h.invariant (P := fun x => x.1.Keyed ∧ Accounted x.1 x.2)
    ⟨start_keyed now version repository, start_accounted now version repository⟩ fun x y i hx _ hstep => ?_
  obtain ⟨hk, hx⟩ := hx
  obtain ⟨h, hlog⟩ := Transition.logged_eq_some.mp hstep
  refine ⟨hk.step h, ?_⟩
  rw [hlog]
  exact hx.step hk h

/-- Among the responses that the log accounts for, a command is entitled to the one that it finds in the cache just if
no reused id has led it there. -/
theorem entitled_iff {x : Server × List Recording} (hx : Accounted x.1 x.2) :
    (∀ c rec command entry, x.1.Recalls i c rec command entry → Entitled x.2 rec command entry) ↔ ¬ReusesId x i := by
  constructor
  · rintro hall ⟨c, rec, command, use, hrouted, hsession, hresends, huse, hid, hlive, hother⟩
    have hcached : x.1.cached command.commandId = some use.entry := hid ▸ hx.cached use huse hlive
    obtain ⟨use', huse', hentry, hid', htype, htoken, -⟩ :=
      hall c rec command use.entry ⟨hrouted, hsession, hcached, hresends⟩
    obtain rfl := hx.once use' huse' use huse (hentry ▸ hlive) hlive (hid'.trans hid.symm)
    rcases hother with hother | hother
    · exact hother htype
    · exact hother htoken
  · intro hreuse c rec command entry hrecalls
    obtain ⟨use, huse, hid, rfl⟩ := hx.logged command.commandId entry hrecalls.cached
    have hsame : ¬(use.type ≠ command.body.type ∨ rec.sessionToken ≠ some use.token) := fun hother =>
      hreuse ⟨c, rec, command, use, hrecalls.routed, hrecalls.session, hrecalls.resends, huse, hid,
        live_of_cached hrecalls.cached, hother⟩
    obtain ⟨htype, htoken⟩ := not_or.mp hsame
    have htoken := not_not.mp htoken
    refine ⟨use, huse, rfl, hid, not_not.mp htype, htoken, fun token p hack => ?_⟩
    rw [htoken, hx.ack use huse token p hack]

theorem Recalls.written (hk : s.Keyed) (h : s.Recalls i c rec command entry) (hstep : s.step G i = some t) :
    t.wire = s.wire ++ [(c, s.reread entry.result)] := by
  obtain ⟨frame, diskFails, rfl, -⟩ := h.routed.frame
  have hping : ∀ clientTime, command.body ≠ .ping clientTime := by
    intro clientTime he
    have hresends := h.resends
    rw [he] at hresends
    cases hresends
  have hrematch : command.body.isRematch = false := by
    have hresends := h.resends
    unfold CommandBody.resends at hresends
    split at hresends
    · cases hresends
    · simpa using hresends
  have hresent := retry_resent hk h.routed h.cached hping h.session hstep
  simpa [hrematch] using hresent.wire

end Server

open Server

/-- In every run, what a command gets from the dedup cache is sent on its connection, as it reads then, and a step
delivers only responses that the connection's own session has produced for a command of the same type, with no
`AUTH_ACK` of another session among them, just if it does not reuse an id. -/
theorem recalled_by_own_session {G : IdSource} {now : Millis} {version : String} {repository : HistoryRepository}
    {x y : Server × List Recording} {i : Input}
    (hrun : Transition.Runs (Caching G) (fun _ _ => True) (start now version repository, []) x)
    (hstep : Caching G x i = some y) :
    (∀ c rec command entry, x.1.Recalls i c rec command entry → y.1.wire = x.1.wire ++ [(c, x.1.reread entry.result)]) ∧
      ((∀ c rec command entry, x.1.Recalls i c rec command entry → Entitled x.2 rec command entry) ↔ ¬ReusesId x i) := by
  obtain ⟨hk, hx⟩ := runs_accounted hrun
  obtain ⟨h, -⟩ := Transition.logged_eq_some.mp hstep
  exact ⟨fun c rec command entry hrecalls => hrecalls.written hk h, entitled_iff hx⟩

/-- Player 1 sends its `JOIN_ROOM` twice and is answered from the cache. -/
theorem recalled_by_own_session_join : ∃ x y : Server × List Recording, ∃ rec entry,
    Transition.Runs (Caching tallies) (fun _ _ => True) (fresh, []) x ∧
    Caching tallies x (asks 0 "join1" (.joinRoom (tally 'r' 4) none)) = some y ∧
    y.1.wire = x.1.wire ++ [(tally 'c' 0, x.1.reread entry.result)] ∧
    Entitled x.2 rec ⟨"join1", .joinRoom (tally 'r' 4) none⟩ entry := by
  let join := asks 0 "join1" (.joinRoom (tally 'r' 4) none)
  have hcheck : (Transition.run (Caching tallies) (fun _ _ => true) (fresh, []) (opening.take 6)).any (fun x =>
      (x.1.routes 0).any (fun rec => rec.sessionToken.isSome && x.2.all fun use =>
        use.commandId ≠ "join1" || use.type = .JOIN_ROOM && rec.sessionToken = some use.token) &&
      (x.1.cached "join1").isSome && (Caching tallies x join).isSome) = true := by decide +kernel
  obtain ⟨x, hrun, hx⟩ := Transition.exists_run (C := fun _ _ => True) (fun _ _ _ => trivial) hcheck
  simp only [Bool.and_eq_true, Option.any_eq_true, List.all_eq_true, Bool.or_eq_true, decide_eq_true_eq,
    Option.isSome_iff_exists] at hx
  obtain ⟨⟨⟨rec, hrec, ⟨token, htoken⟩, hown⟩, entry, hentry⟩, y, hstep⟩ := hx
  have hrouted := routed_of_routes hrec "join1" (.joinRoom (tally 'r' 4) none)
  obtain ⟨hwritten, hentitled⟩ := recalled_by_own_session hrun hstep
  have hrecalls : x.1.Recalls join (tally 'c' 0) rec ⟨"join1", .joinRoom (tally 'r' 4) none⟩ entry :=
    ⟨hrouted, by simp [htoken], hentry, rfl⟩
  have hreuse : ¬ReusesId x join := by
    rintro ⟨c, rec', command, use, hrouted', -, -, huse, hid, -, hother⟩
    obtain ⟨rfl, rfl, rfl⟩ := hrouted.unique hrouted'
    rcases hown use huse with hne | ⟨htype, hsame⟩
    · exact hne hid
    · exact hother.elim (fun h => h htype) fun h => h hsame
  exact ⟨x, y, rec, entry, hrun, hstep, hwritten _ _ _ _ hrecalls, hentitled.mpr hreuse _ _ _ _ hrecalls⟩

/-- A connection that acts for nobody sends an `AUTH` with the id of player 1's: it gets player 1's `AUTH_ACK` and acts
for player 1 from then on. -/
theorem guessed_id_discloses_token : ∃ x y : Server × List Recording, ∃ rec entry,
    Transition.Runs (Caching tallies) (fun _ _ => True) (fresh, []) x ∧
    Caching tallies x (asks 2 "auth1" (.auth none)) = some y ∧
    x.1.Recalls (asks 2 "auth1" (.auth none)) (tally 'c' 2) rec ⟨"auth1", .auth none⟩ entry ∧
    ¬Entitled x.2 rec ⟨"auth1", .auth none⟩ entry ∧ rec.sessionToken = none ∧
    entry.result.acknowledged = some (tally 't' 1, tally 'p' 1) ∧ y.1.wire = x.1.wire ++ [(tally 'c' 2, entry.result)] ∧
    ((y.1.connections.get (tally 'c' 2)).bind ConnectionRecord.sessionToken) = some (tally 't' 1) := by
  let auth := asks 2 "auth1" (.auth none)
  have hcheck : (Transition.run (Caching tallies) (fun _ _ => true) (fresh, [])
      [.connect, asks 0 "auth1" (.auth none), .connect]).any (fun x =>
        (x.1.connections.get (tally 'c' 2)).any (fun rec => rec.sessionToken.isNone && !rec.authenticated) &&
        (x.1.touchConnection (tally 'c' 2)).withinRateLimit (tally 'c' 2) &&
        (x.1.cached "auth1").any (fun entry => entry.result.acknowledged = some (tally 't' 1, tally 'p' 1)) &&
        (Caching tallies x auth).any fun y =>
          (y.1.connections.get (tally 'c' 2)).bind ConnectionRecord.sessionToken = some (tally 't' 1)) = true := by
    decide +kernel
  obtain ⟨x, hrun, hx⟩ := Transition.exists_run (C := fun _ _ => True) (fun _ _ _ => trivial) hcheck
  simp only [Bool.and_eq_true, Option.any_eq_true, Option.isNone_iff_eq_none, Bool.not_eq_true', decide_eq_true_eq] at hx
  obtain ⟨⟨⟨⟨rec, hrec, htoken, hauth⟩, hrate⟩, entry, hentry, hack⟩, y, hstep, hbound⟩ := hx
  have hrouted : x.1.Routed auth (tally 'c' 2) rec ⟨"auth1", .auth none⟩ :=
    ⟨⟨_, _, rfl, by simp [MAX_FRAME_BYTES], rfl⟩, hrate, hrec, Or.inr rfl, by simp [hauth]⟩
  have hrecalls : x.1.Recalls auth (tally 'c' 2) rec ⟨"auth1", .auth none⟩ entry :=
    ⟨hrouted, by simp [isAuthExempt], hentry, rfl⟩
  have hdenied : ¬Entitled x.2 rec ⟨"auth1", .auth none⟩ entry := by
    rintro ⟨use, -, -, -, -, hsame, -⟩
    rw [htoken] at hsame
    cases hsame
  have hk := (runs_accounted hrun).1
  have hwritten := hrecalls.written hk (Transition.logged_eq_some.mp hstep).1
  rw [reread_of_acknowledged hack] at hwritten
  exact ⟨x, y, rec, entry, hrun, hstep, hrecalls, hdenied, htoken, hack, hwritten, hbound⟩

end TicTacToe
