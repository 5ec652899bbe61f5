import TicTacToe.Theorems.Addressees
import TicTacToe.Theorems.Archive
import TicTacToe.Theorems.Cache

/-! # Retried snapshots

A retry is answered with the object that the first handling has left in the dedup cache. A room snapshot in it refers to
the session's own list of games, so that the retry shows the games that have been recorded since. -/

namespace TicTacToe

/-! ### Sessions and their lists stay -/

/-- A room with players has its session. -/
def RoomView.Equipped (v : RoomView) : Prop := ∀ p, v.Holds p → v.game ≠ none

namespace RoomStep
variable {G : IdSource} {now : Millis} {r : RoomId} {lo hi : Nat} {v v' : RoomView} {a : RoomAction}
  {sends : List SendCall}

theorem game_stays (h : RoomStep G now r lo hi v a sends v') (hgame : v.game ≠ none) : v'.game ≠ none := by
  cases h with
  | idle | created | leftIdleRoom | reconnectedIdle | disconnected => exact hgame
  | rejoined => exact fun hnone => hgame (Option.map_eq_none_iff.mp hnone)
  | _ => exact Option.some_ne_none _

theorem equipped (h : RoomStep G now r lo hi v a sends v') (hv : v.Equipped) : v'.Equipped := by
  intro q hq
  have hslot : ∀ {p : PlayerId} {room : RoomRecord}, v.room = some room → getSlotByPlayerId room p ≠ none →
      v.game ≠ none := fun hroom hp => hv _ (RoomView.holds_iff.mpr (by rwa [RoomView.slotOf_of_room hroom]))
  cases h with
  | idle => exact hv q hq
  | created =>
    -- Nobody is in a new room yet.
    obtain ⟨room, x, hroom, hx⟩ := hq
    obtain rfl := Option.some.inj hroom
    cases x <;> cases hx
  | leftIdleRoom hroom hheld | reconnectedIdle hroom hheld => exact hslot hroom hheld
  | rejoined hroom hheld => exact fun hnone => hslot hroom hheld (Option.map_eq_none_iff.mp hnone)
  | @disconnected p room hroom =>
    obtain ⟨room', x, hroom', hx⟩ := hq
    obtain rfl := Option.some.inj hroom'
    rw [room.setConnected_samePlayers now p false] at hx
    exact hv q ⟨room, x, hroom, hx⟩
  | _ => exact Option.some_ne_none _

theorem completed_suffix (h : RoomStep G now r lo hi v a sends v') (hk : ∀ gs, v.game = some gs → gs.roomId = r) :
    v.completed <:+ v'.completed := by
  rcases (h.adds hk).1 with hsame | ⟨state, result, -, -, -, -, -, hadded⟩
  · exact hsame ▸ List.suffix_refl _
  · exact hadded ▸ List.suffix_cons _ _

end RoomStep

namespace Server
variable {s t u v : Server} {r : RoomId} {G : IdSource} {C : Server → Input → Prop} {c c' : ConnectionId}
  {commandId : CommandId} {i : Input} {entry : DedupEntry} {rec : ConnectionRecord} {command : Command}
  {diskFails : Bool} {e : WireEvent}

theorem game_step (hk : s.Keyed) (h : s.step G i = some t) (hgame : s.gameSessions.get r ≠ none) :
    t.gameSessions.get r ≠ none := by
  rcases step_view hk h r with hview | ⟨a, hacts, -⟩
  · exact fun hnone => hgame ((congrArg RoomView.game hview).symm.trans hnone)
  · obtain ⟨sends, hstep, -⟩ := hacts.step
    exact hstep.game_stays hgame

theorem game_along (hk : s.Keyed) (h : Runs G C s t) (hgame : s.gameSessions.get r ≠ none) :
    t.gameSessions.get r ≠ none := by
  induction h with
  | refl => exact hgame
  | tail hrun hi hstep ih => exact game_step (runs_keyed hk hrun) hstep ih

theorem completed_along (hk : s.Keyed) (h : Runs G C s t) (r : RoomId) :
    (s.view r).completed <:+ (t.view r).completed := by
  induction h with
  | refl => exact List.suffix_refl _
  | @tail t u i hrun hi hstep ih =>
    have hkt := runs_keyed hk hrun
    rcases step_view hkt hstep r with hview | ⟨a, hacts, -⟩
    · exact hview ▸ ih
    · obtain ⟨sends, hroom, -⟩ := hacts.step
      exact ih.trans (hroom.completed_suffix (hkt.view r))

theorem Equipped.of_views (h : ∀ r, (s.view r).Equipped) : s.Equipped := by
  intro r room p hroom hslot
  have hview := view_room_of_getRoom hroom
  exact h r p (RoomView.holds_iff.mpr (by rwa [RoomView.slotOf_of_room hview]))

/-! ### Cached snapshots -/

/-- The room of a cached snapshot has its session. -/
def Stocked (s : Server) : Prop :=
  ∀ id entry event, s.cached id = some entry → entry.result = .event (.room event) → event.payload.roomState ≠ none →
    s.gameSessions.get event.roomId ≠ none

theorem Refuses.cached {result : HandlerResult} (h : Refuses s c commandId result) (id : CommandId) :
    result.server.cached id = s.cached id := by
  obtain ⟨t, code, hq, -, rfl⟩ := h
  exact hq.cached id

theorem Relinked.shows {result result' : HandlerResult} (h : Relinked result result') (he : result.server.Shows e) :
    result'.server.Shows e := by
  obtain ⟨connections, registry, hserver, -⟩ := h.server
  rw [hserver]
  exact he.congr rfl

/-- What a handler adds to the cache shows the games of its room's session. -/
theorem Records.fresh {result : HandlerResult} (h : Records s commandId result) (hequipped : s.Equipped)
    (hentry : result.server.cached commandId = some entry) (hnew : s.cached commandId = none) :
    entry.result = .processed ∨ result.server.Shows entry.result := by
  rcases h.only entry hentry with hold | hmark | hanswer
  · rw [hnew] at hold
    cases hold
  · exact Or.inl hmark
  · exact Or.inr (h.current hequipped _ hanswer)

/-- A command leaves its entry in the cache as it is, or adds one that shows the games of its room's session. -/
theorem dispatch_fresh (hk : s.Keyed) (hequipped : s.Equipped)
    (hentry : (s.dispatch G c rec command diskFails).server.cached command.commandId = some entry) :
    s.cached command.commandId = some entry ∨ entry.result = .processed ∨
      (s.dispatch G c rec command diskFails).server.Shows entry.result := by
  cases hbody : isAuthExempt command.body with
  | true =>
    obtain ⟨id, body⟩ := command
    cases body with
    | ping clientTime => exact Or.inl hentry
    | auth guestToken =>
      have hlink := bindConnection_relinked c (s.handleAuth G c id guestToken)
      have hdispatch : s.dispatch G c rec ⟨id, .auth guestToken⟩ diskFails =
          bindConnection c (s.handleAuth G c id guestToken) := rfl
      rw [hdispatch] at hentry ⊢
      rw [hlink.cached] at hentry
      rcases handleAuth_cases (G := G) s c id guestToken with ⟨entry', hc, he⟩ | ⟨hc, hrefused | ⟨-, hrecords⟩⟩
      · rw [he] at hentry
        exact Or.inl hentry
      · exact Or.inl ((hrefused.cached id).symm.trans hentry)
      · exact Or.inr ((hrecords.fresh hequipped hentry hc).imp_right hlink.shows)
    | _ => cases hbody
  | false =>
    cases htoken : rec.sessionToken with
    | none =>
      rw [dispatch_unbound htoken hbody] at hentry
      exact Or.inl hentry
    | some token =>
      obtain ⟨result, hhandling, hdispatch⟩ := dispatch_handling (G := G) hk htoken c command diskFails hbody
      have hlink := linked_relinked c rec command.body result
      rw [hdispatch] at hentry ⊢
      rw [hlink.cached] at hentry
      cases hhandling with
      | refused hrefused => exact Or.inl ((hrefused.cached _).symm.trans hentry)
      | recalled hs hc hresult =>
        subst hresult
        exact Or.inl hentry
      | processed hp hdone =>
        exact Or.inr ((hdone.records.fresh hequipped hentry hp.uncached).imp_right hlink.shows)

theorem Stocked.step (hs : s.Stocked) (hk : s.Keyed) (hequipped : s.Equipped) (h : s.step G i = some t) :
    t.Stocked := by
  intro id entry event hentry hresult hstate
  rcases step_cached h hentry with hold | ⟨c, rec, command, hrouted, rfl, -⟩
  · exact game_step hk h (hs id entry event hold hresult hstate)
  obtain ⟨frame, diskFails, rfl, -⟩ := hrouted.frame
  have hq := arrived_quiet s c rec
  have hku : (s.arrived c rec).Keyed := hk.arrived c rec
  have ht : conclude G c command.commandId ((s.arrived c rec).dispatch G c rec command diskFails) = t :=
    (handleFrame_routed hrouted).symm.trans (Option.some.inj h)
  have hconclude := conclude_quiet G c command.commandId ((s.arrived c rec).dispatch G c rec command diskFails)
  rw [ht] at hconclude
  rcases dispatch_fresh hku (hequipped.to_quiet hq) ((hconclude.cached _).symm.trans hentry) with hold | hmark | hshows
  · exact game_step hk h (hs _ entry event ((hq.cached _).symm.trans hold) hresult hstate)
  · rw [hmark] at hresult
    cases hresult
  · obtain ⟨roomState, hroomState⟩ := Option.ne_none_iff_exists'.mp hstate
    obtain ⟨gs, hgs, -⟩ := hshows.congr hconclude.gameSessions event roomState hresult hroomState
    exact Option.ne_none_iff_exists'.mpr ⟨gs, hgs⟩

theorem runs_stocked {now : Millis} {version : String} {repository : HistoryRepository}
    (h : Runs G C (start now version repository) s) : s.Keyed ∧ s.Equipped ∧ s.Stocked := by
  have hall : s.Keyed ∧ (∀ r, (s.view r).Equipped) ∧ s.Stocked := by
    refine h.invariant (P := fun s => s.Keyed ∧ (∀ r, (s.view r).Equipped) ∧ s.Stocked)
      ⟨start_keyed now version repository, ?_, ?_⟩ fun s t i hs _ hstep => ?_
    · rintro r p ⟨room, x, hroom, -⟩
      cases hroom
    · intro id entry event hentry
      cases hentry
    · obtain ⟨hk, hequipped, hstocked⟩ := hs
      refine ⟨hk.step hstep, fun r => ?_, hstocked.step hk (.of_views hequipped) hstep⟩
      rcases step_view hk hstep r with hview | ⟨a, hacts, -⟩
      · exact hview ▸ hequipped r
      · obtain ⟨sends, hroom, -⟩ := hacts.step
        exact hroom.equipped (hequipped r)
  exact ⟨hall.1, .of_views hall.2.1, hall.2.2⟩

/-! ### Reading a snapshot again -/

theorem withHistory_withHistory (payload : RoomPayload) (games games' : List GameSummary) :
    (payload.withHistory games).withHistory games' = payload.withHistory games' := by
  cases payload <;> rfl

theorem roomState_withHistory {payload : RoomPayload} {games : List GameSummary} {roomState : RoomStateSnapshot}
    (h : (payload.withHistory games).roomState = some roomState) : roomState.gameHistory = games := by
  cases payload <;> cases h <;> rfl

/-- What is read later does not depend on what has been read before. -/
theorem reread_reread (h : ∀ r, t.gameSessions.get r ≠ none → u.gameSessions.get r ≠ none) (e : WireEvent) :
    u.reread (t.reread e) = u.reread e := by
  rcases e with (_ | _ | _ | event) | _ <;> try rfl
  cases ht : t.gameSessions.get event.roomId with
  | none => simp only [reread, ht]
  | some gs =>
    obtain ⟨gs', hu⟩ := Option.ne_none_iff_exists'.mp (h event.roomId (by simp [ht]))
    simp only [reread, ht, hu, withHistory_withHistory]

/-- A snapshot that is read where the room has its session shows the games of the session. -/
theorem reread_shows (h : ∀ event, e = .event (.room event) → event.payload.roomState ≠ none →
    s.gameSessions.get event.roomId ≠ none) : s.Shows (s.reread e) := by
  intro event roomState hevent hstate
  rcases e with (_ | _ | _ | event₀) | _ <;> try cases hevent
  cases hg : s.gameSessions.get event₀.roomId with
  | none =>
    simp only [reread, hg] at hevent
    obtain rfl := Event.room.inj (WireEvent.event.inj hevent)
    exact absurd hg (h _ rfl (by simp [hstate]))
  | some gs =>
    simp only [reread, hg] at hevent
    obtain rfl := Event.room.inj (WireEvent.event.inj hevent)
    exact ⟨gs, hg, roomState_withHistory hstate⟩

/-- No game has been added between `t` and `u` to the games of the room that `e` holds a snapshot of. -/
def SameGames (t u : Server) (e : WireEvent) : Prop :=
  ∀ event, e = .event (.room event) → event.payload.roomState ≠ none →
    (u.view event.roomId).completed = (t.view event.roomId).completed

theorem completed_eq {gs : GameSession} (h : s.gameSessions.get r = some gs) :
    (s.view r).completed = gs.completedGames := RoomView.completed_of_game h

/-- A snapshot reads later as before just if no game has been added. -/
theorem reread_eq_iff (hk : t.Keyed) (hrun : Runs G C t u) (hshows : t.Shows e) :
    u.reread e = e ↔ t.SameGames u e := by
  have hsession : ∀ event roomState, e = .event (.room event) → event.payload.roomState = some roomState →
      ∃ gs gs', t.gameSessions.get event.roomId = some gs ∧ u.gameSessions.get event.roomId = some gs' ∧
        roomState.gameHistory = gs.history := by
    intro event roomState he hstate
    obtain ⟨gs, hg, hgames⟩ := hshows event roomState he hstate
    obtain ⟨gs', hg'⟩ := Option.ne_none_iff_exists'.mp (game_along hk hrun (r := event.roomId) (by simp [hg]))
    exact ⟨gs, gs', hg, hg', hgames⟩
  constructor
  · rintro hsame event rfl hcarries
    obtain ⟨roomState, hstate⟩ := Option.ne_none_iff_exists'.mp hcarries
    obtain ⟨gs, gs', hg, hg', hgames⟩ := hsession event roomState rfl hstate
    have hpayload : event.payload.withHistory gs'.history = event.payload := by
      simp only [reread, hg'] at hsame
      exact congrArg EventEnvelope.payload (Event.room.inj (WireEvent.event.inj hsame))
    have hhistory : gs'.history = gs.history :=
      (roomState_withHistory (hpayload.symm ▸ hstate)).symm.trans hgames
    -- The list only grows, and it has as many games as before.
    have hlength := congrArg List.length hhistory
    simp only [GameSession.history, List.length_map] at hlength
    have hsuffix := completed_along hk hrun event.roomId
    rw [completed_eq hg, completed_eq hg'] at hsuffix ⊢
    exact (hsuffix.eq_of_length hlength.symm).symm
  · intro hsame
    refine Shows.reread fun event roomState he hstate => ?_
    obtain ⟨gs, gs', hg, hg', hgames⟩ := hsession event roomState he hstate
    have hcompleted := hsame event he (by simp [hstate])
    rw [completed_eq hg, completed_eq hg'] at hcompleted
    exact ⟨gs', hg', by rw [hgames, GameSession.history, GameSession.history, hcompleted]⟩

/-! ### Answering again -/

/-- What the sender of a command is owed when it sends the command again: the response, and nothing for a rematch
command. -/
def owed (G : IdSource) (s : Server) (c : ConnectionId) (rec : ConnectionRecord) (command : Command)
    (diskFails : Bool) : Option WireEvent :=
  if command.body.isRematch then none else s.response G c rec command diskFails

/-- In state `s` a command other than a `PING` succeeds, and within `COMMAND_DEDUP_TTL_MS` of the time when its response
was recorded the same session sends it again, in state `u`. A connection has its session unexpired when its commands
are routed; an `AUTH` may be sent again on any connection. -/
structure Retried (G : IdSource) (s t u v : Server) (c c' : ConnectionId) (rec rec' : ConnectionRecord)
    (command : Command) (diskFails : Bool) : Prop where
  handled : ∃ frame, s.Routed (.frame c frame diskFails) c rec command ∧ s.step G (.frame c frame diskFails) = some t
  answered : ∀ clientTime, command.body ≠ .ping clientTime
  succeeds : s.Succeeds G c rec command diskFails
  later : Runs G (fun _ _ => True) t u
  age : u.now - s.recordedAt command.commandId ≤ COMMAND_DEDUP_TTL_MS
  again : ∃ frame diskFails', u.Routed (.frame c' frame diskFails') c' rec' command ∧
    u.step G (.frame c' frame diskFails') = some v
  session : isAuthExempt command.body = false → rec'.sessionToken = rec.sessionToken

/-- What is sent again is determined. -/
theorem Resent.response_eq {sent sent' : List WireEvent} (h : Resent c sent u v) (h' : Resent c sent' u v) :
    sent = sent' := by
  have hwire := List.append_cancel_left (h.wire.symm.trans h'.wire)
  exact List.map_injective_iff.mpr (fun _ _ he => (Prod.mk.inj he).2) hwire

/-- The retry sends what the response reads as, which has shown the games of its time. -/
theorem Retried.resent {now : Millis} {version : String} {repository : HistoryRepository} {rec' : ConnectionRecord}
    (hrun : Runs G C (start now version repository) s) (h : Retried G s t u v c c' rec rec' command diskFails) :
    Resent c' ((s.owed G c rec command diskFails).map u.reread).toList u v ∧
      ∀ e, s.owed G c rec command diskFails = some e → t.Shows e := by
  obtain ⟨frame, hrouted, hstep⟩ := h.handled
  obtain ⟨frame', diskFails', hrouted', hretry⟩ := h.again
  obtain ⟨hk, hequipped, hstocked⟩ := runs_stocked hrun
  have hkt : t.Keyed := hk.step hstep
  have hku : u.Keyed := runs_keyed hkt h.later
  obtain ⟨entry, hcached, hat, hresponse, htoken⟩ := h.succeeds.recorded hk hequipped hrouted h.answered hstep
  have hstill : u.cached command.commandId = some entry := cached_along hkt h.later hcached (hat ▸ h.age)
  have htoken' : isAuthExempt command.body = false → rec'.sessionToken ≠ none := fun hbody =>
    h.session hbody ▸ htoken hbody
  have hresent := retry_resent hku hrouted' hstill h.answered htoken' hretry
  unfold owed
  cases hr : command.body.isRematch with
  | true =>
    rw [hr, if_pos rfl] at hresent
    rw [if_pos rfl]
    refine ⟨hresent, fun e he => ?_⟩
    cases he
  | false =>
    rw [hr, if_neg (by simp)] at hresent
    rw [if_neg (by simp), hresponse hr, Option.map_some, reread_reread fun r => game_along hkt h.later]
    refine ⟨hresent, fun e he => ?_⟩
    obtain rfl := Option.some.inj he
    exact reread_shows fun event => hstocked.step hk hequipped hstep _ entry event hcached

end Server

open Server in
/-- Whatever has happened in between, a retry of a successful command sends the response as it reads by then and does
nothing else; a rematch command is answered by nothing. What it sends is the first response just if no game has been
added to the room of a snapshot in the response. -/
theorem retry_resends_first_iff {G : IdSource} {C : Server → Input → Prop} {now : Millis} {version : String}
    {repository : HistoryRepository} {s t u v : Server} {c c' : ConnectionId} {rec rec' : ConnectionRecord}
    {command : Command} {diskFails : Bool} (hrun : Runs G C (start now version repository) s)
    (h : Retried G s t u v c c' rec rec' command diskFails) :
    Resent c' ((s.owed G c rec command diskFails).map u.reread).toList u v ∧
      (Resent c' (s.owed G c rec command diskFails).toList u v ↔
        ∀ e, s.owed G c rec command diskFails = some e → t.SameGames u e) := by
  obtain ⟨hresent, hshows⟩ := h.resent hrun
  obtain ⟨frame, -, hstep⟩ := h.handled
  have hkt : t.Keyed := (runs_stocked hrun).1.step hstep
  refine ⟨hresent, fun hfirst e he => ?_, fun hsame => ?_⟩
  · have hread := hresent.response_eq hfirst
    rw [he, Option.map_some, Option.toList_some, Option.toList_some] at hread
    exact (reread_eq_iff hkt h.later (hshows e he)).mp (List.singleton_inj.mp hread)
  · cases he : s.owed G c rec command diskFails with
    | none => simpa only [he, Option.map_none] using hresent
    | some e =>
      have hread := (reread_eq_iff hkt h.later (hshows e he)).mpr (hsame e he)
      simpa only [he, Option.map_some, hread] using hresent

/-! ### A `JOIN_ROOM` that is sent again -/

/-- The room of the snapshot in an object, and the number of games in it. -/
def WireEvent.shown : WireEvent → Option (RoomId × Nat)
  | .event (.room e) => e.payload.roomState.map fun roomState => (e.roomId, roomState.gameHistory.length)
  | _ => none

namespace Server

/-- The command with which player 1 joins in the opening. -/
def joins : Command := ⟨"join1", .joinRoom (tally 'r' 4) none⟩

/-- Player 1 joins, and sends the command again after the steps `later`. -/
theorem exists_joinsAgain (later : List Input) (check : Server → Server → Option WireEvent → Bool)
    (h : (Transition.run (step tallies) (fun _ _ => true) fresh (opening.take 5)).any (fun s =>
      (s.routes 0).any fun rec =>
        (s.response tallies (tally 'c' 0) rec joins false).any (fun e => !e.isError) &&
        (s.step tallies (asks 0 "join1" joins.body)).any fun t =>
          (Transition.run (step tallies) (fun _ _ => true) t later).any fun u =>
            decide (u.now - s.recordedAt "join1" ≤ COMMAND_DEDUP_TTL_MS) &&
            (u.step tallies (asks 0 "join1" joins.body)).isSome &&
            (u.routes 0).any (fun rec' => decide (rec'.sessionToken = rec.sessionToken)) &&
            check t u (s.owed tallies (tally 'c' 0) rec joins false)) = true) :
    ∃ s t u v rec rec', Runs tallies (fun _ _ => True) fresh s ∧
      Retried tallies s t u v (tally 'c' 0) (tally 'c' 0) rec rec' joins false ∧
      check t u (s.owed tallies (tally 'c' 0) rec joins false) = true := by
  obtain ⟨s, hrun, hs⟩ := Transition.exists_run (C := fun _ _ => True) (fun _ _ _ => trivial) h
  obtain ⟨rec, hrec, hs⟩ := (Option.any_eq_true _ _).mp hs
  obtain ⟨hresponse, hs⟩ := Bool.and_eq_true_iff.mp hs
  obtain ⟨e, he, hok⟩ := (Option.any_eq_true _ _).mp hresponse
  obtain ⟨t, ht, hs⟩ := (Option.any_eq_true _ _).mp hs
  obtain ⟨u, hlater, hs⟩ := Transition.exists_run (C := fun _ _ => True) (fun _ _ _ => trivial) hs
  simp only [Bool.and_eq_true, Option.any_eq_true, decide_eq_true_eq] at hs
  obtain ⟨⟨⟨hage, hretry⟩, rec', hrec', hsession⟩, hcheck⟩ := hs
  obtain ⟨v, hv⟩ := Option.isSome_iff_exists.mp hretry
  refine ⟨s, t, u, v, rec, rec', hrun, ?_, hcheck⟩
  exact ⟨⟨_, routed_of_routes hrec _ _, ht⟩, by simp [joins], Or.inl ⟨e, he, by simpa using hok⟩, hlater, hage,
    ⟨_, _, routed_of_routes hrec' _ _, hv⟩, fun _ => hsession⟩

end Server

open Server

/-- A second player joins before the retry, which shows no game, like the first response. -/
theorem retry_resends_first_join : ∃ s t u v rec rec' e,
    Retried tallies s t u v (tally 'c' 0) (tally 'c' 0) rec rec' joins false ∧
    s.owed tallies (tally 'c' 0) rec joins false = some e ∧ Resent (tally 'c' 0) [u.reread e] u v ∧
    Resent (tally 'c' 0) [e] u v := by
  obtain ⟨s, t, u, v, rec, rec', hrun, h, hcheck⟩ := exists_joinsAgain
    [.tick 1000, asks 2 "join3" (.joinRoom (tally 'r' 4) none)]
    (fun t u owed => owed.any (fun e => e.shown.any fun shown => shown.1 = tally 'r' 4) &&
      (t.view (tally 'r' 4)).completed.isEmpty && (u.view (tally 'r' 4)).completed.isEmpty) (by decide +kernel)
  simp only [Bool.and_eq_true, Option.any_eq_true, decide_eq_true_eq, List.isEmpty_iff] at hcheck
  obtain ⟨⟨⟨e, he, shown, hshown, hroom⟩, ht⟩, hu⟩ := hcheck
  obtain ⟨hread, hiff⟩ := retry_resends_first_iff hrun h
  simp only [he, Option.map_some, Option.toList_some, Option.some.injEq, forall_eq'] at hread hiff
  refine ⟨s, t, u, v, rec, rec', e, h, he, hread, hiff.mpr ?_⟩
  rintro event rfl -
  obtain ⟨roomState, -, rfl⟩ := Option.map_eq_some_iff.mp hshown
  dsimp only at hroom
  rw [hroom, ht, hu]

/-- Player 1 joins, wins a game and sends the `JOIN_ROOM` again: the game is in the answer, and was not in the first
one. -/
theorem retried_join_shows_won_game : ∃ s t u v rec rec' e e', Runs tallies (fun _ _ => True) fresh s ∧
    Retried tallies s t u v (tally 'c' 0) (tally 'c' 0) rec rec' joins false ∧
    s.owed tallies (tally 'c' 0) rec joins false = some e ∧ e.shown = some (tally 'r' 4, 0) ∧
    v.wire = u.wire ++ [(tally 'c' 0, e')] ∧ e'.shown = some (tally 'r' 4, 1) ∧
    ¬Resent (tally 'c' 0) (s.owed tallies (tally 'c' 0) rec joins false).toList u v := by
  obtain ⟨s, t, u, v, rec, rec', hrun, h, hcheck⟩ := exists_joinsAgain (won.drop 6)
    (fun _ u owed => owed.any fun e => e.shown = some (tally 'r' 4, 0) &&
      (u.reread e).shown = some (tally 'r' 4, 1)) (by decide +kernel)
  obtain ⟨e, he, hshown⟩ := (Option.any_eq_true _ _).mp hcheck
  simp only [Bool.and_eq_true, decide_eq_true_eq] at hshown
  obtain ⟨hfirst, hagain⟩ := hshown
  have hread := (h.resent hrun).1
  rw [he, Option.map_some, Option.toList_some] at hread
  refine ⟨s, t, u, v, rec, rec', e, u.reread e, hrun, h, he, hfirst, hread.wire, hagain, fun hsame => ?_⟩
  rw [he, Option.toList_some] at hsame
  have heq : u.reread e = e := List.singleton_inj.mp (hread.response_eq hsame)
  rw [heq, hfirst] at hagain
  cases hagain

end TicTacToe
