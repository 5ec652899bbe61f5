import TicTacToe.Theorems.ProposalLife
import TicTacToe.Theorems.Seats
import TicTacToe.Theorems.Starts

/-! # Consent to a rematch

A proposal counts symbols. As long as no counted player's slot is freed, and no game is started over the
proposal, the counted symbols stand for the players who hold the slots and have consented. -/

namespace TicTacToe
namespace Server
variable {s t u : Server} {G : IdSource} {i : Input} {r : RoomId} {p : PlayerId} {g : GameId}

/-! ### What the server has taken -/

/-- A player's consent to a rematch of a game, as the server has taken it. -/
structure RematchConsent where
  roomId : RoomId
  gameId : GameId
  playerId : PlayerId
  deriving DecidableEq

/-- The command is marked as processed in the dedup cache. -/
def took (s : Server) (commandId : CommandId) : Bool :=
  (s.cached commandId).any fun entry => entry.result matches .processed

/-- The consent that `p`, if a slot holder, has given by a command that the server has taken in a step to `t`. -/
def consent (s t : Server) (commandId : CommandId) (r : RoomId) (g : GameId) (p : PlayerId) : List RematchConsent :=
  if (s.getRoom r).any (fun room => (getSymbolForPlayer room p).isSome) && t.took commandId then [⟨r, g, p⟩] else []

/-- The consent given in a step from `s` to `t`. -/
def consents (s : Server) (i : Input) (t : Server) : List RematchConsent :=
  match s.processed i with
  | some (⟨id, .requestRematch r g⟩, p) => s.consent t id r g p
  | some (⟨id, .acceptRematch r g⟩, p) => s.consent t id r g p
  | _ => []

/-- The pending proposal of room `r` counts `p`, who holds a slot of the room. -/
def counts (s : Server) (r : RoomId) (p : PlayerId) : Bool :=
  (s.getRoom r).any fun room => (getSymbolForPlayer room p).any fun x =>
    (s.view r).proposal.any fun proposal => x ∈ proposal.acceptedBy

/-- A counted player's slot is freed, by a `LEAVE_ROOM` or by the end of a reconnect window. -/
def losesConsent (s : Server) (i : Input) : Bool :=
  match i, s.processed i with
  | .reconnectWindow r p _, _ => s.counts r p
  | _, some (⟨_, .leaveRoom r⟩, p) => s.counts r p
  | _, _ => false

theorem Handles.losesConsent {id : CommandId} (h : s.Handles i ⟨id, .leaveRoom r⟩ p) (hcounts : s.counts r p = true) :
    s.losesConsent i = true := by
  have hprocessed := h.processed rfl
  obtain ⟨c, rec, token, hrouted, -⟩ := h
  obtain ⟨frame, diskFails, rfl, -⟩ := hrouted.frame
  simp only [Server.losesConsent, hprocessed, hcounts]

/-- A request or an accept that has an effect on the session is marked as processed. -/
theorem Handles.marks {id : CommandId} {body : CommandBody} (h : s.Handles i ⟨id, body⟩ p)
    (hbody : body = .requestRematch r g ∨ body = .acceptRematch r g) (hstep : s.step G i = some t)
    (hchanged : t.gameSessions.get r ≠ s.gameSessions.get r) : t.took id = true := by
  obtain ⟨c, rec, token, htoken, hp, ht⟩ := h.step hstep
  have hq := arrived_quiet s c rec
  have hmarks : ∀ {result : HandlerResult} {a : PlayerId → RoomAction},
      Handling (s.arrived c rec) c id token (fun _ => []) (fun p result =>
      Acts G (s.arrived c rec) result.server r (a p) ∧ Records (s.arrived c rec) id result ∧
        Marks (s.arrived c rec) r id result) result →
      (s.arrived c rec).dispatch G c rec ⟨id, body⟩ i.diskFails = result → t.took id = true := by
    rintro result a hhandling rfl
    have hlast := conclude_quiet G c id ((s.arrived c rec).dispatch G c rec ⟨id, body⟩ i.diskFails)
    rw [← ht] at hlast
    have hgame : t.gameSessions = ((s.arrived c rec).dispatch G c rec ⟨id, body⟩ i.diskFails).server.gameSessions :=
      hlast.gameSessions
    rw [hgame, ← hq.gameSessions] at hchanged
    cases hhandling with
    | refused h =>
      obtain ⟨u, code, hu, -, he⟩ := h
      rw [he] at hchanged
      exact absurd (congrArg (fun m => m.get r) hu.gameSessions) hchanged
    | recalled hs hc =>
      rw [hp.uncached] at hc
      cases hc
    | processed hp' hdone =>
      rw [took, hlast.cached, hdone.2.2 hchanged]
      rfl
  rcases hbody with rfl | rfl
  · exact hmarks (handleRequestRematch_handling (G := G) (s.arrived c rec) c id r g token) (by simp only [dispatch, htoken])
  · exact hmarks (handleAcceptRematch_handling (G := G) (s.arrived c rec) c id r g token) (by simp only [dispatch, htoken])

/-- A holder's request or accept that has an effect on the session is logged. -/
theorem Handles.consents {id : CommandId} {body : CommandBody} {room : RoomRecord} {x : PlayerSymbol}
    (h : s.Handles i ⟨id, body⟩ p) (hbody : body = .requestRematch r g ∨ body = .acceptRematch r g)
    (hroom : s.getRoom r = some room) (hx : getSymbolForPlayer room p = some x) (hstep : s.step G i = some t)
    (hchanged : t.gameSessions.get r ≠ s.gameSessions.get r) : ⟨r, g, p⟩ ∈ s.consents i t := by
  have htook := h.marks hbody hstep hchanged
  have hgiven : s.consent t id r g p = [⟨r, g, p⟩] := by simp [consent, hroom, hx, htook]
  have hprocessed := h.processed (by rcases hbody with rfl | rfl <;> rfl)
  rcases hbody with rfl | rfl
  · simp only [Server.consents, hprocessed, hgiven, List.mem_singleton]
  · simp only [Server.consents, hprocessed, hgiven, List.mem_singleton]

/-- In a room that has expired, a window that fires frees no slot. -/
theorem reconnectWindow_dead {diskFails : Bool} (hdead : s.getRoom r = none)
    (h : s.step G (.reconnectWindow r p diskFails) = some t) : (t.view r).room = (s.view r).room := by
  simp only [step] at h
  split at h
  · cases h
  rename_i gs hg
  split at h
  · cases h
  rename_i timer htimer
  split at h
  · split at h
    · cases h
    · rename_i hthrew
      obtain rfl := Option.some.inj h
      unfold fireReconnectWindow at hthrew ⊢
      dsimp only at hthrew ⊢
      split
      · rename_i hfails
        exact absurd (by rw [if_pos hfails]) hthrew
      · rw [onPlayerLeft_view, if_pos rfl, getRoom_applyEffect, hdead, view_applyEffect, if_pos rfl]
        rfl
  · cases h

end Server

/-! ### Consent and slots -/

/-- A list that has both symbols. -/
theorem mem_of_length_two {l : List PlayerSymbol} (hn : l.Nodup) (h : l.length = 2) (x : PlayerSymbol) : x ∈ l := by
  obtain ⟨y, z, rfl⟩ := List.length_eq_two.mp h
  have hne : y ≠ z := by simpa using hn
  cases x <;> cases y <;> cases z <;> first | exact absurd rfl hne | simp

/-- The pending proposal counts slot holders whose consent is logged. -/
def RoomView.Consenting (v : RoomView) (r : RoomId) (log : List Server.RematchConsent) : Prop :=
  ∀ proposal, v.proposal = some proposal → proposal.acceptedBy.Nodup ∧ ∃ room, v.room = some room ∧
    ∀ x ∈ proposal.acceptedBy, ∃ q, slotHolds (room.slot x) q = true ∧ ⟨r, proposal.gameId, q⟩ ∈ log

section Steps
variable {G : IdSource} {now : Millis} {r : RoomId} {lo hi : Nat} {v v' : RoomView} {a : RoomAction}
  {sends : List SendCall} {p : PlayerId} {g : GameId}

/-- An accept that leaves the game, or that finds the room's view unchanged, starts nothing. -/
theorem StartStep.not_started (h : StartStep G lo hi v a sends v') (hstate : v'.state = v.state) :
    startedGames sends = [] := by
  cases h with
  | none hgame hsends => exact hsends
  | @started state n hcause hlo hhi hid hfirst hnew hsends =>
    rw [← hstate, hnew] at hfirst
    cases hturn : state.firstTurn <;> simp [Server.readyFirstTurn, hturn] at hfirst

/-- An accept that consumes the proposal with both players there starts one game between them. -/
theorem RoomStep.consumes {room : RoomRecord} {slotX slotO : PlayerSlot}
    (h : RoomStep G now r lo hi v (.rematchAccepted p g) sends v') (hroom : v.room = some room)
    (hX : room.playerX = some slotX) (hO : room.playerO = some slotO) (hsome : v.proposal ≠ none)
    (hnone : v'.proposal = none) :
    ∃ game, startedGames sends = [game] ∧ game.playerX = slotX.playerId ∧ game.playerO = slotO.playerId := by
  cases h with
  | @rematchAccepted p room' gs g unused n hroom' hgame hlo hhi =>
    obtain rfl := Option.some.inj (hroom.symm.trans hroom')
    rw [RoomView.proposal_of_game hgame] at hsome
    rcases GameSession.handleRematchAccept_cases gs now (unused, G.gameId n) room p g with
      h | ⟨state, proposal, x, -, -, -, -, -, ⟨-, h⟩ | ⟨-, h⟩⟩
    · rw [h] at hnone
      exact absurd hnone hsome
    · rw [h] at hnone
      cases hnone
    · rw [h]
      have hX' : room.resetReady.playerX = some slotX := hX
      have hO' : room.resetReady.playerO = some slotO := hO
      have hstarted := GameSession.startGame_started { gs with rematch := none } now (G.gameId n)
        (opponent state.firstTurn) hX' hO'
      exact ⟨_, hstarted.2, rfl, rfl⟩

/-- The other actions keep the slots of the counted players. -/
theorem RoomView.Consenting.kept {log log' : List Server.RematchConsent} (hc : v.Consenting r log)
    (h : RoomStep G now r lo hi v a sends v') (hd : v.Distinct) (ha : a ≠ .created) (hsub : ∀ x ∈ log, x ∈ log')
    (hsame : v'.proposal = v.proposal)
    (hstays : ∀ proposal room x q, v.proposal = some proposal → v.room = some room → x ∈ proposal.acceptedBy →
      slotHolds (room.slot x) q = true → a ≠ .left q ∧ (a = .windowFired q → v'.room = v.room)) :
    v'.Consenting r log' := by
  intro proposal hproposal
  have hold := hsame.symm.trans hproposal
  obtain ⟨hnodup, room, hroom, hcounted⟩ := hc proposal hold
  obtain ⟨room', hroom'⟩ := Option.ne_none_iff_exists'.mp (h.keeps.1 (by simp [hroom]))
  refine ⟨hnodup, room', hroom', fun x hx => ?_⟩
  obtain ⟨q, hq, hlogged⟩ := hcounted x hx
  refine ⟨q, ?_, hsub _ hlogged⟩
  obtain ⟨hleft, hdead⟩ := hstays proposal room x q hold hroom hx hq
  by_cases hfired : a = .windowFired q
  · obtain rfl := Option.some.inj (hroom.symm.trans ((hdead hfired).symm.trans hroom'))
    exact hq
  · obtain ⟨room'', hroom'', hq'⟩ := h.slot_kept hd ha hroom hq hleft hfired
    obtain rfl := Option.some.inj (hroom'.symm.trans hroom'')
    exact hq'

end Steps

namespace Server
variable {s t : Server} {G : IdSource} {i : Input} {r : RoomId} {p : PlayerId} {g : GameId}

/-- Neither is a counted player's slot freed, nor a game started over a proposal. -/
def KeepsConsent (s : Server) (i : Input) : Prop := s.losesConsent i = false ∧ s.startsOverProposal i = false

theorem counts_of_held {room : RoomRecord} {proposal : RematchProposal} {x : PlayerSymbol} (hd : room.Distinct)
    (hroom : s.getRoom r = some room) (hproposal : (s.view r).proposal = some proposal) (hx : x ∈ proposal.acceptedBy)
    (hheld : slotHolds (room.slot x) p = true) : s.counts r p = true := by
  simp [counts, hroom, RoomRecord.getSymbolForPlayer_of_slot hd hheld, hproposal, hx]

/-- What the invariant says about a server and its log. -/
structure Consented (G : IdSource) (x : Server × List RematchConsent) : Prop where
  seats : x.1.Seats G
  proposed : ∀ r, (x.1.view r).Proposed
  consenting : ∀ r, (x.1.view r).Consenting r x.2

theorem Consented.step {log : List RematchConsent} (hs : Consented G (s, log)) (hn : G.NeverRepeats)
    (hi : s.KeepsConsent i) (h : s.step G i = some t) : Consented G (t, log ++ s.consents i t) := by
  refine ⟨hs.seats.step hn h, proposed_step hs.seats.keyed hs.proposed hi.2 h, fun r => ?_⟩
  have hsub : ∀ x ∈ log, x ∈ log ++ s.consents i t := fun x hx => List.mem_append_left _ hx
  rcases step_view hs.seats.keyed h r with hview | ⟨a, hacts, hcause⟩
  · intro proposal hproposal
    have hsame : (t.view r).proposal = (s.view r).proposal := congrArg RoomView.proposal hview
    obtain ⟨hnodup, room, hroom, hcounted⟩ := hs.consenting r proposal (hsame.symm.trans hproposal)
    refine ⟨hnodup, room, (congrArg RoomView.room hview).trans hroom, fun x hx => ?_⟩
    obtain ⟨q, hq, hlogged⟩ := hcounted x hx
    exact ⟨q, hq, hsub _ hlogged⟩
  obtain ⟨sends, hroomStep, -⟩ := hacts.step
  have hd := hs.seats.distinct r
  have hproposals := hroomStep.proposals
  -- A new room has no proposal.
  have hcreated : (s.view r).proposal ≠ none → a ≠ .created := by
    rintro hsome rfl
    have hnone := (hs.seats.created_fresh hn hacts).2
    simp [RoomView.proposal, hnone] at hsome
  cases hproposals with
  | same hsame haccept =>
    intro proposal hproposal
    have hsome : (s.view r).proposal ≠ none := by simp [hsame.symm.trans hproposal]
    refine (hs.consenting r).kept hroomStep hd (hcreated hsome) hsub hsame (fun old room x q hold hroom hx hq =>
      ⟨fun ha => ?_, fun ha => ?_⟩) proposal hproposal
    · subst ha
      obtain ⟨id, hleave⟩ := hcause
      obtain ⟨live, hlive⟩ := Option.isSome_iff_exists.mp (hacts.onLive rfl)
      obtain rfl := Option.some.inj (hroom.symm.trans (view_room_of_getRoom hlive))
      have hloses := hleave.losesConsent (counts_of_held (hd room hroom) hlive hold hx hq)
      rw [hi.1] at hloses
      cases hloses
    · subst ha
      obtain ⟨diskFails, rfl⟩ := hcause
      cases hlive : s.getRoom r with
      | none => exact reconnectWindow_dead hlive h
      | some live =>
        obtain rfl := Option.some.inj (hroom.symm.trans (view_room_of_getRoom hlive))
        have hloses : s.losesConsent (.reconnectWindow r q diskFails) = true :=
          counts_of_held (hd room hroom) hlive hold hx hq
        rw [hi.1] at hloses
        cases hloses
  | @requested p g x room ha hroom hx hnone hfinished hstate hnew =>
    subst ha
    obtain ⟨id, hrequest⟩ := hcause
    obtain ⟨live, hlive⟩ := Option.isSome_iff_exists.mp (hacts.onLive rfl)
    obtain rfl := Option.some.inj (hroom.symm.trans (view_room_of_getRoom hlive))
    intro proposal hproposal
    obtain rfl := Option.some.inj (hnew.symm.trans hproposal)
    obtain ⟨room', hroom', hheld⟩ := hroomStep.slot_kept hd (by simp) hroom (RoomRecord.slotHolds_of_symbol hx) (by simp)
      (by simp)
    refine ⟨List.nodup_singleton x, room', hroom', fun y hy => ?_⟩
    obtain rfl := List.mem_singleton.mp hy
    refine ⟨p, hheld, List.mem_append_right _ (hrequest.consents (Or.inl rfl) hlive hx h fun hgame => ?_)⟩
    have hsame := proposal_of_session hgame
    rw [hnew, hnone] at hsame
    cases hsame
  | @noted p g x room old ha hroom hx hold hfinished hstate hnew =>
    subst ha
    obtain ⟨id, haccept⟩ := hcause
    obtain ⟨live, hlive⟩ := Option.isSome_iff_exists.mp (hacts.onLive rfl)
    obtain rfl := Option.some.inj (hroom.symm.trans (view_room_of_getRoom hlive))
    intro proposal hproposal
    obtain rfl := Option.some.inj (hnew.symm.trans hproposal)
    obtain ⟨hnodup, room₀, hroom₀, hcounted⟩ := hs.consenting r old hold
    obtain rfl := Option.some.inj (hroom.symm.trans hroom₀)
    have hkept : ∀ y q, slotHolds (room.slot y) q = true →
        ∃ room', (t.view r).room = some room' ∧ slotHolds (room'.slot y) q = true :=
      fun y q hq => hroomStep.slot_kept hd (by simp) hroom hq (by simp) (by simp)
    obtain ⟨room', hroom', hheld⟩ := hkept x p (RoomRecord.slotHolds_of_symbol hx)
    have hgame : g = old.gameId := by
      obtain ⟨state, hstate, -, hid⟩ := hs.proposed r old hold
      obtain ⟨state', hstate', -, hid'⟩ := hfinished
      obtain rfl := Option.some.inj (hstate.symm.trans hstate')
      exact hid'.symm.trans hid
    refine ⟨JsSet.nodup_add hnodup, room', hroom', fun y hy => ?_⟩
    by_cases hcount : y ∈ old.acceptedBy
    · obtain ⟨q, hq, hlogged⟩ := hcounted y hcount
      obtain ⟨room'', hroom'', hq'⟩ := hkept y q hq
      obtain rfl := Option.some.inj (hroom'.symm.trans hroom'')
      exact ⟨q, hq', hsub _ hlogged⟩
    · obtain rfl := (JsSet.mem_add.mp hy).resolve_right hcount
      refine ⟨p, hheld, List.mem_append_right _ (hgame ▸ haccept.consents (Or.inr rfl) hlive hx h fun hsession => ?_)⟩
      have hsame := proposal_of_session hsession
      rw [hnew, hold] at hsame
      have hmem := congrArg RematchProposal.acceptedBy (Option.some.inj hsame)
      exact hcount (hmem ▸ hy)
  | accepted ha hroom hx hold hfinished hboth hnone | declined ha hroom hx hold hnone | expired ha hold hnone =>
    intro proposal hproposal
    rw [hnone] at hproposal
    cases hproposal

/-- The logged server. -/
abbrev Logged (G : IdSource) : Server × List RematchConsent → Input → Option (Server × List RematchConsent) :=
  Transition.logged (step G) consents

theorem runs_consented {now : Millis} {version : String} {repository : HistoryRepository} {x : Server × List RematchConsent}
    (hn : G.NeverRepeats)
    (h : Transition.Runs (Logged G) (fun x i => x.1.KeepsConsent i) (start now version repository, []) x) :
    Consented G x := by
  refine h.invariant (P := Consented G) ⟨start_seats now version repository, fun r proposal hp => ?_,
    fun r proposal hp => ?_⟩ fun x y i hx hi hstep => ?_
  · simp [RoomView.proposal, view, start] at hp
  · simp [RoomView.proposal, view, start] at hp
  · obtain ⟨hs, hlog⟩ := Transition.logged_eq_some.mp hstep
    obtain ⟨s, log⟩ := x
    obtain ⟨t, log'⟩ := y
    dsimp only at hlog
    subst hlog
    exact hx.step hn hi hs

end Server

open Server

/-- As long as no counted player's slot is freed and no game is started over a proposal, an accept starts a game only if
the holders of both slots have consented to a rematch of the room's finished game, and an accept that consumes the
proposal starts one game between these two. -/
theorem rematch_needs_consent {G : IdSource} (hn : G.NeverRepeats) {now : Millis} {version : String}
    {repository : HistoryRepository} {s t : Server} {log log' : List RematchConsent} {i : Input} {id : CommandId}
    {r : RoomId} {g : GameId} {p : PlayerId}
    (hrun : Transition.Runs (Logged G) (fun x i => x.1.KeepsConsent i) (start now version repository, []) (s, log))
    (haccept : s.Handles i ⟨id, .acceptRematch r g⟩ p) (hstep : Logged G (s, log) i = some (t, log')) :
    (t.starts r ≠ s.starts r →
      (∃ state, s.gameState r = some state ∧ state.status = .finished ∧ state.gameId = g) ∧
      ∃ room, s.getRoom r = some room ∧ ∀ x, ∃ q, slotHolds (room.slot x) q = true ∧ ⟨r, g, q⟩ ∈ log') ∧
    ((s.view r).proposal ≠ none → (t.view r).proposal = none →
      ∃ room slotX slotO game, s.getRoom r = some room ∧ room.playerX = some slotX ∧ room.playerO = some slotO ∧
        t.starts r = s.starts r ++ [game] ∧ game.playerX = slotX.playerId ∧ game.playerO = slotO.playerId) := by
  obtain ⟨hseats, hproposed, hconsenting⟩ := runs_consented hn hrun
  obtain ⟨h, hlog⟩ := Transition.logged_eq_some.mp hstep
  have hlog : log' = log ++ s.consents i t := hlog
  have hk := hseats.keyed
  rcases haccept.accepts hk h with hunmoved | hacts
  · have hstarts : t.starts r = s.starts r := by rw [starts, starts, hunmoved.2]
    have hproposal : (t.view r).proposal = (s.view r).proposal := congrArg RoomView.proposal (hunmoved.1 r)
    exact ⟨fun hne => absurd hstarts hne, fun hsome hnone => absurd (hproposal.symm.trans hnone) hsome⟩
  obtain ⟨sends, hroomStep, hsent⟩ := hacts.step
  have hstarts := starts_append hsent
  obtain ⟨room, hroom⟩ := Option.isSome_iff_exists.mp (hacts.onLive rfl)
  have hview := view_room_of_getRoom hroom
  have hstart := hroomStep.starts (hk.view r)
  have hidle : (t.view r).state = (s.view r).state → t.starts r = s.starts r := by
    intro hstate
    rw [hstarts, hstart.not_started hstate, List.append_nil]
  cases hroomStep.proposals with
  | same hsame hnoop =>
    have hstate := congrArg RoomView.state (hnoop ⟨p, g, rfl⟩)
    exact ⟨fun hne => absurd (hidle hstate) hne, fun hsome hnone => absurd (hsame.symm.trans hnone) hsome⟩
  | noted ha hroom' hx hold hfinished hstate hnew =>
    refine ⟨fun hne => absurd (hidle hstate) hne, fun _ hnone => ?_⟩
    rw [hnew] at hnone
    cases hnone
  | @accepted p' g' x room' proposal ha hroom' hx hproposal hfinished hboth hnone =>
    obtain ⟨rfl, rfl⟩ := RoomAction.rematchAccepted.inj ha
    obtain rfl := Option.some.inj (hview.symm.trans hroom')
    obtain ⟨hnodup, room₀, hroom₀, hcounted⟩ := hconsenting r proposal hproposal
    obtain rfl := Option.some.inj (hview.symm.trans hroom₀)
    obtain ⟨state, hstate, hstatus, hid⟩ := hproposed r proposal hproposal
    obtain ⟨state', hstate', hstatus', hid'⟩ := hfinished
    obtain rfl := Option.some.inj (hstate.symm.trans hstate')
    have hgame : proposal.gameId = g := hid.symm.trans hid'
    have hconsent : ∀ y, ∃ q, slotHolds (room.slot y) q = true ∧ ⟨r, g, q⟩ ∈ log' := by
      intro y
      rcases JsSet.mem_add.mp (mem_of_length_two (JsSet.nodup_add hnodup) hboth y) with rfl | hcount
      · refine ⟨p, RoomRecord.slotHolds_of_symbol hx, ?_⟩
        have hchanged : t.gameSessions.get r ≠ s.gameSessions.get r := by
          intro hsession
          have hsame := proposal_of_session hsession
          rw [hnone, hproposal] at hsame
          cases hsame
        have hlogged : ⟨r, g, p⟩ ∈ s.consents i t := haccept.consents (Or.inr rfl) hroom hx h hchanged
        exact hlog ▸ List.mem_append_right _ hlogged
      · obtain ⟨q, hq, hlogged⟩ := hcounted y hcount
        exact ⟨q, hq, hlog ▸ List.mem_append_left _ (hgame ▸ hlogged)⟩
    refine ⟨fun _ => ⟨⟨state, hstate, hstatus, hid'⟩, room, hroom, hconsent⟩, fun hsome _ => ?_⟩
    obtain ⟨_, hX, -⟩ := hconsent .X
    obtain ⟨_, hO, -⟩ := hconsent .O
    obtain ⟨slotX, hslotX, -⟩ := RoomRecord.slotHolds_iff.mp hX
    obtain ⟨slotO, hslotO, -⟩ := RoomRecord.slotHolds_iff.mp hO
    obtain ⟨game, hsends, hplayers⟩ := hroomStep.consumes hview hslotX hslotO hsome hnone
    exact ⟨room, slotX, slotO, game, hroom, hslotX, hslotO, by rw [hstarts, hsends], hplayers⟩
  | requested ha | declined ha | expired ha => cases ha

/-- Player 1 has won and asked for a rematch, and player 3 accepts. -/
theorem rematch_needs_consent_accept : ∃ s t : Server × List RematchConsent,
    Transition.Runs (Logged tallies) (fun x i => x.1.KeepsConsent i) (fresh, []) s ∧
    Logged tallies s (asks 2 "accept3" (.acceptRematch (tally 'r' 4) (tally 'g' 5))) = some t ∧
    t.1.starts (tally 'r' 4) ≠ s.1.starts (tally 'r' 4) ∧
    ∃ room, s.1.getRoom (tally 'r' 4) = some room ∧
      ∀ x, ∃ q, slotHolds (room.slot x) q = true ∧ ⟨tally 'r' 4, tally 'g' 5, q⟩ ∈ t.2 := by
  have hcheck : (Transition.run (Logged tallies) (fun x i => !x.1.losesConsent i && !x.1.startsOverProposal i) (fresh, [])
      (won ++ [asks 0 "request1" (.requestRematch (tally 'r' 4) (tally 'g' 5))])).any (fun s =>
        (s.1.asker 2 "accept3").isSome &&
        (Logged tallies s (asks 2 "accept3" (.acceptRematch (tally 'r' 4) (tally 'g' 5)))).any fun t =>
          t.1.starts (tally 'r' 4) ≠ s.1.starts (tally 'r' 4)) = true := by decide +kernel
  obtain ⟨s, hrun, hs⟩ := Transition.exists_run (C := fun x i => x.1.KeepsConsent i)
    (fun x i h => by simpa [KeepsConsent] using h) hcheck
  simp only [Bool.and_eq_true, Option.any_eq_true, Option.isSome_iff_exists, decide_eq_true_eq] at hs
  obtain ⟨⟨p, hp⟩, t, hstep, hstarts⟩ := hs
  obtain ⟨-, hconsent⟩ := (rematch_needs_consent tallies_neverRepeats hrun (handles_of_asker hp _) hstep).1 hstarts
  exact ⟨s, t, hrun, hstep, hstarts, hconsent⟩

/-- Player 1 asks for a rematch and leaves, and player 7 takes the slot. Player 3's accept starts a game with player 7,
who has not consented. -/
theorem newcomer_plays_rematch : ∃ s t : Server × List RematchConsent, ∃ room slotX p,
    Transition.Runs (Logged tallies) (fun _ _ => True) (fresh, []) s ∧
    s.1.Handles (asks 2 "accept3" (.acceptRematch (tally 'r' 4) (tally 'g' 5)))
      ⟨"accept3", .acceptRematch (tally 'r' 4) (tally 'g' 5)⟩ p ∧
    Logged tallies s (asks 2 "accept3" (.acceptRematch (tally 'r' 4) (tally 'g' 5))) = some t ∧
    t.1.starts (tally 'r' 4) ≠ s.1.starts (tally 'r' 4) ∧ s.1.getRoom (tally 'r' 4) = some room ∧
    room.playerX = some slotX ∧ ⟨tally 'r' 4, tally 'g' 5, slotX.playerId⟩ ∉ t.2 := by
  have hcheck : (Transition.run (Logged tallies) (fun _ _ => true) (fresh, [])
      (won ++ [asks 0 "request1" (.requestRematch (tally 'r' 4) (tally 'g' 5)), asks 0 "leave1" (.leaveRoom (tally 'r' 4)),
        .connect, asks 6 "auth7" (.auth none), asks 6 "join7" (.joinRoom (tally 'r' 4) none)])).any (fun s =>
        (s.1.asker 2 "accept3").isSome &&
        (Logged tallies s (asks 2 "accept3" (.acceptRematch (tally 'r' 4) (tally 'g' 5)))).any fun t =>
          t.1.starts (tally 'r' 4) ≠ s.1.starts (tally 'r' 4) && (s.1.getRoom (tally 'r' 4)).any fun room =>
            room.playerX.any fun slotX => ⟨tally 'r' 4, tally 'g' 5, slotX.playerId⟩ ∉ t.2) = true := by decide +kernel
  obtain ⟨s, hrun, hs⟩ := Transition.exists_run (C := fun _ _ => True) (fun _ _ _ => trivial) hcheck
  simp only [Bool.and_eq_true, Option.any_eq_true, Option.isSome_iff_exists, decide_eq_true_eq] at hs
  obtain ⟨⟨p, hp⟩, t, hstep, hstarts, room, hroom, slotX, hslotX, hnot⟩ := hs
  exact ⟨s, t, room, slotX, p, hrun, handles_of_asker hp _, hstep, hstarts, hroom, hslotX, hnot⟩

end TicTacToe
