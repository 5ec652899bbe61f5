import TicTacToe.Theorems.Online

/-! # The registry and the connections

The registry of player connections and the connection records describe the same relation, as long as no connection
is closed by the server or bound to another player. Then the close of a player's last connection is noticed. -/

namespace TicTacToe
namespace Server
variable {s t : Server} {G : IdSource} {i : Input} {c : ConnectionId} {p : PlayerId} {token : SessionToken}

/-- The registry lists exactly the connections that act for a player. -/
structure Coherent (G : IdSource) (s : Server) : Prop extends Wired G s where
  acting : ∀ c p, s.actsFor c = some p → c ∈ s.getPlayerConnectionIds p

theorem start_coherent (now : Millis) (version : String) (repository : HistoryRepository) :
    (start now version repository).Coherent G :=
  ⟨start_wired now version repository, fun c p h => by simp [actsFor, start] at h⟩

namespace Coherent

theorem mem_iff (hs : s.Coherent G) : c ∈ s.getPlayerConnectionIds p ↔ s.actsFor c = some p :=
  ⟨hs.registered p c, hs.acting c p⟩

theorem step (hs : s.Coherent G) (hn : G.NeverRepeats) (hid : s.nextId ≤ t.nextId) (hdrops : s.dropsPlayer i = false)
    (hrebinds : s.rebinds G i = false) (h : LinkStep G s i t) : t.Coherent G :=
  ⟨hs.toWired.step hn hid hdrops hrebinds h, fun _ _ hc => h.acting hs.acting hc⟩

/-- The close of the last connection of a player runs `handleDisconnect` for the player's session. -/
theorem handleClose_last (hs : s.Coherent G) (hacts : s.actsFor c = some p)
    (hlast : ∀ c', s.actsFor c' = some p → c' = c) : ∃ rec token, s.connections.get c = some rec ∧
      rec.sessionToken = some token ∧ G.Issued s.nextId token p ∧
      s.handleClose c = ((s.unregisterPlayerConnection p c).handleDisconnect token).unregister c := by
  obtain ⟨rec, hrec, hp⟩ := Option.bind_eq_some_iff.mp hacts
  rcases hs.identity c rec hrec with hid | ⟨token, q, hid, hissued⟩
  · have hnone : rec.playerId = none := congrArg (fun x => x.2.1) hid
    rw [hnone] at hp
    cases hp
  have htoken : rec.sessionToken = some token := congrArg (fun x => x.1) hid
  have hq : rec.playerId = some q := congrArg (fun x => x.2.1) hid
  obtain rfl := Option.some.inj (hp.symm.trans hq)
  have hempty : (s.unregisterPlayerConnection p c).getPlayerConnectionIds p = [] := by
    refine List.eq_nil_iff_forall_not_mem.mpr fun c' hc' => ?_
    obtain ⟨hin, hne⟩ := mem_unregisterPlayerConnection.mp hc'
    exact hne ⟨rfl, hlast c' (hs.registered p c' hin)⟩
  refine ⟨rec, token, hrec, htoken, hissued, ?_⟩
  simp [handleClose, hrec, htoken, hp, hempty]

/-- A step after which nobody acts for the player any more is the close of the player's last connection. -/
theorem last_closed (hs : s.Coherent G) (hn : G.NeverRepeats) (hdrops : s.dropsPlayer i = false)
    (hrebinds : s.rebinds G i = false) (h : LinkStep G s i t) (hacts : s.actsFor c = some p)
    (hgone : ∀ c', t.actsFor c' ≠ some p) : i = .socketClosed c ∧ ∀ c', s.actsFor c' = some p → c' = c := by
  have hclosed : ∀ c', s.actsFor c' = some p → i = .socketClosed c' := fun c' hc' =>
    (h.actsFor hs.toWired hn hdrops hrebinds hc').resolve_left (hgone c')
  refine ⟨hclosed c hacts, fun c' hc' => ?_⟩
  exact Input.socketClosed.inj ((hclosed c' hc').symm.trans (hclosed c hacts))

end Coherent
end Server

open Server

/-! ### One relation -/

section Registry
variable {G : IdSource} {s : Server}

/-- As long as the server closes no connection that acts for a player and no connection is bound to another player, the
registry lists exactly the authenticated connections of a player, and the step that takes away the last of them is a
close that runs `handleDisconnect` for the player's session. -/
theorem registry_coherent (hn : G.NeverRepeats) {now : Millis} {version : String} {repository : HistoryRepository}
    (hrun : Runs G (fun s i => s.dropsPlayer i = false ∧ s.rebinds G i = false) (start now version repository) s) :
    (∀ c p, c ∈ s.getPlayerConnectionIds p ↔
      ∃ rec, s.connections.get c = some rec ∧ rec.authenticated = true ∧ rec.playerId = some p) ∧
    ∀ i t p c, s.dropsPlayer i = false → s.rebinds G i = false → s.step G i = some t → s.actsFor c = some p →
      (∀ c', t.actsFor c' ≠ some p) → i = .socketClosed c ∧ ∃ rec token, s.connections.get c = some rec ∧
        rec.sessionToken = some token ∧ (∀ session, s.getSession token = some session → session.playerId = p) ∧
        t = ((s.unregisterPlayerConnection p c).handleDisconnect token).unregister c := by
  have hs : s.Seats G ∧ s.Coherent G := hrun.invariant (P := fun s => s.Seats G ∧ s.Coherent G)
    ⟨start_seats now version repository, start_coherent now version repository⟩ fun s t i hs hi hstep =>
      ⟨hs.1.step hn hstep, hs.2.step hn (nextId_le_step hs.1.keyed hstep) hi.1 hi.2
        (step_links hs.1.issuing hs.2.identity hstep)⟩
  obtain ⟨hseats, hs⟩ := hs
  refine ⟨fun c p => hs.mem_iff.trans hs.acting_iff.symm, fun i t p c hdrops hrebinds hstep hacts hgone => ?_⟩
  obtain ⟨rfl, hlast⟩ := hs.last_closed hn hdrops hrebinds (step_links hseats.issuing hs.identity hstep) hacts hgone
  obtain ⟨rec, token, hrec, htoken, hissued, hclose⟩ := hs.handleClose_last hacts hlast
  exact ⟨rfl, rec, token, hrec, htoken, fun session hsession => hseats.issuing.player hn hissued hsession,
    (Option.some.inj hstep).symm.trans hclose⟩

end Registry

/-- Player 1's only connection is closed. -/
theorem registry_coherent_close : ∃ s t rec token,
    Runs tallies (fun s i => s.dropsPlayer i = false ∧ s.rebinds tallies i = false) fresh s ∧
    s.step tallies (.socketClosed (tally 'c' 0)) = some t ∧ s.connections.get (tally 'c' 0) = some rec ∧
    rec.sessionToken = some token ∧
    t = ((s.unregisterPlayerConnection (tally 'p' 1) (tally 'c' 0)).handleDisconnect token).unregister (tally 'c' 0) := by
  have hcheck : (Transition.run (step tallies) (fun s i => !s.dropsPlayer i && !s.rebinds tallies i) fresh opening).any
      (fun s => decide (s.actsFor (tally 'c' 0) = some (tally 'p' 1)) &&
        (s.handleClose (tally 'c' 0)).connections.entries.all fun e => e.2.playerId ≠ some (tally 'p' 1)) = true := by
    decide +kernel
  obtain ⟨s, hrun, hs⟩ := Transition.exists_run
    (C := fun s i => s.dropsPlayer i = false ∧ s.rebinds tallies i = false) (fun s i h => by simpa using h) hcheck
  obtain ⟨hacts, hothers⟩ := Bool.and_eq_true_iff.mp hs
  have hgone : ∀ c, (s.handleClose (tally 'c' 0)).actsFor c ≠ some (tally 'p' 1) := by
    intro c hc
    obtain ⟨rec, hrec, hp⟩ := Option.bind_eq_some_iff.mp hc
    have hne := List.all_eq_true.mp hothers (c, rec) ((JsMap.mem_entries_iff _).mpr hrec)
    simp [hp] at hne
  obtain ⟨-, rec, token, hrec, htoken, -, ht⟩ := (registry_coherent tallies_neverRepeats hrun).2
    (.socketClosed (tally 'c' 0)) _ _ _ rfl rfl rfl (of_decide_eq_true hacts) hgone
  exact ⟨s, _, rec, token, hrun, rfl, hrec, htoken, ht⟩

/-- Player 1 sends nothing for a minute, and the server closes the connection: the registry keeps it. -/
theorem idle_close_stays_registered : ∃ s, Runs tallies (fun _ _ => True) fresh s ∧
    tally 'c' 0 ∈ s.getPlayerConnectionIds (tally 'p' 1) ∧ s.connections.get (tally 'c' 0) = none := by
  have hcheck : (Transition.run (step tallies) (fun _ _ => true) fresh
      [.connect, asks 0 "auth1" (.auth none), .tick 60000, .idleTimeout (tally 'c' 0)]).any (fun s =>
        decide (tally 'c' 0 ∈ s.getPlayerConnectionIds (tally 'p' 1)) &&
        (s.connections.get (tally 'c' 0)).isNone) = true := by
    decide +kernel
  obtain ⟨s, hrun, hs⟩ := Transition.exists_run (C := fun _ _ => True) (fun _ _ _ => trivial) hcheck
  simp only [Bool.and_eq_true, Option.isNone_iff_eq_none, decide_eq_true_eq] at hs
  exact ⟨s, hrun, hs⟩

end TicTacToe
