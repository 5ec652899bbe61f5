import TicTacToe.Theorems.EventOrder
import TicTacToe.Theorems.Unplayed

/-! # What a connection is told

As long as no connection is bound to another player, the open connections in the registry of a player are those that act
for the player. So what a handler delivers to a player is told once to every such connection. -/

namespace TicTacToe

/-! ### Events for one connection -/

/-- The event of a written object. -/
def WireEvent.content : WireEvent → Option Event
  | .event e => some e
  | .processed => none

/-- The events that are written to connection `c`. -/
def told (c : ConnectionId) (wire : List (ConnectionId × WireEvent)) : List Event :=
  wire.filterMap fun entry => if entry.1 = c then entry.2.content else none

section Told
variable {c : ConnectionId} {wire wire' : List (ConnectionId × WireEvent)} {e : Event}

theorem told_append : told c (wire ++ wire') = told c wire ++ told c wire' := List.filterMap_append

theorem told_cons (c c' : ConnectionId) (w : WireEvent) (wire : List (ConnectionId × WireEvent)) :
    told c ((c', w) :: wire) = (if c' = c then w.content.toList else []) ++ told c wire := by
  rw [told, List.filterMap_cons]
  by_cases hc : c' = c
  · simp only [if_pos hc]
    cases w <;> rfl
  · simp only [if_neg hc]
    rfl

theorem mem_told : e ∈ told c wire ↔ (c, .event e) ∈ wire := by
  rw [told, List.mem_filterMap]
  constructor
  · rintro ⟨⟨c', w⟩, hmem, h⟩
    split at h
    · rename_i hc
      obtain rfl : c' = c := hc
      cases w with
      | event e' => exact Option.some.inj h ▸ hmem
      | processed => cases h
    · cases h
  · intro h
    exact ⟨(c, .event e), h, if_pos rfl⟩

/-- What a connection is told is what its tab hears. -/
theorem heard_events (c : ConnectionId) (wire : List (ConnectionId × WireEvent)) :
    (Client.heard c wire).filterMap Client.TabInput.event = told c wire := by
  induction wire with
  | nil => rfl
  | cons entry wire ih =>
    obtain ⟨c', w⟩ := entry
    rw [told_cons, ← ih, Client.heard, List.filterMap_cons]
    cases w with
    | processed => simp only [WireEvent.content, Option.toList_none, ite_self, List.nil_append, Client.heard]
    | event e =>
      by_cases hc : c' = c
      · simp only [if_pos hc]
        rfl
      · simp only [if_neg hc]
        rfl

/-- An object that is written once to each of several connections. -/
theorem told_each {cs : List ConnectionId} (h : cs.Nodup) (w : WireEvent) :
    told c (cs.map (·, w)) = if c ∈ cs then w.content.toList else [] := by
  induction cs with
  | nil => rfl
  | cons c' cs ih =>
    obtain ⟨hnew, hrest⟩ := List.nodup_cons.mp h
    rw [List.map_cons, told_cons, ih hrest]
    by_cases hc : c' = c
    · subst hc
      rw [if_pos rfl, if_neg hnew, if_pos List.mem_cons_self, List.append_nil]
    · rw [if_neg hc, List.nil_append]
      simp only [List.mem_cons, Ne.symm hc, false_or]

end Told

/-- What a delivery tells connection `c`, which acts for player `q`. -/
def Delivery.tells (c : ConnectionId) (q : PlayerId) : Delivery → Option Event
  | .connection c' w => if c' = c then w.content else none
  | .broadcast p w => if p = q then w.content else none

namespace Server
variable {s t u : Server} {G : IdSource} {i : Input} {c : ConnectionId} {p q : PlayerId} {token : SessionToken}

/-! ### The registry -/

/-- An open connection is registered for the player for whom it acts, once, and for nobody else. -/
structure Addressed (G : IdSource) (s : Server) : Prop where
  attached : s.Attached G
  once : s.ListsOnce
  opened : ∀ c, s.connections.get c ≠ none → ∃ k < s.nextId, c = G.connectionId k
  listed : ∀ p c, c ∈ s.getPlayerConnectionIds p → ∃ k < s.nextId, c = G.connectionId k
  registered : ∀ p c, c ∈ s.getPlayerConnectionIds p → s.connections.get c ≠ none → s.actsFor c = some p

theorem start_addressed (now : Millis) (version : String) (repository : HistoryRepository) :
    (start now version repository).Addressed G where
  attached := start_attached now version repository
  once := start_listsOnce now version repository
  opened c h := by simp [start] at h
  listed p c h := by simp [getPlayerConnectionIds, start] at h
  registered p c h := by simp [getPlayerConnectionIds, start] at h

namespace Addressed

theorem opened_step (hs : s.Addressed G) (hid : s.nextId ≤ t.nextId) (h : LinkStep G s i t)
    (hc : t.connections.get c ≠ none) : ∃ k < t.nextId, c = G.connectionId k := by
  have hold : s.connections.get c ≠ none → ∃ k < t.nextId, c = G.connectionId k := by
    intro hc
    obtain ⟨k, hk, he⟩ := hs.opened c hc
    exact ⟨k, Nat.lt_of_lt_of_le hk hid, he⟩
  have hback : ∀ {u : Server}, Links u t → u.connections.get c ≠ none := by
    intro u hu hnone
    have hsame := hu.connections c
    rw [hnone, Option.map_none] at hsame
    exact hc (Option.map_eq_none_iff.mp hsame)
  cases h with
  | same h => exact hold (hback h)
  | connected hlt h =>
    have hopen := hback h
    rw [Server.register, JsMap.get_set] at hopen
    split at hopen
    · rename_i he
      exact ⟨s.nextId, hlt, he.symm⟩
    · exact hold hopen
  | registered hp h =>
    have hopen := hback h
    exact hold hopen
  | @bound c' token p hopen' hissued hkept h =>
    have hopen := hback h
    refine hold fun hnone => hopen ?_
    rw [registerPlayerConnection, authenticate, JsMap.get_modify]
    split
    · rw [hnone, Option.map_none]
    · exact hnone
  | closed hc' h =>
    have hopen := hback h
    rw [Server.unregister, JsMap.get_delete] at hopen
    exact hold fun hnone => hopen (by simp [hnone])
  | @closedFor c' p hi hp h =>
    have hopen := hback h
    obtain ⟨registry, hregistry⟩ := unregisterPlayerConnection_frame s p c'
    rw [hregistry, Server.unregister, JsMap.get_delete] at hopen
    exact hold fun hnone => hopen (by simp [hnone])

theorem listed_step (hs : s.Addressed G) (hid : s.nextId ≤ t.nextId) (h : LinkStep G s i t)
    (hc : c ∈ t.getPlayerConnectionIds p) : ∃ k < t.nextId, c = G.connectionId k := by
  have hold : c ∈ s.getPlayerConnectionIds p → ∃ k < t.nextId, c = G.connectionId k := by
    intro hc
    obtain ⟨k, hk, he⟩ := hs.listed p c hc
    exact ⟨k, Nat.lt_of_lt_of_le hk hid, he⟩
  have hnew : s.connections.get c ≠ none → ∃ k < t.nextId, c = G.connectionId k := by
    intro hc
    obtain ⟨k, hk, he⟩ := hs.opened c hc
    exact ⟨k, Nat.lt_of_lt_of_le hk hid, he⟩
  cases h with
  | same h => exact hold (h.getPlayerConnectionIds p ▸ hc)
  | connected hlt h => exact hold (h.getPlayerConnectionIds p ▸ hc)
  | @registered c' p' hp h =>
    rcases mem_registerPlayerConnection.mp (h.getPlayerConnectionIds p ▸ hc) with hin | ⟨rfl, rfl⟩
    · exact hold hin
    · refine hnew fun hnone => ?_
      rw [actsFor, hnone] at hp
      cases hp
  | @bound c' token p' hopen hissued hkept h =>
    rcases mem_registerPlayerConnection.mp (h.getPlayerConnectionIds p ▸ hc) with hin | ⟨rfl, rfl⟩
    · exact hold hin
    · exact hnew hopen
  | closed hc' h => exact hold (h.getPlayerConnectionIds p ▸ hc)
  | @closedFor c' p' hi hp h =>
    have hin : c ∈ (s.unregisterPlayerConnection p' c').getPlayerConnectionIds p := h.getPlayerConnectionIds p ▸ hc
    exact hold (mem_unregisterPlayerConnection.mp hin).1

theorem registered_step (hs : s.Addressed G) (hn : G.NeverRepeats) (hrebinds : s.rebinds G i = false)
    (h : LinkStep G s i t) (hc : c ∈ t.getPlayerConnectionIds p) (hopen : t.connections.get c ≠ none) :
    t.actsFor c = some p := by
  have hback : ∀ {u : Server}, Links u t → u.connections.get c ≠ none := by
    intro u hu hnone
    have hsame := hu.connections c
    rw [hnone, Option.map_none] at hsame
    exact hopen (Option.map_eq_none_iff.mp hsame)
  cases h with
  | same h =>
    rw [h.actsFor]
    exact hs.registered p c (h.getPlayerConnectionIds p ▸ hc) (hback h)
  | connected hlt h =>
    have hin : c ∈ s.getPlayerConnectionIds p := h.getPlayerConnectionIds p ▸ hc
    have hother : ¬G.connectionId s.nextId = c := by
      rintro rfl
      obtain ⟨k, hk, he⟩ := hs.listed p _ hin
      have hsame := hn.connectionId he
      omega
    rw [h.actsFor, actsFor_register, if_neg hother]
    have hopen' := hback h
    rw [Server.register, JsMap.get_set, if_neg hother] at hopen'
    exact hs.registered p c hin hopen'
  | @registered c' p' hp h =>
    have hopen' := hback h
    rw [h.actsFor]
    rcases mem_registerPlayerConnection.mp (h.getPlayerConnectionIds p ▸ hc) with hin | ⟨rfl, rfl⟩
    · exact hs.registered p c hin hopen'
    · exact hp
  | @bound c' token p' hopen' hissued hkept h =>
    have hacts : t.actsFor c = (s.authenticate c' token p').actsFor c := h.actsFor c
    rw [hacts, actsFor_authenticate hopen']
    rcases mem_registerPlayerConnection.mp (h.getPlayerConnectionIds p ▸ hc) with hin | ⟨rfl, rfl⟩
    · split
      · -- A connection that is bound again stays with its player.
        rename_i he
        subst he
        have hacting := hs.registered p c' hin hopen'
        by_contra hne
        have hrebound := hkept p hacting fun he => hne (he ▸ rfl)
        rw [hrebinds] at hrebound
        cases hrebound
      · rename_i hne
        refine hs.registered p c hin fun hnone => hback h ?_
        rw [registerPlayerConnection, authenticate, JsMap.get_modify, if_neg hne]
        exact hnone
    · exact if_pos rfl
  | @closed c' hc' h =>
    have hopen' := hback h
    rw [Server.unregister, JsMap.get_delete] at hopen'
    split at hopen'
    · exact absurd rfl hopen'
    · rename_i hne
      rw [h.actsFor, actsFor_unregister, if_neg hne]
      exact hs.registered p c (h.getPlayerConnectionIds p ▸ hc) hopen'
  | @closedFor c' p' hi hp h =>
    have hin : c ∈ (s.unregisterPlayerConnection p' c').getPlayerConnectionIds p := h.getPlayerConnectionIds p ▸ hc
    have hopen' := hback h
    obtain ⟨registry, hregistry⟩ := unregisterPlayerConnection_frame s p' c'
    rw [hregistry, Server.unregister, JsMap.get_delete] at hopen'
    split at hopen'
    · exact absurd rfl hopen'
    · rename_i hne
      rw [h.actsFor, actsFor_unregister, if_neg hne, actsFor_unregisterPlayerConnection]
      exact hs.registered p c (mem_unregisterPlayerConnection.mp hin).1 hopen'

theorem step (hs : s.Addressed G) (hn : G.NeverRepeats) (hid : s.nextId ≤ t.nextId) (hrebinds : s.rebinds G i = false)
    (h : LinkStep G s i t) : t.Addressed G where
  attached := hs.attached.step hid h
  once := hs.once.step h
  opened _ hc := hs.opened_step hid h hc
  listed _ _ hc := hs.listed_step hid h hc
  registered _ _ hc hopen := hs.registered_step hn hrebinds h hc hopen

/-- The open connections in the registry of a player. -/
theorem mem_iff (hs : s.Addressed G) :
    c ∈ (s.getPlayerConnectionIds p).filter s.connections.has ↔ s.actsFor c = some p := by
  rw [List.mem_filter]
  constructor
  · rintro ⟨hc, hopen⟩
    refine hs.registered p c hc fun hnone => ?_
    rw [JsMap.has, hnone] at hopen
    cases hopen
  · intro hacts
    refine ⟨hs.attached.acting c p hacts, ?_⟩
    rw [actsFor] at hacts
    obtain ⟨rec, hrec, -⟩ := Option.bind_eq_some_iff.mp hacts
    rw [JsMap.has, hrec]
    rfl

/-- Of an event for a player a connection of the player is told once, and no other one. -/
theorem told_mailed (hs : s.Addressed G) (w : WireEvent) :
    told c (s.mailed p w) = if s.actsFor c = some p then w.content.toList else [] := by
  rw [Server.mailed, told_each ((hs.once p).filter _)]
  simp only [hs.mem_iff]

/-- What the deliveries of a handler tell a connection. -/
theorem told_delivered (hs : s.Addressed G) (hacts : s.actsFor c = some q) (deliveries : List Delivery) :
    told c (deliveries.flatMap s.delivered) = deliveries.filterMap (Delivery.tells c q) := by
  induction deliveries with
  | nil => rfl
  | cons d deliveries ih =>
    have hone : told c (s.delivered d) = (d.tells c q).toList := by
      cases d with
      | broadcast p w =>
        rw [delivered, hs.told_mailed, hacts, Delivery.tells]
        by_cases hp : p = q
        · rw [if_pos (congrArg some hp.symm), if_pos hp]
        · rw [if_neg (fun he => hp (Option.some.inj he).symm), if_neg hp]
          rfl
      | connection c' w =>
        rw [delivered, Delivery.tells]
        by_cases hc : c' = c
        · subst hc
          have hopen : s.connections.has c' = true := (List.mem_filter.mp (hs.mem_iff.mpr hacts)).2
          rw [if_pos hopen, told_cons, if_pos rfl, if_pos rfl]
          exact List.append_nil _
        · rw [if_neg hc]
          split
          · rw [told_cons, if_neg hc]
            rfl
          · rfl
    rw [List.flatMap_cons, told_append, hone, ih]
    cases htells : d.tells c q with
    | none => rw [List.filterMap_cons_none htells]; rfl
    | some e => rw [List.filterMap_cons_some htells]; rfl

end Addressed

end Server

end TicTacToe
