import Mathlib.Data.List.Flatten
import TicTacToe.Theorems.Letters

/-! # What a connection receives

A connection that is registered for one player of the audience of a step gets each event of the step at most once, in
the order in which the events have been sent. -/

namespace TicTacToe

/-! ### Lists -/

section Lists
variable {α β : Type} {f : α → List β}

/-- Each element contributes at most what is selected of it. -/
theorem flatMap_sublist_filterMap {g : α → Option β} {l : List α} (h : ∀ a ∈ l, (f a).Sublist (g a).toList) :
    (l.flatMap f).Sublist (l.filterMap g) := by
  rw [List.filterMap_eq_flatMap_toList]
  exact List.Sublist.flatMap_right l h

/-- At most one element contributes. -/
theorem flatMap_sublist_of_alone {l : List α} {m : List β} (hn : l.Nodup) (hm : ∀ a ∈ l, (f a).Sublist m)
    (halone : ∀ a ∈ l, ∀ b ∈ l, f a ≠ [] → f b ≠ [] → a = b) : (l.flatMap f).Sublist m := by
  induction l with
  | nil => exact List.nil_sublist _
  | cons a l ih =>
    obtain ⟨hnot, hrest⟩ := List.nodup_cons.mp hn
    rw [List.flatMap_cons]
    by_cases ha : f a = []
    · rw [ha, List.nil_append]
      exact ih hrest (fun b hb => hm b (List.mem_cons_of_mem _ hb)) fun b hb b' hb' =>
        halone b (List.mem_cons_of_mem _ hb) b' (List.mem_cons_of_mem _ hb')
    · have hnone : l.flatMap f = [] := by
        refine List.flatMap_eq_nil_iff.mpr fun b hb => ?_
        by_contra hb'
        have hsame := halone a List.mem_cons_self b (List.mem_cons_of_mem _ hb) ha hb'
        exact hnot (hsame ▸ hb)
      rw [hnone, List.append_nil]
      exact hm a List.mem_cons_self

end Lists

/-! ### Receiving -/

/-- The events of rooms among some written objects, with the connections that they are written to. -/
def roomEvents (entries : List (ConnectionId × WireEvent)) : List (ConnectionId × RoomEvent) :=
  entries.filterMap fun entry => entry.2.roomEvent.map (entry.1, ·)

/-- The events that are written to connection `c`. -/
def receivedBy (c : ConnectionId) (events : List (ConnectionId × RoomEvent)) : List RoomEvent :=
  (events.filter fun e => e.1 = c).map Prod.snd

section Receiving
variable {c : ConnectionId} {entries entries' : List (ConnectionId × WireEvent)}
  {events events' : List (ConnectionId × RoomEvent)} {event : RoomEvent} {e : WireEvent}

theorem roomEvents_append : roomEvents (entries ++ entries') = roomEvents entries ++ roomEvents entries' :=
  List.filterMap_append

theorem receivedBy_append : receivedBy c (events ++ events') = receivedBy c events ++ receivedBy c events' := by
  simp [receivedBy]

theorem mem_receivedBy : event ∈ receivedBy c events ↔ (c, event) ∈ events := by simp [receivedBy]

theorem mem_roomEvents : (c, event) ∈ roomEvents entries ↔ ∃ w, (c, w) ∈ entries ∧ w.roomEvent = some event := by
  unfold roomEvents
  constructor
  · intro h
    obtain ⟨⟨c', w⟩, hmem, hsome⟩ := List.mem_filterMap.mp h
    obtain ⟨event', hevent, he⟩ := Option.map_eq_some_iff.mp hsome
    obtain ⟨rfl, rfl⟩ := Prod.mk.inj he
    exact ⟨w, hmem, hevent⟩
  · rintro ⟨w, hmem, hevent⟩
    exact List.mem_filterMap.mpr ⟨(c, w), hmem, by rw [hevent, Option.map_some]⟩

theorem roomEvents_of_none (h : ∀ entry ∈ entries, entry.2.roomEvent = none) : roomEvents entries = [] :=
  List.filterMap_eq_nil_iff.mpr fun entry hentry => by rw [h entry hentry, Option.map_none]

/-- What connection `c` receives of some written objects. -/
def received (c : ConnectionId) (entries : List (ConnectionId × WireEvent)) : List RoomEvent :=
  receivedBy c (roomEvents entries)

theorem received_append : received c (entries ++ entries') = received c entries ++ received c entries' := by
  rw [received, roomEvents_append, receivedBy_append]
  rfl

theorem received_cons (c' : ConnectionId) :
    received c ((c', e) :: entries) = (if c' = c then e.roomEvent.toList else []) ++ received c entries := by
  rw [← List.singleton_append, received_append]
  congr 1
  unfold received receivedBy roomEvents
  cases he : e.roomEvent with
  | none => simp [he]
  | some event =>
    by_cases hc : c' = c
    · simp [he, hc]
    · simp [he, hc]

theorem received_flatMap {α : Type} (l : List α) (f : α → List (ConnectionId × WireEvent)) :
    received c (l.flatMap f) = l.flatMap fun a => received c (f a) := by
  induction l with
  | nil => rfl
  | cons a l ih => rw [List.flatMap_cons, List.flatMap_cons, received_append, ih]

/-- An object that is written to several connections is received once at most. -/
theorem received_each {cs : List ConnectionId} (hn : cs.Nodup) :
    received c (cs.map (·, e)) = if c ∈ cs then e.roomEvent.toList else [] := by
  induction cs with
  | nil => rfl
  | cons c' cs ih =>
    obtain ⟨hnot, hrest⟩ := List.nodup_cons.mp hn
    rw [List.map_cons, received_cons, ih hrest]
    by_cases hc : c' = c
    · subst hc
      simp [hnot]
    · have hiff : c ∈ c' :: cs ↔ c ∈ cs := by simp [Ne.symm hc]
      simp only [hc, ↓reduceIte, List.nil_append, hiff]

theorem received_sublist_of_mem {cs : List ConnectionId} (hn : cs.Nodup) :
    (received c (cs.map (·, e))).Sublist e.roomEvent.toList := by
  rw [received_each hn]
  split
  · exact .refl _
  · exact List.nil_sublist _

end Receiving

/-- The slots of a room are for different players. -/
theorem RoomRecord.recipients_nodup {room : RoomRecord} (hd : room.Distinct) (call : SendCall) :
    (Server.recipients room call).Nodup := by
  have hslots : ((([room.playerX, room.playerO].filterMap id).filter PlayerSlot.connected).map
      PlayerSlot.playerId).Nodup := by
    refine List.Nodup.sublist ((List.filter_sublist (l := [room.playerX, room.playerO].filterMap id)).map _) ?_
    cases hX : room.playerX with
    | none => cases room.playerO <;> simp
    | some playerX =>
      cases hO : room.playerO with
      | none => simp
      | some playerO =>
        have hother := hd playerX.playerId (slotHolds_iff.mpr ⟨playerX, hX, rfl⟩)
        have hne : playerX.playerId ≠ playerO.playerId := by
          intro he
          rw [slotHolds_iff.mpr ⟨playerO, hO, he.symm⟩] at hother
          cases hother
        simp [hne]
  unfold Server.recipients
  cases call.target with
  | player => exact List.nodup_singleton _
  | broadcast => exact hslots
  | others => exact hslots.filter _

namespace Server
variable {s t u : Server} {r : RoomId} {c : ConnectionId} {p q : PlayerId} {room : RoomRecord}
  {found : Option RoomRecord} {calls : List SendCall} {deliveries : List Delivery} {i : Input} {P : PlayerId → Prop}

/-- No connection is listed twice for a player. -/
def ListsOnce (s : Server) : Prop := ∀ p, (s.getPlayerConnectionIds p).Nodup

/-- Connection `c` is registered for at most one player who meets `P`. -/
def Alone (s : Server) (c : ConnectionId) (P : PlayerId → Prop) : Prop :=
  ∀ p q, P p → P q → c ∈ s.getPlayerConnectionIds p → c ∈ s.getPlayerConnectionIds q → p = q

theorem Narrows.listsOnce (h : Narrows s t) (hs : s.ListsOnce) : t.ListsOnce := fun p => (hs p).sublist (h.registered p)

theorem Narrows.alone (h : Narrows s t) (hs : s.Alone c P) : t.Alone c P :=
  fun p q hp hq hcp hcq => hs p q hp hq ((h.registered p).subset hcp) ((h.registered q).subset hcq)

theorem received_mailed (hs : s.ListsOnce) (p : PlayerId) (e : WireEvent) :
    (received c (s.mailed p e)).Sublist e.roomEvent.toList ∧
      (received c (s.mailed p e) ≠ [] → c ∈ s.getPlayerConnectionIds p) := by
  have hn : ((s.getPlayerConnectionIds p).filter s.connections.has).Nodup := (hs p).filter _
  refine ⟨received_sublist_of_mem hn, fun hne => ?_⟩
  by_contra hnot
  rw [mailed, received_each hn, if_neg fun hc => hnot (List.mem_of_mem_filter hc)] at hne
  exact hne rfl

/-- A call of the send function is received at most once. -/
theorem received_posted (hs : s.ListsOnce) (ha : s.Alone c P) {call : SendCall}
    (hd : ∀ room, found = some room → room.Distinct) (hP : ∀ room, found = some room → ∀ q ∈ recipients room call, P q) :
    (received c (s.postedIn found call)).Sublist call.roomEvent.toList := by
  cases found with
  | none => exact List.nil_sublist _
  | some room =>
    have hposted : s.postedIn (some room) call =
        (recipients room call).flatMap fun p => s.mailed p (.event call.event) := rfl
    rw [hposted, received_flatMap]
    refine flatMap_sublist_of_alone (RoomRecord.recipients_nodup (hd room rfl) call) (fun q _ => (received_mailed hs q _).1)
      fun p hp q hq hnp hnq => ?_
    exact ha p q (hP room rfl p hp) (hP room rfl q hq) ((received_mailed hs p _).2 hnp) ((received_mailed hs q _).2 hnq)

theorem received_delivered (hs : s.ListsOnce) (d : Delivery) :
    (received c (s.delivered d)).Sublist d.event.roomEvent.toList := by
  cases d with
  | connection c' e =>
    unfold delivered
    dsimp only
    split
    · have hone : (received c ([c'].map (·, e))).Sublist e.roomEvent.toList :=
        received_sublist_of_mem (List.nodup_singleton c')
      exact hone
    · exact List.nil_sublist _
  | broadcast p e => exact (received_mailed hs p e).1

/-- Of the events of a step a connection receives some, in their order, each of them once. -/
theorem Letters.received (h : Letters s i r t calls deliveries) (hs : s.ListsOnce) (ha : s.Alone c (s.Audience i r))
    (hd : ∀ room, s.getRoom r = some room → room.Distinct) : ∃ entries, t.wire = s.wire ++ entries ∧
      (received c entries).Sublist
        (calls.filterMap SendCall.roomEvent ++ deliveries.filterMap fun d => d.event.roomEvent) := by
  obtain ⟨u, found, rest, hu, hfinds, hwire, hrest⟩ := h.wire
  refine ⟨_, hwire, ?_⟩
  rw [received_append, received_flatMap]
  refine List.Sublist.append (flatMap_sublist_filterMap fun call hcall => ?_) ?_
  · refine received_posted (hu.listsOnce hs) (hu.alone ha) (fun room he => ?_) fun room he q hq => ?_
    · obtain ⟨live, hlive, hsame⟩ := hfinds room he
      exact hsame.distinct (hd live hlive)
    · rcases RoomRecord.recipients_holds (h.sent call hcall) hq with hP | hheld
      · exact hP
      · exact Or.inr (hfinds.inRoom he hheld)
  · rcases hrest with rfl | hnone
    · rw [received_flatMap]
      exact flatMap_sublist_filterMap fun d _ => received_delivered (hu.listsOnce hs) d
    · rw [TicTacToe.received, roomEvents_of_none hnone]
      exact List.nil_sublist _

end Server
end TicTacToe
