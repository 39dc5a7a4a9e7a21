import TileDepot.Proofs.Pairs
import TileDepot.Proofs.Warming.Deliveries

/-!
# Those who follow a task

What becomes of the subscribers of a task, and of what waits in a channel, whatever the audience
does. A task's subscribers are one list, as long as no task has two (`Audience.Distinct`). Sending a
snapshot adds it to a channel at most once for each subscription that the channel has
(`publish_waiting`), and adds it if the channel has one and there is room (`publish_reaches`).
-/

namespace TileDepot.Warming

namespace Audience

/-- What waits in a channel. -/
def waiting (a : Audience) (channel : Nat) : List Snapshot :=
  (a.channels[channel]?.map Channel.waiting).getD []

/-- The channel's reader is there. -/
def IsOpen (a : Audience) (channel : Nat) : Prop :=
  ∃ c, a.channels[channel]? = some c ∧ c.isOpen = true

/-- The channel's reader is there, and the channel takes one more snapshot. -/
def HasRoom (a : Audience) (channel : Nat) : Prop :=
  ∃ c, a.channels[channel]? = some c ∧ c.isOpen = true ∧ c.isFull = false

/-- How often a channel follows a task. -/
def ties (a : Audience) (task : String) (channel : Nat) : Nat :=
  (a.subscribers task).countP fun s => s.channel == channel

/-- No task has two lists of subscribers. -/
def Distinct (a : Audience) : Prop :=
  (a.tasks.map (·.1)).Nodup

/-! ## Subscribers -/

theorem subscribers_setSubscribers (a : Audience) (task task' : String) (subs : List Subscriber) :
    (a.setSubscribers task subs).subscribers task'
      = if task' = task then subs else a.subscribers task' := by
  have hothers := lookup_filter a.tasks task task'
  unfold setSubscribers subscribers
  dsimp only
  split
  · rename_i hempty
    rw [hothers]
    split
    · exact (List.isEmpty_iff.mp hempty).symm
    · rfl
  · rw [lookup_front, hothers]
    split <;> rfl

theorem distinct_setSubscribers {a : Audience} (h : a.Distinct) (task : String)
    (subs : List Subscriber) : (a.setSubscribers task subs).Distinct := by
  have hothers : ((a.tasks.filter fun e => e.1 != task).map (·.1)).Nodup :=
    List.Sublist.nodup (List.filter_sublist.map _) h
  unfold setSubscribers Distinct
  dsimp only
  split
  · exact hothers
  · refine List.nodup_cons.mpr ⟨fun hin => ?_, hothers⟩
    obtain ⟨e, he, htask⟩ := List.mem_map.mp hin
    exact absurd htask (by simpa using (List.mem_filter.mp he).2)

theorem subscribers_attach (a : Audience) (task task' : String) (channel : Nat) :
    (a.attach task channel).2.subscribers task'
      = if task' = task then a.subscribers task ++ [⟨a.nextId, channel⟩] else a.subscribers task' :=
  subscribers_setSubscribers a task task' _

/-- Ending a subscription takes it off every list, and nothing else. -/
theorem subscribers_unsubscribe {a : Audience} (h : a.Distinct) (id : Nat) (task : String) :
    (a.unsubscribe id).subscribers task = (a.subscribers task).filter fun s => s.id != id :=
  lookup_prune h _ task

theorem distinct_unsubscribe {a : Audience} (h : a.Distinct) (id : Nat) :
    (a.unsubscribe id).Distinct := by
  unfold unsubscribe Distinct
  dsimp only
  refine List.Sublist.nodup (List.filter_sublist.map _) ?_
  rw [List.map_map]
  exact h

/-! ## Sending a snapshot -/

/-- A channel before and after a snapshot was sent to `ties` subscriptions of it: it has the
snapshot at most so often, and at least once if there is a subscription and there is room. -/
def Gains (s : Snapshot) (ties : Nat) (before after : Option Channel) : Prop :=
  ∃ n, n ≤ ties ∧
    after = before.map (fun c => { c with waiting := c.waiting ++ List.replicate n s }) ∧
    (0 < ties → ∀ c, before = some c → c.isOpen = true → c.isFull = false → 0 < n)

theorem deliver_channel (s : Snapshot) (subs : List Subscriber) (channels : Array Channel)
    (channel : Nat) :
    Gains s (subs.countP fun sub => sub.channel == channel) channels[channel]?
      (deliver s subs channels).2.2[channel]? := by
  obtain ⟨_, _, hafter⟩ := deliver_eq s subs channels
  refine ⟨_, ?_, hafter channel, fun hties c hc hopen hfull => ?_⟩
  · rw [countP_reached]
    exact Nat.min_le_left _ _
  · have hroom : 0 < c.room := Channel.room_pos_iff.mpr ⟨hopen, hfull⟩
    rw [countP_reached, roomIn_of_get hc]
    omega

/-- Who has an open channel stays on the list. -/
theorem deliver_kept {s : Snapshot} {sub : Subscriber} {subs : List Subscriber}
    {channels : Array Channel} (hsub : sub ∈ subs)
    (hopen : ∃ c, channels[sub.channel]? = some c ∧ c.isOpen = true) :
    sub ∈ (deliver s subs channels).1 := by
  obtain ⟨c, hc, hc'⟩ := hopen
  rw [(deliver_eq s subs channels).1]
  exact List.mem_filter.mpr ⟨hsub, (isOpenIn_of_get hc).trans hc'⟩

theorem deliver_sublist (s : Snapshot) (subs : List Subscriber) (channels : Array Channel) :
    (deliver s subs channels).1.Sublist subs := by
  rw [(deliver_eq s subs channels).1]
  exact List.filter_sublist

theorem subscribers_publish (a : Audience) (s : Snapshot) (task : String) :
    (a.publish s).2.subscribers task
      = if task = s.task then (deliver s (a.subscribers s.task) a.channels).1
        else a.subscribers task :=
  subscribers_setSubscribers a s.task task _

/-- **Who is reached.** A channel gets the snapshot at most once for each subscription that it has,
and at least once if it has one and there is room. -/
theorem publish_channel (a : Audience) (s : Snapshot) (channel : Nat) :
    Gains s (a.ties s.task channel) a.channels[channel]? (a.publish s).2.channels[channel]? :=
  deliver_channel s (a.subscribers s.task) a.channels channel

/-! ## What waits -/

/-- What waits after a snapshot was sent. -/
theorem publish_waiting (a : Audience) (s : Snapshot) (channel : Nat) :
    ∃ n, n ≤ a.ties s.task channel ∧
      (a.publish s).2.waiting channel = a.waiting channel ++ List.replicate n s ∧
      (0 < a.ties s.task channel → a.HasRoom channel → 0 < n) := by
  obtain ⟨n, hn, hafter, hpos⟩ := publish_channel a s channel
  unfold waiting HasRoom
  rw [hafter]
  cases hc : a.channels[channel]? with
  | none => exact ⟨0, Nat.zero_le _, rfl, fun _ ⟨c, hnone, _⟩ => absurd hnone (by simp)⟩
  | some c =>
      refine ⟨n, hn, rfl, ?_⟩
      rintro hties ⟨c', hc', hopen, hroom⟩
      exact hpos hties c' (hc.trans hc') hopen hroom

/-- Reading moves what waits from the channel to its reader. -/
theorem receive_waiting (a : Audience) (channel limit : Nat) :
    (a.receive channel limit).1 ++ (a.receive channel limit).2.waiting channel
      = a.waiting channel := by
  unfold receive waiting
  cases hc : a.channels[channel]? with
  | none => simp [hc]
  | some c =>
      obtain ⟨hlt, _⟩ := Array.getElem?_eq_some_iff.mp hc
      dsimp only
      rw [Array.getElem?_setIfInBounds_self_of_lt hlt]
      exact List.take_append_drop limit c.waiting

theorem receive_others (a : Audience) {channel other : Nat} (limit : Nat)
    (h : other ≠ channel) : (a.receive channel limit).2.waiting other = a.waiting other := by
  unfold receive waiting
  cases a.channels[channel]? with
  | none => rfl
  | some c =>
      dsimp only
      rw [Array.getElem?_setIfInBounds_ne (Ne.symm h)]

theorem addChannel_waiting (a : Audience) (capacity channel : Nat) :
    (a.addChannel capacity).2.waiting channel = a.waiting channel := by
  show ((a.channels.push (.ofCapacity capacity))[channel]?.map Channel.waiting).getD [] = _
  rw [Array.getElem?_push]
  split
  · rename_i hlast
    unfold waiting
    rw [hlast, Array.getElem?_size]
    rfl
  · rfl

/-- What waits for a reader who goes is gone. -/
theorem close_waiting (a : Audience) (channel other : Nat) :
    (a.close channel).waiting other = if other = channel then [] else a.waiting other := by
  show ((a.channels.modify channel Channel.close)[other]?.map Channel.waiting).getD [] = _
  rw [Array.getElem?_modify]
  by_cases hother : other = channel
  · rw [if_pos hother, if_pos hother.symm]
    cases a.channels[other]? <;> rfl
  · rw [if_neg hother, if_neg (Ne.symm hother)]
    rfl

theorem not_isOpen_close (a : Audience) (channel : Nat) : ¬ (a.close channel).IsOpen channel := by
  rintro ⟨c, hc, hopen⟩
  have hclosed : (a.channels.modify channel Channel.close)[channel]? = some c := hc
  rw [Array.getElem?_modify, if_pos rfl] at hclosed
  obtain ⟨c', _, rfl⟩ := Option.map_eq_some_iff.mp hclosed
  exact absurd hopen (by simp [Channel.close])

/-! ## Channels stay -/

/-- The channel is still there, and has not been opened again. -/
def Stays (channel : Nat) (a a' : Audience) : Prop :=
  ∀ c, a.channels[channel]? = some c →
    ∃ c', a'.channels[channel]? = some c' ∧ (c'.isOpen = true → c.isOpen = true)

theorem stays_refl {channel : Nat} {a a' : Audience} (h : a'.channels = a.channels) :
    Stays channel a a' :=
  fun c hc => ⟨c, by rw [h]; exact hc, id⟩

theorem stays_publish (channel : Nat) (a : Audience) (s : Snapshot) :
    Stays channel a (a.publish s).2 := by
  intro c hc
  obtain ⟨n, _, hafter, _⟩ := publish_channel a s channel
  rw [hc] at hafter
  exact ⟨_, hafter, id⟩

theorem stays_addChannel (channel : Nat) (a : Audience) (capacity : Nat) :
    Stays channel a (a.addChannel capacity).2 := by
  intro c hc
  obtain ⟨hlt, _⟩ := Array.getElem?_eq_some_iff.mp hc
  refine ⟨c, ?_, id⟩
  show (a.channels.push (.ofCapacity capacity))[channel]? = _
  rw [Array.getElem?_push, if_neg (by omega)]
  exact hc

theorem stays_receive (channel : Nat) (a : Audience) (other limit : Nat) :
    Stays channel a (a.receive other limit).2 := by
  intro c hc
  unfold receive
  cases hother : a.channels[other]? with
  | none => exact ⟨c, hc, id⟩
  | some c' =>
      dsimp only
      by_cases hsame : other = channel
      · subst hsame
        obtain ⟨hlt, _⟩ := Array.getElem?_eq_some_iff.mp hc
        rw [hc] at hother
        cases hother
        rw [Array.getElem?_setIfInBounds_self_of_lt hlt]
        exact ⟨_, rfl, id⟩
      · rw [Array.getElem?_setIfInBounds_ne hsame]
        exact ⟨c, hc, id⟩

theorem stays_close (channel : Nat) (a : Audience) (other : Nat) :
    Stays channel a (a.close other) := by
  intro c hc
  show ∃ c', (a.channels.modify other Channel.close)[channel]? = some c' ∧ _
  rw [Array.getElem?_modify, hc]
  split
  · exact ⟨_, rfl, fun hopen => absurd hopen (by simp [Channel.close])⟩
  · exact ⟨c, rfl, id⟩

end Audience

end TileDepot.Warming
