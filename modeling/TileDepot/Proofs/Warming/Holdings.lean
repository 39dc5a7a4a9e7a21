import TileDepot.Proofs.Warming.Bookkeeping

/-!
# What a channel holds

The subscriptions that go to one channel, task by task (`held`). Whoever works with a channel of
their own, ties it, ends subscriptions of it, reads it and closes it, leaves alone what other channels
hold (`Spares`). Sending a snapshot takes from channels what they hold only if their reader has gone.
-/

namespace TileDepot.Warming.Audience

/-- The subscriptions of a task that go to this channel. -/
def held (a : Audience) (channel : Nat) (task : String) : List Subscriber :=
  (a.subscribers task).filter fun sub => sub.channel == channel

theorem mem_held {a : Audience} {channel : Nat} {task : String} {sub : Subscriber} :
    sub ∈ a.held channel task ↔ sub ∈ a.subscribers task ∧ sub.channel = channel := by
  unfold held
  rw [List.mem_filter, beq_iff_eq]

theorem held_congr {a a' : Audience} (htasks : a'.tasks = a.tasks) (channel : Nat) (task : String) :
    a'.held channel task = a.held channel task := by
  unfold held subscribers
  rw [htasks]

theorem held_attach (a : Audience) (task : String) (own channel : Nat) (task' : String) :
    (a.attach task own).2.held channel task'
      = if task' = task ∧ channel = own then a.held channel task' ++ [⟨a.nextId, own⟩]
        else a.held channel task' := by
  unfold held
  rw [subscribers_attach]
  by_cases htask : task' = task
  · subst htask
    rw [if_pos rfl, List.filter_append]
    by_cases hchannel : channel = own
    · subst hchannel
      rw [if_pos ⟨rfl, rfl⟩, List.filter_cons_of_pos (by simp), List.filter_nil]
    · rw [if_neg fun hboth => hchannel hboth.2,
        List.filter_cons_of_neg (by simpa using Ne.symm hchannel), List.filter_nil, List.append_nil]
  · rw [if_neg htask, if_neg fun hboth => htask hboth.1]

theorem held_unsubscribe {a : Audience} (h : a.Distinct) (id channel : Nat) (task : String) :
    (a.unsubscribe id).held channel task
      = (a.held channel task).filter fun sub => sub.id != id := by
  unfold held
  rw [subscribers_unsubscribe h, List.filter_comm]

/-- A channel whose reader is there keeps what it holds. -/
theorem held_publish {a : Audience} {channel : Nat} (hopen : isOpenIn a.channels channel = true)
    (s : Snapshot) (task : String) : (a.publish s).2.held channel task = a.held channel task := by
  unfold held
  rw [publish_subscribers]
  split
  · rw [List.filter_filter]
    refine List.filter_congr fun sub _ => ?_
    by_cases hchannel : sub.channel = channel
    · rw [hchannel, hopen, Bool.and_true]
    · rw [beq_false_of_ne hchannel, Bool.false_and]
  · rfl

theorem held_publish_sublist (a : Audience) (s : Snapshot) (channel : Nat) (task : String) :
    ((a.publish s).2.held channel task).Sublist (a.held channel task) := by
  unfold held
  refine List.Sublist.filter _ ?_
  rw [publish_subscribers]
  split
  · exact List.filter_sublist
  · exact List.Sublist.refl _

/-! ## Channels -/

theorem isOpenIn_publish (a : Audience) (s : Snapshot) (channel : Nat) :
    isOpenIn (a.publish s).2.channels channel = isOpenIn a.channels channel := by
  unfold isOpenIn
  rw [publish_get]
  cases a.channels[channel]? <;> rfl

theorem size_publish (a : Audience) (s : Snapshot) {channel : Nat}
    (h : channel < a.channels.size) : channel < (a.publish s).2.channels.size := by
  have hafter := publish_get a s channel
  rw [Array.getElem?_eq_getElem h] at hafter
  exact (Array.getElem?_eq_some_iff.mp hafter).1

theorem isOpenIn_addChannel (a : Audience) (capacity : Nat) {channel : Nat}
    (h : channel < a.channels.size) :
    isOpenIn (a.addChannel capacity).2.channels channel = isOpenIn a.channels channel := by
  show isOpenIn (a.channels.push (.ofCapacity capacity)) channel = _
  unfold isOpenIn
  rw [Array.getElem?_push, if_neg (Nat.ne_of_lt h)]

theorem isOpenIn_new (a : Audience) (capacity : Nat) :
    isOpenIn (a.addChannel capacity).2.channels a.channels.size = true := by
  show isOpenIn (a.channels.push (.ofCapacity capacity)) a.channels.size = true
  unfold isOpenIn
  rw [Array.getElem?_push, if_pos rfl]
  rfl

theorem isOpenIn_receive (a : Audience) (own limit channel : Nat) :
    isOpenIn (a.receive own limit).2.channels channel = isOpenIn a.channels channel := by
  unfold receive
  cases hown : a.channels[own]? with
  | none => rfl
  | some c =>
      obtain ⟨hlt, _⟩ := Array.getElem?_eq_some_iff.mp hown
      dsimp only
      unfold isOpenIn
      by_cases hchannel : own = channel
      · rw [← hchannel, Array.getElem?_setIfInBounds_self_of_lt hlt, hown]
        rfl
      · rw [Array.getElem?_setIfInBounds_ne hchannel]

theorem size_receive (a : Audience) (own limit : Nat) :
    (a.receive own limit).2.channels.size = a.channels.size := by
  unfold receive
  cases a.channels[own]? with
  | none => rfl
  | some c => exact Array.size_setIfInBounds

/-! ## Working with one channel -/

/-- What has been done leaves all other channels as they were, with all that they hold. -/
structure Spares (own : Nat) (a a' : Audience) : Prop where
  held : ∀ channel, channel ≠ own → ∀ task, a'.held channel task = a.held channel task
  isOpen : ∀ channel, channel ≠ own → isOpenIn a'.channels channel = isOpenIn a.channels channel
  size : a'.channels.size = a.channels.size

theorem spares_refl (own : Nat) (a : Audience) : Spares own a a where
  held _ _ _ := rfl
  isOpen _ _ := rfl
  size := rfl

theorem Spares.trans {own : Nat} {a a' a'' : Audience} (h : Spares own a a')
    (h' : Spares own a' a'') : Spares own a a'' where
  held channel hother task := (h'.held channel hother task).trans (h.held channel hother task)
  isOpen channel hother := (h'.isOpen channel hother).trans (h.isOpen channel hother)
  size := h'.size.trans h.size

theorem spares_attach (a : Audience) (task : String) (own : Nat) :
    Spares own a (a.attach task own).2 where
  held channel hother task' := by
    rw [held_attach, if_neg fun hboth => hother hboth.2]
  isOpen _ _ := rfl
  size := rfl

/-- Ending a subscription of one's own. -/
theorem spares_unsubscribe {a : Audience} (h : a.WellKept) {own id : Nat} {task : String}
    (hown : (⟨id, own⟩ : Subscriber) ∈ a.subscribers task) : Spares own a (a.unsubscribe id) where
  held channel hother task' := by
    rw [held_unsubscribe h.distinct, List.filter_eq_self]
    intro sub hsub
    obtain ⟨hlisted, hchannel⟩ := mem_held.mp hsub
    rw [bne_iff_ne]
    intro hid
    -- a subscription with this number goes to the own channel
    have hsame := h.unique hlisted hown hid
    exact hother (hchannel.symm.trans (congrArg Subscriber.channel hsame))
  isOpen _ _ := rfl
  size := rfl

theorem spares_receive (a : Audience) (own limit : Nat) :
    Spares own a (a.receive own limit).2 where
  held := fun channel _ => held_congr (receive_books a own limit).1 channel
  isOpen := fun channel _ => isOpenIn_receive a own limit channel
  size := size_receive a own limit

theorem spares_close (a : Audience) (own : Nat) : Spares own a (a.close own) where
  held _ _ _ := rfl
  isOpen channel hother := by
    show isOpenIn (a.channels.modify own Channel.close) channel = _
    unfold isOpenIn
    rw [Array.getElem?_modify, if_neg (Ne.symm hother)]
  size := Array.size_modify

end TileDepot.Warming.Audience
