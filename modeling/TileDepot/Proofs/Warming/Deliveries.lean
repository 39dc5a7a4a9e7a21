import TileDepot.Warming.Audience

/-!
# Who is reached

A snapshot is offered to the subscribers of its task one after the other, and reaches those whose
channel has room when their turn comes (`reached`). Subscribers with a channel of their own are told
apart by that alone; those who share one take what room it has (`countP_reached`).
-/

namespace TileDepot.Warming

namespace Channel

/-- How many more snapshots the channel takes. -/
def room (c : Channel) : Nat :=
  if c.isOpen then c.capacity - c.waiting.length else 0

theorem room_pos_iff {c : Channel} : 0 < c.room ↔ c.isOpen = true ∧ c.isFull = false := by
  unfold room isFull
  split
  · rename_i hopen
    rw [decide_eq_false_iff_not]
    exact ⟨fun hpos => ⟨hopen, by omega⟩, fun h => by omega⟩
  · rename_i hclosed
    exact ⟨fun hpos => absurd hpos (by omega), fun h => absurd h.1 hclosed⟩

/-- The channel with snapshots added behind those that wait. -/
def holding (c : Channel) (n : Nat) (s : Snapshot) : Channel :=
  { c with waiting := c.waiting ++ List.replicate n s }

theorem holding_zero (c : Channel) (s : Snapshot) : c.holding 0 s = c := by
  unfold holding
  rw [List.replicate_zero, List.append_nil]

theorem holding_holding (c : Channel) (n m : Nat) (s : Snapshot) :
    (c.holding n s).holding m s = c.holding (n + m) s := by
  unfold holding
  rw [List.append_assoc, List.replicate_append_replicate]

theorem room_holding (c : Channel) (n : Nat) (s : Snapshot) :
    (c.holding n s).room = c.room - n := by
  unfold holding room
  dsimp only
  rw [List.length_append, List.length_replicate]
  split <;> omega

end Channel

/-- The subscribers that are reached, the first one first, if each channel has this much room. -/
def reached : List Subscriber → (Nat → Nat) → List Subscriber
  | [], _ => []
  | sub :: subs, room =>
    if 0 < room sub.channel then
      sub :: reached subs fun channel =>
        if channel = sub.channel then room channel - 1 else room channel
    else reached subs room

theorem reached_sublist (subs : List Subscriber) (room : Nat → Nat) :
    (reached subs room).Sublist subs := by
  induction subs generalizing room with
  | nil => exact List.Sublist.refl _
  | cons sub subs ih =>
      unfold reached
      split
      · exact (ih _).cons_cons sub
      · exact (ih room).cons sub

/-- **Those who share a channel take what room it has.** -/
theorem countP_reached (subs : List Subscriber) (room : Nat → Nat) (channel : Nat) :
    (reached subs room).countP (fun sub => sub.channel == channel)
      = min (subs.countP fun sub => sub.channel == channel) (room channel) := by
  induction subs generalizing room with
  | nil => simp [reached]
  | cons sub subs ih =>
      unfold reached
      rw [List.countP_cons]
      by_cases hchannel : sub.channel = channel
      · subst hchannel
        split
        · rw [List.countP_cons, ih]
          simp only [beq_self_eq_true, if_true]
          omega
        · rw [ih]
          simp only [beq_self_eq_true, if_true]
          omega
      · have hother : (sub.channel == channel) = false := beq_eq_false_iff_ne.mpr hchannel
        split
        · rw [List.countP_cons, ih]
          simp only [hother, if_neg (Ne.symm hchannel), Bool.false_eq_true, if_false, Nat.add_zero]
        · rw [ih]
          simp only [hother, Bool.false_eq_true, if_false, Nat.add_zero]

/-- If there is room left in a channel, all who have it were reached. -/
theorem reached_all {subs : List Subscriber} {room : Nat → Nat} {channel : Nat}
    (h : (reached subs room).countP (fun sub => sub.channel == channel) < room channel) :
    (reached subs room).filter (fun sub => sub.channel == channel)
      = subs.filter fun sub => sub.channel == channel := by
  refine ((reached_sublist subs room).filter _).eq_of_length ?_
  rw [← List.countP_eq_length_filter, ← List.countP_eq_length_filter]
  rw [countP_reached] at h ⊢
  omega

/-- Where nobody shares a channel, a subscriber is reached if there is room in it. -/
theorem reached_apart {subs : List Subscriber} (room : Nat → Nat)
    (h : (subs.map Subscriber.channel).Nodup) :
    reached subs room = subs.filter fun sub => 0 < room sub.channel := by
  induction subs generalizing room with
  | nil => rfl
  | cons sub subs ih =>
      obtain ⟨hnew, hrest⟩ := List.nodup_cons.mp h
      unfold reached
      split
      · rename_i hroom
        rw [List.filter_cons_of_pos (by simpa using hroom), ih _ hrest]
        refine congrArg (sub :: ·) (List.filter_congr fun other hother => ?_)
        have hne : other.channel ≠ sub.channel :=
          fun heq => hnew (heq ▸ List.mem_map_of_mem hother)
        rw [if_neg hne]
      · rename_i hroom
        rw [List.filter_cons_of_neg (by simpa using hroom)]
        exact ih room hrest

namespace Audience

/-- How many more snapshots a channel takes, by its number. -/
def roomIn (channels : Array Channel) (channel : Nat) : Nat :=
  (channels[channel]?.map Channel.room).getD 0

/-- The channel's reader is there. -/
def isOpenIn (channels : Array Channel) (channel : Nat) : Bool :=
  channels[channel]?.any Channel.isOpen

theorem push_isOpen (c : Channel) (s : Snapshot) : (c.push s).isOpen = c.isOpen := by
  unfold Channel.push
  split <;> rfl

theorem push_eq (c : Channel) (s : Snapshot) :
    c.push s = if 0 < c.room then c.holding 1 s else c := by
  unfold Channel.push
  by_cases hroom : 0 < c.room
  · obtain ⟨hopen, hfull⟩ := Channel.room_pos_iff.mp hroom
    rw [if_pos hroom, if_pos (by simp [hopen, hfull])]
    rfl
  · rw [if_neg hroom, if_neg]
    intro hboth
    rw [Bool.and_eq_true, Bool.not_eq_true'] at hboth
    exact hroom (Channel.room_pos_iff.mpr hboth)

theorem isOpenIn_of_get {channels : Array Channel} {channel : Nat} {c : Channel}
    (hc : channels[channel]? = some c) : isOpenIn channels channel = c.isOpen := by
  unfold isOpenIn
  rw [hc]
  rfl

theorem roomIn_of_get {channels : Array Channel} {channel : Nat} {c : Channel}
    (hc : channels[channel]? = some c) : roomIn channels channel = c.room := by
  unfold roomIn
  rw [hc]
  rfl

theorem roomIn_of_not_open {channels : Array Channel} {channel : Nat}
    (h : isOpenIn channels channel = false) : roomIn channels channel = 0 := by
  unfold roomIn
  cases hc : channels[channel]? with
  | none => rfl
  | some c =>
      rw [isOpenIn_of_get hc] at h
      show (if c.isOpen then _ else 0) = 0
      rw [h]
      rfl

/-- A subscriber whose channel is not open is passed by. -/
theorem deliver_passed {s : Snapshot} {sub : Subscriber} {subs : List Subscriber}
    {channels : Array Channel} (h : isOpenIn channels sub.channel = false) :
    deliver s (sub :: subs) channels = deliver s subs channels := by
  cases hc : channels[sub.channel]? with
  | none =>
      rw [deliver, hc]
  | some c =>
      rw [isOpenIn_of_get hc] at h
      rw [deliver, hc]
      dsimp only
      rw [h]
      rfl

/-- A subscriber whose channel is open stays, and counts if there is room. -/
theorem deliver_offered {s : Snapshot} {sub : Subscriber} {subs : List Subscriber}
    {channels : Array Channel} {c : Channel} (hc : channels[sub.channel]? = some c)
    (hopen : c.isOpen = true) {kept : List Subscriber} {n : Nat} {channels' : Array Channel}
    (hrest : deliver s subs (channels.setIfInBounds sub.channel (c.push s)) = (kept, n, channels')) :
    deliver s (sub :: subs) channels
      = (sub :: kept, if 0 < c.room then n + 1 else n, channels') := by
  rw [deliver, hc]
  dsimp only
  rw [hopen, hrest]
  have hroom := Channel.room_pos_iff (c := c)
  cases hfull : c.isFull with
  | true =>
      rw [if_neg (c := 0 < c.room) (by simp [hroom, hfull])]
      rfl
  | false =>
      rw [if_pos (c := 0 < c.room) (by simp [hroom, hfull, hopen])]
      rfl

section Offer

variable {channels : Array Channel} {place : Nat} {c : Channel}

theorem get_push (hc : channels[place]? = some c) (s : Snapshot) (channel : Nat) :
    (channels.setIfInBounds place (c.push s))[channel]?
      = if channel = place then some (c.push s) else channels[channel]? := by
  obtain ⟨hlt, _⟩ := Array.getElem?_eq_some_iff.mp hc
  by_cases hchannel : channel = place
  · rw [if_pos hchannel, hchannel, Array.getElem?_setIfInBounds_self_of_lt hlt]
  · rw [if_neg hchannel, Array.getElem?_setIfInBounds_ne (Ne.symm hchannel)]

theorem isOpenIn_push (hc : channels[place]? = some c) (s : Snapshot) :
    isOpenIn (channels.setIfInBounds place (c.push s)) = isOpenIn channels := by
  funext channel
  unfold isOpenIn
  rw [get_push hc]
  split
  · rename_i hchannel
    rw [hchannel, hc]
    exact push_isOpen c s
  · rfl

theorem roomIn_push (hc : channels[place]? = some c) (s : Snapshot) :
    roomIn (channels.setIfInBounds place (c.push s)) = fun channel =>
      if channel = place then roomIn channels channel - 1 else roomIn channels channel := by
  funext channel
  unfold roomIn
  rw [get_push hc]
  split
  · rename_i hchannel
    rw [hchannel, hc, push_eq]
    show (if 0 < c.room then c.holding 1 s else c).room = c.room - 1
    split
    · exact Channel.room_holding c 1 s
    · omega
  · rfl

end Offer

/-- **What offering a snapshot to one subscriber after the other does**: those with open channels
stay, those whose channel has room are reached and counted, and each channel has the snapshot once
more for each subscriber that it reached through it. -/
theorem deliver_eq (s : Snapshot) (subs : List Subscriber) (channels : Array Channel) :
    (deliver s subs channels).1 = subs.filter (fun sub => isOpenIn channels sub.channel) ∧
    (deliver s subs channels).2.1 = (reached subs (roomIn channels)).length ∧
    ∀ channel : Nat, (deliver s subs channels).2.2[channel]? = channels[channel]?.map fun c =>
      c.holding ((reached subs (roomIn channels)).countP fun sub => sub.channel == channel) s := by
  induction subs generalizing channels with
  | nil =>
      refine ⟨rfl, rfl, fun channel => ?_⟩
      show channels[channel]? = channels[channel]?.map fun c => c.holding 0 s
      simp only [Channel.holding_zero, Option.map_id']
  | cons sub subs ih =>
      cases hopen : isOpenIn channels sub.channel with
      | false =>
          rw [deliver_passed hopen, List.filter_cons_of_neg (by simp [hopen]), reached,
            if_neg (by simp [roomIn_of_not_open hopen])]
          exact ih channels
      | true =>
          obtain ⟨c, hc, hcopen⟩ := (Option.any_eq_true _ _).mp hopen
          obtain ⟨hkept, hcount, hafter⟩ := ih (channels.setIfInBounds sub.channel (c.push s))
          rw [isOpenIn_push hc] at hkept
          rw [roomIn_push hc] at hcount hafter
          rw [deliver_offered hc hcopen rfl, List.filter_cons_of_pos (by exact hopen), reached,
            roomIn_of_get hc]
          by_cases hroom : 0 < c.room
          · rw [if_pos hroom, if_pos hroom]
            refine ⟨congrArg (sub :: ·) hkept, congrArg (· + 1) hcount, fun channel => ?_⟩
            rw [hafter channel, get_push hc, List.countP_cons, push_eq, if_pos hroom]
            by_cases hchannel : channel = sub.channel
            · subst hchannel
              rw [if_pos rfl, hc, beq_self_eq_true, if_pos rfl, Option.map_some, Option.map_some,
                Channel.holding_holding, Nat.add_comm 1]
            · rw [if_neg hchannel, if_neg (by simpa using Ne.symm hchannel), Nat.add_zero]
          · rw [if_neg hroom, if_neg hroom]
            -- without room nothing changes: none less is none
            have hsame : (fun channel => if channel = sub.channel then roomIn channels channel - 1
                else roomIn channels channel) = roomIn channels := by
              funext channel
              split
              · rename_i hchannel
                rw [hchannel, roomIn_of_get hc]
                omega
              · rfl
            rw [hsame] at hcount hafter
            refine ⟨congrArg (sub :: ·) hkept, hcount, fun channel => ?_⟩
            rw [hafter channel, get_push hc, push_eq, if_neg hroom]
            split
            · rename_i hchannel
              rw [hchannel, hc]
            · rfl

end Audience

end TileDepot.Warming
