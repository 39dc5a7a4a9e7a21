import Mathlib.Data.List.Nodup
import TileDepot.Proofs.Warming.Following

/-!
# The books of an audience

An audience may be called on in any order: channels are made, tied to tasks and closed, subscriptions
end, snapshots are sent and read. After every call its books are in order (`WellKept`): no task has
an empty list, and no subscription stands on two. A snapshot that is sent reaches the subscribers of
its task that have room and no others. So what a subscription is sent over its whole life is a part
of what was sent for its task in this time, in the same order and nothing twice, and all of it if
there was always room (`books_kept`).

Several subscriptions may share a channel. Then what comes out of it is what all of them were sent,
and each of them is told apart from the others by its number.
-/

namespace TileDepot.Warming

namespace Audience

/-! ## Books in order -/

structure WellKept (a : Audience) : Prop where
  distinct : a.Distinct
  occupied : ∀ e ∈ a.tasks, e.2 ≠ []
  numbered : ∀ task, ∀ sub ∈ a.subscribers task, sub.id < a.nextId
  /-- No list has a number twice. -/
  once : ∀ task, ((a.subscribers task).map Subscriber.id).Nodup
  /-- No number is on two lists. -/
  apart : ∀ task task' sub sub', sub ∈ a.subscribers task → sub' ∈ a.subscribers task' →
    sub.id = sub'.id → task = task'

theorem wellKept_empty : empty.WellKept where
  distinct := List.nodup_nil
  occupied _ he := absurd he List.not_mem_nil
  numbered _ _ hsub := absurd hsub List.not_mem_nil
  once _ := List.nodup_nil
  apart _ _ _ _ hsub := absurd hsub List.not_mem_nil

/-- A number stands for one subscription. -/
theorem WellKept.unique {a : Audience} (h : a.WellKept) {task task' : String}
    {sub sub' : Subscriber} (hsub : sub ∈ a.subscribers task) (hsub' : sub' ∈ a.subscribers task')
    (hid : sub.id = sub'.id) : sub = sub' := by
  have htask := h.apart task task' sub sub' hsub hsub' hid
  subst htask
  exact List.inj_on_of_nodup_map (h.once task) hsub hsub' hid

/-- Taking subscriptions off the lists leaves the books in order. -/
theorem WellKept.shrink {a a' : Audience} (h : a.WellKept) (hdistinct : a'.Distinct)
    (hoccupied : ∀ e ∈ a'.tasks, e.2 ≠ []) (hnext : a'.nextId = a.nextId)
    (hsubs : ∀ task, (a'.subscribers task).Sublist (a.subscribers task)) : a'.WellKept where
  distinct := hdistinct
  occupied := hoccupied
  numbered task sub hsub := hnext ▸ h.numbered task sub ((hsubs task).mem hsub)
  once task := ((hsubs task).map _).nodup (h.once task)
  apart task task' sub sub' hsub hsub' :=
    h.apart task task' sub sub' ((hsubs task).mem hsub) ((hsubs task').mem hsub')

theorem WellKept.congr {a a' : Audience} (h : a.WellKept) (htasks : a'.tasks = a.tasks)
    (hnext : a'.nextId = a.nextId) : a'.WellKept := by
  have hsubs : ∀ task, a'.subscribers task = a.subscribers task := by
    intro task
    unfold subscribers
    rw [htasks]
  refine h.shrink ?_ (htasks ▸ h.occupied) hnext fun task => hsubs task ▸ List.Sublist.refl _
  unfold Distinct
  rw [htasks]
  exact h.distinct

theorem occupied_setSubscribers {a : Audience} (h : ∀ e ∈ a.tasks, e.2 ≠ []) (task : String)
    (subs : List Subscriber) : ∀ e ∈ (a.setSubscribers task subs).tasks, e.2 ≠ [] := by
  have hothers : ∀ e ∈ a.tasks.filter fun e => e.1 != task, e.2 ≠ [] :=
    fun e he => h e (List.mem_filter.mp he).1
  unfold setSubscribers
  dsimp only
  split
  · exact hothers
  · rename_i hsome
    exact List.forall_mem_cons.mpr ⟨fun hnil => hsome (List.isEmpty_iff.mpr hnil), hothers⟩

theorem wellKept_attach {a : Audience} (h : a.WellKept) (task : String) (channel : Nat) :
    (a.attach task channel).2.WellKept := by
  have hsubs := subscribers_attach a task
  have hmem : ∀ task' sub, sub ∈ (a.attach task channel).2.subscribers task' →
      sub ∈ a.subscribers task' ∨ task' = task ∧ sub.id = a.nextId := by
    intro task' sub hsub
    rw [hsubs] at hsub
    split at hsub
    · rename_i htask
      rcases List.mem_append.mp hsub with hold | hnew
      · exact Or.inl (htask ▸ hold)
      · rw [List.mem_singleton.mp hnew]
        exact Or.inr ⟨htask, rfl⟩
    · exact Or.inl hsub
  refine ⟨distinct_setSubscribers h.distinct task _, occupied_setSubscribers h.occupied task _,
    fun task' sub hsub => ?_, fun task' => ?_, fun task₁ task₂ sub₁ sub₂ h₁ h₂ hid => ?_⟩
  · show sub.id < a.nextId + 1
    rcases hmem task' sub hsub with hold | ⟨_, hnew⟩
    · exact Nat.lt_succ_of_lt (h.numbered task' sub hold)
    · omega
  · rw [hsubs]
    split
    · rw [List.map_append, List.nodup_append]
      refine ⟨h.once task, List.nodup_singleton _, fun i hi j hj => ?_⟩
      obtain ⟨sub, hsub, rfl⟩ := List.mem_map.mp hi
      have hlt := h.numbered task sub hsub
      rw [List.mem_singleton.mp hj]
      exact Nat.ne_of_lt hlt
    · exact h.once task'
  · -- the new number is larger than all numbers there were
    rcases hmem task₁ sub₁ h₁ with hold₁ | ⟨htask₁, hnew₁⟩
    · rcases hmem task₂ sub₂ h₂ with hold₂ | ⟨_, hnew₂⟩
      · exact h.apart task₁ task₂ sub₁ sub₂ hold₁ hold₂ hid
      · have hlt := h.numbered task₁ sub₁ hold₁
        omega
    · rcases hmem task₂ sub₂ h₂ with hold₂ | ⟨htask₂, _⟩
      · have hlt := h.numbered task₂ sub₂ hold₂
        omega
      · exact htask₁.trans htask₂.symm

theorem wellKept_unsubscribe {a : Audience} (h : a.WellKept) (id : Nat) :
    (a.unsubscribe id).WellKept := by
  refine h.shrink (distinct_unsubscribe h.distinct id) (fun e he => ?_) rfl fun task => ?_
  · have hsome := (List.mem_filter.mp he).2
    intro hnil
    rw [hnil] at hsome
    exact absurd hsome (by simp)
  · rw [subscribers_unsubscribe h.distinct]
    exact List.filter_sublist

/-! ## Sending -/

/-- The subscribers that a snapshot reaches. -/
def reachedBy (a : Audience) (s : Snapshot) : List Subscriber :=
  reached (a.subscribers s.task) (roomIn a.channels)

theorem publish_subscribers (a : Audience) (s : Snapshot) (task : String) :
    (a.publish s).2.subscribers task = if task = s.task
      then (a.subscribers task).filter fun sub => isOpenIn a.channels sub.channel
      else a.subscribers task := by
  rw [subscribers_publish]
  split
  · rename_i htask
    rw [htask]
    exact (deliver_eq s _ _).1
  · rfl

theorem publish_count (a : Audience) (s : Snapshot) :
    (a.publish s).1 = (a.reachedBy s).length :=
  (deliver_eq s (a.subscribers s.task) a.channels).2.1

theorem publish_get (a : Audience) (s : Snapshot) (channel : Nat) :
    (a.publish s).2.channels[channel]? = a.channels[channel]?.map fun c =>
      c.holding ((a.reachedBy s).countP fun sub => sub.channel == channel) s :=
  (deliver_eq s (a.subscribers s.task) a.channels).2.2 channel

theorem wellKept_publish {a : Audience} (h : a.WellKept) (s : Snapshot) :
    (a.publish s).2.WellKept := by
  refine h.shrink (distinct_setSubscribers h.distinct s.task _)
    (occupied_setSubscribers h.occupied s.task _) rfl fun task => ?_
  rw [publish_subscribers]
  split
  · exact List.filter_sublist
  · exact List.Sublist.refl _

/-! ## Calls -/

/-- What an audience may be called for. -/
inductive Call where
  | addChannel (capacity : Nat)
  | attach (task : String) (channel : Nat)
  | subscribe (task : String)
  | unsubscribe (id : Nat)
  | publish (s : Snapshot)
  | receive (channel limit : Nat)
  | close (channel : Nat)

/-- What a call makes of an audience. Only a channel that is there can be tied to a task. -/
def perform (a : Audience) : Call → Audience
  | .addChannel capacity => (a.addChannel capacity).2
  | .attach task channel => if channel < a.channels.size then (a.attach task channel).2 else a
  | .subscribe task => (a.subscribe task).2
  | .unsubscribe id => a.unsubscribe id
  | .publish s => (a.publish s).2
  | .receive channel limit => (a.receive channel limit).2
  | .close channel => a.close channel

def after (a : Audience) (calls : List Call) : Audience :=
  calls.foldl perform a

theorem receive_books (a : Audience) (channel limit : Nat) :
    (a.receive channel limit).2.tasks = a.tasks ∧ (a.receive channel limit).2.nextId = a.nextId := by
  unfold receive
  split <;> exact ⟨rfl, rfl⟩

/-- **Every call leaves the books in order.** -/
theorem wellKept_perform {a : Audience} (h : a.WellKept) (call : Call) :
    (a.perform call).WellKept := by
  cases call with
  | addChannel capacity => exact h.congr rfl rfl
  | attach task channel =>
      show (if channel < a.channels.size then (a.attach task channel).2 else a).WellKept
      split
      · exact wellKept_attach h task channel
      · exact h
  | subscribe task =>
      have hbefore : (a.addChannel Channel.defaultCapacity).2.WellKept := h.congr rfl rfl
      exact wellKept_attach hbefore task a.channels.size
  | unsubscribe id => exact wellKept_unsubscribe h id
  | publish s => exact wellKept_publish h s
  | receive channel limit =>
      exact h.congr (receive_books a channel limit).1 (receive_books a channel limit).2
  | close channel => exact h.congr rfl rfl

theorem wellKept_after {a : Audience} (h : a.WellKept) (calls : List Call) :
    (a.after calls).WellKept := by
  induction calls generalizing a with
  | nil => exact h
  | cons call calls ih => exact ih (wellKept_perform h call)

/-! ## Histories -/

/-- What is seen of each call, one after the other. -/
def history {β : Type} (see : Audience → Call → List β) : Audience → List Call → List β
  | _, [] => []
  | a, call :: calls => see a call ++ history see (a.perform call) calls

/-- The snapshots that are sent for a task. -/
def sentFor (task : String) (_ : Audience) : Call → List Snapshot
  | .publish s => if s.task = task then [s] else []
  | _ => []

/-- The snapshots that are sent for a task whose list has this number. -/
def dueTo (id : Nat) (a : Audience) : Call → List Snapshot
  | .publish s => if id ∈ (a.subscribers s.task).map Subscriber.id then [s] else []
  | _ => []

/-- The subscribers that are reached, each with the snapshot. -/
def deliveries (a : Audience) : Call → List (Subscriber × Snapshot)
  | .publish s => (a.reachedBy s).map fun sub => (sub, s)
  | _ => []

/-- The snapshots that a subscriber is reached by. -/
def deliveredTo (sub : Subscriber) (a : Audience) (call : Call) : List Snapshot :=
  ((a.deliveries call).filter fun e => e.1 == sub).map Prod.snd

/-- The snapshots that come into a channel. -/
def deliveredInto (channel : Nat) (a : Audience) (call : Call) : List Snapshot :=
  ((a.deliveries call).filter fun e => e.1.channel == channel).map Prod.snd

/-- The snapshots that are read from a channel. -/
def readFrom (channel : Nat) (a : Audience) : Call → List Snapshot
  | .receive other limit => if other = channel then (a.receive other limit).1 else []
  | _ => []

/-! ### Channels -/

theorem deliveredInto_publish (channel : Nat) (a : Audience) (s : Snapshot) :
    a.deliveredInto channel (.publish s) =
      List.replicate ((a.reachedBy s).countP fun sub => sub.channel == channel) s := by
  show (((a.reachedBy s).map fun sub => (sub, s)).filter fun e => e.1.channel == channel).map
    Prod.snd = _
  rw [List.filter_map, List.map_map, List.countP_eq_length_filter]
  exact List.map_const'

/-- Nothing is lost in a channel: what waits and what comes in is read or waits later, unless a
reader goes for whom something waits. -/
theorem perform_waiting {a : Audience} {call : Call} {channel : Nat}
    (h : call = .close channel → a.waiting channel = []) :
    a.waiting channel ++ a.deliveredInto channel call
      = a.readFrom channel call ++ (a.perform call).waiting channel := by
  have hquiet : (a.perform call).waiting channel = a.waiting channel →
      a.waiting channel ++ [] = [] ++ (a.perform call).waiting channel :=
    fun hsame => (List.append_nil _).trans hsame.symm
  cases call with
  | addChannel capacity => exact hquiet (addChannel_waiting a capacity channel)
  | attach task other =>
      refine hquiet ?_
      show (if other < a.channels.size then (a.attach task other).2 else a).waiting channel = _
      split <;> rfl
  | subscribe task => exact hquiet (addChannel_waiting a Channel.defaultCapacity channel)
  | unsubscribe id => exact hquiet rfl
  | publish s =>
      rw [deliveredInto_publish]
      show _ = (a.publish s).2.waiting channel
      unfold waiting
      rw [publish_get]
      cases hc : a.channels[channel]? with
      | some c => rfl
      | none =>
          -- nobody is reached through a channel that is not there
          have hnone : roomIn a.channels channel = 0 := by
            unfold roomIn
            rw [hc]
            rfl
          unfold reachedBy
          rw [countP_reached, hnone, Nat.min_zero]
          rfl
  | receive other limit =>
      show a.waiting channel ++ [] = (if other = channel then (a.receive other limit).1 else []) ++
        (a.receive other limit).2.waiting channel
      rw [List.append_nil]
      split
      · rename_i hother
        rw [hother, receive_waiting]
      · rename_i hother
        rw [List.nil_append, receive_others a limit (Ne.symm hother)]
  | close other =>
      refine hquiet ?_
      show (a.close other).waiting channel = a.waiting channel
      rw [close_waiting]
      split
      · rename_i hother
        exact (h (hother ▸ rfl)).symm
      · rfl

theorem stays_perform (channel : Nat) (a : Audience) (call : Call) :
    Stays channel a (a.perform call) := by
  cases call with
  | addChannel capacity => exact stays_addChannel channel a capacity
  | attach task other =>
      show Stays channel a (if other < a.channels.size then (a.attach task other).2 else a)
      split <;> exact stays_refl rfl
  | subscribe task => exact stays_addChannel channel a Channel.defaultCapacity
  | unsubscribe id => exact stays_refl rfl
  | publish s => exact stays_publish channel a s
  | receive other limit => exact stays_receive channel a other limit
  | close other => exact stays_close channel a other

/-- The channel is there, but its reader has gone. -/
def Gone (a : Audience) (channel : Nat) : Prop :=
  ∃ c, a.channels[channel]? = some c ∧ c.isOpen = false

theorem gone_perform {a : Audience} {channel : Nat} (h : a.Gone channel) (call : Call) :
    (a.perform call).Gone channel := by
  obtain ⟨c, hc, hclosed⟩ := h
  obtain ⟨c', hc', hsame⟩ := stays_perform channel a call c hc
  refine ⟨c', hc', ?_⟩
  cases hopen : c'.isOpen with
  | false => rfl
  | true => exact absurd (hsame hopen) (by simp [hclosed])

/-- A reader who has gone does not come back. -/
theorem gone_after {a : Audience} {channel : Nat} (h : a.Gone channel) (calls : List Call) :
    (a.after calls).Gone channel := by
  induction calls generalizing a with
  | nil => exact h
  | cons call calls ih => exact ih (gone_perform h call)

theorem gone_close {a : Audience} {channel : Nat} (h : a.waiting channel ≠ []) :
    (a.close channel).Gone channel := by
  cases hc : a.channels[channel]? with
  | none =>
      unfold waiting at h
      rw [hc] at h
      exact absurd rfl h
  | some c =>
      refine ⟨c.close, ?_, rfl⟩
      show (a.channels.modify channel Channel.close)[channel]? = _
      rw [Array.getElem?_modify, if_pos rfl, hc]
      rfl

theorem gone_deliveries {a : Audience} {channel : Nat} (h : a.Gone channel) (calls : List Call) :
    history (deliveredInto channel) a calls = [] := by
  induction calls generalizing a with
  | nil => rfl
  | cons call calls ih =>
      have hnone : a.deliveredInto channel call = [] := by
        cases call with
        | publish s =>
            obtain ⟨c, hc, hclosed⟩ := h
            rw [deliveredInto_publish]
            unfold reachedBy
            rw [countP_reached,
              roomIn_of_not_open ((isOpenIn_of_get hc).trans hclosed), Nat.min_zero]
            rfl
        | addChannel | attach | subscribe | unsubscribe | receive | close => rfl
      show a.deliveredInto channel call ++ _ = []
      rw [hnone]
      exact ih (gone_perform h call)

/-- **What is read is what came in**, from the first one on. -/
theorem read_prefix (a : Audience) (channel : Nat) (calls : List Call) :
    history (readFrom channel) a calls <+:
      a.waiting channel ++ history (deliveredInto channel) a calls := by
  induction calls generalizing a with
  | nil => exact List.nil_prefix
  | cons call calls ih =>
      show a.readFrom channel call ++ _ <+: a.waiting channel ++ (a.deliveredInto channel call ++ _)
      by_cases hclose : call = .close channel ∧ a.waiting channel ≠ []
      · -- nothing comes in any more, so nothing is read
        obtain ⟨rfl, hwaiting⟩ := hclose
        have hgone : (a.perform (.close channel)).Gone channel := gone_close hwaiting
        have hrest := ih (a.perform (.close channel))
        rw [gone_deliveries hgone] at hrest
        have hempty : (a.perform (.close channel)).waiting channel = [] :=
          (close_waiting a channel channel).trans (if_pos rfl)
        rw [hempty] at hrest
        rw [List.prefix_nil.mp hrest]
        exact List.nil_prefix
      · rw [← List.append_assoc, perform_waiting, List.append_assoc]
        · exact (List.prefix_append_right_inj _).mpr (ih _)
        · intro hcall
          by_contra hwaiting
          exact hclose ⟨hcall, hwaiting⟩

/-- **What came in and was not read waits**, as long as the reader is there. -/
theorem read_or_waiting {a : Audience} {channel : Nat} {calls : List Call}
    (hopen : (a.after calls).IsOpen channel) :
    a.waiting channel ++ history (deliveredInto channel) a calls
      = history (readFrom channel) a calls ++ (a.after calls).waiting channel := by
  induction calls generalizing a with
  | nil => exact List.append_nil _
  | cons call calls ih =>
      show a.waiting channel ++ (a.deliveredInto channel call ++ _)
        = (a.readFrom channel call ++ _) ++ ((a.perform call).after calls).waiting channel
      rw [← List.append_assoc, perform_waiting, List.append_assoc, List.append_assoc, ih hopen]
      rintro rfl
      by_contra hwaiting
      -- a reader who goes now would not be there in the end
      obtain ⟨c, hc, hclosed⟩ := gone_after (gone_close hwaiting) calls
      obtain ⟨c', hc', hopen'⟩ := hopen
      rw [show (a.after (.close channel :: calls)) = (a.close channel).after calls from rfl, hc]
        at hc'
      rw [← Option.some.inj hc', hclosed] at hopen'
      cases hopen'

/-! ### Subscriptions -/

/-- Whoever is on a list after a call was on it before, or has a number that is new. -/
theorem mem_perform {a : Audience} (h : a.WellKept) {call : Call} {task : String}
    {sub : Subscriber} (hsub : sub ∈ (a.perform call).subscribers task) :
    sub ∈ a.subscribers task ∨ a.nextId ≤ sub.id := by
  -- a subscriber with a channel of its own is attached to an audience with one channel more
  have hattach : ∀ {a' : Audience} {task' channel}, a'.tasks = a.tasks → a'.nextId = a.nextId →
      sub ∈ (a'.attach task' channel).2.subscribers task →
      sub ∈ a.subscribers task ∨ a.nextId ≤ sub.id := by
    intro a' task' channel htasks hnext hsub
    have hsame : ∀ t, a'.subscribers t = a.subscribers t := by
      intro t
      unfold subscribers
      rw [htasks]
    rw [subscribers_attach] at hsub
    split at hsub
    · rename_i htask
      rw [hsame, hnext] at hsub
      rcases List.mem_append.mp hsub with hold | hnew
      · exact Or.inl (htask ▸ hold)
      · rw [List.mem_singleton.mp hnew]
        exact Or.inr (Nat.le_refl _)
    · exact Or.inl (hsame task ▸ hsub)
  cases call with
  | addChannel capacity => exact Or.inl hsub
  | attach task' channel =>
      change sub ∈ (if channel < a.channels.size then (a.attach task' channel).2
        else a).subscribers task at hsub
      split at hsub
      · exact hattach rfl rfl hsub
      · exact Or.inl hsub
  | subscribe task' =>
      have hsub' : sub ∈ ((a.addChannel Channel.defaultCapacity).2.attach task'
        a.channels.size).2.subscribers task := hsub
      exact hattach rfl rfl hsub'
  | unsubscribe id =>
      have hsub' : sub ∈ (a.unsubscribe id).subscribers task := hsub
      rw [subscribers_unsubscribe h.distinct] at hsub'
      exact Or.inl (List.mem_filter.mp hsub').1
  | publish s =>
      have hsub' : sub ∈ (a.publish s).2.subscribers task := hsub
      rw [publish_subscribers] at hsub'
      split at hsub'
      · exact Or.inl (List.mem_filter.mp hsub').1
      · exact Or.inl hsub'
  | receive channel limit =>
      have htasks := (receive_books a channel limit).1
      have hsub' : sub ∈ (a.receive channel limit).2.subscribers task := hsub
      unfold subscribers at hsub' ⊢
      exact Or.inl (htasks ▸ hsub')
  | close channel => exact Or.inl hsub

theorem nextId_perform (a : Audience) (call : Call) : a.nextId ≤ (a.perform call).nextId := by
  cases call with
  | attach task channel =>
      show a.nextId ≤ (if channel < a.channels.size then (a.attach task channel).2 else a).nextId
      split
      · exact Nat.le_succ _
      · exact Nat.le_refl _
  | subscribe task => exact Nat.le_succ _
  | receive channel limit => exact Nat.le_of_eq (receive_books a channel limit).2.symm
  | addChannel | unsubscribe | publish | close => exact Nat.le_refl _

/-- A number that has been given out stands for this subscription of this task and for nothing
else. -/
structure Stands (a : Audience) (task : String) (sub : Subscriber) : Prop where
  given : sub.id < a.nextId
  only : ∀ task' sub', sub' ∈ a.subscribers task' → sub'.id = sub.id → task' = task ∧ sub' = sub

theorem stands_perform {a : Audience} (h : a.WellKept) {task : String} {sub : Subscriber}
    (hstands : a.Stands task sub) (call : Call) : (a.perform call).Stands task sub where
  given := Nat.lt_of_lt_of_le hstands.given (nextId_perform a call)
  only task' sub' hsub' hid := by
    rcases mem_perform h hsub' with hold | hnew
    · exact hstands.only task' sub' hold hid
    · have hlt := hstands.given
      omega

theorem dueTo_publish {a : Audience} {task : String} {sub : Subscriber}
    (hstands : a.Stands task sub) (s : Snapshot) :
    a.dueTo sub.id (.publish s) = if s.task = task ∧ sub ∈ a.subscribers task then [s] else [] := by
  show (if sub.id ∈ (a.subscribers s.task).map Subscriber.id then [s] else []) = _
  have hiff : sub.id ∈ (a.subscribers s.task).map Subscriber.id ↔
      s.task = task ∧ sub ∈ a.subscribers task := by
    rw [List.mem_map]
    constructor
    · rintro ⟨sub', hsub', hid⟩
      obtain ⟨htask, rfl⟩ := hstands.only s.task sub' hsub' hid
      exact ⟨htask, htask ▸ hsub'⟩
    · rintro ⟨htask, hsub⟩
      exact ⟨sub, htask ▸ hsub, rfl⟩
  rw [if_congr hiff rfl rfl]

/-- Who is off the list stays off it. -/
theorem dueTo_off {a : Audience} (h : a.WellKept) {task : String} {sub : Subscriber}
    (hstands : a.Stands task sub) (hoff : sub ∉ a.subscribers task) (calls : List Call) :
    history (dueTo sub.id) a calls = [] ∧ sub ∉ (a.after calls).subscribers task := by
  induction calls generalizing a with
  | nil => exact ⟨rfl, hoff⟩
  | cons call calls ih =>
      have hoff' : sub ∉ (a.perform call).subscribers task := by
        intro hsub
        rcases mem_perform h hsub with hold | hnew
        · exact hoff hold
        · have hlt := hstands.given
          omega
      obtain ⟨hrest, hlast⟩ :=
        ih (wellKept_perform h call) (stands_perform h hstands call) hoff'
      refine ⟨?_, hlast⟩
      show a.dueTo sub.id call ++ _ = []
      rw [hrest, List.append_nil]
      cases call with
      | publish s => rw [dueTo_publish hstands, if_neg fun hboth => hoff hboth.2]
      | addChannel | attach | subscribe | unsubscribe | receive | close => rfl

/-- **What is due to a subscription is all that is sent for its task**, as long as it stands. -/
theorem due_prefix {a : Audience} (h : a.WellKept) {task : String} {sub : Subscriber}
    (hstands : a.Stands task sub) (calls : List Call) :
    history (dueTo sub.id) a calls <+: history (sentFor task) a calls ∧
    (sub ∈ (a.after calls).subscribers task →
      history (dueTo sub.id) a calls = history (sentFor task) a calls) := by
  induction calls generalizing a with
  | nil => exact ⟨List.prefix_refl _, fun _ => rfl⟩
  | cons call calls ih =>
      by_cases hon : sub ∈ a.subscribers task
      · have hsame : a.dueTo sub.id call = a.sentFor task call := by
          cases call with
          | publish s =>
              rw [dueTo_publish hstands]
              show _ = if s.task = task then [s] else []
              rw [if_congr (and_iff_left hon) rfl rfl]
          | addChannel | attach | subscribe | unsubscribe | receive | close => rfl
        obtain ⟨hsent, hall⟩ := ih (wellKept_perform h call) (stands_perform h hstands call)
        refine ⟨?_, fun hlast => ?_⟩
        · show a.dueTo sub.id call ++ _ <+: a.sentFor task call ++ _
          rw [hsame]
          exact (List.prefix_append_right_inj _).mpr hsent
        · show a.dueTo sub.id call ++ _ = a.sentFor task call ++ _
          rw [hsame, hall hlast]
      · obtain ⟨hnone, hlast⟩ := dueTo_off h hstands hon (call :: calls)
        rw [hnone]
        exact ⟨List.nil_prefix, fun hon' => absurd hon' hlast⟩

/-- A snapshot reaches a subscription once or not at all. -/
theorem deliveredTo_publish {a : Audience} (h : a.WellKept) (sub : Subscriber) (s : Snapshot) :
    a.deliveredTo sub (.publish s) = if sub ∈ a.reachedBy s then [s] else [] := by
  have hnodup : (a.reachedBy s).Nodup :=
    (reached_sublist _ _).nodup (List.Nodup.of_map _ (h.once s.task))
  show (((a.reachedBy s).map fun sub => (sub, s)).filter fun e => e.1 == sub).map Prod.snd = _
  rw [List.filter_map, List.map_map]
  show ((a.reachedBy s).filter fun sub' => sub' == sub).map (fun _ => s) = _
  rw [List.filter_beq, List.map_replicate, List.Nodup.count hnodup]
  split <;> rfl

/-- **What reaches a subscription is part of what is due to it**, in the same order. -/
theorem delivered_sublist {a : Audience} (h : a.WellKept) {task : String} {sub : Subscriber}
    (hstands : a.Stands task sub) (calls : List Call) :
    (history (deliveredTo sub) a calls).Sublist (history (dueTo sub.id) a calls) := by
  induction calls generalizing a with
  | nil => exact List.Sublist.refl _
  | cons call calls ih =>
      refine List.Sublist.append ?_ (ih (wellKept_perform h call) (stands_perform h hstands call))
      cases call with
      | publish s =>
          rw [deliveredTo_publish h]
          split
          · rename_i hreached
            have hsub := (reached_sublist _ _).mem hreached
            show [s].Sublist (if sub.id ∈ (a.subscribers s.task).map Subscriber.id then [s] else [])
            rw [if_pos (List.mem_map_of_mem hsub)]
          · exact List.nil_sublist _
      | addChannel | attach | subscribe | unsubscribe | receive | close => exact List.nil_sublist _

/-- If there is room in its channel after the sending, a subscription of the task was reached. -/
theorem reached_of_room {a : Audience} {s : Snapshot} {sub : Subscriber}
    (hsub : sub ∈ a.subscribers s.task) (hroom : (a.publish s).2.HasRoom sub.channel) :
    sub ∈ a.reachedBy s := by
  obtain ⟨c', hc', hopen, hfull⟩ := hroom
  rw [publish_get] at hc'
  obtain ⟨c, hc, rfl⟩ := Option.map_eq_some_iff.mp hc'
  have hleft := Channel.room_pos_iff.mpr ⟨hopen, hfull⟩
  rw [Channel.room_holding] at hleft
  have hroom : (reached (a.subscribers s.task) (roomIn a.channels)).countP
      (fun sub' => sub'.channel == sub.channel) < roomIn a.channels sub.channel := by
    rw [roomIn_of_get hc]
    exact Nat.lt_of_sub_pos hleft
  -- there was more room than takers, so all who share the channel were reached
  have hall := reached_all hroom
  have hmem : sub ∈ (a.subscribers s.task).filter fun sub' => sub'.channel == sub.channel :=
    List.mem_filter.mpr ⟨hsub, beq_self_eq_true _⟩
  rw [← hall] at hmem
  exact (List.mem_filter.mp hmem).1

/-- **Where there is always room, all that is due arrives.** -/
theorem delivered_all {a : Audience} (h : a.WellKept) {task : String} {sub : Subscriber}
    (hstands : a.Stands task sub) {calls : List Call}
    (hroom : ∀ n ≤ calls.length, (a.after (calls.take n)).HasRoom sub.channel) :
    history (deliveredTo sub) a calls = history (dueTo sub.id) a calls := by
  induction calls generalizing a with
  | nil => rfl
  | cons call calls ih =>
      have hrest := ih (wellKept_perform h call) (stands_perform h hstands call)
        fun n hn => hroom (n + 1) (Nat.succ_le_succ hn)
      have hone : a.deliveredTo sub call = a.dueTo sub.id call := by
        cases call with
        | publish s =>
            rw [deliveredTo_publish h, dueTo_publish hstands]
            refine if_congr ⟨fun hreached => ?_, fun ⟨htask, hsub⟩ => ?_⟩ rfl rfl
            · have hsub := (reached_sublist _ _).mem hreached
              have htask := (hstands.only s.task sub hsub rfl).1
              exact ⟨htask, htask ▸ hsub⟩
            · exact reached_of_room (htask ▸ hsub) (hroom 1 (Nat.succ_le_succ (Nat.zero_le _)))
        | addChannel | attach | subscribe | unsubscribe | receive | close => rfl
      show a.deliveredTo sub call ++ _ = a.dueTo sub.id call ++ _
      rw [hone, hrest]

theorem history_part {β γ : Type} (see : Audience → Call → List β) (p : β → Bool) (f : β → γ)
    (a : Audience) (calls : List Call) :
    history (fun a call => ((see a call).filter p).map f) a calls
      = ((history see a calls).filter p).map f := by
  induction calls generalizing a with
  | nil => rfl
  | cons call calls ih =>
      show ((see a call).filter p).map f ++ _ = ((see a call ++ _).filter p).map f
      rw [ih, List.filter_append, List.map_append]

/-- A channel of one's own has what one is sent, and no more. -/
theorem deliveredInto_own {a : Audience} {sub : Subscriber} {calls : List Call}
    (hown : ∀ e ∈ history deliveries a calls, e.1.channel = sub.channel → e.1 = sub) :
    history (deliveredInto sub.channel) a calls = history (deliveredTo sub) a calls := by
  have hinto := history_part deliveries (fun e => e.1.channel == sub.channel) Prod.snd a calls
  have hto := history_part deliveries (fun e => e.1 == sub) Prod.snd a calls
  refine hinto.trans (Eq.trans ?_ hto.symm)
  refine congrArg (List.map Prod.snd) (List.filter_congr fun e he => ?_)
  rw [Bool.eq_iff_iff, beq_iff_eq, beq_iff_eq]
  exact ⟨hown e he, fun heq => heq ▸ rfl⟩

/-! ## What the books say -/

/-- What sending a snapshot does, with the number that comes back. -/
structure Sends (a : Audience) (s : Snapshot) (n : Nat) (a' : Audience) : Prop where
  counted : n = (a.reachedBy s).length
  /-- Of the task's subscribers those stay whose reader is there; the other lists stay. -/
  kept : ∀ task, a'.subscribers task = if task = s.task
    then (a.subscribers task).filter fun sub => isOpenIn a.channels sub.channel
    else a.subscribers task
  /-- A channel has the snapshot once more for each subscriber that it reached through it. -/
  received : ∀ channel : Nat, a'.channels[channel]? = a.channels[channel]?.map fun c =>
    c.holding ((a.reachedBy s).countP fun sub => sub.channel == channel) s
  among : (a.reachedBy s).Sublist (a.subscribers s.task)
  /-- Those who share a channel take what room it has. -/
  shared : ∀ channel, (a.reachedBy s).countP (fun sub => sub.channel == channel)
    = min (a.ties s.task channel) (roomIn a.channels channel)
  /-- If no two share one, those are reached who have an open channel that is not full. -/
  single : ((a.subscribers s.task).map Subscriber.channel).Nodup →
    ∀ sub ∈ a.subscribers s.task, sub ∈ a.reachedBy s ↔ a.HasRoom sub.channel

theorem roomIn_pos_iff {a : Audience} {channel : Nat} :
    0 < roomIn a.channels channel ↔ a.HasRoom channel := by
  constructor
  · intro hroom
    cases hc : a.channels[channel]? with
    | none =>
        unfold roomIn at hroom
        rw [hc] at hroom
        exact absurd hroom (by simp)
    | some c =>
        rw [roomIn_of_get hc] at hroom
        exact ⟨c, hc, Channel.room_pos_iff.mp hroom⟩
  · rintro ⟨c, hc, hroom⟩
    rw [roomIn_of_get hc]
    exact Channel.room_pos_iff.mpr hroom

instance (a : Audience) (channel : Nat) : Decidable (a.HasRoom channel) :=
  decidable_of_iff _ roomIn_pos_iff

theorem publish_sends (a : Audience) (s : Snapshot) : a.Sends s (a.publish s).1 (a.publish s).2 where
  counted := publish_count a s
  kept := publish_subscribers a s
  received := publish_get a s
  among := reached_sublist _ _
  shared := countP_reached _ _
  single hnodup sub hsub := by
    unfold reachedBy
    rw [reached_apart _ hnodup, List.mem_filter, decide_eq_true_eq, roomIn_pos_iff]
    exact and_iff_right hsub

/-- What a subscription of a task comes to, whatever the audience is called for. -/
structure Serves (a : Audience) (task : String) (sub : Subscriber) (calls : List Call) : Prop where
  /-- As long as it stands, all that is sent for the task is due to it, and then nothing. -/
  due : history (dueTo sub.id) a calls <+: history (sentFor task) a calls
  dueAll : sub ∈ (a.after calls).subscribers task →
    history (dueTo sub.id) a calls = history (sentFor task) a calls
  delivered : (history (deliveredTo sub) a calls).Sublist (history (dueTo sub.id) a calls)
  deliveredAll : (∀ n ≤ calls.length, (a.after (calls.take n)).HasRoom sub.channel) →
    history (deliveredTo sub) a calls = history (dueTo sub.id) a calls
  /-- What is read is what came into the channel, from the first one on. -/
  read : history (readFrom sub.channel) a calls <+:
    a.waiting sub.channel ++ history (deliveredInto sub.channel) a calls
  readAll : (a.after calls).IsOpen sub.channel →
    a.waiting sub.channel ++ history (deliveredInto sub.channel) a calls
      = history (readFrom sub.channel) a calls ++ (a.after calls).waiting sub.channel
  own : (∀ e ∈ history deliveries a calls, e.1.channel = sub.channel → e.1 = sub) →
    history (deliveredInto sub.channel) a calls = history (deliveredTo sub) a calls

/-- A new subscription has a number of its own. -/
theorem stands_attach {a : Audience} (h : a.WellKept) (task : String) (channel : Nat) :
    (a.attach task channel).2.Stands task ⟨a.nextId, channel⟩ where
  given := Nat.lt_succ_self _
  only task' sub' hsub' hid := by
    have hself : (⟨a.nextId, channel⟩ : Subscriber) ∈ (a.attach task channel).2.subscribers task := by
      rw [subscribers_attach, if_pos rfl]
      exact List.mem_append_right _ (List.mem_singleton.mpr rfl)
    have hkept := wellKept_attach h task channel
    exact ⟨hkept.apart task' task sub' _ hsub' hself hid, hkept.unique hsub' hself hid⟩

/--
**An audience keeps its books.**

Whatever it has been called for, no task has an empty list, and each subscription stands on one list
once. Ending a subscription takes it off its list and does nothing else. Sending a snapshot reaches,
one after the other, the subscribers of its task whose channel is open and has room, says how many,
takes off the list those whose reader has gone, and lets all others be. And a subscription that is
made now is sent, whatever comes later, a part of what is sent for its task as long as it stands, in
the same order and nothing twice; all of it, if its channel has room all the time. This comes into
its channel, and what is read from there is what came in.
-/
theorem books_kept (before : List Call) :
    (empty.after before).WellKept ∧
    (∀ id, (∀ task, ((empty.after before).unsubscribe id).subscribers task
        = ((empty.after before).subscribers task).filter fun sub => sub.id != id) ∧
      ((empty.after before).unsubscribe id).channels = (empty.after before).channels) ∧
    (∀ s, (empty.after before).Sends s ((empty.after before).publish s).1
      ((empty.after before).publish s).2) ∧
    ∀ task channel, channel < (empty.after before).channels.size → ∀ later,
      ((empty.after before).attach task channel).2.Serves task
        ⟨(empty.after before).nextId, channel⟩ later := by
  have hkept := wellKept_after wellKept_empty before
  refine ⟨hkept, fun id => ⟨subscribers_unsubscribe hkept.distinct id, rfl⟩,
    publish_sends _, fun task channel _ later => ?_⟩
  have hkept' := wellKept_attach hkept task channel
  have hstands := stands_attach hkept task channel
  obtain ⟨hdue, hdueAll⟩ := due_prefix hkept' hstands later
  exact {
    due := hdue
    dueAll := hdueAll
    delivered := delivered_sublist hkept' hstands later
    deliveredAll := delivered_all hkept' hstands
    read := read_prefix _ channel later
    readAll := read_or_waiting
    own := deliveredInto_own }

/-- Somebody follows the first of two tasks. -/
def soloBefore : List Call :=
  [.addChannel 3, .addChannel 3, .attach "roads" 0]

/-- Both tasks make progress, and the second channel is read. -/
def soloLater : List Call :=
  [.publish (.of "roads" 1 4 true), .publish (.of "lakes" 1 2 true),
    .publish (.of "lakes" 2 2 false), .receive 1 8]

/-- One who follows the second of them by the other channel reads what is sent for it. -/
theorem solo_books_kept :
    history (readFrom 1) ((empty.after soloBefore).attach "lakes" 1).2 soloLater
      = history (sentFor "lakes") ((empty.after soloBefore).attach "lakes" 1).2 soloLater := by
  have hserves := (books_kept soloBefore).2.2.2 "lakes" 1 (by decide +kernel) soloLater
  have hdeliveries : history deliveries ((empty.after soloBefore).attach "lakes" 1).2 soloLater
      = [(⟨0, 0⟩, .of "roads" 1 4 true), (⟨1, 1⟩, .of "lakes" 1 2 true),
        (⟨1, 1⟩, .of "lakes" 2 2 false)] := rfl
  have hown := hserves.own (by
    intro e he
    rw [hdeliveries] at he
    simp only [List.mem_cons, List.not_mem_nil, or_false] at he
    rcases he with rfl | rfl | rfl <;> decide +kernel)
  have hread := hserves.readAll ⟨_, rfl, rfl⟩
  have hnone : (((empty.after soloBefore).attach "lakes" 1).2.after soloLater).waiting 1 = [] := rfl
  calc history (readFrom 1) ((empty.after soloBefore).attach "lakes" 1).2 soloLater
      = [] ++ history (deliveredInto 1) ((empty.after soloBefore).attach "lakes" 1).2 soloLater := by
        rw [← List.append_nil (history (readFrom 1) _ _), ← hnone]
        exact hread.symm
    _ = history (dueTo 1) ((empty.after soloBefore).attach "lakes" 1).2 soloLater :=
        hown.trans (hserves.deliveredAll (by decide +kernel))
    _ = _ := hserves.dueAll (by decide +kernel)

end Audience

end TileDepot.Warming
