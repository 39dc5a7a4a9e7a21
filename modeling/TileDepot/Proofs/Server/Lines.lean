import TileDepot.Proofs.Warming.Holdings
import TileDepot.Server.ProgressLink

/-!
# Progress connections at work

A connection at work is a `Line`: its link, what it is about to do, and a log of what it heard and
sent. An `Act` is one thing that it does at the desk; between two of them anything may happen
elsewhere. Joining ties the channel before the progress is looked up, which is before the snapshot is
sent. A connection ends when the client closes it, when it breaks, or when nothing can be sent; then
its subscriptions are ended one after the other, and last of all its channel.

As long as it runs, a line has one subscription for each task that it follows by its log, and no
other (`holds_act`). It gives one answer to each frame that asks for one, at once (`prompt_act`). What
the link does with a frame in one go is a series of such acts (`receive_series`).
-/

namespace TileDepot.Server

open Warming (Audience Desk Snapshot Subscriber)

/-! ## Frames -/

/-- The event that is acted on: it can be read, and it names a task. -/
def Frame.event? : Frame → Option ClientEvent
  | .text s => (ClientEvent.ofText? s).filter fun e => !e.task.isEmpty
  | .other => none
  | .close => none

/-- The task whose progress the client is to be told. -/
def Frame.asked? (f : Frame) : Option String :=
  f.event?.bind fun e => if e.wish = .leave then none else some e.task

/-- The client has joined the task, and has not left it since. -/
def Follows (frames : List Frame) (task : String) : Prop :=
  ∃ before f after, frames = before ++ f :: after ∧ f.event? = some ⟨.join, task⟩ ∧
    ∀ g ∈ after, g.event? ≠ some ⟨.leave, task⟩

/-- The last item of a list is the one that was split off, or it comes after this one. -/
theorem concat_eq_split {α : Type} {xs before after : List α} {last x : α} :
    xs ++ [last] = before ++ x :: after ↔
      after = [] ∧ xs = before ∧ last = x ∨
        ∃ after', after = after' ++ [last] ∧ xs = before ++ x :: after' := by
  constructor
  · intro heq
    rcases List.eq_nil_or_concat after with rfl | ⟨after', y, rfl⟩
    · obtain ⟨hxs, hlast⟩ := List.append_inj' heq rfl
      exact Or.inl ⟨rfl, hxs, List.singleton_inj.mp hlast⟩
    · have hends : xs ++ [last] = (before ++ x :: after') ++ [y] := by simpa using heq
      obtain ⟨hxs, hlast⟩ := List.append_inj' hends rfl
      cases hlast
      exact Or.inr ⟨after', List.concat_eq_append, hxs⟩
  · rintro (⟨rfl, rfl, rfl⟩ | ⟨after', rfl, rfl⟩)
    · rfl
    · rw [← List.cons_append, List.append_assoc]

theorem follows_nil (task : String) : ¬ Follows [] task := by
  rintro ⟨before, f, after, heq, _⟩
  exact absurd heq (by simp)

/-- Whether a task is followed changes by joining and leaving it only. -/
theorem follows_concat {frames : List Frame} {f : Frame} {task : String} :
    Follows (frames ++ [f]) task ↔
      f.event? = some ⟨.join, task⟩ ∨ Follows frames task ∧ f.event? ≠ some ⟨.leave, task⟩ := by
  constructor
  · rintro ⟨before, g, after, heq, hjoin, hstays⟩
    rcases concat_eq_split.mp heq with ⟨_, _, rfl⟩ | ⟨after', rfl, rfl⟩
    · exact Or.inl hjoin
    · obtain ⟨hstays, hlast⟩ := List.forall_mem_append.mp hstays
      exact Or.inr ⟨⟨before, g, after', rfl, hjoin, hstays⟩, hlast f List.mem_cons_self⟩
  · rintro (hjoin | ⟨⟨before, g, after, rfl, hjoin, hstays⟩, hlast⟩)
    · exact ⟨frames, f, [], rfl, hjoin, by simp⟩
    · refine ⟨before, g, after ++ [f], by simp, hjoin, List.forall_mem_append.mpr ⟨hstays, ?_⟩⟩
      intro g' hg'
      rw [List.mem_singleton.mp hg']
      exact hlast

namespace ProgressLink

/-! ## Joining and leaving -/

theorem join_known {l : ProgressLink} {task : String} (h : (l.joined.lookup task).isSome = true)
    (d : Desk) : l.join task d = (l, d) :=
  if_pos h

theorem join_new {l : ProgressLink} {task : String} (h : l.joined.lookup task = none) (d : Desk) :
    l.join task d = ({ l with joined := (task, d.audience.nextId) :: l.joined },
      { d with audience := (d.audience.attach task l.channel).2 }) :=
  if_neg (by simp [h])

theorem leave_unknown {l : ProgressLink} {task : String} (h : l.joined.lookup task = none)
    (d : Desk) : l.leave task d = (l, d) := by
  unfold leave
  rw [h]

theorem leave_known {l : ProgressLink} {task : String} {id : Nat}
    (h : l.joined.lookup task = some id) (d : Desk) :
    l.leave task d = ({ l with joined := l.joined.filter fun e => e.1 != task },
      { d with audience := d.audience.unsubscribe id }) := by
  unfold leave
  rw [h]

theorem join_channel (l : ProgressLink) (task : String) (d : Desk) :
    (l.join task d).1.channel = l.channel ∧ (l.join task d).1.isOpen = l.isOpen := by
  unfold join
  split <;> exact ⟨rfl, rfl⟩

theorem leave_channel (l : ProgressLink) (task : String) (d : Desk) :
    (l.leave task d).1.channel = l.channel ∧ (l.leave task d).1.isOpen = l.isOpen := by
  unfold leave
  split <;> exact ⟨rfl, rfl⟩

theorem join_channels (l : ProgressLink) (task : String) (d : Desk) :
    (l.join task d).2.audience.channels = d.audience.channels := by
  unfold join
  split <;> rfl

theorem leave_channels (l : ProgressLink) (task : String) (d : Desk) :
    (l.leave task d).2.audience.channels = d.audience.channels := by
  unfold leave
  split <;> rfl

theorem join_lookup (l : ProgressLink) (task : String) (d : Desk) (task' : String) :
    ((l.join task d).1.joined.lookup task').isSome = true ↔
      task' = task ∨ (l.joined.lookup task').isSome = true := by
  cases hlookup : l.joined.lookup task with
  | some number =>
      have hknown : (l.joined.lookup task).isSome = true := by rw [hlookup]; rfl
      rw [join_known hknown]
      exact ⟨Or.inr, fun h => h.elim (fun heq => heq ▸ hknown) id⟩
  | none =>
      rw [join_new hlookup, lookup_front]
      split
      · rename_i htask
        exact iff_of_true rfl (Or.inl htask)
      · rename_i htask
        exact ⟨Or.inr, fun h => h.elim (fun heq => absurd heq htask) id⟩

theorem leave_lookup (l : ProgressLink) (task : String) (d : Desk) (task' : String) :
    (l.leave task d).1.joined.lookup task'
      = if task' = task then none else l.joined.lookup task' := by
  cases hlookup : l.joined.lookup task with
  | some id =>
      rw [leave_known hlookup]
      exact lookup_filter l.joined task task'
  | none =>
      rw [leave_unknown hlookup]
      split
      · rename_i htask
        rw [htask]
        exact hlookup
      · rfl

/-! ## What a link holds -/

/-- The channel holds one subscription for each task that the link has joined, and nothing else. -/
structure Keeps (l : ProgressLink) (a : Audience) : Prop where
  there : l.channel < a.channels.size
  distinct : (l.joined.map Prod.fst).Nodup
  held : ∀ task, a.held l.channel task
    = ((l.joined.lookup task).map fun id => (⟨id, l.channel⟩ : Subscriber)).toList

theorem Keeps.listed {l : ProgressLink} {a : Audience} (h : l.Keeps a) {task : String} {id : Nat}
    (hlookup : l.joined.lookup task = some id) :
    (⟨id, l.channel⟩ : Subscriber) ∈ a.subscribers task := by
  have hheld : (⟨id, l.channel⟩ : Subscriber) ∈ a.held l.channel task := by
    rw [h.held, hlookup]
    exact List.mem_singleton.mpr rfl
  exact (Audience.mem_held.mp hheld).1

theorem keeps_join {l : ProgressLink} {d : Desk} (h : l.Keeps d.audience) (task : String) :
    (l.join task d).1.Keeps (l.join task d).2.audience := by
  cases hlookup : l.joined.lookup task with
  | some id =>
      rw [join_known (by rw [hlookup]; rfl)]
      exact h
  | none =>
      rw [join_new hlookup]
      refine ⟨h.there, List.nodup_cons.mpr ⟨fun hin => ?_, h.distinct⟩, fun task' => ?_⟩
      · obtain ⟨e, he, htask⟩ := List.mem_map.mp hin
        have hfound := lookup_of_mem h.distinct he
        rw [htask, hlookup] at hfound
        cases hfound
      · dsimp only
        rw [Audience.held_attach, h.held, lookup_front]
        by_cases htask : task' = task
        · rw [if_pos ⟨htask, rfl⟩, if_pos htask, htask, hlookup]
          rfl
        · rw [if_neg fun hboth => htask hboth.1, if_neg htask]

theorem keeps_leave {l : ProgressLink} {d : Desk} (h : l.Keeps d.audience)
    (hbooks : d.audience.WellKept) (task : String) :
    (l.leave task d).1.Keeps (l.leave task d).2.audience := by
  have hlookups := leave_lookup l task d
  cases hlookup : l.joined.lookup task with
  | none =>
      rw [leave_unknown hlookup]
      exact h
  | some id =>
      rw [leave_known hlookup] at hlookups ⊢
      refine ⟨h.there, (List.filter_sublist.map _).nodup h.distinct, fun task' => ?_⟩
      dsimp only at hlookups ⊢
      rw [Audience.held_unsubscribe hbooks.distinct, h.held, hlookups]
      by_cases htask : task' = task
      · rw [if_pos htask, htask, hlookup]
        simp
      · rw [if_neg htask, List.filter_eq_self]
        intro sub hsub
        rw [← h.held] at hsub
        have hlisted := (Audience.mem_held.mp hsub).1
        rw [bne_iff_ne]
        exact fun hid => htask (hbooks.apart task' task sub _ hlisted (h.listed hlookup) hid)

/-- What a link does leaves the desk as it is, but for the audience, and there it is about its own
channel. -/
structure Minds (own : Nat) (d d' : Desk) : Prop where
  desk : d' = { d with audience := d'.audience }
  books : d'.audience.WellKept
  spares : Audience.Spares own d.audience d'.audience

theorem minds_refl {d : Desk} (h : d.audience.WellKept) (own : Nat) : Minds own d d :=
  ⟨rfl, h, Audience.spares_refl own d.audience⟩

theorem minds_join (l : ProgressLink) {d : Desk} (h : d.audience.WellKept) (task : String) :
    Minds l.channel d (l.join task d).2 := by
  cases hlookup : l.joined.lookup task with
  | some id =>
      rw [join_known (by rw [hlookup]; rfl)]
      exact minds_refl h _
  | none =>
      rw [join_new hlookup]
      exact ⟨rfl, Audience.wellKept_attach h task _, Audience.spares_attach _ task _⟩

theorem minds_leave {l : ProgressLink} {d : Desk} (hkeeps : l.Keeps d.audience)
    (h : d.audience.WellKept) (task : String) : Minds l.channel d (l.leave task d).2 := by
  cases hlookup : l.joined.lookup task with
  | none =>
      rw [leave_unknown hlookup]
      exact minds_refl h _
  | some id =>
      rw [leave_known hlookup]
      exact ⟨rfl, Audience.wellKept_unsubscribe h id,
        Audience.spares_unsubscribe h (hkeeps.listed hlookup)⟩

/-- A frame without an event that can be acted on is not answered. -/
theorem receive_ignored {f : Frame} (hevent : f.event? = none) (hclose : f ≠ .close)
    (l : ProgressLink) (d : Desk) : l.receive f d = (none, l, d) := by
  unfold receive
  split
  · rfl
  · cases f with
    | close => exact absurd rfl hclose
    | other => rfl
    | text s =>
        dsimp only
        cases he : ClientEvent.ofText? s with
        | none => rfl
        | some e =>
            have hnone : (ClientEvent.ofText? s).filter (fun e => !e.task.isEmpty) = none := hevent
            rw [he, Option.filter_some] at hnone
            cases hempty : e.task.isEmpty with
            | true => exact if_pos hempty
            | false =>
                rw [hempty] at hnone
                cases hnone

theorem receive_event {l : ProgressLink} (hopen : l.isOpen = true) {f : Frame} {e : ClientEvent}
    (hevent : f.event? = some e) (d : Desk) :
    l.receive f d = l.handle e d ∧ e.task.isEmpty = false := by
  cases f with
  | other | close => cases hevent
  | text s =>
      obtain ⟨hread, hname⟩ := Option.filter_eq_some_iff.mp hevent
      unfold receive
      rw [hopen]
      dsimp only
      rw [hread]
      exact ⟨rfl, by simpa using hname⟩

theorem minds_relay (l : ProgressLink) {d : Desk} (h : d.audience.WellKept) :
    Minds l.channel d (l.relay d).2 :=
  ⟨rfl, Audience.wellKept_perform h (.receive l.channel 1),
    Audience.spares_receive d.audience l.channel 1⟩

end ProgressLink

/-! ## Lines -/

/-- What a connection is about to do. -/
inductive Stage where
  /-- It waits for a frame or for something in its channel. -/
  | listening
  /-- It has heard a frame that asks for the progress of a task. -/
  | answering (task : String)
  /-- A snapshot is on its way to the client. -/
  | sending
  /-- It has ended, and lets go of what it follows. -/
  | parting
  | gone
  deriving DecidableEq

def Stage.isRunning : Stage → Bool
  | .listening => true
  | .answering _ => true
  | .sending => true
  | .parting => false
  | .gone => false

/-- What is put on record of a connection. -/
inductive Entry where
  | heard (f : Frame)
  /-- A snapshot that was asked for is sent. -/
  | answer (s : Snapshot)
  /-- A snapshot that came through the channel is sent. -/
  | update (s : Snapshot)

def Entry.frame? : Entry → Option Frame
  | .heard f => some f
  | .answer _ => none
  | .update _ => none

/-- A connection at work, with a log of what it heard and sent. -/
structure Line where
  link : ProgressLink
  stage : Stage
  log : List Entry

namespace Line

def frames (l : Line) : List Frame :=
  l.log.filterMap Entry.frame?

def note (l : Line) (e : Entry) : Line :=
  { l with log := l.log ++ [e] }

/-- One thing that a connection does at the desk. -/
inductive Act (d : Desk) (l : Line) : Desk → Line → Prop where
  | ignore {f : Frame} : l.stage = .listening → f.event? = none → f ≠ .close →
      Act d l d (l.note (.heard f))
  | hangUp : l.stage = .listening → Act d l d { l.note (.heard .close) with stage := .parting }
  | join {f : Frame} {task : String} : l.stage = .listening → f.event? = some ⟨.join, task⟩ →
      Act d l (l.link.join task d).2
        { l.note (.heard f) with link := (l.link.join task d).1, stage := .answering task }
  | ask {f : Frame} {task : String} : l.stage = .listening →
      f.event? = some ⟨.getProgress, task⟩ →
      Act d l d { l.note (.heard f) with stage := .answering task }
  | leave {f : Frame} {task : String} : l.stage = .listening → f.event? = some ⟨.leave, task⟩ →
      Act d l (l.link.leave task d).2 { l.note (.heard f) with link := (l.link.leave task d).1 }
  | answer {task : String} : l.stage = .answering task →
      Act d l d { l.note (.answer (d.progress task)) with stage := .sending }
  | relay {s : Snapshot} : l.stage = .listening → (l.link.relay d).1 = some s →
      Act d l (l.link.relay d).2 { l.note (.update s) with stage := .sending }
  | sent : l.stage = .sending → Act d l d { l with stage := .listening }
  | fail : l.stage = .sending → Act d l d { l with stage := .parting }
  | letGo {task : String} : l.stage = .parting → (l.link.joined.lookup task).isSome = true →
      Act d l (l.link.leave task d).2 { l with link := (l.link.leave task d).1 }
  | finish : l.stage = .parting → l.link.joined = [] →
      Act d l { d with audience := d.audience.close l.link.channel }
        { l with link := { l.link with isOpen := false }, stage := .gone }

/-! ## What a line holds -/

/-- The channel holds what the link says. As long as the line runs, this is what the client has
joined and not left; in the end it is nothing. -/
structure Holds (l : Line) (a : Audience) : Prop where
  keeps : l.link.Keeps a
  reader : l.stage ≠ .gone →
    Audience.isOpenIn a.channels l.link.channel = true ∧ l.link.isOpen = true
  follows : l.stage.isRunning = true → ∀ task,
    (l.link.joined.lookup task).isSome = true ↔ Follows l.frames task
  gone : l.stage = .gone → l.link.joined = []

/-- What happens elsewhere is nothing to a line. -/
theorem Holds.elsewhere {l : Line} {a a' : Audience} (h : l.Holds a)
    (hthere : l.link.channel < a'.channels.size)
    (hheld : ∀ task, a'.held l.link.channel task = a.held l.link.channel task)
    (hopen : Audience.isOpenIn a'.channels l.link.channel
      = Audience.isOpenIn a.channels l.link.channel) : l.Holds a' where
  keeps := ⟨hthere, h.keeps.distinct, fun task => (hheld task).trans (h.keeps.held task)⟩
  reader hstage := ⟨hopen.trans (h.reader hstage).1, (h.reader hstage).2⟩
  follows := h.follows
  gone := h.gone

theorem Holds.empty {l : Line} {a : Audience} (h : l.Holds a) (hgone : l.stage = .gone)
    (task : String) : a.held l.link.channel task = [] := by
  rw [h.keeps.held, h.gone hgone]
  rfl

theorem frames_note (l : Line) (e : Entry) :
    (l.note e).frames = l.frames ++ e.frame?.toList := by
  show (l.log ++ [e]).filterMap Entry.frame? = _
  rw [List.filterMap_append]
  cases e <;> rfl

theorem minds_act {d d' : Desk} {l l' : Line} (h : l.Holds d.audience)
    (hbooks : d.audience.WellKept) (hact : Act d l d' l') :
    l'.link.channel = l.link.channel ∧ ProgressLink.Minds l.link.channel d d' := by
  cases hact with
  | ignore | hangUp | ask | answer | sent | fail => exact ⟨rfl, ProgressLink.minds_refl hbooks _⟩
  | @join _ task =>
      exact ⟨(l.link.join_channel task d).1, ProgressLink.minds_join l.link hbooks task⟩
  | @leave _ task =>
      exact ⟨(l.link.leave_channel task d).1, ProgressLink.minds_leave h.keeps hbooks task⟩
  | @letGo task =>
      exact ⟨(l.link.leave_channel task d).1, ProgressLink.minds_leave h.keeps hbooks task⟩
  | relay => exact ⟨rfl, ProgressLink.minds_relay l.link hbooks⟩
  | finish =>
      exact ⟨rfl, rfl, Audience.wellKept_perform hbooks (.close l.link.channel),
        Audience.spares_close d.audience l.link.channel⟩

theorem keeps_act {d d' : Desk} {l l' : Line} (h : l.link.Keeps d.audience)
    (hbooks : d.audience.WellKept) (hact : Act d l d' l') : l'.link.Keeps d'.audience := by
  cases hact with
  | ignore | hangUp | ask | answer | sent | fail => exact h
  | @join _ task => exact ProgressLink.keeps_join h task
  | @leave _ task => exact ProgressLink.keeps_leave h hbooks task
  | @letGo task => exact ProgressLink.keeps_leave h hbooks task
  | relay =>
      have htasks := (Audience.receive_books d.audience l.link.channel 1).1
      refine ⟨?_, h.distinct, fun task => (Audience.held_congr htasks _ task).trans (h.held task)⟩
      exact (Audience.size_receive d.audience l.link.channel 1).symm ▸ h.there
  | finish =>
      refine ⟨?_, h.distinct, h.held⟩
      exact (Audience.spares_close d.audience l.link.channel).size.symm ▸ h.there

/-- A line closes its channel last of all. -/
theorem reader_act {d d' : Desk} {l l' : Line} (hact : Act d l d' l') (hstage : l'.stage ≠ .gone) :
    l.stage ≠ .gone ∧ l'.link.isOpen = l.link.isOpen ∧
      Audience.isOpenIn d'.audience.channels l.link.channel
        = Audience.isOpenIn d.audience.channels l.link.channel := by
  cases hact with
  | ignore h | hangUp h | ask h | answer h | sent h | fail h => exact ⟨by simp [h], rfl, rfl⟩
  | @join _ task h =>
      refine ⟨by simp [h], (l.link.join_channel task d).2, ?_⟩
      rw [ProgressLink.join_channels]
  | @leave _ task h | @letGo task h =>
      refine ⟨by simp [h], (l.link.leave_channel task d).2, ?_⟩
      rw [ProgressLink.leave_channels]
  | relay h =>
      exact ⟨by simp [h], rfl, Audience.isOpenIn_receive d.audience l.link.channel 1 l.link.channel⟩
  | finish => exact absurd rfl hstage

/-- The link follows what the client has joined and not left, after each frame. -/
theorem follows_act {d d' : Desk} {l l' : Line} (hact : Act d l d' l')
    (h : l.stage.isRunning = true → ∀ task,
      (l.link.joined.lookup task).isSome = true ↔ Follows l.frames task)
    (hrunning : l'.stage.isRunning = true) (task : String) :
    (l'.link.joined.lookup task).isSome = true ↔ Follows l'.frames task := by
  have hheard : ∀ {f : Frame}, l.stage = .listening → (Follows (l.note (.heard f)).frames task ↔
      f.event? = some ⟨.join, task⟩ ∨
        (l.link.joined.lookup task).isSome = true ∧ f.event? ≠ some ⟨.leave, task⟩) := by
    intro f hstage
    rw [frames_note, h (by rw [hstage]; rfl)]
    exact follows_concat
  have hkeep : ∀ {f : Frame}, l.stage = .listening → f.event? ≠ some ⟨.join, task⟩ →
      f.event? ≠ some ⟨.leave, task⟩ →
      ((l.link.joined.lookup task).isSome = true ↔ Follows (l.note (.heard f)).frames task) := by
    intro f hstage hjoin hleave
    rw [hheard hstage, or_iff_right hjoin, and_iff_left hleave]
  have hquiet : ∀ {e : Entry}, l.stage.isRunning = true → e.frame? = none →
      ((l.link.joined.lookup task).isSome = true ↔ Follows (l.note e).frames task) := by
    intro e hstage hnone
    rw [frames_note, hnone, h hstage]
    exact iff_of_eq (congrArg (Follows · task) (List.append_nil _).symm)
  cases hact with
  | ignore hstage hevent =>
      refine hkeep hstage ?_ ?_ <;> simp [hevent]
  | @join f task' hstage hevent =>
      -- also if the task had been joined before
      refine Iff.trans ?_ (hheard hstage).symm
      dsimp only
      rw [ProgressLink.join_lookup, hevent]
      refine or_congr ?_ (and_iff_left ?_).symm
      · simp [eq_comm]
      · simp
  | ask hstage hevent =>
      refine hkeep hstage ?_ ?_ <;> simp [hevent]
  | @leave f task' hstage hevent =>
      dsimp only
      rw [ProgressLink.leave_lookup]
      by_cases htask : task = task'
      · refine Iff.trans ?_ (hheard hstage).symm
        rw [if_pos htask, hevent, htask]
        simp
      · rw [if_neg htask]
        refine hkeep hstage ?_ ?_ <;> simp [hevent, Ne.symm htask]
  | answer hstage | relay hstage => exact hquiet (by rw [hstage]; rfl) rfl
  | sent hstage => exact h (by rw [hstage]; rfl) task
  | hangUp | fail | finish => exact absurd hrunning (by simp [Stage.isRunning])
  | letGo hstage =>
      have hparting : l.stage.isRunning = true := hrunning
      rw [hstage] at hparting
      cases hparting

/-- **Whatever a line does, it holds what it should.** -/
theorem holds_act {d d' : Desk} {l l' : Line} (h : l.Holds d.audience)
    (hbooks : d.audience.WellKept) (hact : Act d l d' l') : l'.Holds d'.audience where
  keeps := keeps_act h.keeps hbooks hact
  reader hstage := by
    obtain ⟨hthere, hflag, hopen⟩ := reader_act hact hstage
    rw [(minds_act h hbooks hact).1, hopen, hflag]
    exact h.reader hthere
  follows := follows_act hact h.follows
  gone hgone := by
    cases hact with
    | finish _ hjoined => exact hjoined
    -- no other act leads there, and none leads away
    | hangUp | join | ask | answer | relay | sent | fail => cases hgone
    | ignore hstage | leave hstage | letGo hstage => exact absurd (hstage.symm.trans hgone) (by simp)

/-! ## Answers -/

/-- A frame that asks for the progress of a task is followed at once by a snapshot of this task, or
this is what is about to be sent. There are no other answers. -/
structure Prompt (l : Line) : Prop where
  asked : ∀ before f after, l.log = before ++ .heard f :: after → ∀ task, f.asked? = some task →
    (∃ s rest, after = .answer s :: rest ∧ s.task = task) ∨ after = [] ∧ l.stage = .answering task
  answered : ∀ before s after, l.log = before ++ .answer s :: after →
    ∃ before' f, before = before' ++ [.heard f] ∧ f.asked? = some s.task
  owing : ∀ task, l.stage = .answering task →
    ∃ before f, l.log = before ++ [.heard f] ∧ f.asked? = some task

theorem prompt_new (link : ProgressLink) : Prompt ⟨link, .listening, []⟩ where
  asked before f after hlog := absurd hlog (by simp)
  answered before s after hlog := absurd hlog (by simp)
  owing task hstage := absurd hstage (by simp)

/-- Who owes no answer may go on to anything that is not about answers. -/
theorem Prompt.turn {l l' : Line} (h : l.Prompt) (hlog : l'.log = l.log)
    (hstage : ∀ task, l.stage ≠ .answering task) (hstage' : ∀ task, l'.stage ≠ .answering task) :
    l'.Prompt where
  asked before f after hsplit task htask :=
    (h.asked before f after (hlog ▸ hsplit) task htask).imp_right
      fun hlast => absurd hlast.2 (hstage task)
  answered before s after hsplit := h.answered before s after (hlog ▸ hsplit)
  owing task howing := absurd howing (hstage' task)

/-- What was asked before a listening line goes on has been answered. -/
theorem Prompt.settled {l : Line} (h : l.Prompt) (hstage : l.stage = .listening)
    {before after : List Entry} {f : Frame} (hlog : l.log = before ++ .heard f :: after)
    {task : String} (htask : f.asked? = some task) :
    ∃ s rest, after = .answer s :: rest ∧ s.task = task :=
  (h.asked before f after hlog task htask).resolve_right
    fun hlast => absurd (hstage.symm.trans hlast.2) (by simp)

theorem Prompt.hear {l l' : Line} (h : l.Prompt) {f : Frame} (hstage : l.stage = .listening)
    (hlog : l'.log = l.log ++ [.heard f])
    (hnext : ∀ task, l'.stage = .answering task ↔ f.asked? = some task) : l'.Prompt where
  asked before g after hsplit task htask := by
    rw [hlog] at hsplit
    rcases concat_eq_split.mp hsplit with ⟨hafter, _, heq⟩ | ⟨after', rfl, hold⟩
    · cases heq
      exact Or.inr ⟨hafter, (hnext task).mpr htask⟩
    · obtain ⟨s, rest, rfl, hs⟩ := h.settled hstage hold htask
      exact Or.inl ⟨s, rest ++ [.heard f], rfl, hs⟩
  answered before s after hsplit := by
    rw [hlog] at hsplit
    rcases concat_eq_split.mp hsplit with ⟨_, _, heq⟩ | ⟨after', _, hold⟩
    · cases heq
    · exact h.answered before s after' hold
  owing task hnow := ⟨l.log, f, hlog, (hnext task).mp hnow⟩

theorem Prompt.update {l l' : Line} (h : l.Prompt) {s : Snapshot} (hstage : l.stage = .listening)
    (hlog : l'.log = l.log ++ [.update s]) (hnext : ∀ task, l'.stage ≠ .answering task) :
    l'.Prompt where
  asked before g after hsplit task htask := by
    rw [hlog] at hsplit
    rcases concat_eq_split.mp hsplit with ⟨_, _, heq⟩ | ⟨after', rfl, hold⟩
    · cases heq
    · obtain ⟨s', rest, rfl, hs'⟩ := h.settled hstage hold htask
      exact Or.inl ⟨s', rest ++ [.update s], rfl, hs'⟩
  answered before s' after hsplit := by
    rw [hlog] at hsplit
    rcases concat_eq_split.mp hsplit with ⟨_, _, heq⟩ | ⟨after', _, hold⟩
    · cases heq
    · exact h.answered before s' after' hold
  owing task hnow := absurd hnow (hnext task)

theorem Prompt.answer {l l' : Line} (h : l.Prompt) {s : Snapshot}
    (hstage : l.stage = .answering s.task)
    (hlog : l'.log = l.log ++ [.answer s]) (hnext : ∀ task, l'.stage ≠ .answering task) :
    l'.Prompt where
  asked before g after hsplit task htask := by
    rw [hlog] at hsplit
    rcases concat_eq_split.mp hsplit with ⟨_, _, heq⟩ | ⟨after', rfl, hold⟩
    · cases heq
    · rcases h.asked before g after' hold task htask with ⟨s', rest, rfl, hs'⟩ | ⟨rfl, hnow⟩
      · exact Or.inl ⟨s', rest ++ [.answer s], rfl, hs'⟩
      · -- the frame that was not answered yet is the last one
        rw [hstage] at hnow
        cases hnow
        exact Or.inl ⟨s, [], rfl, rfl⟩
  answered before s' after hsplit := by
    rw [hlog] at hsplit
    rcases concat_eq_split.mp hsplit with ⟨_, rfl, heq⟩ | ⟨after', _, hold⟩
    · cases heq
      exact h.owing s.task hstage
    · exact h.answered before s' after' hold
  owing task hnow := absurd hnow (hnext task)

theorem asked_of_event {f : Frame} {wish : Wish} {task : String}
    (h : f.event? = some ⟨wish, task⟩) :
    f.asked? = if wish = .leave then none else some task := by
  unfold Frame.asked?
  rw [h]
  rfl

/-- **Every frame that asks for progress is answered once, at once and for its task**, if the desk
answers for the task that it is asked about. -/
theorem prompt_act {d d' : Desk} {l l' : Line} (h : l.Prompt)
    (htask : ∀ task, (d.progress task).task = task) (hact : Act d l d' l') : l'.Prompt := by
  cases hact with
  | ignore hstage hevent =>
      refine h.hear hstage rfl fun task => ?_
      unfold Frame.asked?
      rw [hevent]
      exact iff_of_false (by simp [note, hstage]) (by simp)
  | hangUp hstage => exact h.hear hstage rfl fun task => by simp [Frame.asked?, Frame.event?]
  | join hstage hevent | ask hstage hevent =>
      exact h.hear hstage rfl fun task => by simp [asked_of_event hevent]
  | leave hstage hevent =>
      exact h.hear hstage rfl fun task => by simp [asked_of_event hevent, note, hstage]
  | @answer task hstage =>
      refine h.answer (s := d.progress task) ?_ rfl fun _ => by simp
      rw [htask]
      exact hstage
  | relay hstage => exact h.update hstage rfl fun _ => by simp
  | sent hstage | fail hstage | finish hstage =>
      exact h.turn rfl (fun _ => by simp [hstage]) fun _ => by simp
  | letGo hstage => exact h.turn rfl (fun _ => by simp [hstage]) fun _ => by simp [hstage]

/-- Some acts of one line, one after the other. -/
inductive Series (d : Desk) (l : Line) : Desk → Line → Prop where
  | refl : Series d l d l
  | tail {d' d'' : Desk} {l' l'' : Line} : Series d l d' l' → Act d' l' d'' l'' → Series d l d'' l''

theorem Series.head {d d' d'' : Desk} {l l' l'' : Line} (hact : Act d l d' l')
    (h : Series d' l' d'' l'') : Series d l d'' l'' := by
  induction h with
  | refl => exact .tail .refl hact
  | tail _ hact' ih => exact ih.tail hact'

/-- Some acts of a line are about its own channel, as each of them is. -/
theorem spares_series {d d' : Desk} {l l' : Line} (h : l.Holds d.audience)
    (hbooks : d.audience.WellKept) (hseries : Series d l d' l') :
    Audience.Spares l.link.channel d.audience d'.audience := by
  have hall : l'.Holds d'.audience ∧ d'.audience.WellKept ∧ l'.link.channel = l.link.channel ∧
      Audience.Spares l.link.channel d.audience d'.audience := by
    induction hseries with
    | refl => exact ⟨h, hbooks, rfl, Audience.spares_refl _ _⟩
    | tail _ hact ih =>
        obtain ⟨hholds', hbooks', hchannel, hspares⟩ := ih
        obtain ⟨hsame, hminds⟩ := minds_act hholds' hbooks' hact
        exact ⟨holds_act hholds' hbooks' hact, hminds.books, hsame.trans hchannel,
          hspares.trans (hchannel ▸ hminds.spares)⟩
  exact hall.2.2.2

/-- **A line that has ended is gone after some acts of its own**: this is what it comes to when the
link disconnects. -/
theorem disconnect_series {d : Desk} {l : Line} (hstage : l.stage = .parting)
    (hdistinct : (l.link.joined.map Prod.fst).Nodup) :
    Series d l (l.link.disconnect d).2
      { l with link := (l.link.disconnect d).1, stage := .gone } := by
  -- the tasks are left in the order of the link's list, so the induction is on it
  obtain ⟨⟨channel, joined, isOpen⟩, stage, log⟩ := l
  dsimp only at hstage hdistinct
  subst hstage
  induction joined generalizing d with
  | nil => exact .tail .refl (.finish rfl rfl)
  | cons e joined ih =>
      obtain ⟨task, id⟩ := e
      obtain ⟨hfresh, hrest⟩ := List.nodup_cons.mp hdistinct
      have hlookup : ((task, id) :: joined).lookup task = some id := List.lookup_cons_self
      have hfilter : ((task, id) :: joined).filter (fun e => e.1 != task) = joined := by
        rw [List.filter_cons_of_neg (by simp), List.filter_eq_self]
        intro e he
        rw [bne_iff_ne]
        exact fun htask => hfresh (List.mem_map.mpr ⟨e, he, htask⟩)
      have hact : Act d ⟨⟨channel, (task, id) :: joined, isOpen⟩, .parting, log⟩
          { d with audience := d.audience.unsubscribe id }
          ⟨⟨channel, joined, isOpen⟩, .parting, log⟩ := by
        have hleave := ProgressLink.leave_known (l := ⟨channel, (task, id) :: joined, isOpen⟩)
          hlookup d
        have hgo := Act.letGo (d := d)
          (l := ⟨⟨channel, (task, id) :: joined, isOpen⟩, .parting, log⟩) rfl
          (show (((task, id) :: joined).lookup task).isSome = true by rw [hlookup]; rfl)
        rw [hleave] at hgo
        dsimp only at hgo
        rw [hfilter] at hgo
        exact hgo
      exact .head hact (ih hrest)

/-- **What a link does with a frame at once is done by a line act by act.** -/
theorem receive_series {d : Desk} {l : Line} (hstage : l.stage = .listening)
    (hopen : l.link.isOpen = true) (hdistinct : (l.link.joined.map Prod.fst).Nodup) (f : Frame) :
    Series d l (l.link.receive f d).2.2
      ⟨(l.link.receive f d).2.1, if f = .close then .gone else .listening,
        l.log ++ .heard f :: ((l.link.receive f d).1.map Entry.answer).toList⟩ := by
  cases hevent : f.event? with
  | none =>
      by_cases hclose : f = .close
      · subst hclose
        have hreceive : l.link.receive .close d = (none, l.link.disconnect d) := by
          unfold ProgressLink.receive
          rw [hopen]
          rfl
        rw [hreceive, if_pos rfl]
        exact .head (.hangUp hstage)
          (disconnect_series (l := { l.note (.heard .close) with stage := .parting }) rfl hdistinct)
      · rw [ProgressLink.receive_ignored hevent hclose, if_neg hclose, ← hstage]
        exact .tail .refl (.ignore hstage hevent hclose)
  | some e =>
      obtain ⟨wish, task⟩ := e
      have hclose : f ≠ .close := fun heq => absurd (heq ▸ hevent) (by simp [Frame.event?])
      obtain ⟨hreceive, hname⟩ := ProgressLink.receive_event hopen hevent d
      rw [hreceive, if_neg hclose]
      unfold ProgressLink.handle
      rw [if_neg (by simp [hname])]
      cases wish with
      | join =>
          have hseries :=
            ((Series.refl.tail (Act.join (d := d) hstage hevent)).tail (.answer rfl)).tail (.sent rfl)
          simpa [note] using hseries
      | getProgress =>
          have hseries :=
            ((Series.refl.tail (Act.ask (d := d) hstage hevent)).tail (.answer rfl)).tail (.sent rfl)
          simpa [note] using hseries
      | leave =>
          have hseries := Series.refl.tail (Act.leave (d := d) hstage hevent)
          simpa [note, hstage] using hseries

end Line

end TileDepot.Server
