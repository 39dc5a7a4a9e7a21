import TileDepot.Proofs.Server.Lines
import TileDepot.Proofs.Warming.Ownership

/-!
# Any number of progress connections

A hall is the office with all connections to it. Each line acts at its own pace, clients connect, and
the office goes on with its runs and sends on what comes of them. Nobody else is called an audience
for, so what the audience holds is what the lines hold (`Kept`): one subscription for each task that
a client has joined and not left, and none of a line that is gone. Nothing that a line does touches
what another one holds (`connections_leak_nothing`).
-/

namespace TileDepot.Server

open Warming (Audience Desk Snapshot Subscriber Office RunSettings)

/-! ## Lists by number -/

theorem get_concat {α : Type} {items : List α} {last x : α} {n : Nat}
    (h : (items ++ [last])[n]? = some x) : items[n]? = some x ∨ n = items.length ∧ x = last := by
  rw [List.getElem?_append] at h
  split at h
  · exact Or.inl h
  · obtain ⟨hlt, hx⟩ := List.getElem?_eq_some_iff.mp h
    rw [List.length_singleton] at hlt
    have hmem : x ∈ [last] := hx ▸ List.getElem_mem _
    exact Or.inr ⟨by omega, List.mem_singleton.mp hmem⟩

theorem get_set {α : Type} {items : List α} {x y : α} {n m : Nat}
    (h : (items.set n x)[m]? = some y) : m = n ∧ y = x ∨ m ≠ n ∧ items[m]? = some y := by
  by_cases hsame : n = m
  · subst hsame
    rw [List.getElem?_set_self'] at h
    obtain ⟨_, _, hy⟩ := Option.map_eq_some_iff.mp h
    exact Or.inl ⟨rfl, hy.symm⟩
  · rw [List.getElem?_set_ne hsame] at h
    exact Or.inr ⟨Ne.symm hsame, h⟩

/-! ## The hall -/

structure Hall where
  office : Office
  /-- The connections by number, with those that are gone. -/
  lines : List Line

namespace Hall

def start (settings : RunSettings) : Hall :=
  ⟨.start settings, []⟩

def audience (h : Hall) : Audience :=
  h.office.desk.audience

/-- A client connects. -/
def connect (h : Hall) : Hall where
  office := { h.office with desk := (ProgressLink.connect h.office.desk).2 }
  lines := h.lines ++ [⟨(ProgressLink.connect h.office.desk).1, .listening, []⟩]

/-- A line has done something, and this is what the desk is now. -/
def setLine (h : Hall) (i : Nat) (l : Line) (d : Desk) : Hall where
  office := { h.office with desk := d }
  lines := h.lines.set i l

/-- One thing that happens. -/
inductive Step : Hall → Hall → Prop where
  /-- Anything in the office that is nothing to the audience. -/
  | work {h : Hall} {w : Office} : Office.Step h.office w → w.desk.audience = h.audience →
      Step h { h with office := w }
  | publish {h : Hall} {s : Snapshot} : h.office.hand = some s →
      Step h { h with office := h.office.publish s }
  | connect {h : Hall} : Step h h.connect
  | act {h : Hall} {i : Nat} {l l' : Line} {d : Desk} : h.lines[i]? = some l →
      Line.Act h.office.desk l d l' → Step h (h.setLine i l' d)

/-- What can come of it. -/
inductive Later (h : Hall) : Hall → Prop where
  | refl : Later h h
  | tail {h' h'' : Hall} : Later h h' → Step h' h'' → Later h h''

theorem Later.trans {h h' h'' : Hall} (hfirst : Later h h') (hlast : Later h' h'') :
    Later h h'' := by
  induction hlast with
  | refl => exact hfirst
  | tail _ hs ih => exact ih.tail hs

/-- What a line does in a series of acts can happen. -/
theorem series_later {h : Hall} {i : Nat} {l l' : Line} {d : Desk} (hl : h.lines[i]? = some l)
    (hseries : Line.Series h.office.desk l d l') : Later h (h.setLine i l' d) := by
  obtain ⟨hlt, hget⟩ := List.getElem?_eq_some_iff.mp hl
  induction hseries with
  | refl =>
      have hsame : h.setLine i l h.office.desk = h := by
        unfold setLine
        rw [← hget, List.set_getElem_self]
      rw [hsame]
      exact .refl
  | tail _ hact ih =>
      have hstep := Step.act (h := h.setLine i _ _) (i := i) (List.getElem?_set_self hlt) hact
      have hdone := ih.tail hstep
      unfold setLine at hdone ⊢
      dsimp only at hdone
      rw [List.set_set] at hdone
      exact hdone

/-! ## What the audience holds -/

/-- The audience holds what the lines hold, and each line holds what it should. -/
structure Kept (h : Hall) : Prop where
  registered : h.office.Registered
  books : h.audience.WellKept
  apart : ∀ (i j : Nat) (l l' : Line), h.lines[i]? = some l → h.lines[j]? = some l' →
    l.link.channel = l'.link.channel → i = j
  owned : ∀ task, ∀ sub ∈ h.audience.subscribers task,
    ∃ (i : Nat) (l : Line), h.lines[i]? = some l ∧ sub.channel = l.link.channel
  holds : ∀ (i : Nat) (l : Line), h.lines[i]? = some l → l.Holds h.audience
  prompt : ∀ (i : Nat) (l : Line), h.lines[i]? = some l → l.Prompt

/-- The desk answers for the task that it is asked about. -/
theorem progress_task {w : Office} (h : w.Registered) (task : String) :
    (w.desk.progress task).task = task := by
  unfold Desk.progress
  cases hfind : w.desk.find? task with
  | none => rfl
  | some found =>
      obtain ⟨run, r⟩ := found
      obtain ⟨hget, hrun⟩ := (Office.find_iff w.desk task run r).mp hfind
      obtain ⟨sc, hscene, hid⟩ := Office.owner_scene ((h.owners task run).mp hget)
      rw [Office.current_get h.current, hscene] at hrun
      cases Option.some.inj hrun
      exact hid

/-- Who owns a name is nothing to the audience. -/
theorem registered_audience {w : Office} {d : Desk} (h : w.Registered)
    (hd : d = { w.desk with audience := d.audience }) : Office.Registered { w with desk := d } := by
  rw [hd]
  exact ⟨h.current, h.sorted, h.owners⟩

theorem kept_publish {h : Hall} (hkept : Kept h) {s : Snapshot} (hhand : h.office.hand = some s) :
    Kept { h with office := h.office.publish s } where
  registered := Office.registered_step hkept.registered (.publish hhand)
  books := Audience.wellKept_publish hkept.books s
  apart := hkept.apart
  owned task sub hsub := by
    refine hkept.owned task sub ?_
    have hafter : sub ∈ (h.audience.publish s).2.subscribers task := hsub
    rw [Audience.publish_subscribers] at hafter
    split at hafter
    · exact (List.mem_filter.mp hafter).1
    · exact hafter
  holds i l hl := by
    have hholds := hkept.holds i l hl
    refine hholds.elsewhere (Audience.size_publish h.audience s hholds.keeps.there) (fun task => ?_)
      (Audience.isOpenIn_publish h.audience s l.link.channel)
    by_cases hgone : l.stage = .gone
    · -- a line that is gone has nothing left that could be taken off
      have hsub := Audience.held_publish_sublist h.audience s l.link.channel task
      rw [hholds.empty hgone] at hsub ⊢
      exact List.sublist_nil.mp hsub
    · exact Audience.held_publish (hholds.reader hgone).1 s task
  prompt := hkept.prompt

theorem kept_connect {h : Hall} (hkept : Kept h) : Kept h.connect := by
  have hbefore : ∀ {i : Nat} {l : Line}, h.lines[i]? = some l →
      l.link.channel < h.audience.channels.size :=
    fun hl => (hkept.holds _ _ hl).keeps.there
  -- nobody has a channel with the number of the new one yet
  have hnothing : ∀ task, h.audience.held h.audience.channels.size task = [] := by
    intro task
    refine List.eq_nil_iff_forall_not_mem.mpr fun sub hsub => ?_
    obtain ⟨hlisted, hchannel⟩ := Audience.mem_held.mp hsub
    obtain ⟨i, l, hl, hown⟩ := hkept.owned task sub hlisted
    have hlt := hbefore hl
    omega
  have hsize : h.connect.audience.channels.size = h.audience.channels.size + 1 :=
    Array.size_push _
  refine ⟨registered_audience hkept.registered rfl, Audience.WellKept.congr hkept.books rfl rfl,
    fun i j l l' hl hl' hsame => ?_, fun task sub hsub => ?_, fun i l hl => ?_, fun i l hl => ?_⟩
  · rcases get_concat hl with hold | ⟨hi, rfl⟩ <;> rcases get_concat hl' with hold' | ⟨hj, rfl⟩
    · exact hkept.apart i j l l' hold hold' hsame
    · exact absurd hsame (Nat.ne_of_lt (hbefore hold))
    · exact absurd hsame.symm (Nat.ne_of_lt (hbefore hold'))
    · exact hi.trans hj.symm
  · obtain ⟨i, l, hl, hown⟩ := hkept.owned task sub hsub
    obtain ⟨hlt, _⟩ := List.getElem?_eq_some_iff.mp hl
    exact ⟨i, l, (List.getElem?_append_left hlt).trans hl, hown⟩
  · rcases get_concat hl with hold | ⟨_, rfl⟩
    · have hlt := hbefore hold
      exact (hkept.holds i l hold).elsewhere (by omega) (fun _ => rfl)
        (Audience.isOpenIn_addChannel h.audience _ hlt)
    · exact {
        keeps := ⟨by rw [hsize]; exact Nat.lt_succ_self _, List.nodup_nil, hnothing⟩
        reader := fun _ => ⟨Audience.isOpenIn_new h.audience _, rfl⟩
        follows := fun _ task => iff_of_false Bool.false_ne_true (follows_nil task)
        gone := fun _ => rfl }
  · rcases get_concat hl with hold | ⟨_, rfl⟩
    · exact hkept.prompt i l hold
    · exact Line.prompt_new _

theorem kept_act {h : Hall} (hkept : Kept h) {i : Nat} {l l' : Line} {d : Desk}
    (hl : h.lines[i]? = some l) (hact : Line.Act h.office.desk l d l') :
    Kept (h.setLine i l' d) := by
  obtain ⟨hlt, _⟩ := List.getElem?_eq_some_iff.mp hl
  have hholds := hkept.holds i l hl
  obtain ⟨hchannel, hdesk, hbooks, hspares⟩ := Line.minds_act hholds hkept.books hact
  have hother : ∀ {j : Nat} {m : Line}, j ≠ i → h.lines[j]? = some m →
      m.link.channel ≠ l.link.channel :=
    fun hj hm hsame => hj (hkept.apart _ _ _ _ hm hl hsame)
  refine ⟨registered_audience hkept.registered hdesk, hbooks, fun j k m m' hm hm' hsame => ?_,
    fun task sub hsub => ?_, fun j m hm => ?_, fun j m hm => ?_⟩
  · rcases get_set hm with ⟨hj, rfl⟩ | ⟨hj, hold⟩ <;>
      rcases get_set hm' with ⟨hk, rfl⟩ | ⟨hk, hold'⟩
    · exact hj.trans hk.symm
    · exact absurd (hsame.symm.trans hchannel) (hother hk hold')
    · exact absurd (hsame.trans hchannel) (hother hj hold)
    · exact hkept.apart j k m m' hold hold' hsame
  · -- what is not of the line that acts was held before, by another line
    by_cases hown : sub.channel = l.link.channel
    · exact ⟨i, l', List.getElem?_set_self hlt, hown.trans hchannel.symm⟩
    · have hheld : sub ∈ h.audience.held sub.channel task := by
        have hafter := Audience.mem_held.mpr ⟨hsub, rfl⟩
        exact hspares.held sub.channel hown task ▸ hafter
      obtain ⟨j, m, hm, hsame⟩ := hkept.owned task sub (Audience.mem_held.mp hheld).1
      have hj : i ≠ j := by
        rintro rfl
        cases Option.some.inj (hl.symm.trans hm)
        exact hown hsame
      exact ⟨j, m, (List.getElem?_set_ne hj).trans hm, hsame⟩
  · rcases get_set hm with ⟨_, rfl⟩ | ⟨hj, hm⟩
    · exact Line.holds_act hholds hkept.books hact
    · have hheld := hkept.holds j m hm
      have hne := hother hj hm
      exact hheld.elsewhere (hspares.size ▸ hheld.keeps.there) (hspares.held _ hne)
        (hspares.isOpen _ hne)
  · rcases get_set hm with ⟨_, rfl⟩ | ⟨_, hm⟩
    · exact Line.prompt_act (hkept.prompt i l hl) (progress_task hkept.registered) hact
    · exact hkept.prompt j m hm

/-- **Every step keeps what the audience holds.** -/
theorem kept_step {h h' : Hall} (hkept : Kept h) (hs : Step h h') : Kept h' := by
  cases hs with
  | @work w hstep hsame =>
      have haudience : ({ h with office := w } : Hall).audience = h.audience := hsame
      exact ⟨Office.registered_step hkept.registered hstep, haudience ▸ hkept.books, hkept.apart,
        haudience ▸ hkept.owned, haudience ▸ hkept.holds, hkept.prompt⟩
  | publish hhand => exact kept_publish hkept hhand
  | connect => exact kept_connect hkept
  | act hl hact => exact kept_act hkept hl hact

theorem kept_later {h h' : Hall} (hkept : Kept h) (hlater : Later h h') : Kept h' := by
  induction hlater with
  | refl => exact hkept
  | tail _ hs ih => exact kept_step ih hs

/-! ## What can be said of a connection -/

/-- What can be said of a connection at any time. -/
structure Tidy (settings : RunSettings) (h : Hall) (i : Nat) (l : Line) : Prop where
  /-- As long as it runs, it has one subscription for each task that the client has joined and not
  left since. -/
  joined : l.stage.isRunning = true → ∀ task, Follows l.frames task →
    ∃ id, h.audience.held l.link.channel task = [⟨id, l.link.channel⟩]
  others : l.stage.isRunning = true → ∀ task, ¬ Follows l.frames task →
    h.audience.held l.link.channel task = []
  /-- Frames that cannot be read or name no task change nothing, -/
  ignored : ∀ f d l', Line.Act h.office.desk l d l' → l'.log = l.log ++ [.heard f] →
    f.event? = none → f ≠ .close → d = h.office.desk ∧ l' = l.note (.heard f)
  /-- and only frames that ask for progress are answered, once and at once, -/
  prompt : l.Prompt
  /-- with what the desk says when it is asked. -/
  informed : ∀ s, .answer s ∈ l.log →
    ∃ u, Later (start settings) u ∧ Later u h ∧ s = u.office.desk.progress s.task
  /-- What it does is nothing to the channels of others. -/
  spares : ∀ d l', Line.Act h.office.desk l d l' →
    Audience.Spares l.link.channel h.audience d.audience
  /-- When it has ended, it needs nobody else to let go of all. -/
  ends : l.stage = .parting → ∃ h', Later h h' ∧
    h'.lines[i]? = some { l with link := (l.link.disconnect h.office.desk).1, stage := .gone } ∧
    (∀ task, h'.audience.held l.link.channel task = []) ∧
    Audience.Spares l.link.channel h.audience h'.audience
  gone : l.stage = .gone → ∀ task, h.audience.held l.link.channel task = []

theorem Kept.ends {h : Hall} (hkept : Kept h) {i : Nat} {l : Line} (hl : h.lines[i]? = some l)
    (hstage : l.stage = .parting) : ∃ h', Later h h' ∧
      h'.lines[i]? = some { l with link := (l.link.disconnect h.office.desk).1, stage := .gone } ∧
      (∀ task, h'.audience.held l.link.channel task = []) ∧
      Audience.Spares l.link.channel h.audience h'.audience := by
  obtain ⟨hlt, _⟩ := List.getElem?_eq_some_iff.mp hl
  have hholds := hkept.holds i l hl
  have hseries := Line.disconnect_series (d := h.office.desk) hstage hholds.keeps.distinct
  have hafter := series_later hl hseries
  have hself := List.getElem?_set_self (l := h.lines) (i := i)
    (a := { l with link := (l.link.disconnect h.office.desk).1, stage := .gone }) hlt
  have hgone := (kept_later hkept hafter).holds i _ hself
  exact ⟨_, hafter, hself, hgone.empty rfl, Line.spares_series hholds hkept.books hseries⟩

end Hall

end TileDepot.Server
