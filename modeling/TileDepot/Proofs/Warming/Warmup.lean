import TileDepot.Proofs.Warming.Accounting
import TileDepot.Proofs.Warming.Fetching
import TileDepot.Proofs.Warming.Planning
import TileDepot.Proofs.Warming.Traces

/-!
# A run that warms the cache

A run is put together with the fetching of its tiles through a cache: a tile that the run has handed
out is fetched step by step (`FetchStep`), and it comes back with what its fetching came to. Between
any two steps of one tile anything may happen to the others, and to the run.

The invariant (`Warmup.Sound`) ties three things: how far the fetching of a tile has come, what is
kept under its key, and the traces that the tile leaves in the sums of the run. When a run ends with
no failure the sums leave room for no other trace than a fetch with success, and so every tile is in
the cache (`warm_run_fills_cache`). The next run over the same store finds it there, because a fetch
looks up what an earlier one of the same task has written.
-/

namespace TileDepot.Warming

open Cache

/-- A run, the store behind its cache, and the fetching of every tile. -/
structure Warmup (σ : Type) where
  scene : Scene
  store : σ
  fetches : Grid.TileId → Fetching

variable {σ : Type}

namespace Warmup

def start (task : Task) (store : σ) : Warmup σ :=
  ⟨.start task, store, fun _ => .start⟩

/-- The fetching of one tile gets somewhere. -/
def setFetch (w : Warmup σ) (tile : Grid.TileId) (store : σ) (x : Fetching) : Warmup σ :=
  { w with store, fetches := fun t => if t = tile then x else w.fetches t }

/-- One thing that happens. -/
inductive Step (c : ReadThrough (StateM σ)) (settings : RunSettings) (task : String) :
    Warmup σ → Warmup σ → Prop where
  /-- Something happens to the run, and who is out stays out. -/
  | proceed {w : Warmup σ} {sc : Scene} : Warming.Step settings w.scene sc →
      w.scene.outs <+: sc.outs → Step c settings task w { w with scene := sc }
  | fetch {w : Warmup σ} {tile : Grid.TileId} {s : σ} {x : Fetching} : tile ∈ w.scene.outs →
      FetchStep c (Fetch.request ⟨task, settings.map, tile⟩) w.store (w.fetches tile) s x →
      Step c settings task w (w.setFetch tile s x)
  /-- A tile comes back with what its fetching has come to. -/
  | comeBack {w : Warmup σ} {before after : List Trip} {tile : Grid.TileId} {success : Bool} :
      w.scene.trips = before ++ ⟨tile, .out⟩ :: after →
      (w.fetches tile).stage = .over success →
      Step c settings task w { w with scene := { w.scene with
        trips := before ++
          ⟨tile, if w.scene.run.task.isCancelled then .told else .back success⟩ :: after } }

/-- What can come of a run of this task over this store. -/
inductive Reachable (c : ReadThrough (StateM σ)) (settings : RunSettings) (task : Task)
    (store : σ) : Warmup σ → Prop where
  | init : Reachable c settings task store (.start task store)
  | tail {w w' : Warmup σ} : Reachable c settings task store w → Step c settings task.id w w' →
      Reachable c settings task store w'

end Warmup

variable {c : ReadThrough (StateM σ)} {view : View σ} {settings : RunSettings} {task : Task}
  {store : σ} {w w' : Warmup σ}

theorem setFetch_own (w : Warmup σ) (tile : Grid.TileId) (s : σ) (x : Fetching) :
    (w.setFetch tile s x).fetches tile = x :=
  if_pos rfl

theorem setFetch_other {tile t : Grid.TileId} (w : Warmup σ) (s : σ) (x : Fetching)
    (h : t ≠ tile) : (w.setFetch tile s x).fetches t = w.fetches t :=
  if_neg h

theorem setFetch_self (w : Warmup σ) (tile : Grid.TileId) :
    w.setFetch tile w.store (w.fetches tile) = w := by
  have hfetches : (fun t => if t = tile then w.fetches tile else w.fetches t) = w.fetches := by
    funext t
    split
    · rename_i ht
      rw [ht]
    · rfl
  unfold Warmup.setFetch
  rw [hfetches]

theorem setFetch_twice (w : Warmup σ) (tile : Grid.TileId) (s s' : σ) (x x' : Fetching) :
    (w.setFetch tile s x).setFetch tile s' x' = w.setFetch tile s' x' := by
  have hfetches : (fun t => if t = tile then x' else (w.setFetch tile s x).fetches t)
      = fun t => if t = tile then x' else w.fetches t := by
    funext t
    split
    · rfl
    · rename_i hne
      exact setFetch_other w s x hne
  unfold Warmup.setFetch at hfetches ⊢
  rw [hfetches]

/-! ## Steps in a row -/

/-- Many steps of the fetching of one tile, with nothing else between them. -/
theorem fetch_reachable {tile : Grid.TileId} {s : σ} {x : Fetching}
    (h : Warmup.Reachable c settings task store w) (hout : tile ∈ w.scene.outs)
    (hs : FetchSteps c (Fetch.request ⟨task.id, settings.map, tile⟩) w.store (w.fetches tile) s x) :
    Warmup.Reachable c settings task store (w.setFetch tile s x) := by
  induction hs with
  | refl =>
      rw [setFetch_self]
      exact h
  | @tail s s' x x' _ hstep ih =>
      rw [← setFetch_own w tile s x] at hstep
      rw [← setFetch_twice w tile s s' x x']
      exact ih.tail (.fetch hout hstep)

/-- **A tile that is fetched in one go is one of what can come of the run.** -/
theorem throughCache_reachable {tile : Grid.TileId}
    (h : Warmup.Reachable c settings task store w) (hout : tile ∈ w.scene.outs)
    (hfresh : w.fetches tile = .start) (answer : Except Tile.Error Made)
    (hanswer : ∀ m, answer = .ok m → m.request = Fetch.request ⟨task.id, settings.map, tile⟩) :
    let f : Fetch := ⟨task.id, settings.map, tile⟩
    let fetched := (f.throughCache c fun _ => pure (answer.map Made.response)).run w.store
    let lookup := ((c.lookup f.request).run w.store).1
    Warmup.Reachable c settings task store
      (w.setFetch tile fetched.2 ⟨.over fetched.1.isOk, lookup.calls, lookup.made answer⟩) := by
  intro f fetched lookup
  have hsteps := throughCache_steps c f w.store answer hanswer
  rw [← hfresh] at hsteps
  exact fetch_reachable h hout hsteps

/-! ## Tasks that can be warmed -/

/-- The cache takes part in every tile of the task, over a backend that loses nothing, and the tiles
can be counted. -/
structure Warmable (c : ReadThrough (StateM σ)) (view : View σ) (settings : RunSettings)
    (task : Task) : Prop where
  isNew : task.IsNew
  ends : ∀ r ∈ task.ranges, r.EndsBelow
  fits : Grid.tileCount task.ranges < UInt64.size
  slash : '/' ∉ settings.map.toList
  served : ∀ t ∈ task.tiles, Served c view (Fetch.request ⟨task.id, settings.map, t⟩)
    (Fetch.key ⟨task.id, settings.map, t⟩)

theorem key_zoom (f : Fetch) : f.key.zoom = f.tile.zoom := by
  unfold Fetch.key Tile.Key.withQuery
  split <;> rfl

/-- A plan over the memory backend can be warmed. -/
theorem warmable_plan {r : Request} {p : Plan} {f : {α : Type} → StateM Entries α → StateM σ α}
    {place : σ → Entries} {cacheable : List String} {maxZoom : UInt32} (hplan : r.plan = .ok p)
    (hmap : settings.map ≠ "") (hslash : '/' ∉ settings.map.toList)
    (hcacheable : "task_id" ∈ cacheable) (haccess : Access f place)
    (hzooms : ∀ z ∈ p.zooms, z ≤ maxZoom) {startedAt : Timestamp}
    (htask : Task.ofPlan? p startedAt = some task) :
    Warmable ⟨some ((memory maxZoom).lift f), cacheable⟩ (fun s => (place s).get?) settings
      task := by
  obtain ⟨_, hlevels, hlength⟩ := plan_zooms hplan
  have hnew := ofPlan_isNew htask
  obtain ⟨_, _, rfl⟩ := ofPlan_some htask
  refine ⟨hnew, planRanges_endsBelow hlevels, planRanges_fit hlevels hlength, hslash,
    fun t ht => ⟨⟨_, rfl, lift_exact haccess (memory_exact maxZoom), ?_⟩,
      Fetch.request_cacheable _ hcacheable, Fetch.request_key _ hmap hslash⟩⟩
  rw [key_zoom]
  exact hzooms _ (mem_planTiles.mp ht).1

/-! ## The invariant -/

/-- What holds of a run and its fetches at any time. -/
structure Warmup.Sound (view : View σ) (settings : RunSettings) (task : Task) (store : σ)
    (w : Warmup σ) : Prop where
  run : Warming.Reachable settings task w.scene
  fetched : ∀ t, (w.fetches t).Sound (Fetch.request ⟨task.id, settings.map, t⟩)
    (Fetch.key ⟨task.id, settings.map, t⟩) (view store (Fetch.key ⟨task.id, settings.map, t⟩).text)
    (view w.store (Fetch.key ⟨task.id, settings.map, t⟩).text)
  /-- A tile has come back with what its fetching has come to. -/
  back : ∀ t success, ⟨t, .back success⟩ ∈ w.scene.trips → (w.fetches t).stage = .over success
  /-- A tile that is not open any more has been fetched with success, or it is missed. -/
  traced : ∀ t ∈ w.scene.submitted,
    w.scene.Open t ∨ w.scene.Short ∨ (w.fetches t).stage = .over true

theorem sound_warmupStart (view : View σ) (settings : RunSettings) (task : Task) (store : σ) :
    (Warmup.start task store).Sound view settings task store where
  run := .init
  fetched t := sound_fetchStart _ _ _
  back t success h := absurd h (by simp [Warmup.start, Scene.start])
  traced t h := absurd h (by simp [Warmup.start, Scene.start, Scene.submitted])

/-- What happens to the run leaves the fetches as they are. -/
theorem traced_step (hwarm : Warmable c view settings task) {sc : Scene}
    (h : w.Sound view settings task store) (hs : Step settings w.scene sc) :
    ∀ t ∈ sc.submitted, sc.Open t ∨ sc.Short ∨ (w.fetches t).stage = .over true := by
  intro t ht
  have htally := tally_reachable hwarm.isNew hwarm.ends hwarm.fits h.run
  rcases submitted_step hs ht with ht | hopen
  · rcases h.traced t ht with hopen | hshort | hover
    · rcases open_step htally.counted hs hopen with hopen | hshort | hback
      · exact Or.inl hopen
      · exact Or.inr (Or.inl hshort)
      · exact Or.inr (Or.inr (h.back t true hback))
    · exact Or.inr (Or.inl (short_step hshort hs))
    · exact Or.inr (Or.inr hover)
  · exact Or.inl hopen

/-- Only tiles of the task are fetched. -/
theorem outs_tiles (hwarm : Warmable c view settings task) {sc : Scene}
    (h : Reachable settings task sc) {t : Grid.TileId} (ht : t ∈ sc.outs) : t ∈ task.tiles := by
  have htally := tally_reachable hwarm.isNew hwarm.ends hwarm.fits h
  have hsubmitted := trips_submitted h ⟨t, .out⟩ (mem_outs.mp ht)
  rw [← htally.split]
  exact List.mem_append_left _ hsubmitted

/-- The fetching of one tile gets somewhere, and the others do not notice. -/
theorem sound_setFetch (hwarm : Warmable c view settings task)
    (h : w.Sound view settings task store) {tile : Grid.TileId} {s : σ} {x : Fetching}
    (hout : tile ∈ w.scene.outs)
    (hs : FetchStep c (Fetch.request ⟨task.id, settings.map, tile⟩) w.store (w.fetches tile) s x) :
    (w.setFetch tile s x).Sound view settings task store := by
  have hserved := hwarm.served tile (outs_tiles hwarm h.run hout)
  obtain ⟨hown, hothers⟩ := sound_fetchStep hserved (h.fetched tile) hs
  -- a tile whose fetching is over is not the one that was fetched
  have hover : ∀ t success, (w.fetches t).stage = .over success →
      ((w.setFetch tile s x).fetches t).stage = .over success := by
    intro t success hstage
    have hne : t ≠ tile := by
      rintro rfl
      exact over_stuck hs success hstage
    rw [setFetch_other w s x hne]
    exact hstage
  refine ⟨h.run, fun t => ?_, fun t success ht => hover t success (h.back t success ht),
    fun t ht => (h.traced t ht).imp_right (Or.imp_right (hover t true))⟩
  by_cases hsame : t = tile
  · subst hsame
    rw [setFetch_own]
    exact hown
  · have htext : (Fetch.key ⟨task.id, settings.map, t⟩).text
        ≠ (Fetch.key ⟨task.id, settings.map, tile⟩).text :=
      fun heq => hsame (Fetch.key_inj hwarm.slash heq)
    rw [setFetch_other w s x hsame]
    show Fetching.Sound _ _ _ (view s _) _
    rw [hothers _ htext]
    exact h.fetched t

/-- **Every step keeps the invariant.** -/
theorem sound_warmupStep (hwarm : Warmable c view settings task)
    (h : w.Sound view settings task store) (hs : Warmup.Step c settings task.id w w') :
    w'.Sound view settings task store := by
  cases hs with
  | proceed hs houts =>
      have htraced := traced_step hwarm h hs
      exact ⟨h.run.tail hs, h.fetched, fun t success ht => h.back t success (back_quiet hs houts ht),
        htraced⟩
  | fetch hout hs => exact sound_setFetch hwarm h hout hs
  | @comeBack before after tile success htrips hover =>
      have hs := @Step.comeBack settings _ _ _ _ success htrips
      have htraced := traced_step hwarm h hs
      refine ⟨h.run.tail hs, h.fetched, fun t success' ht => ?_, htraced⟩
      rcases mem_middle.mp ht with hnew | hold
      · split at hnew
        · exact absurd hnew (by simp)
        · cases hnew
          exact hover
      · exact h.back t success' (htrips ▸ mem_middle.mpr (Or.inr hold))

theorem sound_warmup (hwarm : Warmable c view settings task)
    (h : Warmup.Reachable c settings task store w) : w.Sound view settings task store := by
  induction h with
  | init => exact sound_warmupStart view settings task store
  | tail _ hs ih => exact sound_warmupStep hwarm ih hs

/-- **When no tile has failed, every one was fetched with success.** -/
theorem all_fetched (hwarm : Warmable c view settings task)
    (h : w.Sound view settings task store) {s : Summary} (hended : w.scene.run.phase = .ended s)
    (hgoing : s.isCancelled = false) (hfailed : s.failed = 0) :
    ∀ t ∈ task.tiles, (w.fetches t).stage = .over true := by
  have htally := tally_reachable hwarm.isNew hwarm.ends hwarm.fits h.run
  have hstanding := standing_reachable hwarm.isNew hwarm.ends hwarm.fits h.run
  unfold Standing at hstanding
  rw [hended] at hstanding
  obtain ⟨_, _, hc⟩ := hstanding
  have hsettled := hc.settled
  have hout := hsettled.out
  -- all tiles were handed out, and as many were counted
  have hdone : w.scene.run.task.total ≤ w.scene.run.task.completed := by
    cases hasked : w.scene.run.task.isCancelled with
    | false => exact Nat.le_of_eq (tally_all htally hout (hsettled.exhausted hasked) hasked).2.symm
    | true =>
        have hnot := mt hsettled.isCancelled.mpr (by rw [hgoing]; simp)
        exact Nat.not_lt.mp fun hless => hnot ⟨hasked, hless⟩
  have hsplit : w.scene.submitted.length + w.scene.run.walk.tiles.length = task.tiles.length := by
    rw [← List.length_append, htally.split]
  have hcounted := htally.counted
  have htotal := htally.total
  have hsubmitted : w.scene.submitted = task.tiles :=
    (show w.scene.submitted <+: task.tiles from ⟨_, htally.split⟩).eq_of_length (by omega)
  intro t ht
  rw [← hsubmitted] at ht
  rcases h.traced t ht with ⟨trip, hmem, _⟩ | hshort | hover
  · rw [hout] at hmem
    exact absurd hmem List.not_mem_nil
  · rcases hshort with hpositive | hless
    · rw [← hsettled.failed, hfailed] at hpositive
      exact absurd hpositive (Nat.lt_irrefl 0)
    · omega
  · exact hover

/-! ## Warming -/

/--
**A run without failures fills the cache.**

Take a plan and a map whose name can be part of a path, a cache that takes part in requests with a
task, and the memory backend with room for every level of the plan. The plan has a task. Whatever the
order of events, if its run ends without having been stopped and without failures, then every tile of
the plan was in the cache before and still is, and the generator had nothing to do with it; or the
generator answered with all of it, and if that was not nothing it is kept under the tile's key in the
scope of the task. In a later run of the same plan the generator is not called for a tile that is
kept.
-/
theorem warm_run_fills_cache {r : Request} {p : Plan}
    {f : {α : Type} → StateM Entries α → StateM σ α} {place : σ → Entries}
    {cacheable : List String} {maxZoom : UInt32}
    (hplan : r.plan = .ok p) (hmap : settings.map ≠ "") (hslash : '/' ∉ settings.map.toList)
    (hcacheable : "task_id" ∈ cacheable) (haccess : Access f place)
    (hzooms : ∀ z ∈ p.zooms, z ≤ maxZoom) (startedAt : Timestamp) :
    ∃ task, Task.ofPlan? p startedAt = some task ∧ ∀ store w s,
      Warmup.Reachable ⟨some ((memory maxZoom).lift f), cacheable⟩ settings task store w →
      w.scene.run.phase = .ended s → s.isCancelled = false → s.failed = 0 →
      ∀ t ∈ task.tiles,
        let key := (Tile.Key.ofTile settings.map t).withQuery (Url.formQuery "task_id" p.task)
        ((∃ bytes, (place store).get? key.text = some bytes ∧
            (place w.store).get? key.text = some bytes ∧ (w.fetches t).calls = 0 ∧
            (w.fetches t).answers = []) ∨
          ∃ (m : Made) (chunks : List Bytes), (w.fetches t).answers = [m] ∧
            m.request = Fetch.request ⟨p.task, settings.map, t⟩ ∧ m.items = chunks.map .ok ∧
            (chunks.flatten ≠ [] → (place w.store).get? key.text = some chunks.flatten)) ∧
        ∀ bytes, (place w.store).get? key.text = some bytes →
          ∀ startedAt' task' w', Task.ofPlan? p startedAt' = some task' →
            Warmup.Reachable ⟨some ((memory maxZoom).lift f), cacheable⟩ settings task' w.store w' →
            (w'.fetches t).calls = 0 ∧ (place w'.store).get? key.text = some bytes := by
  obtain ⟨task, _, htask, _⟩ := plan_task hplan startedAt
  have hwarm := fun {startedAt task} => @warmable_plan σ settings task r p f place cacheable maxZoom
    hplan hmap hslash hcacheable haccess hzooms startedAt
  have hname : ∀ {startedAt task}, Task.ofPlan? p startedAt = some task → task.id = p.task := by
    intro startedAt task htask
    obtain ⟨_, _, rfl⟩ := ofPlan_some htask
    rfl
  refine ⟨task, htask, fun store w s h hended hgoing hfailed t ht => ?_⟩
  have hsound := sound_warmup (hwarm htask) h
  have hfetched := hsound.fetched t
  have hover := hfetched.stage
  rw [all_fetched (hwarm htask) hsound hended hgoing hfailed t ht] at hover
  rw [hname htask] at hfetched hover
  refine ⟨?_, fun bytes hkept startedAt' task' w' htask' h' => ?_⟩
  · rcases hover with hbefore | hanswered
    · obtain ⟨bytes, hbytes⟩ := Option.ne_none_iff_exists'.mp hbefore
      obtain ⟨hcalls, hanswers, hnow⟩ := hfetched.hit bytes hbytes
      exact Or.inl ⟨bytes, hbytes, hnow, hcalls, hanswers⟩
    · obtain ⟨m, chunks, hm, hitems, hkept⟩ := hanswered
      exact Or.inr ⟨m, chunks, hm, hfetched.own m (hm ▸ List.mem_cons_self), hitems, hkept⟩
  · have hfetched' := (sound_warmup (hwarm htask') h').fetched t
    rw [hname htask'] at hfetched'
    obtain ⟨hcalls, _, hnow⟩ := hfetched'.hit bytes hkept
    exact ⟨hcalls, hnow⟩

/-- A run makes a move. Nobody comes back by that. -/
theorem act_warmup {m : Move} (room : Bool) (h : Warmup.Reachable c settings task store w)
    (hnext : w.scene.run.next? settings.maxConcurrent w.scene.delayPassed room = some m) :
    Warmup.Reachable c settings task store { w with scene := w.scene.act m } := by
  have houts : w.scene.outs <+: (w.scene.act m).outs := by
    unfold Scene.outs Scene.act
    rw [List.filterMap_append]
    exact List.prefix_append _ _
  exact h.tail (.proceed
    (.move w.scene.run.task.isCancelled w.scene.delayPassed room id id hnext) houts)

/-- The whole world in one tile. -/
def world : Request :=
  ⟨true, "world", [-180.0, -85.0, 180.0, 85.0], 0, 0⟩

/-- A generator's answer for that tile. -/
def worldTile : Made :=
  ⟨Fetch.request ⟨"world", oneByOne.map, ⟨0, 0, 0⟩⟩, 200, none, [.ok [0x1a]]⟩

def worldTask (b : Grid.Bounds) : Task :=
  { Task.counted "world" [⟨0, 0, 0, 0, 0⟩] 1 default with bounds := some b }

/-- The run of one tile from its beginning to its end. -/
theorem world_ends (b : Grid.Bounds)
    (hserved : Served c view worldTile.request (Fetch.key ⟨"world", oneByOne.map, ⟨0, 0, 0⟩⟩))
    (hempty : ∀ text, view store text = none) :
    ∃ w, Warmup.Reachable c oneByOne (worldTask b) store w ∧
      w.scene.run.phase = .ended ⟨"world", 1, 1, 0, false⟩ ∧
      (w.fetches ⟨0, 0, 0⟩).answers = [worldTile] := by
  have hbegun := act_warmup (m := .begin) false
    (@Warmup.Reachable.init σ c oneByOne (worldTask b) store) rfl
  have hout := act_warmup (m := .submit) false hbegun rfl
  have hfetched := throughCache_reachable hout List.mem_cons_self rfl (.ok worldTile)
    fun m hm => congrArg Made.request (Except.ok.inj hm).symm
  -- nothing was there, so the generator has answered, and with the whole tile
  obtain ⟨hlookup, _⟩ := lookup_exact hserved store
  rw [hempty] at hlookup
  have hwhole : ((Fetch.throughCache c (fun _ => pure (.ok worldTile.response))
      ⟨"world", oneByOne.map, ⟨0, 0, 0⟩⟩).run store).1.isOk = true :=
    @throughCache_whole _ _ _ _ _ hserved _ (hempty _) worldTile rfl [[0x1a]] rfl
  have hback := hfetched.tail (@Warmup.Step.comeBack _ _ _ _ _ [] [] _ true rfl (by
    rw [setFetch_own]
    exact congrArg FetchStage.over hwhole))
  have htold := hback.tail (.proceed (@Step.tell _ _ [] [] _ _ rfl) ⟨[], rfl⟩)
  have hfreed := htold.tail (.proceed (@Step.free _ _ [] [] _ rfl) ⟨[], rfl⟩)
  have hdrained := act_warmup (m := .collect) false (act_warmup (m := .exhaust) false hfreed rfl) rfl
  have hsettled := act_warmup (m := .settle) false hdrained rfl
  have hlate := hsettled.tail (.proceed .delay ⟨[], rfl⟩)
  have hclosed := act_warmup (m := .close) true (act_warmup (m := .release) false hlate rfl) rfl
  refine ⟨_, act_warmup (m := .leave) false hclosed rfl, rfl, ?_⟩
  exact congrArg (Lookup.made (.ok worldTile)) hlookup

theorem world_fills_cache : ∃ (p : Plan) (task : Task) (w : Warmup Entries),
    world.plan = .ok p ∧ Task.ofPlan? p default = some task ∧
    Warmup.Reachable ⟨some ((memory 22).lift fun program => program), ["task_id"]⟩ oneByOne
      task .empty w ∧
    w.store.get? (Fetch.key ⟨"world", oneByOne.map, ⟨0, 0, 0⟩⟩).text = some [0x1a] ∧
    ∀ startedAt task' w', Task.ofPlan? p startedAt = some task' →
      Warmup.Reachable ⟨some ((memory 22).lift fun program => program), ["task_id"]⟩
        oneByOne task' w.store w' → (w'.fetches ⟨0, 0, 0⟩).calls = 0 := by
  have hplan : world.plan = .ok ⟨"world",
    (⟨-180.0, -85.0, 180.0, 85.0⟩ : Grid.Bounds).normalized, [0]⟩ := rfl
  generalize (⟨-180.0, -85.0, 180.0, 85.0⟩ : Grid.Bounds).normalized = b at hplan
  have haccess : Access (fun {α : Type} (program : StateM Entries α) => program) id :=
    ⟨fun _ _ => rfl, fun _ _ => rfl⟩
  have hslash : '/' ∉ oneByOne.map.toList := by decide
  have hcacheable : "task_id" ∈ ["task_id"] := List.mem_cons_self
  have hzooms : ∀ z ∈ [(0 : UInt32)], z ≤ 22 := fun z hz => by
    rw [List.mem_singleton.mp hz]
    decide
  have hmade : Task.ofPlan? ⟨"world", b, [0]⟩ default = some (worldTask b) := by
    unfold Task.ofPlan? Plan.ranges worldTask
    rw [List.map_cons, Grid.covering_zero]
    rfl
  have htile : ⟨0, 0, 0⟩ ∈ (worldTask b).tiles := List.mem_cons_self
  have hwarm := @warmable_plan _ oneByOne _ _ _ _ _ _ 22 hplan (by decide) hslash hcacheable
    haccess hzooms _ hmade
  obtain ⟨w, hreach, hended, hanswers⟩ :=
    @world_ends _ _ _ .empty b (hwarm.served _ htile) fun _ => rfl
  obtain ⟨task, htask, hwarms⟩ :=
    warm_run_fills_cache hplan (by decide) hslash hcacheable haccess hzooms default
  obtain rfl := Option.some.inj (hmade.symm.trans htask)
  obtain ⟨hwarmed, hlater⟩ := hwarms _ w _ hreach hended rfl rfl _ htile
  -- nothing was there before, so the tile that is kept is the generator's
  have hkept : w.store.get? (Fetch.key ⟨"world", oneByOne.map, ⟨0, 0, 0⟩⟩).text
      = some [0x1a] := by
    rcases hwarmed with ⟨bytes, hbefore, _⟩ | ⟨m, chunks, hm, _, hitems, hkept⟩
    · exact absurd hbefore (by simp [Entries.get?, Entries.empty])
    · have hm' : worldTile = m := List.head_eq_of_cons_eq (hanswers.symm.trans hm)
      rw [← hm'] at hitems
      have hchunks : [[0x1a]] = chunks :=
        (List.map_inj_right fun _ _ => Except.ok.inj).mp hitems
      rw [← hchunks] at hkept
      exact hkept (by simp)
  exact ⟨_, _, w, hplan, hmade, hreach, hkept,
    fun startedAt task' w' htask' h' => (hlater _ hkept startedAt task' w' htask' h').1⟩

end TileDepot.Warming
