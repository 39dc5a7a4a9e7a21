import TileDepot.Proofs.Cache.Genuine
import TileDepot.Proofs.Tile.Paths
import TileDepot.Proofs.Url.Form
import TileDepot.Warming.Fetch

/-!
# How one tile gets into the cache

A run asks for a tile as any client does, so what it writes and what is looked up later are under one
key (`request_key`). `FetchStep` is one thing that happens to the fetching of a tile: it is looked
up, the generator is called and answers, the body is read piece by piece, and its end is written;
and it may be given up at any time. What the program does in one go is a series of such steps
(`throughCache_steps`). Over a backend that loses nothing, a fetch that succeeds leaves the tile in
the cache, and one that finds the tile there does not call the generator (`throughCache_fills`).
-/

namespace TileDepot.Warming

open Cache

namespace Fetch

/-! ## The request -/

/-- The key that the tile is kept under. -/
def key (f : Fetch) : Tile.Key :=
  (Tile.Key.ofTile f.map f.tile).withQuery (Url.formQuery "task_id" f.task)

theorem request_query (f : Fetch) : f.request.query = some (Url.formQuery "task_id" f.task) := by
  have hchars : (Url.formQuery "task_id" f.task).toList
      = 't' :: ("ask_id=".toList ++ Url.formEncode f.task) := by
    rw [Url.formQuery_task, String.toList_append]
    simp only [String.toList_ofList]
    rfl
  have hsome : (Url.formQuery "task_id" f.task).isEmpty = false := by
    rw [← Bool.not_eq_true, String.isEmpty_iff]
    intro hempty
    rw [hempty] at hchars
    exact absurd hchars (by simp)
  unfold request Tile.Request.withQuery
  dsimp only
  split
  · rename_i cs hmark
    exact absurd (List.cons.inj (hchars.symm.trans hmark)).1 (by decide)
  · rw [hsome]
    rfl

/-- **What is written and what is looked up are under one key.** -/
theorem request_key (f : Fetch) (hmap : f.map ≠ "") (hslash : '/' ∉ f.map.toList) :
    f.request.cacheKey = .ok f.key := by
  have hkey : f.request.key = .ok (Tile.Key.ofTile f.map f.tile) :=
    Tile.key_ofTile f.tile hmap hslash (by decide)
  unfold Tile.Request.cacheKey
  rw [hkey, request_query]
  rfl

theorem request_pairs (f : Fetch) : f.request.pairs = [("task_id", f.task)] := by
  unfold Tile.Request.pairs
  rw [request_query]
  exact Url.formPairs_formQuery "task_id" f.task

/-- The request of a run is cacheable if the task is something that a query may have. -/
theorem request_cacheable (f : Fetch) {cacheable : List String} (h : "task_id" ∈ cacheable) :
    isCacheable cacheable f.request = true := by
  unfold isCacheable
  rw [request_query]
  dsimp only
  rw [request_pairs, List.any_cons, Bool.or_eq_true]
  exact Or.inl (List.contains_iff_mem.mpr h)

/--
**What a run asks for is what is read.** The path names the tile and no more, the query has the
task's name and nothing else, however strange the name is, and the request is cacheable. So the
requests of two tasks for one tile have two queries.
-/
theorem request_reads_back (f : Fetch) (hmap : f.map ≠ "") (hslash : '/' ∉ f.map.toList) :
    f.request.key = .ok ⟨f.map, f.tile.zoom, f.tile.x, f.tile.y, none⟩ ∧
      f.request.pairs = [("task_id", f.task)] ∧
      isCacheable defaultCacheable f.request = true ∧
      ∀ task, (request ⟨task, f.map, f.tile⟩).query = f.request.query → task = f.task := by
  refine ⟨Tile.key_ofTile f.tile hmap hslash (by decide), request_pairs f,
    request_cacheable f List.mem_cons_self, fun task hquery => ?_⟩
  -- the query is all that the name is read from
  have hpairs : (request ⟨task, f.map, f.tile⟩).pairs = f.request.pairs := by
    unfold Tile.Request.pairs
    rw [hquery]
  rw [request_pairs, request_pairs] at hpairs
  exact congrArg Prod.snd (List.cons.inj hpairs).1

/-- A name full of signs that a query has for itself. -/
theorem strange_name_reads_back :
    ("osm" ≠ "" ∧ '/' ∉ "osm".toList) ∧
      (request ⟨"?a=b&c+d %41é🗺", "osm", ⟨3, -4, 2⟩⟩).key = .ok ⟨"osm", 3, -4, 2, none⟩ ∧
      (request ⟨"?a=b&c+d %41é🗺", "osm", ⟨3, -4, 2⟩⟩).pairs
        = [("task_id", "?a=b&c+d %41é🗺")] := by
  have hmap : "osm" ≠ "" := by decide
  have hslash : '/' ∉ "osm".toList := by decide
  obtain ⟨hkey, hpairs, _⟩ :=
    request_reads_back ⟨"?a=b&c+d %41é🗺", "osm", ⟨3, -4, 2⟩⟩ hmap hslash
  exact ⟨⟨hmap, hslash⟩, hkey, hpairs⟩

theorem key_plain (f : Fetch) (hslash : '/' ∉ f.map.toList) : f.key.Plain := by
  refine ⟨hslash, fun g hg => ?_⟩
  unfold key Tile.Key.withQuery at hg
  dsimp only at hg
  split at hg
  · exact absurd hg (by simp)
  · exact ⟨_, (Option.some.inj hg).symm⟩

/-- Two tiles of one run have two entries. -/
theorem key_inj {task map : String} {t t' : Grid.TileId} (hslash : '/' ∉ map.toList)
    (h : (key ⟨task, map, t⟩).text = (key ⟨task, map, t'⟩).text) : t = t' :=
  ((Tile.text_eq_iff (key_plain ⟨task, map, t⟩ hslash) (key_plain ⟨task, map, t'⟩ hslash)).mp h).1

end Fetch

/-! ## The steps of a fetch -/

/-- How far the fetching of a tile has come. -/
inductive FetchStage where
  | fresh
  | found (lookup : Lookup)
  /-- The generator has been called. -/
  | asked (lookup : Lookup)
  | reading (body : Tile.Body)
  | writing (write : Option (Tile.Key × Bytes))
  | over (success : Bool)

/-- The fetching of a tile, with a record of what the generator had to do with it. -/
structure Fetching where
  stage : FetchStage
  /-- How often the generator was called. -/
  calls : Nat
  /-- What the generator answered. -/
  answers : List Made

def Fetching.start : Fetching := ⟨.fresh, 0, []⟩

variable {σ : Type}

/-- One thing that happens to the fetching of a tile, and to the store. -/
inductive FetchStep (c : ReadThrough (StateM σ)) (request : Tile.Request) :
    σ → Fetching → σ → Fetching → Prop where
  | lookUp {s : σ} {calls : Nat} {answers : List Made} :
      FetchStep c request s ⟨.fresh, calls, answers⟩ ((c.lookup request).run s).2
        ⟨.found ((c.lookup request).run s).1, calls, answers⟩
  | hit {s : σ} {calls : Nat} {answers : List Made} {bytes : Bytes} :
      FetchStep c request s ⟨.found (.hit bytes), calls, answers⟩ s
        ⟨.reading (hitResponse bytes).body, calls, answers⟩
  | call {s : σ} {calls : Nat} {answers : List Made} {lookup : Lookup} :
      (∀ bytes, lookup ≠ .hit bytes) →
      FetchStep c request s ⟨.found lookup, calls, answers⟩ s ⟨.asked lookup, calls + 1, answers⟩
  /-- An answer that is no success is an error. -/
  | answer {s : σ} {calls : Nat} {answers : List Made} {lookup : Lookup} {m : Made}
      {response : Tile.Response} : m.request = request →
      lookup.complete (.ok m.response) = .ok response →
      FetchStep c request s ⟨.asked lookup, calls, answers⟩ s
        ⟨if response.isSuccess then .reading response.body else .over false, calls, answers ++ [m]⟩
  /-- The generator fails. -/
  | refuse {s : σ} {calls : Nat} {answers : List Made} {lookup : Lookup} :
      FetchStep c request s ⟨.asked lookup, calls, answers⟩ s ⟨.over false, calls, answers⟩
  | read {s : σ} {calls : Nat} {answers : List Made} {body rest : Tile.Body} {chunk : Bytes} :
      body.next = .item (.ok chunk) rest →
      FetchStep c request s ⟨.reading body, calls, answers⟩ s ⟨.reading rest, calls, answers⟩
  /-- The body breaks off. -/
  | fail {s : σ} {calls : Nat} {answers : List Made} {body rest : Tile.Body} {e : Tile.Error} :
      body.next = .item (.error e) rest →
      FetchStep c request s ⟨.reading body, calls, answers⟩ s ⟨.over false, calls, answers⟩
  | finish {s : σ} {calls : Nat} {answers : List Made} {body : Tile.Body}
      {write : Option (Tile.Key × Bytes)} : body.next = .done write →
      FetchStep c request s ⟨.reading body, calls, answers⟩ s ⟨.writing write, calls, answers⟩
  | commit {s : σ} {calls : Nat} {answers : List Made} {write : Option (Tile.Key × Bytes)} :
      FetchStep c request s ⟨.writing write, calls, answers⟩ ((c.commit write).run s).2
        ⟨.over true, calls, answers⟩
  /-- The time for the tile is up. -/
  | giveUp {s : σ} {x : Fetching} : (∀ success, x.stage ≠ .over success) →
      FetchStep c request s x s { x with stage := .over false }

/-- Steps in a row. -/
inductive FetchSteps (c : ReadThrough (StateM σ)) (request : Tile.Request) (s : σ) (x : Fetching) :
    σ → Fetching → Prop where
  | refl : FetchSteps c request s x s x
  | tail {s' s'' : σ} {x' x'' : Fetching} : FetchSteps c request s x s' x' →
      FetchStep c request s' x' s'' x'' → FetchSteps c request s x s'' x''

/-- **A body that is read in one go is read by steps.** -/
theorem drain_steps {c : ReadThrough (StateM σ)} {request : Tile.Request} {s₀ s : σ}
    {x₀ : Fetching} {body : Tile.Body} {calls : Nat} {answers : List Made}
    (h : FetchSteps c request s₀ x₀ s ⟨.reading body, calls, answers⟩) :
    FetchSteps c request s₀ x₀ ((c.drain body).run s).2
      ⟨.over ((c.drain body).run s).1.isOk, calls, answers⟩ := by
  obtain ⟨items, capture⟩ := body
  unfold ReadThrough.drain
  dsimp only
  generalize hkept : ([] : List Bytes) = kept
  clear hkept
  induction items generalizing capture kept with
  | nil => exact (h.tail (.finish rfl)).tail .commit
  | cons i is ih =>
      cases i with
      | error e => exact h.tail (.fail rfl)
      | ok chunk => exact ih _ (h.tail (.read rfl)) _

/-- What becomes of the generator's answer. -/
theorem answer_steps {c : ReadThrough (StateM σ)} {request : Tile.Request} {s₀ s : σ}
    {x₀ : Fetching} {lookup : Lookup} {calls : Nat} {answers : List Made}
    (h : FetchSteps c request s₀ x₀ s ⟨.asked lookup, calls, answers⟩) (path : String)
    {answer : Except Tile.Error Made} (hanswer : ∀ m, answer = .ok m → m.request = request) :
    FetchSteps c request s₀ x₀
      ((Fetch.complete c path (lookup.complete (answer.map Made.response))).run s).2
      ⟨.over ((Fetch.complete c path (lookup.complete (answer.map Made.response))).run s).1.isOk,
        calls, answers ++ answer.toOption.toList⟩ := by
  cases answer with
  | error e =>
      have hfailed : lookup.complete (.error e) = .error e := by cases lookup <;> rfl
      rw [Except.map, hfailed]
      show FetchSteps _ _ _ _ _ ⟨_, _, answers ++ []⟩
      rw [List.append_nil]
      exact h.tail .refuse
  | ok m =>
      obtain ⟨response, hresponse⟩ : ∃ r, lookup.complete (.ok m.response) = .ok r := by
        cases lookup <;> exact ⟨_, rfl⟩
      have hstep := h.tail (.answer (hanswer m rfl) hresponse)
      rw [Except.map, hresponse]
      unfold Fetch.complete
      dsimp only
      cases hsuccess : response.isSuccess with
      | true =>
          rw [hsuccess] at hstep
          exact drain_steps hstep
      | false =>
          rw [hsuccess] at hstep
          exact hstep

theorem throughCache_run (c : ReadThrough (StateM σ)) (f : Fetch)
    (answer : Except Tile.Error Tile.Response) (s : σ) :
    (f.throughCache c fun _ => pure answer).run s =
      (Fetch.complete c f.request.path (match ((c.lookup f.request).run s).1 with
        | .hit bytes => .ok (hitResponse bytes)
        | l => l.complete answer)).run ((c.lookup f.request).run s).2 := by
  unfold Fetch.throughCache
  rw [StateT.run_bind, serve_run]
  rfl

/-- **A tile that is fetched in one go is fetched by steps**: the generator is called, and has
answered, as the look-up lets it, and the tile comes back as a success if its body could be read to
the end. -/
theorem throughCache_steps (c : ReadThrough (StateM σ)) (f : Fetch) (s : σ)
    (answer : Except Tile.Error Made) (hanswer : ∀ m, answer = .ok m → m.request = f.request) :
    FetchSteps c f.request s .start
      ((f.throughCache c fun _ => pure (answer.map Made.response)).run s).2
      ⟨.over ((f.throughCache c fun _ => pure (answer.map Made.response)).run s).1.isOk,
        ((c.lookup f.request).run s).1.calls, ((c.lookup f.request).run s).1.made answer⟩ := by
  have hfound := FetchSteps.refl.tail (@FetchStep.lookUp σ c f.request s 0 [])
  rw [throughCache_run]
  generalize (c.lookup f.request).run s = found at hfound ⊢
  obtain ⟨lookup, s'⟩ := found
  cases lookup with
  | hit bytes => exact drain_steps (hfound.tail .hit)
  | bypass => exact answer_steps (hfound.tail (.call (by simp))) f.request.path hanswer
  | miss key => exact answer_steps (hfound.tail (.call (by simp))) f.request.path hanswer

/-! ## What a fetch leaves behind -/

/-- A request that the cache takes part in, over a backend that loses nothing. -/
structure Served (c : ReadThrough (StateM σ)) (view : View σ) (request : Tile.Request)
    (key : Tile.Key) : Prop where
  backend : ∃ b, c.backend = some b ∧ b.Exact view ∧ key.zoom ≤ b.maxZoom
  cacheable : isCacheable c.cacheable request = true
  key : request.cacheKey = .ok key

variable {c : ReadThrough (StateM σ)} {view : View σ} {request : Tile.Request} {key : Tile.Key}

/-- What a look-up says of what is kept under the key. -/
def lookupOf (key : Tile.Key) : Option Bytes → Lookup
  | some bytes => .hit bytes
  | none => .miss key

theorem lookup_exact (h : Served c view request key) (s : σ) :
    ((c.lookup request).run s).1 = lookupOf key (view s key.text) ∧
      view ((c.lookup request).run s).2 = view s := by
  obtain ⟨b, hb, hexact, _⟩ := h.backend
  rw [lookup_run hb h.cacheable h.key]
  refine ⟨?_, hexact.get_view key s⟩
  rw [hexact.get_result]
  cases view s key.text <;> rfl

theorem commit_exact (h : Served c view request key) (bytes : Bytes) (s : σ) (text : String) :
    view ((c.commit (some (key, bytes))).run s).2 text
      = if text = key.text then some bytes else view s text := by
  obtain ⟨b, hb, hexact, hzoom⟩ := h.backend
  have hrun : ((c.commit (some (key, bytes))).run s).2 = ((b.set key bytes).run s).2 := by
    unfold ReadThrough.commit
    rw [hb]
    rfl
  rw [hrun]
  exact hexact.set_view key bytes s hzoom text

/-- What is true of a fetch at each of its stops. Before it began, `before` was kept under the key,
and now it is `now`. -/
def FetchStage.Sound (key : Tile.Key) (before now : Option Bytes) (answers : List Made) :
    FetchStage → Prop
  | .fresh => now = before ∧ answers = []
  | .found lookup => lookup = lookupOf key before ∧ answers = []
  | .asked lookup => lookup = .miss key ∧ before = none ∧ answers = []
  | .reading body => before ≠ none ∧ body.capture = none ∨
      ∃ (m : Made) (cap : Tile.Capture) (read : List Tile.Item), answers = [m] ∧
        body.capture = some cap ∧ cap.key = key ∧ cap.failed = false ∧ Captured cap read ∧
        m.items = read ++ body.items
  | .writing write => before ≠ none ∧ write = none ∨
      ∃ (m : Made) (chunks : List Bytes), answers = [m] ∧ m.items = chunks.map .ok ∧
        write = if chunks.flatten = [] then none else some (key, chunks.flatten)
  | .over true => before ≠ none ∨
      ∃ (m : Made) (chunks : List Bytes), answers = [m] ∧ m.items = chunks.map .ok ∧
        (chunks.flatten ≠ [] → now = some chunks.flatten)
  | .over false => True

structure Fetching.Sound (request : Tile.Request) (key : Tile.Key) (before now : Option Bytes)
    (x : Fetching) : Prop where
  /-- The generator answers what it is asked. -/
  own : ∀ m ∈ x.answers, m.request = request
  /-- What was there stays, and the generator is not called for it. -/
  hit : ∀ bytes, before = some bytes → x.calls = 0 ∧ x.answers = [] ∧ now = some bytes
  stage : x.stage.Sound key before now x.answers

theorem sound_fetchStart (request : Tile.Request) (key : Tile.Key) (before : Option Bytes) :
    Fetching.start.Sound request key before before :=
  ⟨fun _ h => absurd h List.not_mem_nil, fun _ h => ⟨rfl, rfl, h⟩, rfl, rfl⟩

/-- The generator's answer is captured if it is a success. -/
theorem answer_captured {m : Made} {response : Tile.Response}
    (h : (Lookup.miss key).complete (.ok m.response) = .ok response)
    (hsuccess : response.isSuccess = true) :
    response.body.capture = some (.start key) ∧ response.body.items = m.items := by
  have hresponse : missResponse key m.response = response := Except.ok.inj h
  subst hresponse
  have hsuccess' : m.response.isSuccess = true := hsuccess
  unfold missResponse
  dsimp only
  rw [hsuccess']
  exact ⟨rfl, rfl⟩

/-- At its end a captured body asks to write all of it, unless that is nothing. -/
theorem write_all {cap : Tile.Capture} (hclean : cap.failed = false) :
    cap.write? = if cap.chunks.reverse.flatten = [] then none
      else some (cap.key, cap.chunks.reverse.flatten) := by
  unfold Tile.Capture.write? Tile.Capture.bytes
  rw [hclean, Bool.false_or]
  by_cases hempty : cap.chunks.reverse.flatten = []
  · rw [if_pos hempty, if_pos (List.isEmpty_iff.mpr hempty)]
  · rw [if_neg hempty, if_neg (fun h => hempty (List.isEmpty_iff.mp h))]

/-- Reading on. -/
theorem reading_sound {before now : Option Bytes} {answers : List Made} {body rest : Tile.Body}
    {chunk : Bytes} (h : (FetchStage.reading body).Sound key before now answers)
    (hnext : body.next = .item (.ok chunk) rest) :
    (FetchStage.reading rest).Sound key before now answers := by
  obtain ⟨items, capture⟩ := body
  cases items with
  | nil => exact absurd hnext (by simp [Tile.Body.next])
  | cons i is =>
      obtain ⟨rfl, rfl⟩ := Tile.Body.Step.item.inj hnext
      rcases h with ⟨hbefore, hnone⟩ | ⟨m, cap, read, hm, hcap, hkey, hclean, hread, hitems⟩
      · have hnone' : capture = none := hnone
        rw [hnone']
        exact Or.inl ⟨hbefore, rfl⟩
      · have hcap' : capture = some cap := hcap
        rw [hcap']
        refine Or.inr ⟨m, cap.note (.ok chunk), read ++ [.ok chunk], hm, rfl, hkey, hclean,
          captured_note hread _, ?_⟩
        rw [hitems, List.append_assoc]
        rfl

/-- Coming to the end. -/
theorem writing_sound {before now : Option Bytes} {answers : List Made} {body : Tile.Body}
    {write : Option (Tile.Key × Bytes)}
    (h : (FetchStage.reading body).Sound key before now answers)
    (hnext : body.next = .done write) :
    (FetchStage.writing write).Sound key before now answers := by
  obtain ⟨items, capture⟩ := body
  cases items with
  | cons i is => exact absurd hnext (by simp [Tile.Body.next])
  | nil =>
      have hwrite : capture.bind Tile.Capture.write? = write := Tile.Body.Step.done.inj hnext
      rcases h with ⟨hbefore, hnone⟩ | ⟨m, cap, read, hm, hcap, hkey, hclean, hread, hitems⟩
      · have hnone' : capture = none := hnone
        rw [hnone'] at hwrite
        exact Or.inl ⟨hbefore, hwrite.symm⟩
      · -- nothing is left to read, so what was read is the whole answer
        have hcap' : capture = some cap := hcap
        rw [hcap'] at hwrite
        refine Or.inr ⟨m, cap.chunks.reverse, hm, ?_, ?_⟩
        · rw [hitems, List.append_nil]
          exact hread hclean
        · rw [← hwrite, ← hkey]
          exact write_all hclean

/-- Writing what was read. -/
theorem over_sound {before : Option Bytes} {s : σ} {x : Fetching}
    {write : Option (Tile.Key × Bytes)} (h : Served c view request key)
    (hx : x.Sound request key before (view s key.text)) (hstage : x.stage = .writing write) :
    ({ x with stage := .over true } : Fetching).Sound request key before
        (view ((c.commit write).run s).2 key.text) ∧
      ∀ text, text ≠ key.text → view ((c.commit write).run s).2 text = view s text := by
  obtain ⟨hown, hhit, hwriting⟩ := hx
  rw [hstage] at hwriting
  rcases hwriting with ⟨hbefore, rfl⟩ | ⟨m, chunks, hm, hitems, rfl⟩
  · rw [commit_none]
    exact ⟨⟨hown, hhit, Or.inl hbefore⟩, fun _ _ => rfl⟩
  · by_cases hempty : chunks.flatten = []
    · rw [if_pos hempty, commit_none]
      exact ⟨⟨hown, hhit, Or.inr ⟨m, chunks, hm, hitems, fun hno => absurd hempty hno⟩⟩,
        fun _ _ => rfl⟩
    · rw [if_neg hempty]
      refine ⟨⟨hown, fun bytes hb => ?_, Or.inr ⟨m, chunks, hm, hitems, fun _ => ?_⟩⟩,
        fun text hother => ?_⟩
      · -- the generator has answered, so nothing was there before
        have hnone := (hhit bytes hb).2.1
        exact absurd (hnone.symm.trans hm) (by simp)
      · rw [commit_exact h, if_pos rfl]
      · rw [commit_exact h, if_neg hother]

/-- **What one step does to a fetch and to what is kept.** Other entries are not touched. -/
theorem sound_fetchStep {before : Option Bytes} {s s' : σ} {x x' : Fetching}
    (h : Served c view request key)
    (hx : x.Sound request key before (view s key.text)) (hs : FetchStep c request s x s' x') :
    x'.Sound request key before (view s' key.text) ∧
      ∀ text, text ≠ key.text → view s' text = view s text := by
  have hown := hx.own
  have hhit := hx.hit
  have hstage := hx.stage
  cases hs with
  | lookUp =>
      obtain ⟨hfound, hview⟩ := lookup_exact h s
      obtain ⟨hnow, hanswers⟩ := hstage
      rw [hview, hfound, hnow]
      exact ⟨⟨hown, fun bytes hb => ⟨(hhit bytes hb).1, hanswers, hb⟩, rfl, hanswers⟩,
        fun _ _ => rfl⟩
  | hit =>
      obtain ⟨hlookup, _⟩ := hstage
      refine ⟨⟨hown, hhit, Or.inl ⟨fun hnone => ?_, rfl⟩⟩, fun _ _ => rfl⟩
      rw [hnone] at hlookup
      exact absurd hlookup (by simp [lookupOf])
  | call hlookup =>
      obtain ⟨hfound, hanswers⟩ := hstage
      cases hbefore : before with
      | some bytes =>
          rw [hbefore] at hfound
          exact absurd hfound (hlookup bytes)
      | none =>
          rw [hbefore] at hfound
          exact ⟨⟨hown, fun _ hb => absurd hb (by simp), hfound, rfl, hanswers⟩, fun _ _ => rfl⟩
  | @answer calls answers lookup m response hm hresponse =>
      obtain ⟨rfl, hbefore, rfl⟩ := hstage
      refine ⟨⟨fun m' hm' => List.mem_singleton.mp hm' ▸ hm,
        fun bytes hb => absurd (hbefore.symm.trans hb) (by simp), ?_⟩, fun _ _ => rfl⟩
      cases hsuccess : response.isSuccess with
      | false => trivial
      | true =>
          obtain ⟨hcapture, hitems⟩ := answer_captured hresponse hsuccess
          exact Or.inr ⟨m, .start key, [], rfl, hcapture, rfl, rfl, captured_start key, hitems.symm⟩
  | refuse => exact ⟨⟨hown, hhit, trivial⟩, fun _ _ => rfl⟩
  | read hnext => exact ⟨⟨hown, hhit, reading_sound hstage hnext⟩, fun _ _ => rfl⟩
  | fail => exact ⟨⟨hown, hhit, trivial⟩, fun _ _ => rfl⟩
  | finish hnext => exact ⟨⟨hown, hhit, writing_sound hstage hnext⟩, fun _ _ => rfl⟩
  | commit => exact over_sound h hx rfl
  | giveUp => exact ⟨⟨hown, hhit, trivial⟩, fun _ _ => rfl⟩

theorem sound_fetchSteps {s s' : σ} {x : Fetching} (h : Served c view request key)
    (hs : FetchSteps c request s .start s' x) :
    x.Sound request key (view s key.text) (view s' key.text) ∧
      ∀ text, text ≠ key.text → view s' text = view s text := by
  induction hs with
  | refl => exact ⟨sound_fetchStart request key _, fun _ _ => rfl⟩
  | tail _ hstep ih =>
      obtain ⟨hsound, hothers⟩ := ih
      obtain ⟨hsound', hothers'⟩ := sound_fetchStep h hsound hstep
      exact ⟨hsound', fun text hne => (hothers' text hne).trans (hothers text hne)⟩

/--
**What it means to fetch a tile through the cache.**

A tile that is kept stays as it is, and the generator is not called. If nothing is kept, the tile can
come back as a success only if the generator has answered with all of it, and this is kept from then
on, unless it is nothing. Either way all other entries stay as they are.
-/
theorem throughCache_fills {f : Fetch} (h : Served c view f.request key) (s : σ)
    (answer : Except Tile.Error Made) (hanswer : ∀ m, answer = .ok m → m.request = f.request) :
    let fetched := (f.throughCache c fun _ => pure (answer.map Made.response)).run s
    (∀ bytes, view s key.text = some bytes →
      ((c.lookup f.request).run s).1.calls = 0 ∧ view fetched.2 key.text = some bytes) ∧
    (view s key.text = none → fetched.1.isOk = true → ∃ (m : Made) (chunks : List Bytes),
      answer = .ok m ∧ m.items = chunks.map .ok ∧
        (chunks.flatten ≠ [] → view fetched.2 key.text = some chunks.flatten)) ∧
    ∀ text, text ≠ key.text → view fetched.2 text = view s text := by
  intro fetched
  obtain ⟨hsound, hothers⟩ := sound_fetchSteps h (throughCache_steps c f s answer hanswer)
  refine ⟨fun bytes hbytes => ?_, fun hnone hok => ?_, hothers⟩
  · obtain ⟨hcalls, _, hkept⟩ := hsound.hit bytes hbytes
    exact ⟨hcalls, hkept⟩
  · have hstage := hsound.stage
    rw [show (_ : Except Tile.Error Bytes).isOk = true from hok] at hstage
    rcases hstage with hbefore | ⟨m, chunks, hm, hitems, hkept⟩
    · exact absurd hnone hbefore
    · refine ⟨m, chunks, ?_, hitems, hkept⟩
      -- nothing was found, so what the generator has made is its answer
      obtain ⟨hlookup, _⟩ := lookup_exact h s
      rw [hlookup, hnone] at hm
      cases answer with
      | error e => exact absurd hm (by simp [lookupOf, Lookup.made, Except.toOption])
      | ok m' => exact congrArg _ (List.head_eq_of_cons_eq hm)

/-- A fetch that has come back takes no steps. -/
theorem over_stuck {s s' : σ} {x x' : Fetching} (hs : FetchStep c request s x s' x')
    (success : Bool) : x.stage ≠ .over success := by
  cases hs with
  | giveUp hout => exact hout success
  | _ => exact fun h => absurd h (by simp)

theorem drain_whole (c : ReadThrough (StateM σ)) (chunks : List Bytes) (s : σ)
    (capture : Option Tile.Capture) (kept : List Bytes) :
    ((c.drainItems capture kept (chunks.map .ok)).run s).1.isOk = true := by
  induction chunks generalizing capture kept with
  | nil => rfl
  | cons chunk chunks ih => exact ih _ _

/-- **A tile that is not there yet can be fetched** if the generator answers with all of it. -/
theorem throughCache_whole {f : Fetch} (h : Served c view f.request key) {s : σ}
    (hnone : view s key.text = none) {m : Made} (hsuccess : m.response.isSuccess = true)
    {chunks : List Bytes} (hitems : m.items = chunks.map .ok) :
    ((f.throughCache c fun _ => pure (.ok m.response)).run s).1.isOk = true := by
  obtain ⟨hfound, _⟩ := lookup_exact h s
  have hsuccess' : (missResponse key m.response).isSuccess = true := hsuccess
  obtain ⟨_, hbody⟩ := answer_captured (m := m) rfl hsuccess'
  rw [throughCache_run, hfound, hnone]
  show ((Fetch.complete c _ (.ok (missResponse key m.response))).run _).1.isOk = true
  unfold Fetch.complete
  dsimp only
  rw [if_pos hsuccess', ReadThrough.drain, hbody, hitems]
  exact drain_whole c chunks _ _ []

end TileDepot.Warming
