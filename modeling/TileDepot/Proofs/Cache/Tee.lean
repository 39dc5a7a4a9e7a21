import TileDepot.Proofs.Cache.Genuine

/-!
# A captured body is read like any other

A reader of a captured body sees the pieces that the generator made, and the cache is called once or
never: after the last piece, before the reader is told of the end, with all that was read, and only
if that is something without errors. Readers that stop earlier leave no call, and no answer of the
cache reaches the reader (`capture_is_faithful`).

`events` says in one list what readings of a body make happen, so that the order can be seen;
`read_perform` is that reading with a cache does just this. The capture follows what was read
(`Follows`), its flag as well as its chunks, and every piece keeps that up (`follows_note`).
-/

namespace TileDepot.Cache

/-! ## What happens while a body is read -/

/-- What reading a body makes happen. -/
inductive Event where
  /-- A piece is handed to the reader. -/
  | handed (i : Tile.Item)
  /-- The cache is asked to keep these bytes. -/
  | called (key : Tile.Key) (bytes : Bytes)
  /-- The reader is told that there is nothing more. -/
  | ended

/-- What the end of a body makes happen. -/
def ending : Option (Tile.Key × Bytes) → List Event
  | none => [.ended]
  | some (key, bytes) => [.called key bytes, .ended]

/-- What up to `n` readings make happen. -/
def events : Nat → Tile.Body → List Event
  | 0, _ => []
  | n + 1, b =>
    match b.next with
    | .item i rest => .handed i :: events n rest
    | .done write => ending write

/-- What the reader sees of an event. -/
def Event.seen? : Event → Option (Option Tile.Item)
  | .handed i => some (some i)
  | .called _ _ => none
  | .ended => some none

section

variable {m : Type → Type} [Monad m]

/-- Makes events happen with a cache. The result is what the reader sees. -/
def ReadThrough.perform (c : ReadThrough m) : List Event → m (List (Option Tile.Item))
  | [] => return []
  | .handed i :: es => return some i :: (← c.perform es)
  | .called key bytes :: es => do
    c.commit (some (key, bytes))
    c.perform es
  | .ended :: es => return none :: (← c.perform es)

/-- Only the calls among the events. -/
def ReadThrough.calls (c : ReadThrough m) : List Event → m Unit
  | [] => return ()
  | .called key bytes :: es => do
    c.commit (some (key, bytes))
    c.calls es
  | _ :: es => c.calls es

variable [LawfulMonad m]

theorem perform_ending (c : ReadThrough m) (write : Option (Tile.Key × Bytes)) :
    c.perform (ending write) = do
      c.commit write
      return [none] := by
  cases write with
  | some w => simp [ending, ReadThrough.perform]
  | none => simp [ending, ReadThrough.perform, commit_none]

/-- **Reading makes happen what `events` says.** -/
theorem read_perform (c : ReadThrough m) (n : Nat) :
    ∀ b : Tile.Body, c.read n b = c.perform (events n b) := by
  induction n with
  | zero => exact fun b => rfl
  | succ n ih =>
      intro b
      rw [ReadThrough.read, events]
      cases b.next with
      | item i rest =>
          dsimp only
          rw [ih rest, ReadThrough.perform]
      | done write => exact (perform_ending c write).symm

/-- What the reader sees does not depend on what the cache answers. -/
theorem perform_seen (c : ReadThrough m) (es : List Event) : c.perform es = do
    c.calls es
    return es.filterMap Event.seen? := by
  induction es with
  | nil => simp [ReadThrough.perform, ReadThrough.calls]
  | cons e es ih =>
      cases e with
      | handed i => simp [ReadThrough.perform, ReadThrough.calls, ih, Event.seen?]
      | ended => simp [ReadThrough.perform, ReadThrough.calls, ih, Event.seen?]
      | called key bytes =>
          have hunseen : (Event.called key bytes :: es).filterMap Event.seen?
              = es.filterMap Event.seen? := rfl
          rw [ReadThrough.perform, ReadThrough.calls, ih, hunseen, bind_assoc]

/-! ## Draining is reading up to the first error -/

/-- As many pieces as there are up to the first error, or else all of them and the end. -/
def readingsToDrain : List Tile.Item → Nat
  | .ok _ :: is => readingsToDrain is + 1
  | .error _ :: _ => 1
  | [] => 1

/-- What a reader of these pieces has in total. -/
def total : List (Option Tile.Item) → Except Tile.Error Bytes
  | some (.ok chunk) :: ps => (total ps).map (chunk ++ ·)
  | some (.error e) :: _ => .error e
  | _ => .ok []

theorem drainItems_reads (c : ReadThrough m) (items : List Tile.Item) :
    ∀ (capture : Option Tile.Capture) (kept : List Bytes),
      c.drainItems capture kept items = do
        let ps ← c.read (readingsToDrain items) ⟨items, capture⟩
        return (total ps).map (kept.reverse.flatten ++ ·) := by
  induction items with
  | nil =>
      intro capture kept
      simp [ReadThrough.drainItems, readingsToDrain, ReadThrough.read, Tile.Body.next, total,
        Except.map]
  | cons i items ih =>
      intro capture kept
      cases i with
      | error e =>
          simp [ReadThrough.drainItems, readingsToDrain, ReadThrough.read, Tile.Body.next, total,
            Except.map]
      | ok chunk =>
          have hkept : ∀ answer : Except Tile.Error Bytes,
              answer.map ((chunk :: kept).reverse.flatten ++ ·)
                = (answer.map (chunk ++ ·)).map (kept.reverse.flatten ++ ·) := by
            intro answer
            cases answer with
            | error e => rfl
            | ok bytes => simp [Except.map]
          rw [ReadThrough.drainItems, ih, readingsToDrain, ReadThrough.read]
          simp only [Tile.Body.next, total, hkept, bind_assoc, pure_bind]

/-- **Draining a body is one way to read it**, so what holds of readers holds of it. -/
theorem drain_reads (c : ReadThrough m) (b : Tile.Body) : c.drain b = do
    let ps ← c.read (readingsToDrain b.items) b
    return total ps := by
  have hid : ∀ answer : Except Tile.Error Bytes, answer.map (([] : Bytes) ++ ·) = answer := by
    intro answer
    cases answer with
    | error e => rfl
    | ok bytes => rfl
  rw [ReadThrough.drain, drainItems_reads]
  simp only [List.reverse_nil, List.flatten_nil, hid]

end

/-! ## The capture follows the reader -/

/-- Pieces without an error, with something in them. -/
def Clean (items : List Tile.Item) (bytes : Bytes) : Prop :=
  bytes ≠ [] ∧ ∃ chunks : List Bytes, items = chunks.map .ok ∧ chunks.flatten = bytes

/-- The capture has what was read, and knows whether there was an error in it. -/
structure Follows (key : Tile.Key) (cap : Tile.Capture) (read : List Tile.Item) : Prop where
  key : cap.key = key
  chunks : Captured cap read
  failed : cap.failed = true → ∃ e, .error e ∈ read

theorem follows_start (key : Tile.Key) : Follows key (.start key) [] where
  key := rfl
  chunks := captured_start key
  failed h := absurd h (by simp [Tile.Capture.start])

theorem follows_note {key : Tile.Key} {cap : Tile.Capture} {read : List Tile.Item}
    (h : Follows key cap read) (i : Tile.Item) : Follows key (cap.note i) (read ++ [i]) where
  key := (note_key cap i).trans h.key
  chunks := captured_note h.chunks i
  failed := by
    intro hfailed
    cases i with
    | error e => exact ⟨e, by simp⟩
    | ok chunk =>
        -- a chunk leaves the flag as it is, so the error was read before
        obtain ⟨e, he⟩ := h.failed hfailed
        exact ⟨e, List.mem_append_left _ he⟩

/-- **What the capture asks to write.** It is what was read, if that is clean. -/
theorem write_iff {key : Tile.Key} {cap : Tile.Capture} {read : List Tile.Item}
    (h : Follows key cap read) (w : Tile.Key × Bytes) :
    cap.write? = some w ↔ ∃ bytes, w = (key, bytes) ∧ Clean read bytes := by
  constructor
  · intro hwrite
    obtain ⟨hkey, hne, chunks⟩ := write_captured h.chunks hwrite
    exact ⟨w.2, by rw [← h.key, ← hkey], hne, chunks⟩
  · rintro ⟨bytes, rfl, hne, chunks, hread, hbytes⟩
    have hclean : cap.failed = false := by
      rw [← Bool.not_eq_true]
      intro hfailed
      obtain ⟨e, he⟩ := h.failed hfailed
      rw [hread] at he
      obtain ⟨_, _, heq⟩ := List.mem_map.mp he
      exact absurd heq (by simp)
    have hchunks : cap.chunks.reverse = chunks :=
      (List.map_inj_right fun _ _ => Except.ok.inj).mp ((h.chunks hclean).symm.trans hread)
    have hcap : cap.bytes = bytes := by rw [Tile.Capture.bytes, hchunks, hbytes]
    have hempty : cap.bytes.isEmpty = false := by simpa [hcap] using hne
    unfold Tile.Capture.write?
    rw [hclean, hempty, h.key, hcap]
    rfl

/-- **A captured body from one piece to the next.** By induction on the pieces to come: those read
before are in the capture. -/
theorem events_follow {key : Tile.Key} (items : List Tile.Item) :
    ∀ {cap : Tile.Capture} {read : List Tile.Item}, Follows key cap read →
      ∃ last, Follows key last (read ++ items) ∧ ∀ n, events n ⟨items, some cap⟩
        = (items.take n).map .handed ++ if n ≤ items.length then [] else ending last.write? := by
  induction items with
  | nil =>
      intro cap read h
      refine ⟨cap, by rwa [List.append_nil], fun n => ?_⟩
      cases n with
      | zero => rfl
      | succ n => rfl
  | cons i items ih =>
      intro cap read h
      obtain ⟨last, hlast, hevents⟩ := ih (follows_note h i)
      refine ⟨last, by rwa [List.append_assoc] at hlast, fun n => ?_⟩
      cases n with
      | zero => rfl
      | succ n =>
          have hnext : events (n + 1) ⟨i :: items, some cap⟩
              = .handed i :: events n ⟨items, some (cap.note i)⟩ := rfl
          rw [hnext, hevents n, List.take_succ_cons, List.map_cons, List.cons_append,
            List.length_cons]
          simp only [Nat.add_le_add_iff_right]

/--
**A capture is a faithful tee.**

Of a success that was missed in the cache, the reader gets the pieces in their order and then the
end. Until then nothing else happens, not even when the last piece has been handed on. Asking for
the end calls the cache if all pieces were chunks with something in them, once and before the end is
told, with all of it under the request's key; otherwise it only tells the end. This is what reading
does with any cache, and what the reader sees are these events whatever the cache answers.
-/
theorem capture_is_faithful (key : Tile.Key) (r : Tile.Response) (items : List Tile.Item)
    (hbody : r.body = .ofItems items) (hsuccess : r.isSuccess = true) :
    let body := (missResponse key r).body
    (∀ n ≤ items.length, events n body = (items.take n).map .handed) ∧
    (∀ n > items.length, ∀ bytes, Clean items bytes →
      events n body = items.map .handed ++ [.called key bytes, .ended]) ∧
    (∀ n > items.length, (¬ ∃ bytes, Clean items bytes) →
      events n body = items.map .handed ++ [.ended]) ∧
    ∀ (m : Type → Type) [Monad m] [LawfulMonad m] (c : ReadThrough m) (n : Nat),
      c.read n body = c.perform (events n body) ∧
      c.read n body = do
        c.calls (events n body)
        return (items.take n).map some ++ if n ≤ items.length then [] else [none] := by
  intro body
  have hcaptured : body = ⟨items, some (.start key)⟩ := by
    show (if r.isSuccess then { r.body with capture := some (.start key) } else r.body) = _
    rw [if_pos hsuccess, hbody]
    rfl
  obtain ⟨last, hlast, hevents⟩ := events_follow items (follows_start key)
  rw [List.nil_append] at hlast
  rw [hcaptured]
  have hend : ∀ n > items.length, events n ⟨items, some (.start key)⟩
      = items.map .handed ++ ending last.write? := by
    intro n hn
    rw [hevents n, List.take_of_length_le (Nat.le_of_lt hn), if_neg (Nat.not_le_of_gt hn)]
  refine ⟨fun n hn => ?_, fun n hn bytes hclean => ?_, fun n hn hno => ?_,
    fun m _ _ c n => ⟨read_perform c n _, ?_⟩⟩
  · rw [hevents n, if_pos hn, List.append_nil]
  · have hwrite : last.write? = some (key, bytes) :=
      (write_iff hlast (key, bytes)).mpr ⟨bytes, rfl, hclean⟩
    rw [hend n hn, hwrite]
    rfl
  · have hwrite : last.write? = none := by
      rw [Option.eq_none_iff_forall_ne_some]
      intro w hw
      obtain ⟨bytes, _, hclean⟩ := (write_iff hlast w).mp hw
      exact hno ⟨bytes, hclean⟩
    rw [hend n hn, hwrite]
    rfl
  · have hseen : (events n ⟨items, some (.start key)⟩).filterMap Event.seen?
        = (items.take n).map some ++ if n ≤ items.length then [] else [none] := by
      rw [hevents n, List.filterMap_append, List.filterMap_map]
      have hpieces : (items.take n).filterMap (Event.seen? ∘ .handed)
          = (items.take n).map some := by
        show (items.take n).filterMap (some ∘ some) = _
        rw [List.filterMap_eq_map]
      rw [hpieces]
      split
      · rfl
      · cases last.write? with
        | none => rfl
        | some w => rfl
    rw [read_perform, perform_seen, hseen]

/-- A cache that notes what it is asked to keep, and refuses to. -/
def refusing : ReadThrough (StateM (List (Tile.Key × Bytes))) where
  backend := some {
    name := "refusing"
    maxZoom := 20
    get := fun _ => return .ok none
    set := fun key bytes => do
      modify (· ++ [(key, bytes)])
      return .error (.backend "refused")
    purge := fun _ => return .ok () }
  cacheable := []

/-- Two chunks with an empty one between them are kept in one call, after the last of them, and the
refusal goes unseen. With an error among them there is no call, though a chunk comes after it. -/
theorem refused_capture_is_faithful :
    let key : Tile.Key := ⟨"roads", 3, 1, 2, none⟩
    let answer (items : List Tile.Item) : Tile.Response := .streaming 200 none items
    let good : List Tile.Item := [.ok [1], .ok [], .ok [2]]
    let bad : List Tile.Item := [.ok [1], .error (.body "cut off"), .ok [2]]
    (refusing.read 3 (missResponse key (answer good)).body).run [] = (good.map some, []) ∧
    (refusing.read 4 (missResponse key (answer good)).body).run []
      = (good.map some ++ [none], [(key, [1, 2])]) ∧
    (refusing.read 4 (missResponse key (answer bad)).body).run [] = (bad.map some ++ [none], []) := by
  intro key answer good bad
  have hgood := capture_is_faithful key (answer good) good rfl rfl
  have hbad := capture_is_faithful key (answer bad) bad rfl rfl
  obtain ⟨hpart, hwhole, _, hreads⟩ := hgood
  obtain ⟨_, _, hnone, hreads'⟩ := hbad
  have hclean : Clean good [1, 2] := ⟨by simp, [[1], [], [2]], rfl, rfl⟩
  have hbroken : ¬ ∃ bytes, Clean bad bytes := by
    rintro ⟨bytes, _, chunks, hchunks, _⟩
    have herror : Except.error (.body "cut off") ∈ chunks.map (Except.ok (ε := Tile.Error)) := by
      rw [← hchunks]
      simp [bad]
    simp at herror
  refine ⟨?_, ?_, ?_⟩
  · rw [(hreads _ refusing 3).1, hpart 3 (by decide)]
    rfl
  · rw [(hreads _ refusing 4).1, hwhole 4 (by decide) [1, 2] hclean]
    rfl
  · rw [(hreads' _ refusing 4).1, hnone 4 (by decide) hbroken]
    rfl

end TileDepot.Cache
