import TileDepot.Cache.Opening
import TileDepot.Proofs.Pairs
import TileDepot.Proofs.Text.Encoding

/-!
# What backends keep

A backend is looked at from outside: as something that keeps bytes under texts, in a world that may
lose any of them at any time. `Backend.Keeps` says how little a backend may do to what is kept. A
look-up finds what is there; a write puts its bytes under the text of its key and nowhere else, and
only if its zoom is not too high; everything else can only lose entries.

Both backends are like this: the memory backend wherever its entries are (`memory_keeps`), and the
Redis backend over the way to a store that does with `GET`, `SET`, `SETEX` and `DEL` what is
expected of it (`redis_keeps`). There are no others, and a memory backend begins with nothing
(`openBackend_provided`). A table is the simplest store of this kind (`table_serves`).
-/

namespace TileDepot.Cache

/-- What a world keeps under every text. -/
abbrev View (σ : Type) := σ → String → Option Bytes

variable {σ : Type}

namespace View

/-- Nothing is kept after that was not kept before. -/
def Loses (view : View σ) (before after : σ) : Prop :=
  ∀ text bytes, view after text = some bytes → view before text = some bytes

/-- Nothing is kept after that was not kept before, but for one entry. -/
def Writes (view : View σ) (before after : σ) (text : String) (bytes : Bytes) : Prop :=
  ∀ text' kept, view after text' = some kept →
    view before text' = some kept ∨ text' = text ∧ kept = bytes

theorem loses_refl (view : View σ) (s : σ) : view.Loses s s := fun _ _ h => h

theorem Loses.writes {view : View σ} {s s' : σ} (h : view.Loses s s') (text : String)
    (bytes : Bytes) : view.Writes s s' text bytes :=
  fun text' kept hkept => Or.inl (h text' kept hkept)

end View

/-- The backend does no more to what is kept than a cache may do. -/
structure Backend.Keeps (b : Backend (StateM σ)) (view : View σ) : Prop where
  get_loses : ∀ key s, view.Loses s ((b.get key).run s).2
  get_found : ∀ key s bytes, ((b.get key).run s).1 = .ok (some bytes) →
    view s key.text = some bytes
  set_writes : ∀ key bytes s, view.Writes s ((b.set key bytes).run s).2 key.text bytes
  set_above : ∀ key bytes s, b.maxZoom < key.zoom → view.Loses s ((b.set key bytes).run s).2
  purge_loses : ∀ key s, view.Loses s ((b.purge key).run s).2

/-! ## The memory backend -/

namespace Entries

theorem get?_erase (s : Entries) (key text : String) :
    (s.erase key).get? text = if text = key then none else s.get? text :=
  lookup_filter s.items key text

theorem get?_insert (s : Entries) (key text : String) (value : Bytes) :
    (s.insert key value).get? text = if text = key then some value else s.get? text := by
  show ((key, value) :: (s.erase key).items).lookup text = _
  rw [lookup_front]
  by_cases htext : text = key
  · rw [if_pos htext, if_pos htext]
  · rw [if_neg htext, if_neg htext]
    exact (get?_erase s key text).trans (if_neg htext)

end Entries

theorem memory_set (maxZoom : UInt32) (key : Tile.Key) (bytes : Bytes) (s : Entries) :
    ((memory maxZoom).set key bytes).run s
      = (.ok (), if maxZoom < key.zoom then s else s.insert key.text bytes) := by
  unfold memory
  dsimp only
  split <;> rfl

theorem memory_keeps (maxZoom : UInt32) : (memory maxZoom).Keeps Entries.get? where
  get_loses key s := View.loses_refl _ s
  get_found key s bytes h := Except.ok.inj h
  set_writes key bytes s := by
    intro text kept hkept
    rw [memory_set] at hkept
    dsimp only at hkept
    split at hkept
    · exact Or.inl hkept
    · rw [Entries.get?_insert] at hkept
      split at hkept
      · rename_i htext
        exact Or.inr ⟨htext, (Option.some.inj hkept).symm⟩
      · exact Or.inl hkept
  set_above key bytes s habove := by
    rw [memory_set, if_pos (show maxZoom < key.zoom from habove)]
    exact View.loses_refl _ s
  purge_loses key s := by
    intro text bytes hkept
    have hafter : (s.erase key.text).get? text = some bytes := hkept
    rw [Entries.get?_erase] at hafter
    split at hafter
    · exact absurd hafter (by simp)
    · exact hafter

/-! ## Backends in a larger world -/

/-- Programs are run on what the world has in one place. -/
structure Access {ρ : Type} (f : {α : Type} → StateM ρ α → StateM σ α) (place : σ → ρ) : Prop where
  result : ∀ {α : Type} (p : StateM ρ α) s, ((f p).run s).1 = (p.run (place s)).1
  after : ∀ {α : Type} (p : StateM ρ α) s, place ((f p).run s).2 = (p.run (place s)).2

theorem lift_keeps {ρ : Type} {f : {α : Type} → StateM ρ α → StateM σ α} {place : σ → ρ}
    {b : Backend (StateM ρ)} {view : View ρ} (hf : Access f place) (h : b.Keeps view) :
    (b.lift f).Keeps fun s => view (place s) := by
  have hloses : ∀ {α : Type} (p : StateM ρ α) s, view.Loses (place s) (p.run (place s)).2 →
      View.Loses (fun s => view (place s)) s ((f p).run s).2 := by
    intro α p s hlost text bytes hkept
    refine hlost text bytes ?_
    rw [← hf.after]
    exact hkept
  refine ⟨?_, ?_, ?_, ?_, ?_⟩
  · exact fun key s => hloses _ s (h.get_loses key (place s))
  · intro key s bytes hfound
    exact h.get_found key (place s) bytes ((hf.result (b.get key) s).symm.trans hfound)
  · intro key bytes s text kept hkept
    refine h.set_writes key bytes (place s) text kept ?_
    rw [← hf.after]
    exact hkept
  · exact fun key bytes s habove => hloses _ s (h.set_above key bytes (place s) habove)
  · exact fun key s => hloses _ s (h.purge_loses key (place s))

/-- The backend finds what is kept, and keeps what is written. -/
structure Backend.Exact (b : Backend (StateM σ)) (view : View σ) : Prop where
  get_result : ∀ key s, ((b.get key).run s).1 = .ok (view s key.text)
  get_view : ∀ key s, view ((b.get key).run s).2 = view s
  set_view : ∀ key bytes s, key.zoom ≤ b.maxZoom → ∀ text,
    view ((b.set key bytes).run s).2 text = if text = key.text then some bytes else view s text

/-- **The memory backend loses nothing.** -/
theorem memory_exact (maxZoom : UInt32) : (memory maxZoom).Exact Entries.get? where
  get_result _ _ := rfl
  get_view _ _ := rfl
  set_view key bytes s hzoom text := by
    have hnot : ¬ maxZoom < key.zoom := UInt32.not_lt.mpr hzoom
    rw [memory_set, if_neg hnot]
    exact Entries.get?_insert s key.text text bytes

theorem lift_exact {ρ : Type} {f : {α : Type} → StateM ρ α → StateM σ α} {place : σ → ρ}
    {b : Backend (StateM ρ)} {view : View ρ} (hf : Access f place) (h : b.Exact view) :
    (b.lift f).Exact fun s => view (place s) where
  get_result key s := (hf.result (b.get key) s).trans (h.get_result key (place s))
  get_view key s := (congrArg view (hf.after (b.get key) s)).trans (h.get_view key (place s))
  set_view key bytes s hzoom text := by
    have hset := h.set_view key bytes (place s) hzoom text
    rw [← hf.after] at hset
    exact hset

/-! ## The Redis backend -/

/-- What a store promises at the other end of the way: whatever else happens there, its answers to
these commands are about what is kept, and a write puts its bytes under its name or nothing. -/
structure Wire.Serves (w : Wire (StateM σ)) (view : View σ) : Prop where
  get : ∀ text s, view.Loses s ((w.ask (Command.ofWords ["GET", text])).run s).2 ∧
    ∀ a, ((w.ask (Command.ofWords ["GET", text])).run s).1 = .ok a →
      a = .value none ∨ ∃ bytes, view s text = some bytes ∧ a = .value (some bytes)
  set : ∀ text bytes s c, c = Command.ofWords ["SET", text] ++ [bytes] ∨
      (∃ seconds, c = Command.ofWords ["SETEX", text, seconds] ++ [bytes]) →
    view.Writes s ((w.ask c).run s).2 text bytes
  delete : ∀ text s, view.Loses s ((w.ask (Command.ofWords ["DEL", text])).run s).2

/-- A write is one of two commands. -/
theorem set_command (timeToLive : UInt64) (key : Tile.Key) (bytes : Bytes) :
    Command.set timeToLive key bytes = Command.ofWords ["SET", key.text] ++ [bytes] ∨
      ∃ seconds, Command.set timeToLive key bytes
        = Command.ofWords ["SETEX", key.text, seconds] ++ [bytes] := by
  unfold Command.set
  split
  · exact Or.inl rfl
  · exact Or.inr ⟨_, rfl⟩

theorem redis_set (w : Wire (StateM σ)) (settings : RedisSettings) (key : Tile.Key)
    (bytes : Bytes) (s : σ) : ((redis w settings).set key bytes).run s =
      if settings.maxZoom < key.zoom then (.ok (), s)
      else (((((w.ask (.set settings.timeToLive key bytes)).run s).1.map fun _ => ()).mapError
        WireFault.error), ((w.ask (.set settings.timeToLive key bytes)).run s).2) := by
  unfold redis
  dsimp only
  split <;> rfl

theorem redis_keeps {w : Wire (StateM σ)} {view : View σ} (h : w.Serves view)
    (settings : RedisSettings) : (redis w settings).Keeps view := by
  refine ⟨?_, ?_, ?_, ?_, ?_⟩
  · exact fun key s => (h.get key.text s).1
  · intro key s bytes hfound
    obtain ⟨_, hanswer⟩ := h.get key.text s
    have hmap : (((w.ask (.get key)).run s).1.map Answer.value?).mapError WireFault.error
        = .ok (some bytes) := hfound
    -- only a value that the store has is taken for a tile
    cases hask : ((w.ask (.get key)).run s).1 with
    | error fault =>
        rw [hask] at hmap
        have hfailed : (.error fault.error : Except Error (Option Bytes)) = .ok (some bytes) := hmap
        exact absurd hfailed (by simp)
    | ok a =>
        rw [hask] at hmap
        have hvalue : a.value? = some bytes := Except.ok.inj hmap
        rcases hanswer a hask with ha | ⟨kept, hkept, ha⟩
        · rw [ha] at hvalue
          exact absurd hvalue (by simp [Answer.value?])
        · rw [ha] at hvalue
          exact hkept.trans hvalue
  · intro key bytes s
    have hwrites := h.set key.text bytes s _ (set_command settings.timeToLive key bytes)
    rw [redis_set]
    split
    · exact (view.loses_refl s).writes _ _
    · exact hwrites
  · intro key bytes s habove
    rw [redis_set, if_pos (show settings.maxZoom < key.zoom from habove)]
    exact view.loses_refl s
  · exact fun key s => h.delete key.text s

/-! ## A store that is a table -/

/-- What stands under which name. -/
abbrev Table := List (Bytes × Bytes)

/-- What a table answers to a command, and what becomes of it. It has no password and no more than
one database, and it forgets nothing. -/
def tableAnswer (s : Table) : Command → Except WireFault Answer × Table
  | [word] =>
    if word = Bytes.ofText "PING" then (.ok (.status "PONG"), s)
    else (.error (.failed "unknown command"), s)
  | [word, key] =>
    if word = Bytes.ofText "GET" then (.ok (.value (s.lookup key)), s)
    else if word = Bytes.ofText "DEL" then
      (.ok (.count (if (s.lookup key).isSome then 1 else 0)), s.filter fun e => e.1 != key)
    else (.error (.failed "unknown command"), s)
  | [word, key, value] =>
    if word = Bytes.ofText "SET" then (.ok (.status "OK"), (key, value) :: s)
    else (.error (.failed "unknown command"), s)
  | [word, key, _, value] =>
    if word = Bytes.ofText "SETEX" then (.ok (.status "OK"), (key, value) :: s)
    else (.error (.failed "unknown command"), s)
  | _ => (.error (.failed "unknown command"), s)

/-- The way to a table, which is always open. -/
def tableWire : Wire (StateM Table) where
  dial _ _ := return .ok ()
  ask c := fun s => tableAnswer s c

/-- What a program has that reaches a table. Its own memory ends with it, and the table stays. -/
def tableResources : Resources (StateM Table) where
  entries p := fun s => ((p.run .empty).1, s)
  wire := tableWire

theorem table_get (text : String) (s : Table) :
    (tableWire.ask (Command.ofWords ["GET", text])).run s
      = (.ok (.value (s.lookup (Bytes.ofText text))), s) :=
  if_pos rfl

theorem table_set {text : String} {bytes : Bytes} {c : Command}
    (h : c = Command.ofWords ["SET", text] ++ [bytes] ∨
      ∃ seconds, c = Command.ofWords ["SETEX", text, seconds] ++ [bytes]) (s : Table) :
    (tableWire.ask c).run s = (.ok (.status "OK"), (Bytes.ofText text, bytes) :: s) := by
  rcases h with rfl | ⟨seconds, rfl⟩
  · exact if_pos rfl
  · exact if_pos rfl

theorem table_delete (text : String) (s : Table) :
    (tableWire.ask (Command.ofWords ["DEL", text])).run s
      = (.ok (.count (if (s.lookup (Bytes.ofText text)).isSome then 1 else 0)),
        s.filter fun e => e.1 != Bytes.ofText text) := by
  have hdel : Bytes.ofText "DEL" ≠ Bytes.ofText "GET" :=
    fun h => absurd (Bytes.ofText_inj h) (by decide)
  exact (if_neg hdel).trans (if_pos rfl)

/-- **A table does what is expected of a store.** -/
theorem table_serves : tableWire.Serves fun s text => s.lookup (Bytes.ofText text) where
  get text s := by
    rw [table_get]
    refine ⟨View.loses_refl _ s, ?_⟩
    intro a ha
    have ha' := Except.ok.inj ha
    cases hlookup : s.lookup (Bytes.ofText text) with
    | none => exact Or.inl (by rw [← ha', hlookup])
    | some bytes => exact Or.inr ⟨bytes, rfl, by rw [← ha', hlookup]⟩
  set text bytes s c hc := by
    rw [table_set hc]
    intro text' kept hkept
    have hcons : List.lookup (Bytes.ofText text') ((Bytes.ofText text, bytes) :: s)
      = some kept := hkept
    rw [List.lookup_cons] at hcons
    split at hcons
    · rename_i heq
      exact Or.inr ⟨Bytes.ofText_inj (eq_of_beq heq), (Option.some.inj hcons).symm⟩
    · exact Or.inl hcons
  delete text s := by
    rw [table_delete]
    intro text' kept hkept
    dsimp only at hkept
    rw [lookup_filter] at hkept
    split at hkept
    · exact absurd hkept (by simp)
    · exact hkept

/-- **A cache over a table loses nothing.** -/
theorem table_exact (settings : RedisSettings) :
    (redis tableWire settings).Exact fun s text => s.lookup (Bytes.ofText text) := by
  have hget : ∀ key s, (tableWire.ask (.get key)).run s
      = (.ok (.value (s.lookup (Bytes.ofText key.text))), s) := fun key s => table_get key.text s
  refine ⟨fun key s => ?_, fun key s => ?_, fun key bytes s hzoom text => ?_⟩
  · show (((tableWire.ask (.get key)).run s).1.map Answer.value?).mapError WireFault.error = _
    rw [hget]
    rfl
  · show (fun text => List.lookup (Bytes.ofText text) ((tableWire.ask (.get key)).run s).2) = _
    rw [hget]
  · have hnot : ¬ settings.maxZoom < key.zoom := UInt32.not_lt.mpr hzoom
    rw [redis_set, if_neg hnot, table_set (set_command settings.timeToLive key bytes)]
    dsimp only
    rw [lookup_front]
    simp only [Bytes.ofText_eq_iff]

/-- **A table is a cache** for settings that want no password and no other database, and it is as it
was. -/
theorem table_opens {settings : RedisSettings} {c : Connection}
    (hc : Connection.ofSettings settings = .ok c) (hlogin : c.login = []) (s : Table) :
    ((Settings.redis settings).openBackend tableResources).run s
      = (.ok (some (redis tableWire settings)), s) := by
  -- nothing is said before `PING`
  have henter : (tableWire.enter c settings.dialTimeout).run s = (.ok (), s) := by
    unfold Wire.enter
    rw [hlogin]
    rfl
  have hping : (tableWire.ask Command.ping).run s = (.ok (.status "PONG"), s) := if_pos rfl
  have hconnect : (connect tableWire settings).run s = (.ok (redis tableWire settings), s) := by
    unfold connect
    rw [hc]
    dsimp only
    rw [StateT.run_bind, henter]
    show ((tableWire.ask Command.ping >>= _).run s) = _
    rw [StateT.run_bind, hping]
    rfl
  show ((connect tableWire settings >>= _).run s) = _
  rw [StateT.run_bind, hconnect]
  rfl

/-! ## All backends -/

/-- The backends there are, with what they keep. -/
inductive Provided : View σ → Backend (StateM σ) → Prop where
  | memory {f : {α : Type} → StateM Entries α → StateM σ α} {place : σ → Entries}
      (maxZoom : UInt32) : Access f place →
      Provided (fun s => (place s).get?) ((Cache.memory maxZoom).lift f)
  | redis {w : Wire (StateM σ)} {view : View σ} (settings : RedisSettings) :
      w.Serves view → Provided view (Cache.redis w settings)

theorem provided_keeps {view : View σ} {b : Backend (StateM σ)} (h : Provided view b) :
    b.Keeps view := by
  cases h with
  | memory maxZoom haccess => exact lift_keeps haccess (memory_keeps maxZoom)
  | redis settings hserves => exact redis_keeps hserves settings

/-- A connection that is made is one to the store at the other end of the way. -/
theorem connect_redis {w : Wire (StateM σ)} {settings : RedisSettings} {s : σ}
    {b : Backend (StateM σ)} (h : ((connect w settings).run s).1 = .ok b) :
    b = redis w settings := by
  unfold connect at h
  split at h
  · rename_i e _
    have hfailed : (Except.error e : Except Error (Backend (StateM σ))) = .ok b := h
    exact absurd hfailed (by simp)
  rename_i c _
  -- three things must go well: the settings, the way in, and the answer to the first command
  rw [StateT.run_bind] at h
  generalize (w.enter c settings.dialTimeout).run s = reply at h
  obtain ⟨entered, s'⟩ := reply
  cases entered with
  | error fault =>
      have hfailed : (Except.error (enterFault c.place.text settings.dialTimeout fault) :
        Except Error (Backend (StateM σ))) = .ok b := h
      exact absurd hfailed (by simp)
  | ok _ =>
      have hpong : (checkPong c.place.text ((w.ask Command.ping).run s').1).map
        (fun _ => redis w settings) = .ok b := h
      cases hchecked : checkPong c.place.text ((w.ask Command.ping).run s').1 with
      | error e =>
          rw [hchecked] at hpong
          exact absurd hpong (by simp [Except.map])
      | ok _ =>
          rw [hchecked] at hpong
          exact (Except.ok.inj hpong).symm

/-- **A backend that is opened is one of these**, and a memory backend has nothing in it yet. -/
theorem openBackend_provided {r : Resources (StateM σ)} {place : σ → Entries} {view : View σ}
    (hplace : Access r.entries place) (hserves : r.wire.Serves view) {settings : Settings}
    {s opened : σ} {b : Backend (StateM σ)}
    (h : (settings.openBackend r).run s = (.ok (some b), opened)) :
    Provided (fun s => (place s).get?) b ∧ place opened = .empty ∨ Provided view b := by
  cases settings with
  | none => exact absurd (Except.ok.inj (congrArg Prod.fst h)) (by simp)
  | memory m =>
      have hb : (memory m.maxZoom).lift r.entries = b :=
        Option.some.inj (Except.ok.inj (congrArg Prod.fst h))
      have hopened : ((r.entries (set Entries.empty)).run s).2 = opened := congrArg Prod.snd h
      refine Or.inl ⟨hb ▸ .memory m.maxZoom hplace, ?_⟩
      rw [← hopened]
      exact hplace.after (set Entries.empty) s
  | redis m =>
      have hmap : (((connect r.wire m).run s).1).map some = .ok (some b) := congrArg Prod.fst h
      cases hconnect : ((connect r.wire m).run s).1 with
      | error e =>
          rw [hconnect] at hmap
          exact absurd hmap (by simp [Except.map])
      | ok opened =>
          rw [hconnect] at hmap
          have hb : opened = b := Option.some.inj (Except.ok.inj hmap)
          rw [← hb, connect_redis hconnect]
          exact Or.inr (.redis m hserves)

end TileDepot.Cache
