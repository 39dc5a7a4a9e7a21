import TileDepot.Config.Derived
import TileDepot.Proofs.Query.Binding
import TileDepot.Proofs.Query.Scan

/-!
# Configured parameters at request time

The checks that a parameter passes when the settings are read are all that binding a request relies
on. `Parameter.Sound` says what they leave: a well-formed free token, a fragment with one place for
an argument, and a default that can be read. Every map made from settings has sound parameters only
(`mapQueries_sound`). So a binding fails only over a value that the request itself supplies
(`bind_fails`), and no parameter stands where the task or the tile's address are bound
(`bind_succeeds`).
-/

namespace TileDepot.Query

/-! ## What the checks leave -/

/-- A parameter that no request can fail over unless it supplies the value. -/
structure Parameter.Sound (p : Parameter) : Prop where
  /-- The token is a name between two marks. -/
  token : ∃ n, IsName n ∧ p.token.toList = '!' :: (n ++ ['!'])
  free : p.token ∉ reservedTokens
  /-- The fragment takes one argument. -/
  fragment : p.fragment.toList.count '?' = 1
  /-- The default is of the parameter's kind. -/
  default : ∀ d, p.default = some d → ∃ value, p.kind.value? d = some value

/-- A definition that passes its checks, with a default that can be read, is sound. -/
theorem define_sound {name token fragment : String} {kind : Kind} {default : Option String}
    {p : Parameter} (h : Parameter.define name token fragment kind default = .ok p)
    (hdefault : ∀ d, default = some d → ∃ value, kind.value? d = some value) : p.Sound := by
  obtain ⟨hflaw, rfl⟩ := define_ok h
  obtain ⟨htoken, hfree, hcount⟩ := (flaw_eq_none_iff token fragment).mp hflaw
  exact ⟨(isToken_iff token).mp htoken, hfree, hcount, hdefault⟩

/-! ## Binding sound parameters -/

/-- A binding that a parameter of the list made from what the request says. -/
def Binding.MadeBy (b : Binding) (ps : List Parameter) (pairs : List (String × String)) : Prop :=
  ∃ p ∈ ps, b.token = p.token ∧ b.fragment = p.fragment ∧ b.param = p.name ∧
    p.raw? pairs = some b.raw ∧ p.kind.value? b.raw = some b.value

/-- **What a request binds.** Its task, and what the parameters declare. -/
theorem ofRequest_made {ps : List Parameter} (hps : ∀ p ∈ ps, p.Sound)
    {pairs : List (String × String)} {task : Option String} {bs : Bindings}
    (h : Bindings.ofRequest ps pairs task = .ok bs) :
    bs.get? taskToken = askedTask task ∧ ∀ token b, token ≠ taskToken →
      bs.get? token = some b → b.token = token ∧ b.MadeBy ps pairs := by
  -- no sound parameter has the task's token
  have hfree : ∀ p ∈ ps, p.token ≠ taskToken := fun p hp htoken =>
    (hps p hp).free (htoken ▸ by simp [reservedTokens])
  refine ⟨get_task hfree h, fun token b hne hb => ?_⟩
  obtain ⟨before, p, after, raw, value, rfl, rfl, hraw, hvalue, rfl, _⟩ :=
    (get_parameter_iff h hne b).mp hb
  exact ⟨rfl, p, by simp, rfl, rfl, rfl, (rawValue_iff p pairs raw).mp hraw, hvalue⟩

end TileDepot.Query

namespace TileDepot.Tile

open Query

/-! ## Binding a request for a tile -/

/-- What a request supplies comes before the default. -/
theorem raw_eq (p : Parameter) (r : Request) :
    p.raw? r.pairs = (r.value? p.name).or p.default := by
  unfold Parameter.raw? Request.value?
  cases r.pairs.find? fun q => q.1 == p.name with
  | none => rfl
  | some q => rfl

/-- The request supplies a value for this parameter that is not of its kind. -/
def Request.Misfits (r : Request) (p : Parameter) (raw : String) : Prop :=
  r.value? p.name = some raw ∧ p.kind.value? raw = none

/-- A raw value of a sound parameter that cannot be read is the request's own. -/
theorem misfits_of_sound {p : Parameter} (hp : p.Sound) {r : Request} {raw : String}
    (hraw : p.raw? r.pairs = some raw) (hvalue : p.kind.value? raw = none) : r.Misfits p raw := by
  rw [raw_eq] at hraw
  cases hsupplied : r.value? p.name with
  | some supplied =>
      rw [hsupplied] at hraw
      cases hraw
      exact ⟨hsupplied, hvalue⟩
  | none =>
      rw [hsupplied] at hraw
      obtain ⟨value, hread⟩ := hp.default raw hraw
      rw [hread] at hvalue
      exact absurd hvalue (by simp)

theorem bind_eq (q : MapQuery) (r : Request) (t : Grid.TileId) :
    q.bind r t = ((Bindings.ofRequest q.parameters r.pairs (r.value? "task_id")).mapError
      .template).map fun bs => ((bs.setInt zoomToken (Int64.ofNat t.zoom.toNat)).setInt xToken
        t.x).setInt yToken t.y := by
  unfold MapQuery.bind
  cases (Bindings.ofRequest q.parameters r.pairs (r.value? "task_id")).mapError Error.template with
  | error e => rfl
  | ok bs => rfl

/-- **Only the request's own values make a binding fail.** -/
theorem bind_fails {q : MapQuery} (hq : ∀ p ∈ q.parameters, p.Sound) {r : Request}
    {t : Grid.TileId} {e : Error} (h : q.bind r t = .error e) :
    ∃ p ∈ q.parameters, ∃ raw, r.Misfits p raw ∧
      e = .template (.invalidParameter p.name raw p.kind.expectation) := by
  rw [bind_eq] at h
  cases hasked : Bindings.ofRequest q.parameters r.pairs (r.value? "task_id") with
  | ok bs => rw [hasked] at h; exact absurd h (by simp [Except.map, Except.mapError])
  | error cause =>
      rw [hasked] at h
      obtain ⟨before, p, after, raw, hsplit, _, hraw, hvalue, rfl⟩ := ofRequest_error_iff.mp hasked
      have hp : p ∈ q.parameters := by rw [hsplit]; simp
      have hmisfits := misfits_of_sound (hq p hp) ((rawValue_iff p r.pairs raw).mp hraw) hvalue
      exact ⟨p, hp, raw, hmisfits, (Except.error.inj h).symm⟩

/-- What a request for a tile of a map has bound when its binding succeeds. -/
structure BoundFor (q : MapQuery) (r : Request) (t : Grid.TileId) (bs : Bindings) : Prop where
  zoom : ∃ b n, bs.get? zoomToken = some b ∧ b.value = .int n ∧ n.toInt = t.zoom.toNat
  x : ∃ b, bs.get? xToken = some b ∧ b.value = .int t.x
  y : ∃ b, bs.get? yToken = some b ∧ b.value = .int t.y
  /-- The task is the first one of the request, if it is not empty. -/
  task : ∀ task, (∃ b, bs.get? taskToken = some b ∧ b.raw = task) ↔
    r.value? "task_id" = some task ∧ task ≠ ""
  /-- All else is bound by the map's parameters. -/
  parameters : ∀ token b, bs.get? token = some b →
    token ∉ [zoomToken, xToken, yToken, taskToken] → b.token = token ∧
      b.MadeBy q.parameters r.pairs ∧ (∃ n, IsName n ∧ token.toList = '!' :: (n ++ ['!'])) ∧
      token ∉ reservedTokens ∧ b.fragment.toList.count '?' = 1

theorem toInt_ofNat_zoom (z : UInt32) : (Int64.ofNat z.toNat).toInt = z.toNat := by
  have hz : z.toNat < 2 ^ 32 := z.toNat_lt
  exact Int64.toInt_ofNat_of_lt (by omega)

theorem get_address (bs : Bindings) (zoom x y : Int64) (token : String) :
    (((bs.setInt zoomToken zoom).setInt xToken x).setInt yToken y).get? token
      = if token = yToken then some ⟨yToken, "?", .int y, Bindings.tokenName yToken,
          toString y.toInt⟩
        else if token = xToken then some ⟨xToken, "?", .int x, Bindings.tokenName xToken,
          toString x.toInt⟩
        else if token = zoomToken then some ⟨zoomToken, "?", .int zoom,
          Bindings.tokenName zoomToken, toString zoom.toInt⟩
        else bs.get? token := by
  simp only [Bindings.setInt, get_insert]

theorem askedTask_raw (task : Option String) (t : String) :
    (∃ b, askedTask task = some b ∧ b.raw = t) ↔ task = some t ∧ t ≠ "" := by
  simp only [askedTask_iff]
  constructor
  · rintro ⟨b, ⟨t, htask, hne, rfl⟩, rfl⟩
    exact ⟨htask, hne⟩
  · rintro ⟨htask, hne⟩
    exact ⟨_, ⟨t, htask, hne, rfl⟩, rfl⟩

/-- **What a binding leaves when it succeeds.** -/
theorem bind_succeeds {q : MapQuery} (hq : ∀ p ∈ q.parameters, p.Sound) {r : Request}
    {t : Grid.TileId} {bs : Bindings} (h : q.bind r t = .ok bs) : BoundFor q r t bs := by
  rw [bind_eq] at h
  cases hasked : Bindings.ofRequest q.parameters r.pairs (r.value? "task_id") with
  | error cause => rw [hasked] at h; exact absurd h (by simp [Except.map, Except.mapError])
  | ok asked =>
      rw [hasked] at h
      obtain ⟨htask, hmade⟩ := ofRequest_made hq hasked
      have hbs := (Except.ok.inj h).symm
      constructor
      case zoom => exact ⟨_, _, by rw [hbs]; exact get_address asked _ _ _ zoomToken, rfl,
        toInt_ofNat_zoom t.zoom⟩
      case x => exact ⟨_, by rw [hbs]; exact get_address asked _ _ _ xToken, rfl⟩
      case y => exact ⟨_, by rw [hbs]; exact get_address asked _ _ _ yToken, rfl⟩
      case task =>
        intro task
        have hget : bs.get? taskToken = asked.get? taskToken := by
          rw [hbs]
          exact get_address asked _ _ _ taskToken
        rw [hget, htask]
        exact askedTask_raw (r.value? "task_id") task
      case parameters =>
        intro token b hb hother
        simp only [List.mem_cons, List.not_mem_nil, or_false, not_or] at hother
        obtain ⟨hzoom, hx, hy, hnotTask⟩ := hother
        rw [hbs, get_address, if_neg hy, if_neg hx, if_neg hzoom] at hb
        obtain ⟨htoken, p, hp, hbp, hfragment, hrest⟩ := hmade token b hnotTask hb
        have hsound := hq p hp
        have htp : token = p.token := htoken.symm.trans hbp
        refine ⟨htoken, ⟨p, hp, hbp, hfragment, hrest⟩, ?_, ?_, ?_⟩
        · rw [htp]; exact hsound.token
        · rw [htp]; exact hsound.free
        · rw [hfragment]; exact hsound.fragment

/-- A binding succeeds if the request supplies no value that cannot be read. -/
theorem bind_ok_iff {q : MapQuery} (hq : ∀ p ∈ q.parameters, p.Sound) (r : Request)
    (t : Grid.TileId) :
    (∃ bs, q.bind r t = .ok bs) ↔ ∀ p ∈ q.parameters, ∀ raw, ¬ r.Misfits p raw := by
  constructor
  · rintro ⟨bs, h⟩ p hp raw ⟨hsupplied, hvalue⟩
    have hraw : p.raw? r.pairs = some raw := by rw [raw_eq, hsupplied]; rfl
    have hfails : ∃ e, Bindings.ofRequest q.parameters r.pairs (r.value? "task_id") = .error e :=
      ofRequest_fails_iff.mpr ⟨p, hp, raw, (rawValue_iff p r.pairs raw).mpr hraw, hvalue⟩
    obtain ⟨e, he⟩ := hfails
    rw [bind_eq, he] at h
    exact absurd h (by simp [Except.map, Except.mapError])
  · intro hfit
    cases h : q.bind r t with
    | ok bs => exact ⟨bs, rfl⟩
    | error e =>
        obtain ⟨p, hp, raw, hmisfit, _⟩ := bind_fails hq h
        exact absurd hmisfit (hfit p hp raw)

end TileDepot.Tile

namespace TileDepot.Config

open Query Tile

/-! ## Parameters and maps of settings -/

/-- What comes of a list of checks that all pass. -/
theorem mem_of_mapM {α β ε : Type} {f : α → Except ε β} {xs : List α} {ys : List β}
    (h : xs.mapM f = .ok ys) : ∀ y ∈ ys, ∃ x ∈ xs, f x = .ok y := by
  induction xs generalizing ys with
  | nil =>
      cases h
      simp
  | cons x xs ih =>
      rw [List.mapM_cons] at h
      cases hx : f x with
      | error e => rw [hx] at h; exact absurd h (by simp [bind, Except.bind])
      | ok first =>
          cases hxs : xs.mapM f with
          | error e => rw [hx, hxs] at h; exact absurd h (by simp [bind, Except.bind])
          | ok rest =>
              rw [hx, hxs] at h
              cases h
              intro y hy
              rcases List.mem_cons.mp hy with rfl | hy
              · exact ⟨x, List.mem_cons_self, hx⟩
              · obtain ⟨x', hx', hfx⟩ := ih hxs y hy
                exact ⟨x', List.mem_cons_of_mem x hx', hfx⟩

/-- The parameter as its section has it. -/
def ParamSection.parameter (s : ParamSection) : Parameter :=
  ⟨s.name, s.token, s.fragment, s.kind, s.default⟩

/-- **A section gives a sound parameter or none.** -/
theorem parameter_sound {s : ParamSection} {p : Parameter} (h : Settings.parameter s = .ok p) :
    p = s.parameter ∧ p.Sound := by
  unfold Settings.parameter at h
  cases hdefine : Parameter.define s.name s.token s.fragment s.kind s.default with
  | error e => rw [hdefine] at h; exact absurd h (by simp)
  | ok defined =>
      rw [hdefine] at h
      dsimp only at h
      obtain ⟨_, hp⟩ := define_ok hdefine
      cases hdefault : s.default with
      | none =>
          rw [hdefault] at h
          cases h
          exact ⟨hp, define_sound hdefine fun d hd => by rw [hdefault] at hd; cases hd⟩
      | some d =>
          rw [hdefault] at h
          dsimp only at h
          by_cases hread : (s.kind.value? d).isSome = true
          · rw [if_pos hread] at h
            cases h
            refine ⟨hp, define_sound hdefine fun d' hd' => ?_⟩
            rw [hdefault] at hd'
            cases hd'
            exact Option.isSome_iff_exists.mp hread
          · rw [if_neg hread] at h
            exact absurd h (by simp)

/-- A map takes what parameters it names. -/
theorem namedParameters_mem {ps : List Parameter} {m : MapSection} {taken : List Parameter}
    (h : Settings.namedParameters ps m = .ok taken) :
    ∀ p ∈ taken, p ∈ ps ∧ p.name ∈ m.params := by
  intro p hp
  obtain ⟨name, hname, hfound⟩ := mem_of_mapM h p hp
  cases hlast : Settings.lastNamed? ps name with
  | none => rw [hlast] at hfound; exact absurd hfound (by simp)
  | some found =>
      rw [hlast] at hfound
      cases hfound
      have hmem : p ∈ ps := List.mem_reverse.mp (List.mem_of_find?_eq_some hlast)
      have hpn : p.name = name := by simpa using List.find?_some hlast
      exact ⟨hmem, hpn ▸ hname⟩

/-- **Maps of settings take sound parameters only**, each made from a section that they name. -/
theorem mapQueries_sound {c : Settings} {qs : List MapQuery} (h : c.mapQueries = .ok qs)
    {q : MapQuery} (hq : q ∈ qs) : ∃ m ∈ c.maps, q.name = m.name ∧ q.template = m.template ∧
      ∀ p ∈ q.parameters, p.Sound ∧ ∃ s ∈ c.params, s.name ∈ m.params ∧ p = s.parameter := by
  unfold Settings.mapQueries at h
  cases hps : c.params.mapM Settings.parameter with
  | error e => rw [hps] at h; exact absurd h (by simp [bind, Except.bind])
  | ok ps =>
      rw [hps] at h
      obtain ⟨m, hm, hmade⟩ := mem_of_mapM h q hq
      cases htaken : Settings.namedParameters ps m with
      | error e => rw [htaken] at hmade; exact absurd hmade (by simp [bind, Except.bind])
      | ok taken =>
          rw [htaken] at hmade
          cases hmade
          refine ⟨m, hm, rfl, rfl, fun p hp => ?_⟩
          obtain ⟨hmem, hname⟩ := namedParameters_mem htaken p hp
          obtain ⟨s, hs, hsp⟩ := mem_of_mapM hps p hmem
          obtain ⟨rfl, hsound⟩ := parameter_sound hsp
          exact ⟨hsound, s, hs, hname, rfl⟩

/--
**Configured parameters are safe at request time.**

For every map of settings that give maps, and every request whose path names a tile: the binding
fails only over a value that the request itself supplies for a parameter of the map and that is not
of the parameter's kind, and it does fail over each such value. When it succeeds, the address is
that of the path, the task is bound if the request's first one is not empty, and all else is bound
by parameters that the map declares, to well-formed tokens that are not reserved.
-/
theorem configured_parameters_safe {c : Settings} {qs : List MapQuery}
    (hmaps : c.mapQueries = .ok qs) {q : MapQuery} (hq : q ∈ qs) (r : Request) (key : Key)
    (_ : r.key = .ok key) :
    (∀ e, q.bind r key.tile = .error e → ∃ p ∈ q.parameters, ∃ raw, r.Misfits p raw ∧
      e = .template (.invalidParameter p.name raw p.kind.expectation)) ∧
    ((∃ bs, q.bind r key.tile = .ok bs) ↔ ∀ p ∈ q.parameters, ∀ raw, ¬ r.Misfits p raw) ∧
    (∀ bs, q.bind r key.tile = .ok bs → BoundFor q r key.tile bs) ∧
    ∃ m ∈ c.maps, q.name = m.name ∧
      ∀ p ∈ q.parameters, ∃ s ∈ c.params, s.name ∈ m.params ∧ p = s.parameter := by
  obtain ⟨m, hm, hname, _, hps⟩ := mapQueries_sound hmaps hq
  have hsound : ∀ p ∈ q.parameters, p.Sound := fun p hp => (hps p hp).1
  refine ⟨fun e => bind_fails hsound, bind_ok_iff hsound r key.tile, fun bs => bind_succeeds hsound,
    m, hm, hname, fun p hp => (hps p hp).2⟩

/-- One map with one parameter that has a default. -/
def classed : Settings where
  maps := [⟨"roads", "SELECT tile FROM roads WHERE !CLASS!", ["class"]⟩]
  params := [⟨"class", "!CLASS!", "class = ?", .int, some "3"⟩]

/-- The default is used where a request has no class, and a class that is no number is refused. -/
theorem classed_parameter_safe :
    let p : Parameter := ⟨"class", "!CLASS!", "class = ?", .int, some "3"⟩
    let q : MapQuery := ⟨"roads", "SELECT tile FROM roads WHERE !CLASS!", [p]⟩
    let good : Request := ⟨"/roads/3/1/2.pbf", none⟩
    let bad : Request := ⟨"/roads/3/1/2.pbf", some "class=x"⟩
    let key : Key := ⟨"roads", 3, 1, 2, none⟩
    classed.mapQueries = .ok [q] ∧ good.key = .ok key ∧ bad.key = .ok key ∧
      (∃ bs, q.bind good key.tile = .ok bs ∧ BoundFor q good key.tile bs) ∧
      ∀ bs, q.bind bad key.tile ≠ .ok bs := by
  intro p q good bad key
  have hmaps : classed.mapQueries = .ok [q] := rfl
  have hgood : good.key = .ok key := by decide
  have hbad : bad.key = .ok key := by decide
  have hmisfit : bad.Misfits p "x" := ⟨by decide +kernel, rfl⟩
  refine ⟨hmaps, hgood, hbad, ?_, fun bs hbs => ?_⟩
  · obtain ⟨_, hok, hbound, _⟩ :=
      configured_parameters_safe hmaps List.mem_cons_self good key hgood
    obtain ⟨bs, hbs⟩ := hok.mpr fun p' hp' raw hmis => by
      rw [List.mem_singleton.mp hp'] at hmis
      exact absurd hmis.1 (by simp [Request.value?, Request.pairs, good])
    exact ⟨bs, hbs, hbound bs hbs⟩
  · obtain ⟨_, hok, _⟩ := configured_parameters_safe hmaps List.mem_cons_self bad key hbad
    exact hok.mp ⟨bs, hbs⟩ p List.mem_cons_self "x" hmisfit

end TileDepot.Config
