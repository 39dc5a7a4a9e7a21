/-!
# Lists of pairs

What look-ups in a list of pairs find, also after pairs were taken out.
-/

namespace TileDepot

theorem lookup_front {α β : Type} [BEq α] [LawfulBEq α] [DecidableEq α] (key : α) (value : β)
    (items : List (α × β)) (name : α) :
    ((key, value) :: items).lookup name = if name = key then some value else items.lookup name := by
  rw [List.lookup_cons]
  by_cases hname : name = key
  · rw [if_pos hname, hname, beq_self_eq_true]
  · rw [if_neg hname, beq_false_of_ne hname]

/-- What is left of a list of pairs without those of one key. -/
theorem lookup_filter {α β : Type} [BEq α] [LawfulBEq α] [DecidableEq α] (items : List (α × β))
    (key name : α) :
    (items.filter fun e => e.1 != key).lookup name
      = if name = key then none else items.lookup name := by
  induction items with
  | nil => simp
  | cons e es ih =>
      obtain ⟨other, value⟩ := e
      by_cases hother : other = key
      · rw [List.filter_cons_of_neg (by simp [hother]), ih, lookup_front, hother]
        by_cases hname : name = key
        · rw [if_pos hname, if_pos hname]
        · rw [if_neg hname, if_neg hname, if_neg hname]
      · rw [List.filter_cons_of_pos (by simp [hother]), lookup_front, lookup_front, ih]
        by_cases hfound : name = other
        · rw [if_pos hfound, if_pos hfound, if_neg (hfound ▸ hother)]
        · rw [if_neg hfound, if_neg hfound]

/-- Taking items out of every list, and then the lists that have none left, takes them out of the
list of each name, if no name has two. -/
theorem lookup_prune {α β : Type} [BEq α] [LawfulBEq α] [DecidableEq α] {lists : List (α × List β)}
    (hnames : (lists.map (·.1)).Nodup) (keep : β → Bool) (name : α) :
    (((lists.map fun e => (e.1, e.2.filter keep)).filter fun e => !e.2.isEmpty).lookup name).getD []
      = ((lists.lookup name).getD []).filter keep := by
  induction lists with
  | nil => rfl
  | cons e es ih =>
      obtain ⟨other, items⟩ := e
      obtain ⟨hfresh, hrest⟩ := List.nodup_cons.mp hnames
      rw [List.map_cons, List.lookup_cons]
      by_cases hname : name = other
      · subst hname
        -- there is no second list of this name that could come up
        have hnone : es.lookup name = none := by
          rw [List.lookup_eq_none_iff]
          intro p hp
          rw [bne_iff_ne]
          exact fun heq => hfresh (List.mem_map.mpr ⟨p, hp, heq.symm⟩)
        rw [hnone] at ih
        rw [beq_self_eq_true]
        by_cases hempty : (items.filter keep).isEmpty = true
        · rw [List.filter_cons_of_neg (by simpa using hempty), ih hrest]
          exact (List.isEmpty_iff.mp hempty).symm
        · rw [List.filter_cons_of_pos (by simpa using hempty), List.lookup_cons, beq_self_eq_true]
          rfl
      · rw [beq_false_of_ne hname]
        by_cases hempty : (items.filter keep).isEmpty = true
        · rw [List.filter_cons_of_neg (by simpa using hempty)]
          exact ih hrest
        · rw [List.filter_cons_of_pos (by simpa using hempty), List.lookup_cons,
            beq_false_of_ne hname]
          exact ih hrest

/-- With distinct keys every pair is found. -/
theorem lookup_of_mem {α β : Type} [BEq α] [LawfulBEq α] {ps : List (α × β)}
    (hkeys : (ps.map Prod.fst).Nodup) {p : α × β} (hp : p ∈ ps) : ps.lookup p.1 = some p.2 := by
  induction ps with
  | nil => cases hp
  | cons q ps ih =>
      obtain ⟨hnew, hkeys⟩ := List.nodup_cons.1 hkeys
      rcases List.mem_cons.1 hp with rfl | hp
      · exact List.lookup_cons_self
      · have hne : (p.1 == q.1) = false := by
          rw [beq_eq_false_iff_ne]
          intro heq
          exact hnew (heq ▸ List.mem_map_of_mem hp)
        rw [List.lookup_cons, hne]
        exact ih hkeys hp

end TileDepot
