import Phrasebook.Proofs.Tree

/-!
# Places in a tree

Which groups there are, and what becomes of a place when something changes. Places are compared segment by segment
and letter case aside (`find?_congr`), so the spelling of a path is of no consequence (`group?_congr`,
`leaf?_congr`). Changing the group at the end of a path makes the groups on the way there, and no others
(`isSome_find?_update`); a change to a group that is there is that change and nothing else
(`update_of_find?`).
-/

namespace Phrasebook

open Phrasebook.Group (dot segments)

/-! ## Segments -/

namespace Group

theorem segments_fold (t : Text) : segments t.fold = (segments t).map Text.fold := by
  have hempty : ∀ s : Text, s.fold.isEmpty = s.isEmpty := fun s => by
    rw [Bool.eq_iff_iff, List.isEmpty_iff, List.isEmpty_iff]
    exact Text.fold_eq_nil
  unfold segments
  rw [Text.splitAll_fold, List.filter_map]
  congr 1
  refine List.filter_congr fun s _ => ?_
  show (!s.fold.isEmpty) = !s.isEmpty
  rw [hempty]

/-- **The segments of a path within a place** are those of the place and then those of the path. -/
theorem segments_joined (place path : Text) :
    segments (Tree.join place path) = segments place ++ segments path := by
  by_cases h : place = []
  · rw [h, Tree.join_nil]
    rfl
  · rw [Tree.join_of_ne_nil h, List.append_assoc, List.singleton_append, segments, Text.splitAll_append_cons,
      List.filter_append]
    rfl

/-- A path as it is written without empty segments. -/
def tidied (path : Text) : Text := Text.join [dot] (segments path)

theorem segments_tidied (path : Text) : segments (tidied path) = segments path :=
  segments_join fun _ hs => isName_of_mem_segments hs

theorem isPath_tidied (path : Text) : IsPath (tidied path) := isPath_join fun _ hs => isName_of_mem_segments hs

end Group

/-! ## Looking up -/

namespace Group

variable {ε : Type} {g g' c : Group} {p q path : List Text}

/-- **Letter case does not matter on the way to a group.** -/
theorem find?_congr (h : p.map Text.fold = q.map Text.fold) (g : Group) : g.find? p = g.find? q := by
  induction p generalizing q g with
  | nil =>
      obtain rfl := List.map_eq_nil_iff.mp h.symm
      rfl
  | cons s p ih =>
      obtain ⟨t, q, rfl, hs, hp⟩ := List.map_eq_cons_iff.mp h.symm
      have hchild : g.child? s = g.child? t := by rw [child?, child?, hs]
      rw [find?, find?, hchild]
      exact congrArg _ (funext fun c => ih hp.symm c)

theorem find?_append (p q : List Text) (g : Group) : g.find? (p ++ q) = (g.find? p).bind (find? q) := by
  induction p generalizing g with
  | nil => rfl
  | cons s p ih =>
      rw [List.cons_append, find?, find?, Option.bind_assoc]
      exact congrArg _ (funext fun c => ih c)

/-- The groups on the way to a group are there. -/
theorem isSome_find?_of_isPrefix (h : p.map Text.fold <+: q.map Text.fold) (hq : (g.find? q).isSome) :
    (g.find? p).isSome := by
  obtain ⟨rest, hrest⟩ := h
  obtain ⟨front, back, rfl, hfront, -⟩ := List.map_eq_append_iff.mp hrest.symm
  rw [find?_append, Option.isSome_bind] at hq
  rw [find?_congr hfront.symm]
  exact Option.isSome_of_any hq

theorem IsSound.of_find? (h : g.IsSound) (hfind : g.find? p = some c) : c.IsSound := by
  induction p generalizing g with
  | nil =>
      obtain rfl := Option.some.inj hfind
      exact h
  | cons s p ih =>
      obtain ⟨-, -, hchildren, -, hsound⟩ := h
      obtain ⟨d, hd, hc⟩ := Option.bind_eq_some_iff.mp hfind
      exact ih (hsound _ ((Pairs.get?_eq_some_iff hchildren).mp hd)) hc

/-! ## Changing -/

/-- A change further down a path, from some place on it. -/
theorem update_append (f : Group → Except ε Group) (p q : List Text) (g : Group) :
    update (update f q) p g = update f (p ++ q) g := by
  induction p generalizing g with
  | nil => rfl
  | cons s p ih =>
      obtain ⟨name, leaves, children⟩ := g
      rw [List.cons_append, update, update, funext ih]

/-- **A change to a group that is there** comes to that change, put back into its place. -/
theorem update_of_find? (h : g.find? path = some c) :
    ∃ back : Group → Group, ∀ f : Group → Outcome Group, update f path g = (f c).map back := by
  induction path generalizing g with
  | nil =>
      obtain rfl := Option.some.inj h
      refine ⟨id, fun f => ?_⟩
      rw [update]
      cases f g <;> rfl
  | cons s path ih =>
      obtain ⟨name, leaves, children⟩ := g
      obtain ⟨d, hd, hc⟩ := Option.bind_eq_some_iff.mp h
      obtain ⟨back, hback⟩ := ih hc
      refine ⟨fun c' => .node name leaves (Pairs.put s.fold (back c') children), fun f => ?_⟩
      have hchild : (Pairs.get? s.fold children).getD (named s) = d := by
        rw [show Pairs.get? s.fold children = some d from hd, Option.getD_some]
      rw [update, updateChild_eq, hchild, hback]
      cases f c <;> rfl

/-- A change to a group that leaves the groups within it alone. -/
def KeepsChildren (f : Group → Except ε Group) : Prop := ∀ g g', f g = .ok g' → g'.children = g.children

theorem keepsChildren_ok : KeepsChildren (.ok : Group → Except ε Group) := by
  intro g g' h
  obtain rfl := Except.ok.inj h
  rfl

theorem keepsChildren_addLeaf (l : Leaf) : KeepsChildren (addLeaf l) := by
  intro g g' h
  obtain ⟨name, leaves, children⟩ := g
  rw [addLeaf] at h
  split at h
  · cases h
  · obtain rfl := Except.ok.inj h
    rfl

/-- **The groups after a change** to the one at the end of a path: those that were there before, and those on the
way. -/
theorem isSome_find?_update {f : Group → Except ε Group} (hf : KeepsChildren f)
    (h : update f path g = .ok g') (p : List Text) :
    (g'.find? p).isSome ↔ (g.find? p).isSome ∨ p.map Text.fold <+: path.map Text.fold := by
  -- On the path of the change, with the place looked for running along.
  induction path generalizing g g' p with
  | nil =>
      cases p with
      | nil => exact iff_of_true rfl (.inl rfl)
      | cons s p =>
          have hchild : g'.child? s = g.child? s := by rw [child?, child?, hf g g' h]
          rw [find?, find?, hchild]
          exact (or_iff_left fun hprefix => List.cons_ne_nil _ _ (List.prefix_nil.mp hprefix)).symm
  | cons s path ih =>
      obtain ⟨name, leaves, children⟩ := g
      rw [update, updateChild_eq] at h
      obtain ⟨children', hchildren, hnode⟩ := exists_of_bind h
      obtain ⟨c', hc', rfl⟩ := exists_of_map hchildren
      obtain rfl := Except.ok.inj hnode
      cases p with
      | nil => exact iff_of_true rfl (.inl rfl)
      | cons t p =>
          show ((Pairs.get? t.fold (Pairs.put s.fold c' children)).bind (find? p)).isSome
            ↔ ((Pairs.get? t.fold children).bind (find? p)).isSome
              ∨ t.fold :: p.map Text.fold <+: s.fold :: path.map Text.fold
          by_cases hts : t.fold = s.fold
          · rw [hts, Pairs.get?_put_self, Option.bind_some, ih hc' p, List.cons_prefix_cons, and_iff_right rfl]
            cases hget : Pairs.get? s.fold children with
            | some c => rfl
            | none =>
                -- In a group that is made on the way there are no others yet.
                rw [Option.getD_none, Option.bind_none]
                cases p with
                | nil => exact iff_of_true (.inl rfl) (.inr List.nil_prefix)
                | cons u p => exact Iff.rfl
          · rw [Pairs.get?_put_of_ne hts, List.cons_prefix_cons]
            exact (or_iff_left fun hprefix => hts hprefix.1).symm

end Group

namespace Tree

variable {t t' : Tree} {k k' p q path : Text}

theorem group?_congr (h : (segments p).map Text.fold = (segments q).map Text.fold) (t : Tree) :
    t.group? p = t.group? q := Group.find?_congr h t.root

/-- **Letter case does not matter in a dotted key.** -/
theorem leaf?_congr (h : k.fold = k'.fold) (t : Tree) : t.leaf? k = t.leaf? k' := by
  have hcut := congrArg (Text.cutLast dot) h
  rw [Text.cutLast_fold, Text.cutLast_fold] at hcut
  obtain ⟨hgroup, hkey⟩ := Prod.mk.inj hcut
  have hsegments := congrArg segments hgroup
  rw [Group.segments_fold, Group.segments_fold] at hsegments
  show (t.group? (Text.cutLast dot k).1).bind (fun g => g.leaf? (Text.cutLast dot k).2)
    = (t.group? (Text.cutLast dot k').1).bind fun g => g.leaf? (Text.cutLast dot k').2
  rw [group?_congr hsegments t]
  refine congrArg _ (funext fun g => ?_)
  rw [Group.leaf?, Group.leaf?, hkey]

theorem isSome_group?_update {f : Group → Outcome Group} (hf : Group.KeepsChildren f)
    (h : (do return ⟨← t.root.update f (segments path)⟩ : Outcome Tree) = .ok t') (p : Text) :
    (t'.group? p).isSome
      ↔ (t.group? p).isSome ∨ (segments p).map Text.fold <+: (segments path).map Text.fold := by
  obtain ⟨root', hupdate, hok⟩ := exists_of_bind h
  obtain rfl := Except.ok.inj hok
  exact Group.isSome_find?_update hf hupdate (segments p)

/-- **Making groups** makes those on the way to the last one. -/
theorem isSome_group?_makeGroup (h : t.makeGroup path = .ok t') (p : Text) :
    (t'.group? p).isSome
      ↔ (t.group? p).isSome ∨ (segments p).map Text.fold <+: (segments path).map Text.fold :=
  isSome_group?_update Group.keepsChildren_ok h p

/-- **Adding a leaf to a group that is there makes no groups.** -/
theorem isSome_group?_addLeaf {l : Leaf} (hpath : (t.group? path).isSome) (h : t.addLeaf path l = .ok t')
    (p : Text) : (t'.group? p).isSome ↔ (t.group? p).isSome := by
  refine (isSome_group?_update (Group.keepsChildren_addLeaf l) h p).trans ?_
  exact or_iff_left_of_imp fun hprefix => Group.isSome_find?_of_isPrefix hprefix hpath

end Tree

end Phrasebook
