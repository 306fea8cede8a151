import Mathlib.Data.List.Perm.Basic
import Phrasebook.Proofs.Outcome
import Phrasebook.Proofs.Pairs
import Phrasebook.Proofs.Text.Fold

/-!
# Trees of keys, seen by their leaves

A tree is known by what it lists: every leaf, with the folded names of the groups on the way to it and its folded
key (`listed`). Where groups and leaves are stored under their own folded names and no name is taken twice
(`IsSound`), looking up finds just what is listed (`find?_leaf?`), adding a leaf lists one more and making groups
lists none (`update_gains`), and the dotted keys of all leaves, level by level, are those of what is listed
(`flatten_perm`).
-/

namespace Phrasebook

/-! ## Dotted names -/

namespace Group

/-- A name that can be a segment of a dotted name. -/
def IsName (s : Text) : Prop := s ≠ [] ∧ dot ∉ s

instance : DecidablePred IsName := fun s => inferInstanceAs (Decidable (s ≠ [] ∧ dot ∉ s))

/-- A dotted name without empty segments; nothing at all is the name of the root. -/
def IsPath (t : Text) : Prop := Text.join [dot] (segments t) = t

instance : DecidablePred IsPath := fun t =>
  inferInstanceAs (Decidable (Text.join [dot] (segments t) = t))

theorem isName_of_mem_segments {t s : Text} (h : s ∈ segments t) : IsName s := by
  obtain ⟨hmem, hne⟩ := List.mem_filter.mp h
  exact ⟨by simpa using hne, fun hdot => (Text.mem_of_mem_splitAll hmem hdot).2 rfl⟩

/-- **The segments of a dotted name are the names that it is made of.** -/
theorem segments_join {names : List Text} (h : ∀ s ∈ names, IsName s) :
    segments (Text.join [dot] names) = names := by
  unfold segments
  cases names with
  | nil => rfl
  | cons name rest =>
      rw [Text.splitAll_join (List.cons_ne_nil name rest) fun s hs => (h s hs).2, List.filter_eq_self]
      intro s hs
      simpa using (h s hs).1

theorem isPath_join {names : List Text} (h : ∀ s ∈ names, IsName s) : IsPath (Text.join [dot] names) := by
  unfold IsPath
  rw [segments_join h]

end Group

namespace Tree

open Phrasebook.Group

theorem join_of_ne_nil {group : Text} (h : group ≠ []) (name : Text) :
    join group name = group ++ [dot] ++ name := by
  unfold join
  rw [if_neg (by simpa using h)]

theorem join_nil (name : Text) : join [] name = name := rfl

theorem join_ne_nil (group : Text) {name : Text} (h : name ≠ []) : join group name ≠ [] := by
  by_cases hgroup : group = []
  · rw [hgroup, join_nil]
    exact h
  · rw [join_of_ne_nil hgroup]
    exact List.append_ne_nil_of_right_ne_nil _ h

/-- Dotted names are put together from either end. -/
theorem join_assoc (group : Text) {between : Text} (h : between ≠ []) (name : Text) :
    join (join group between) name = join group (join between name) := by
  by_cases hgroup : group = []
  · rw [hgroup, join_nil, join_nil]
  · rw [join_of_ne_nil (join_ne_nil group h), join_of_ne_nil hgroup, join_of_ne_nil hgroup,
      join_of_ne_nil h]
    simp only [List.append_assoc]

theorem fold_join (group name : Text) : (join group name).fold = join group.fold name.fold := by
  by_cases hgroup : group = []
  · rw [hgroup, join_nil]
    rfl
  · rw [join_of_ne_nil hgroup, join_of_ne_nil fun hnil => hgroup (Text.fold_eq_nil.mp hnil),
      Text.fold_append, Text.fold_append, Text.fold_dot]

/-- **A dotted name is taken apart again** into group and key. -/
theorem cutLast_join (group : Text) {key : Text} (h : dot ∉ key) :
    Text.cutLast dot (join group key) = (group, key) := by
  by_cases hgroup : group = []
  · rw [hgroup, join_nil, Text.cutLast_eq_self h]
  · rw [join_of_ne_nil hgroup, List.append_assoc, List.singleton_append, Text.cutLast_append h]

theorem join_inj {group key group' key' : Text} (h : dot ∉ key) (h' : dot ∉ key')
    (heq : join group key = join group' key') : (group, key) = (group', key') := by
  rw [← cutLast_join group h, ← cutLast_join group' h', heq]

/-- **Group and key are told apart in a dotted name**, letter case aside, as long as there is no full stop in the
key. -/
theorem fold_join_inj {group key group' key' : Text} (h : dot ∉ key) (h' : dot ∉ key')
    (heq : (join group key).fold = (join group' key').fold) : (group.fold, key.fold) = (group'.fold, key'.fold) := by
  rw [fold_join, fold_join] at heq
  exact join_inj (fun hdot => h (Text.dot_mem_fold_iff.mp hdot))
    (fun hdot => h' (Text.dot_mem_fold_iff.mp hdot)) heq

end Tree

/-! ## Addresses -/

/-- Where a leaf is: the folded names of the groups on the way to it, and its folded key. -/
structure Address where
  groups : List Text
  key : Text
deriving DecidableEq

namespace Address

/-- The address of a key in the group at the end of a path. -/
def ofPath (path : List Text) (key : Text) : Address := ⟨path.map Text.fold, key.fold⟩

/-- The same place seen from further up. -/
def within (names : List Text) (a : Address) : Address := { a with groups := names ++ a.groups }

/-- The dotted name of a place. -/
def dotted (a : Address) : Text := a.groups.foldr Tree.join a.key

theorem dotted_eq_join {names : List Text} (h : ∀ s ∈ names, s ≠ []) (key : Text) :
    dotted ⟨names, key⟩ = Tree.join (Text.join [Group.dot] names) key := by
  induction names with
  | nil => rfl
  | cons name rest ih =>
      have hrest := ih fun s hs => h s (List.mem_cons_of_mem name hs)
      show Tree.join name (dotted ⟨rest, key⟩) = _
      rw [hrest]
      cases rest with
      | nil => rfl
      | cons next rest =>
          have hname := h name List.mem_cons_self
          have hnext : next ≠ [] := h next (List.mem_cons_of_mem name List.mem_cons_self)
          have hne : Text.join [Group.dot] (next :: rest) ≠ [] := by
            cases rest with
            | nil => exact hnext
            | cons last rest =>
                rw [Text.join, List.append_assoc]
                · exact List.append_ne_nil_of_left_ne_nil hnext _
                · exact List.cons_ne_nil last rest
          rw [← Tree.join_assoc name hne, Tree.join_of_ne_nil hname]
          rfl

/-- **The dotted name of a key in a group** is that of the group with the key, folded. -/
theorem dotted_ofPath {group : Text} (h : Group.IsPath group) (key : Text) :
    (ofPath (Group.segments group) key).dotted = (Tree.join group key).fold := by
  have hne : ∀ s ∈ (Group.segments group).map Text.fold, s ≠ [] := by
    intro s hs
    obtain ⟨name, hname, rfl⟩ := List.mem_map.mp hs
    exact fun hnil => (Group.isName_of_mem_segments hname).1 (Text.fold_eq_nil.mp hnil)
  rw [ofPath, dotted_eq_join hne, ← Text.fold_join, h, Tree.fold_join]

end Address

namespace Group

variable {ε : Type} {g g' : Group} {new : List (Address × Leaf)}

/-! ## What a group lists -/

/-- A leaf with its place seen from further up. -/
def within (names : List Text) (e : Address × Leaf) : Address × Leaf := (e.1.within names, e.2)

mutual

/-- All leaves in a group and in the groups further down. -/
def listed : Group → List (Address × Leaf)
  | .node _ leaves children => (leaves.map fun (k, l) => (⟨[], k⟩, l)) ++ listedAll children

/-- All leaves in some groups and in the groups further down. -/
def listedAll : List (Text × Group) → List (Address × Leaf)
  | [] => []
  | (k, g) :: rest => (listed g).map (within [k]) ++ listedAll rest

end

theorem listedAll_eq_flatMap (children : List (Text × Group)) :
    listedAll children = children.flatMap fun (k, g) => (listed g).map (within [k]) := by
  induction children with
  | nil => rfl
  | cons child rest ih => rw [listedAll, ih, List.flatMap_cons]

theorem mem_listedAll {children : List (Text × Group)} {e : Address × Leaf} :
    e ∈ listedAll children ↔ ∃ k c, (k, c) ∈ children ∧ ∃ e' ∈ listed c, within [k] e' = e := by
  rw [listedAll_eq_flatMap, List.mem_flatMap]
  constructor
  · rintro ⟨⟨k, c⟩, hchild, he⟩
    exact ⟨k, c, hchild, List.mem_map.mp he⟩
  · rintro ⟨k, c, hchild, he⟩
    exact ⟨(k, c), hchild, List.mem_map.mpr he⟩

/-- The places that a group has leaves in. -/
def addresses (g : Group) : List Address := (listed g).map Prod.fst

/-- A group with a name of its own, which is folded to a key. -/
def IsNamed (key : Text) (g : Group) : Prop := key = g.name.fold ∧ g.name ≠ []

/-- Groups and leaves are stored under their own folded names, and no name is taken twice. -/
inductive IsSound : Group → Prop
  | node {name : Text} {leaves : List (Text × Leaf)} {children : List (Text × Group)} :
    (Pairs.keys leaves).Nodup → (∀ p ∈ leaves, p.1 = p.2.key.fold) →
    (Pairs.keys children).Nodup → (∀ p ∈ children, p.2.IsNamed p.1) →
    (∀ p ∈ children, IsSound p.2) → IsSound (.node name leaves children)

theorem isSound_named (name : Text) : (named name).IsSound :=
  .node List.nodup_nil (fun _ h => nomatch h) List.nodup_nil (fun _ h => nomatch h) fun _ h => nomatch h

/-- **Looking up finds just what is listed.** -/
theorem find?_leaf? (h : g.IsSound) (path : List Text) (key : Text) (l : Leaf) :
    (g.find? path).bind (fun g => g.leaf? key) = some l ↔ (Address.ofPath path key, l) ∈ listed g := by
  induction path generalizing g with
  | nil =>
      obtain ⟨hleaves, -, -, -, -⟩ := h
      next name leaves children =>
      show Pairs.get? key.fold leaves = some l ↔ _
      rw [Pairs.get?_eq_some_iff hleaves, listed, List.mem_append, List.mem_map, mem_listedAll]
      constructor
      · intro hmem
        exact .inl ⟨_, hmem, rfl⟩
      · rintro (⟨p, hp, heq⟩ | ⟨k, c, -, e, -, heq⟩)
        · obtain ⟨haddress, rfl⟩ := Prod.mk.inj heq
          rw [← (Address.mk.inj haddress).2]
          exact hp
        · -- What is in a child is not in the group itself.
          have hgroups : k :: e.1.groups = [] := congrArg (fun e => e.1.groups) heq
          cases hgroups
  | cons s path ih =>
      obtain ⟨-, -, hchildren, -, hsound⟩ := h
      next name leaves children =>
      have hfind : ((Group.node name leaves children).find? (s :: path)).bind (fun g => g.leaf? key)
          = (Pairs.get? s.fold children).bind fun c => (c.find? path).bind fun g => g.leaf? key :=
        Option.bind_assoc _ _ _
      rw [hfind, Option.bind_eq_some_iff, listed, List.mem_append, mem_listedAll]
      constructor
      · rintro ⟨c, hc, hl⟩
        have hmem := (Pairs.get?_eq_some_iff hchildren).mp hc
        exact .inr ⟨s.fold, c, hmem, _, (ih (hsound _ hmem)).mp hl, rfl⟩
      · rintro (hleaf | ⟨k, c, hmem, e, he, heq⟩)
        · obtain ⟨p, -, heq⟩ := List.mem_map.mp hleaf
          have hgroups : [] = s.fold :: path.map Text.fold := congrArg (fun e => e.1.groups) heq
          cases hgroups
        · obtain ⟨haddress, rfl⟩ := Prod.mk.inj heq
          obtain ⟨hgroups, hkey⟩ := Address.mk.inj haddress
          obtain ⟨rfl, hrest⟩ := List.cons.inj hgroups
          refine ⟨c, (Pairs.get?_eq_some_iff hchildren).mpr hmem, (ih (hsound _ hmem)).mpr ?_⟩
          obtain ⟨⟨groups, key'⟩, l⟩ := e
          obtain rfl : groups = path.map Text.fold := hrest
          obtain rfl : key' = key.fold := hkey
          exact he

/-! ## Changing the group at the end of a path -/

/-- **`g.Gains new g'`**: `g'` is `g` with some leaves added. -/
structure Gains (g : Group) (new : List (Address × Leaf)) (g' : Group) : Prop where
  name : g'.name = g.name
  sound : g'.IsSound
  listed : (listed g').Perm (listed g ++ new)

theorem Gains.trans {new' : List (Address × Leaf)} {g'' : Group} (h : g.Gains new g') (h' : g'.Gains new' g'') :
    g.Gains (new ++ new') g'' where
  name := h'.name.trans h.name
  sound := h'.sound
  listed := by
    rw [← List.append_assoc]
    exact h'.listed.trans (h.listed.append_right new')

/-- The child that is changed is the one under the key, or a fresh one, and it takes that place. -/
theorem updateChild_eq (key : Text) (fresh : Group) (f : Group → Except ε Group)
    (children : List (Text × Group)) :
    updateChild key fresh f children
      = (f ((Pairs.get? key children).getD fresh)).map fun c => Pairs.put key c children := by
  induction children with
  | nil =>
      show (do return [(key, ← f fresh)]) = (f fresh).map fun c => [(key, c)]
      cases f fresh <;> rfl
  | cons child rest ih =>
      obtain ⟨k, g⟩ := child
      rw [updateChild, Pairs.get?]
      by_cases hk : k = key
      · rw [if_pos hk, if_pos hk]
        simp only [Pairs.put, Option.getD_some, hk]
        cases f g <;> rfl
      · rw [if_neg hk, if_neg hk, ih]
        simp only [Pairs.put, if_neg hk]
        cases f ((Pairs.get? key rest).getD fresh) <;> rfl

/-- What a child gains is listed once more further up. -/
theorem listedAll_put {key : Text} {fresh c' : Group} (hfresh : listed fresh = [])
    {children : List (Text × Group)}
    (h : (listed c').Perm (listed ((Pairs.get? key children).getD fresh) ++ new)) :
    (listedAll (Pairs.put key c' children)).Perm (listedAll children ++ new.map (within [key])) := by
  induction children with
  | nil =>
      rw [Pairs.get?, Option.getD_none, hfresh, List.nil_append] at h
      rw [Pairs.put, listedAll, listedAll, listedAll, List.append_nil, List.nil_append]
      exact h.map _
  | cons child rest ih =>
      obtain ⟨k, c⟩ := child
      rw [Pairs.get?] at h
      rw [Pairs.put]
      by_cases hk : k = key
      · rw [if_pos hk, Option.getD_some] at h
        rw [if_pos hk, listedAll, listedAll, hk]
        have hmapped := (h.map (within [key])).append_right (listedAll rest)
        rw [List.map_append, List.append_assoc] at hmapped
        rw [List.append_assoc]
        exact hmapped.trans (List.perm_append_comm.append_left _)
      · rw [if_neg hk] at h
        rw [if_neg hk, listedAll, listedAll, List.append_assoc]
        exact (ih h).append_left _

section Child

variable {name s : Text} {leaves : List (Text × Leaf)} {children : List (Text × Group)} {c' : Group}

theorem IsSound.child (h : (Group.node name leaves children).IsSound) (s : Text) :
    ((Pairs.get? s.fold children).getD (named s)).IsSound := by
  obtain ⟨-, -, hchildren, -, hsound⟩ := h
  cases hget : Pairs.get? s.fold children with
  | none => exact isSound_named s
  | some c => exact hsound _ ((Pairs.get?_eq_some_iff hchildren).mp hget)

/-- The name of a child is spelled like the path that leads to it, up to case. -/
theorem IsSound.child_name (h : (Group.node name leaves children).IsSound) (hs : s ≠ []) :
    ((Pairs.get? s.fold children).getD (named s)).IsNamed s.fold := by
  obtain ⟨-, -, hchildren, hnamed, -⟩ := h
  cases hget : Pairs.get? s.fold children with
  | none => exact ⟨rfl, hs⟩
  | some c => exact hnamed _ ((Pairs.get?_eq_some_iff hchildren).mp hget)

/-- What is taken in a child is taken further up. -/
theorem IsSound.within_mem (h : (Group.node name leaves children).IsSound) {a : Address}
    (ha : a ∈ ((Pairs.get? s.fold children).getD (named s)).addresses) :
    a.within [s.fold] ∈ (Group.node name leaves children).addresses := by
  obtain ⟨-, -, hchildren, -, -⟩ := h
  cases hget : Pairs.get? s.fold children with
  | none =>
      rw [hget] at ha
      nomatch ha
  | some c =>
      rw [hget] at ha
      obtain ⟨e, he, rfl⟩ := List.mem_map.mp ha
      refine List.mem_map.mpr ⟨within [s.fold] e, ?_, rfl⟩
      rw [listed, List.mem_append, mem_listedAll]
      exact .inr ⟨s.fold, c, (Pairs.get?_eq_some_iff hchildren).mp hget, e, he, rfl⟩

/-- **What a child gains, its group gains.** -/
theorem Gains.putChild (h : (Group.node name leaves children).IsSound) (hs : s ≠ [])
    (hc : ((Pairs.get? s.fold children).getD (named s)).Gains new c') :
    (Group.node name leaves children).Gains (new.map (within [s.fold]))
      (Group.node name leaves (Pairs.put s.fold c' children)) where
  name := rfl
  sound := by
    have hname : c'.IsNamed s.fold := by
      rw [IsNamed, hc.name]
      exact h.child_name hs
    obtain ⟨hleaves, hfolded, hchildren, hnamed, hsound⟩ := h
    refine .node hleaves hfolded (Pairs.nodup_put hchildren s.fold c') (fun p hp => ?_) fun p hp => ?_
    · rcases Pairs.mem_put hp with rfl | hp
      · exact hname
      · exact hnamed p hp
    · rcases Pairs.mem_put hp with rfl | hp
      · exact hc.sound
      · exact hsound p hp
  listed := by
    rw [Group.listed, Group.listed, List.append_assoc]
    exact (listedAll_put rfl hc.listed).append_left _

end Child

/-- **What the group at the end of a path gains, the group further up gains too.** -/
theorem update_gains {f : Group → Except ε Group}
    (hf : ∀ g : Group, g.IsSound → (∀ e ∈ new, e.1 ∉ g.addresses) → ∃ g', f g = .ok g' ∧ g.Gains new g')
    {path : List Text} (hpath : ∀ s ∈ path, s ≠ []) (hg : g.IsSound)
    (hnew : ∀ e ∈ new, e.1.within (path.map Text.fold) ∉ g.addresses) :
    ∃ g', update f path g = .ok g' ∧ g.Gains (new.map (within (path.map Text.fold))) g' := by
  induction path generalizing g with
  | nil =>
      have hsame : new.map (within []) = new := List.map_id new
      obtain ⟨g', hok, hgains⟩ := hf g hg hnew
      refine ⟨g', hok, ?_⟩
      rw [List.map_nil, hsame]
      exact hgains
  | cons s path ih =>
      obtain ⟨name, leaves, children⟩ := g
      have hrest : ∀ t ∈ path, t ≠ [] := fun t ht => hpath t (List.mem_cons_of_mem s ht)
      -- The child on the path, or the one that is made for it, gains the leaves.
      obtain ⟨c', hok, hgains⟩ := ih hrest (hg.child s) fun e he haddress =>
        hnew e he (hg.within_mem haddress)
      have hwithin : (new.map (within (path.map Text.fold))).map (within [s.fold])
          = new.map (within ((s :: path).map Text.fold)) := List.map_map
      refine ⟨.node name leaves (Pairs.put s.fold c' children), ?_, ?_⟩
      · rw [update, updateChild_eq, hok]
        rfl
      · rw [← hwithin]
        exact hgains.putChild hg (hpath s List.mem_cons_self)

/-- A change that came through is a change to the group at the end of the path, whatever that is. -/
theorem gains_of_update {f : Group → Except ε Group}
    (hf : ∀ {g g' : Group}, g.IsSound → f g = .ok g' → g.Gains new g') {path : List Text}
    (hpath : ∀ s ∈ path, s ≠ []) (hg : g.IsSound) (h : update f path g = .ok g') :
    g.Gains (new.map (within (path.map Text.fold))) g' := by
  induction path generalizing g g' with
  | nil =>
      have hsame : new.map (within []) = new := List.map_id new
      rw [List.map_nil, hsame]
      exact hf hg h
  | cons s path ih =>
      obtain ⟨name, leaves, children⟩ := g
      rw [update, updateChild_eq] at h
      obtain ⟨children', hchildren, hnode⟩ := exists_of_bind h
      obtain ⟨c', hc', rfl⟩ := exists_of_map hchildren
      obtain rfl := Except.ok.inj hnode
      have hgains := ih (fun t ht => hpath t (List.mem_cons_of_mem s ht)) (hg.child s) hc'
      have hput := hgains.putChild hg (hpath s List.mem_cons_self)
      rw [List.map_map] at hput
      exact hput

/-- A leaf is added where its key is not taken. -/
theorem addLeaf_gains (l : Leaf) (hg : g.IsSound) (hnew : ⟨[], l.key.fold⟩ ∉ g.addresses) :
    ∃ g', g.addLeaf l = .ok g' ∧ g.Gains [(⟨[], l.key.fold⟩, l)] g' := by
  obtain ⟨hleaves, hfolded, hchildren, hnamed, hsound⟩ := hg
  next name leaves children =>
  -- A leaf of that key would have the address that is said to be new.
  have hfree : ¬Pairs.has l.key.fold leaves = true := by
    intro hhas
    obtain ⟨p, hp, hkey⟩ := List.mem_map.mp (Pairs.mem_keys_iff.mpr hhas)
    refine hnew (List.mem_map.mpr ⟨(⟨[], p.1⟩, p.2), ?_, by rw [hkey]⟩)
    rw [listed]
    exact List.mem_append_left _ (List.mem_map_of_mem hp)
  refine ⟨.node name (leaves ++ [(l.key.fold, l)]) children, ?_, rfl, ?_, ?_⟩
  · rw [addLeaf, if_neg hfree]
  · refine .node ?_ ?_ hchildren hnamed hsound
    · have hkeys : Pairs.keys (leaves ++ [(l.key.fold, l)]) = Pairs.keys leaves ++ [l.key.fold] :=
        List.map_append
      rw [hkeys]
      refine List.nodup_append.mpr ⟨hleaves, List.nodup_singleton _, fun k hk k' hk' => ?_⟩
      obtain rfl := List.mem_singleton.mp hk'
      rintro rfl
      exact hfree (Pairs.mem_keys_iff.mp hk)
    · intro p hp
      rcases List.mem_append.mp hp with hp | hp
      · exact hfolded p hp
      · obtain rfl := List.mem_singleton.mp hp
        rfl
  · rw [listed, listed, List.map_append, List.append_assoc, List.append_assoc]
    exact List.perm_append_comm.append_left _

end Group

namespace Tree

open Phrasebook.Group

variable {t : Tree}

theorem isSound_empty : empty.root.IsSound := isSound_named []

/-- **Making groups adds no leaves.** -/
theorem makeGroup_gains (h : t.root.IsSound) (path : Text) :
    ∃ t', t.makeGroup path = .ok t' ∧ t.root.Gains [] t'.root := by
  have hstays : ∀ g : Group, g.IsSound → (∀ e ∈ ([] : List (Address × Leaf)), e.1 ∉ g.addresses) →
      ∃ g', (Except.ok g : Outcome Group) = .ok g' ∧ g.Gains [] g' := fun g hg _ =>
    ⟨g, rfl, rfl, hg, (List.append_nil (listed g)).symm ▸ List.Perm.refl _⟩
  have hpath : ∀ s ∈ segments path, s ≠ [] := fun s hs => (isName_of_mem_segments hs).1
  obtain ⟨g', hok, hgains⟩ := update_gains hstays hpath h fun _ he => nomatch he
  refine ⟨⟨g'⟩, ?_, hgains⟩
  rw [makeGroup, hok]
  rfl

/-- **A leaf is added to the group at the end of a path**, unless its place is taken. -/
theorem addLeaf_gains (h : t.root.IsSound) (path : Text) (l : Leaf)
    (hnew : Address.ofPath (segments path) l.key ∉ t.root.addresses) :
    ∃ t', t.addLeaf path l = .ok t'
      ∧ t.root.Gains [(Address.ofPath (segments path) l.key, l)] t'.root := by
  have hadds : ∀ g : Group, g.IsSound → (∀ e ∈ [((⟨[], l.key.fold⟩ : Address), l)], e.1 ∉ g.addresses) →
      ∃ g', g.addLeaf l = .ok g' ∧ g.Gains [(⟨[], l.key.fold⟩, l)] g' := fun g hg hfree =>
    Group.addLeaf_gains l hg (hfree _ List.mem_cons_self)
  have haddress : Address.within ((segments path).map Text.fold) ⟨[], l.key.fold⟩
      = Address.ofPath (segments path) l.key := congrArg (Address.mk · l.key.fold) (List.append_nil _)
  have hpath : ∀ s ∈ segments path, s ≠ [] := fun s hs => (isName_of_mem_segments hs).1
  obtain ⟨g', hok, hgains⟩ := update_gains hadds hpath h fun e he => by
    obtain rfl := List.mem_singleton.mp he
    rw [haddress]
    exact hnew
  refine ⟨⟨g'⟩, ?_, ?_⟩
  · rw [addLeaf, hok]
    rfl
  · rw [List.map_singleton, within, haddress] at hgains
    exact hgains

/-- **A dotted key leads to the leaf that is listed for it.** -/
theorem leaf?_join (h : t.root.IsSound) (group : Text) {key : Text} (hkey : dot ∉ key) (l : Leaf) :
    t.leaf? (join group key) = some l ↔ (Address.ofPath (segments group) key, l) ∈ listed t.root := by
  have hcut : t.leaf? (join group key)
      = (t.root.find? (segments group)).bind fun g => g.leaf? key := by
    unfold leaf?
    rw [cutLast_join group hkey]
    rfl
  rw [hcut, find?_leaf? h]

/-! ## Level by level -/

/-- A leaf with its dotted key folded. -/
def folded (e : Text × Leaf) : Text × Leaf := (e.1.fold, e.2)

/-- A leaf that is listed in a group, with its folded dotted key as it is seen from the root. -/
def dottedFrom (path : Text) (e : Address × Leaf) : Text × Leaf := (join path.fold e.1.dotted, e.2)

theorem heightOfAll_le_iff {groups : List (Text × Group)} {n : Nat} :
    heightOfAll groups ≤ n ↔ ∀ p ∈ groups, height p.2 ≤ n := by
  induction groups with
  | nil => simp [heightOfAll]
  | cons p rest ih => rw [heightOfAll, Nat.max_le, ih, List.forall_mem_cons]

theorem height_le_succ {g : Group} {n : Nat} (h : height g ≤ n + 1) : heightOfAll g.children ≤ n := by
  cases g
  exact Nat.le_of_succ_le_succ h

theorem height_pos (g : Group) : 0 < height g := by
  cases g
  exact Nat.succ_pos _

/-- The groups one level down are not as high. -/
theorem heightOfAll_below_le {groups : List (Text × Group)} {levels : Nat} (h : heightOfAll groups ≤ levels + 1) :
    heightOfAll (groups.flatMap fun (path, g) => g.children.map fun (_, c) => (join path c.name, c)) ≤ levels := by
  refine heightOfAll_le_iff.mpr fun p hp => ?_
  obtain ⟨⟨path, g⟩, hg, hp⟩ := List.mem_flatMap.mp hp
  obtain ⟨child, hchild, rfl⟩ := List.mem_map.mp hp
  exact heightOfAll_le_iff.mp (height_le_succ (heightOfAll_le_iff.mp h _ hg)) child hchild

/-- The leaves of a group itself, with the dotted keys that the way to it gives them. -/
theorem folded_leaves {g : Group} (h : g.IsSound) (path : Text) :
    (g.leaves.map fun (_, l) => (join path l.key, l)).map folded
      = (g.leaves.map fun (k, l) => (⟨[], k⟩, l)).map (dottedFrom path) := by
  obtain ⟨-, hfolded, -, -, -⟩ := h
  rw [List.map_map, List.map_map]
  refine List.map_congr_left fun p hp => ?_
  show ((join path p.2.key).fold, p.2) = (join path.fold p.1, p.2)
  rw [fold_join, hfolded p hp]

/-- What the children of a group list, with the dotted keys that the ways to them give it. -/
theorem dottedFrom_children {g : Group} (h : g.IsSound) (path : Text) :
    (g.children.map fun (_, c) => (join path c.name, c)).flatMap
        (fun (path, c) => (listed c).map (dottedFrom path))
      = (listedAll g.children).map (dottedFrom path) := by
  obtain ⟨-, -, -, hnamed, -⟩ := h
  rw [List.flatMap_map, listedAll_eq_flatMap, List.map_flatMap]
  refine List.flatMap_congr fun p hp => ?_
  obtain ⟨hkey, hne⟩ := hnamed p hp
  dsimp only
  rw [List.map_map]
  refine List.map_congr_left fun e _ => ?_
  show (join (join path p.2.name).fold e.1.dotted, e.2) = (join path.fold (join p.1 e.1.dotted), e.2)
  rw [fold_join, hkey, join_assoc path.fold fun hnil => hne (Text.fold_eq_nil.mp hnil)]

/-- The leaves of groups level by level are what the groups list, in another order. The groups come with the
dotted names of the way to them. -/
theorem leavesByLevel_perm {levels : Nat} {groups : List (Text × Group)}
    (hsound : ∀ p ∈ groups, p.2.IsSound) (hlevels : heightOfAll groups ≤ levels) :
    ((leavesByLevel levels groups).map folded).Perm
      (groups.flatMap fun (path, g) => (listed g).map (dottedFrom path)) := by
  -- On the levels that are left, for any groups that are not higher.
  induction levels generalizing groups with
  | zero =>
      cases groups with
      | nil => exact .refl _
      | cons p rest =>
          have hheight := heightOfAll_le_iff.mp hlevels p List.mem_cons_self
          exact absurd hheight (Nat.not_le.mpr (height_pos p.2))
  | succ levels ih =>
      have hbelow : ∀ p ∈ groups.flatMap fun (path, g) => g.children.map fun (_, c) => (join path c.name, c),
          p.2.IsSound := by
        intro p hp
        obtain ⟨⟨path, g⟩, hg, hp⟩ := List.mem_flatMap.mp hp
        obtain ⟨child, hchild, rfl⟩ := List.mem_map.mp hp
        obtain ⟨-, -, -, -, hsound⟩ := hsound _ hg
        exact hsound child hchild
      have hrest := ih hbelow (heightOfAll_below_le hlevels)
      have hsplit : ∀ p ∈ groups, (listed p.2).map (dottedFrom p.1)
          = (p.2.leaves.map fun (_, l) => (join p.1 l.key, l)).map folded
            ++ (p.2.children.map fun (_, c) => (join p.1 c.name, c)).flatMap
              (fun (path, c) => (listed c).map (dottedFrom path)) := by
        intro p hp
        rw [folded_leaves (hsound p hp), dottedFrom_children (hsound p hp), ← List.map_append]
        cases p.2
        rfl
      rw [leavesByLevel, List.map_append, List.map_flatMap, List.flatMap_congr hsplit]
      rw [List.flatMap_assoc] at hrest
      exact (hrest.append_left _).trans (List.flatMap_append_perm _ _ _)

/-- **The dotted keys of all leaves are those of what is listed**, letter case aside. -/
theorem flatten_perm (h : t.root.IsSound) :
    (t.flatten.map folded).Perm ((listed t.root).map fun e => (e.1.dotted, e.2)) := by
  have hsingle : ∀ p ∈ [(([] : Text), t.root)], p.2.IsSound := fun p hp => by
    obtain rfl := List.mem_singleton.mp hp
    exact h
  have hheight : heightOfAll [(([] : Text), t.root)] ≤ height t.root := by simp [heightOfAll]
  have hperm := leavesByLevel_perm hsingle hheight
  rw [List.flatMap_singleton] at hperm
  exact hperm

end Tree

end Phrasebook
