import Phrasebook.Proofs.Tree.Places
import Phrasebook.Proofs.Tree.Tour

/-!
# How a tree grows

A tree starts out empty and is built by calls on the groups in it: groups are made, leaves are added. Whatever the
calls are, as long as no leaf has a key with a full stop in it, the tree keeps its leaves apart and reachable
(`grown_keepsApart`). The induction is over the calls; every one keeps that the tree is sound, that it lists the
leaves which were added, at their addresses, and that its groups are those on the paths which were made
(`Growth.IsSound`).
-/

namespace Phrasebook

open Phrasebook.Group (segments tidied listed)

/-! ## Keys that are taken -/

namespace Group

variable {g : Group}

/-- **`g.Takes key`**: the group has a leaf whose key is the same, letter case aside. -/
def Takes (g : Group) (key : Text) : Prop := ∃ p ∈ g.leaves, p.2.key.fold = key.fold

theorem takes_iff_isSome_leaf? (h : g.IsSound) (key : Text) : g.Takes key ↔ (g.leaf? key).isSome := by
  obtain ⟨-, hfolded, -, -, -⟩ := h
  next name leaves children =>
  show (∃ p ∈ leaves, p.2.key.fold = key.fold) ↔ Pairs.has key.fold leaves = true
  rw [← Pairs.mem_keys_iff, Pairs.keys, List.mem_map]
  refine exists_congr fun p => and_congr_right fun hp => ?_
  rw [hfolded p hp]

end Group

namespace Tree

variable {t : Tree} {place : Text} {c : Group}

/-- The tree with the groups on a path within one of its groups. -/
def makeWithin (t : Tree) (place path : Text) : Outcome Tree := do
  return ⟨← t.root.update (Group.update .ok (segments path)) (segments place)⟩

/-- **Groups are made within a group** as they are made from the root, on the joined path. -/
theorem makeWithin_eq (t : Tree) (place path : Text) : t.makeWithin place path = t.makeGroup (join place path) := by
  rw [makeWithin, makeGroup, Group.update_append, Group.segments_joined]

section Taken

variable (h : t.root.IsSound) (hc : t.group? place = some c) {l : Leaf}
include h hc

/-- **A leaf whose key is taken is refused.** -/
theorem addLeaf_of_takes (hl : c.Takes l.key) :
    t.addLeaf place l = .error (.content ("Duplicate key '" ++ l.key ++ "'")) := by
  obtain ⟨back, hback⟩ := Group.update_of_find? hc
  have hhas := (Group.takes_iff_isSome_leaf? (h.of_find? hc) l.key).mp hl
  have hrefused : c.addLeaf l = .error (.content ("Duplicate key '" ++ l.key ++ "'")) := by
    obtain ⟨name, leaves, children⟩ := c
    exact if_pos hhas
  rw [addLeaf, hback, hrefused]
  rfl

theorem addLeaf_of_not_takes (hl : ¬c.Takes l.key) : ∃ t', t.addLeaf place l = .ok t' := by
  obtain ⟨back, hback⟩ := Group.update_of_find? hc
  rw [Group.takes_iff_isSome_leaf? (h.of_find? hc)] at hl
  obtain ⟨c', hadded⟩ : ∃ c', c.addLeaf l = .ok c' := by
    obtain ⟨name, leaves, children⟩ := c
    exact ⟨_, if_neg hl⟩
  rw [addLeaf, hback, hadded]
  exact ⟨_, rfl⟩

end Taken

/-- A leaf that was not refused has an address that was free. -/
theorem free_of_addLeaf {t' : Tree} {l : Leaf} (h : t.root.IsSound) (hok : t.addLeaf place l = .ok t') :
    Address.ofPath (segments place) l.key ∉ t.root.addresses := by
  intro haddress
  obtain ⟨⟨a, l'⟩, he, rfl⟩ := List.mem_map.mp haddress
  obtain ⟨c, hc, hl'⟩ := Option.bind_eq_some_iff.mp ((Group.find?_leaf? h (segments place) l.key l').mpr he)
  have htaken : c.Takes l.key := (Group.takes_iff_isSome_leaf? (h.of_find? hc) l.key).mpr (by rw [hl']; rfl)
  rw [addLeaf_of_takes h hc htaken] at hok
  cases hok

/-! ## Calls -/

/-- A call on a group of a tree, which stands at a place: groups are made on a path within it, or a leaf is added
to it. -/
inductive Call where
  | make (place path : Text)
  | add (place : Text) (l : Leaf)

/-- A call that adds no key with a full stop in it. -/
def Call.IsPlain : Call → Prop
  | make _ _ => True
  | add _ l => Group.dot ∉ l.key

instance : DecidablePred Call.IsPlain
  | .make _ _ => isTrue trivial
  | .add _ l => inferInstanceAs (Decidable (Group.dot ∉ l.key))

/-- A tree, with the paths that were made in it and the leaves that were added to it, each with the place of its
group. -/
structure Growth where
  tree : Tree
  made : List Text
  added : List (Text × Leaf)

namespace Growth

/-- The empty tree. -/
def start : Growth := ⟨.empty, [], []⟩

/-- What a call leaves behind. There are no calls on a group that is not there; a call that fails has no effect. -/
def call (g : Growth) : Call → Growth
  | .make place path =>
    match g.tree.group? place, g.tree.makeWithin place path with
    | some _, .ok t => { g with tree := t, made := g.made ++ [join place path] }
    | _, _ => g
  | .add place l =>
    match g.tree.group? place, g.tree.addLeaf place l with
    | some _, .ok t => { g with tree := t, added := g.added ++ [(place, l)] }
    | _, _ => g

/-- The leaves that were added, at their addresses. -/
def placed (added : List (Text × Leaf)) : List (Address × Leaf) :=
  added.map fun (place, l) => (Address.ofPath (segments place) l.key, l)

/-- A path that leads along one of some paths, letter case and empty segments aside; nothing at all leads to the
root. -/
def Leads (made : List Text) (p : Text) : Prop :=
  ∃ q ∈ [] :: made, (segments p).map Text.fold <+: (segments q).map Text.fold

theorem leads_concat {made : List Text} {path p : Text} :
    Leads (made ++ [path]) p ↔ Leads made p ∨ (segments p).map Text.fold <+: (segments path).map Text.fold := by
  unfold Leads
  rw [← List.cons_append]
  simp only [List.mem_append, List.mem_singleton, or_and_right, exists_or, exists_eq_left]

/-- **`g.IsSound`**: the tree is sound, and its leaves and groups are those that were added and made. -/
structure IsSound (g : Growth) : Prop where
  root : g.tree.root.IsSound
  listed : (listed g.tree.root).Perm (placed g.added)
  nodup : g.tree.root.addresses.Nodup
  plain : ∀ p ∈ g.added, Group.dot ∉ p.2.key
  groups : ∀ p, (g.tree.group? p).isSome ↔ Leads g.made p

variable {g : Growth} {t : Tree} {place path : Text} {l : Leaf}

theorem isSound_start : start.IsSound where
  root := isSound_empty
  listed := .nil
  nodup := List.nodup_nil
  plain := fun _ h => nomatch h
  groups := by
    intro p
    have hroot : Leads [] p ↔ segments p = [] := by
      unfold Leads
      simp only [List.mem_singleton, exists_eq_left, show segments [] = [] from rfl, List.map_nil,
        List.prefix_nil, List.map_eq_nil_iff]
    rw [show start.made = [] from rfl, hroot]
    show (Group.find? (segments p) (Group.named [])).isSome ↔ _
    cases segments p with
    | nil => exact iff_of_true rfl rfl
    | cons s rest => exact iff_of_false (fun h => nomatch h) (fun h => nomatch h)

/-- Making groups keeps a growth sound. -/
theorem IsSound.make (h : g.IsSound) (hok : g.tree.makeWithin place path = .ok t) :
    IsSound { g with tree := t, made := g.made ++ [join place path] } := by
  -- The groups are made from the root, where it is known what a tree gains.
  rw [makeWithin_eq] at hok
  obtain ⟨t', ht', hgains⟩ := makeGroup_gains h.root (join place path)
  obtain rfl := Except.ok.inj (ht'.symm.trans hok)
  have hlisted := hgains.listed
  rw [List.append_nil] at hlisted
  have hnodup := (hlisted.map Prod.fst).nodup_iff.mpr h.nodup
  refine ⟨hgains.sound, hlisted.trans h.listed, hnodup, h.plain, fun p => ?_⟩
  rw [leads_concat, ← h.groups p]
  exact isSome_group?_makeGroup hok p

/-- Adding a leaf keeps a growth sound. -/
theorem IsSound.add (h : g.IsSound) (hplace : (g.tree.group? place).isSome) (hkey : Group.dot ∉ l.key)
    (hok : g.tree.addLeaf place l = .ok t) : IsSound { g with tree := t, added := g.added ++ [(place, l)] } := by
  have hfree := free_of_addLeaf h.root hok
  obtain ⟨t', ht', hgains⟩ := Tree.addLeaf_gains h.root place l hfree
  obtain rfl := Except.ok.inj (ht'.symm.trans hok)
  refine ⟨hgains.sound, ?_, ?_, ?_, fun p => (isSome_group?_addLeaf hplace hok p).trans (h.groups p)⟩
  · rw [placed, List.map_append]
    exact hgains.listed.trans (h.listed.append_right _)
  · have haddresses := hgains.listed.map Prod.fst
    rw [List.map_append, List.map_singleton] at haddresses
    refine haddresses.nodup_iff.mpr (List.nodup_append.mpr ⟨h.nodup, List.nodup_singleton _, fun a ha b hb => ?_⟩)
    obtain rfl := List.mem_singleton.mp hb
    rintro rfl
    exact hfree ha
  · intro p hp
    rcases List.mem_append.mp hp with hp | hp
    · exact h.plain p hp
    · obtain rfl := List.mem_singleton.mp hp
      exact hkey

/-- **Every call keeps a growth sound.** -/
theorem IsSound.call (h : g.IsSound) {c : Call} (hc : c.IsPlain) : (g.call c).IsSound := by
  cases c with
  | make place path =>
      rw [Growth.call]
      split
      · next hok => exact h.make hok
      · exact h
  | add place l =>
      rw [Growth.call]
      split
      · next hplace hok => exact h.add (Option.isSome_of_eq_some hplace) hc hok
      · exact h

end Growth

/-- The empty tree after some calls. -/
def grown (calls : List Call) : Growth := calls.foldl Growth.call .start

theorem grown_isSound {calls : List Call} (h : ∀ c ∈ calls, c.IsPlain) : (grown calls).IsSound := by
  -- From any sound growth on, so that the induction goes through the first call.
  have hrun : ∀ g : Growth, g.IsSound → (calls.foldl Growth.call g).IsSound := by
    induction calls with
    | nil => exact fun g hg => hg
    | cons c rest ih =>
        intro g hg
        rw [List.forall_mem_cons] at h
        exact ih h.2 (g.call c) (hg.call h.1)
  exact hrun .start Growth.isSound_start

/-! ## Apart and reachable -/

/-- The dotted key of an added leaf, folded. -/
def foldedKey (place : Text) (l : Leaf) : Text := (join (tidied place) l.key).fold

namespace Growth

/-- **`g.KeepsApart`**: the tree keeps the leaves that were added apart and reachable. -/
structure KeepsApart (g : Growth) : Prop where
  /-- Groups can be made within every group. -/
  makes : ∀ place path, ∃ t, g.tree.makeWithin place path = .ok t
  /-- A leaf is refused exactly if the group has one whose key is the same, letter case aside. -/
  refused : ∀ place c, g.tree.group? place = some c → ∀ l,
    (∃ e, g.tree.addLeaf place l = .error e) ↔ c.Takes l.key
  /-- What it says then, and that it changes nothing. -/
  unchanged : ∀ place c, g.tree.group? place = some c → ∀ l, c.Takes l.key →
    g.tree.addLeaf place l = .error (.content ("Duplicate key '" ++ l.key ++ "'")) ∧ g.call (.add place l) = g
  /-- The tour of the tree comes to its end with all leaves listed. -/
  toured : ∃ n, Tour.turn^[n] (Tour.start g.tree) = ⟨[], g.tree.flatten⟩
  /-- Every leaf that was added is listed once, under its dotted key, and there are no others. -/
  lists : (g.tree.flatten.map folded).Perm (g.added.map fun (place, l) => (foldedKey place l, l))
  /-- The dotted keys that are listed are distinct, letter case aside. -/
  distinct : (g.tree.flatten.map fun e => e.1.fold).Nodup
  /-- Every listed key leads to its leaf, in any letter case. -/
  found : ∀ e ∈ g.tree.flatten, ∀ k, k.fold = e.1.fold → g.tree.leaf? k = some e.2
  /-- The groups are those on the paths that were made, letter case and empty segments aside. -/
  groups : ∀ p, (g.tree.group? p).isSome ↔ Leads g.made p

variable {g : Growth}

theorem dotted_placed (place : Text) (l : Leaf) :
    (Address.ofPath (segments place) l.key).dotted = foldedKey place l := by
  rw [← Group.segments_tidied, Address.dotted_ofPath (Group.isPath_tidied place), foldedKey]

theorem IsSound.lists (h : g.IsSound) :
    (g.tree.flatten.map folded).Perm (g.added.map fun (place, l) => (foldedKey place l, l)) := by
  have hplaced := h.listed.map fun e => (e.1.dotted, e.2)
  rw [placed, List.map_map] at hplaced
  refine (flatten_perm h.root).trans (hplaced.trans (.of_eq ?_))
  refine List.map_congr_left fun p _ => ?_
  exact congrArg (·, p.2) (dotted_placed p.1 p.2)

/-- **Leaves with one dotted key are at one address.** -/
theorem address_of_foldedKey {place place' : Text} {l l' : Leaf} (hl : Group.dot ∉ l.key) (hl' : Group.dot ∉ l'.key)
    (h : foldedKey place l = foldedKey place' l') :
    Address.ofPath (segments place) l.key = Address.ofPath (segments place') l'.key := by
  obtain ⟨hplace, hkey⟩ := Prod.mk.inj (fold_join_inj hl hl' h)
  have hsegments := congrArg segments hplace
  rw [Group.segments_fold, Group.segments_fold, Group.segments_tidied, Group.segments_tidied] at hsegments
  rw [Address.ofPath, Address.ofPath, hsegments, hkey]

theorem IsSound.distinct (h : g.IsSound) : (g.tree.flatten.map fun e => e.1.fold).Nodup := by
  have hkeys := h.lists.map Prod.fst
  rw [List.map_map, List.map_map] at hkeys
  have haddresses : (g.added.map fun p => Address.ofPath (segments p.1) p.2.key).Nodup := by
    have hplaced := (h.listed.map Prod.fst).nodup_iff.mp h.nodup
    rw [placed, List.map_map] at hplaced
    exact hplaced
  -- The keys are those of the leaves that were added, and one key means one address.
  refine hkeys.nodup_iff.mpr (List.Nodup.map_on (fun p hp q hq heq => ?_) (haddresses.of_map _))
  exact List.inj_on_of_nodup_map haddresses hp hq (address_of_foldedKey (h.plain p hp) (h.plain q hq) heq)

theorem IsSound.found (h : g.IsSound) {e : Text × Leaf} (he : e ∈ g.tree.flatten) {k : Text}
    (hk : k.fold = e.1.fold) : g.tree.leaf? k = some e.2 := by
  obtain ⟨⟨place, l⟩, hadded, heq⟩ := List.mem_map.mp (h.lists.mem_iff.mp (List.mem_map_of_mem he))
  obtain ⟨hkey, rfl⟩ := Prod.mk.inj heq
  rw [leaf?_congr (hk.trans hkey.symm), leaf?_join h.root (tidied place) (h.plain _ hadded), Group.segments_tidied]
  exact h.listed.mem_iff.mpr (List.mem_map.mpr ⟨(place, _), hadded, rfl⟩)

end Growth

/-- **Trees keep their leaves apart and reachable**, whatever the calls are that have built them: a key that is
taken is refused, the tour of the tree comes to its end and lists every leaf that was added once, under keys that
differ in more than letter case and lead back to it, and the groups are those that were made. -/
theorem grown_keepsApart {calls : List Call} (h : ∀ c ∈ calls, c.IsPlain) : (grown calls).KeepsApart := by
  have hsound := grown_isSound h
  refine ⟨fun place path => ?_, fun place c hc l => ⟨?_, ?_⟩, fun place c hc l hl => ?_, Tour.run_tree _,
    hsound.lists, hsound.distinct, fun e he k hk => hsound.found he hk, hsound.groups⟩
  · obtain ⟨t, hok, -⟩ := makeGroup_gains hsound.root (join place path)
    exact ⟨t, (makeWithin_eq _ place path).trans hok⟩
  · rintro ⟨e, he⟩
    by_contra hl
    obtain ⟨t', hok⟩ := addLeaf_of_not_takes hsound.root hc hl
    rw [hok] at he
    cases he
  · exact fun hl => ⟨_, addLeaf_of_takes hsound.root hc hl⟩
  · have hrefused := addLeaf_of_takes hsound.root hc hl
    refine ⟨hrefused, ?_⟩
    rw [Growth.call, hc, hrefused]

/-- Two leaves for a group that is made in two steps, where the second one is refused, and one for the root. -/
def serverCalls : List Call :=
  [.make [] "logs", .make "LOGS" "server", .add "logs.Server" ⟨"started", "Started", none, false⟩,
    .add "logs..server" ⟨"STARTED", "again", none, false⟩, .add [] ⟨"title", "Title", none, false⟩]

theorem grown_keepsApart_server :
    (∀ c ∈ serverCalls, c.IsPlain) ∧ (grown serverCalls).KeepsApart
      ∧ (grown serverCalls).added.map Prod.fst = [("logs.Server" : Text), []] := by
  have hplain : ∀ c ∈ serverCalls, c.IsPlain := by decide +kernel
  exact ⟨hplain, grown_keepsApart hplain, by decide +kernel⟩

end Tree

end Phrasebook
