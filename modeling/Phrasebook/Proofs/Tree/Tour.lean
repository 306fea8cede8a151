import Mathlib.Logic.Function.Iterate
import Phrasebook.Proofs.Tree

/-!
# The tour of a tree

The leaves of a tree come from a tour with a list of groups that wait for their turn: the first one is taken off the
list, its leaves are listed, and the groups within it wait at the end. Groups that wait together take their turns
together (`run_turns`), so the tour goes level by level, comes to an end, and lists what `Tree.flatten` gives
(`run_tree`).
-/

namespace Phrasebook

/-- A tour of groups, each with its dotted name: those that wait, and the leaves that are listed so far. -/
structure Tour where
  waiting : List (Text × Group)
  listed : List (Text × Leaf)

namespace Tour

/-- The leaves of a group with their dotted keys. -/
def leavesOf (p : Text × Group) : List (Text × Leaf) := p.2.leaves.map fun (_, l) => (Tree.join p.1 l.key, l)

/-- The groups within a group with their dotted names. -/
def groupsIn (p : Text × Group) : List (Text × Group) := p.2.children.map fun (_, c) => (Tree.join p.1 c.name, c)

/-- The tour of a tree before the first turn. -/
def start (t : Tree) : Tour := ⟨[([], t.root)], []⟩

/-- One turn of a tour; when no group waits, the tour is over. -/
def turn (tour : Tour) : Tour :=
  match tour.waiting with
  | [] => tour
  | p :: rest => ⟨rest ++ groupsIn p, tour.listed ++ leavesOf p⟩

/-- The turns of groups that wait together, before others. -/
theorem run_turns (groups rest : List (Text × Group)) (done : List (Text × Leaf)) :
    turn^[groups.length] ⟨groups ++ rest, done⟩
      = ⟨rest ++ groups.flatMap groupsIn, done ++ groups.flatMap leavesOf⟩ := by
  induction groups generalizing rest done with
  | nil =>
      rw [List.flatMap_nil, List.flatMap_nil, List.append_nil, List.append_nil]
      rfl
  | cons p groups ih =>
      have hturn : turn ⟨p :: groups ++ rest, done⟩ = ⟨groups ++ (rest ++ groupsIn p), done ++ leavesOf p⟩ := by
        rw [← List.append_assoc]
        rfl
      rw [List.length_cons, Function.iterate_succ_apply, hturn, ih, List.flatMap_cons, List.flatMap_cons,
        List.append_assoc, List.append_assoc]

/-- **A tour comes to its end**, and by then it has listed the leaves level by level. -/
theorem run_levels {groups : List (Text × Group)} {levels : Nat} (h : Tree.heightOfAll groups ≤ levels)
    (done : List (Text × Leaf)) : ∃ n, turn^[n] ⟨groups, done⟩ = ⟨[], done ++ Tree.leavesByLevel levels groups⟩ := by
  -- On the levels that are left: the groups that wait have their turns, then those a level down wait.
  induction levels generalizing groups done with
  | zero =>
      cases groups with
      | nil => exact ⟨0, congrArg (Tour.mk []) (List.append_nil done).symm⟩
      | cons p rest =>
          have hheight := Tree.heightOfAll_le_iff.mp h p List.mem_cons_self
          exact absurd hheight (Nat.not_le.mpr (Tree.height_pos p.2))
  | succ levels ih =>
      have hbelow : Tree.heightOfAll (groups.flatMap groupsIn) ≤ levels := Tree.heightOfAll_below_le h
      obtain ⟨n, hn⟩ := ih hbelow (done ++ groups.flatMap leavesOf)
      refine ⟨n + groups.length, ?_⟩
      have hturns := run_turns groups [] done
      rw [List.append_nil, List.nil_append] at hturns
      rw [Function.iterate_add_apply, hturns, hn, List.append_assoc]
      rfl

/-- **The tour of a tree** lists the leaves of the tree and is over. -/
theorem run_tree (t : Tree) : ∃ n, turn^[n] (start t) = ⟨[], t.flatten⟩ := by
  have hheight : Tree.heightOfAll [(([] : Text), t.root)] ≤ Tree.height t.root :=
    Tree.heightOfAll_le_iff.mpr fun p hp => by
      obtain rfl := List.mem_singleton.mp hp
      exact Nat.le_refl _
  exact run_levels hheight []

end Tour

end Phrasebook
