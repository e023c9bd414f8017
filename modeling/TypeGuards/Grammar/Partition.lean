/-!
Partitions of the numbers below a bound into groups, refined by splitting groups whose members
differ.
-/
namespace TypeGuards.Grammar

structure Partition where
  groups : Array (List Nat)
  groupOf : Array Nat
deriving Inhabited

/-- Splits a list by the marks of its members: a member leaves if it differs from one before it that
stays. Gives those that stay, and those that leave in the order of what they differ from. -/
def separate [BEq κ] (differ : κ → κ → Bool) (seen : List κ) :
    List (Nat × κ) → List Nat × List Nat
  | [] => ([], [])
  | (i, mark) :: rest =>
      if seen.contains mark then
        let (stay, leave) := separate differ seen rest
        (i :: stay, leave)
      else
        let split := rest.partition fun m => differ mark m.2
        let (stay, leave) := separate differ (mark :: seen) split.2
        (i :: stay, split.1.map (·.1) ++ leave)
termination_by members => members.length
decreasing_by
  · simp
  · rw [List.partition_eq_filter_filter]
    exact Nat.lt_succ_of_le (List.length_filter_le ..)

namespace Partition

/-- Splits one group; those that leave it form a new group, the last. -/
def splitGroup [BEq κ] (mark : Array Nat → Nat → κ) (differ : κ → κ → Bool) (p : Partition)
    (k : Nat) : Partition :=
  match p.groups.getD k [] with
  | [] => p
  | [_] => p
  | members =>
      match separate differ [] (members.map fun i => (i, mark p.groupOf i)) with
      | (_, []) => p
      | (stay, leave) =>
          let new := p.groups.size
          { groups := (p.groups.setIfInBounds k stay).push leave
            groupOf := leave.foldl (fun of i => of.setIfInBounds i new) p.groupOf }

/-- Splits the groups in turn from the `k`th on, the new ones too, at most `fuel` of them. -/
def splitFrom [BEq κ] (mark : Array Nat → Nat → κ) (differ : κ → κ → Bool) :
    Nat → Nat → Partition → Partition
  | 0, _, p => p
  | fuel + 1, k, p =>
      if k < p.groups.size then splitFrom mark differ fuel (k + 1) (p.splitGroup mark differ k)
      else p

/-- Splits each group once. There are no more groups than numbers. -/
def split [BEq κ] (mark : Array Nat → Nat → κ) (differ : κ → κ → Bool) (p : Partition) :
    Partition :=
  p.splitFrom mark differ p.groupOf.size 0

end Partition

end TypeGuards.Grammar
