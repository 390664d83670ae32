import RestSuite.Pattern.Basic

/-!
# Where a pattern can end

Whether a text matches is decided by sets of places. From the places where a pattern may start in
the text follow the places where it may end, one construct after the other. Which of several ways
is preferred plays no part.
-/

namespace RestSuite

/-- An anchor holds at a place of a text: before the character with that index. -/
def Anchor.holds (a : Anchor) (text : Array Char) (i : Nat) : Bool :=
  let before : Option Char := if i = 0 then none else text[i - 1]?
  let behind : Option Char := text[i]?
  let word (s : Unicode.CharSet) (c : Option Char) : Bool := c.any s.contains
  match a with
  | .textStart => i == 0
  | .textEnd => i == text.size
  | .lineStart false => i == 0 || before == some '\n'
  | .lineStart true =>
    i == 0 || before == some '\n' || (before == some '\r' && behind != some '\n')
  | .lineEnd false => i == text.size || behind == some '\n'
  | .lineEnd true =>
    i == text.size || behind == some '\r' || (behind == some '\n' && before != some '\r')
  | .wordEdge s => word s before != word s behind
  | .noWordEdge s => word s before == word s behind
  | .wordStart s => !word s before && word s behind
  | .wordEnd s => word s before && !word s behind
  | .noWordBefore s => !word s before
  | .noWordBehind s => !word s behind

namespace Pattern

/-- A set of places of a text, in ascending order. -/
abbrev Places := List Nat

namespace Places

/-- The places of either set. -/
def union : Places → Places → Places
  | [], t => t
  | s, [] => s
  | a :: s, b :: t =>
    if a < b then a :: union s (b :: t)
    else if b < a then b :: union (a :: s) t
    else a :: union s t

/-- The places of one set that are not in another. -/
def without : Places → Places → Places
  | [], _ => []
  | s, [] => s
  | a :: s, b :: t =>
    if a < b then a :: without s (b :: t)
    else if b < a then without (a :: s) t
    else without s t

/-- The places after a number of steps. -/
def after (step : Places → Places) : Nat → Places → Places
  | 0, s => s
  | n + 1, s => if s.isEmpty then [] else after step n (step s)

/-- The places after up to a number of steps. `fresh` are those that the last step reached. -/
def within (step : Places → Places) : Nat → Places → Places → Places
  | 0, seen, _ => seen
  | n + 1, seen, fresh =>
    let next := without (step fresh) seen
    if next.isEmpty then seen else within step n (union seen next) next

end Places

/-- The places where a pattern may end if it starts at one of some places. -/
def reach (text : Array Char) : Pattern → Places → Places
  | .empty, s => s
  | .chars set, s => s.filterMap fun i => if text[i]?.any set.contains then some (i + 1) else none
  | .look a, s => s.filter fun i => a.holds text i
  | .seq p q, s => reach text q (reach text p s)
  | .alt p q, s => (reach text p s).union (reach text q s)
  | .repeated p least most _, s =>
    -- A round more than there are characters reaches no other places than any round after it.
    let start := Places.after (reach text p) (min least (text.size + 1)) s
    -- Every round that reaches anything reaches a new place, so rounds end with the text.
    let rounds := min ((most.map (· - least)).getD (text.size + 1)) (text.size + 1)
    Places.within (reach text p) rounds start start
  | .group _ p, s => reach text p s

/-- Some part of the text is as the pattern says. -/
def isMatch (p : Pattern) (text : String) : Bool :=
  let cs := text.toList.toArray
  !(p.reach cs (List.range (cs.size + 1))).isEmpty

end Pattern

end RestSuite
