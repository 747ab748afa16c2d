/-!
# Scripts of answers

A scripted node answers a kind of request from a script: each request takes the front answer,
which is used up while more than one is left, so that the last answer repeats for ever
(`Script.next`). A node may also stop answering: from the `n`-th request of that kind on
(counting from zero, each request counted when it is made) the request never completes
(`hangsAt`).
-/

namespace ChainWatch

/-- Answers given in turn, the last one for ever. -/
abbrev Script (α : Type) := List α

namespace Script

/-- The next answer, if any, and the script left after it. -/
def next : Script α → Option α × Script α
  | [] => (none, [])
  | [a] => (some a, [a])
  | a :: rest => (some a, rest)

end Script

/-- Whether the request numbered `k` (from zero) hangs when requests hang from `limit` on. -/
def hangsAt (limit : Option Nat) (k : Nat) : Bool :=
  match limit with
  | some n => n ≤ k
  | none => false

end ChainWatch
