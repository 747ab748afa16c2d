import ChainWatch.Regex.Plan
import ChainWatch.Regex.Report

/-!
# Matching

A plan is built into a Thompson automaton (`Nfa`): states that test a character, test the place
between two characters, or branch without reading. `Nfa.matchesIn` says whether the automaton
matches somewhere in a text, by running every start at once: at each place the set of live
states is closed under the moves that read nothing (the tests of places are decided there,
knowing the characters on either side), and then advanced over the next character. The closure
visits each state at most once per place, so a text is read in time linear in its length.

`Matcher.compile` reads, plans and builds a pattern, or gives the report of why it is
refused; `Matcher.isMatch` searches a text.
-/

namespace ChainWatch

namespace Regex

/-- A state of the automaton. -/
inductive NfaState where
  /-- Reads a character of the class, then goes on. -/
  | test (c : CharClass) (next : Nat)
  /-- Holds at the place if the test does, then goes on. -/
  | look (l : Look) (next : Nat)
  /-- Goes on both ways. -/
  | split (a b : Nat)
  /-- A match. -/
  | accept

/-- An automaton: its states and where it starts. -/
structure Nfa where
  states : Array NfaState
  start : Nat

/-- Adds a state; gives its number. -/
def addState (s : NfaState) : StateM (Array NfaState) Nat := do
  let states ← get
  set (states.push s)
  return states.size

/-- Replaces a state. -/
def setState (i : Nat) (s : NfaState) : StateM (Array NfaState) Unit :=
  modify fun states => states.set! i s

/-- Builds `count` copies of something before `cont`, each built by `f` from where it goes on. -/
def chainCopies (f : Nat → StateM (Array NfaState) Nat) : Nat → Nat → StateM (Array NfaState) Nat
  | 0, cont => pure cont
  | k + 1, cont => do
    let inner ← chainCopies f k cont
    f inner

/-- Builds `count` optional copies of something before `cont`, each of which may instead go on
to `exit`. -/
def chainOptional (f : Nat → StateM (Array NfaState) Nat) (exit : Nat) :
    Nat → Nat → StateM (Array NfaState) Nat
  | 0, cont => pure cont
  | k + 1, cont => do
    let inner ← chainOptional f exit k cont
    let entry ← f inner
    addState (.split entry exit)

mutual

/-- Builds the states of a plan that go on to state `next`; gives where they start. -/
def build (next : Nat) : Plan → StateM (Array NfaState) Nat
  | .empty => pure next
  | .cls c => addState (.test c next)
  | .look l => addState (.look l next)
  | .concat items => buildConcat next items
  | .alt items => buildAlt next items
  | .rep min max body => do
    -- The optional copies, or a loop when there is no bound, then the required copies.
    let tail ← match max with
      | none => do
        let loop ← addState .accept
        let entry ← build loop body
        setState loop (.split entry next)
        pure loop
      | some m => chainOptional (fun n => build n body) next (m - min) next
    chainCopies (fun n => build n body) min tail

/-- Builds a concatenation: its rest first, then its first item going on to the rest. -/
def buildConcat (next : Nat) : List Plan → StateM (Array NfaState) Nat
  | [] => pure next
  | h :: rest => do
    let after ← buildConcat next rest
    build after h

/-- Builds the branches of an alternation. -/
def buildAlt (next : Nat) : List Plan → StateM (Array NfaState) Nat
  | [] => pure next
  | h :: rest =>
    match rest with
    | [] => build next h
    | _ => do
      let a ← build next h
      let b ← buildAlt next rest
      addState (.split a b)

end

/-- The automaton of a plan. -/
def Nfa.ofPlan (h : Plan) : Nfa :=
  let (start, states) := (do
    let accept ← addState .accept
    build accept h).run #[]
  { states, start }

/-- How many states a plan builds into, to refuse plans that grow too large. -/
def Plan.size : Plan → Nat
  | .empty => 0
  | .cls _ | .look _ => 1
  | .concat items => sizeList items
  | .alt items => sizeList items + items.length
  | .rep min max body =>
    let n := body.size
    match max with
    | none => (min + 1) * n + 1
    | some m => m * n + (m - min)
where
  /-- The sizes of a list of plans, added. -/
  sizeList : List Plan → Nat
    | [] => 0
    | h :: rest => h.size + sizeList rest

/-- Whether a test of a place holds between `prev` and `next`, the characters on either side. -/
def Look.holds (l : Look) (prev next : Option Nat) : Bool :=
  let isWord (unicode : Bool) (c : Option Nat) : Bool :=
    match c with
    | some c => if unicode then isWordChar c else isAsciiWordChar c
    | none => false
  match l with
  | .start => prev.isNone
  | .finish => next.isNone
  | .startLF => prev.isNone || prev = some 0x0A
  | .endLF => next.isNone || next = some 0x0A
  | .startCRLF => prev.isNone || prev = some 0x0A || (prev = some 0x0D && next != some 0x0A)
  | .endCRLF => next.isNone || next = some 0x0D || (next = some 0x0A && prev != some 0x0D)
  | .word u => isWord u prev != isWord u next
  | .notWord u => isWord u prev == isWord u next
  | .wordStart u => !isWord u prev && isWord u next
  | .wordEnd u => isWord u prev && !isWord u next
  | .wordStartHalf u => !isWord u prev
  | .wordEndHalf u => !isWord u next

/-- The states reached from `pending` by moves that read nothing, at a place between `prev` and
`next`: those already `seen` are not visited again; gives the states that read a character or
accept, and the marks of the states seen. -/
def Nfa.closeFrom (nfa : Nfa) (prev next : Option Nat) : Nat → List Nat → Array Bool → List Nat →
    List Nat × Array Bool
  | 0, _, seen, found => (found, seen)
  | _ + 1, [], seen, found => (found, seen)
  | fuel + 1, s :: pending, seen, found =>
    if seen.getD s true then nfa.closeFrom prev next fuel pending seen found
    else
      let seen := seen.set! s true
      match nfa.states[s]? with
      | some (.test _ _) | some .accept => nfa.closeFrom prev next fuel pending seen (s :: found)
      | some (.look l n) =>
        if l.holds prev next then nfa.closeFrom prev next fuel (n :: pending) seen found
        else nfa.closeFrom prev next fuel pending seen found
      | some (.split a b) => nfa.closeFrom prev next fuel (a :: b :: pending) seen found
      | none => nfa.closeFrom prev next fuel pending seen found

/-- The closure of some states at a place between `prev` and `next`. -/
def Nfa.close (nfa : Nfa) (prev next : Option Nat) (states : List Nat) : List Nat :=
  (nfa.closeFrom prev next (3 * nfa.states.size + states.length + 2) states
    (Array.replicate nfa.states.size false) []).1

/-- The states after reading a character from some states. -/
def Nfa.advance (nfa : Nfa) (c : Nat) (states : List Nat) : List Nat :=
  states.filterMap fun s =>
    match nfa.states[s]? with
    | some (NfaState.test cls n) => if cls.contains c then some n else none
    | _ => none

/-- Whether a state list holds an accepting state. -/
def Nfa.accepts (nfa : Nfa) (states : List Nat) : Bool :=
  states.any fun s => match nfa.states[s]? with
    | some NfaState.accept => true
    | _ => false

/-- Whether the automaton matches somewhere in the rest of a text, with `live` the states
carried to this place and `prev` the character before it. -/
def Nfa.searchFrom (nfa : Nfa) (prev : Option Nat) (live : List Nat) : List Nat → Bool
  | [] => nfa.accepts (nfa.close prev none (nfa.start :: live))
  | c :: rest =>
    let here := nfa.close prev (some c) (nfa.start :: live)
    nfa.accepts here || nfa.searchFrom (some c) (nfa.advance c here) rest

/-- Whether the automaton matches somewhere in a text. -/
def Nfa.matchesIn (nfa : Nfa) (text : String) : Bool :=
  nfa.searchFrom none [] (text.toList.map Char.toNat)

/-- A compiled pattern. -/
structure Matcher where
  nfa : Nfa

/-- The most states a pattern may build into; a larger one is refused as too big, the way a
compiled pattern over ten mebibytes is. -/
def stateLimit : Nat := 400000

/-- The size limit of compiled patterns, in bytes, as a refusal names it. -/
def sizeLimitBytes : Nat := 10485760

/-- Compiles a pattern, or gives the text of why it is refused. -/
def Matcher.compile (pattern : String) : Except String Matcher :=
  match parsePattern pattern with
  | .error e => .error (e.report pattern)
  | .ok ast =>
    match planOf {} ast with
    | .error e => .error (e.report pattern)
    | .ok (h, _) =>
      if h.size > stateLimit then
        .error ("Compiled regex exceeds size limit of " ++ Nat.repr sizeLimitBytes ++ " bytes.")
      else .ok ⟨Nfa.ofPlan h⟩

/-- Whether a compiled pattern matches somewhere in a text. -/
def Matcher.isMatch (m : Matcher) (text : String) : Bool := m.nfa.matchesIn text

end Regex

end ChainWatch
