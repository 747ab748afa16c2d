import ChainWatch.Sim.Fiber

/-!
# Jobs run through a window

`Fiber.window width jobs` runs jobs that may fail, at most `width` at a time, and collects their
values in the order of the list. The first failure in that order ends the whole run, and the
jobs still in the window are dropped.

A job is let into the window as soon as there is room: a job takes room from when it is let in
until its value is taken, and values are taken in the order of the list, so a value that comes
early keeps its room until every earlier value has been taken. A job that is let in does not run
at once: it is put at the back of the queue of jobs *due* to run, and so is a blocked job whose
wait is over. The window runs the due jobs one by one, each up to its next block or its end,
and stops as soon as one ends:

* when the job that ended is the next in order, its value is taken (or its failure ends the
  run), room frees up, and later jobs are let in before anything else runs;
* otherwise its value is held until its turn.

So when the jobs never block, each job runs only once every earlier value has been taken, and
the first failure leaves the later jobs unstarted. When the due jobs have all run and blocked,
the window pauses once to let the fibers beside it go on, and when no job is due it blocks
until the wait of one of them is over.

`Fiber.advance` runs one fiber up to its next block, and `Fiber.waitOfAll` joins the waits of
blocked fibers.
-/

namespace ChainWatch

namespace Fiber

/-- Runs a fiber until it blocks or ends, and gives back what it has become. -/
def advance : Fiber σ α → Fiber σ (Fiber σ α)
  | done a => done (done a)
  | read k => read fun w => advance (k w)
  | update f n => update f (advance n)
  | block wt n => done (block wt n)

/-- Lets a fiber go on: a blocked one only once its wait is over. -/
def resume : Fiber σ α → Fiber σ (Fiber σ α)
  | block wt n => read fun w => if wt.ready w then advance n else done (block wt n)
  | p => advance p

/-- Whether a fiber can go on in world `w`: it has not started, or its wait is over. -/
def canGoOn (w : σ) : Fiber σ α → Bool
  | done _ => false
  | block wt _ => wt.ready w
  | _ => true

/-- The waits of the blocked fibers of a list, as one. -/
def waitOfAll : List (Fiber σ α) → Wait σ
  | [] => Wait.never
  | block wt _ :: ps => wt.either (waitOfAll ps)
  | _ :: ps => waitOfAll ps

/-- What dropping every fiber of a list gives back. -/
def droppedAll : List (Fiber σ α) → σ → σ
  | [] => id
  | p :: ps => fun w => droppedAll ps (p.dropped w)

/-- A wait that is over at once: the fiber only lets the fibers beside it go on first. -/
def pause (release : σ → σ) : Wait σ := { ready := fun _ => true, timer := none, release }

end Fiber

/-- A window of numbered jobs. -/
structure Window (σ ε α : Type) where
  /-- Jobs not let in yet. -/
  waiting : List (Nat × Fiber σ (Except ε α))
  /-- Jobs let in that have not ended, in the order they came in. -/
  running : List (Nat × Fiber σ (Except ε α))
  /-- The numbers of the running jobs due to run, first to run first. -/
  due : List Nat
  /-- Values of jobs that ended before their turn. -/
  held : List (Nat × Except ε α)
  /-- The number of the job whose value is taken next. -/
  next : Nat
  /-- The values taken, latest first. -/
  taken : List α
  /-- How many due jobs ran and blocked since the window last took a value or paused. -/
  polled : Nat

namespace Window

variable {σ ε α : Type}

/-- The running jobs as fibers. -/
def fibers (st : Window σ ε α) : List (Fiber σ (Except ε α)) := st.running.map (·.2)

/-- Takes the value of the next job: a failure ends the run, dropping the jobs in the window. -/
def take (st : Window σ ε α) : Except ε α → Fiber σ (Window σ ε α ⊕ Except ε (List α))
  | .error e => .update (Fiber.droppedAll st.fibers) (.done (.inr (.error e)))
  | .ok a => .done (.inl { st with next := st.next + 1, taken := a :: st.taken, polled := 0 })

/-- What the window does once job `i`, which was due, has run and become `p`. -/
def afterRun (st : Window σ ε α) (i : Nat) (rest : List Nat) (p : Fiber σ (Except ε α)) :
    Fiber σ (Window σ ε α ⊕ Except ε (List α)) :=
  match p with
  | .done r =>
    let st := { st with running := st.running.filter (·.1 != i), due := rest, polled := 0 }
    if i = st.next then take st r else .done (.inl { st with held := (i, r) :: st.held })
  | p =>
    let st := { st with running := st.running.map (fun jq => if jq.1 = i then (jq.1, p) else jq),
                        due := rest, polled := st.polled + 1 }
    if st.polled = st.running.length then
      .block (Fiber.pause (Fiber.droppedAll st.fibers)) (.done (.inl { st with polled := 0 }))
    else .done (.inl st)

/-- One round: let a job in if there is room, else take a held value whose turn it is, else run
the first due job, else block until a running job can go on. -/
def round (width : Nat) (st : Window σ ε α) : Fiber σ (Window σ ε α ⊕ Except ε (List α)) :=
  match st.waiting with
  | j :: js =>
    if st.running.length + st.held.length < width then
      .done (.inl { st with waiting := js, running := st.running ++ [j], due := st.due ++ [j.1] })
    else afterRoom
  | [] => afterRoom
where
  /-- The round once no job can be let in. -/
  afterRoom : Fiber σ (Window σ ε α ⊕ Except ε (List α)) :=
    match st.held.find? (·.1 = st.next) with
    | some (_, r) => take { st with held := st.held.filter (·.1 != st.next) } r
    | none =>
      match st.due with
      | i :: rest =>
        match st.running.find? (·.1 = i) with
        | some (_, p) => Fiber.bind (Fiber.resume p) (afterRun st i rest)
        | none => .done (.inl { st with due := rest })
      | [] =>
        if st.running.isEmpty then .done (.inr (.ok st.taken.reverse))
        else .block (Fiber.waitOfAll st.fibers) (.read fun w =>
          .done (.inl { st with due := (st.running.filter (fun (_, p) => p.canGoOn w)).map (·.1),
                                polled := 0 }))

end Window

/-- Runs jobs at most `width` at a time, letting them in in order, and collects their values in
order; the first failure in that order ends the run. The loop has two rounds for each job, one to
let it in and one to run it, which is all that jobs that never block need, and as many rounds
besides as a loop of a run may take. -/
def Fiber.window [Inhabited ε] (width : Nat) (jobs : List (Fiber σ (Except ε α))) :
    Fiber σ (Except ε (List α)) :=
  Fiber.loop (2 * jobs.length + Fiber.rounds) (Window.round width)
    { waiting := jobs.zipIdx.map (fun (p, i) => (i, p)), running := [], due := [], held := [],
      next := 0, taken := [], polled := 0 }

end ChainWatch
