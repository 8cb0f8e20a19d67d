import CompilerLink.Link.Basic

/-! # Threads and counters of a link

Threads attach with a block of counters and retire it when they detach. -/

namespace CompilerLink.Link

variable {η : Type}

/-- Attach a thread. -/
def attach (l : Link η) (caller : Caller) (name : String) (kind : ThreadKind) :
    Outcome (Link η) AttachedThread :=
  let (block, counters) := l.counters.attach (kind = .compiler)
  let thread := AttachedThread.create name kind block (UInt64.ofNat l.nextThread)
  let l := { l with counters, nextThread := l.nextThread + 1 }
  (l.report caller 3 ("attached " ++ kind.name ++ " thread " ++ name)).map fun _ => thread

/-- Detach a thread: its counts are retired. -/
def detach (l : Link η) (caller : Caller) (thread : AttachedThread) : Outcome (Link η) Unit :=
  let l := { l with counters := l.counters.freeOwn thread.block }
  l.report caller 3 ("detached thread " ++ thread.name)

/-- Change the length of all counters; false, with nothing changed, if there is no room. -/
def resizeCounters (l : Link η) (n : Nat) : Outcome (Link η) Bool :=
  let done := l.counters.resizeAll l.pause n
  ⟨done.value.isOk, { l with pause := done.state.1, counters := done.state.2 }, done.emitted⟩

/-- Forget the counts of all retired threads. -/
def freeGlobalCounters (l : Link η) : Link η := { l with counters := l.counters.freeGlobal }

end CompilerLink.Link
