import WafControl.Gateway.Applier
import WafControl.Polling.Poller

/-!
# Pipelines from the store

Two pipelines follow the policy store, each with a poller of its own. The gateway pipeline lists
the protections that are on and publishes the resources built from them to one proxy node; it
counts the listings published and the listings refused. The hosts pipeline lists all protections
and announces the set of hosts they lead to.

What a pipeline does with a changed listing is its `consume`; all other results of a poll leave it
as it is.
-/

namespace WafControl

/-- Publishes to one node what the store lists. -/
structure GatewayPipeline where
  applier : Applier
  cache : Cache := {}
  published : Nat := 0
  rejected : Nat := 0
  deriving DecidableEq, Repr

namespace GatewayPipeline

/-- Publishes the resources of a listing. `versions n` is the version drawn for the snapshot
published after `n` others. -/
def consume (versions : Nat → String) (g : GatewayPipeline) (ps : List Protection) :
    GatewayPipeline :=
  match g.applier.apply (versions g.published) ps g.cache with
  | (.ok _, applier, cache) => { g with applier, cache, published := g.published + 1 }
  | (.error _, applier, cache) => { g with applier, cache, rejected := g.rejected + 1 }

/-- Follows the result of a poll. -/
def follow (versions : Nat → String) (g : GatewayPipeline) : PollResult → GatewayPipeline
  | .changed ps => g.consume versions ps
  | .unchanged => g
  | .failed _ => g

end GatewayPipeline

/-- The hosts that protections lead to, as last announced. -/
abbrev HostSignal := Signal (List String)

namespace HostSignal

/-- Follows the result of a poll: a changed listing is announced, even if its hosts are the same
as before. -/
def follow (hosts : HostSignal) : PollResult → HostSignal
  | .changed ps => hosts.set (upstreamHosts ps)
  | .unchanged => hosts
  | .failed _ => hosts

end HostSignal

/-- A store followed in time: `now` is the time reached. The loop starts when time passes first, and
from then on it runs. -/
structure Followed where
  store : Store := {}
  now : Nat := 0
  loop : Option PollLoop := none
  deriving Repr

namespace Followed

/-- The loop that runs, or else one that starts now. -/
def loopFor (f : Followed) (filter : Filter) (interval : Nat) : Except TickerFault PollLoop :=
  match f.loop with
  | some l => .ok l
  | none => PollLoop.start filter f.now interval

/-- Lets `ms` milliseconds pass; what is due at their end is left. Gives the results of the polls
with their times. Where the loop cannot be started, nothing is followed any more. -/
def advance (f : Followed) (filter : Filter) (interval ms : Nat) :
    Except TickerFault (List (Nat × PollResult) × Followed) :=
  (f.loopFor filter interval).map fun l =>
    let till := f.now + ms
    let (results, l, store) := l.run f.store f.now till
    (results, { store, now := till, loop := some l })

variable {f : Followed} {filter : Filter} {interval : Nat} {l : PollLoop}

theorem loopFor_of_loop (h : f.loop = some l) : f.loopFor filter interval = .ok l := by
  rw [loopFor, h]

theorem loopFor_of_pos (hnone : f.loop = none) (h : 0 < interval) :
    f.loopFor filter interval =
      .ok { poller := { filter }, ticker := ⟨interval, f.now, h⟩ } := by
  rw [loopFor, hnone]
  exact PollLoop.start_of_pos filter f.now h

theorem loopFor_zero (hnone : f.loop = none) : f.loopFor filter 0 = .error .zeroPeriod := by
  rw [loopFor, hnone]
  exact PollLoop.start_zero filter f.now

theorem advance_of_loopFor (h : f.loopFor filter interval = .ok l) (ms : Nat) :
    f.advance filter interval ms =
      let ran := l.run f.store f.now (f.now + ms)
      .ok (ran.1, { store := ran.2.2, now := f.now + ms, loop := some ran.2.1 }) := by
  rw [advance, h]
  rfl

end Followed

end WafControl
