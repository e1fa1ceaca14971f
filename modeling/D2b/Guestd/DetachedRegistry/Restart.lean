import D2b.Guestd.DetachedRegistry.Runs

/-!
# D2b.Guestd.DetachedRegistry.Restart

Terminal records across restarts.  Startup derives the state of a record from
the runner's status file and the liveness of the units, and only its identity
and its terminal time from the record file; so a terminal record survives if
both files are read back, and a lost one, which has no terminal status, does not.
-/

namespace D2b.Guestd.RegistrySystem

variable {reg : DetachedRegistry}

def sampleExecId : String := "aaaaaaaaaaaaaaaaaaaaaaaaaaaaaaaa"

/-- The exec ends with code 3, and guestd restarts. -/
def endedAndRestarted : List RegistryAction :=
  emptyStartup ++ createUntil 1 sampleExecId (.exited 3) ++ createEnded 1 ++
    [.crash, .step 0 (.slots (.ok [0])), .step 0 (.units (.ok [])), .step 0 (.check (.ok ())),
      .step 0 (.read none), .step 0 (.read none), .step 0 (.time 7), .step 0 (.write .ok)]

/-- The exec runs, its unit vanishes and the reaper marks it lost; guestd restarts
and cannot list the units. -/
def lostAndRestarted : List RegistryAction :=
  emptyStartup ++ createUntil 1 sampleExecId .started ++
    [.step 1 .go, .step 1 (.write .ok)] ++
    [.spawn .reap, .step 2 (.units (.ok [])), .step 2 .go, .step 2 .go, .step 2 .go, .step 2 .go,
      .step 2 (.read none), .step 2 .go, .step 2 (.write .ok), .step 2 (.units (.ok [])),
      .step 2 (.time 0), .step 2 .go, .step 2 (.time 0), .step 2 .go, .step 2 (.check (.ok ())),
      .step 2 (.write .ok)] ++
    [.crash, .step 0 (.slots (.ok [0])), .step 0 (.units (.error .internal)),
      .step 0 (.check (.ok ())), .step 0 (.read none), .step 0 (.read none), .step 0 (.time 7),
      .step 0 (.write .ok)]

end D2b.Guestd.RegistrySystem
