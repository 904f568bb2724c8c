import Dagger.Lib.BoundedWait
import Dagger.Nic.ReceiveRings
import Dagger.Nic.WireFormats
import Mathlib.Tactic.SplitIfs

/-!
# The life of a polling NIC

A `NicPollingCCIP` object is connected, configured, initialized, started and
stopped, and in the end destroyed.  Any access to the NIC may fail, which makes
the call return early.  A failed assertion ends the process and with it the
life of the object.

The destructor of the derived class runs before that of the base class.  The
former gives the buffer back, the latter stops the NIC.  A NIC that has been
told to start and not to stop may therefore still use the buffer when it is
given back.
-/

namespace Dagger.Nic.Lifetime

open Dagger.Lib
open Dagger.Nic.PollingDriver
open Dagger.Nic.ReceiveRings (sampleAccess sampleConfig sampleHost)
open Dagger.Nic.SharedBuffer
open Dagger.Nic.WireFormats (NicHwStatus NicStatus)

/-! ## Accesses -/

/-- `NIC_INIT_TIMEOUT`. -/
def nicInitTimeout : ℕ := 15

/-- The accesses of `start_nic` and `stop_nic`. -/
structure RunAccess where
  /-- The status before the start bit is written. -/
  status : Option NicHwStatus
  /-- Whether the start bit can be written. -/
  writeNicStart : Bool
  /-- The statuses after that. -/
  poll : ℕ → Option NicHwStatus

/-- The start bit is written unless an access before it fails. -/
def RunAccess.reaches (access : RunAccess) : Bool :=
  access.status.isSome && access.writeNicStart

/-- The accesses of `initialize_nic`. -/
structure InitAccess where
  status : Option NicHwStatus
  /-- `phy_network_mode` of the mode register. -/
  phyNetworkMode : Option Bool
  /-- Whether the physical network can be initialized. -/
  initializePhyNetwork : Bool
  writePhyNetAddr : Bool
  writeIPv4NetAddr : Bool
  writeNicInit : Bool
  poll : ℕ → Option NicHwStatus

/-! ## The object -/

/-- The object and the start bit of its NIC. -/
structure Life where
  nic : NicPollingCCIP
  connected : Bool
  initialized : Bool
  started : Bool
  /-- The last value that was written to `iRegNicStart`. -/
  startBit : Bool
deriving DecidableEq

/-- A new object. -/
def construct (numOfFlows : ℕ) : Life where
  nic :=
    { numOfFlows := numOfFlows
      bufPa := 0
      buf := 0
      txOffsetBytes := 0
      rxOffsetBytes := 0
      txBuffSizeBytes := 0
      rxBuffSizeBytes := 0
      txQueueSizeBytes := 0
      rxQueueSizeBytes := 0
      dpConfigured := false }
  connected := false
  initialized := false
  started := false
  startBit := false

/-- The return code of a call and the object after it; no value if it aborts. -/
abbrev Returns : Type := Option (ℕ × Life)

namespace Life

/-- `connect_to_nic`. -/
def connectToNic (life : Life) (accelFound : Bool) : Returns :=
  if life.connected then none
  else if accelFound then some (0, { life with connected := true })
  else some (1, life)

/-- `configure_data_plane`. -/
def configureDataPlane
    (life : Life)
    (config : NicConfig)
    (host : Host)
    (access : MmioAccess)
    (llcAntiAliasing : ℕ) :
    Returns :=
  if life.connected && !life.nic.dpConfigured then
    let outcome :=
      life.nic.configureDataPlane config host access llcAntiAliasing
    some (outcome.result, { life with nic := outcome.nic })
  else
    none

/-- The end of `initialize_nic`, when the NIC is to be ready. -/
def awaitReady (life : Life) (access : InitAccess) : Returns :=
  match
    BoundedWait.doWhile access.poll (fun status => status.ready)
      (nicInitTimeout - 1) 0
  with
  | none => some (1, life)
  | some status =>
      if status.ready then
        if !status.running && !status.error then
          some (0, { life with initialized := true })
        else
          none
      else
        some (1, life)

/-- `initialize_nic`; `phyNetwork` is whether `NIC_PHY_NETWORK` is defined. -/
def initializeNic
    (life : Life)
    (phyNetwork : Bool)
    (access : InitAccess) :
    Returns :=
  if life.connected && life.nic.dpConfigured then
    match access.status with
    | none => some (1, life)
    | some status =>
        if !status.ready && !status.running && !status.error then
          match access.phyNetworkMode with
          | none => some (1, life)
          | some mode =>
              if mode == phyNetwork &&
                  (!phyNetwork || access.initializePhyNetwork) &&
                  access.writePhyNetAddr &&
                  access.writeIPv4NetAddr &&
                  access.writeNicInit then
                life.awaitReady access
              else
                some (1, life)
        else
          none
  else
    none

/-- The end of `start_nic`, when the NIC is to be running. -/
def awaitRunning (life : Life) (access : RunAccess) : Returns :=
  match
    BoundedWait.doWhile access.poll (fun status => status.running)
      (nicInitTimeout - 1) 0
  with
  | none => some (1, life)
  | some status =>
      if status.running then
        if status.ready && !status.error then
          some (0, { life with started := true })
        else
          none
      else
        some (1, life)

/-- `start_nic`. -/
def startNic (life : Life) (access : RunAccess) : Returns :=
  if life.connected && life.initialized && life.nic.dpConfigured &&
      !life.started then
    match access.status with
    | none => some (1, life)
    | some status =>
        if status.ready && !status.running && !status.error then
          if access.writeNicStart then
            awaitRunning { life with startBit := true } access
          else
            some (1, life)
        else
          none
  else
    none

/-- The end of `stop_nic`, when the NIC is to have stopped. -/
def awaitStopped (life : Life) (access : RunAccess) : Returns :=
  match
    BoundedWait.doWhile access.poll (fun status => !status.running)
      (nicInitTimeout - 1) 0
  with
  | none => some (1, life)
  | some status =>
      if status.running then
        some (1, life)
      else if status.ready then
        some (0, { life with started := false })
      else
        none

/-- `stop_nic`. -/
def stopNic (life : Life) (access : RunAccess) : Returns :=
  if life.started then
    match access.status with
    | none => some (1, life)
    | some status =>
        if status.ready && status.running then
          if access.writeNicStart then
            awaitStopped { life with startBit := false } access
          else
            some (1, life)
        else
          none
  else
    none

/-- `start`. -/
def start (life : Life) (access : RunAccess) : Returns :=
  if life.nic.dpConfigured && life.initialized then life.startNic access
  else none

/-- `stop`. -/
def stop (life : Life) (access : RunAccess) : Returns :=
  if life.nic.dpConfigured && life.initialized then life.stopNic access
  else none

end Life

/-! ## Lives -/

/-- A call of the object, with what becomes of its accesses. -/
inductive LifeCall where
  | connectToNic (accelFound : Bool)
  | configureDataPlane
      (config : NicConfig)
      (host : Host)
      (access : MmioAccess)
      (llcAntiAliasing : ℕ)
  | initializeNic (phyNetwork : Bool) (access : InitAccess)
  | start (access : RunAccess)
  | stop (access : RunAccess)

namespace LifeCall

/-- Perform a call. -/
def perform (life : Life) : LifeCall → Returns
  | .connectToNic accelFound => life.connectToNic accelFound
  | .configureDataPlane config host access llcAntiAliasing =>
      life.configureDataPlane config host access llcAntiAliasing
  | .initializeNic phyNetwork access =>
      life.initializeNic phyNetwork access
  | .start access => life.start access
  | .stop access => life.stop access

/-- The value that the accesses of a call let reach `iRegNicStart`. -/
def startBitWritten : LifeCall → Option Bool
  | .connectToNic _ => none
  | .configureDataPlane _ _ _ _ => none
  | .initializeNic _ _ => none
  | .start access => if access.reaches then some true else none
  | .stop access => if access.reaches then some false else none

end LifeCall

/-- The object after a sequence of calls, if none of them aborts. -/
def live (life : Life) : List LifeCall → Option Life
  | [] => some life
  | call :: rest =>
      match call.perform life with
      | none => none
      | some (_, next) => live next rest

/-- The last value that calls let reach `iRegNicStart`, or the given one. -/
def lastStartBit (startBit : Bool) (calls : List LifeCall) : Bool :=
  calls.foldl (fun bit call => call.startBitWritten.getD bit) startBit

/-! ## Destruction -/

/-- What the destructors do that concerns the buffer and the start bit. -/
inductive Event where
  /-- `fpgaReleaseBuffer`, with the start bit at that moment. -/
  | releaseBuffer (startBit : Bool)
  | writeNicStart (startBit : Bool)
deriving DecidableEq

namespace Life

/-- The destructor of `NicPollingCCIP`. -/
def destroyPolling (life : Life) : List Event :=
  if life.nic.dpConfigured then [.releaseBuffer life.startBit] else []

/-- The destructor of `NicCCIP`, as far as it stops the NIC. -/
def destroyCcip (life : Life) (access : RunAccess) : List Event :=
  if life.started then
    match access.status with
    | none => []
    | some status =>
        if status.ready && status.running && access.writeNicStart then
          [.writeNicStart false]
        else
          []
  else
    []

/-- Destruction: the derived class first. -/
def destroy (life : Life) (access : RunAccess) : List Event :=
  life.destroyPolling ++ life.destroyCcip access

end Life

/-- The start bit is zero when the buffer is released. -/
def ReleasedQuietly (events : List Event) : Prop :=
  ∀ startBit, Event.releaseBuffer startBit ∈ events → startBit = false

/-! ## The start bit along a life -/

/-- Only a configured NIC has been told to start. -/
def Sound (life : Life) : Prop :=
  life.startBit = true → life.nic.dpConfigured = true

/-- The call concerns neither the start bit nor the buffer. -/
structure Keeps (life next : Life) : Prop where
  startBit : next.startBit = life.startBit
  nic : next.nic = life.nic

theorem Keeps.sound
    {life next : Life}
    (keeps : Keeps life next)
    (sound : Sound life) :
    Sound next := by
  rw [Sound, keeps.startBit, keeps.nic]
  exact sound

section Calls

variable
    {life next : Life}
    {code : ℕ}

theorem keeps_connectToNic
    {accelFound : Bool}
    (returned : life.connectToNic accelFound = some (code, next)) :
    Keeps life next := by
  unfold Life.connectToNic at returned
  split_ifs at returned
  · cases returned
    exact ⟨rfl, rfl⟩
  · cases returned
    exact ⟨rfl, rfl⟩

theorem keeps_awaitReady
    {access : InitAccess}
    (returned : life.awaitReady access = some (code, next)) :
    Keeps life next := by
  unfold Life.awaitReady at returned
  split at returned
  · cases returned
    exact ⟨rfl, rfl⟩
  · split_ifs at returned
    · cases returned
      exact ⟨rfl, rfl⟩
    · cases returned
      exact ⟨rfl, rfl⟩

theorem keeps_initializeNic
    {phyNetwork : Bool}
    {access : InitAccess}
    (returned :
      life.initializeNic phyNetwork access = some (code, next)) :
    Keeps life next := by
  unfold Life.initializeNic at returned
  split at returned
  · split at returned
    · cases returned
      exact ⟨rfl, rfl⟩
    · split at returned
      · split at returned
        · cases returned
          exact ⟨rfl, rfl⟩
        · split at returned
          · exact keeps_awaitReady returned
          · cases returned
            exact ⟨rfl, rfl⟩
      · cases returned
  · cases returned

theorem keeps_awaitRunning
    {access : RunAccess}
    (returned : life.awaitRunning access = some (code, next)) :
    Keeps life next := by
  unfold Life.awaitRunning at returned
  split at returned
  · cases returned
    exact ⟨rfl, rfl⟩
  · split_ifs at returned
    · cases returned
      exact ⟨rfl, rfl⟩
    · cases returned
      exact ⟨rfl, rfl⟩

theorem keeps_awaitStopped
    {access : RunAccess}
    (returned : life.awaitStopped access = some (code, next)) :
    Keeps life next := by
  unfold Life.awaitStopped at returned
  split at returned
  · cases returned
    exact ⟨rfl, rfl⟩
  · split_ifs at returned
    · cases returned
      exact ⟨rfl, rfl⟩
    · cases returned
      exact ⟨rfl, rfl⟩

/-- What `start_nic` and `stop_nic` do after their first assertion. -/
def writeStartBit
    (life : Life)
    (access : RunAccess)
    (expected : NicHwStatus → Bool)
    (await : Returns) :
    Returns :=
  match access.status with
  | none => some (1, life)
  | some status =>
      if expected status then
        if access.writeNicStart then await else some (1, life)
      else
        none

/-- The bit is written if the accesses let it. -/
theorem startBit_writeStartBit
    {access : RunAccess}
    {expected : NicHwStatus → Bool}
    {startBit : Bool}
    {await : Returns}
    (keeps :
      await = some (code, next) →
        Keeps { life with startBit := startBit } next)
    (returned :
      writeStartBit life access expected await = some (code, next)) :
    next.startBit =
        (if access.reaches then some startBit else none).getD
          life.startBit ∧
      next.nic = life.nic := by
  rw [writeStartBit] at returned
  rw [RunAccess.reaches]
  cases status : access.status with
  | none =>
      rw [status] at returned
      cases returned
      exact ⟨rfl, rfl⟩
  | some current =>
      rw [status] at returned
      simp only at returned
      split at returned
      · cases written : access.writeNicStart with
        | true =>
            rw [written] at returned
            have kept := keeps returned
            exact ⟨kept.startBit, kept.nic⟩
        | false =>
            rw [written] at returned
            cases returned
            exact ⟨rfl, rfl⟩
      · cases returned

theorem startBit_startNic
    {access : RunAccess}
    (returned : life.startNic access = some (code, next)) :
    next.startBit =
        (LifeCall.start access).startBitWritten.getD life.startBit ∧
      next.nic = life.nic := by
  unfold Life.startNic at returned
  split at returned
  · exact startBit_writeStartBit keeps_awaitRunning returned
  · cases returned

theorem startBit_stopNic
    {access : RunAccess}
    (returned : life.stopNic access = some (code, next)) :
    next.startBit =
        (LifeCall.stop access).startBitWritten.getD life.startBit ∧
      next.nic = life.nic := by
  unfold Life.stopNic at returned
  split at returned
  · exact startBit_writeStartBit keeps_awaitStopped returned
  · cases returned

/-- What a call that does not abort makes of the start bit. -/
theorem perform_startBit
    {call : LifeCall}
    (returned : call.perform life = some (code, next)) :
    next.startBit = call.startBitWritten.getD life.startBit ∧
      (Sound life → Sound next) := by
  cases call with
  | connectToNic accelFound =>
      have keeps := keeps_connectToNic returned
      exact ⟨keeps.startBit, keeps.sound⟩
  | configureDataPlane config host access llcAntiAliasing =>
      simp only [LifeCall.perform, Life.configureDataPlane] at returned
      split at returned
      · next allowed =>
          cases returned
          refine ⟨rfl, fun sound starts => ?_⟩
          have unconfigured := (Bool.and_eq_true_iff.mp allowed).2
          rw [sound starts] at unconfigured
          cases unconfigured
      · cases returned
  | initializeNic phyNetwork access =>
      have keeps := keeps_initializeNic returned
      exact ⟨keeps.startBit, keeps.sound⟩
  | start access =>
      simp only [LifeCall.perform, Life.start] at returned
      split at returned
      · next allowed =>
          obtain ⟨startBit, nic⟩ := startBit_startNic returned
          refine ⟨startBit, fun _ _ => ?_⟩
          rw [nic]
          exact (Bool.and_eq_true_iff.mp allowed).1
      · cases returned
  | stop access =>
      simp only [LifeCall.perform, Life.stop] at returned
      split at returned
      · next allowed =>
          obtain ⟨startBit, nic⟩ := startBit_stopNic returned
          refine ⟨startBit, fun _ _ => ?_⟩
          rw [nic]
          exact (Bool.and_eq_true_iff.mp allowed).1
      · cases returned

end Calls

/-- The start bit after a life is the last value that was written. -/
theorem live_startBit
    {life final : Life}
    (calls : List LifeCall)
    (lived : live life calls = some final)
    (sound : Sound life) :
    final.startBit = lastStartBit life.startBit calls ∧
      Sound final := by
  induction calls generalizing life with
  | nil =>
      cases lived
      exact ⟨rfl, sound⟩
  | cons call rest induction =>
      rw [live] at lived
      cases performed : call.perform life with
      | none =>
          rw [performed] at lived
          cases lived
      | some returned =>
          obtain ⟨code, next⟩ := returned
          rw [performed] at lived
          obtain ⟨startBit, kept⟩ := perform_startBit performed
          have later := induction lived (kept sound)
          rw [startBit] at later
          exact later

/-- Destruction is quiet unless a configured NIC still has its start bit. -/
theorem releasedQuietly_destroy_iff
    (life : Life)
    (access : RunAccess) :
    ReleasedQuietly (life.destroy access) ↔
      (life.nic.dpConfigured = true → life.startBit = false) := by
  have base :
      ∀ startBit,
        Event.releaseBuffer startBit ∉ life.destroyCcip access := by
    intro startBit
    unfold Life.destroyCcip
    split
    · split
      · exact List.not_mem_nil
      · split <;> simp
    · exact List.not_mem_nil
  rw [ReleasedQuietly, Life.destroy, Life.destroyPolling]
  cases life.nic.dpConfigured with
  | false => simp [base]
  | true => simp [base]

/--
A life that does not abort ends with the start bit zero when the buffer is
released exactly if the last of its calls whose write to `iRegNicStart` reached
the NIC, if there is any, is a stop.
-/
theorem released_quietly_iff
    (numOfFlows : ℕ)
    (calls : List LifeCall)
    (life : Life)
    (lived : live (construct numOfFlows) calls = some life)
    (access : RunAccess) :
    ReleasedQuietly (life.destroy access) ↔
      lastStartBit false calls = false := by
  have new : Sound (construct numOfFlows) := nofun
  obtain ⟨startBit, sound⟩ := live_startBit calls lived new
  rw [releasedQuietly_destroy_iff, startBit]
  constructor
  · intro quiet
    by_contra starts
    have stays : lastStartBit false calls = true := by
      simpa using starts
    have configured := sound (startBit.trans stays)
    exact starts (quiet configured)
  · exact fun stopped _ => stopped

/-! ## Two lives -/

/-- A status without errors. -/
def sampleStatus (ready running : Bool) : NicHwStatus :=
  ⟨{ NicStatus.cleared with
      ready := ready
      running := running }, 0⟩

/-- Accesses that succeed, of a NIC that does as it is told. -/
def obedient (runningBefore : Bool) : RunAccess where
  status := some (sampleStatus true runningBefore)
  writeNicStart := true
  poll := fun _ => some (sampleStatus true !runningBefore)

/-- Everything up to a successful start. -/
def startedLife : List LifeCall :=
  [.connectToNic true,
    .configureDataPlane sampleConfig sampleHost sampleAccess 0,
    .initializeNic false
      { status := some (sampleStatus false false)
        phyNetworkMode := some false
        initializePhyNetwork := true
        writePhyNetAddr := true
        writeIPv4NetAddr := true
        writeNicInit := true
        poll := fun _ => some (sampleStatus true false) },
    .start (obedient false)]

/-- Without a stop the buffer is released before the NIC is stopped. -/
theorem released_quietly_notStopped :
    (live (construct 2) startedLife).map
        (fun life => life.destroy (obedient true)) =
      some [.releaseBuffer true, .writeNicStart false] ∧
    ¬ ReleasedQuietly [.releaseBuffer true, .writeNicStart false] := by
  refine ⟨by decide +kernel, fun quiet => ?_⟩
  have stopped := quiet true List.mem_cons_self
  cases stopped

/-- With a stop it is released after that. -/
theorem released_quietly_stopped :
    ∃ life,
      live (construct 2) (startedLife ++ [.stop (obedient true)]) =
        some life ∧
      life.nic.dpConfigured = true ∧
      ReleasedQuietly (life.destroy (obedient true)) := by
  obtain ⟨life, lived⟩ :
      ∃ life,
        live (construct 2) (startedLife ++ [.stop (obedient true)]) =
          some life :=
    Option.isSome_iff_exists.mp (by decide +kernel)
  have configured :
      (live (construct 2)
          (startedLife ++ [.stop (obedient true)])).map
          (fun life => life.nic.dpConfigured) =
        some true := by
    decide +kernel
  rw [lived] at configured
  refine ⟨life, lived, Option.some.inj configured, ?_⟩
  exact
    (released_quietly_iff 2 _ life lived (obedient true)).mpr
      (by decide)

end Dagger.Nic.Lifetime
