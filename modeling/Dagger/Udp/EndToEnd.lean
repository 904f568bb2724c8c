import Dagger.Udp.ReceivedStream
import Dagger.Udp.Transmission

/-!
# From a transmitter to a receiver

A transmitter and a receiver joined by a link that carries all bits of a flit in
each cycle in which the MAC is ready.  Packets arrive in the FIFO of the
transmitter at any time, and are read from the FIFO of the receiver with another
clock.

Payloads of 64 bytes make frames of four flits.  For such frames every cycle is
safe for the receiver, so that each packet for the host comes out once, whatever
the MAC does, and each other packet is counted.
-/

namespace Dagger.Udp.EndToEnd

open Dagger.Connection.Interface
open Dagger.Lib.ClockedMachine
open Dagger.Lib.Conduit
open Dagger.Rtl.IdealFifo
open Dagger.Udp.Frames
open Dagger.Udp.Headers
open Dagger.Udp.Receiver
open Dagger.Udp.ReceivedStream
open Dagger.Udp.Reception
open Dagger.Udp.Transmission
open Dagger.Udp.Transmitter

/-! ## Frames of four flits -/

section Long

variable
    {host : Host}
    {rx : RxRegisters}
    {input : RxInput}
    {tally : Tally}
    {position : Position}

theorem stands_running
    (stands : Stands host rx tally position) :
    rx.resetRxClkIn = false := by
  cases position with
  | between => exact stands.running
  | closing => exact stands.running
  | started frame => exact stands.running
  | headed frame => exact stands.1.running
  | continued frame => exact stands.1.running

theorem stands_not_checkData
    (stands : Stands host rx tally position) :
    rx.rxState ≠ .rxCheckData := by
  cases position with
  | between => simp [stands.state]
  | closing => simp [stands.state]
  | started frame => simp [stands.state]
  | headed frame => simp [stands.1.state]
  | continued frame => simp [stands.1.state]

theorem dataFlits_long
    {frame : Frame}
    (long : 54 < frame.size) :
    frame.dataFlits = [frame.dataFlit, frame.lastFlit] := by
  rw [Frame.dataFlits, if_neg (by omega), if_neg (by omega)]

/-- The second and the third flit of a long frame are not the last one. -/
theorem rxEopIn_long
    (stands : Stands host rx tally position)
    {rest : List Frame}
    (long : ∀ frame ∈ position.current ++ rest, 54 < frame.size)
    {later : List Flit}
    (flits :
      input.flit.toList ++ later =
        position.pending ++ rest.flatMap Frame.flits)
    (valid : input.rxValidIn = true)
    (early :
      rx.rxState = .rxHeaderData ∨
        rx.rxState = .rxData ∧ rx.bytesRecv.toNat ≤ 22) :
    input.rxEopIn = false := by
  have arrives :
      input.flit =
        some ⟨input.rxDataIn, input.rxSopIn, input.rxEopIn⟩ :=
    if_pos valid
  rw [arrives] at flits
  cases position with
  | between => simp [stands.state] at early
  | closing => simp [stands.state] at early
  | started frame =>
      have second := (List.cons.inj flits).1
      have size := long frame List.mem_cons_self
      have eop := congrArg Flit.eop second
      exact eop.trans (decide_eq_false (by omega))
  | headed frame =>
      have size := long frame List.mem_cons_self
      rw [Position.pending, dataFlits_long size] at flits
      have third := (List.cons.inj flits).1
      have eop := congrArg Flit.eop third
      exact eop.trans (decide_eq_false (by omega))
  | continued frame =>
      simp [stands.1.state, stands.1.bytesRecv] at early

/-- A frame of four flits does not need delay slots. -/
theorem long_safe
    (stands : Stands host rx tally position)
    (steady : input.Steady host)
    (noDelay : rx.rxState ≠ .rxCheckData1d)
    {rest : List Frame}
    (long : ∀ frame ∈ position.current ++ rest, 54 < frame.size)
    {later : List Flit}
    (flits :
      input.flit.toList ++ later =
        position.pending ++ rest.flatMap Frame.flits) :
    Safe rx input ∧ (rx.clock input).rxState ≠ .rxCheckData1d := by
  have notLast := rxEopIn_long stands long flits
  have running : rx.resetting input = false := by
    rw [RxRegisters.resetting, steady.rxRunning,
      stands_running stands]
    rfl
  refine ⟨⟨?_, ?_, ?_⟩, ?_⟩
  · intro state valid
    exact notLast valid (.inl state)
  · intro state
    exact absurd state noDelay
  · intro state few valid eop
    rw [notLast valid (.inr ⟨state, few⟩)] at eop
    cases eop
  · rw [RxRegisters.clock_rxState, running, if_neg (by simp),
      RxRegisters.rxStateNext]
    cases state : rx.rxState with
    | rxHeader =>
        dsimp only
        split <;> simp
    | rxHeaderData =>
        cases valid : input.rxValidIn with
        | false => simp
        | true => simp [notLast valid (.inl state)]
    | rxData =>
        cases valid : input.rxValidIn with
        | false => simp
        | true =>
            by_cases few : rx.bytesRecv.toNat ≤ 22
            · simp [notLast valid (.inr ⟨state, few⟩)]
            · cases input.rxEopIn <;> simp [few]
    | rxCheckData => exact absurd state (stands_not_checkData stands)
    | rxCheckData1d => exact absurd state noDelay

/-- Every cycle of a stream of frames of four flits is safe. -/
theorem safeRun_long
    (stands : Stands host rx tally position)
    (noDelay : rx.rxState ≠ .rxCheckData1d)
    {rest : List Frame}
    (long : ∀ frame ∈ position.current ++ rest, 54 < frame.size)
    {later : List Flit}
    (inputs : List RxInput)
    (steady : ∀ input ∈ inputs, input.Steady host)
    (flits :
      inputs.filterMap RxInput.flit ++ later =
        position.pending ++ rest.flatMap Frame.flits) :
    SafeRun RxRegisters.clock Safe rx inputs := by
  induction inputs generalizing rx tally position rest with
  | nil => trivial
  | cons input inputs induction =>
      have steadyFirst := steady input List.mem_cons_self
      have first :
          input.flit.toList ++
              (inputs.filterMap RxInput.flit ++ later) =
            position.pending ++ rest.flatMap Frame.flits := by
        rw [← flits, List.filterMap_cons]
        cases input.flit <;> rfl
      obtain ⟨safe, noDelay⟩ :=
        long_safe stands steadyFirst noDelay long first
      obtain ⟨done, next, others, frames, remaining, stands, -⟩ :=
        stands.step steadyFirst safe first
      refine ⟨safe, induction stands noDelay ?_ ?_ remaining⟩
      · intro frame member
        exact
          long frame (frames ▸ List.mem_append_right done member)
      · intro other member
        exact steady other (List.mem_cons_of_mem input member)

/-- A stream of long frames that has arrived completely. -/
theorem long_received
    (isReset : ReceivedStream.IsReset host rx)
    (frames : List Frame)
    (long : ∀ frame ∈ frames, 54 < frame.size)
    (inputs : List RxInput)
    (steady : ∀ input ∈ inputs, input.Steady host)
    (flits :
      inputs.filterMap RxInput.flit = frames.flatMap Frame.flits) :
    observations RxRegisters.clock
          RxRegisters.networkRxOut rx inputs =
        frames.filterMap (frameOutcome host) ∧
      Quiet host (run RxRegisters.clock rx inputs)
        (tallied host ⟨0, fun _ => 0⟩ frames) := by
  have stands : Stands host rx ⟨0, fun _ => 0⟩ .between := isReset
  have noDelay : rx.rxState ≠ .rxCheckData1d := by
    simp [isReset.state]
  have stream :
      inputs.filterMap RxInput.flit ++ [] =
        Position.between.pending ++ frames.flatMap Frame.flits :=
    (List.append_nil _).trans flits
  have safe := safeRun_long stands noDelay long inputs steady stream
  obtain ⟨done, position, rest, split, remaining, stands, handed⟩ :=
    stands.run inputs steady safe stream
  obtain ⟨noneLeft, nothing⟩ := List.append_eq_nil_iff.mp remaining.symm
  have noFrames : rest = [] := by
    cases rest with
    | nil => rfl
    | cons frame rest => cases nothing
  rw [noFrames, List.append_nil] at split
  change frames = done ++ position.current at split
  cases position with
  | between =>
      rw [split, Position.current, List.append_nil]
      exact ⟨handed, stands.toQuiet⟩
  | closing =>
      rw [split, Position.current, List.append_nil]
      exact ⟨handed, stands.toQuiet⟩
  | started frame => cases noneLeft
  | headed frame =>
      have size :=
        long frame
          (split ▸ List.mem_append_right done List.mem_cons_self)
      rw [Position.pending, dataFlits_long size] at noneLeft
      cases noneLeft
  | continued frame => cases noneLeft

end Long

/-! ## The link -/

/-- The signals at the receiver. -/
def rxInput (host : Host) (tx : TxRegisters) (input : TxInput) :
    RxInput where
  reset := input.reset
  host := host
  rxResetIn := input.txResetIn
  rxDataIn := tx.txDataOut
  rxValidIn := tx.txValidOut && input.txReadyIn
  rxSopIn := tx.txSopOut
  rxEopIn := tx.txEopOut
  rxEmptyIn := tx.txEmptyOut

/-- The transmitter and the receiver. -/
abbrev Line : Type :=
  TxRegisters × RxRegisters

/-- One edge of the clock of the link. -/
def Line.clock (host : Host) : Line → TxInput → Line :=
  cascade TxRegisters.clock (rxInput host)
    RxRegisters.clock

/-- The link, and the FIFO behind the receiver. -/
structure Network where
  line : Line
  rxFifo : Fifo NetworkIf

/-- An edge of one of the clocks. -/
inductive Edge where
  | link (input : TxInput)
  | host

namespace Edge

/-- The inputs at an edge of the clock of the link. -/
def input : Edge → Option TxInput
  | link input => some input
  | host => none

/-- Whether the FIFO is read. -/
def reads : Edge → Bool
  | link _ => false
  | host => true

end Edge

namespace Network

/-- One edge. -/
def step (host : Host) (network : Network) : Edge → Network
  | .link input =>
      { line := network.line.clock host input
        rxFifo :=
          network.rxFifo.push input.txResetIn
            network.line.2.networkRxOut.toList }
  | .host =>
      { network with
        rxFifo := network.rxFifo.clock false [] true }

/-- What comes out after an edge. -/
def comesOut (host : Host) (network : Network) : Edge → List NetworkIf
  | .link _ => []
  | .host => (network.step host .host).rxFifo.output.toList

/-- The packets that come out in a run. -/
def delivered
    (host : Host)
    (network : Network)
    (edges : List Edge) :
    List NetworkIf :=
  (reports (step host) (comesOut host) network
    edges).flatten

end Network

/-- The edges of the clock of the link. -/
def linkInputs (edges : List Edge) : List TxInput :=
  edges.filterMap Edge.input

section Runs

variable
    (host : Host)
    (network : Network)

/-- The packets that the receiver hands to its FIFO. -/
def handedIn (line : Line) (inputs : List TxInput) : List NetworkIf :=
  (reports (Line.clock host)
    (fun line _ => line.2.networkRxOut.toList) line inputs).flatten

theorem run_line (edges : List Edge) :
    (run (Network.step host) network edges).line =
      run (Line.clock host) network.line
        (linkInputs edges) := by
  induction edges generalizing network with
  | nil => rfl
  | cons edge rest induction =>
      cases edge with
      | link input => exact induction _
      | host => exact induction _

/-- Packets pass through the FIFO in order. -/
theorem passes_rxFifo
    (edges : List Edge)
    (running :
      ∀ input ∈ linkInputs edges, input.txResetIn = false) :
    Passes network.rxFifo.words
      (handedIn host network.line (linkInputs edges))
      (network.delivered host edges)
      (run (Network.step host) network
        edges).rxFifo.words := by
  induction edges generalizing network with
  | nil => exact List.append_nil _
  | cons edge rest induction =>
      cases edge with
      | link input =>
          obtain ⟨first, later⟩ := List.forall_mem_cons.mp running
          have step :
              Passes network.rxFifo.words
                network.line.2.networkRxOut.toList []
                (network.step host (.link input)).rxFifo.words := by
            simp [Passes, Network.step, Fifo.push, first]
          exact step.trans (induction _ later)
      | host =>
          exact
            network.rxFifo.passes_clock.trans
              (induction (network.step host .host) running)

/-- Each edge of the other clock takes a packet out of the FIFO. -/
theorem length_rxFifo
    (edges : List Edge)
    (running :
      ∀ input ∈ linkInputs edges, input.txResetIn = false) :
    (run (Network.step host) network
        edges).rxFifo.words.length ≤
      network.rxFifo.words.length - edges.countP Edge.reads +
        (handedIn host network.line (linkInputs edges)).length := by
  induction edges generalizing network with
  | nil => exact Nat.le_refl _
  | cons edge rest induction =>
      cases edge with
      | link input =>
          obtain ⟨first, later⟩ := List.forall_mem_cons.mp running
          have bound := induction (network.step host (.link input)) later
          have words :
              (network.step host (.link input)).rxFifo.words =
                network.rxFifo.words ++
                  network.line.2.networkRxOut.toList := by
            simp [Network.step, Fifo.push, first]
          have handed :
              handedIn host network.line
                  (linkInputs (.link input :: rest)) =
                network.line.2.networkRxOut.toList ++
                  handedIn host
                    (network.step host (.link input)).line
                    (linkInputs rest) :=
            rfl
          rw [words, List.length_append] at bound
          have count :
              (Edge.link input :: rest).countP Edge.reads =
                rest.countP Edge.reads :=
            List.countP_cons_of_neg (by simp [Edge.reads])
          rw [handed, List.length_append, count]
          refine Nat.le_trans bound ?_
          omega
      | host =>
          have bound := induction (network.step host .host) running
          have words :
              (network.step host .host).rxFifo.words.length =
                network.rxFifo.words.length - 1 :=
            network.rxFifo.length_clock
          have count :
              (Edge.host :: rest).countP Edge.reads =
                rest.countP Edge.reads + 1 :=
            List.countP_cons_of_pos rfl
          rw [words, Nat.sub_sub, Nat.add_comm 1] at bound
          rw [count]
          exact bound

theorem handedIn_append
    (line : Line)
    (first second : List TxInput) :
    handedIn host line (first ++ second) =
      handedIn host line first ++
        handedIn host
          (run (Line.clock host) line first) second := by
  rw [handedIn, reports_append, List.flatten_append]
  rfl

end Runs

/-! ## What the receiver sees -/

/-- The signals at the receiver in a run. -/
def rxInputs
    (host : Host)
    (tx : TxRegisters)
    (inputs : List TxInput) :
    List RxInput :=
  reports TxRegisters.clock (rxInput host) tx inputs

theorem rxInput_flit
    (host : Host)
    (tx : TxRegisters)
    (input : TxInput) :
    (rxInput host tx input).flit.toList =
      (sent tx input).map Beat.flit := by
  rw [RxInput.flit, sent, held_map, held]
  change
    (if (tx.txValidOut && input.txReadyIn) = true then _
      else _ : Option Flit).toList = _
  split <;> rfl

/-- The flits that are sent arrive. -/
theorem rxInputs_flits
    (host : Host)
    (tx : TxRegisters)
    (inputs : List TxInput) :
    (rxInputs host tx inputs).filterMap RxInput.flit =
      (sentIn tx inputs).map Beat.flit := by
  induction inputs generalizing tx with
  | nil => rfl
  | cons input rest induction =>
      rw [rxInputs, reports, ← rxInputs, sentIn,
        reports, List.flatten_cons, ← sentIn,
        List.map_append, ← induction, ← rxInput_flit host,
        List.filterMap_cons]
      cases (rxInput host tx input).flit <;> rfl

theorem rxInputs_steady
    (host : Host)
    {sender : FrameSender}
    (tx : TxRegisters)
    (inputs : List TxInput)
    (steady : ∀ input ∈ inputs, Steady sender input) :
    ∀ input ∈ rxInputs host tx inputs, input.Steady host :=
  forall_mem_reports inputs
    (fun _ input member =>
      ⟨(steady input member).running, (steady input member).txRunning,
        rfl⟩)
    tx

theorem handedIn_eq
    (host : Host)
    (line : Line)
    (inputs : List TxInput) :
    handedIn host line inputs ++
        (run (Line.clock host) line
          inputs).2.networkRxOut.toList =
      line.2.networkRxOut.toList ++
        observations RxRegisters.clock
          RxRegisters.networkRxOut line.2
          (rxInputs host line.1 inputs) := by
  obtain ⟨tx, rx⟩ := line
  have reports :=
    reports_cascade TxRegisters.clock (rxInput host)
      RxRegisters.clock (fun rx => rx.networkRxOut.toList) tx rx inputs
  have final :=
    run_cascade TxRegisters.clock (rxInput host)
      RxRegisters.clock tx rx inputs
  rw [handedIn, Line.clock, reports, final]
  exact
    flatten_reports_observe RxRegisters.clock
      RxRegisters.networkRxOut rx (rxInputs host tx inputs)

/-! ## Delivery -/

/-- Nothing has been sent since the reset. -/
structure Network.IsReset
    (sender : FrameSender)
    (host : Host)
    (network : Network) :
    Prop where
  tx : Transmission.IsReset sender network.line.1
  rx : ReceivedStream.IsReset host network.line.2
  silent : network.line.2.rxValid = false
  empty : network.rxFifo.words = []

/-- A packet as it comes out: with the address of its sender. -/
def sourced (sender : FrameSender) (packet : NetworkIf) : NetworkIf :=
  { packet with
    addrTpl :=
      { packet.addrTpl with
        sourceIp := sender.ipv4Addr } }

/-- The frames of some packets at a host. -/
def expected
    (sender : FrameSender)
    (host : Host)
    (packets : List NetworkIf) :
    List NetworkIf :=
  (packets.filter (·.addrTpl.destIp = host.ipv4Addr)).map
    (sourced sender)

section Delivery

variable
    {sender : FrameSender}
    (size : sender.networkTxSize = 64)
    {host : Host}

theorem frame_found
    (packet : NetworkIf)
    (error : HdrError) :
    error.found host (sender.frame packet).eth
        (sender.frame packet).ip =
      (error == .destIp &&
        packet.addrTpl.destIp != host.ipv4Addr) := by
  cases error <;> rfl

/-- A packet for someone else is refused, and nothing else is. -/
theorem frameRefused_frame (packet : NetworkIf) :
    frameRefused host (sender.frame packet) =
      (packet.addrTpl.destIp != host.ipv4Addr) := by
  rw [frameRefused, hdrRefused, frame_found, frame_found, frame_found,
    frame_found]
  cases packet.addrTpl.destIp != host.ipv4Addr <;> rfl

theorem drops_frames (packets : List NetworkIf) :
    (tallied host ⟨0, fun _ => 0⟩ (packets.map sender.frame)).drops =
      packets.countP (·.addrTpl.destIp ≠ host.ipv4Addr) := by
  rw [drops_tallied, Nat.zero_add, List.countP_map]
  congr 1
  funext packet
  rw [Function.comp_apply, frameRefused_frame]
  simp [bne, beq_eq_decide]

theorem errors_frames (packets : List NetworkIf) :
    (tallied host ⟨0, fun _ => 0⟩
        (packets.map sender.frame)).errors .destIp =
      packets.countP (·.addrTpl.destIp ≠ host.ipv4Addr) := by
  rw [errors_tallied, Nat.zero_add, List.countP_map]
  congr 1
  funext packet
  rw [Function.comp_apply, frame_found]
  simp [bne, beq_eq_decide]

/-- All packets that are handed to the FIFO come out. -/
theorem delivered_of_handed
    {network : Network}
    (empty : network.rxFifo.words = [])
    (loading sending popping : List Edge)
    (flush : TxInput)
    (running :
      ∀ input ∈
        linkInputs (loading ++ sending ++ Edge.link flush :: popping),
        input.txResetIn = false)
    {packets : List NetworkIf}
    (handed :
      handedIn host network.line
          (linkInputs loading ++ linkInputs sending ++ [flush]) =
        expected sender host packets)
    (nothing :
      handedIn host
          (run (Line.clock host) network.line
            (linkInputs loading ++ linkInputs sending ++ [flush]))
          (linkInputs popping) =
        [])
    (read : packets.length ≤ popping.countP Edge.reads) :
    network.delivered host
        (loading ++ sending ++ Edge.link flush :: popping) =
      expected sender host packets := by
  have split :
      loading ++ sending ++ Edge.link flush :: popping =
        loading ++ sending ++ [Edge.link flush] ++ popping := by
    simp
  have inputs :
      linkInputs (loading ++ sending ++ [Edge.link flush]) =
        linkInputs loading ++ linkInputs sending ++ [flush] := by
    simp [linkInputs, Edge.input]
  rw [split, linkInputs, List.filterMap_append] at running
  obtain ⟨runningFirst, runningLater⟩ :=
    List.forall_mem_append.mp running
  have first := passes_rxFifo host network _ runningFirst
  have second :=
    passes_rxFifo host
      (run (Network.step host) network
        (loading ++ sending ++ [Edge.link flush]))
      popping runningLater
  have bound :=
    length_rxFifo host
      (run (Network.step host) network
        (loading ++ sending ++ [Edge.link flush]))
      popping runningLater
  rw [inputs, handed, empty] at first
  rw [run_line, inputs, nothing] at second bound
  have few : (expected sender host packets).length ≤ packets.length := by
    rw [expected, List.length_map]
    exact List.length_filter_le _ _
  have order := first.trans second
  have counts := congrArg List.length first
  rw [List.length_append, List.length_append] at counts
  have finished :
      (run (Network.step host)
          (run (Network.step host) network
            (loading ++ sending ++ [Edge.link flush]))
          popping).rxFifo.words =
        [] :=
    List.length_eq_zero_iff.mp (by
      rw [List.length_nil] at bound counts
      omega)
  rw [finished, Passes, List.nil_append, List.append_nil,
    List.append_nil] at order
  rw [split, Network.delivered, reports_append,
    List.flatten_append]
  exact order.symm

include size

theorem frame_long (packet : NetworkIf) :
    54 < (sender.frame packet).size := by
  change 54 < sender.networkTxSize.toNat
  rw [size]
  decide

theorem frameReceived_frame (packet : NetworkIf) :
    frameReceived (sender.frame packet) = sourced sender packet := by
  have long := frame_long size packet
  have payload : (sender.frame packet).assembled = packet.payload := by
    rw [Frame.assembled, if_neg (by omega), if_neg (by omega)]
    rfl
  rw [frameReceived, payload]
  rfl

theorem outcomes_frames (packets : List NetworkIf) :
    (packets.map sender.frame).filterMap (frameOutcome host) =
      expected sender host packets := by
  rw [expected]
  induction packets with
  | nil => rfl
  | cons packet rest induction =>
      rw [List.map_cons, List.filterMap_cons, List.filter_cons,
        frameOutcome, frameRefused_frame, frameReceived_frame size]
      by_cases isFor : packet.addrTpl.destIp = host.ipv4Addr
      · simpa [isFor] using induction
      · simpa [isFor] using induction

/-- What the receiver has seen when everything is sent. -/
theorem all_received
    {line : Line}
    (txIsReset : Transmission.IsReset sender line.1)
    (rxIsReset : ReceivedStream.IsReset host line.2)
    (loading draining : List TxInput)
    (steady :
      ∀ input ∈ loading ++ draining, Steady sender input)
    (nothing : ∀ input ∈ draining, input.pushed = [])
    (enough :
      7 * (pushedIn loading).length ≤
        draining.countP TxInput.txReadyIn) :
    observations RxRegisters.clock
          RxRegisters.networkRxOut line.2
          (rxInputs host line.1 (loading ++ draining)) =
        expected sender host (pushedIn loading) ∧
      Quiet host
        (run (Line.clock host) line
          (loading ++ draining)).2
        (tallied host ⟨0, fun _ => 0⟩
          ((pushedIn loading).map sender.frame)) := by
  obtain ⟨tx, rx⟩ := line
  have faithful :
      ∀ input ∈ loading ++ draining,
        Faithful Beat.flit input.txReadyIn :=
    fun _ _ => .inr fun _ _ same => same
  have sent :=
    txIsReset.all_sent Beat.flit loading draining steady faithful
      nothing enough
  have flits :
      (rxInputs host tx (loading ++ draining)).filterMap
          RxInput.flit =
        ((pushedIn loading).map sender.frame).flatMap
          Frame.flits := by
    rw [rxInputs_flits]
    refine sent.trans ?_
    rw [queued, List.map_flatMap, List.flatMap_map]
    refine List.flatMap_congr fun packet _ => ?_
    exact map_flit_beats (sender.frame packet)
  have long :
      ∀ frame ∈ (pushedIn loading).map sender.frame,
        54 < frame.size := by
    intro frame member
    obtain ⟨packet, -, rfl⟩ := List.mem_map.mp member
    exact frame_long size packet
  obtain ⟨handed, quiet⟩ :=
    long_received rxIsReset _ long _
      (rxInputs_steady host tx _ steady) flits
  have final :=
    run_cascade TxRegisters.clock (rxInput host)
      RxRegisters.clock tx rx (loading ++ draining)
  refine ⟨handed.trans (outcomes_frames size _), ?_⟩
  rw [Line.clock, final]
  exact quiet

/-- All packets are handed to the FIFO, and then no more. -/
theorem all_handed
    {line : Line}
    (txIsReset : Transmission.IsReset sender line.1)
    (rxIsReset : ReceivedStream.IsReset host line.2)
    (silent : line.2.rxValid = false)
    (loading sending popping : List TxInput)
    (flush : TxInput)
    (steady :
      ∀ input ∈ loading ++ (sending ++ flush :: popping),
        Steady sender input)
    (nothing :
      ∀ input ∈ sending ++ flush :: popping, input.pushed = [])
    (ready :
      7 * (pushedIn loading).length ≤
        sending.countP TxInput.txReadyIn) :
    handedIn host line (loading ++ sending ++ [flush]) =
        expected sender host (pushedIn loading) ∧
      handedIn host
          (run (Line.clock host) line
            (loading ++ sending ++ [flush]))
          popping =
        [] := by
  have start : line.2.networkRxOut = none :=
    if_neg (by simp [silent])
  have readyLater :
      7 * (pushedIn loading).length ≤
        (sending ++ flush :: popping).countP TxInput.txReadyIn := by
    rw [List.countP_append]
    exact Nat.le_trans ready (Nat.le_add_right _ _)
  obtain ⟨steadyLoading, steadyLater⟩ := List.forall_mem_append.mp steady
  obtain ⟨steadySending, -⟩ := List.forall_mem_append.mp steadyLater
  obtain ⟨sentBefore, -⟩ :=
    all_received size txIsReset rxIsReset loading sending
      (List.forall_mem_append.mpr ⟨steadyLoading, steadySending⟩)
      (List.forall_mem_append.mp nothing).1 ready
  obtain ⟨sentAll, -⟩ :=
    all_received size txIsReset rxIsReset loading _ steady nothing
      readyLater
  have before := handedIn_eq host line (loading ++ sending)
  have after :=
    handedIn_eq host line (loading ++ (sending ++ flush :: popping))
  rw [start, sentBefore] at before
  rw [start, sentAll] at after
  have flushed :
      handedIn host line (loading ++ sending ++ [flush]) =
        expected sender host (pushedIn loading) := by
    rw [handedIn_append]
    refine Eq.trans ?_ before
    exact congrArg _ (List.append_nil _)
  refine ⟨flushed, ?_⟩
  have split :
      loading ++ (sending ++ flush :: popping) =
        loading ++ sending ++ [flush] ++ popping := by
    simp
  rw [split, handedIn_append, flushed, List.append_assoc,
    Option.toList_none, List.nil_append] at after
  exact
    (List.append_eq_nil_iff.mp (List.append_right_eq_self.mp after)).1

/--
Each packet for the host comes out once and in order, with the address of its
sender and with its own payload, however the MAC stalls the transmitter.  All
other packets are counted.
-/
theorem packets_delivered
    (network : Network)
    (isReset : network.IsReset sender host)
    (loading sending popping : List Edge)
    (flush : TxInput)
    (steady :
      ∀ input ∈
        linkInputs (loading ++ sending ++ .link flush :: popping),
        Steady sender input)
    (nothing :
      ∀ input ∈ linkInputs (sending ++ .link flush :: popping),
        input.pushed = [])
    (ready :
      7 * (pushedIn (linkInputs loading)).length ≤
        (linkInputs sending).countP TxInput.txReadyIn)
    (read :
      (pushedIn (linkInputs loading)).length ≤
        popping.countP Edge.reads) :
    let packets := pushedIn (linkInputs loading)
    let edges := loading ++ sending ++ .link flush :: popping
    let rx :=
      (run (Network.step host) network edges).line.2
    network.delivered host edges =
        (packets.filter (·.addrTpl.destIp = host.ipv4Addr)).map
          (sourced sender) ∧
      rx.dropCnt =
        BitVec.ofNat 32
          (packets.countP (·.addrTpl.destIp ≠ host.ipv4Addr)) ∧
      rx.errorCnt .destIp =
        BitVec.ofNat 32
          (packets.countP (·.addrTpl.destIp ≠ host.ipv4Addr)) := by
  intro packets edges rx
  have inputs :
      linkInputs edges =
        linkInputs loading ++
          (linkInputs sending ++ flush :: linkInputs popping) := by
    simp [edges, linkInputs, Edge.input]
  have steadyInputs := inputs ▸ steady
  have nothingInputs :
      ∀ input ∈ linkInputs sending ++ flush :: linkInputs popping,
        input.pushed = [] := by
    simpa [linkInputs, Edge.input] using nothing
  have running :
      ∀ input ∈ linkInputs edges, input.txResetIn = false :=
    fun input member => (steady input member).txRunning
  obtain ⟨handed, nothingHanded⟩ :=
    all_handed size isReset.tx isReset.rx isReset.silent
      (linkInputs loading) (linkInputs sending) (linkInputs popping)
      flush steadyInputs nothingInputs ready
  have counted :=
    (all_received size isReset.tx isReset.rx (linkInputs loading) _
      steadyInputs nothingInputs
      (Nat.le_trans ready
        (List.countP_append ▸ Nat.le_add_right _ _))).2
  rw [← inputs, ← run_line] at counted
  refine ⟨?_, ?_, ?_⟩
  · exact
      delivered_of_handed isReset.empty loading sending popping flush
        running handed nothingHanded read
  · exact counted.drops.trans (congrArg _ (drops_frames _))
  · exact (counted.errors .destIp).trans (congrArg _ (errors_frames _))

end Delivery

/-- Both ends of the link after a reset. -/
def sampleNetwork : Network where
  line := (sampleTransmitter, sampleReceiver)
  rxFifo := sampleTransmitter.txFifo

/-- Two packets, one of them for the host, and a cycle without the MAC. -/
def sampleLoading (sender : FrameSender) : List Edge :=
  [.link
      (sampleTxCycle sender true
        [samplePacket 0x05060709 3,
          samplePacket 0x05060708 (1 <<< 511)]),
    .host, .link (sampleTxCycle sender false [])]

theorem packets_delivered_sample :
    let sender := sampleSender 64 (by decide) (by decide)
    let edges :=
      sampleLoading sender ++
          List.replicate 14 (.link (sampleTxCycle sender true [])) ++
        .link (sampleTxCycle sender false []) ::
          List.replicate 2 .host
    let rx :=
      (run (Network.step sampleHost) sampleNetwork
        edges).line.2
    sampleNetwork.delivered sampleHost edges =
        [sourced sender (samplePacket 0x05060708 (1 <<< 511))] ∧
      rx.dropCnt = 1 ∧
      rx.errorCnt .destIp = 1 := by
  intro sender edges rx
  have inputs :
      linkInputs edges =
        [sampleTxCycle sender true
            [samplePacket 0x05060709 3,
              samplePacket 0x05060708 (1 <<< 511)],
          sampleTxCycle sender false []] ++
            List.replicate 14 (sampleTxCycle sender true []) ++
          [sampleTxCycle sender false []] :=
    rfl
  have steady :
      ∀ input ∈ linkInputs edges, Steady sender input := by
    rw [inputs]
    intro input member
    simp only [List.cons_append, List.nil_append, List.mem_cons,
      List.mem_append, List.mem_replicate, List.not_mem_nil,
      or_false] at member
    rcases member with rfl | rfl | ⟨-, rfl⟩ | rfl <;>
      exact ⟨rfl, rfl, rfl⟩
  have nothing :
      ∀ input ∈
        linkInputs
          (List.replicate 14 (Edge.link (sampleTxCycle sender true [])) ++
            Edge.link (sampleTxCycle sender false []) ::
              List.replicate 2 Edge.host),
        input.pushed = [] := by
    intro input member
    have among :
        input ∈
          List.replicate 14 (sampleTxCycle sender true []) ++
            [sampleTxCycle sender false []] :=
      member
    rcases List.mem_append.mp among with many | one
    · rw [List.eq_of_mem_replicate many]
      rfl
    · rw [List.mem_singleton.mp one]
      rfl
  exact
    packets_delivered rfl sampleNetwork
      ⟨⟨⟨rfl, rfl, rfl⟩, rfl, rfl, rfl⟩,
        ⟨⟨⟨rfl, rfl, rfl⟩, rfl, fun _ => rfl⟩, rfl⟩, rfl, rfl⟩
      (sampleLoading sender) _ _ _ steady nothing (by decide)
      (by decide)

end Dagger.Udp.EndToEnd
