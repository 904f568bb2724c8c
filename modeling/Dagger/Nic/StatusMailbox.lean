import Dagger.Lib.ClockedMachine
import Dagger.Nic.WireFormats

/-!
# The connection status register

The RPC unit reports the outcome of a connection setup as a status that is
valid for one of its cycles, which are two cycles of the host interface.  The
NIC saves a valid status in a register, and clears the register when the host
reads it.

Reads are decoded from the header of the channel that also carries MMIO writes
and memory responses.  The decoder looks at the address whether the header is
that of a read or not.  So other traffic can clear the register; and a read in
the second cycle of a report does not, because the status is saved again.

The label of a report is its number.  It is kept beside the register to say
which report a read returns.
-/

namespace Dagger.Nic.StatusMailbox

open Dagger.Connection.Interface (ConnSetupStatus)
open Dagger.Lib.ClockedMachine
open Dagger.Lib.PackedFields
open Dagger.Nic.WireFormats

/-! ## The CSR read logic -/

/-- The registers that can be read. -/
inductive ReadRegister where
  | afuDfh
  | afuIdL
  | afuIdH
  | dfhRsvd0
  | dfhRsvd1
  | nicStatus
  | ccipRps
  | pckCnt
  | nicMode
  | connStatus
  | netDropCnt
  | debug1
deriving DecidableEq, Repr

namespace ReadRegister

/-- The offset of a register in the NIC's address map, in words. -/
def offset : ReadRegister → ℕ
  | afuDfh => 0
  | afuIdL => 2
  | afuIdH => 4
  | dfhRsvd0 => 6
  | dfhRsvd1 => 8
  | nicStatus => 10
  | ccipRps => 12
  | pckCnt => 16
  | nicMode => 18
  | connStatus => 32
  | netDropCnt => 42
  | debug1 => 46

/-- The address of a register of a NIC at a base address. -/
def address (srfBase : ℕ) (register : ReadRegister) : BitVec 16 :=
  BitVec.ofNat 16 (srfBase + register.offset)

/-- The registers in the order of the case statement. -/
def all : List ReadRegister :=
  [afuDfh, afuIdL, afuIdH, dfhRsvd0, dfhRsvd1, nicStatus, ccipRps,
    pckCnt, nicMode, connStatus, netDropCnt, debug1]

/-- The case statement on the address. -/
def decode (srfBase : ℕ) (header : BitVec 16) : Option ReadRegister :=
  all.find? fun register => header == register.address srfBase

theorem address_inj
    {srfBase : ℕ}
    {first second : ReadRegister}
    (equal : first.address srfBase = second.address srfBase) :
    first = second := by
  rw [address, address, BitVec.ofNat_add, BitVec.ofNat_add,
    BitVec.add_right_inj] at equal
  revert equal
  cases first <;> cases second <;> decide

theorem address_of_decode
    {srfBase : ℕ}
    {header : BitVec 16}
    {register : ReadRegister}
    (found : decode srfBase header = some register) :
    header = register.address srfBase := by
  have same := List.find?_some found
  exact eq_of_beq same

theorem decode_eq_some_iff
    {srfBase : ℕ}
    {header : BitVec 16}
    {register : ReadRegister} :
    decode srfBase header = some register ↔
      header = register.address srfBase := by
  constructor
  · exact address_of_decode
  · rintro rfl
    have member : register ∈ all := by cases register <;> decide
    have found :
        (decode srfBase (register.address srfBase)).isSome := by
      rw [decode, List.find?_isSome]
      exact ⟨register, member, beq_self_eq_true _⟩
    obtain ⟨other, same⟩ := Option.isSome_iff_exists.mp found
    rw [same, address_inj (address_of_decode same)]

end ReadRegister

/-- The other values that can be read. -/
structure Sources where
  afuId : BitVec 128
  iRegNicStatus : NicHwStatus
  iRegCcipRps : BitVec 32
  iRegPckCnt : BitVec 64
  iNicMode : NicMode
  iRegNetDropCnt : BitVec 64
  iRegDebug : BitVec 64

/-- The host channel: whether there is a read, and the header. -/
structure C0 where
  mmioRdValid : Bool
  address : BitVec 16
  tid : BitVec 9

/-- The inputs of one cycle. -/
structure Input where
  reset : Bool
  c0 : C0
  sources : Sources
  rpcConnSetupStatus : ConnSetupStatus

/-- The registers of the read logic. -/
structure Csr where
  iRegConnStatus : ConnSetupStatus
  mmioRdValid : Bool
  tid : BitVec 9
  data : BitVec 64

/-- An assignment to the low bits of the read data. -/
def assignLow {size : ℕ} (data : BitVec 64) (low : BitVec size) :
    BitVec 64 :=
  BitVec.ofNat 64 (stack [⟨size, low⟩] (data.toNat >>> size))

/-- The read data after a clock edge. -/
def readData (csr : Csr) (sources : Sources) :
    Option ReadRegister → BitVec 64
  | none => 0
  | some .afuDfh => 0x1000010000000000
  | some .afuIdL => sources.afuId.extractLsb' 0 64
  | some .afuIdH => sources.afuId.extractLsb' 64 64
  | some .dfhRsvd0 => 0
  | some .dfhRsvd1 => 0
  | some .nicStatus =>
      assignLow csr.data
        (NicHwStatus.format.toBits sources.iRegNicStatus)
  | some .ccipRps => assignLow csr.data sources.iRegCcipRps
  | some .pckCnt => assignLow csr.data sources.iRegPckCnt
  | some .nicMode =>
      assignLow csr.data (NicMode.format.toBits sources.iNicMode)
  | some .connStatus =>
      assignLow csr.data
        (ConnSetupStatus.format.toBits csr.iRegConnStatus)
  | some .netDropCnt => sources.iRegNetDropCnt
  | some .debug1 => sources.iRegDebug

/-- One clock edge of the read logic. -/
def Csr.clock (srfBase : ℕ) (csr : Csr) (input : Input) : Csr where
  mmioRdValid := !input.reset && input.c0.mmioRdValid
  tid := input.c0.tid
  data :=
    readData csr input.sources
      (ReadRegister.decode srfBase input.c0.address)
  iRegConnStatus :=
    if input.rpcConnSetupStatus.valid then
      input.rpcConnSetupStatus
    else if
        ReadRegister.decode srfBase input.c0.address =
          some .connStatus then
      ConnSetupStatus.none
    else
      csr.iRegConnStatus

/-- The read data holds the assigned bits and those above them. -/
theorem toNat_assignLow
    {size : ℕ}
    (fits : size ≤ 64)
    (data : BitVec 64)
    (low : BitVec size) :
    (assignLow data low).toNat =
      stack [⟨size, low⟩] (data.toNat >>> size) := by
  have split : 2 ^ 64 = 2 ^ size * 2 ^ (64 - size) := by
    rw [← Nat.pow_add, Nat.add_sub_cancel' fits]
  have highBound : data.toNat >>> size < 2 ^ (64 - size) := by
    rw [Nat.shiftRight_eq_div_pow,
      Nat.div_lt_iff_lt_mul (Nat.two_pow_pos _), Nat.mul_comm, ← split]
    exact data.isLt
  have small : stack [⟨size, low⟩] (data.toNat >>> size) < 2 ^ 64 := by
    rw [stack, stack, split]
    calc
      low.toNat + 2 ^ size * (data.toNat >>> size) <
          2 ^ size + 2 ^ size * (data.toNat >>> size) :=
        Nat.add_lt_add_right low.isLt _
      _ = 2 ^ size * (data.toNat >>> size + 1) := by
        rw [Nat.mul_add, Nat.mul_one, Nat.add_comm]
      _ ≤ 2 ^ size * 2 ^ (64 - size) :=
        Nat.mul_le_mul_left _ highBound
  rw [assignLow, BitVec.toNat_ofNat, Nat.mod_eq_of_lt small]

/-- The host finds in its memory what was assigned to the low bits. -/
theorem load_assignLow (data : BitVec 64) (status : ConnSetupStatus) :
    ConnSetupStatus.load
        (bytes 5
          (assignLow data
            (ConnSetupStatus.format.toBits status)).toNat) =
      status := by
  have fits : ConnSetupStatus.format.bits ≤ 64 := by decide
  rw [toNat_assignLow fits]
  exact
    ConnSetupStatus.format.consistent.load_toBits status
      (data.toNat >>> 40)

/-! ## Reports -/

/-- A cycle with the label of the report that is current in it. -/
structure Cycle where
  input : Input
  label : ℕ

/-- A cycle of the host channel. -/
structure Traffic where
  c0 : C0
  sources : Sources

/-- A cycle of the RPC unit: two cycles of the host channel. -/
structure Period where
  status : ConnSetupStatus
  first : Traffic
  second : Traffic

/-- The inputs of a cycle. -/
def Period.input (period : Period) (traffic : Traffic) : Input where
  reset := false
  c0 := traffic.c0
  sources := traffic.sources
  rpcConnSetupStatus := period.status

/-- The cycles of some periods, labelled by the number of the period. -/
def cyclesFrom : ℕ → List Period → List Cycle
  | _, [] => []
  | label, period :: rest =>
      { input := period.input period.first
        label := label } ::
      { input := period.input period.second
        label := label } ::
        cyclesFrom (label + 1) rest

namespace Cycle

/-- A valid status is reported. -/
def Reports (cycle : Cycle) : Prop :=
  cycle.input.rpcConnSetupStatus.valid

/-- The header shows the address of the status register. -/
def ShowsAddress (srfBase : ℕ) (cycle : Cycle) : Prop :=
  cycle.input.c0.address = ReadRegister.connStatus.address srfBase

/-- The status register is read. -/
def Reads (srfBase : ℕ) (cycle : Cycle) : Prop :=
  cycle.input.c0.mmioRdValid = true ∧ cycle.ShowsAddress srfBase

instance (cycle : Cycle) : Decidable cycle.Reports :=
  inferInstanceAs (Decidable (_ = _))

instance (srfBase : ℕ) (cycle : Cycle) :
    Decidable (cycle.ShowsAddress srfBase) :=
  inferInstanceAs (Decidable (_ = _))

instance (srfBase : ℕ) (cycle : Cycle) :
    Decidable (cycle.Reads srfBase) :=
  inferInstanceAs (Decidable (_ ∧ _))

end Cycle

/-- The read logic and the label of the status that is saved. -/
structure Mailbox where
  csr : Csr
  saved : Option ℕ

/-- One clock edge; the label follows the status register. -/
def Mailbox.step (srfBase : ℕ) (mailbox : Mailbox) (cycle : Cycle) :
    Mailbox where
  csr := mailbox.csr.clock srfBase cycle.input
  saved :=
    if cycle.Reports then some cycle.label
    else if cycle.ShowsAddress srfBase then none
    else mailbox.saved

/--
Nothing but a read shows the address of the register while a status is saved,
and the status is not read while it is still being reported.
-/
structure Undisturbed
    (srfBase : ℕ)
    (mailbox : Mailbox)
    (cycle : Cycle) :
    Prop where
  onlyReads :
    mailbox.saved ≠ none →
    ¬ cycle.Reports →
    cycle.ShowsAddress srfBase →
    cycle.input.c0.mmioRdValid = true
  notDuring :
    cycle.Reports →
    cycle.Reads srfBase →
    mailbox.saved ≠ some cycle.label

/-! ## Labels -/

/-- A cycle belongs to a period. -/
theorem period_of_mem
    {first : ℕ}
    {periods : List Period}
    {cycle : Cycle}
    (member : cycle ∈ cyclesFrom first periods) :
    first ≤ cycle.label ∧
      ∃ period,
        periods[cycle.label - first]? = some period ∧
          cycle.input.reset = false ∧
          cycle.input.rpcConnSetupStatus = period.status := by
  induction periods generalizing first with
  | nil => cases member
  | cons period rest induction =>
      rcases List.mem_cons.mp member with rfl | member
      · exact ⟨Nat.le_refl _, period, by simp, rfl, rfl⟩
      · rcases List.mem_cons.mp member with rfl | member
        · exact ⟨Nat.le_refl _, period, by simp, rfl, rfl⟩
        · obtain ⟨later, other, found, runs, status⟩ :=
            induction member
          refine ⟨by omega, other, ?_, runs, status⟩
          rw [← found,
            show cycle.label - first = cycle.label - (first + 1) + 1
              by omega]
          rfl

/-- Labels grow, and a label stands for one status. -/
theorem cyclesFrom_pairwise (first : ℕ) (periods : List Period) :
    (cyclesFrom first periods).Pairwise fun earlier later =>
      earlier.label ≤ later.label ∧
        (earlier.label = later.label →
          earlier.input.rpcConnSetupStatus =
            later.input.rpcConnSetupStatus) := by
  induction periods generalizing first with
  | nil => exact List.Pairwise.nil
  | cons period rest induction =>
      have later :
          ∀ cycle ∈ cyclesFrom (first + 1) rest,
            first < cycle.label :=
        fun cycle member => (period_of_mem member).1
      refine List.Pairwise.cons ?_ (List.Pairwise.cons ?_ ?_)
      · intro cycle member
        rcases List.mem_cons.mp member with rfl | member
        · exact ⟨Nat.le_refl _, fun _ => rfl⟩
        · have grows := later cycle member
          exact
            ⟨Nat.le_of_lt grows,
              fun same => absurd same (Nat.ne_of_lt grows)⟩
      · intro cycle member
        have grows := later cycle member
        exact
          ⟨Nat.le_of_lt grows,
            fun same => absurd same (Nat.ne_of_lt grows)⟩
      · exact induction (first + 1)

/-! ## Runs -/

section Runs

variable
    {srfBase : ℕ}
    {mailbox : Mailbox}
    {cycle : Cycle}

theorem step_status :
    (mailbox.step srfBase cycle).csr.iRegConnStatus =
      if cycle.Reports then cycle.input.rpcConnSetupStatus
      else if cycle.ShowsAddress srfBase then ConnSetupStatus.none
      else mailbox.csr.iRegConnStatus := by
  simp only [Mailbox.step, Csr.clock, ReadRegister.decode_eq_some_iff]
  rfl

/-- A label stands for a report that has been seen and is in the register. -/
def FromReport (cycles : List Cycle) (mailbox : Mailbox) : Prop :=
  ∀ label,
    mailbox.saved = some label →
    ∃ report ∈ cycles,
      report.label = label ∧
        report.Reports ∧
        mailbox.csr.iRegConnStatus = report.input.rpcConnSetupStatus

theorem fromReport_step
    {cycles : List Cycle}
    (from_ : FromReport cycles mailbox)
    (member : cycle ∈ cycles) :
    FromReport cycles (mailbox.step srfBase cycle) := by
  intro label saved
  rw [step_status]
  simp only [Mailbox.step] at saved
  split at saved
  · next reports =>
    cases saved
    exact ⟨cycle, member, rfl, reports, if_pos reports⟩
  · next silent =>
    split at saved
    · cases saved
    · next hidden =>
      rw [if_neg silent, if_neg hidden]
      exact from_ label saved

theorem fromReport_run
    (cycles : List Cycle)
    (csr : Csr) :
    FromReport cycles
      (run (Mailbox.step srfBase) ⟨csr, none⟩
        cycles) := by
  refine
    run_invariant (· ∈ cycles) (FromReport cycles)
      (fun _ _ member from_ => fromReport_step from_ member) cycles
      (fun _ member => member) _ ?_
  intro label saved
  cases saved

/-- Without a report and without the address nothing changes. -/
theorem step_keeps
    (mailbox : Mailbox)
    (silent : ¬ cycle.Reports)
    (hidden : ¬ cycle.ShowsAddress srfBase) :
    (mailbox.step srfBase cycle).saved = mailbox.saved ∧
      (mailbox.step srfBase cycle).csr.iRegConnStatus =
        mailbox.csr.iRegConnStatus := by
  rw [step_status, Mailbox.step]
  exact
    ⟨(if_neg silent).trans (if_neg hidden),
      (if_neg silent).trans (if_neg hidden)⟩

/-- A read is answered with the status in the register. -/
theorem step_answers
    (mailbox : Mailbox)
    (running : cycle.input.reset = false)
    (reads : cycle.Reads srfBase) :
    (mailbox.step srfBase cycle).csr.mmioRdValid = true ∧
      (mailbox.step srfBase cycle).csr.tid = cycle.input.c0.tid ∧
      ConnSetupStatus.load
          (bytes 5 (mailbox.step srfBase cycle).csr.data.toNat) =
        mailbox.csr.iRegConnStatus := by
  refine ⟨?_, rfl, ?_⟩
  · change (!cycle.input.reset && cycle.input.c0.mmioRdValid) = true
    rw [running, reads.1]
    rfl
  · have decoded :=
      ReadRegister.decode_eq_some_iff.mpr reads.2
    simp only [Mailbox.step, Csr.clock, decoded, readData]
    exact load_assignLow _ _

/-- A status that is not read stays. -/
theorem saved_kept
    {label : ℕ}
    (quiet : Undisturbed srfBase mailbox cycle)
    (saved : mailbox.saved = some label)
    (silent : ¬ cycle.Reports)
    (unread : ¬ cycle.Reads srfBase) :
    (mailbox.step srfBase cycle).saved = some label ∧
      (mailbox.step srfBase cycle).csr.iRegConnStatus =
        mailbox.csr.iRegConnStatus := by
  have present : mailbox.saved ≠ none := by
    rw [saved]
    exact Option.some_ne_none _
  have hidden : ¬ cycle.ShowsAddress srfBase := by
    intro shows
    exact unread ⟨quiet.onlyReads present silent shows, shows⟩
  have kept := step_keeps mailbox silent hidden
  exact ⟨kept.1.trans saved, kept.2⟩

/-- A status is not read while it is reported. -/
theorem label_ne_of_read
    {label : ℕ}
    (quiet : Undisturbed srfBase mailbox cycle)
    (saved : mailbox.saved = some label)
    (reads : cycle.Reads srfBase)
    (reports : cycle.Reports) :
    cycle.label ≠ label := by
  intro same
  apply quiet.notDuring reports reads
  rw [same]
  exact saved

/-- Cycles behind the read of a report belong to later reports. -/
theorem label_lt_later
    {periods : List Period}
    {before after : List Cycle}
    (split : cyclesFrom 0 periods = before ++ cycle :: after)
    {report : Cycle}
    (seen : report ∈ before)
    (reports : report.Reports)
    (ended : cycle.Reports → cycle.label ≠ report.label)
    {later : Cycle}
    (follows : later ∈ cycle :: after)
    (laterReports : later.Reports) :
    report.label < later.label := by
  have ordered := cyclesFrom_pairwise 0 periods
  rw [split, List.pairwise_append] at ordered
  obtain ⟨-, following, across⟩ := ordered
  have first := across report seen cycle List.mem_cons_self
  refine lt_of_le_of_ne (across report seen later follows).1 ?_
  rcases List.mem_cons.mp follows with rfl | follows
  · exact (ended laterReports).symm
  · intro same
    have second := List.rel_of_pairwise_cons following follows
    have equal : report.label = cycle.label := by omega
    refine ended ?_ equal.symm
    rw [Cycle.Reports, ← first.2 equal]
    exact reports

/-- A status that is not valid or belongs to a report after this one. -/
def ShowsLater
    (periods : List Period)
    (label : ℕ)
    (status : ConnSetupStatus) :
    Prop :=
  status.valid = false ∨
    ∃ number period,
      label < number ∧
        periods[number]? = some period ∧
        period.status.valid = true ∧
        status = period.status

/-- The register is cleared by its address and filled by reports only. -/
theorem showsLater_step
    {periods : List Period}
    {label : ℕ}
    (member : cycle ∈ cyclesFrom 0 periods)
    (later : cycle.Reports → label < cycle.label)
    (shows :
      ShowsLater periods label mailbox.csr.iRegConnStatus ∨
        cycle.ShowsAddress srfBase) :
    ShowsLater periods label
      (mailbox.step srfBase cycle).csr.iRegConnStatus := by
  rw [step_status]
  split
  · next reports =>
    obtain ⟨-, period, found, -, status⟩ := period_of_mem member
    refine .inr ⟨cycle.label, period, later reports, found, ?_, status⟩
    rw [← status]
    exact reports
  · split
    · exact .inl rfl
    · next hidden => exact shows.resolve_right hidden

/-- From the read on, the register shows later reports only. -/
theorem showsLater_run
    {periods : List Period}
    {label : ℕ}
    {cycles : List Cycle}
    (members : ∀ cycle ∈ cycles, cycle ∈ cyclesFrom 0 periods)
    (later : ∀ cycle ∈ cycles, cycle.Reports → label < cycle.label)
    (shows : ShowsLater periods label mailbox.csr.iRegConnStatus) :
    ShowsLater periods label
      (run (Mailbox.step srfBase) mailbox
        cycles).csr.iRegConnStatus :=
  run_invariant (· ∈ cycles)
    (fun mailbox : Mailbox =>
      ShowsLater periods label mailbox.csr.iRegConnStatus)
    (fun _ cycle member shows =>
      showsLater_step (members cycle member) (later cycle member)
        (.inl shows))
    cycles (fun _ member => member) mailbox shows

/-- A read behind the first one is answered with a later report only. -/
theorem showsLater_read
    {periods : List Period}
    {label : ℕ}
    {between rest : List Cycle}
    {later : Cycle}
    (members :
      ∀ cycle ∈ between ++ later :: rest, cycle ∈ cyclesFrom 0 periods)
    (grows :
      ∀ cycle ∈ between ++ later :: rest,
        cycle.Reports → label < cycle.label)
    (shows : ShowsLater periods label mailbox.csr.iRegConnStatus)
    (reads : later.Reads srfBase) :
    ShowsLater periods label
      (ConnSetupStatus.load
        (bytes 5
          ((run (Mailbox.step srfBase) mailbox between).step srfBase
            later).csr.data.toNat)) := by
  rw [List.forall_mem_append, List.forall_mem_cons] at members grows
  obtain ⟨-, _, -, running, -⟩ := period_of_mem members.2.1
  rw [(step_answers _ running reads).2.2]
  exact showsLater_run members.1 grows.1 shows

end Runs

/--
A status that is saved stays until it is read or replaced, a read returns it,
and no later read does, if the register is undisturbed.
-/
theorem status_readOnce
    (srfBase : ℕ)
    (csr : Csr)
    (periods : List Period)
    (undisturbed :
      SafeRun (Mailbox.step srfBase)
        (Undisturbed srfBase) ⟨csr, none⟩ (cyclesFrom 0 periods))
    (before after : List Cycle)
    (cycle : Cycle)
    (split : cyclesFrom 0 periods = before ++ cycle :: after)
    (label : ℕ)
    (saved :
      (run (Mailbox.step srfBase) ⟨csr, none⟩
        before).saved = some label) :
    let mailbox :=
      run (Mailbox.step srfBase) ⟨csr, none⟩ before
    let next := mailbox.step srfBase cycle
    (∃ period,
      periods[label]? = some period ∧
        period.status.valid = true ∧
        mailbox.csr.iRegConnStatus = period.status) ∧
      (¬ cycle.Reports →
        ¬ cycle.Reads srfBase →
        next.saved = some label ∧
          next.csr.iRegConnStatus = mailbox.csr.iRegConnStatus) ∧
      (cycle.Reads srfBase →
        next.csr.mmioRdValid = true ∧
          next.csr.tid = cycle.input.c0.tid ∧
          ConnSetupStatus.load (bytes 5 next.csr.data.toNat) =
            mailbox.csr.iRegConnStatus ∧
          ∀ between later rest,
            after = between ++ later :: rest →
            later.Reads srfBase →
            ShowsLater periods label
              (ConnSetupStatus.load
                (bytes 5
                  ((run (Mailbox.step srfBase) next
                    between).step srfBase later).csr.data.toNat))) := by
  intro mailbox next
  obtain ⟨report, seen, rfl, reports, held⟩ :=
    fromReport_run before csr label saved
  rw [split, safeRun_append] at undisturbed
  have quiet : Undisturbed srfBase mailbox cycle := undisturbed.2.1
  have members : ∀ other ∈ cycle :: after, other ∈ cyclesFrom 0 periods := by
    intro other found
    rw [split]
    exact List.mem_append_right _ found
  refine ⟨?_, saved_kept quiet saved, ?_⟩
  · have member : report ∈ cyclesFrom 0 periods := by
      rw [split]
      exact List.mem_append_left _ seen
    obtain ⟨-, period, found, -, status⟩ := period_of_mem member
    rw [Nat.sub_zero] at found
    refine ⟨period, found, ?_, held.trans status⟩
    rw [← status]
    exact reports
  · intro reads
    have grows :
        ∀ other ∈ cycle :: after, other.Reports →
          report.label < other.label :=
      fun _ follows =>
        label_lt_later split seen reports
          (label_ne_of_read quiet saved reads) follows
    rw [List.forall_mem_cons] at members grows
    obtain ⟨-, _, -, running, -⟩ := period_of_mem members.1
    obtain ⟨valid, tid, answer⟩ :=
      step_answers mailbox running reads
    refine ⟨valid, tid, answer, ?_⟩
    rintro between later rest rfl laterReads
    refine showsLater_read members.2 grows.2 ?_ laterReads
    exact showsLater_step members.1 grows.1 (.inr reads.2)

/-! ## Disturbed registers -/

instance
    (srfBase : ℕ)
    (mailbox : Mailbox)
    (cycle : Cycle) :
    Decidable (Undisturbed srfBase mailbox cycle) :=
  decidable_of_iff
    ((mailbox.saved ≠ none →
        ¬ cycle.Reports →
        cycle.ShowsAddress srfBase →
        cycle.input.c0.mmioRdValid = true) ∧
      (cycle.Reports →
        cycle.Reads srfBase →
        mailbox.saved ≠ some cycle.label))
    ⟨fun quiet => ⟨quiet.1, quiet.2⟩,
      fun quiet => ⟨quiet.onlyReads, quiet.notDuring⟩⟩

/-- Other registers, all zero. -/
def sampleSources : Sources where
  afuId := 0
  iRegNicStatus := ⟨.cleared, 0⟩
  iRegCcipRps := 0
  iRegPckCnt := 0
  iNicMode := ⟨0, 0⟩
  iRegNetDropCnt := 0
  iRegDebug := 0

/-- A header with an address, of a read or of something else. -/
def sampleTraffic (mmioRdValid : Bool) (address : BitVec 16) :
    Traffic where
  c0 :=
    { mmioRdValid := mmioRdValid
      address := address
      tid := 0 }
  sources := sampleSources

/-- The connection with id 5 has been set up. -/
def sampleStatus : ConnSetupStatus where
  connId := 5
  valid := true
  errorStatus := .cOK

def sampleCsr : Csr where
  iRegConnStatus := ConnSetupStatus.none
  mmioRdValid := false
  tid := 0
  data := 0

/-- What the host has been told after some cycles. -/
def sampleAnswer (periods : List Period) (cycles : ℕ) :
    Bool × ConnSetupStatus :=
  let csr :=
    (run (Mailbox.step 0) ⟨sampleCsr, none⟩
      ((cyclesFrom 0 periods).take cycles)).csr
  (csr.mmioRdValid,
    ConnSetupStatus.load (bytes 5 csr.data.toNat))

/-- A report, a read two cycles later and another one behind it. -/
def sampleQuiet : List Period :=
  [⟨sampleStatus, sampleTraffic false 0, sampleTraffic false 0⟩,
    ⟨ConnSetupStatus.none, sampleTraffic true 32,
      sampleTraffic false 0⟩,
    ⟨ConnSetupStatus.none, sampleTraffic false 0,
      sampleTraffic true 32⟩]

/-- The first read returns the status, the second one nothing. -/
theorem status_readOnce_quiet :
    sampleAnswer sampleQuiet 3 = (true, sampleStatus) ∧
      (sampleAnswer sampleQuiet 6).2.valid = false := by
  have once :=
    (status_readOnce 0 sampleCsr sampleQuiet (by decide +kernel)
      ((cyclesFrom 0 sampleQuiet).take 2)
      ((cyclesFrom 0 sampleQuiet).drop 3)
      { input :=
          (⟨ConnSetupStatus.none, sampleTraffic true 32,
            sampleTraffic false 0⟩ : Period).input
            (sampleTraffic true 32)
        label := 1 }
      rfl 0 (by decide +kernel)).2.2 (by decide +kernel)
  refine ⟨Prod.ext once.1 (once.2.2.1.trans (by decide +kernel)), ?_⟩
  rcases once.2.2.2 ((cyclesFrom 0 sampleQuiet).drop 3 |>.take 2) _ [] rfl
      (by decide +kernel) with
    nothing | ⟨number, period, later, found, valid, -⟩
  · exact nothing
  · have others :
        ∀ period ∈ sampleQuiet.drop 1, period.status.valid = false := by
      decide
    have member : period ∈ sampleQuiet.drop 1 := by
      rw [List.mem_iff_getElem?]
      refine ⟨number - 1, ?_⟩
      rw [List.getElem?_drop, Nat.add_sub_cancel' later]
      exact found
    rw [others period member] at valid
    cases valid

/--
A memory response whose header has the bits of the address clears the status
before it is read.  A status that is read in the second cycle of its report is
read again later.
-/
theorem status_lost_and_repeated :
    let lost : List Period :=
      [⟨sampleStatus, sampleTraffic false 0, sampleTraffic false 0⟩,
        ⟨ConnSetupStatus.none, sampleTraffic false 32,
          sampleTraffic true 32⟩]
    let repeated : List Period :=
      [⟨sampleStatus, sampleTraffic false 0, sampleTraffic true 32⟩,
        ⟨ConnSetupStatus.none, sampleTraffic true 32,
          sampleTraffic false 0⟩]
    sampleAnswer lost 4 = (true, ConnSetupStatus.none) ∧
      sampleAnswer repeated 2 = (true, sampleStatus) ∧
      sampleAnswer repeated 3 = (true, sampleStatus) := by
  decide +kernel

end Dagger.Nic.StatusMailbox
