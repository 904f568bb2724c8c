import Mathlib.Algebra.Group.Nat.Even
import Mathlib.Data.List.Nodup
import Mathlib.Data.List.Perm.Subperm
import Mathlib.Data.List.Range

/-!
# Alternating-bit mailboxes

A mailbox is one memory cell shared by a writer and a reader who exchange no
other signal.  The writer stores each payload together with a bit that it
flips from one publication to the next; the reader keeps a bit of its own,
takes the cell when the stored bit differs from it, and then flips its bit.

The log of a mailbox records what an outside observer sees.  Publications are
numbered from one; a poll is recorded with the number of the publication that
was the latest one when the poll happened.  `Faithful` relates a mailbox to
its log and is preserved by every publication and every poll, in any order.
It implies that no publication is taken twice, that publications are taken in
order and unaltered, and that none is missed as long as the reader looks at
least once between two publications.
-/

namespace Dagger.Lib.AlternatingMailbox

universe u

variable {Payload : Type u}

/-- One cell with the private bits of its writer and of its reader. -/
structure Mailbox (Payload : Type u) where
  writerBit : Bool
  cell : Option (Bool × Payload)
  readerBit : Bool

namespace Mailbox

/-- The mailbox before the first publication. -/
def empty : Mailbox Payload where
  writerBit := true
  cell := none
  readerBit := false

/-- Store a payload with the writer's bit and flip that bit. -/
def publish (box : Mailbox Payload) (payload : Payload) :
    Mailbox Payload where
  writerBit := !box.writerBit
  cell := some (box.writerBit, payload)
  readerBit := box.readerBit

/-- What a poll would take from the cell. -/
def offer (box : Mailbox Payload) : Option Payload :=
  match box.cell with
  | none => none
  | some (flag, payload) =>
      if flag = box.readerBit then none else some payload

/-- Flip the reader's bit if the poll takes something. -/
def poll (box : Mailbox Payload) : Mailbox Payload where
  writerBit := box.writerBit
  cell := box.cell
  readerBit :=
    match box.offer with
    | none => box.readerBit
    | some _ => !box.readerBit

/-! ### The handshake

A writer that waits until its last publication was taken sees the mailbox
alternate between two phases, whatever bits it was started with.
-/

/-- Nothing is offered and the next publication will be. -/
def Settled (box : Mailbox Payload) : Prop :=
  box.offer = none ∧ box.writerBit = !box.readerBit

/-- The last publication is offered. -/
def Loaded (box : Mailbox Payload) : Prop :=
  box.offer.isSome = true ∧ box.writerBit = box.readerBit

theorem Settled.publish
    {box : Mailbox Payload}
    (settled : box.Settled)
    (payload : Payload) :
    (box.publish payload).Loaded := by
  obtain ⟨_, bits⟩ := settled
  constructor
  · simp [offer, Mailbox.publish, bits]
  · simp [Mailbox.publish, bits]

theorem Loaded.poll
    {box : Mailbox Payload}
    (loaded : box.Loaded) :
    box.poll.Settled := by
  obtain ⟨offered, bits⟩ := loaded
  obtain ⟨payload, taken⟩ := Option.isSome_iff_exists.mp offered
  have flipped : box.poll.readerBit = !box.readerBit := by
    simp [Mailbox.poll, taken]
  constructor
  · unfold offer at taken ⊢
    rw [flipped]
    cases cell : box.cell with
    | none => simp [cell] at taken
    | some content =>
        simp only [cell] at taken
        simp only [Mailbox.poll, cell]
        split at taken
        case isTrue => cases taken
        case isFalse differs => simp [differs]
  · rw [flipped, Bool.not_not]
    exact bits

end Mailbox

/-- What has been observed of one mailbox. -/
structure Log (Payload : Type u) where
  /-- The payloads published so far, oldest first. -/
  published : List Payload
  /-- The payloads taken so far, each with the number of the publication that
  was the latest one at that moment. -/
  accepted : List (ℕ × Payload)
  /-- For every poll so far, the number of the then latest publication. -/
  polled : List ℕ

namespace Log

def empty : Log Payload where
  published := []
  accepted := []
  polled := []

def publish (log : Log Payload) (payload : Payload) : Log Payload :=
  { log with published := log.published ++ [payload] }

def poll (log : Log Payload) (outcome : Option Payload) : Log Payload :=
  { log with
    accepted :=
      log.accepted ++
        (outcome.map fun payload =>
          (log.published.length, payload)).toList
    polled := log.polled ++ [log.published.length] }

/-- Numbers of the publications that were taken. -/
def acceptedNumbers (log : Log Payload) : List ℕ :=
  log.accepted.map Prod.fst

@[simp]
theorem acceptedNumbers_poll_none (log : Log Payload) :
    (log.poll none).acceptedNumbers = log.acceptedNumbers := by
  simp [acceptedNumbers, poll]

@[simp]
theorem acceptedNumbers_poll_some
    (log : Log Payload)
    (payload : Payload) :
    (log.poll (some payload)).acceptedNumbers =
      log.acceptedNumbers ++ [log.published.length] := by
  simp [acceptedNumbers, poll]

/-- Every publication but the latest was polled before the next one. -/
def PolledBetween (log : Log Payload) : Prop :=
  ∀ number,
    1 ≤ number →
    number < log.published.length →
    number ∈ log.polled

end Log

/-- The relation between a mailbox and what was observed of it. -/
structure Faithful (box : Mailbox Payload) (log : Log Payload) : Prop where
  writer : box.writerBit = decide (log.published.length % 2 = 0)
  reader : box.readerBit = decide (log.accepted.length % 2 = 1)
  cell :
    box.cell =
      log.published.getLast?.map fun payload =>
        (decide (log.published.length % 2 = 1), payload)
  ordered : log.acceptedNumbers.Pairwise (· < ·)
  genuine :
    ∀ entry ∈ log.accepted,
      1 ≤ entry.1 ∧
        log.published[entry.1 - 1]? = some entry.2
  settled :
    log.published.length ∈ log.acceptedNumbers →
      log.accepted.length % 2 = log.published.length % 2
  bounded : ∀ number ∈ log.polled, number ≤ log.published.length
  complete :
    log.PolledBetween →
      log.acceptedNumbers =
        List.range' 1
          (if log.published.length ∈ log.polled then
            log.published.length
          else
            log.published.length - 1)

namespace Faithful

variable {box : Mailbox Payload} {log : Log Payload}

theorem empty :
    Faithful (Mailbox.empty : Mailbox Payload) Log.empty where
  writer := by simp [Mailbox.empty, Log.empty]
  reader := by simp [Mailbox.empty, Log.empty]
  cell := by simp [Mailbox.empty, Log.empty]
  ordered := by simp [Log.acceptedNumbers, Log.empty]
  genuine := by simp [Log.empty]
  settled := by simp [Log.acceptedNumbers, Log.empty]
  bounded := by simp [Log.empty]
  complete := by simp [Log.acceptedNumbers, Log.empty]

/-- No accepted number exceeds the number of publications. -/
theorem accepted_le
    (faithful : Faithful box log)
    {number : ℕ}
    (member : number ∈ log.acceptedNumbers) :
    number ≤ log.published.length := by
  rcases List.mem_map.mp member with ⟨entry, entryMember, rfl⟩
  have present := (faithful.genuine entry entryMember).2
  have inside : entry.1 - 1 < log.published.length :=
    (List.getElem?_eq_some_iff.mp present).1
  omega

/-- Publishing preserves the relation. -/
theorem publish
    (faithful : Faithful box log)
    (payload : Payload) :
    Faithful (box.publish payload) (log.publish payload) where
  writer := by
    simp only [Mailbox.publish, Log.publish, faithful.writer,
      List.length_append, List.length_singleton,
      Nat.succ_mod_two_eq_zero_iff, ← Nat.mod_two_not_eq_zero,
      decide_not]
  reader := faithful.reader
  cell := by
    simp only [Mailbox.publish, Log.publish, faithful.writer,
      List.length_append, List.length_singleton, List.getLast?_append,
      List.getLast?_singleton, Option.some_or, Option.map_some,
      Nat.succ_mod_two_eq_one_iff]
  ordered := faithful.ordered
  genuine := by
    intro entry member
    have old := faithful.genuine entry member
    have inside : entry.1 - 1 < log.published.length :=
      (List.getElem?_eq_some_iff.mp old.2).1
    refine ⟨old.1, ?_⟩
    simpa [Log.publish, List.getElem?_append_left inside] using old.2
  settled := by
    intro member
    have bound : log.published.length + 1 ≤ log.published.length := by
      simpa [Log.publish] using faithful.accepted_le member
    omega
  bounded := by
    intro number member
    have bound := faithful.bounded number member
    simp only [Log.publish, List.length_append, List.length_singleton]
    omega
  complete := by
    intro polledBetween
    have fresh : log.published.length + 1 ∉ log.polled := by
      intro member
      have bound := faithful.bounded _ member
      omega
    have before : log.PolledBetween := by
      intro number positive below
      refine polledBetween number positive ?_
      simp only [Log.publish, List.length_append, List.length_singleton]
      omega
    have numbers := faithful.complete before
    change log.acceptedNumbers = _
    simp only [Log.publish, List.length_append, List.length_singleton,
      if_neg fresh, Nat.add_sub_cancel]
    rcases Nat.eq_zero_or_pos log.published.length with none | some
    · simpa [none] using numbers
    · have latest : log.published.length ∈ log.polled :=
        polledBetween log.published.length some
          (by simp [Log.publish])
      simpa [latest] using numbers

/-- The cell is on offer exactly when the two parities differ. -/
theorem offer_eq
    (faithful : Faithful box log) :
    box.offer =
      if log.published.length % 2 = log.accepted.length % 2 then
        none
      else
        log.published.getLast? := by
  have parity :
      (decide (log.published.length % 2 = 1) =
          decide (log.accepted.length % 2 = 1)) ↔
        log.published.length % 2 = log.accepted.length % 2 := by
    rcases Nat.mod_two_eq_zero_or_one log.published.length with
      left | left <;>
    rcases Nat.mod_two_eq_zero_or_one log.accepted.length with
      right | right <;>
    simp [left, right]
  rw [Mailbox.offer, faithful.cell, faithful.reader]
  cases latest : log.published.getLast? with
  | none => simp
  | some payload => simp [parity]

/-- Polling before a new poll restricts to the polls already recorded. -/
theorem polledBetween_of_poll
    {outcome : Option Payload}
    (polledBetween : (log.poll outcome).PolledBetween) :
    log.PolledBetween := by
  intro number positive below
  have member := polledBetween number positive below
  simp only [Log.poll, List.mem_append, List.mem_singleton] at member
  rcases member with old | latest
  · exact old
  · omega

/-- The number of accepted publications when none was skipped. -/
theorem accepted_length
    (faithful : Faithful box log)
    (polledBetween : log.PolledBetween) :
    log.accepted.length =
      if log.published.length ∈ log.polled then
        log.published.length
      else
        log.published.length - 1 := by
  have numbers :=
    congrArg List.length (faithful.complete polledBetween)
  simpa [Log.acceptedNumbers] using numbers

theorem bounded_poll
    (faithful : Faithful box log)
    (outcome : Option Payload) :
    ∀ number ∈ (log.poll outcome).polled,
      number ≤ log.published.length := by
  intro number member
  rcases List.mem_append.mp member with old | latest
  · exact faithful.bounded number old
  · exact (List.mem_singleton.mp latest).le

/-- A poll that takes nothing preserves the relation. -/
theorem poll_refused
    (faithful : Faithful box log)
    (refused : box.offer = none) :
    Faithful box.poll (log.poll none) where
  writer := faithful.writer
  reader := by
    simpa [Mailbox.poll, refused, Log.poll] using faithful.reader
  cell := faithful.cell
  ordered := by
    rw [Log.acceptedNumbers_poll_none]
    exact faithful.ordered
  genuine := by
    simpa [Log.poll] using faithful.genuine
  settled := by
    simpa [Log.acceptedNumbers, Log.poll] using faithful.settled
  bounded := faithful.bounded_poll none
  complete := by
    intro polledBetween
    have before := polledBetween_of_poll polledBetween
    have numbers := faithful.complete before
    have length := faithful.accepted_length before
    by_cases latest : log.published.length ∈ log.polled
    · simpa [Log.acceptedNumbers, Log.poll, latest] using numbers
    · rw [if_neg latest] at numbers length
      have nothing : log.published.length = 0 := by
        by_contra nonempty
        have parity :
            ¬ log.published.length % 2 = log.accepted.length % 2 := by
          omega
        rw [faithful.offer_eq, if_neg parity,
          List.getLast?_eq_none_iff] at refused
        exact nonempty (List.length_eq_zero_iff.mpr refused)
      simpa [Log.acceptedNumbers, Log.poll, nothing] using numbers

/-- What is on offer is the latest publication, and it is still untaken. -/
theorem offered
    (faithful : Faithful box log)
    {payload : Payload}
    (accepted : box.offer = some payload) :
    log.published.getLast? = some payload ∧
      ¬ log.published.length % 2 = log.accepted.length % 2 := by
  rw [faithful.offer_eq] at accepted
  split at accepted
  case isTrue => cases accepted
  case isFalse parity => exact ⟨accepted, parity⟩

/-- The number of the publication on offer exceeds all that were taken. -/
theorem lt_of_offered
    (faithful : Faithful box log)
    {payload : Payload}
    (accepted : box.offer = some payload)
    {number : ℕ}
    (member : number ∈ log.acceptedNumbers) :
    number < log.published.length := by
  refine lt_of_le_of_ne (faithful.accepted_le member) ?_
  rintro rfl
  exact (faithful.offered accepted).2 (faithful.settled member).symm

/-- If none was skipped before, the publication on offer is the next one. -/
theorem complete_accepted
    (faithful : Faithful box log)
    {payload : Payload}
    (accepted : box.offer = some payload)
    (polledBetween : log.PolledBetween) :
    log.acceptedNumbers ++ [log.published.length] =
      List.range' 1 log.published.length := by
  obtain ⟨latest, parity⟩ := faithful.offered accepted
  have numbers := faithful.complete polledBetween
  have length := faithful.accepted_length polledBetween
  have unpolled : log.published.length ∉ log.polled := by
    intro member
    rw [if_pos member] at length
    exact parity (by rw [length])
  rw [if_neg unpolled] at numbers
  have nonempty : log.published ≠ [] := by
    intro none
    simp [none] at latest
  obtain ⟨before, split⟩ :=
    Nat.exists_eq_succ_of_ne_zero
      (List.length_pos_iff.mpr nonempty).ne'
  rw [numbers, split, Nat.succ_eq_add_one, Nat.add_sub_cancel,
    List.range'_1_concat, Nat.add_comm before]

/-- A poll that takes the cell preserves the relation. -/
theorem poll_accepted
    (faithful : Faithful box log)
    {payload : Payload}
    (accepted : box.offer = some payload) :
    Faithful box.poll (log.poll (some payload)) where
  writer := faithful.writer
  reader := by
    rw [Mailbox.poll, accepted]
    simp only [faithful.reader, Log.poll, Option.map_some,
      Option.toList_some, List.length_append, List.length_singleton,
      Nat.succ_mod_two_eq_one_iff, ← Nat.mod_two_not_eq_zero,
      decide_not, Bool.not_not]
  cell := faithful.cell
  ordered := by
    rw [Log.acceptedNumbers_poll_some, List.pairwise_append]
    refine ⟨faithful.ordered, List.pairwise_singleton _ _, ?_⟩
    intro number member last lastMember
    rw [List.mem_singleton.mp lastMember]
    exact faithful.lt_of_offered accepted member
  genuine := by
    have latest := (faithful.offered accepted).1
    intro entry member
    simp only [Log.poll, Option.map_some, Option.toList_some,
      List.mem_append, List.mem_singleton] at member
    rcases member with old | rfl
    · exact faithful.genuine entry old
    · rw [List.getLast?_eq_getElem?] at latest
      refine ⟨?_, latest⟩
      by_contra none
      have empty : log.published = [] :=
        List.length_eq_zero_iff.mp (Nat.lt_one_iff.mp
          (Nat.lt_of_not_le none))
      simp [empty] at latest
  settled := by
    have parity := (faithful.offered accepted).2
    intro _
    simp only [Log.poll, Option.map_some, Option.toList_some,
      List.length_append, List.length_singleton]
    omega
  bounded := faithful.bounded_poll (some payload)
  complete := by
    intro polledBetween
    have polled :
        (log.poll (some payload)).published.length ∈
          (log.poll (some payload)).polled :=
      List.mem_append_right _ (List.mem_singleton_self _)
    rw [if_pos polled, Log.acceptedNumbers_poll_some]
    exact
      faithful.complete_accepted accepted
        (polledBetween_of_poll polledBetween)

/-- Polling preserves the relation. -/
theorem poll
    (faithful : Faithful box log) :
    Faithful box.poll (log.poll box.offer) := by
  cases outcome : box.offer with
  | none => exact faithful.poll_refused outcome
  | some payload => exact faithful.poll_accepted outcome

/--
When no publication was overwritten unpolled, every publication that was
polled was taken exactly once.
-/
theorem count_accepted
    (faithful : Faithful box log)
    (polledBetween : log.PolledBetween)
    {number : ℕ}
    (positive : 1 ≤ number)
    (polled : number ∈ log.polled) :
    log.acceptedNumbers.count number = 1 := by
  have bound := faithful.bounded number polled
  rw [faithful.complete polledBetween]
  refine List.count_eq_one_of_mem (List.nodup_range' 1) ?_
  rw [List.mem_range'_1]
  split
  case isTrue latest => omega
  case isFalse latest =>
      have below : number ≠ log.published.length := by
        rintro rfl
        exact latest polled
      omega

/-! ### Payloads -/

/-- The payloads taken are those of the numbers taken. -/
theorem accepted_payloads (faithful : Faithful box log) :
    log.accepted.map Prod.snd =
      log.acceptedNumbers.filterMap fun number =>
        log.published[number - 1]? := by
  have each :
      log.accepted.filterMap
          ((fun number => log.published[number - 1]?) ∘ Prod.fst) =
        log.accepted.filterMap (some ∘ Prod.snd) := by
    apply List.filterMap_congr
    intro entry member
    exact (faithful.genuine entry member).2
  rw [Log.acceptedNumbers, List.filterMap_map, each,
    List.filterMap_eq_map]

theorem filterMap_range'_getElem? (payloads : List Payload) :
    ((List.range' 1 payloads.length).filterMap fun number =>
        payloads[number - 1]?) =
      payloads := by
  induction payloads using List.reverseRecOn with
  | nil => rfl
  | append_singleton payloads last induction =>
      rw [List.length_append, List.length_singleton,
        List.range'_1_concat, List.filterMap_append]
      have before :
          ((List.range' 1 payloads.length).filterMap fun number =>
              (payloads ++ [last])[number - 1]?) =
            payloads := by
        refine Eq.trans ?_ induction
        apply List.filterMap_congr
        intro number member
        rw [List.mem_range'_1] at member
        exact List.getElem?_append_left (by omega)
      rw [before]
      simp

/-- Every publication is taken at most once. -/
theorem payloads_subperm (faithful : Faithful box log) :
    (log.accepted.map Prod.snd).Subperm log.published := by
  have numbers :
      log.acceptedNumbers.Subperm
        (List.range' 1 log.published.length) := by
    apply List.subperm_of_subset
    · exact faithful.ordered.imp ne_of_lt
    · intro number member
      have bound := faithful.accepted_le member
      rcases List.mem_map.mp member with ⟨entry, entryMember, rfl⟩
      have positive := (faithful.genuine entry entryMember).1
      rw [List.mem_range'_1]
      omega
  rw [faithful.accepted_payloads]
  conv => rhs; rw [← filterMap_range'_getElem? log.published]
  obtain ⟨middle, perm, sublist⟩ := numbers
  exact ⟨_, perm.filterMap _, sublist.filterMap _⟩

/-- If none was overwritten unpolled, every publication is taken. -/
theorem payloads_complete
    (faithful : Faithful box log)
    (polledBetween : log.PolledBetween)
    (latest :
      log.published ≠ [] → log.published.length ∈ log.polled) :
    log.accepted.map Prod.snd = log.published := by
  have numbers :
      log.acceptedNumbers = List.range' 1 log.published.length := by
    rw [faithful.complete polledBetween]
    split
    case isTrue => rfl
    case isFalse unpolled =>
        have nothing : log.published = [] := by
          by_contra some
          exact unpolled (latest some)
        rw [nothing]
        rfl
  rw [faithful.accepted_payloads, numbers, filterMap_range'_getElem?]

end Faithful

end Dagger.Lib.AlternatingMailbox
