import Mathlib.Algebra.Order.Ring.Nat

/-!
# Shared buffers

`alloc_buffer` maps memory that both the host and the NIC can access.  It gives
up when one page is not enough.  The caller may ask for the buffer not to begin
at the start of the page; both views of the buffer are moved by the same
offset, which has to fit behind it.

Sizes are of type `size_t` and wrap around.
-/

namespace Dagger.Nic.SharedBuffer

/-- A value of type `size_t`. -/
def sizeT (value : ℕ) : ℕ :=
  value % 2 ^ 64

theorem sizeT_of_lt
    {value : ℕ}
    (small : value < 2 ^ 64) :
    sizeT value = value :=
  Nat.mod_eq_of_lt small

/-- Wrapping around keeps whole lines whole. -/
theorem dvd_sizeT
    {value : ℕ}
    (divides : 64 ∣ value) :
    64 ∣ sizeT value :=
  (Nat.dvd_mod_iff (by decide)).mpr divides

/-- `cl_size_bytes`. -/
def clSizeBytes : ℕ := 64

/-- `llc_anti_aliasing_offset`. -/
def llcAntiAliasingOffset : ℕ := 4 * 1024

/-- What the operating system and the FPGA library answer. -/
structure Host where
  /-- `get_page_size`. -/
  pageSize : ℕ
  /-- The address that `mmap` returns. -/
  mmap : Option ℕ
  /-- Whether `fpgaPrepareBuffer` succeeds. -/
  prepareBuffer : Bool
  /-- The address that `fpgaGetIOAddress` returns. -/
  ioAddress : ℕ

/-- `round_up_to_pagesize`. -/
def roundUpToPagesize (pageSize val : ℕ) : ℕ :=
  if val % pageSize = 0 then val
  else sizeT (val + pageSize - val % pageSize)

/-- A buffer, as the host and as the NIC see it. -/
structure Shared where
  buf : ℕ
  ioAddr : ℕ

/--
`alloc_buffer`.  A call that fails returns no buffer; what it leaves at
`io_addr` is the page's address if only the offset does not fit.
-/
def allocBuffer
    (host : Host)
    (ioAddr size llcAntiAliasing : ℕ) :
    Except ℕ Shared :=
  let memSize := roundUpToPagesize host.pageSize size
  let memPages := memSize / host.pageSize
  if 1 < memPages then
    .error ioAddr
  else
    match host.mmap with
    | none => .error ioAddr
    | some buf =>
        if 0 < memPages && !host.prepareBuffer then
          .error ioAddr
        else
          let aaOffsetBytes :=
            sizeT (llcAntiAliasing * llcAntiAliasingOffset)
          if memSize < sizeT (size + aaOffsetBytes) then
            .error host.ioAddress
          else
            .ok
              { buf := buf + aaOffsetBytes
                ioAddr := sizeT (host.ioAddress + aaOffsetBytes) }

/-- The bytes that the buffer is moved by. -/
def aaOffsetBytes (llcAntiAliasing : ℕ) : ℕ :=
  sizeT (llcAntiAliasing * llcAntiAliasingOffset)

/-- What is known of a buffer that has been allocated. -/
theorem allocBuffer_eq_ok
    {host : Host}
    {ioAddr size llcAntiAliasing : ℕ}
    {shared : Shared}
    (allocated :
      allocBuffer host ioAddr size llcAntiAliasing = .ok shared) :
    ∃ address,
      host.mmap = some address ∧
      shared.buf = address + aaOffsetBytes llcAntiAliasing ∧
      roundUpToPagesize host.pageSize size / host.pageSize ≤ 1 ∧
      sizeT (size + aaOffsetBytes llcAntiAliasing) ≤
        roundUpToPagesize host.pageSize size := by
  unfold allocBuffer at allocated
  simp only at allocated
  split at allocated
  · cases allocated
  · next onePage =>
      cases mapped : host.mmap with
      | none =>
          rw [mapped] at allocated
          cases allocated
      | some address =>
          rw [mapped] at allocated
          simp only at allocated
          split at allocated
          · cases allocated
          · split at allocated
            · cases allocated
            · next fits =>
                cases allocated
                exact
                  ⟨address, rfl, rfl, Nat.le_of_not_lt onePage,
                    Nat.le_of_not_lt fits⟩

end Dagger.Nic.SharedBuffer
