import Mathlib.Algebra.Order.Ring.Nat
import Mathlib.Data.List.Induction

/-!
# Packed fields

A packed structure is a number whose digits are its fields.  `stack` puts
fields on top of each other, the first one in the low bits, below a number that
is already there.  `slice` reads a field back.  Two facts carry everything
else: a slice of a stack is the field that was put there, and a number is the
stack of its slices.

The same number may be declared in two ways.  A C structure is a sequence of
members, each of some bytes, in which bit-fields are allocated from the least
significant bit; a hardware structure lists its fields from the most
significant one.  A `Format` is a pair of such declarations, and it is
`Consistent` if each side reads what the other one has written.
-/

namespace Dagger.Lib.PackedFields

universe u

/-- A field: its width and its value. -/
abbrev Field : Type := Σ width, BitVec width

/-- The width of some fields together. -/
def width : List Field → ℕ
  | [] => 0
  | field :: rest => field.1 + width rest

/-- Some fields, the first one lowest, below a number. -/
def stack : List Field → ℕ → ℕ
  | [], above => above
  | field :: rest, above => field.2.toNat + 2 ^ field.1 * stack rest above

/-- The bits of a number from an offset on. -/
def slice (offset size value : ℕ) : BitVec size :=
  BitVec.ofNat size (value >>> offset)

/-- Consecutive slices of a number. -/
def slices : ℕ → List ℕ → ℕ → List Field
  | _, [], _ => []
  | offset, size :: sizes, value =>
      ⟨size, slice offset size value⟩ ::
        slices (offset + size) sizes value

/-! ## Stacks and slices -/

theorem width_append (first second : List Field) :
    width (first ++ second) = width first + width second := by
  induction first with
  | nil => exact (Nat.zero_add _).symm
  | cons field rest induction =>
      rw [List.cons_append, width, width, induction, Nat.add_assoc]

theorem stack_append (first second : List Field) (above : ℕ) :
    stack (first ++ second) above = stack first (stack second above) := by
  induction first with
  | nil => rfl
  | cons field rest induction =>
      rw [List.cons_append, stack, stack, induction]

/-- What is above some fields starts at their width. -/
theorem stack_eq (fields : List Field) (above : ℕ) :
    stack fields above =
      stack fields 0 + 2 ^ width fields * above := by
  induction fields with
  | nil => simp [stack, width]
  | cons field rest induction =>
      rw [stack, induction, stack, width, Nat.pow_add, Nat.mul_add,
        Nat.add_assoc, Nat.mul_assoc]

theorem stack_lt (fields : List Field) :
    stack fields 0 < 2 ^ width fields := by
  induction fields with
  | nil => exact Nat.one_pos
  | cons field rest induction =>
      have small := field.2.isLt
      calc
        field.2.toNat + 2 ^ field.1 * stack rest 0 <
            2 ^ field.1 * (stack rest 0 + 1) := by
          rw [Nat.mul_succ]
          omega
        _ ≤ 2 ^ field.1 * 2 ^ width rest :=
          Nat.mul_le_mul_left _ induction
        _ = 2 ^ width (field :: rest) := (Nat.pow_add _ _ _).symm

/-- The low bits of a stack do not depend on what is above. -/
theorem stack_mod (fields : List Field) (above : ℕ) :
    stack fields above % 2 ^ width fields = stack fields 0 := by
  rw [stack_eq, Nat.add_mul_mod_self_left,
    Nat.mod_eq_of_lt (stack_lt fields)]

/-- A slice does not depend on the bits above it. -/
theorem slice_mod
    {low wide size : ℕ}
    (inside : low + wide ≤ size)
    (value : ℕ) :
    slice low wide (value % 2 ^ size) = slice low wide value := by
  refine BitVec.eq_of_getLsbD_eq fun index small => ?_
  have covered : low + index < size := by omega
  rw [slice, slice, BitVec.getLsbD_ofNat, BitVec.getLsbD_ofNat,
    Nat.testBit_shiftRight, Nat.testBit_shiftRight,
    Nat.testBit_mod_two_pow, decide_eq_true covered, Bool.true_and]

/-- Part of a bit vector. -/
theorem extractLsb'_eq_slice
    {size : ℕ}
    (vector : BitVec size)
    (offset wide : ℕ) :
    vector.extractLsb' offset wide = slice offset wide vector.toNat :=
  rfl

/-- A slice of a slice. -/
theorem slice_slice
    {low wide size : ℕ}
    (inside : low + wide ≤ size)
    (offset value : ℕ) :
    slice low wide (slice offset size value).toNat =
      slice (offset + low) wide value := by
  rw [slice, slice, BitVec.toNat_ofNat, ← slice, slice_mod inside,
    slice, slice, Nat.shiftRight_add]

/-- Slices above the lowest field. -/
theorem slice_add
    {size : ℕ}
    (value : BitVec size)
    (offset other rest : ℕ) :
    slice (size + offset) other (value.toNat + 2 ^ size * rest) =
      slice offset other rest := by
  have shifted : (value.toNat + 2 ^ size * rest) >>> size = rest := by
    rw [Nat.shiftRight_eq_div_pow,
      Nat.add_mul_div_left _ _ (Nat.two_pow_pos size),
      Nat.div_eq_of_lt value.isLt, Nat.zero_add]
  rw [slice, Nat.shiftRight_add, shifted]
  rfl

/-- A slice of a stack is the field at its place. -/
theorem slice_stack
    (below : List Field)
    {size : ℕ}
    (value : BitVec size)
    (rest : ℕ) :
    slice (width below) size
        (stack below (value.toNat + 2 ^ size * rest)) =
      value := by
  induction below with
  | nil =>
      refine BitVec.eq_of_toNat_eq ?_
      change (value.toNat + 2 ^ size * rest) % 2 ^ size = _
      rw [Nat.add_mul_mod_self_left, Nat.mod_eq_of_lt value.isLt]
  | cons field below induction =>
      exact (slice_add field.2 (width below) size _).trans induction

/-- The slices of a stack are the fields that were put there. -/
theorem slices_stack
    (below fields : List Field)
    (above : ℕ) :
    slices (width below) (fields.map Sigma.fst)
        (stack below (stack fields above)) =
      fields := by
  induction fields generalizing below with
  | nil => rfl
  | cons field rest induction =>
      have lowest :=
        slice_stack below field.2 (stack rest above)
      have others := induction (below ++ [field])
      rw [width_append, stack_append] at others
      exact congrArg₂ List.cons (congrArg (Sigma.mk _) lowest) others

/-- A number is the stack of its slices. -/
theorem stack_slices (offset : ℕ) (sizes : List ℕ) (value : ℕ) :
    stack (slices offset sizes value)
        (value >>> (offset + sizes.sum)) =
      value >>> offset := by
  induction sizes generalizing offset with
  | nil => rfl
  | cons size sizes induction =>
      rw [slices, stack, List.sum_cons, ← Nat.add_assoc, induction,
        slice, BitVec.toNat_ofNat, Nat.shiftRight_add,
        Nat.shiftRight_eq_div_pow (value >>> offset)]
      exact Nat.mod_add_div _ _

theorem stack_slices_zero (sizes : List ℕ) (value : ℕ) :
    stack (slices 0 sizes value) (value >>> sizes.sum) = value := by
  have whole := stack_slices 0 sizes value
  rwa [Nat.zero_add] at whole

/-! ## Bytes -/

/-- The low bytes of a number, the least significant one first. -/
def bytes : ℕ → ℕ → List (BitVec 8)
  | 0, _ => []
  | size + 1, value => BitVec.ofNat 8 value :: bytes size (value >>> 8)

/-- A byte as a field. -/
def byteField (byte : BitVec 8) : Field :=
  ⟨8, byte⟩

/-- The number that some bytes are, the least significant one first. -/
def littleEndian (memory : List (BitVec 8)) : ℕ :=
  stack (memory.map byteField) 0

theorem width_byteFields (memory : List (BitVec 8)) :
    width (memory.map byteField) = 8 * memory.length := by
  induction memory with
  | nil => rfl
  | cons byte memory induction =>
      rw [List.map_cons, width, induction, List.length_cons,
        Nat.mul_succ, Nat.add_comm]
      rfl

@[simp]
theorem length_bytes (size value : ℕ) :
    (bytes size value).length = size := by
  induction size generalizing value with
  | zero => rfl
  | succ size induction => rw [bytes, List.length_cons, induction]

/-- The bytes of a number are slices of it. -/
theorem getElem_bytes
    {size index : ℕ}
    (value : ℕ)
    (inside : index < (bytes size value).length) :
    (bytes size value)[index] = slice (8 * index) 8 value := by
  induction size generalizing index value with
  | zero => exact absurd inside (Nat.not_lt_zero index)
  | succ size induction =>
      cases index with
      | zero => rfl
      | succ index =>
          have smaller : index < (bytes size (value >>> 8)).length := by
            rw [length_bytes] at inside ⊢
            omega
          refine (induction (value >>> 8) smaller).trans ?_
          rw [slice, slice, ← Nat.shiftRight_add, Nat.add_comm,
            ← Nat.mul_succ]

/-- A number is its low bytes and what is above them. -/
theorem stack_bytes (size value : ℕ) :
    stack ((bytes size value).map byteField) (value >>> (8 * size)) =
      value := by
  induction size generalizing value with
  | zero => rfl
  | succ size induction =>
      have rest := induction (value >>> 8)
      rw [← Nat.shiftRight_add, Nat.add_comm, ← Nat.mul_succ] at rest
      rw [bytes, List.map_cons, stack, rest, byteField,
        BitVec.toNat_ofNat, Nat.shiftRight_eq_div_pow]
      exact Nat.mod_add_div _ _

theorem littleEndian_bytes (size value : ℕ) :
    littleEndian (bytes size value) = value % 2 ^ (8 * size) := by
  have low :=
    stack_mod ((bytes size value).map byteField)
      (value >>> (8 * size))
  rw [stack_bytes, width_byteFields, length_bytes] at low
  exact low.symm

/-- The bytes of a number are read back. -/
theorem bytes_stack (memory : List (BitVec 8)) (above : ℕ) :
    bytes memory.length (stack (memory.map byteField) above) =
      memory := by
  induction memory with
  | nil => rfl
  | cons byte memory induction =>
      have low :
          slice 0 8
              (byte.toNat +
                2 ^ 8 * stack (memory.map byteField) above) =
            byte :=
        slice_stack [] byte _
      have high :
          (byte.toNat + 2 ^ 8 * stack (memory.map byteField) above) >>>
              8 =
            stack (memory.map byteField) above := by
        have small := byte.isLt
        rw [Nat.shiftRight_eq_div_pow]
        omega
      rw [List.map_cons, stack, List.length_cons, bytes, byteField,
        high, induction]
      exact congrArg (· :: memory) low

/-- The number of a memory fits into its bits. -/
theorem toNat_littleEndian (memory : List (BitVec 8)) :
    (BitVec.ofNat (8 * memory.length) (littleEndian memory)).toNat =
      littleEndian memory := by
  have small := stack_lt (memory.map byteField)
  rw [width_byteFields] at small
  rw [BitVec.toNat_ofNat]
  exact Nat.mod_eq_of_lt small

/-- Memory of a known size is determined by its number. -/
theorem littleEndian_inj
    {first second : List (BitVec 8)}
    (lengths : first.length = second.length)
    (numbers : littleEndian first = littleEndian second) :
    first = second := by
  have read := bytes_stack first 0
  rw [← littleEndian, numbers, lengths, littleEndian, bytes_stack]
    at read
  exact read.symm

theorem littleEndian_append (first second : List (BitVec 8)) :
    littleEndian (first ++ second) =
      stack (first.map byteField) (littleEndian second) := by
  rw [littleEndian, List.map_append, stack_append]
  rfl

/-! ## Members of a C structure -/

/-- A member: the bytes it takes and its bit-fields, lowest first. -/
structure Member where
  size : ℕ
  fields : List Field

/-- The bytes of a member. -/
def Member.bytes (member : Member) : List (BitVec 8) :=
  PackedFields.bytes member.size (stack member.fields 0)

/-- The fields of a member fill its bytes. -/
def Member.Filled (member : Member) : Prop :=
  width member.fields = 8 * member.size

/-- The bytes of a structure. -/
def structBytes (members : List Member) : List (BitVec 8) :=
  members.flatMap Member.bytes

/-- The fields of a structure. -/
def structFields (members : List Member) : List Field :=
  members.flatMap Member.fields

theorem Member.Filled.stack_bytes
    {member : Member}
    (filled : member.Filled)
    (above : ℕ) :
    stack (member.bytes.map byteField) above =
      stack member.fields above := by
  have low :=
    littleEndian_bytes member.size (stack member.fields 0)
  rw [← filled, stack_mod] at low
  rw [stack_eq, stack_eq member.fields, filled, width_byteFields,
    Member.bytes, length_bytes]
  exact congrArg (· + _) low

/-- A structure in memory is the stack of its fields. -/
theorem stack_structBytes
    {members : List Member}
    (filled : ∀ member ∈ members, member.Filled)
    (above : ℕ) :
    stack ((structBytes members).map byteField) above =
      stack (structFields members) above := by
  induction members with
  | nil => rfl
  | cons member rest induction =>
      have others :=
        induction fun other found =>
          filled other (List.mem_cons_of_mem member found)
      rw [structBytes, structFields, List.flatMap_cons,
        List.flatMap_cons, List.map_append, stack_append,
        stack_append,
        (filled member List.mem_cons_self).stack_bytes]
      exact congrArg (stack member.fields) others

/-- A member is loaded from its bytes. -/
def loadMember (memory : List (BitVec 8)) (offset size : ℕ) : ℕ :=
  littleEndian ((memory.drop offset).take size)

/-- A bit-field of a loaded member is a slice of the memory. -/
theorem slice_loadMember
    {memory : List (BitVec 8)}
    {offset size low wide : ℕ}
    (inMemory : offset + size ≤ memory.length)
    (inMember : low + wide ≤ 8 * size) :
    slice low wide (loadMember memory offset size) =
      slice (8 * offset + low) wide (littleEndian memory) := by
  have parts :
      memory =
        memory.take offset ++
          ((memory.drop offset).take size ++
            (memory.drop offset).drop size) := by
    rw [List.take_append_drop, List.take_append_drop]
  have above :
      littleEndian memory >>> (8 * offset) =
        stack (((memory.drop offset).take size).map byteField)
          (littleEndian ((memory.drop offset).drop size)) := by
    have before :
        width ((memory.take offset).map byteField) = 8 * offset := by
      rw [width_byteFields, List.length_take]
      omega
    rw [congrArg littleEndian parts, littleEndian_append,
      littleEndian_append, stack_eq, before,
      Nat.shiftRight_eq_div_pow,
      Nat.add_mul_div_left _ _ (Nat.two_pow_pos _),
      Nat.div_eq_of_lt (before ▸ stack_lt _), Nat.zero_add]
  have wideMember :
      width (((memory.drop offset).take size).map byteField) =
        8 * size := by
    rw [width_byteFields, List.length_take, List.length_drop]
    omega
  have member :
      loadMember memory offset size =
        (littleEndian memory >>> (8 * offset)) % 2 ^ (8 * size) := by
    rw [above, ← wideMember, stack_mod]
    rfl
  rw [member, slice_mod inMember, slice, slice, Nat.shiftRight_add]

/-- Without unnamed bits a structure ends with its last field. -/
theorem stack_unnamed_zero (rest : BitVec 0) (above : ℕ) :
    stack [⟨0, rest⟩] above = above := by
  change rest.toNat + 2 ^ 0 * above = above
  rw [Nat.lt_one_iff.mp rest.isLt, Nat.zero_add, Nat.pow_zero,
    Nat.one_mul]

/-! ## Packed hardware structures -/

/-- The number that a packed structure is, its first field highest. -/
def packed (declared : List Field) : ℕ :=
  declared.foldl
    (fun high field => high * 2 ^ field.1 + field.2.toNat) 0

/-- The last field of a packed structure is the lowest. -/
theorem packed_eq_stack (declared : List Field) :
    packed declared = stack declared.reverse 0 := by
  induction declared using List.reverseRecOn with
  | nil => rfl
  | append_singleton declared field induction =>
      rw [packed, List.foldl_append, ← packed, induction,
        List.reverse_append]
      change _ * 2 ^ field.1 + field.2.toNat = stack (field :: _) 0
      rw [stack, Nat.mul_comm, Nat.add_comm]
      rfl

/-- The fields of a packed structure are read back, the lowest one first. -/
theorem slices_packed
    {size : ℕ}
    (declared : List Field)
    (fits : width declared.reverse = size) :
    slices 0 (declared.reverse.map Sigma.fst)
        (BitVec.ofNat size (packed declared)).toNat =
      declared.reverse := by
  rw [BitVec.toNat_ofNat, packed_eq_stack,
    Nat.mod_eq_of_lt (fits ▸ stack_lt _)]
  exact slices_stack [] declared.reverse 0

/-! ## Formats -/

/--
A format that is declared twice.  The C structure may end with bits that no
field names.  Both readers take their fields from one number.
-/
structure Format (Value : Type u) where
  /-- The size of the C structure in bytes. -/
  size : ℕ
  /-- The number of bits of the C structure that have no name. -/
  unnamed : ℕ
  /-- The members of the C structure. -/
  members : Value → BitVec unnamed → List Member
  /-- The C structure is read from memory. -/
  load : List (BitVec 8) → Value
  /-- The number of bits of the packed structure. -/
  bits : ℕ
  /-- The fields of the packed structure. -/
  declared : Value → List Field
  /-- The packed structure is read from a bit vector. -/
  select : BitVec bits → Value
  /-- The value that a number stands for. -/
  ofNumber : ℕ → Value
  size_eq : 8 * size = bits + unnamed
  filled :
    ∀ value rest, ∀ member ∈ members value rest, member.Filled
  width_eq : ∀ value, width (declared value).reverse = bits
  members_eq :
    ∀ value rest above,
      stack (structFields (members value rest)) above =
        stack (declared value).reverse (stack [⟨unnamed, rest⟩] above)
  length_eq :
    ∀ value rest, (structBytes (members value rest)).length = size
  ofNumber_stack :
    ∀ value above,
      ofNumber (stack (declared value).reverse above) = value
  stack_ofNumber :
    ∀ number,
      stack (declared (ofNumber number)).reverse (number >>> bits) =
        number
  select_eq : ∀ vector, select vector = ofNumber vector.toNat
  load_eq :
    ∀ memory,
      memory.length = size →
      load memory = ofNumber (littleEndian memory)

namespace Format

variable
    {Value : Type u}
    (format : Format Value)

/-- The C structure in memory. -/
def toBytes (value : Value) (rest : BitVec format.unnamed) :
    List (BitVec 8) :=
  structBytes (format.members value rest)

/-- The packed structure as a bit vector. -/
def toBits (value : Value) : BitVec format.bits :=
  BitVec.ofNat format.bits (packed (format.declared value))

/--
The two declarations decode each other.  What C has written is read from the
low bits of its memory; what the hardware has written is read from the memory
that holds it, whatever the bits above are; and nothing else is written.
-/
structure Consistent : Prop where
  select_toBytes :
    ∀ value rest,
      format.select
          (BitVec.ofNat format.bits
            (littleEndian (format.toBytes value rest))) =
        value
  load_toBits :
    ∀ value above,
      format.load
          (bytes format.size
            ((format.toBits value).toNat +
              2 ^ format.bits * above)) =
        value
  toBits_select :
    ∀ vector, format.toBits (format.select vector) = vector
  toBytes_load :
    ∀ memory,
      memory.length = format.size →
      ∃ rest, format.toBytes (format.load memory) rest = memory

theorem littleEndian_toBytes
    (value : Value)
    (rest : BitVec format.unnamed) :
    littleEndian (format.toBytes value rest) =
      stack (format.declared value).reverse rest.toNat := by
  rw [littleEndian, toBytes,
    stack_structBytes (format.filled value rest), format.members_eq]
  rfl

theorem toNat_toBits (value : Value) :
    (format.toBits value).toNat =
      stack (format.declared value).reverse 0 := by
  rw [toBits, packed_eq_stack, BitVec.toNat_ofNat]
  refine Nat.mod_eq_of_lt ?_
  rw [← format.width_eq value]
  exact stack_lt _

theorem stack_mod_bits (value : Value) (above : ℕ) :
    stack (format.declared value).reverse above % 2 ^ format.bits =
      stack (format.declared value).reverse 0 := by
  rw [← format.width_eq value]
  exact stack_mod _ _

theorem consistent : format.Consistent where
  select_toBytes := by
    intro value rest
    rw [format.select_eq, BitVec.toNat_ofNat,
      format.littleEndian_toBytes, format.stack_mod_bits]
    exact format.ofNumber_stack value 0
  load_toBits := by
    intro value above
    rw [format.load_eq _ (length_bytes _ _), littleEndian_bytes,
      format.toNat_toBits, ← format.width_eq value, ← stack_eq]
    have short :
        stack (format.declared value).reverse above %
            2 ^ (8 * format.size) =
          stack (format.declared value).reverse
            (above % 2 ^ format.unnamed) := by
      rw [stack_eq, stack_eq _ (above % _), format.width_eq,
        format.size_eq, Nat.pow_add,
        Nat.mod_mul, Nat.add_mul_mod_self_left,
        Nat.mod_eq_of_lt (format.width_eq value ▸ stack_lt _),
        Nat.add_mul_div_left _ _ (Nat.two_pow_pos _),
        Nat.div_eq_of_lt (format.width_eq value ▸ stack_lt _),
        Nat.zero_add]
    rw [short]
    exact format.ofNumber_stack value _
  toBits_select := by
    intro vector
    refine BitVec.eq_of_toNat_eq ?_
    have whole := format.stack_ofNumber vector.toNat
    rw [Nat.shiftRight_eq_div_pow, Nat.div_eq_of_lt vector.isLt]
      at whole
    rw [format.toNat_toBits, format.select_eq, whole]
  toBytes_load := by
    intro memory size
    have whole := format.stack_ofNumber (littleEndian memory)
    have small : littleEndian memory < 2 ^ (8 * format.size) := by
      rw [← size, ← width_byteFields]
      exact stack_lt _
    have rest :
        littleEndian memory >>> format.bits < 2 ^ format.unnamed := by
      rw [Nat.shiftRight_eq_div_pow]
      refine Nat.div_lt_of_lt_mul ?_
      rwa [← Nat.pow_add, ← format.size_eq]
    refine
      ⟨BitVec.ofNat format.unnamed
        (littleEndian memory >>> format.bits), ?_⟩
    refine
      littleEndian_inj ((format.length_eq _ _).trans size.symm) ?_
    rw [format.littleEndian_toBytes, BitVec.toNat_ofNat,
      Nat.mod_eq_of_lt rest, format.load_eq memory size, whole]

end Format

end Dagger.Lib.PackedFields
