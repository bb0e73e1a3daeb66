import MakeTen.Proofs.Bytecode.Boundaries
/-!
# Three ways of reading

A code can be disassembled at once, swept one instruction after the other, and read at
any offset.  The three agree.  A sweep gives out the instructions into which the code
falls and then, if there is a remnant, its fault; whatever number of calls is made, it
gives out nothing behind them.  Each of its steps is a reading at the offset where the
step before has ended, and a reading at an offset is the first step of a sweep that
starts there.

Main results:

- Theorem `Instruction.WellFormed.at?_eq`: an instruction is read where its bytes stand,
  whatever is around them.
- Predicate `Sweep.Yields`: what all calls from some state on give.
- Theorem `FallsInto.next_of_cons`: what one call gives in front of an instruction.
- Theorem `FallsInto.yields`: a sweep gives out the instructions of a code and the fault
  of its remnant.
- Theorem `FallsInto.isPrefix_of_disassemble`: a sweep gets as far as any part of the
  code at its front decodes.
- Theorem `three_readings_agree`: the three ways side by side.
-/

namespace MakeTen

/-! ## Reading at an offset -/

/-- The offset that an item of a sweep is about. -/
def itemPc : Except DecodeFault Instruction → Nat
  | .ok i => i.pc
  | .error (.truncatedOperand pc _ _) => pc
  | .error (.outOfBounds pc _) => pc

/-- An item as seen from code with `base` more bytes in front. -/
def rebaseItem (base : Nat) : Except DecodeFault Instruction → Except DecodeFault Instruction
  | .ok i => .ok (i.rebase base)
  | .error fault => .error (fault.rebase base)

namespace Instruction

/-- Reading does not know where it stands. -/
theorem read_add (base pc : Nat) (opcode : UInt8) (data : List UInt8) :
    read (base + pc) opcode data = rebaseItem base (read pc opcode data) := by
  by_cases h : data.length < (Mnemonic.ofByte opcode).immediateLength
  · rw [read_of_short h, read_of_short h]
    rfl
  · have henough := Nat.le_of_not_lt h
    rw [read_eq_ok_iff.2 ⟨henough, rfl⟩, read_eq_ok_iff.2 ⟨henough, rfl⟩]
    rfl

/-- Behind the end of a code nothing is read. -/
theorem at?_of_length_le {code : List UInt8} {pc : Nat} (h : code.length ≤ pc) :
    at? code pc = .error (.outOfBounds pc code.length) := by
  rw [at?, List.drop_eq_nil_of_le h]

/-- At an offset of a code, the bytes from there on are read. -/
theorem at?_append_cons (front : List UInt8) (opcode : UInt8) (data : List UInt8) :
    at? (front ++ opcode :: data) front.length = read front.length opcode data := by
  rw [at?, List.drop_left]

/-- An instruction is read where its bytes stand, whatever is around them. -/
theorem WellFormed.at?_eq {i : Instruction} (h : i.WellFormed) {front : List UInt8}
    (hfront : front.length = i.pc) (back : List UInt8) :
    at? (front ++ (i.bytes ++ back)) i.pc = .ok i := by
  rw [bytes, List.cons_append, ← hfront, at?_append_cons, hfront]
  exact h.read_eq back

/-- An instruction that is read at an offset is well formed and starts there. -/
theorem wellFormed_of_at? {code : List UInt8} {pc : Nat} {i : Instruction}
    (h : at? code pc = .ok i) : i.WellFormed ∧ i.pc = pc := by
  unfold at? at h
  split at h
  · cases h
  · exact ⟨wellFormed_of_read h, pc_of_read h⟩

end Instruction

/-! ## Steps of a sweep -/

namespace Sweep

/-- The items of a sweep through instructions that may end with a fault. -/
def items (is : List Instruction) (fault : Option DecodeFault) :
    List (Except DecodeFault Instruction) :=
  is.map .ok ++ fault.toList.map .error

@[simp]
theorem length_items (is : List Instruction) (fault : Option DecodeFault) :
    (items is fault).length = is.length + fault.toList.length := by
  simp [items]

/-- However many calls are made from this state on, they give these items one after the
other, and then nothing any more. -/
def Yields (s : Sweep) (items : List (Except DecodeFault Instruction)) : Prop :=
  ∀ n, s.take n = (List.range n).map fun k => items[k]?

/-- At its end and after a fault, a sweep stays where it is. -/
theorem next_of_ended {s : Sweep} (h : s.failed = true ∨ s.code.length ≤ s.cursor) :
    s.next = (none, s) := by
  unfold next
  exact if_pos h

theorem next_of_ok {s : Sweep} {i : Instruction} (hfailed : s.failed = false)
    (h : Instruction.at? s.code s.cursor = .ok i) :
    s.next = (some (.ok i), { s with cursor := i.nextPc }) := by
  have hopen : ¬ (s.failed = true ∨ s.code.length ≤ s.cursor) := by
    rintro (hend | hend)
    · simp [hfailed] at hend
    · rw [Instruction.at?_of_length_le hend] at h
      cases h
  unfold next
  rw [if_neg hopen, h]

theorem next_of_error {s : Sweep} {fault : DecodeFault} (hfailed : s.failed = false)
    (hcursor : s.cursor < s.code.length) (h : Instruction.at? s.code s.cursor = .error fault) :
    s.next = (some (.error fault), { s with failed := true }) := by
  have hopen : ¬ (s.failed = true ∨ s.code.length ≤ s.cursor) := by
    rintro (hend | hend)
    · simp [hfailed] at hend
    · omega
  unfold next
  rw [if_neg hopen, h]

/-- A call in front of an opcode byte without all its data gives the fault. -/
theorem next_of_cut {front data : List UInt8} {opcode : UInt8}
    (hshort : data.length < (Mnemonic.ofByte opcode).immediateLength) :
    next ⟨front ++ opcode :: data, front.length, false⟩ =
      (some (.error (.truncatedOperand front.length (Mnemonic.ofByte opcode).immediateLength
          data.length)),
        ⟨front ++ opcode :: data, front.length, true⟩) := by
  have hread := Instruction.at?_append_cons front opcode data
  rw [Instruction.read_of_short hshort] at hread
  have hcursor : front.length < (front ++ opcode :: data).length := by
    rw [List.length_append, List.length_cons]
    omega
  exact next_of_error rfl hcursor hread

/-- The first item of a sweep is what is read at offset zero. -/
theorem next_start {code : List UInt8} (h : code ≠ []) :
    (start code).next.1 = some (Instruction.at? code 0) := by
  have hcursor : 0 < code.length := List.length_pos_iff.2 h
  cases hread : Instruction.at? code 0 with
  | ok i => rw [next_of_ok rfl hread]
  | error fault => rw [next_of_error rfl hcursor hread]

/-- Nothing is given at the end. -/
theorem yields_nil {s : Sweep} (h : s.failed = true ∨ s.code.length ≤ s.cursor) :
    s.Yields [] := by
  intro n
  induction n with
  | zero => rfl
  | succ n ih =>
    rw [take, next_of_ended h, ih, List.range_succ_eq_map, List.map_cons, List.map_map]
    rfl

/-- A call that gives an item comes before those from the state that it leaves. -/
theorem Yields.cons {s s' : Sweep} {item : Except DecodeFault Instruction}
    {items : List (Except DecodeFault Instruction)} (hnext : s.next = (some item, s'))
    (h : s'.Yields items) : s.Yields (item :: items) := by
  intro n
  cases n with
  | zero => rfl
  | succ n =>
    rw [take, hnext, h n, List.range_succ_eq_map, List.map_cons, List.map_map]
    rfl

end Sweep

/-! ## A whole sweep -/

/-- Every instruction takes a byte at least. -/
theorem length_le_length_assemble (is : List Instruction) :
    is.length ≤ (assemble is).length := by
  induction is with
  | nil => exact Nat.le_refl 0
  | cons i is ih =>
    have hsize := i.size_pos
    rw [assemble_cons, List.length_append, Instruction.length_bytes, List.length_cons]
    omega

/-- The fault of a remnant at an offset; an empty remnant has none. -/
def remnantFault? (pc : Nat) : List UInt8 → Option DecodeFault
  | [] => none
  | opcode :: data =>
    some (.truncatedOperand pc (Mnemonic.ofByte opcode).immediateLength data.length)

namespace FallsInto

/-- A call in front of an instruction gives it, and leaves the sweep behind its bytes. -/
theorem next_of_cons {front code rest : List UInt8} {i : Instruction} {is : List Instruction}
    (h : FallsInto front.length code (i :: is) rest) :
    Sweep.next ⟨front ++ code, front.length, false⟩ =
      (some (.ok i),
        ⟨front ++ i.bytes ++ (assemble is ++ rest), (front ++ i.bytes).length, false⟩) := by
  obtain ⟨hi, hpc, _⟩ := h.contiguous
  have hcode : code = i.bytes ++ (assemble is ++ rest) := by
    rw [h.code_eq, assemble_cons, List.append_assoc]
  have hread : Instruction.at? (front ++ code) front.length = .ok i := by
    rw [hcode, ← hpc]
    exact hi.at?_eq hpc.symm _
  have hend : (front ++ i.bytes).length = i.nextPc := by
    rw [List.length_append, Instruction.length_bytes, ← hpc, Instruction.nextPc]
  rw [Sweep.next_of_ok rfl hread, hend, List.append_assoc, ← hcode]

/-- Behind its first instruction, a code falls into the others. -/
theorem tail {front code rest : List UInt8} {i : Instruction} {is : List Instruction}
    (h : FallsInto front.length code (i :: is) rest) :
    FallsInto (front ++ i.bytes).length (assemble is ++ rest) is rest where
  contiguous := by
    obtain ⟨_, hpc, his⟩ := h.contiguous
    rwa [List.length_append, Instruction.length_bytes, ← hpc]
  remnant := h.remnant
  code_eq := rfl

/-- A sweep gives out the instructions of a code and then the fault of its remnant. -/
theorem yields {front code rest : List UInt8} {is : List Instruction}
    (h : FallsInto front.length code is rest) :
    Sweep.Yields ⟨front ++ code, front.length, false⟩
      (Sweep.items is (remnantFault? (front.length + (assemble is).length) rest)) := by
  -- Each call leaves a sweep of the same kind, with one more instruction in front of it.
  induction is generalizing front code with
  | nil =>
    obtain rfl : code = rest := h.code_eq
    cases h.remnant with
    | empty =>
      apply Sweep.yields_nil
      right
      simp
    | cut hshort =>
      apply Sweep.Yields.cons (Sweep.next_of_cut hshort)
      apply Sweep.yields_nil
      left
      rfl
  | cons i is ih =>
    have hafter := ih h.tail
    have hend : (front ++ i.bytes).length + (assemble is).length =
        front.length + (assemble (i :: is)).length := by
      rw [assemble_cons, List.length_append, List.length_append, Nat.add_assoc]
    rw [hend] at hafter
    exact Sweep.Yields.cons h.next_of_cons hafter

/-- Disassembly succeeds with the instructions if the remnant has no fault. -/
theorem decodes_iff {code rest : List UInt8} {is js : List Instruction}
    (h : FallsInto 0 code is rest) :
    disassemble code = .ok js ↔ js = is ∧ remnantFault? (assemble is).length rest = none := by
  rw [disassemble_eq_ok_iff_fallsInto]
  constructor
  · intro hjs
    obtain ⟨rfl, rfl⟩ := h.unique hjs
    exact ⟨rfl, rfl⟩
  · rintro ⟨rfl, hfault⟩
    cases rest with
    | nil => exact h
    | cons opcode data => cases hfault

/-- Disassembly fails with the fault of the remnant. -/
theorem fails_iff {code rest : List UInt8} {is : List Instruction}
    {fault : DecodeFault} (h : FallsInto 0 code is rest) :
    disassemble code = .error fault ↔
      remnantFault? (assemble is).length rest = some fault := by
  rw [disassemble_eq_error_iff]
  constructor
  · rintro ⟨js, opcode, data, hjs, rfl⟩
    obtain ⟨rfl, rfl⟩ := h.unique hjs
    rfl
  · intro hfault
    cases rest with
    | nil => cases hfault
    | cons opcode data => exact ⟨is, opcode, data, h, (Option.some.inj hfault).symm⟩

/-- Any part at the front of a code that decodes is part of what is swept. -/
theorem isPrefix_of_disassemble {code front rest : List UInt8} {is js : List Instruction}
    (h : FallsInto 0 code is rest) (hfront : front <+: code) (hjs : disassemble front = .ok js) :
    front <+: assemble is ∧ js <+: is := by
  obtain ⟨back, rfl⟩ := hfront
  -- What is behind the part falls into instructions and a remnant of its own, which makes a
  -- second way in which the whole code falls.
  obtain ⟨others, rest', hback⟩ := exists_fallsInto 0 back
  obtain ⟨rfl, _⟩ := h.unique (hback.append_rebase hjs)
  obtain ⟨_, rfl⟩ := disassemble_eq_ok_iff.1 hjs
  rw [assemble_append]
  exact ⟨List.prefix_append _ _, List.prefix_append _ _⟩

/-- A sweep gives out no more items than the code has bytes. -/
theorem length_items_le {pc : Nat} {code rest : List UInt8} {is : List Instruction}
    (h : FallsInto pc code is rest) :
    (Sweep.items is (remnantFault? (pc + (assemble is).length) rest)).length ≤ code.length := by
  have hinstructions := length_le_length_assemble is
  have hfault : (remnantFault? (pc + (assemble is).length) rest).toList.length ≤ rest.length := by
    cases rest with
    | nil => exact Nat.le_refl 0
    | cons opcode data => exact Nat.succ_le_succ (Nat.zero_le _)
  rw [Sweep.length_items, h.code_eq, List.length_append]
  omega

/-- The item after some instructions is about the offset where their bytes end; if there
is none, the code ends there. -/
theorem itemPc_items {code rest : List UInt8} {is : List Instruction}
    (h : FallsInto 0 code is rest) {k : Nat} (hk : k ≤ is.length) :
    ((Sweep.items is (remnantFault? (assemble is).length rest))[k]?.map itemPc).getD code.length =
      (assemble (is.take k)).length := by
  rcases Nat.lt_or_eq_of_le hk with hlt | rfl
  · have hitem : is[k]? = some is[k] := List.getElem?_eq_getElem hlt
    have hpc := h.contiguous.pc_eq hitem
    rw [Sweep.items, List.getElem?_append_left (by simpa using hlt), List.getElem?_map, hitem]
    simpa [itemPc] using hpc
  · rw [Sweep.items, List.getElem?_append_right (by simp), List.take_length]
    cases rest with
    | nil => simp [remnantFault?, h.code_eq]
    | cons opcode data => simp [remnantFault?, itemPc]

/-- Every instruction that is swept is read at its offset, and the next item is about the
offset where it ends. -/
theorem at?_eq {code rest : List UInt8} {is : List Instruction} (h : FallsInto 0 code is rest)
    {k : Nat} {i : Instruction} (hk : is[k]? = some i) :
    Instruction.at? code i.pc = .ok i ∧
      i.nextPc = ((Sweep.items is (remnantFault? (assemble is).length rest))[k + 1]?.map
        itemPc).getD code.length := by
  have hpc : i.pc = (assemble (is.take k)).length := by simpa using h.contiguous.pc_eq hk
  obtain ⟨hlt, hget⟩ := List.getElem?_eq_some_iff.1 hk
  constructor
  · have hbytes : code =
        assemble (is.take k) ++ (i.bytes ++ (assemble (is.drop (k + 1)) ++ rest)) := by
      have hcode := h.code_eq
      rw [eq_take_append_cons_drop hk] at hcode
      simpa using hcode
    have hformed : i.WellFormed := h.contiguous.wellFormed i (List.mem_of_getElem? hk)
    rw [hbytes]
    exact hformed.at?_eq hpc.symm _
  · have htake : is.take (k + 1) = is.take k ++ [i] := by
      rw [← hget, List.take_append_getElem]
    rw [h.itemPc_items hlt, htake, assemble_append, List.length_append, ← hpc]
    simp [Instruction.nextPc]

end FallsInto

/-! ## Main theorem -/

/-- Sweeping a code, disassembling it at once and reading it at any offset agree.

For every code there are some instructions and at most one fault, such that any number
of calls on a sweep gives the instructions one after the other, then the fault, and then
nothing.  The instructions are those of a part at the front of the code, and every part
at its front that decodes is part of it.  Disassembly of the whole code ends with the
instructions if there is no fault, and with the fault if there is one.  There are no
more items than bytes.  Every instruction is read at its own offset, and the next item
is about the offset where it ends, which is the end of the code if there is none.

What is read at an offset inside the code is the first item of a sweep of the code from
there on, moved to the offset; beyond the end it is a fault.  It depends on no byte in
front, and an instruction depends on none but its own. -/
theorem three_readings_agree (code : List UInt8) :
    (∃ (is : List Instruction) (fault : Option DecodeFault),
      (∀ n, (Sweep.start code).take n =
        (List.range n).map fun k => (Sweep.items is fault)[k]?) ∧
      (∃ front, front <+: code ∧ disassemble front = .ok is ∧
        ∀ other js, other <+: code → disassemble other = .ok js →
          other <+: front ∧ js <+: is) ∧
      (∀ js, disassemble code = .ok js ↔ js = is ∧ fault = none) ∧
      (∀ reason, disassemble code = .error reason ↔ fault = some reason) ∧
      (Sweep.items is fault).length ≤ code.length ∧
      ∀ (k : Nat) (i : Instruction), is[k]? = some i →
        Instruction.at? code i.pc = .ok i ∧
        i.nextPc = ((Sweep.items is fault)[k + 1]?.map itemPc).getD code.length) ∧
    (∀ pc < code.length, ∃ item, (Sweep.start (code.drop pc)).next.1 = some item ∧
      Instruction.at? code pc = rebaseItem pc item) ∧
    (∀ pc ≥ code.length, Instruction.at? code pc = .error (.outOfBounds pc code.length)) ∧
    (∀ (pc : Nat) (other : List UInt8), other.length = code.length →
      other.drop pc = code.drop pc → Instruction.at? other pc = Instruction.at? code pc) ∧
    (∀ (pc : Nat) (i : Instruction), Instruction.at? code pc = .ok i →
      ∀ front back : List UInt8, front.length = pc →
        Instruction.at? (front ++ (i.bytes ++ back)) pc = .ok i) := by
  refine ⟨?_, ?_, fun pc hpc => Instruction.at?_of_length_le hpc, ?_, ?_⟩
  · obtain ⟨is, rest, h⟩ := exists_fallsInto 0 code
    refine ⟨is, remnantFault? (assemble is).length rest, ?_, ?_, fun js => h.decodes_iff,
      fun reason => h.fails_iff, ?_, fun k i hk => h.at?_eq hk⟩
    · have hyields := @FallsInto.yields [] code rest is h
      rwa [List.length_nil, Nat.zero_add, List.nil_append] at hyields
    · refine ⟨assemble is, ⟨rest, h.code_eq.symm⟩, disassembleFrom_assemble h.contiguous, ?_⟩
      intro other js hother hjs
      exact h.isPrefix_of_disassemble hother hjs
    · have hlength := h.length_items_le
      rwa [Nat.zero_add] at hlength
  · intro pc hpc
    have hrest : code.drop pc ≠ [] := by
      rw [Ne, List.drop_eq_nil_iff]
      omega
    refine ⟨_, Sweep.next_start hrest, ?_⟩
    obtain ⟨opcode, data, hdrop⟩ := List.exists_cons_of_ne_nil hrest
    have hread := Instruction.read_add pc 0 opcode data
    rw [Nat.add_zero] at hread
    rw [Instruction.at?, Instruction.at?, List.drop_zero, hdrop]
    exact hread
  · intro pc other hlength hdrop
    rw [Instruction.at?, hdrop, hlength, Instruction.at?]
  · intro pc i hread front back hfront
    obtain ⟨hformed, rfl⟩ := Instruction.wellFormed_of_at? hread
    exact hformed.at?_eq hfront back

/-- A code with a push that is cut short: a sweep gives its first instruction, the fault
and nothing more, and any offset can be read, inside and behind. -/
theorem readings_of_cut_code :
    (∃ is, [⟨0, 0x01, .add, []⟩] <+: is ∧
      (Sweep.start [0x01, 0x61, 0x01]).take 5 = (List.range 5).map fun k =>
        (Sweep.items is (some (.truncatedOperand 1 2 1)))[k]?) ∧
      (∃ item, (Sweep.start ([0x01, 0x61, 0x01].drop 2)).next.1 = some item ∧
        Instruction.at? [0x01, 0x61, 0x01] 2 = rebaseItem 2 item) ∧
      Instruction.at? [0x01, 0x61, 0x01] 7 = .error (.outOfBounds 7 3) ∧
      Instruction.at? [0x01, 0x61, 0x01] 2 = Instruction.at? [0x60, 0xCC, 0x01] 2 ∧
      Instruction.at? [0x60, 0xCC, 0x01, 0x7F] 2 = .ok ⟨2, 0x01, .add, []⟩ := by
  have hfault : disassemble [0x01, 0x61, 0x01] = .error (.truncatedOperand 1 2 1) :=
    disassemble_eq_error_iff.2 ⟨[⟨0, 0x01, .add, []⟩], 0x61, [0x01],
      ⟨by decide, .cut (by decide), rfl⟩, rfl⟩
  have hfront : disassemble [0x01] = .ok [⟨0, 0x01, .add, []⟩] :=
    disassemble_eq_ok_iff.2 (by decide)
  obtain ⟨⟨is, fault, hitems, ⟨front, _, _, hlongest⟩, _, hends, _, _⟩, hinside, hbehind, hbefore,
    hown⟩ := three_readings_agree [0x01, 0x61, 0x01]
  obtain rfl := (hends _).1 hfault
  refine ⟨⟨is, (hlongest [0x01] _ ⟨_, rfl⟩ hfront).2, hitems 5⟩, hinside 2 (by decide),
    hbehind 7 (by decide), (hbefore 2 [0x60, 0xCC, 0x01] rfl rfl).symm, ?_⟩
  exact hown 2 ⟨2, 0x01, .add, []⟩ rfl [0x60, 0xCC] [0x7F] rfl

end MakeTen
