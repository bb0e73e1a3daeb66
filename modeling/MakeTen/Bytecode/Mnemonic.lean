/-!
# Instruction names

The opcode table of the machine.  It is total: a byte without an assigned
instruction is called undefined.  Only the push family is followed by literal
data, as many bytes as its name says.

One byte that no revision of the machine assigns marks an open operator slot;
its instruction is called insert.

Main definitions:

- Type `Mnemonic`: one name per instruction, families with their width.
- Function `Mnemonic.ofByte`: the instruction that a byte stands for.
- Function `Mnemonic.immediateLength`: how much literal data follows it.
-/

namespace MakeTen

/-- The byte that stands for an operator not yet chosen. -/
def placeholder : UInt8 := 0xCC

/-- Name of an instruction.  The push, dup, swap and log families carry their
width. -/
inductive Mnemonic where
  | stop | add | mul | sub | div | sdiv | mod | smod | addmod | mulmod | exp | signextend
  | lt | gt | slt | sgt | eq | iszero | and | or | xor | not | byte | shl | shr | sar
  | keccak256
  | address | balance | origin | caller | callvalue | calldataload | calldatasize
  | calldatacopy | codesize | codecopy | gasprice | extcodesize | extcodecopy
  | returndatasize | returndatacopy | extcodehash
  | blockhash | coinbase | timestamp | number | prevrandao | gaslimit | chainid
  | selfbalance | basefee | blobhash | blobbasefee
  | pop | mload | mstore | mstore8 | sload | sstore | jump | jumpi | pc | msize | gas
  | jumpdest | tload | tstore | mcopy | push0
  | push (width : Nat)
  | dup (depth : Nat)
  | swap (depth : Nat)
  | log (topics : Nat)
  | create | call | callcode | ret | delegatecall | create2 | staticcall | revert | invalid
  | selfdestruct
  /-- An open operator slot. -/
  | insert
  /-- A byte with no assigned instruction. -/
  | undefined
  deriving Repr, DecidableEq

namespace Mnemonic

/-! ## The opcode table -/

/-- Arithmetic and comparison instructions, by the byte from zero. -/
def arithmetic : List Mnemonic :=
  [.stop, .add, .mul, .sub, .div, .sdiv, .mod, .smod, .addmod, .mulmod, .exp, .signextend]

/-- Comparison and bitwise instructions, from `0x10`. -/
def bitwise : List Mnemonic :=
  [.lt, .gt, .slt, .sgt, .eq, .iszero, .and, .or, .xor, .not, .byte, .shl, .shr, .sar]

/-- Instructions that read the environment of a call, from `0x30`. -/
def environment : List Mnemonic :=
  [.address, .balance, .origin, .caller, .callvalue, .calldataload, .calldatasize,
    .calldatacopy, .codesize, .codecopy, .gasprice, .extcodesize, .extcodecopy,
    .returndatasize, .returndatacopy, .extcodehash]

/-- Instructions that read the block, from `0x40`. -/
def block : List Mnemonic :=
  [.blockhash, .coinbase, .timestamp, .number, .prevrandao, .gaslimit, .chainid,
    .selfbalance, .basefee, .blobhash, .blobbasefee]

/-- Stack, memory, storage and flow instructions, from `0x50`.  The push of no
data comes last. -/
def storage : List Mnemonic :=
  [.pop, .mload, .mstore, .mstore8, .sload, .sstore, .jump, .jumpi, .pc, .msize, .gas,
    .jumpdest, .tload, .tstore, .mcopy, .push0]

/-- Instructions that create, call and end contracts, from `0xf0`. -/
def system : List Mnemonic :=
  [.create, .call, .callcode, .ret, .delegatecall, .create2, .undefined, .undefined,
    .undefined, .undefined, .staticcall, .undefined, .undefined, .revert, .invalid,
    .selfdestruct]

/-- The instruction that a byte stands for. -/
def ofByte (b : UInt8) : Mnemonic :=
  let n := b.toNat
  if b = placeholder then .insert
  else if n < 0x10 then arithmetic.getD n .undefined
  else if n < 0x20 then bitwise.getD (n - 0x10) .undefined
  else if n < 0x30 then [keccak256].getD (n - 0x20) .undefined
  else if n < 0x40 then environment.getD (n - 0x30) .undefined
  else if n < 0x50 then block.getD (n - 0x40) .undefined
  else if n < 0x60 then storage.getD (n - 0x50) .undefined
  else if n < 0x80 then .push (n - 0x5f)
  else if n < 0x90 then .dup (n - 0x7f)
  else if n < 0xa0 then .swap (n - 0x8f)
  else if n < 0xa5 then .log (n - 0xa0)
  else if n < 0xf0 then .undefined
  else system.getD (n - 0xf0) .undefined

/-- How many bytes of literal data follow the instruction. -/
def immediateLength : Mnemonic → Nat
  | .push width => width
  | _ => 0

/-! ## Names -/

/-- The name as a listing shows it. -/
def text : Mnemonic → String
  | .stop => "STOP"
  | .add => "ADD"
  | .mul => "MUL"
  | .sub => "SUB"
  | .div => "DIV"
  | .sdiv => "SDIV"
  | .mod => "MOD"
  | .smod => "SMOD"
  | .addmod => "ADDMOD"
  | .mulmod => "MULMOD"
  | .exp => "EXP"
  | .signextend => "SIGNEXTEND"
  | .lt => "LT"
  | .gt => "GT"
  | .slt => "SLT"
  | .sgt => "SGT"
  | .eq => "EQ"
  | .iszero => "ISZERO"
  | .and => "AND"
  | .or => "OR"
  | .xor => "XOR"
  | .not => "NOT"
  | .byte => "BYTE"
  | .shl => "SHL"
  | .shr => "SHR"
  | .sar => "SAR"
  | .keccak256 => "KECCAK256"
  | .address => "ADDRESS"
  | .balance => "BALANCE"
  | .origin => "ORIGIN"
  | .caller => "CALLER"
  | .callvalue => "CALLVALUE"
  | .calldataload => "CALLDATALOAD"
  | .calldatasize => "CALLDATASIZE"
  | .calldatacopy => "CALLDATACOPY"
  | .codesize => "CODESIZE"
  | .codecopy => "CODECOPY"
  | .gasprice => "GASPRICE"
  | .extcodesize => "EXTCODESIZE"
  | .extcodecopy => "EXTCODECOPY"
  | .returndatasize => "RETURNDATASIZE"
  | .returndatacopy => "RETURNDATACOPY"
  | .extcodehash => "EXTCODEHASH"
  | .blockhash => "BLOCKHASH"
  | .coinbase => "COINBASE"
  | .timestamp => "TIMESTAMP"
  | .number => "NUMBER"
  | .prevrandao => "PREVRANDAO"
  | .gaslimit => "GASLIMIT"
  | .chainid => "CHAINID"
  | .selfbalance => "SELFBALANCE"
  | .basefee => "BASEFEE"
  | .blobhash => "BLOBHASH"
  | .blobbasefee => "BLOBBASEFEE"
  | .pop => "POP"
  | .mload => "MLOAD"
  | .mstore => "MSTORE"
  | .mstore8 => "MSTORE8"
  | .sload => "SLOAD"
  | .sstore => "SSTORE"
  | .jump => "JUMP"
  | .jumpi => "JUMPI"
  | .pc => "PC"
  | .msize => "MSIZE"
  | .gas => "GAS"
  | .jumpdest => "JUMPDEST"
  | .tload => "TLOAD"
  | .tstore => "TSTORE"
  | .mcopy => "MCOPY"
  | .push0 => "PUSH0"
  | .push width => "PUSH" ++ toString width
  | .dup depth => "DUP" ++ toString depth
  | .swap depth => "SWAP" ++ toString depth
  | .log topics => "LOG" ++ toString topics
  | .create => "CREATE"
  | .call => "CALL"
  | .callcode => "CALLCODE"
  | .ret => "RETURN"
  | .delegatecall => "DELEGATECALL"
  | .create2 => "CREATE2"
  | .staticcall => "STATICCALL"
  | .revert => "REVERT"
  | .invalid => "INVALID"
  | .selfdestruct => "SELFDESTRUCT"
  | .insert => "INSERT"
  | .undefined => "UNDEFINED"

/-! ## Facts about the table -/

/-- No instruction carries more than thirty-two bytes of data. -/
theorem immediateLength_ofByte_le (b : UInt8) : (ofByte b).immediateLength ≤ 32 := by
  have table : ∀ n : Fin 256, (ofByte (UInt8.ofNat n)).immediateLength ≤ 32 := by decide +kernel
  simpa using table ⟨b.toNat, b.toNat_lt⟩

/-- The slot marker is the only byte whose instruction is the slot. -/
theorem ofByte_eq_insert_iff (b : UInt8) : ofByte b = .insert ↔ b = placeholder := by
  have table : ∀ n : Fin 256,
      ofByte (UInt8.ofNat n) = .insert ↔ UInt8.ofNat n = placeholder := by decide +kernel
  simpa using table ⟨b.toNat, b.toNat_lt⟩

/-- An open slot carries no data. -/
@[simp]
theorem immediateLength_ofByte_placeholder : (ofByte placeholder).immediateLength = 0 := by
  decide

end Mnemonic
end MakeTen
