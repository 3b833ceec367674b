import Chrysopolis.Abi.Crc32
import Chrysopolis.Support.WireFormat

/-! Checksums over lists of bytes, and that those over memory are the same. -/

set_option autoImplicit false

namespace Chrysopolis.Codegen

open Chrysopolis.Support
open Chrysopolis.Abi

/-- The running checksum after more bytes. -/
def crcFeed (crc : UInt32) (bytes : Bytes) : UInt32 :=
  bytes.foldl (fun crc byte => crc32Byte (crc ^^^ byte.toUInt32)) crc

theorem crcFeed_append (crc : UInt32) (first second : Bytes) :
    crcFeed crc (first ++ second) = crcFeed (crcFeed crc first) second :=
  List.foldl_append

theorem crc32Update_eq (crc : UInt32) (memory : Memory) (address count : Nat) :
    crc32Update crc memory address count = crcFeed crc (memory.bytes address count) := by
  induction count generalizing crc address with
  | zero => rfl
  | succ count ih => exact ih _ _

theorem crc32Zeros_eq (crc : UInt32) (count : Nat) :
    crc32Zeros crc count = crcFeed crc (List.replicate count 0) := by
  induction count generalizing crc with
  | zero => rfl
  | succ count ih =>
      have same : crc ^^^ (0 : UInt8).toUInt32 = crc := UInt32.xor_zero
      rw [crc32Zeros, ih, List.replicate_succ, crcFeed, crcFeed, List.foldl_cons, same]

end Chrysopolis.Codegen
