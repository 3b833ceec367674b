import Chrysopolis.Support.ByteMemory

/-! CRC-32/IEEE without a table, as the generated codecs compute it over a page. -/

set_option autoImplicit false

namespace Chrysopolis.Abi

open Chrysopolis.Support

/-- One bit of the reflected polynomial division. -/
def crc32Bit (crc : UInt32) : UInt32 :=
  (crc >>> 1) ^^^ (0xEDB88320 &&& (0 - (crc &&& 1)))

def crc32Byte (crc : UInt32) : UInt32 :=
  (List.range 8).foldl (fun current _ => crc32Bit current) crc

/-- `chryso_abi_crc32_update`: feed `count` bytes from `address`. -/
def crc32Update (crc : UInt32) (bytes : Memory) (address : Nat) : Nat → UInt32
  | 0 => crc
  | count + 1 =>
      crc32Update (crc32Byte (crc ^^^ (bytes address).toUInt32)) bytes (address + 1) count

/-- `chryso_abi_crc32_zeros`: feed `count` zero bytes. -/
def crc32Zeros (crc : UInt32) : Nat → UInt32
  | 0 => crc
  | count + 1 => crc32Zeros (crc32Byte crc) count

def crc32Final (crc : UInt32) : UInt32 := crc ^^^ 0xFFFFFFFF

theorem crc32Update_congr {left right : Memory} {address count : Nat} (crc : UInt32)
    (same : ∀ position, address ≤ position → position < address + count →
      left position = right position) :
    crc32Update crc left address count = crc32Update crc right address count := by
  induction count generalizing crc address with
  | zero => rfl
  | succ count ih =>
      have head := same address (Nat.le_refl _) (by omega)
      simp only [crc32Update, head]
      exact ih _ fun position lower upper => same position (by omega) (by omega)

/-- The check value of the standard: nine ASCII digits. -/
example : crc32Final (crc32Update 0xFFFFFFFF
    (fun position => UInt8.ofNat (0x31 + position)) 0 9) = 0xCBF43926 := by
  decide +kernel

end Chrysopolis.Abi
