import Mathlib.Data.List.Basic
import Mathlib.Tactic.Common

/-! The recording time stored in the subcode packs of a raw DV frame. -/
namespace WinDV

/-- `kDVFrameSizePAL`: 12 DIF sequences. -/
def kDVFrameSizePAL : Nat := 144000

/-- `kDVFrameSizeNTSC`: 10 DIF sequences. -/
def kDVFrameSizeNTSC : Nat := 120000

/-- `kDIFBlockSize`. -/
def kDIFBlockSize : Nat := 80

/-- `kDIFSequenceSize`. -/
def kDIFSequenceSize : Nat := 150 * kDIFBlockSize

/-- `Pack`: the pack id and its four data bytes. -/
abbrev Pack := List UInt8

/-- Where the packs start, in the order `FindSSYBPack` scans them: the six
SSYB packets of the subcode blocks 1 and 2 of each DIF sequence. -/
def packOffsets (seqCount : Nat) : List Nat :=
  (List.range seqCount).flatMap fun seq =>
    [1, 2].flatMap fun block =>
      (List.range 6).map fun packet =>
        seq * kDIFSequenceSize + block * kDIFBlockSize + 3 + packet * 8 + 3

/-- The scan. It gives up at the first packet that does not fit the frame. -/
def scanPacks (frame : List UInt8) (packId : UInt8) : List Nat → Option Pack
  | [] => none
  | offset :: rest =>
      if frame.length < offset + 5 then none
      else if frame[offset]? = some packId then some ((frame.drop offset).take 5)
      else scanPacks frame packId rest

/-- `FindSSYBPack`. -/
def findSSYBPack (frame : List UInt8) (packId : UInt8) : Option Pack :=
  scanPacks frame packId (packOffsets (if kDVFrameSizePAL ≤ frame.length then 12 else 10))

/-- `DecodeBCD`. -/
def decodeBCD (value tensMask : UInt8) : Int :=
  let units := (value &&& 0x0f).toNat
  let tens := ((value >>> 4) &&& tensMask).toNat
  if 9 < units ∨ 9 < tens then -1 else tens * 10 + units

/-- The fields of `std::tm` the code sets. `tm_isdst` is -1. -/
structure Tm where
  sec : Int
  min : Int
  hour : Int
  mday : Int
  mon : Int
  year : Int
  deriving DecidableEq, Repr

/-- `GetDVRecordingTime`. The local time zone is in `mktime`, which fails with
`none` for the -1 of the C function. -/
def getDVRecordingTime (mktime : Tm → Option Int) (frame : List UInt8) : Option Int :=
  if frame.length ≠ kDVFrameSizePAL ∧ frame.length ≠ kDVFrameSizeNTSC then none
  else
    match findSSYBPack frame 0x62, findSSYBPack frame 0x63 with
    | some date, some time =>
        let day := decodeBCD (date.getD 2 0) 0x3
        let month := decodeBCD (date.getD 3 0) 0x1
        let year := decodeBCD (date.getD 4 0) 0xf
        let sec := decodeBCD (time.getD 2 0) 0x7
        let min := decodeBCD (time.getD 3 0) 0x7
        let hour := decodeBCD (time.getD 4 0) 0x3
        if day < 1 ∨ 31 < day ∨ month < 1 ∨ 12 < month ∨ year < 0 ∨ sec < 0 ∨ 59 < sec ∨
            min < 0 ∨ 59 < min ∨ hour < 0 ∨ 23 < hour then none
        else
          let fullYear := year + if year < 50 then 2000 else 1900
          mktime {
            sec := sec
            min := min
            hour := hour
            mday := day
            mon := month - 1
            year := fullYear - 1900 }
    | _, _ => none

end WinDV
