import Mathlib.Tactic.IntervalCases
import WinDV.Core.DVTimecode

/-! What `GetDVRecordingTime` reads out of a frame: the first date pack and the
first time pack in the order of the scan, their digits without the flag bits
above them, and nothing else. -/
namespace WinDV

/-- A full frame, PAL or NTSC. -/
def IsDVFrame (frame : List UInt8) : Prop :=
  frame.length = kDVFrameSizePAL ∨ frame.length = kDVFrameSizeNTSC

/-- How many DIF sequences are scanned. -/
def seqCount (frame : List UInt8) : Nat := if kDVFrameSizePAL ≤ frame.length then 12 else 10

/-- An SSYB packet of a frame. -/
structure PackPlace where
  seq : Nat
  block : Nat
  packet : Nat
  deriving DecidableEq, Repr

namespace PackPlace

def offset (place : PackPlace) : Nat :=
  place.seq * kDIFSequenceSize + place.block * kDIFBlockSize + 3 + place.packet * 8 + 3

/-- The packets the scan looks at. -/
def Scanned (frame : List UInt8) (place : PackPlace) : Prop :=
  place.seq < seqCount frame ∧ 1 ≤ place.block ∧ place.block ≤ 2 ∧ place.packet < 6

/-- The order of the scan. -/
def Before (first second : PackPlace) : Prop :=
  first.seq < second.seq ∨ first.seq = second.seq ∧
    (first.block < second.block ∨ first.block = second.block ∧ first.packet < second.packet)

/-- The first pack with an id. -/
structure IsFirst (frame : List UInt8) (packId : UInt8) (place : PackPlace) : Prop where
  scanned : place.Scanned frame
  id : frame[place.offset]? = some packId
  first : ∀ other : PackPlace, other.Scanned frame → other.Before place →
    frame[other.offset]? ≠ some packId

end PackPlace

/-- A date and a time of day as a camcorder records them, the year without its
century. -/
structure Recorded where
  day : Nat
  month : Nat
  year : Nat
  sec : Nat
  min : Nat
  hour : Nat
  day_range : 1 ≤ day ∧ day ≤ 31
  month_range : 1 ≤ month ∧ month ≤ 12
  year_range : year ≤ 99
  sec_range : sec ≤ 59
  min_range : min ≤ 59
  hour_range : hour ≤ 23

namespace Recorded

/-- The year with its century. -/
def fullYear (recorded : Recorded) : Nat := recorded.year + if recorded.year < 50 then 2000 else 1900

theorem fullYear_range (recorded : Recorded) : 1950 ≤ recorded.fullYear ∧ recorded.fullYear ≤ 2049 := by
  have hYear := recorded.year_range
  rw [fullYear]
  split_ifs <;> omega

/-- What `mktime` is asked. -/
def tm (recorded : Recorded) : Tm where
  sec := recorded.sec
  min := recorded.min
  hour := recorded.hour
  mday := recorded.day
  mon := recorded.month - 1
  year := recorded.fullYear - 1900

/-- The packs at the two places decode to the date and the time. -/
structure DecodedFrom (recorded : Recorded) (frame : List UInt8) (date time : PackPlace) : Prop where
  day : decodeBCD (frame.getD (date.offset + 2) 0) 0x3 = recorded.day
  month : decodeBCD (frame.getD (date.offset + 3) 0) 0x1 = recorded.month
  year : decodeBCD (frame.getD (date.offset + 4) 0) 0xf = recorded.year
  sec : decodeBCD (frame.getD (time.offset + 2) 0) 0x7 = recorded.sec
  min : decodeBCD (frame.getD (time.offset + 3) 0) 0x7 = recorded.min
  hour : decodeBCD (frame.getD (time.offset + 4) 0) 0x3 = recorded.hour

end Recorded

/-- A number below one hundred in two BCD digits. The bits above those the tens
have are taken from `flags`. -/
def encodeBCD (flags tensMask : UInt8) (n : Nat) : UInt8 :=
  let digits := 16 * (tensMask.toNat + 1)
  UInt8.ofNat (flags.toNat / digits * digits + n / 10 * 16 + n % 10)

/-- The packs at the two places hold the date and the time, whatever their flag bits are. -/
structure Recorded.EncodedIn (recorded : Recorded) (frame : List UInt8) (date time : PackPlace) : Prop where
  day : ∃ flags, frame[date.offset + 2]? = some (encodeBCD flags 0x3 recorded.day)
  month : ∃ flags, frame[date.offset + 3]? = some (encodeBCD flags 0x1 recorded.month)
  year : ∃ flags, frame[date.offset + 4]? = some (encodeBCD flags 0xf recorded.year)
  sec : ∃ flags, frame[time.offset + 2]? = some (encodeBCD flags 0x7 recorded.sec)
  min : ∃ flags, frame[time.offset + 3]? = some (encodeBCD flags 0x7 recorded.min)
  hour : ∃ flags, frame[time.offset + 4]? = some (encodeBCD flags 0x3 recorded.hour)

/-- The indices the scan reads. -/
def scanReads (frame : List UInt8) (packId : UInt8) : List Nat → List Nat
  | [] => []
  | offset :: rest =>
      if frame.length < offset + 5 then []
      else if frame[offset]? = some packId then offset :: (List.range 5).map (offset + ·)
      else offset :: scanReads frame packId rest

/-- The indices `GetDVRecordingTime` reads. -/
def recordingTimeReads (frame : List UInt8) : List Nat :=
  if frame.length ≠ kDVFrameSizePAL ∧ frame.length ≠ kDVFrameSizeNTSC then []
  else
    scanReads frame 0x62 (packOffsets (seqCount frame)) ++
      if (findSSYBPack frame 0x62).isNone then []
      else scanReads frame 0x63 (packOffsets (seqCount frame))

/-- The digits of a byte. -/
theorem decodeBCD_eq {tensMask : UInt8} {k : Nat} (h : tensMask.toNat + 1 = 2 ^ k) (value : UInt8) :
    decodeBCD value tensMask =
      if 9 < value.toNat % 16 ∨ 9 < value.toNat / 16 % 2 ^ k then (-1 : Int)
      else (value.toNat / 16 % 2 ^ k : Nat) * 10 + (value.toNat % 16 : Nat) := by
  have hUnits : (value &&& 0x0f).toNat = value.toNat % 16 := by
    rw [UInt8.toNat_and]
    exact Nat.and_two_pow_sub_one_eq_mod _ 4
  have hMask : tensMask.toNat = 2 ^ k - 1 := by omega
  have hTens : ((value >>> 4) &&& tensMask).toNat = value.toNat / 16 % 2 ^ k := by
    rw [UInt8.toNat_and, hMask, Nat.and_two_pow_sub_one_eq_mod, UInt8.toNat_shiftRight,
      Nat.shiftRight_eq_div_pow]
    rfl
  rw [decodeBCD, hUnits, hTens]

/-- Decoding undoes encoding, under any flag bits. -/
theorem decodeBCD_encodeBCD {tensMask : UInt8} {k : Nat} (hMask : tensMask.toNat + 1 = 2 ^ k) (hk : k ≤ 4)
    {n : Nat} (hn : n < 100) (hTens : n / 10 ≤ tensMask.toNat) (flags : UInt8) :
    decodeBCD (encodeBCD flags tensMask n) tensMask = n := by
  have hFlags : flags.toNat < 256 := flags.toNat_lt
  have hValue : (encodeBCD flags tensMask n).toNat =
      flags.toNat / (16 * 2 ^ k) * (16 * 2 ^ k) + n / 10 * 16 + n % 10 := by
    rw [encodeBCD, hMask, UInt8.toNat_ofNat']
    apply Nat.mod_eq_of_lt
    interval_cases k <;> omega
  rw [decodeBCD_eq hMask, hValue]
  interval_cases k <;> omega

namespace PackPlace

theorem offset_eq (place : PackPlace) :
    place.offset = place.seq * 12000 + place.block * 80 + place.packet * 8 + 6 := by
  simp only [offset, kDIFSequenceSize, kDIFBlockSize]
  omega

/-- The scan goes forward through the frame. -/
theorem before_iff {frame : List UInt8} {first second : PackPlace} (hFirst : first.Scanned frame)
    (hSecond : second.Scanned frame) : first.Before second ↔ first.offset < second.offset := by
  obtain ⟨-, hBlock, hBlocks, hPacket⟩ := hFirst
  obtain ⟨-, hOtherBlock, hOtherBlocks, hOtherPacket⟩ := hSecond
  rw [Before, offset_eq, offset_eq]
  omega

/-- Every pack is inside its frame. -/
theorem Scanned.fits {frame : List UInt8} (hFrame : IsDVFrame frame) {place : PackPlace}
    (h : place.Scanned frame) : place.offset + 5 ≤ frame.length := by
  obtain ⟨hSeq, -, hBlocks, hPacket⟩ := h
  rw [offset_eq]
  rcases hFrame with hPAL | hNTSC
  · have hCount : seqCount frame = 12 := by rw [seqCount, hPAL, if_pos le_rfl]
    rw [hCount] at hSeq
    rw [hPAL, kDVFrameSizePAL]
    omega
  · have hCount : seqCount frame = 10 := by
      rw [seqCount, hNTSC]
      exact if_neg (by decide)
    rw [hCount] at hSeq
    rw [hNTSC, kDVFrameSizeNTSC]
    omega

end PackPlace

theorem mem_packOffsets {frame : List UInt8} {offset : Nat} :
    offset ∈ packOffsets (seqCount frame) ↔ ∃ place : PackPlace, place.Scanned frame ∧ place.offset = offset := by
  simp only [packOffsets, List.mem_flatMap, List.mem_range, List.mem_map, List.mem_cons,
    List.not_mem_nil, or_false]
  constructor
  · rintro ⟨seq, hSeq, block, rfl | rfl, packet, hPacket, rfl⟩
    · exact ⟨⟨seq, 1, packet⟩, ⟨hSeq, by simp, by simp, hPacket⟩, rfl⟩
    · exact ⟨⟨seq, 2, packet⟩, ⟨hSeq, by simp, by simp, hPacket⟩, rfl⟩
  · rintro ⟨⟨seq, block, packet⟩, ⟨hSeq, hBlock, hBlocks, hPacket⟩, rfl⟩
    exact ⟨seq, hSeq, block, by simp only at hBlock hBlocks; omega, packet, hPacket, rfl⟩

/-- The offsets only grow. -/
theorem packOffsets_sorted (n : Nat) : (packOffsets n).Pairwise (· < ·) := by
  have hPackets : ∀ start : Nat, ((List.range 6).map fun packet => start + packet * 8 + 3).Pairwise (· < ·) := by
    intro start
    rw [List.pairwise_map]
    exact List.pairwise_lt_range.imp fun h => by omega
  have hWithin : ∀ seq block offset : Nat,
      offset ∈ (List.range 6).map (fun packet => seq * kDIFSequenceSize + block * kDIFBlockSize + 3 + packet * 8 + 3) →
        seq * 12000 + block * 80 < offset ∧ offset < seq * 12000 + (block + 1) * 80 := by
    intro seq block offset hOffset
    obtain ⟨packet, hPacket, rfl⟩ := List.mem_map.mp hOffset
    have hLess := List.mem_range.mp hPacket
    simp only [kDIFSequenceSize, kDIFBlockSize]
    omega
  rw [packOffsets, List.pairwise_flatMap]
  constructor
  · intro seq _
    rw [List.pairwise_flatMap]
    constructor
    · intro block _
      exact hPackets _
    · rw [List.pairwise_pair]
      intro first hFirst second hSecond
      have hOne := hWithin seq 1 first hFirst
      have hTwo := hWithin seq 2 second hSecond
      omega
  · apply List.pairwise_lt_range.imp
    intro earlier later hLess first hFirst second hSecond
    obtain ⟨block, hBlock, hMem⟩ := List.mem_flatMap.mp hFirst
    obtain ⟨other, hOther, hIn⟩ := List.mem_flatMap.mp hSecond
    have hOne := hWithin earlier block first hMem
    have hTwo := hWithin later other second hIn
    simp only [List.mem_cons, List.not_mem_nil, or_false] at hBlock
    omega

/-- In a sorted list the first hit is the least one. -/
theorem find_sorted {offsets : List Nat} (h : offsets.Pairwise (· < ·)) {test : Nat → Bool} {offset : Nat} :
    offsets.find? test = some offset ↔
      offset ∈ offsets ∧ test offset = true ∧ ∀ other ∈ offsets, other < offset → test other = false := by
  induction offsets with
  | nil => simp
  | cons head rest ih =>
      obtain ⟨hHead, hRest⟩ := List.pairwise_cons.mp h
      rw [List.find?_cons]
      cases hTest : test head with
      | true =>
          simp only [Option.some.injEq, List.mem_cons, forall_eq_or_imp]
          constructor
          · rintro rfl
            exact ⟨Or.inl rfl, hTest, fun hLess => absurd hLess (lt_irrefl _),
              fun other hOther hLess => absurd (hHead other hOther) (lt_asymm hLess)⟩
          · rintro ⟨rfl | hMem, -, hNot, -⟩
            · rfl
            · rw [hNot (hHead offset hMem)] at hTest
              cases hTest
      | false =>
          simp only [ih hRest, List.mem_cons, forall_eq_or_imp]
          constructor
          · rintro ⟨hMem, hHit, hLess⟩
            exact ⟨Or.inr hMem, hHit, fun _ => hTest, hLess⟩
          · rintro ⟨rfl | hMem, hHit, -, hLess⟩
            · rw [hTest] at hHit
              cases hHit
            · exact ⟨hMem, hHit, hLess⟩

/-- Where every packet fits, the scan takes the first hit. -/
theorem scanPacks_eq {frame : List UInt8} {packId : UInt8} {offsets : List Nat}
    (hFits : ∀ offset ∈ offsets, offset + 5 ≤ frame.length) :
    scanPacks frame packId offsets =
      (offsets.find? fun offset => frame[offset]? = some packId).map fun offset =>
        (frame.drop offset).take 5 := by
  induction offsets with
  | nil => rfl
  | cons head rest ih =>
      have hHead := hFits head List.mem_cons_self
      rw [scanPacks, if_neg (by omega), List.find?_cons,
        ih fun offset hOffset => hFits offset (List.mem_cons_of_mem _ hOffset)]
      by_cases hId : frame[head]? = some packId
      · rw [if_pos hId, decide_eq_true hId]
        rfl
      · rw [if_neg hId, decide_eq_false hId]

/-- `FindSSYBPack` finds the first pack with the id. -/
theorem findSSYBPack_eq_some {frame : List UInt8} (hFrame : IsDVFrame frame) {packId : UInt8} {pack : Pack} :
    findSSYBPack frame packId = some pack ↔
      ∃ place : PackPlace, place.IsFirst frame packId ∧ pack = (frame.drop place.offset).take 5 := by
  have hFits : ∀ offset ∈ packOffsets (seqCount frame), offset + 5 ≤ frame.length := by
    intro offset hOffset
    obtain ⟨place, hScanned, rfl⟩ := mem_packOffsets.mp hOffset
    exact hScanned.fits hFrame
  have hScan : findSSYBPack frame packId = scanPacks frame packId (packOffsets (seqCount frame)) := rfl
  rw [hScan, scanPacks_eq hFits, Option.map_eq_some_iff]
  simp only [find_sorted (packOffsets_sorted _), decide_eq_true_eq, decide_eq_false_iff_not]
  constructor
  · rintro ⟨offset, ⟨hMem, hId, hFirst⟩, rfl⟩
    obtain ⟨place, hScanned, rfl⟩ := mem_packOffsets.mp hMem
    refine ⟨place, ⟨hScanned, hId, ?_⟩, rfl⟩
    intro other hOther hBefore
    exact hFirst other.offset (mem_packOffsets.mpr ⟨other, hOther, rfl⟩)
      ((PackPlace.before_iff hOther hScanned).mp hBefore)
  · rintro ⟨place, hPlace, rfl⟩
    refine ⟨place.offset, ⟨mem_packOffsets.mpr ⟨place, hPlace.scanned, rfl⟩, hPlace.id, ?_⟩, rfl⟩
    intro offset hMem hLess
    obtain ⟨other, hOther, rfl⟩ := mem_packOffsets.mp hMem
    exact hPlace.first other hOther ((PackPlace.before_iff hOther hPlace.scanned).mpr hLess)

theorem pack_getD (frame : List UInt8) (offset : Nat) {i : Nat} (hi : i < 5) :
    ((frame.drop offset).take 5).getD i 0 = frame.getD (offset + i) 0 := by
  rw [List.getD_eq_getElem?_getD, List.getD_eq_getElem?_getD, List.getElem?_take_of_lt hi,
    List.getElem?_drop]

theorem isDVFrame_iff (frame : List UInt8) :
    IsDVFrame frame ↔ ¬ (frame.length ≠ kDVFrameSizePAL ∧ frame.length ≠ kDVFrameSizeNTSC) := by
  rw [IsDVFrame]
  tauto

/-- A frame with no date pack, or no time pack, has no recording time. -/
theorem getDVRecordingTime_missing (mktime : Tm → Option Int) {frame : List UInt8}
    (h : findSSYBPack frame 0x62 = none ∨ findSSYBPack frame 0x63 = none) :
    getDVRecordingTime mktime frame = none := by
  rw [getDVRecordingTime]
  split_ifs
  · rfl
  · rcases h with hDate | hTime
    · rw [hDate]
    · rw [hTime]
      cases findSSYBPack frame 0x62 <;> rfl

namespace Recorded

/-- A date and time that decode are handed to `mktime`. -/
theorem DecodedFrom.getDVRecordingTime {mktime : Tm → Option Int} {frame : List UInt8}
    {date time : PackPlace} {recorded : Recorded} (h : recorded.DecodedFrom frame date time)
    (hFrame : IsDVFrame frame) (hDate : date.IsFirst frame 0x62) (hTime : time.IsFirst frame 0x63) :
    getDVRecordingTime mktime frame = mktime recorded.tm := by
  have hFoundDate := (findSSYBPack_eq_some hFrame).mpr ⟨date, hDate, rfl⟩
  have hFoundTime := (findSSYBPack_eq_some hFrame).mpr ⟨time, hTime, rfl⟩
  have hDay := recorded.day_range
  have hMonth := recorded.month_range
  have hYear := recorded.year_range
  have hSec := recorded.sec_range
  have hMin := recorded.min_range
  have hHour := recorded.hour_range
  rw [WinDV.getDVRecordingTime, if_neg ((isDVFrame_iff frame).mp hFrame), hFoundDate, hFoundTime]
  simp only [pack_getD _ _ (show 2 < 5 by decide), pack_getD _ _ (show 3 < 5 by decide),
    pack_getD _ _ (show 4 < 5 by decide), h.day, h.month, h.year, h.sec, h.min, h.hour]
  rw [if_neg (by omega), tm, fullYear]
  congr 2
  split_ifs <;> omega

/-- What is handed to `mktime` decodes from the first packs. -/
theorem exists_of_getDVRecordingTime {mktime : Tm → Option Int} {frame : List UInt8} {t : Int}
    (hFrame : IsDVFrame frame) (h : getDVRecordingTime mktime frame = some t) :
    ∃ (date time : PackPlace) (recorded : Recorded), date.IsFirst frame 0x62 ∧ time.IsFirst frame 0x63 ∧
      recorded.DecodedFrom frame date time := by
  cases hFoundDate : findSSYBPack frame 0x62 with
  | none =>
      rw [getDVRecordingTime_missing mktime (Or.inl hFoundDate)] at h
      cases h
  | some datePack =>
      cases hFoundTime : findSSYBPack frame 0x63 with
      | none =>
          rw [getDVRecordingTime_missing mktime (Or.inr hFoundTime)] at h
          cases h
      | some timePack =>
          obtain ⟨date, hDate, rfl⟩ := (findSSYBPack_eq_some hFrame).mp hFoundDate
          obtain ⟨time, hTime, rfl⟩ := (findSSYBPack_eq_some hFrame).mp hFoundTime
          rw [WinDV.getDVRecordingTime, if_neg ((isDVFrame_iff frame).mp hFrame), hFoundDate,
            hFoundTime] at h
          simp only [pack_getD _ _ (show 2 < 5 by decide), pack_getD _ _ (show 3 < 5 by decide),
            pack_getD _ _ (show 4 < 5 by decide)] at h
          split at h
          · cases h
          rename_i hBad
          simp only [not_or, not_lt] at hBad
          obtain ⟨hDay, hDays, hMonth, hMonths, hYear, hSec, hSecs, hMin, hMins, hHour, hHours⟩ := hBad
          have hYears : decodeBCD (frame.getD (date.offset + 4) 0) 0xf ≤ 99 := by
            rw [decodeBCD_eq (show (0xf : UInt8).toNat + 1 = 2 ^ 4 from rfl)]
            split_ifs <;> omega
          refine ⟨date, time, {
            day := (decodeBCD (frame.getD (date.offset + 2) 0) 0x3).toNat
            month := (decodeBCD (frame.getD (date.offset + 3) 0) 0x1).toNat
            year := (decodeBCD (frame.getD (date.offset + 4) 0) 0xf).toNat
            sec := (decodeBCD (frame.getD (time.offset + 2) 0) 0x7).toNat
            min := (decodeBCD (frame.getD (time.offset + 3) 0) 0x7).toNat
            hour := (decodeBCD (frame.getD (time.offset + 4) 0) 0x3).toNat
            day_range := by omega
            month_range := by omega
            year_range := by omega
            sec_range := by omega
            min_range := by omega
            hour_range := by omega }, hDate, hTime, ?_⟩
          constructor <;> exact (Int.toNat_of_nonneg (by omega)).symm

/-- What is encoded decodes. -/
theorem EncodedIn.decodedFrom {frame : List UInt8} {date time : PackPlace} {recorded : Recorded}
    (h : recorded.EncodedIn frame date time) : recorded.DecodedFrom frame date time := by
  have hRead : ∀ {offset n : Nat} {tensMask : UInt8} (k : Nat), tensMask.toNat + 1 = 2 ^ k → k ≤ 4 →
      n < 100 → n / 10 ≤ tensMask.toNat → (∃ flags, frame[offset]? = some (encodeBCD flags tensMask n)) →
      decodeBCD (frame.getD offset 0) tensMask = n := by
    rintro offset n tensMask k hMask hk hn hTens ⟨flags, hByte⟩
    rw [List.getD_eq_getElem?_getD, hByte, Option.getD_some]
    exact decodeBCD_encodeBCD hMask hk hn hTens flags
  have hTwoBits : (0x3 : UInt8).toNat = 3 := rfl
  have hOneBit : (0x1 : UInt8).toNat = 1 := rfl
  have hFourBits : (0xf : UInt8).toNat = 15 := rfl
  have hThreeBits : (0x7 : UInt8).toNat = 7 := rfl
  have hDay := recorded.day_range
  have hMonth := recorded.month_range
  have hYear := recorded.year_range
  have hSec := recorded.sec_range
  have hMin := recorded.min_range
  have hHour := recorded.hour_range
  constructor
  · exact hRead 2 rfl (by decide) (by omega) (by omega) h.day
  · exact hRead 1 rfl (by decide) (by omega) (by omega) h.month
  · exact hRead 4 rfl (by decide) (by omega) (by omega) h.year
  · exact hRead 3 rfl (by decide) (by omega) (by omega) h.sec
  · exact hRead 3 rfl (by decide) (by omega) (by omega) h.min
  · exact hRead 2 rfl (by decide) (by omega) (by omega) h.hour

end Recorded

/-- The same bytes in the packs. -/
def SamePacks (frame other : List UInt8) : Prop :=
  frame.length = other.length ∧
    ∀ place : PackPlace, place.Scanned frame → ∀ i < 5, frame[place.offset + i]? = other[place.offset + i]?

/-- A scan depends on the bytes it reads only. -/
theorem scanPacks_congr {frame other : List UInt8} {packId : UInt8} {offsets : List Nat}
    (hLength : frame.length = other.length)
    (h : ∀ i ∈ scanReads frame packId offsets, frame[i]? = other[i]?) :
    scanPacks frame packId offsets = scanPacks other packId offsets := by
  induction offsets with
  | nil => rfl
  | cons head rest ih =>
      rw [scanReads] at h
      rw [scanPacks, scanPacks, ← hLength]
      split_ifs at h ⊢ with hFits hId hOther hOther
      · rfl
      · have hPack : ∀ i < 5, frame[head + i]? = other[head + i]? := fun i hi =>
          h (head + i) (List.mem_cons_of_mem _ (List.mem_map.mpr ⟨i, List.mem_range.mpr hi, rfl⟩))
        congr 1
        apply List.ext_getElem?
        intro i
        rw [List.getElem?_take, List.getElem?_take, List.getElem?_drop, List.getElem?_drop]
        split_ifs with hi
        · exact hPack i hi
        · rfl
      · rw [h head List.mem_cons_self] at hId
        exact absurd hId hOther
      · rw [← h head List.mem_cons_self] at hOther
        exact absurd hOther hId
      · exact ih fun i hi => h i (List.mem_cons_of_mem _ hi)

/-- The decoder reads just these bytes. -/
theorem getDVRecordingTime_congr {mktime : Tm → Option Int} {frame other : List UInt8}
    (hLength : frame.length = other.length)
    (h : ∀ i ∈ recordingTimeReads frame, frame[i]? = other[i]?) :
    getDVRecordingTime mktime frame = getDVRecordingTime mktime other := by
  have hCount : seqCount frame = seqCount other := by rw [seqCount, seqCount, hLength]
  have hFind : ∀ packId, (∀ i ∈ scanReads frame packId (packOffsets (seqCount frame)), frame[i]? = other[i]?) →
      findSSYBPack frame packId = findSSYBPack other packId := by
    intro packId hReads
    show scanPacks frame packId (packOffsets (seqCount frame)) =
      scanPacks other packId (packOffsets (seqCount other))
    rw [← hCount]
    exact scanPacks_congr hLength hReads
  rw [recordingTimeReads] at h
  split_ifs at h with hSize hDate
  · have hOther : other.length ≠ kDVFrameSizePAL ∧ other.length ≠ kDVFrameSizeNTSC := hLength ▸ hSize
    rw [getDVRecordingTime, getDVRecordingTime, if_pos hSize, if_pos hOther]
  · have hSame := hFind 0x62 fun i hi => h i (List.mem_append_left _ hi)
    have hNone := Option.isNone_iff_eq_none.mp hDate
    rw [getDVRecordingTime_missing mktime (Or.inl hNone),
      getDVRecordingTime_missing mktime (Or.inl (hSame.symm.trans hNone))]
  · have hDates := hFind 0x62 fun i hi => h i (List.mem_append_left _ hi)
    have hTimes := hFind 0x63 fun i hi => h i (List.mem_append_right _ hi)
    rw [getDVRecordingTime, getDVRecordingTime, hLength, hDates, hTimes]

/-- What a scan reads is in the packs. -/
theorem mem_scanReads {frame : List UInt8} {packId : UInt8} {offsets : List Nat} {i : Nat}
    (h : i ∈ scanReads frame packId offsets) : ∃ offset ∈ offsets, ∃ j < 5, i = offset + j := by
  induction offsets with
  | nil => cases h
  | cons head rest ih =>
      rw [scanReads] at h
      split_ifs at h with hFits hId
      · cases h
      · rcases List.mem_cons.mp h with rfl | hPack
        · exact ⟨i, List.mem_cons_self, 0, by decide, rfl⟩
        · obtain ⟨j, hj, rfl⟩ := List.mem_map.mp hPack
          exact ⟨head, List.mem_cons_self, j, List.mem_range.mp hj, rfl⟩
      · rcases List.mem_cons.mp h with rfl | hRest
        · exact ⟨i, List.mem_cons_self, 0, by decide, rfl⟩
        · obtain ⟨offset, hOffset, hByte⟩ := ih hRest
          exact ⟨offset, List.mem_cons_of_mem _ hOffset, hByte⟩

/-- What is not in a pack does not count. -/
theorem SamePacks.getDVRecordingTime_eq {mktime : Tm → Option Int} {frame other : List UInt8}
    (h : SamePacks frame other) : getDVRecordingTime mktime frame = getDVRecordingTime mktime other := by
  have hScan : ∀ packId, ∀ i ∈ scanReads frame packId (packOffsets (seqCount frame)), frame[i]? = other[i]? := by
    intro packId i hi
    obtain ⟨offset, hOffset, j, hj, rfl⟩ := mem_scanReads hi
    obtain ⟨place, hPlace, rfl⟩ := mem_packOffsets.mp hOffset
    exact h.2 place hPlace j hj
  apply getDVRecordingTime_congr h.1
  intro i hi
  rw [recordingTimeReads] at hi
  split_ifs at hi with hSize hDate
  · cases hi
  · rcases List.mem_append.mp hi with hFirst | hNone
    · exact hScan 0x62 i hFirst
    · cases hNone
  · rcases List.mem_append.mp hi with hFirst | hSecond
    · exact hScan 0x62 i hFirst
    · exact hScan 0x63 i hSecond

/-- The scan stays inside the frame. -/
theorem scanReads_lt {frame : List UInt8} {packId : UInt8} {offsets : List Nat} {i : Nat}
    (h : i ∈ scanReads frame packId offsets) : i < frame.length := by
  induction offsets with
  | nil => cases h
  | cons head rest ih =>
      rw [scanReads] at h
      split_ifs at h with hFits hId
      · cases h
      · rcases List.mem_cons.mp h with rfl | hPack
        · omega
        · obtain ⟨j, hj, rfl⟩ := List.mem_map.mp hPack
          have hLess := List.mem_range.mp hj
          omega
      · rcases List.mem_cons.mp h with rfl | hRest
        · omega
        · exact ih hRest

theorem recordingTimeReads_lt {frame : List UInt8} {i : Nat} (h : i ∈ recordingTimeReads frame) :
    i < frame.length := by
  rw [recordingTimeReads] at h
  split_ifs at h with hSize hDate
  · cases h
  · rcases List.mem_append.mp h with hFirst | hNone
    · exact scanReads_lt hFirst
    · cases hNone
  · rcases List.mem_append.mp h with hFirst | hSecond
    · exact scanReads_lt hFirst
    · exact scanReads_lt hSecond

/-- The recording time of a frame is what `mktime` makes of the date and time in
its first packs, and of nothing else: it depends on the bytes that are read, all
of them inside the frame. -/
theorem getDVRecordingTime_decodes (mktime : Tm → Option Int) :
    (∀ frame, IsDVFrame frame → ∀ t, getDVRecordingTime mktime frame = some t ↔
      ∃ (date time : PackPlace) (recorded : Recorded), date.IsFirst frame 0x62 ∧ time.IsFirst frame 0x63 ∧
        recorded.DecodedFrom frame date time ∧ mktime recorded.tm = some t) ∧
    (∀ frame, IsDVFrame frame → ∀ (date time : PackPlace) (recorded : Recorded),
      date.IsFirst frame 0x62 → time.IsFirst frame 0x63 → recorded.EncodedIn frame date time →
        getDVRecordingTime mktime frame = mktime recorded.tm) ∧
    (∀ frame other, SamePacks frame other →
      getDVRecordingTime mktime frame = getDVRecordingTime mktime other) ∧
    (∀ frame other, frame.length = other.length → (∀ i ∈ recordingTimeReads frame, frame[i]? = other[i]?) →
      getDVRecordingTime mktime frame = getDVRecordingTime mktime other) ∧
    (∀ frame, ∀ i ∈ recordingTimeReads frame, i < frame.length) ∧
    (∀ frame, ¬ IsDVFrame frame → getDVRecordingTime mktime frame = none) ∧
    (∀ recorded : Recorded, 1950 ≤ recorded.fullYear ∧ recorded.fullYear ≤ 2049) := by
  refine ⟨?_, ?_, ?_, ?_, ?_, ?_, ?_⟩
  · intro frame hFrame t
    constructor
    · intro h
      obtain ⟨date, time, recorded, hDate, hTime, hDecoded⟩ :=
        Recorded.exists_of_getDVRecordingTime hFrame h
      rw [hDecoded.getDVRecordingTime hFrame hDate hTime] at h
      exact ⟨date, time, recorded, hDate, hTime, hDecoded, h⟩
    · rintro ⟨date, time, recorded, hDate, hTime, hDecoded, h⟩
      rw [hDecoded.getDVRecordingTime hFrame hDate hTime, h]
  · intro frame hFrame date time recorded hDate hTime hEncoded
    exact hEncoded.decodedFrom.getDVRecordingTime hFrame hDate hTime
  · intro frame other h
    exact h.getDVRecordingTime_eq
  · intro frame other hLength hReads
    exact getDVRecordingTime_congr hLength hReads
  · intro frame i h
    exact recordingTimeReads_lt h
  · intro frame hFrame
    rw [getDVRecordingTime, if_pos]
    by_contra hSize
    exact hFrame ((isDVFrame_iff frame).mpr hSize)
  · intro recorded
    exact recorded.fullYear_range

end WinDV
