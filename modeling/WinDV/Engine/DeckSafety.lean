import WinDV.Engine.Alive
import WinDV.Engine.Deck

/-! What the decks may be told, whatever is called and pressed: the tape that is captured from
is not recorded over. -/
namespace WinDV

open Transition

namespace Decks

variable {env : Environment} {ed : EdCodes} {s s' : Decks}

/-- What a deck may be told: the source by the pipeline to play, to pause and to stop, and by
a button as `Command` has it; the output by the pipeline alone, to record and to pause. -/
def Allows (ed : EdCodes) : DeckSide → DeckPut → Prop
  | .source, put =>
      put.mode ≠ .record ∧ put.mode ≠ .recordFreeze ∧ ∀ command mode, put.sender = .button command mode →
        transportMode ed true mode = .recording ∨ transportMode ed true mode = .recordPaused →
        command = .stop ∧ put.mode = .stop
  | .output, put =>
      put = ⟨.record, .pipeline .record⟩ ∨ put = ⟨.recordFreeze, .pipeline .recPause⟩

theorem tells_allowed {pc : CallPc} {side : DeckSide} {control : DeckControl}
    (h : pc.tells = some (side, control)) {mode : EdMode} (hMode : mode ∈ control.puts) :
    Allows ed side ⟨mode, .pipeline control⟩ := by
  have hSource (hPlays : mode = .play ∨ mode = .freeze) : Allows ed .source ⟨mode, .pipeline control⟩ := by
    refine ⟨?_, ?_, fun _ _ => nofun⟩
    · rcases hPlays with rfl | rfl <;> exact nofun
    · rcases hPlays with rfl | rfl <;> exact nofun
  cases pc with
  | destroy pc => cases h
  | build pc =>
      cases pc <;> cases h
      exact Or.inr (by rw [List.mem_singleton.mp hMode])
  | start pc =>
      cases pc <;> cases h
      exact hSource (Or.inl (List.mem_singleton.mp hMode))
  | control pc =>
      cases pc <;> cases h
      · exact hSource (by simpa [DeckControl.puts] using hMode)
      · exact Or.inl (by rw [List.mem_singleton.mp hMode])
      · exact Or.inr (by rw [List.mem_singleton.mp hMode])

/-- What a device may have been told up to its release: `Destroy` tells it to stop at the end. -/
def AllowsUpToRelease (ed : EdCodes) (side : DeckSide) (puts : List DeckPut) : Prop :=
  ∃ before, (∀ put ∈ before, Allows ed side put) ∧
    (puts = before ∨ puts = before ++ [⟨.stop, .pipeline .stop⟩])

/-- No device was told anything else. -/
structure Safe (ed : EdCodes) (s : Decks) : Prop where
  device : ∀ side, ∀ put ∈ (s.device side).puts, Allows ed side put
  released : ∀ side device, (side, device) ∈ s.released → AllowsUpToRelease ed side device.puts

theorem safe_start (options : Options) : (start options).Safe ed where
  device := fun _ _ hPut => absurd hPut List.not_mem_nil
  released := fun _ _ hReleased => absurd hReleased List.not_mem_nil

theorem Safe.setDevice {side : DeckSide} {device : DeckDevice} (h : s.Safe ed)
    (hDevice : ∀ put ∈ device.puts, Allows ed side put) : (s.setDevice side device).Safe ed where
  device := by
    intro other put hPut
    by_cases hSame : other = side
    · subst hSame
      have hNew : (s.setDevice other device).device other = device := if_pos rfl
      rw [hNew] at hPut
      exact hDevice put hPut
    · have hOld : (s.setDevice side device).device other = s.device other := if_neg hSame
      rw [hOld] at hPut
      exact h.device other put hPut
  released := h.released

theorem Safe.follow (h : s.Safe ed) {pc : CallPc} {side : DeckSide} {control : DeckControl}
    (hTells : pc.tells = some (side, control)) : ∀ put ∈ (s.follow side control).puts, Allows ed side put := by
  intro put hPut
  rw [Decks.follow, DeckDevice.control] at hPut
  split_ifs at hPut
  · rcases List.mem_append.mp hPut with hOld | hNew
    · exact h.device side put hOld
    · obtain ⟨mode, hMode, rfl⟩ := List.mem_map.mp hNew
      exact tells_allowed hTells hMode
  · exact h.device side put hPut
  · exact h.device side put hPut

/-- `Destroy` tells a device at most to stop. -/
theorem Safe.stop (h : s.Safe ed) (side : DeckSide) : AllowsUpToRelease ed side (s.follow side .stop).puts := by
  refine ⟨(s.device side).puts, h.device side, ?_⟩
  rw [Decks.follow, DeckDevice.control]
  split_ifs
  · exact Or.inr rfl
  · exact Or.inl rfl
  · exact Or.inl rfl

theorem Safe.release (h : s.Safe ed) : s.release.Safe ed where
  device := fun _ _ hPut => absurd hPut List.not_mem_nil
  released := by
    intro side device hReleased
    rcases List.mem_append.mp hReleased with hOld | hNew
    · exact h.released side device hOld
    · obtain ⟨other, -, hEntry⟩ := List.mem_map.mp hNew
      cases hEntry
      exact h.stop side

theorem Safe.button (h : s.Safe ed) (command : DeckCommand) (mode : Option Int) :
    ∀ put ∈ ((s.device .source).command ed command mode).puts, Allows ed .source put := by
  intro put hPut
  rcases List.mem_append.mp hPut with hOld | hNew
  · exact h.device .source put hOld
  · obtain ⟨put, hMode, rfl⟩ := List.mem_map.mp hNew
    have hAttached : (s.device .source).attached = true := by
      by_contra hNot
      rw [transportCommand, if_neg hNot] at hMode
      exact absurd hMode List.not_mem_nil
    rw [hAttached] at hMode
    obtain ⟨hRecord, hPaused, hStop⟩ := transportCommand_safe hMode
    refine ⟨hRecord, hPaused, fun other reported hSender => ?_⟩
    cases hSender
    exact hStop

theorem Safe.told (h : s.Safe ed) (ans : Answer) (deck : DeckAnswer) (request : Request) (pc : CallPc) :
    (s.told ed ans deck request pc).Safe ed := by
  unfold Decks.told
  split
  · exact h.release
  · split_ifs
    · exact h.setDevice fun _ hPut => absurd hPut List.not_mem_nil
    · exact h
  · split_ifs
    · exact h.setDevice fun _ hPut => absurd hPut List.not_mem_nil
    · exact h
  · split_ifs
    · exact h.setDevice (h.button deck.command deck.mode)
    · exact h
  · split
    · rename_i hTells
      exact h.setDevice (h.follow hTells)
    · exact h

/-- The tape that is captured from is never recorded over, whatever is called and pressed and
with whatever settings: its deck is never told to record or to pause a recording, and by a button
nothing but to stop, with Stop, where it reports that it records. The other deck is told only to
record and to pause until it is released; `Destroy` may tell either to stop then. -/
theorem source_is_never_recorded_over (env : Environment) (ed : EdCodes) (options : Options)
    {log : List (Decks × (Action × DeckAnswer))} (run : Runs (Decks.step env ed) (start options) log s) :
    (∀ side, ∀ put ∈ (s.device side).puts, Allows ed side put) ∧
    ∀ side device, (side, device) ∈ s.released → AllowsUpToRelease ed side device.puts := by
  have hSafe : s.Safe ed := by
    induction run with
    | zero => exact safe_start options
    | @succ log middle finish action prior last ih =>
        obtain ⟨config, -, rfl⟩ := step_iff.mp last
        have hAfter : (middle.afterStep ed action).Safe ed := by
          unfold afterStep
          split
          · exact ih.told _ _ _ _
          · exact ih
        exact ⟨hAfter.device, hAfter.released⟩
  exact ⟨hSafe.device, hSafe.released⟩

/-- Play does nothing to a camcorder that reports a recording, and Stop stops it. -/
theorem source_is_never_recorded_over_camera :
    ∃ s : Decks, (s.device .source).puts = [⟨.stop, .button .stop (some 4302)⟩] ∧
      ∀ put ∈ (s.device .source).puts, put.mode ≠ .record := by
  obtain ⟨log, s, run, hTest⟩ := exec_witness (Decks.step .plain .plain) (start {})
    ((readyToCapture ++ perform .transport 1).map (fun action => (action, { mode := some 4302 })) ++
      (perform .transport 1).map fun action => (action, { mode := some 4302, command := .stop }))
    (fun _ s => (s.device .source).puts == [⟨.stop, .button .stop (some 4302)⟩]) (by decide +kernel)
  refine ⟨s, by simpa using hTest, ?_⟩
  intro put hPut
  exact ((source_is_never_recorded_over .plain .plain {} run).1 .source put hPut).1

end Decks

end WinDV
