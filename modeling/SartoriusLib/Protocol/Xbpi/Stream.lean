import SartoriusLib.Protocol.Xbpi.Client
import SartoriusLib.Transport.Serial

/-!
# Frames on the line

The client reads the length byte of a frame and then as many bytes as it says. So frames that follow one
another need nothing between them, and the chunks in which the port hands them over make no difference.
-/

namespace SartoriusLib.Xbpi

open SartoriusLib Lib SerialTransport

/-- One read sequence of the client: the length byte, the rest and the check of the frame. -/
def readFrame (timeout : Rat) : Py SerialState XbpiFrame := do
  let raw ← readRaw serialTransport timeout
  liftExcept (parseFrame raw)

def readFrames (timeout : Rat) : Nat → Py SerialState (List XbpiFrame)
  | 0 => pure []
  | n + 1 => do
      let frame ← readFrame timeout
      let frames ← readFrames timeout n
      pure (frame :: frames)

variable {s : SerialState} (timeout : Rat)

/-- A frame that is followed by anything is read, and what follows it is left. -/
theorem readRaw_frame {raw rest : Bytes} (hraw : IsFrame raw) (hopen : s.isOpen = true)
    (hq : Quiet (phase s)) (hpending : pending s = raw ++ rest) :
    ∃ s', (readRaw serialTransport timeout).exec s = (.ok raw, s') ∧ Received s s' ∧ pending s' = rest := by
  have hsize := hraw.size
  have hdeclared := hraw.declared
  rw [minFrameSize] at hsize
  cases raw with
  | nil => simp at hsize
  | cons length tail =>
      simp only [List.length_cons, List.getD_cons_zero, Nat.add_right_cancel_iff] at hdeclared
      obtain ⟨s₁, hs₁, hok₁, -⟩ := readExact_quiet 1 timeout hopen hq
      obtain ⟨hread₁, hpending₁⟩ := hok₁ (by simp [hpending])
      rw [hpending] at hread₁ hpending₁
      obtain ⟨s₂, hs₂, hok₂, -⟩ := readExact_quiet length.toNat timeout (hs₁.isOpen.trans hopen) hs₁.quiet
      obtain ⟨hread₂, hpending₂⟩ := hok₂ (by simp [hpending₁, hdeclared])
      rw [hpending₁, List.cons_append, List.drop_succ_cons, List.drop_zero, ← hdeclared] at hread₂ hpending₂
      rw [List.take_left] at hread₂
      rw [List.drop_left] at hpending₂
      refine ⟨s₂, ?_, hs₁.trans hs₂, hpending₂⟩
      have hlength : (serialTransport.readExact 1 timeout).exec s = (.ok [length], s₁) := hread₁
      have htail : (serialTransport.readExact length.toNat timeout).exec s₁ = (.ok tail, s₂) := by
        rw [← hdeclared]
        exact hread₂
      rw [readRaw, Prog.exec_bind_ok hlength]
      exact Prog.exec_bind_ok htail

theorem readFrame_frame {raw rest : Bytes} (hraw : IsFrame raw) (hopen : s.isOpen = true)
    (hq : Quiet (phase s)) (hpending : pending s = raw ++ rest) :
    ∃ s', (readFrame timeout).exec s = (.ok (frameOf raw), s') ∧ Received s s' ∧ pending s' = rest := by
  obtain ⟨s', hread, hs', hrest⟩ := readRaw_frame timeout hraw hopen hq hpending
  refine ⟨s', ?_, hs', hrest⟩
  rw [readFrame, Prog.exec_bind_ok hread, parseFrame_eq_ok_iff.mpr ⟨hraw, rfl⟩, exec_liftExcept_ok]

/-- As many read sequences as there are frames return the frames and leave what follows them. -/
theorem readFrames_pending {raws : List Bytes} {rest : Bytes} (hraws : ∀ raw ∈ raws, IsFrame raw)
    (hopen : s.isOpen = true) (hq : Quiet (phase s)) (hpending : pending s = raws.flatten ++ rest) :
    ∃ s', (readFrames timeout raws.length).exec s = (.ok (raws.map frameOf), s') ∧ pending s' = rest := by
  induction raws generalizing s with
  | nil => exact ⟨s, rfl, by simpa using hpending⟩
  | cons raw raws ih =>
      rw [List.flatten_cons, List.append_assoc] at hpending
      obtain ⟨s₁, hread, hs₁, hpending₁⟩ :=
        readFrame_frame timeout (hraws raw List.mem_cons_self) hopen hq hpending
      obtain ⟨s₂, hreads, hpending₂⟩ := ih (fun raw' hraw' => hraws raw' (List.mem_cons_of_mem _ hraw'))
        (hs₁.isOpen.trans hopen) hs₁.quiet hpending₁
      refine ⟨s₂, ?_, hpending₂⟩
      rw [List.length_cons, readFrames, Prog.exec_bind_ok hread, Prog.exec_bind_ok hreads]
      rfl

/-- Chunks arrive as they are. -/
theorem arrived_chunks (chunks : List Bytes) : arrived (chunks.map .chunk) = chunks.flatten := by
  induction chunks with
  | nil => rfl
  | cons b chunks ih => simp [arrived, ih]

/-- Frames that arrive one after the other, in whatever chunks, are read one after the other. What comes after
them, such as the start of a frame that has not arrived to its end, stays in the buffers, and nothing else
does. -/
theorem readFrames_chunks {raws chunks : List Bytes} {part : Bytes} (hraws : ∀ raw ∈ raws, IsFrame raw)
    (hopen : s.isOpen = true) (hbuffer : s.pushback = []) (hphase : phase s = chunks.map .chunk)
    (hchunks : chunks.flatten = raws.flatten ++ part) :
    ∃ s', (readFrames timeout raws.length).exec s = (.ok (raws.map frameOf), s') ∧ pending s' = part := by
  have hquiet : Quiet (phase s) := by
    rw [hphase]
    intro e he
    obtain ⟨b, -, rfl⟩ := List.mem_map.mp he
    exact .inr ⟨b, rfl⟩
  refine readFrames_pending timeout hraws hopen hquiet ?_
  rw [pending, hbuffer, hphase, arrived_chunks, hchunks, List.nil_append]

/-- Two frames in chunks that end inside of them, and the first two bytes of a third. -/
theorem readFrames_chunks_three :
    ∃ s', (readFrames 1 2).exec
        { settings := { port := "COM3" },
          line := [[.chunk [0x04, 0x41, 0x21], .chunk [0x07, 0x6D, 0x03, 0x41], .chunk [0x02, 0x46, 0x04, 0x41]]] } =
      (.ok [frameOf [0x04, 0x41, 0x21, 0x07, 0x6D], frameOf [0x03, 0x41, 0x02, 0x46]], s') ∧
      pending s' = [0x04, 0x41] := by
  refine @readFrames_chunks _ 1 [assembleFrame 0x21 [0x07], assembleFrame 0x02 []]
    [[0x04, 0x41, 0x21], [0x07, 0x6D, 0x03, 0x41], [0x02, 0x46, 0x04, 0x41]] _ ?_ rfl rfl rfl rfl
  intro raw hraw
  rcases List.mem_pair.mp hraw with rfl | rfl
  · exact assembleFrame_isFrame _ (by decide)
  · exact assembleFrame_isFrame _ (by decide)

end SartoriusLib.Xbpi
