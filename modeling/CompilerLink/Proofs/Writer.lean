import CompilerLink.Proofs.Sink

/-! # Writers that take a few bytes at a time

A `Writer` takes a certain number of bytes in all, but it need not take a text in one go: each call
takes some of the bytes that it is handed, and whoever writes calls again with the others. However
many bytes the calls take, all together take what a `Sink` with the same room takes, by
`sink_writeAll`. -/

namespace CompilerLink

/-- `ByteArray.extract` can be asked for bytes beyond the end. -/
theorem extract_min_size {b : ByteArray} {i : Nat} (h : i ≤ b.size) (j : Nat) :
    b.extract i (min j b.size) = b.extract i j := by
  rcases Nat.le_total j b.size with hj | hj
  · rw [Nat.min_eq_left hj]
  · have hbeyond : b.extract b.size j = ByteArray.empty := by
      rw [ByteArray.extract_eq_empty_iff]
      omega
    rw [Nat.min_eq_right hj, ByteArray.extract_eq_extract_append_extract b.size h hj, hbeyond,
      ByteArray.append_empty]

/-- A place to write to in calls. -/
structure Writer where
  /-- How many more bytes are taken. -/
  room : Nat
  /-- The bytes taken so far. -/
  written : ByteArray := ByteArray.empty
  /-- How many bytes the calls to come take at most, besides one. -/
  appetite : Nat → Nat

namespace Writer

/-- The writer as a `Sink`, for which the number of calls does not count. -/
def sink (w : Writer) : Sink := ⟨some w.room, w.written⟩

/-- How many of some bytes the next call takes: at least one, if there are any and room is left. -/
def portion (w : Writer) (bytes : ByteArray) : Nat :=
  min bytes.size (min w.room (w.appetite 0 + 1))

/-- The writer after a call that has taken a `portion`. -/
def takePortion (w : Writer) (bytes : ByteArray) : Writer where
  room := w.room - w.portion bytes
  written := w.written ++ bytes.extract 0 (w.portion bytes)
  appetite call := w.appetite (call + 1)

/-- Call until all bytes are taken. A call fails when there is no room, and that is the end. -/
def writeAll (w : Writer) (bytes : ByteArray) : Writer × Bool :=
  if bytes.size = 0 then (w, true)
  else if w.room = 0 then (w, false)
  else (w.takePortion bytes).writeAll (bytes.extract (w.portion bytes) bytes.size)
termination_by bytes.size
decreasing_by
  rw [ByteArray.size_extract, portion]
  omega

/-- `writeAll` takes the bytes up to the room of the writer, however many calls that needs. -/
theorem writeAll_takes (w : Writer) (bytes : ByteArray) :
    (w.writeAll bytes).1.room = w.room - bytes.size ∧
      (w.writeAll bytes).1.written = w.written ++ bytes.extract 0 w.room ∧
      (w.writeAll bytes).2 = decide (bytes.size ≤ w.room) := by
  induction w, bytes using writeAll.induct with
  | case1 w bytes hnone =>
    have hempty : bytes.extract 0 w.room = ByteArray.empty := by
      rw [ByteArray.extract_eq_empty_iff]
      omega
    rw [writeAll, if_pos hnone, hempty, ByteArray.append_empty, hnone]
    simp
  -- No room is left, so the call fails with nothing taken.
  | case2 w bytes hsome hfull =>
    rw [writeAll, if_neg hsome, if_pos hfull, hfull, ByteArray.extract_same,
      ByteArray.append_empty]
    simp [hsome]
  | case3 w bytes hsome hroom ih =>
    obtain ⟨hleft, htaken, hanswer⟩ := ih
    have hportion : w.portion bytes ≤ w.room ∧ w.portion bytes ≤ bytes.size := by
      rw [portion]
      omega
    have hrest : (bytes.extract (w.portion bytes) bytes.size).size =
        bytes.size - w.portion bytes := by
      rw [ByteArray.size_extract, Nat.min_self]
    have hroom' : (w.takePortion bytes).room = w.room - w.portion bytes := rfl
    rw [writeAll, if_neg hsome, if_neg hroom, hleft, htaken, hanswer, hrest, hroom']
    refine ⟨by omega, ?_, by simp; omega⟩
    -- What this call takes and what the others take stand side by side in the text.
    have hothers : (bytes.extract (w.portion bytes) bytes.size).extract 0
        (w.room - w.portion bytes) = bytes.extract (w.portion bytes) w.room := by
      rw [ByteArray.extract_extract, Nat.add_zero, Nat.add_sub_of_le hportion.1,
        extract_min_size hportion.2]
    rw [hothers, takePortion, ByteArray.append_assoc,
      ← ByteArray.extract_eq_extract_append_extract _ (Nat.zero_le _) hportion.1]

/-- `writeAll` takes what `Sink.write` takes. -/
theorem sink_writeAll (w : Writer) (text : String) :
    ((w.writeAll text.toUTF8).1.sink, (w.writeAll text.toUTF8).2) = w.sink.write text := by
  obtain ⟨hroom, hwritten, hanswer⟩ := w.writeAll_takes text.toUTF8
  rw [sink, hroom, hwritten, hanswer]
  by_cases hsize : text.toUTF8.size ≤ w.room
  · rw [Sink.write_of_fits rfl hsize, extract_of_size_le hsize, decide_eq_true hsize]
    rfl
  · have hfull : w.room - text.toUTF8.size = 0 := by omega
    rw [Sink.write_of_not_fits rfl hsize, decide_eq_false hsize, hfull]
    rfl

end Writer

end CompilerLink
